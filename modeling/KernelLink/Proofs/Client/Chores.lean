import KernelLink.Client.Operations
import KernelLink.Proofs.Exchange

namespace KernelLink

/-- What is done to start a client, one thing after the other. -/
inductive Chore where
  | line (kind : ChannelKind)
  | allowStdin
  | pulse
  | kernelInfo
  deriving DecidableEq

namespace Client

def perform (stamp : Stamp) (c : Client) (x : Exchange) : Chore → Except Failure Unit × Client × Exchange
  | .line kind => c.startChannel x kind
  | .allowStdin => (.ok (), { c with allowStdin := true }, x)
  | .pulse => c.startPulse x
  | .kernelInfo => ((c.kernelInfo x stamp).1.map fun _ => (), (c.kernelInfo x stamp).2)

/-- Does what is to be done, up to what fails. -/
def performAll (stamp : Stamp) (c : Client) (x : Exchange) : List Chore → Except Failure Unit × Client × Exchange
  | [] => (.ok (), c, x)
  | chore :: chores =>
    match c.perform stamp x chore with
    | (.error failure, c, x) => (.error failure, c, x)
    | (.ok (), c, x) => performAll stamp c x chores

end Client

/-- Everything that a client can start. -/
def Chore.all : List Chore := [.line .shell, .line .iopub, .line .stdin, .allowStdin, .pulse, .kernelInfo]

namespace Client

theorem performAll_append (stamp : Stamp) (c : Client) (x : Exchange) (first rest : List Chore) :
    c.performAll stamp x (first ++ rest) =
      match c.performAll stamp x first with
      | (.error failure, c, x) => (.error failure, c, x)
      | (.ok (), c, x) => c.performAll stamp x rest := by
  induction first generalizing c x with
  | nil => rfl
  | cons chore first ih =>
    simp only [List.cons_append, performAll]
    rcases c.perform stamp x chore with ⟨_ | _, c', x'⟩
    · rfl
    · exact ih c' x'

theorem performAll_lines (stamp : Stamp) (c : Client) (x : Exchange) (kinds : List ChannelKind) :
    c.performAll stamp x (kinds.map .line) = c.startChannels x kinds := by
  induction kinds generalizing c x with
  | nil => rfl
  | cons kind rest ih =>
    simp only [List.map_cons, performAll, perform, startChannels]
    rcases c.startChannel x kind with ⟨_ | _, c', x'⟩
    · rfl
    · exact ih c' x'

/-- A client is started by the one thing after the other. -/
theorem start_all (stamp : Stamp) (c : Client) (x : Exchange) :
    c.start x .all stamp = ({ c with stopping := false } : Client).performAll stamp x Chore.all := by
  have split : Chore.all = [ChannelKind.shell, .iopub, .stdin].map .line ++ [.allowStdin, .pulse, .kernelInfo] := rfl
  have kinds : StartOptions.all.kinds = [.shell, .iopub, .stdin] := rfl
  rw [split, performAll_append, performAll_lines, start, kinds]
  generalize ({ c with stopping := false } : Client).startChannels x _ = started
  rcases started with ⟨_ | _, c₁, x₁⟩
  · rfl
  simp only [performAll, perform, StartOptions.all, if_true]
  generalize ({ c₁ with allowStdin := true } : Client).startPulse x₁ = pulsed
  rcases pulsed with ⟨_ | _, c₂, x₂⟩
  · rfl
  simp only
  rcases c₂.kernelInfo x₂ stamp with ⟨_ | _, c₃, x₃⟩ <;> rfl

theorem now_create (x : Exchange) (kind : ChannelKind) : (x.create kind).2.now = x.now := by
  unfold Exchange.create
  simp only
  split <;> rfl

/-- What is done to start a client starts no line and no probe that the client does not hold then, and the client
holds on to those that it held. -/
structure Adds (c : Client) (x : Exchange) (c' : Client) (x' : Exchange) : Prop where
  channels : ∀ id ∈ c.channels, id ∈ c'.channels
  lines : ∀ id, (x'.line id).alive = true → (x.line id).alive = true ∨ id ∈ c'.channels
  pulse : ∀ id, c.pulse = some id → c'.pulse = some id
  pulses : ∀ id, (x'.pulse id).alive = true → (x.pulse id).alive = true ∨ c'.pulse = some id
  now : x'.now = x.now

variable {c c' c'' : Client} {x x' x'' : Exchange}

theorem Adds.refl (c : Client) (x : Exchange) : Adds c x c x where
  channels _ held := held
  lines _ running := Or.inl running
  pulse _ held := held
  pulses _ running := Or.inl running
  now := rfl

theorem Adds.trans (one : Adds c x c' x') (two : Adds c' x' c'' x'') : Adds c x c'' x'' where
  channels id held := two.channels id (one.channels id held)
  lines id running := by
    rcases two.lines id running with before | held
    · exact (one.lines id before).imp_right (two.channels id)
    · exact Or.inr held
  pulse id held := two.pulse id (one.pulse id held)
  pulses id running := by
    rcases two.pulses id running with before | held
    · exact (one.pulses id before).imp_right (two.pulse id)
    · exact Or.inr held
  now := two.now.trans one.now

/-- An exchange where the same lines and probes are running adds nothing. -/
theorem adds_of_steady (c : Client) (steady : x.Steady x') (now : x'.now = x.now) : Adds c x c x' where
  channels _ held := held
  lines id running := Or.inl ((steady.lines id).symm.trans running)
  pulse _ held := held
  pulses id running := Or.inl ((steady.pulses id).symm.trans running)
  now := now

theorem adds_lineTo (c : Client) (x : Exchange) (kind : ChannelKind) :
    Adds c x (c.lineTo x kind).2.1 (c.lineTo x kind).2.2 ∧
      ∀ id, (c.lineTo x kind).1 = .ok id → id ∈ (c.lineTo x kind).2.1.channels := by
  unfold lineTo
  cases found : c.channels.find? (·.kind = kind) with
  | some line =>
    refine ⟨.refl c x, fun id same => ?_⟩
    cases same
    exact List.mem_of_find?_eq_some found
  | none =>
    have steady := x.steady_create kind
    have now := now_create x kind
    generalize x.create kind = created at steady now ⊢
    obtain ⟨_ | serial, x'⟩ := created
    · exact ⟨adds_of_steady c steady now, nofun⟩
    · refine ⟨⟨fun id held => List.mem_append_left _ held, fun id running => ?_, fun _ held => held,
        fun id running => ?_, now⟩, fun id same => ?_⟩
      · exact Or.inl ((steady.lines id).symm.trans running)
      · exact Or.inl ((steady.pulses id).symm.trans running)
      · cases same
        exact List.mem_append_right _ (List.mem_singleton_self _)

theorem adds_startChannel (c : Client) (x : Exchange) (kind : ChannelKind) :
    Adds c x (c.startChannel x kind).2.1 (c.startChannel x kind).2.2 := by
  obtain ⟨found, held⟩ := c.adds_lineTo x kind
  unfold startChannel
  generalize c.lineTo x kind = line at found held ⊢
  obtain ⟨_ | id, c', x'⟩ := line
  · exact found
  · simp only at found held ⊢
    split
    · exact found
    · refine found.trans ⟨fun _ held => held, fun other running => ?_, fun _ held => held,
        fun _ running => Or.inl running, rfl⟩
      rcases (x'.alive_startLine id other).mp running with rfl | before
      · exact Or.inr (held other rfl)
      · exact Or.inl before

theorem adds_startPulse (c : Client) (x : Exchange) : Adds c x (c.startPulse x).2.1 (c.startPulse x).2.2 := by
  have started (c : Client) (x : Exchange) {id : Nat} (held : c.pulse = some id) : Adds c x c (x.startPulse id) := by
    refine ⟨fun _ held => held, fun _ running => Or.inl running, fun _ held => held, fun other running => ?_, rfl⟩
    unfold Exchange.startPulse at running
    rw [x.alive_setPulse] at running
    split at running
    · rename_i same
      exact Or.inr (held.trans (congrArg some same.symm))
    · exact Or.inl running
  unfold startPulse
  cases held : c.pulse with
  | some id => exact started c x held
  | none =>
    have steady := x.steady_create .heartbeat
    have now := now_create x .heartbeat
    generalize x.create .heartbeat = created at steady now ⊢
    obtain ⟨_ | id, x'⟩ := created
    · exact adds_of_steady c steady now
    · have opened : Adds c x { c with pulse := some id } x' := by
        refine ⟨fun _ held => held, fun id running => ?_, fun other same => ?_, fun id running => ?_, now⟩
        · exact Or.inl ((steady.lines id).symm.trans running)
        · cases held.symm.trans same
        · exact Or.inl ((steady.pulses id).symm.trans running)
      exact opened.trans (started _ x' rfl)

theorem adds_kernelInfo (c : Client) (x : Exchange) (stamp : Stamp) :
    Adds c x (c.kernelInfo x stamp).2.1 (c.kernelInfo x stamp).2.2 := by
  unfold kernelInfo
  generalize c.session.newMessage stamp "kernel_info_request" .empty = request
  obtain ⟨found, -⟩ := c.adds_lineTo x .shell
  unfold sendOnShell
  generalize c.lineTo x .shell = line at found ⊢
  obtain ⟨_ | id, c', x'⟩ := line
  · exact found
  · have steady := x'.steady_send id request
    have now : (x'.send id request).2.now = x'.now := by
      rcases x'.sent_cases id request with ⟨x'', sent, now, -⟩ | same | ⟨failure, same⟩
      · rw [sent, now]
      · rw [same]
      · rw [same]
    dsimp only at found ⊢
    generalize x'.send id request = sent at steady now ⊢
    obtain ⟨_ | _ | _, x''⟩ := sent <;> exact found.trans (adds_of_steady c' steady now)

theorem adds_perform (stamp : Stamp) (c : Client) (x : Exchange) (chore : Chore) :
    Adds c x (c.perform stamp x chore).2.1 (c.perform stamp x chore).2.2 := by
  cases chore with
  | line kind => exact c.adds_startChannel x kind
  | allowStdin => exact ⟨fun _ held => held, fun _ => Or.inl, fun _ held => held, fun _ => Or.inl, rfl⟩
  | pulse => exact c.adds_startPulse x
  | kernelInfo => exact c.adds_kernelInfo x stamp

/-- Of the lines that a client has stopped none is running. -/
theorem alive_stopLines (c : Client) (x : Exchange) (id : LineId) :
    ((c.stopLines x).2.line id).alive = true ↔ id ∉ c.channels ∧ (x.line id).alive = true := by
  unfold stopLines
  simp only
  induction c.channels generalizing x with
  | nil => simp
  | cons line rest ih =>
    rw [List.foldl_cons, ih, x.alive_stopLine, List.mem_cons, not_or]
    grind

theorem pulses_stopLines (c : Client) (x : Exchange) : (c.stopLines x).2.pulses = x.pulses := by
  unfold stopLines
  simp only
  induction c.channels generalizing x with
  | nil => rfl
  | cons line rest ih => exact ih (x.stopLine line)

theorem alive_stopPulse (c : Client) (x : Exchange) (id : Nat) :
    ((c.stopPulse x).2.pulse id).alive = true ↔ c.pulse ≠ some id ∧ (x.pulse id).alive = true := by
  unfold stopPulse
  cases held : c.pulse with
  | none => simp
  | some probe =>
    simp only [Exchange.stopPulse, x.alive_setPulse]
    split
    · rename_i same
      simp [same]
    · rename_i differs
      simp [Ne.symm differs]

end Client
end KernelLink
