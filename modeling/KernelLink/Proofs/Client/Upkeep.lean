import KernelLink.Proofs.Client.Service
import Mathlib.Data.List.Nodup

namespace KernelLink

namespace Client

/-- The lines that a client holds are those that it held and at most one more, to a socket to which it held
none. -/
def Opens (held held' : List LineId) : Prop :=
  held' = held ∨ ∃ id : LineId, (∀ other ∈ held, other.kind ≠ id.kind) ∧ held' = held ++ [id]

theorem Opens.mem {held held' : List LineId} (opens : Opens held held') {id : LineId} (member : id ∈ held) :
    id ∈ held' := by
  rcases opens with rfl | ⟨fresh, -, rfl⟩
  · exact member
  · exact List.mem_append_left _ member

/-- A line that the client holds to a socket stays the one that it holds there. -/
theorem Opens.find? {held held' : List LineId} (opens : Opens held held') {kind : ChannelKind} {id : LineId}
    (found : held.find? (·.kind = kind) = some id) : held'.find? (·.kind = kind) = some id := by
  rcases opens with rfl | ⟨fresh, -, rfl⟩
  · exact found
  · rw [List.find?_append, found, Option.some_or]

theorem Opens.kinds {held held' : List LineId} (opens : Opens held held')
    (distinct : (held.map (·.kind)).Nodup) : (held'.map (·.kind)).Nodup := by
  rcases opens with rfl | ⟨fresh, new, rfl⟩
  · exact distinct
  · rw [List.map_append, List.nodup_append]
    refine ⟨distinct, List.nodup_singleton _, fun kind member other last same => ?_⟩
    obtain ⟨id, here, rfl⟩ := List.mem_map.mp member
    exact new id here (same.trans (List.mem_singleton.mp last))

theorem lineTo_opens (c : Client) (x : Exchange) (kind : ChannelKind) :
    ∃ held, (c.lineTo x kind).2.1 = { c with channels := held } ∧ Opens c.channels held ∧
      x.Steady (c.lineTo x kind).2.2 ∧
      ∀ id, (c.lineTo x kind).1 = .ok id → held.find? (·.kind = kind) = some id := by
  have steady := x.steady_create kind
  unfold lineTo
  split
  · rename_i id found
    exact ⟨c.channels, rfl, Or.inl rfl, .refl x, fun other same => by cases same; exact found⟩
  · rename_i missing
    have none : ∀ other ∈ c.channels, other.kind ≠ kind := by simpa using missing
    split <;> (rename_i created; rw [created] at steady)
    · exact ⟨c.channels, rfl, Or.inl rfl, steady, fun id same => by cases same⟩
    · refine ⟨_, rfl, Or.inr ⟨_, none, rfl⟩, steady, fun id same => ?_⟩
      cases same
      rw [List.find?_append, missing]
      simp

theorem sendOnShell_opens (c : Client) (x : Exchange) (m : Message) :
    ∃ held, (c.sendOnShell x m).2.1 = { c with channels := held } ∧ Opens c.channels held ∧
      x.Steady (c.sendOnShell x m).2.2 := by
  obtain ⟨held, same, opens, steady, -⟩ := c.lineTo_opens x .shell
  unfold sendOnShell
  split
  · rename_i opened
    rw [opened] at same steady
    exact ⟨held, same, opens, steady⟩
  · rename_i id c' x' opened
    rw [opened] at same steady
    have sent := x'.steady_send id m
    split <;> (rename_i result; rw [result] at sent; exact ⟨held, same, opens, steady.trans sent⟩)

theorem kernelInfo_opens (c : Client) (x : Exchange) (stamp : Stamp) :
    ∃ held, (c.kernelInfo x stamp).2.1 = { c with channels := held } ∧ Opens c.channels held ∧
      x.Steady (c.kernelInfo x stamp).2.2 := by
  have sent := c.sendOnShell_opens x (c.session.newMessage stamp "kernel_info_request" .empty)
  unfold kernelInfo
  simp only
  split <;> (rename_i result; rw [result] at sent; exact sent)

/-- What starting the line to a socket comes to. -/
inductive Starting (c : Client) (x : Exchange) (kind : ChannelKind) :
    Except Failure Unit × Client × Exchange → Prop
  | refused {failure held x'} : Opens c.channels held → x.Steady x' →
      Starting c x kind (.error failure, { c with channels := held }, x')
  | running {line held x'} : Opens c.channels held → x.Steady x' →
      held.find? (·.kind = kind) = some line → (x'.line line).alive = true →
      Starting c x kind (.ok (), { c with channels := held }, x')
  | spawned {line held x'} : Opens c.channels held → x.Steady x' →
      held.find? (·.kind = kind) = some line → (x'.line line).alive = false →
      Starting c x kind (.ok (),
        { c with channels := held, loops := c.loops ++ [⟨x.turns, line, none⟩] },
        (x'.startLine line).takeTurn.2)

theorem startChannel_starting (c : Client) (x : Exchange) (kind : ChannelKind) :
    Starting c x kind (c.startChannel x kind) := by
  obtain ⟨held, same, opens, steady, found⟩ := c.lineTo_opens x kind
  have undisturbed := c.lineTo_undisturbed x kind
  unfold startChannel
  split <;> rename_i opened <;> rw [opened] at same steady found undisturbed
  · cases same
    exact .refused opens steady
  · rename_i id c' x'
    cases same
    split
    · rename_i alive
      exact .running opens steady (found id rfl) alive
    · rename_i dead
      have spawned := Starting.spawned opens steady (found id rfl) (Bool.eq_false_iff.mpr dead)
      rw [← show x'.turns = x.turns from undisturbed.turns] at spawned
      exact spawned

theorem lookAround_of_mayPoll (c : Client) {x : Exchange} {loop : Loop} (may : c.mayPoll x loop = true) :
    c.lookAround x loop = (c.setPoll loop.id (some ⟨x.now + pollTime, x.turns⟩), x.takeTurn.2) := by
  simp only [lookAround, may, if_true]
  rfl

/-- What starting the probe comes to: it is refused, or the only probe of the client is running. -/
theorem startPulse_cases (c : Client) (x : Exchange) :
    (∃ failure x', c.startPulse x = (.error failure, c, x') ∧ x.Steady x') ∨
      ∃ id x', c.startPulse x = (.ok (), { c with pulse := some id }, x'.startPulse id) ∧ x.Steady x' ∧
        ∀ other, c.pulse = some other → other = id := by
  have steady := x.steady_create .heartbeat
  unfold startPulse
  split
  · rename_i id held
    refine Or.inr ⟨id, x, ?_, .refl x, fun other same => Option.some.inj (same.symm.trans held)⟩
    rw [← held]
  · rename_i missing
    split <;> (rename_i created; rw [created] at steady)
    · exact Or.inl ⟨_, _, rfl, steady⟩
    · exact Or.inr ⟨_, _, rfl, steady, fun other same => by rw [missing] at same; cases same⟩

/-- Which loop polls which line. -/
def seats (c : Client) : List (Nat × LineId) := c.loops.map fun loop => (loop.id, loop.line)

theorem seats_setPoll (c : Client) (loop : Nat) (poll : Option Poll) : (c.setPoll loop poll).seats = c.seats := by
  simp only [seats, setPoll, List.map_map]
  refine List.map_congr_left fun l _ => ?_
  rw [Function.comp_apply]
  split <;> rfl

theorem seats_leave (c : Client) (loop : Nat) : (c.leave loop).seats.Sublist c.seats :=
  List.filter_sublist.map _

theorem seats_append (c : Client) (loop : Loop) :
    ({ c with loops := c.loops ++ [loop] } : Client).seats = c.seats ++ [(loop.id, loop.line)] := by
  simp only [seats, List.map_append, List.map_cons, List.map_nil]

theorem loopIds_eq (c : Client) : c.loopIds = c.seats.map (·.1) := by
  simp only [loopIds, seats, List.map_map]
  rfl

theorem lines_eq (c : Client) : c.loops.map (·.line) = c.seats.map (·.2) := by
  simp only [seats, List.map_map]
  rfl

end Client

namespace Errand

/-- Which lines may be running. -/
def lines (c : Client) : Errand → List LineId
  | .stopping left => left
  | .closing _ left => left
  | .quieting _ => []
  | .joining _ => []
  | .stopped => []
  | _ => c.channels

/-- Which probe may be running. -/
def probe (c : Client) : Errand → Option Nat
  | .quieting probe => probe
  | .joining _ => none
  | .stopped => none
  | _ => c.pulse

/-- Whether the client has let go of its probe. -/
def quiet : Errand → Bool
  | .quieting _ => true
  | .joining _ => true
  | .stopped => true
  | _ => false

/-- Which loops may be running. -/
def awaited (c : Client) : Errand → List Nat
  | .joining left => left
  | .stopped => []
  | _ => c.loopIds

theorem halting_of_summoned {e : Errand} (summoned : e.summoned = true) : e.halting = true := by
  cases e <;> first | exact summoned | cases summoned

theorem of_not_halting {e : Errand} (running : e.halting = false) (c : Client) :
    e.lines c = c.channels ∧ e.probe c = c.pulse ∧ e.quiet = false ∧ e.summoned = false ∧
      e.awaited c = c.loopIds := by
  cases e <;> first | exact ⟨rfl, rfl, rfl, rfl, rfl⟩ | cases running

end Errand

namespace Service

/-- What holds of a client at every stage of the calls that start and stop it. -/
structure Kept (s : Service) : Prop where
  flag : s.client.stopping = s.errand.halting
  lines : ∀ id, (s.exchange.line id).alive = true → id ∈ s.errand.lines s.client
  probe : ∀ id, (s.exchange.pulse id).alive = true → s.errand.probe s.client = some id
  quiet : s.errand.quiet = true → s.client.pulse = none
  kinds : (s.client.channels.map (·.kind)).Nodup
  apart : (s.client.seats.map (·.2)).Nodup
  polled : s.errand.halting = false → ∀ seat ∈ s.client.seats, (s.exchange.line seat.2).alive = true
  uncalled : s.errand.summoned = false → ∀ seat ∈ s.client.seats, (s.tasks seat.1).called = false
  /-- Nobody who waits has missed the call to exit. -/
  called : s.errand.summoned = true → ∀ seat ∈ s.client.seats,
    (s.tasks seat.1).round = .waiting → (s.tasks seat.1).called = true
  awaited : ∀ id ∈ s.client.loopIds, id ∈ s.errand.awaited s.client

/-- What a step leaves as it was if it belongs neither to the call that starts the client nor to the one that
stops it. -/
structure Beside (s : Service) (happening : Option Happening) (s' : Service) : Prop where
  errand : s'.errand = s.errand
  stopping : s'.client.stopping = s.client.stopping
  pulse : s'.client.pulse = s.client.pulse
  steady : s.exchange.Steady s'.exchange
  /-- The client may have opened a line, which is not running. -/
  channels : Client.Opens s.client.channels s'.client.channels
  seats : s'.client.seats.Sublist s.client.seats
  stays : (∀ loop, happening ≠ some (.left loop)) → s'.client.seats = s.client.seats
  uncalled : ∀ loop, (s'.tasks loop).called = true → (s.tasks loop).called = true
  /-- No loop begins to wait once the client has been told to stop. -/
  waiting : s.client.stopping = true → ∀ loop, (s'.tasks loop).round = .waiting → s'.tasks loop = s.tasks loop

section Beside

variable {s s' : Service} {happening : Option Happening} {loop : Loop}

/-- Only the loop that takes a step has its task changed. -/
theorem assign_beside (s : Service) (id : Nat) (t : Task) (uncalled : t.called = true → (s.tasks id).called = true)
    (round : s.client.stopping = true → t.round = .waiting → t = s.tasks id) :
    (∀ other, ((s.assign id t).tasks other).called = true → (s.tasks other).called = true) ∧
      (s.client.stopping = true → ∀ other, ((s.assign id t).tasks other).round = .waiting →
        (s.assign id t).tasks other = s.tasks other) := by
  constructor
  · intro other
    rw [tasks_assign]
    split
    · rename_i same
      rw [same]
      exact uncalled
    · exact fun called => called
  · intro stopping other
    rw [tasks_assign]
    split
    · rename_i same
      rw [same]
      exact round stopping
    · exact fun _ => rfl

/-- A loop that ends leaves everything else as it was. -/
theorem beside_leave {x : Exchange} (steady : s.exchange.Steady x) : Beside s (some (.left loop.id))
    { s with client := s.client.leave loop.id, exchange := x } where
  errand := rfl
  stopping := rfl
  pulse := rfl
  steady := steady
  channels := Or.inl rfl
  seats := s.client.seats_leave loop.id
  stays := fun kept => absurd rfl (kept loop.id)
  uncalled := fun _ called => called
  waiting := fun _ _ _ => rfl

/-- Nor does a loop that hands a message to the client change more than that. -/
theorem beside_handle (m : Message) : Beside s (some (.heard loop.line.kind m))
    { s.assign loop.id .fresh with client := s.client.receive loop (.ok m) } := by
  obtain ⟨uncalled, waiting⟩ := assign_beside s loop.id .fresh
    (fun called => by cases called) (fun _ round => by cases round)
  have seats : (s.client.receive loop (.ok m)).seats = s.client.seats :=
    (s.client.handle loop.line.kind m).seats_setPoll loop.id none
  exact ⟨rfl, rfl, rfl, .refl _, Or.inl rfl, seats ▸ .refl _, fun _ => seats, uncalled, waiting⟩

theorem Turn.beside (turn : Turn loop s happening s') : Beside s happening s' := by
  cases turn with
  | enlist member round =>
    obtain ⟨uncalled, waiting⟩ := assign_beside s loop.id ⟨.looking, false⟩
      (fun called => by cases called) (fun _ round => by cases round)
    exact ⟨rfl, rfl, rfl, .refl _, Or.inl rfl, .refl _, fun _ => rfl, uncalled, waiting⟩
  | goOn member round may =>
    have running : s.client.stopping = false := by
      unfold Client.mayPoll at may
      simp only [Bool.and_eq_true, Bool.not_eq_true'] at may
      exact may.1.1
    obtain ⟨uncalled, waiting⟩ := assign_beside s loop.id
      { s.tasks loop.id with round := .waiting } (fun called => called)
      (fun stopping => by rw [running] at stopping; cases stopping)
    have seats := s.client.seats_setPoll loop.id (some ⟨s.exchange.now + pollTime, s.exchange.turns⟩)
    rw [s.client.lookAround_of_mayPoll may]
    exact ⟨rfl, rfl, rfl, s.exchange.steady_takeTurn, Or.inl rfl, seats ▸ .refl _, fun _ => seats, uncalled,
      waiting⟩
  | giveUp member round may => exact beside_leave (.refl _)
  | obey member round called => exact beside_leave (.refl _)
  | @handle m member round => exact beside_handle m

theorem Motion.beside (motion : Motion loop s happening s') : Beside s happening s' := by
  have steady := s.exchange.steady_take loop.line
  cases motion with
  | turn turn => exact turn.beside
  | receipt receipt =>
    cases receipt with
    | @message m x member round taken =>
      rw [taken] at steady
      obtain ⟨uncalled, waiting⟩ := assign_beside s loop.id ⟨.holding m, false⟩
        (fun called => by cases called) (fun _ round => by cases round)
      exact ⟨rfl, rfl, rfl, steady, Or.inl rfl, .refl _, fun _ => rfl, uncalled, waiting⟩
    | failure member round taken =>
      rw [taken] at steady
      exact beside_leave steady
  | expire member round =>
    obtain ⟨uncalled, waiting⟩ := assign_beside s loop.id .fresh
      (fun called => by cases called) (fun _ round => by cases round)
    have seats := s.client.seats_setPoll loop.id none
    exact ⟨rfl, rfl, rfl, .refl _, Or.inl rfl, seats ▸ .refl _, fun _ => seats, uncalled, waiting⟩

/-- A client that opens a line, and a task that begins anew, change nothing else. -/
theorem beside_opens {held : List LineId} {x : Exchange} {id : Nat} {t : Task}
    (opens : Client.Opens s.client.channels held) (steady : s.exchange.Steady x)
    (uncalled : t.called = true → (s.tasks id).called = true) (round : t.round = .waiting → t = s.tasks id) :
    Beside s none { s.assign id t with client := { s.client with channels := held }, exchange := x } := by
  obtain ⟨fewer, waiting⟩ := assign_beside s id t uncalled fun _ => round
  exact ⟨rfl, rfl, rfl, steady, opens, .refl _, fun _ => rfl, fewer, waiting⟩

/-- A call that runs code opens a line at most. -/
theorem asks_opens {t t' : Situation} (asks : Asks t happening t') :
    t'.client = { t.client with channels := t'.client.channels, log := t'.client.log } ∧
      Client.Opens t.client.channels t'.client.channels ∧ t.exchange.Steady t'.exchange ∧
      (∀ loop, happening ≠ some (.left loop)) ∧ ∀ kind m, happening ≠ some (.heard kind m) := by
  cases asks with
  | request stamp code => exact ⟨rfl, Or.inl rfl, .refl _, by simp, by simp⟩
  | @send c x earlier request later =>
    obtain ⟨held, same, opens, steady⟩ := c.sendOnShell_opens x request
    exact ⟨by rw [same], by rw [same]; exact opens, steady, by simp, by simp⟩
  | @settle c x earlier request result later =>
    cases result <;> exact ⟨rfl, Or.inl rfl, .refl _, by simp [Happening.ofResult], by simp [Happening.ofResult]⟩
  | @kernelInfo c x calls stamp =>
    obtain ⟨held, same, opens, steady⟩ := c.kernelInfo_opens x stamp
    exact ⟨by rw [same], by rw [same]; exact opens, steady, by simp, by simp⟩
  | clear => exact ⟨rfl, Or.inl rfl, .refl _, by simp, by simp⟩

theorem Aside.beside (aside : Aside s happening s') : Beside s happening s' := by
  cases aside with
  | @asks happening situation asks =>
    obtain ⟨same, opens, steady, -, -⟩ := asks_opens asks
    have seats : situation.client.seats = s.client.seats := by
      rw [same]
      rfl
    have stopping : situation.client.stopping = s.client.stopping := by rw [same]
    have pulse : situation.client.pulse = s.client.pulse := by rw [same]
    exact ⟨rfl, stopping, pulse, steady, opens, seats ▸ .refl _, fun _ => seats, fun _ called => called,
      fun _ _ _ => rfl⟩
  | elsewhere steady =>
    exact ⟨rfl, rfl, rfl, steady, Or.inl rfl, .refl _, fun _ => rfl, fun _ called => called, fun _ _ _ => rfl⟩

/-- No loop ends because of what goes on beside. -/
theorem Aside.stays (aside : Aside s happening s') (other : Nat) : happening ≠ some (.left other) := by
  cases aside with
  | asks asks => exact (asks_opens asks).2.2.2.1 other
  | elsewhere steady => simp

theorem Kept.beside (kept : Kept s) (beside : Beside s happening s') : Kept s' := by
  have member : ∀ seat ∈ s'.client.seats, seat ∈ s.client.seats := fun seat here => beside.seats.subset here
  refine ⟨?_, ?_, ?_, ?_, ?_, ?_, ?_, ?_, ?_, ?_⟩
  · rw [beside.stopping, beside.errand, kept.flag]
  · intro id alive
    rw [beside.steady.lines] at alive
    have old := kept.lines id alive
    rw [beside.errand]
    cases here : s.errand <;> rw [here] at old <;> first | exact old | exact beside.channels.mem old
  · intro id alive
    rw [beside.steady.pulses] at alive
    have old := kept.probe id alive
    rw [beside.errand]
    cases here : s.errand <;> rw [here] at old <;> first | exact old | exact beside.pulse.trans old
  · rw [beside.errand, beside.pulse]
    exact kept.quiet
  · exact beside.channels.kinds kept.kinds
  · exact kept.apart.sublist (beside.seats.map _)
  · intro running seat here
    rw [beside.errand] at running
    rw [beside.steady.lines]
    exact kept.polled running seat (member seat here)
  · intro unsummoned seat here
    rw [beside.errand] at unsummoned
    refine Bool.eq_false_iff.mpr fun called => ?_
    have old := kept.uncalled unsummoned seat (member seat here)
    rw [beside.uncalled seat.1 called] at old
    cases old
  · intro summoned seat here round
    rw [beside.errand] at summoned
    have stopping : s.client.stopping = true := by
      rw [kept.flag]
      exact Errand.halting_of_summoned summoned
    have unchanged := beside.waiting stopping seat.1 round
    rw [unchanged] at round ⊢
    exact kept.called summoned seat (member seat here) round
  · intro id here
    have old : id ∈ s.client.loopIds := by
      rw [Client.loopIds_eq] at here ⊢
      exact (beside.seats.map _).subset here
    have awaited := kept.awaited id old
    rw [beside.errand]
    cases stage : s.errand <;> rw [stage] at awaited <;> first | exact here | exact awaited

end Beside
/-! ### The calls that start and stop a client -/

section Own

variable {s s' : Service}

/-- What is left to show while the client has not been told to stop. -/
theorem kept_of_running (running : s.errand.halting = false) (flag : s.client.stopping = false)
    (lines : ∀ id, (s.exchange.line id).alive = true → id ∈ s.client.channels)
    (probe : ∀ id, (s.exchange.pulse id).alive = true → s.client.pulse = some id)
    (kinds : (s.client.channels.map (·.kind)).Nodup) (apart : (s.client.seats.map (·.2)).Nodup)
    (polled : ∀ seat ∈ s.client.seats, (s.exchange.line seat.2).alive = true)
    (uncalled : ∀ seat ∈ s.client.seats, (s.tasks seat.1).called = false) : Kept s := by
  obtain ⟨heldLines, heldProbe, unquiet, unsummoned, allAwaited⟩ := Errand.of_not_halting running s.client
  refine ⟨flag.trans running.symm, heldLines ▸ lines, heldProbe ▸ probe, fun quiet => ?_, kinds, apart,
    fun _ => polled, fun _ => uncalled, fun summoned => ?_, fun id member => allAwaited ▸ member⟩
  · rw [unquiet] at quiet
    cases quiet
  · rw [unsummoned] at summoned
    cases summoned

/-- What is left to show once the call to exit has gone out. -/
theorem kept_of_summoned (summoned : s.errand.summoned = true) (flag : s.client.stopping = true)
    (lines : ∀ id, (s.exchange.line id).alive = true → id ∈ s.errand.lines s.client)
    (probe : ∀ id, (s.exchange.pulse id).alive = true → s.errand.probe s.client = some id)
    (quiet : s.errand.quiet = true → s.client.pulse = none)
    (kinds : (s.client.channels.map (·.kind)).Nodup) (apart : (s.client.seats.map (·.2)).Nodup)
    (called : ∀ seat ∈ s.client.seats, (s.tasks seat.1).round = .waiting → (s.tasks seat.1).called = true)
    (awaited : ∀ id ∈ s.client.loopIds, id ∈ s.errand.awaited s.client) : Kept s := by
  have halting := Errand.halting_of_summoned summoned
  refine ⟨flag.trans halting.symm, lines, probe, quiet, kinds, apart, fun running => ?_, fun unsummoned => ?_,
    fun _ => called, awaited⟩
  · rw [halting] at running
    cases running
  · rw [summoned] at unsummoned
    cases unsummoned

namespace Kept

variable (kept : Kept s)

include kept

theorem mem_channels (running : s.errand.halting = false) {id : LineId}
    (alive : (s.exchange.line id).alive = true) : id ∈ s.client.channels := by
  have member := kept.lines id alive
  rwa [(Errand.of_not_halting running s.client).1] at member

theorem pulse_eq (running : s.errand.halting = false) {id : Nat}
    (alive : (s.exchange.pulse id).alive = true) : s.client.pulse = some id := by
  have held := kept.probe id alive
  rwa [(Errand.of_not_halting running s.client).2.1] at held

theorem uncalled_of_running (running : s.errand.halting = false) :
    ∀ seat ∈ s.client.seats, (s.tasks seat.1).called = false :=
  kept.uncalled (Errand.of_not_halting running s.client).2.2.2.1

theorem goOn (running : s.errand.halting = false) {e : Errand} (still : e.halting = false) :
    Kept { s with errand := e } :=
  kept_of_running still (kept.flag.trans running) (fun _ => kept.mem_channels running)
    (fun _ => kept.pulse_eq running) kept.kinds kept.apart (kept.polled running)
    (kept.uncalled_of_running running)

/-- What holds of a client that has been told to stop. -/
theorem halted {e : Errand} (here : s.errand = e) (halting : e.halting = true) : s.client.stopping = true ∧
    (∀ id, (s.exchange.line id).alive = true → id ∈ e.lines s.client) ∧
    (∀ id, (s.exchange.pulse id).alive = true → e.probe s.client = some id) ∧
    ∀ id ∈ s.client.loopIds, id ∈ e.awaited s.client := by
  subst here
  exact ⟨kept.flag.trans halting, kept.lines, kept.probe, kept.awaited⟩

/-- A line that is not running has no loop, so that the loop that is begun for it is the only one. -/
theorem spawn (running : s.errand.halting = false) {line : LineId} (held : line ∈ s.client.channels)
    (dead : (s.exchange.line line).alive = false) {loop : Nat} (fresh : (s.tasks loop).called = false) :
    Kept { s with
      client := { s.client with loops := s.client.loops ++ [⟨loop, line, none⟩] }
      exchange := (s.exchange.startLine line).takeTurn.2 } := by
  have seats := s.client.seats_append ⟨loop, line, none⟩
  have unpolled : line ∉ s.client.seats.map (·.2) := by
    intro member
    obtain ⟨seat, here, rfl⟩ := List.mem_map.mp member
    rw [kept.polled running seat here] at dead
    cases dead
  refine kept_of_running running (kept.flag.trans running) (fun id alive => ?_)
    (fun id => kept.pulse_eq running) kept.kinds ?_ (fun seat member => ?_) (fun seat member => ?_)
  · rcases (s.exchange.alive_startLine line id).mp alive with rfl | old
    · exact held
    · exact kept.mem_channels running old
  · rw [seats, List.map_append, List.nodup_append]
    refine ⟨kept.apart, List.nodup_singleton _, fun one member two last same => unpolled ?_⟩
    have here : two = line := List.mem_singleton.mp last
    rwa [← here, ← same]
  · refine (s.exchange.alive_startLine line seat.2).mpr ?_
    rw [seats, List.mem_append, List.mem_singleton] at member
    rcases member with old | rfl
    · exact Or.inr (kept.polled running seat old)
    · exact Or.inl rfl
  · rw [seats, List.mem_append, List.mem_singleton] at member
    rcases member with old | rfl
    · exact kept.uncalled_of_running running seat old
    · exact fresh

theorem startChannel {options : StartOptions} {kind : ChannelKind} {left : List ChannelKind}
    (here : s.errand = .starting options (kind :: left)) :
    Kept { s.assign s.exchange.turns .fresh with
      client := (s.client.startChannel s.exchange kind).2.1
      exchange := (s.client.startChannel s.exchange kind).2.2
      errand := .after (.starting options left) (s.client.startChannel s.exchange kind).1 } := by
  have running : s.errand.halting = false := by rw [here]; rfl
  have goesOn := s.client.startChannel_starting s.exchange kind
  generalize s.client.startChannel s.exchange kind = begun at goesOn
  -- whatever comes of it, the client may hold one line more
  have opened {held : List LineId} {x : Exchange} (opens : Client.Opens s.client.channels held)
      (steady : s.exchange.Steady x) : Kept { s.assign s.exchange.turns .fresh with
        client := { s.client with channels := held }, exchange := x } :=
    kept.beside (beside_opens opens steady (fun called => by cases called) fun round => by cases round)
  cases goesOn with
  | refused opens steady => exact (opened opens steady).goOn running rfl
  | running opens steady found there => exact (opened opens steady).goOn running rfl
  | @spawned line held x opens steady found dead =>
    have fresh : ((s.assign s.exchange.turns .fresh).tasks s.exchange.turns).called = false := by
      rw [tasks_assign, if_pos rfl]
      rfl
    have spawned := (opened opens steady).spawn running (List.mem_of_find?_eq_some found) dead fresh
    exact spawned.goOn running rfl

theorem startPulse {options : StartOptions} (here : s.errand = .probing options) :
    Kept { s with
      client := (s.client.startPulse s.exchange).2.1
      exchange := (s.client.startPulse s.exchange).2.2
      errand := .after (.greeting options) (s.client.startPulse s.exchange).1 } := by
  have running : s.errand.halting = false := by rw [here]; rfl
  rcases s.client.startPulse_cases s.exchange with ⟨failure, x, begun, steady⟩ | ⟨id, x, begun, steady, same⟩
  · rw [begun]
    exact (kept.beside (Aside.elsewhere steady).beside).goOn running rfl
  · rw [begun]
    refine kept_of_running rfl (kept.flag.trans running) (fun line alive => ?_) (fun other alive => ?_) kept.kinds
      kept.apart (fun seat member => (steady.lines _).trans (kept.polled running seat member))
      (kept.uncalled_of_running running)
    · exact kept.mem_channels running ((steady.lines line).symm.trans alive)
    · -- any other probe that were running would be the one that the client held before
      unfold Exchange.startPulse at alive
      rw [Exchange.alive_setPulse] at alive
      split at alive
      · rename_i new
        rw [new]
      · rename_i differs
        exact absurd (same other (kept.pulse_eq running ((steady.pulses other).symm.trans alive))) differs

theorem setup (setup : Setup s s') : Kept s' := by
  cases setup with
  | startChannel here => exact kept.startChannel here
  | allow here =>
    have running : s.errand.halting = false := by rw [here]; rfl
    exact kept_of_running rfl (kept.flag.trans running) (fun _ => kept.mem_channels running)
      (fun _ => kept.pulse_eq running) kept.kinds kept.apart (kept.polled running)
      (kept.uncalled_of_running running)
  | probe here wanted => exact kept.startPulse here
  | noProbe here unwanted => exact kept.goOn (by rw [here]; rfl) rfl
  | greet stamp here wanted =>
    have running : s.errand.halting = false := by rw [here]; rfl
    exact (kept.beside (Aside.asks (Asks.kernelInfo stamp)).beside).goOn running rfl
  | noGreeting here unwanted => exact kept.goOn (by rw [here]; rfl) rfl

theorem teardown (teardown : Teardown s s') : Kept s' := by
  cases teardown with
  | call here =>
    obtain ⟨flag, lines, probe, awaited⟩ := kept.halted here rfl
    exact kept_of_summoned rfl flag lines probe (by simp [Errand.quiet]) kept.kinds kept.apart
      (fun seat member waits => Task.called_call waits) awaited
  | drain here =>
    obtain ⟨flag, lines, probe, awaited⟩ := kept.halted here rfl
    exact kept_of_summoned rfl flag lines probe (by simp [Errand.quiet]) List.nodup_nil kept.apart
      (kept.called (by rw [here]; rfl)) awaited
  | @stopLine line left here =>
    obtain ⟨flag, lines, probe, awaited⟩ := kept.halted here rfl
    refine kept_of_summoned rfl flag (fun id alive => ?_) probe (by simp [Errand.quiet]) kept.kinds kept.apart
      (kept.called (by rw [here]; rfl)) awaited
    obtain ⟨differs, before⟩ := (s.exchange.alive_stopLine line id).mp alive
    exact (List.mem_cons.mp (lines id before)).resolve_left differs
  | close here free =>
    obtain ⟨flag, lines, probe, awaited⟩ := kept.halted here rfl
    exact kept_of_summoned rfl flag lines probe (by simp [Errand.quiet]) kept.kinds kept.apart
      (kept.called (by rw [here]; rfl)) awaited
  | takePulse here =>
    obtain ⟨flag, lines, probe, awaited⟩ := kept.halted here rfl
    exact kept_of_summoned rfl flag lines probe (fun _ => rfl) kept.kinds kept.apart
      (kept.called (by rw [here]; rfl)) awaited
  | @stopPulse probe here =>
    obtain ⟨flag, lines, only, awaited⟩ := kept.halted here rfl
    refine kept_of_summoned rfl flag lines (fun id alive => ?_) (fun _ => kept.quiet (by rw [here]; rfl)) kept.kinds
      kept.apart (kept.called (by rw [here]; rfl)) awaited
    unfold Exchange.stopPulse at alive
    rw [Exchange.alive_setPulse] at alive
    split at alive
    · cases alive
    · rename_i differs
      exact absurd (Option.some.inj (only id alive)).symm differs
  | gather here =>
    obtain ⟨flag, lines, probe, awaited⟩ := kept.halted here rfl
    exact kept_of_summoned rfl flag lines probe (fun _ => kept.quiet (by rw [here]; rfl)) kept.kinds kept.apart
      (kept.called (by rw [here]; rfl)) awaited
  | @join loop left here gone =>
    obtain ⟨flag, lines, probe, awaited⟩ := kept.halted here rfl
    refine kept_of_summoned rfl flag lines probe (fun _ => kept.quiet (by rw [here]; rfl)) kept.kinds kept.apart
      (kept.called (by rw [here]; rfl)) (fun id member => ?_)
    rcases List.mem_cons.mp (awaited id member) with rfl | later
    · exact absurd member gone
    · exact later
  | finish here =>
    obtain ⟨flag, lines, probe, awaited⟩ := kept.halted here rfl
    exact kept_of_summoned rfl flag lines probe (fun _ => kept.quiet (by rw [here]; rfl)) kept.kinds kept.apart
      (kept.called (by rw [here]; rfl)) awaited

/-- A client at rest has been stopped, and nothing of it is running, or has not been told to stop. -/
theorem atRest_cases (rest : s.errand.atRest = true) :
    (s.errand = .stopped ∧ s.client.seats = []) ∨ s.errand.halting = false := by
  cases here : s.errand <;> rw [here] at rest
  case stopped =>
    refine Or.inl ⟨rfl, List.eq_nil_iff_forall_not_mem.mpr fun seat member => ?_⟩
    obtain ⟨-, -, -, awaited⟩ := kept.halted here rfl
    refine absurd (awaited seat.1 ?_) List.not_mem_nil
    rw [Client.loopIds_eq]
    exact List.mem_map_of_mem member
  all_goals first | exact Or.inr rfl | cases rest

/-- What may be running of a client at rest. -/
theorem rest (rest : s.errand.atRest = true) :
    (∀ id, (s.exchange.line id).alive = true → id ∈ s.client.channels) ∧
      (∀ id, (s.exchange.pulse id).alive = true → s.client.pulse = some id) ∧
      (∀ seat ∈ s.client.seats, (s.exchange.line seat.2).alive = true) ∧
      ∀ seat ∈ s.client.seats, (s.tasks seat.1).called = false := by
  rcases kept.atRest_cases rest with ⟨here, none⟩ | running
  · obtain ⟨-, lines, probe, -⟩ := kept.halted here rfl
    rw [none]
    refine ⟨fun id alive => ?_, fun id alive => ?_, by simp, by simp⟩
    · exact absurd (lines id alive) List.not_mem_nil
    · cases probe id alive
  · exact ⟨fun _ => kept.mem_channels running, fun _ => kept.pulse_eq running, kept.polled running,
      kept.uncalled_of_running running⟩

theorem beginStart (options : StartOptions) (rest : s.errand.atRest = true) : Kept (s.beginStart options) := by
  obtain ⟨lines, probe, polled, uncalled⟩ := kept.rest rest
  exact kept_of_running rfl rfl lines probe kept.kinds kept.apart polled uncalled

theorem beginStop (rest : s.errand.atRest = true) : Kept s.beginStop := by
  obtain ⟨lines, probe, polled, uncalled⟩ := kept.rest rest
  exact ⟨rfl, lines, probe, by simp [Service.beginStop, Errand.quiet], kept.kinds, kept.apart,
    by simp [Service.beginStop, Errand.halting], fun _ => uncalled,
    by simp [Service.beginStop, Errand.summoned], fun _ member => member⟩

theorem step {happening : Option Happening} (step : Step s happening s') : Kept s' := by
  cases step with
  | work work =>
    cases work with
    | loop motion => exact kept.beside motion.beside
    | setup setup => exact kept.setup setup
    | teardown teardown => exact kept.teardown teardown
  | aside aside => exact kept.beside aside.beside
  | beginStart options rest => exact kept.beginStart options rest
  | beginStop rest => exact kept.beginStop rest

end Kept
end Own

theorem Run.kept {session : Session} {owned : Bool} {trace : List Happening} {s : Service}
    (run : Run session owned trace s) : Kept s := by
  induction run with
  | new lines pulses =>
    refine kept_of_running rfl rfl (fun id alive => ?_) (fun id alive => ?_) List.nodup_nil List.nodup_nil
      (fun _ member => absurd member List.not_mem_nil) (fun _ member => absurd member List.not_mem_nil)
    · exact absurd ((lines id).symm.trans alive) Bool.false_ne_true
    · exact absurd ((pulses id).symm.trans alive) Bool.false_ne_true
  | next _ step ih => exact ih.step step

end Service
end KernelLink
