import KernelLink.Exchange.Basic

namespace KernelLink

/-- What is put down under one name leaves what stands under the others. -/
theorem lookup_put_of_ne {α β : Type} [DecidableEq α] (entries : List (α × β)) {id other : α}
    (differs : other ≠ id) (value : β) :
    ((id, value) :: entries.filter (·.1 ≠ id)).lookup other = entries.lookup other := by
  rw [List.lookup_cons, beq_false_of_ne differs]
  induction entries with
  | nil => rfl
  | cons entry entries ih =>
    obtain ⟨there, held⟩ := entry
    rw [List.filter_cons, List.lookup_cons]
    by_cases same : there = id
    · rw [if_neg (by simp [same]), ih, same, beq_false_of_ne differs]
    · rw [if_pos (by simp [same]), List.lookup_cons]
      simp only [ih]

namespace Exchange

theorem line_setLine (x : Exchange) (id : LineId) (l : Line) : (x.setLine id l).line id = l := by
  simp [setLine, line]

theorem line_setLine_of_ne (x : Exchange) {id other : LineId} (differs : other ≠ id) (l : Line) :
    (x.setLine id l).line other = x.line other :=
  congrArg (·.getD .idle) (lookup_put_of_ne x.lines differs l)

theorem line_take_of_ne (x : Exchange) {id other : LineId} (differs : other ≠ id) :
    (x.take id).2.line other = x.line other := by
  unfold take
  simp only
  split
  · rfl
  · exact x.line_setLine_of_ne differs _

theorem alive_setLine (x : Exchange) (id : LineId) (l : Line) (other : LineId) :
    ((x.setLine id l).line other).alive = if other = id then l.alive else (x.line other).alive := by
  by_cases same : other = id
  · rw [if_pos same, same, line_setLine]
  · rw [if_neg same, line_setLine_of_ne x same]

theorem alive_startLine (x : Exchange) (id other : LineId) :
    ((x.startLine id).line other).alive = true ↔ other = id ∨ (x.line other).alive = true := by
  unfold startLine
  rw [alive_setLine]
  by_cases same : other = id <;> simp [same]

theorem alive_stopLine (x : Exchange) (id other : LineId) :
    ((x.stopLine id).line other).alive = true ↔ other ≠ id ∧ (x.line other).alive = true := by
  unfold stopLine
  rw [alive_setLine]
  by_cases same : other = id <;> simp [same]

theorem sent_stopLine (x : Exchange) (id other : LineId) :
    ((x.stopLine id).line other).sent = (x.line other).sent := by
  unfold stopLine
  by_cases same : other = id
  · rw [same, line_setLine]
  · rw [line_setLine_of_ne x same]

theorem alive_setPulse (x : Exchange) (id : Nat) (p : Pulse) (other : Nat) :
    ((x.setPulse id p).pulse other).alive = if other = id then p.alive else (x.pulse other).alive := by
  by_cases same : other = id
  · simp [same, setPulse, pulse]
  · rw [if_neg same]
    exact congrArg (fun held => (held.getD Pulse.idle).alive) (lookup_put_of_ne x.pulses same p)

/-- The same lines and probes are running. Only their client starts and stops them. -/
structure Steady (x x' : Exchange) : Prop where
  lines : ∀ id, (x'.line id).alive = (x.line id).alive
  pulses : ∀ id, (x'.pulse id).alive = (x.pulse id).alive
  turns : x.turns ≤ x'.turns

theorem Steady.refl (x : Exchange) : Steady x x := ⟨fun _ => rfl, fun _ => rfl, Nat.le_refl _⟩

theorem Steady.trans {x x' x'' : Exchange} (one : Steady x x') (two : Steady x' x'') : Steady x x'' :=
  ⟨fun id => (two.lines id).trans (one.lines id), fun id => (two.pulses id).trans (one.pulses id),
    Nat.le_trans one.turns two.turns⟩

theorem steady_create (x : Exchange) (kind : ChannelKind) : Steady x (x.create kind).2 := by
  unfold create
  simp only
  split <;> exact ⟨fun _ => rfl, fun _ => rfl, Nat.le_refl _⟩

/-- Whatever else changes about a line, it goes on running or goes on not running. -/
theorem steady_setLine (x : Exchange) (id : LineId) {l : Line} (same : l.alive = (x.line id).alive) :
    Steady x (x.setLine id l) := by
  refine ⟨fun other => ?_, fun _ => rfl, Nat.le_refl _⟩
  rw [alive_setLine]
  by_cases here : other = id
  · rw [if_pos here, same, here]
  · rw [if_neg here]

/-- A line takes a message, or nothing happens. -/
theorem sent_cases (x : Exchange) (id : LineId) (m : Message) :
    (∃ x', x.send id m = (.ok true, x') ∧ x'.now = x.now ∧ (x'.line id).sent = (x.line id).sent ++ [m] ∧
      ∀ other, other ≠ id → x'.line other = x.line other) ∨
    x.send id m = (.ok false, x) ∨ ∃ failure, x.send id m = (.error failure, x) := by
  unfold send
  simp only
  split
  · exact Or.inr (Or.inl rfl)
  · cases (x.line id).sendFault with
    | some failure => exact Or.inr (Or.inr ⟨failure, rfl⟩)
    | none =>
      refine Or.inl ⟨_, rfl, rfl, ?_, fun other differs => x.line_setLine_of_ne differs _⟩
      rw [line_setLine]

theorem steady_send (x : Exchange) (id : LineId) (m : Message) : Steady x (x.send id m).2 := by
  unfold send
  simp only
  split
  · exact .refl x
  · split
    · exact .refl x
    · exact steady_setLine x id rfl

theorem steady_take (x : Exchange) (id : LineId) : Steady x (x.take id).2 := by
  unfold take
  simp only
  split
  · exact .refl x
  · exact steady_setLine x id rfl

theorem steady_takeTurn (x : Exchange) : Steady x x.takeTurn.2 :=
  ⟨fun _ => rfl, fun _ => rfl, Nat.le_succ _⟩

end Exchange
end KernelLink
