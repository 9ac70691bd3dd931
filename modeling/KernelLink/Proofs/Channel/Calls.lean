import KernelLink.Channel

namespace KernelLink

/-- A message has frames enough for every socket. -/
theorem transmittable_encode (m : Message) (signer : Signer) :
    transmittable (m.encode signer) = .ok (m.encode signer) :=
  if_neg (by simp [Message.encode])

namespace Channel

/-- What a channel does with the frames that have arrived first. -/
theorem tryReceive_cons (c : Channel) (sent : List (List Bytes)) (parts : List Bytes)
    (later : List (List Bytes)) :
    c.tryReceive ⟨sent, parts :: later⟩ =
      if c.alive && c.held then ((Message.decode c.signer parts).map some, ⟨sent, later⟩)
      else (.ok none, ⟨sent, parts :: later⟩) := by
  unfold tryReceive
  cases decoded : Message.decode c.signer parts <;> cases c.alive <;> cases c.held <;>
    simp [decoded, Except.map]

/-- Calls say that nothing has been sent and that nothing has come, and leave the transport alone. -/
structure Silent (c : Channel) (p : Pipe) : Prop where
  send (m : Message) : c.send p m = (.ok false, p)
  receive : c.tryReceive p = (.ok none, p)

/-- Calls get through to the transport: a message is put on it once, unless the channel is one that only
receives, and what has arrived first is taken and decoded, if anything has arrived. -/
structure Serves (kind : ChannelKind) (signer : Signer) (c : Channel) (p : Pipe) : Prop where
  send (m : Message) : kind ≠ .iopub →
    c.send p m = (.ok true, { p with sent := p.sent ++ [m.encode signer] })
  refuse (m : Message) : kind = .iopub → c.send p m = (.error (.protocol (.receiveOnly .iopub)), p)
  wait : p.arrived = [] → c.tryReceive p = (.ok none, p)
  receive (parts : List Bytes) (rest : List (List Bytes)) : p.arrived = parts :: rest →
    c.tryReceive p = ((Message.decode signer parts).map some, { p with arrived := rest })

variable {c : Channel}

theorem silent (p : Pipe) (closed : ¬(c.alive = true ∧ c.held = true)) : c.Silent p := by
  have shut : (c.alive && c.held) = false := by simpa using closed
  refine ⟨fun m => ?_, ?_⟩
  · rw [send, transmittable_encode]
    cases alive : c.alive with
    | false => rfl
    | true => simp [(Bool.and_eq_false_iff.mp shut).resolve_left (by simp [alive])]
  · obtain ⟨sent, arrived⟩ := p
    cases arrived with
    | nil => simp [tryReceive]
    | cons parts later => rw [tryReceive_cons, shut]; rfl

theorem serves (p : Pipe) (alive : c.alive = true) (held : c.held = true) : Serves c.kind c.signer c p where
  send m speaks := by simp [send, transmittable_encode, alive, held, speaks]
  refuse m listens := by simp [send, transmittable_encode, alive, held, listens]
  wait nothing := by simp [tryReceive, nothing]
  receive parts rest first := by
    obtain ⟨sent, arrived⟩ := p
    cases first
    rw [tryReceive_cons, alive, held]
    rfl

theorem serves_or_silent (c : Channel) (p : Pipe) : Serves c.kind c.signer c p ∨ c.Silent p := by
  by_cases opened : c.alive = true ∧ c.held = true
  · exact Or.inl (serves p opened.1 opened.2)
  · exact Or.inr (silent p opened)

/-- A message is put on the transport, or nothing is and its sender is not told so. -/
theorem send_cases (c : Channel) (p : Pipe) (m : Message) :
    (c.kind ≠ .iopub ∧ c.send p m = (.ok true, { p with sent := p.sent ++ [m.encode c.signer] })) ∨
      ((c.send p m).1 ≠ .ok true ∧ (c.send p m).2 = p) := by
  rcases c.serves_or_silent p with served | quiet
  · by_cases speaks : c.kind = .iopub
    · exact Or.inr (by simp [served.refuse m speaks])
    · exact Or.inl ⟨speaks, served.send m speaks⟩
  · exact Or.inr (by simp [quiet.send m])

/-- What has arrived first is taken and decoded, or nothing is. -/
theorem tryReceive_cases (c : Channel) (p : Pipe) :
    c.tryReceive p = (.ok none, p) ∨ ∃ parts rest, p.arrived = parts :: rest ∧
      c.tryReceive p = ((Message.decode c.signer parts).map some, { p with arrived := rest }) := by
  rcases c.serves_or_silent p with served | quiet
  · cases arrived : p.arrived with
    | nil => exact Or.inl (served.wait arrived)
    | cons parts rest => exact Or.inr ⟨parts, rest, rfl, served.receive parts rest arrived⟩
  · exact Or.inl quiet.receive

end Channel
end KernelLink
