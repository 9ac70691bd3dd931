import KernelLink.Proofs.Rehearsal.Course

namespace KernelLink

/-- A loop that has been marked, or one that has been left alone. -/
theorem mem_setPoll {loops : List Loop} {id : Nat} {poll : Option Poll} {l' : Loop}
    (here : l' ∈ loops.map fun l => if l.id = id then { l with poll := poll } else l) :
    l'.poll = poll ∨ l' ∈ loops := by
  obtain ⟨l, member, rfl⟩ := List.mem_map.mp here
  split
  · exact Or.inl rfl
  · exact Or.inr member

namespace Party

variable {p : Party} {x : Exchange} {l l' : Loop} {poll : Poll}

/-- A loop that takes something does not begin a poll. -/
theorem polls_takeArrival (here : l' ∈ (p.takeArrival x l).1.loops) (polling : l'.poll = some poll) :
    ∃ l ∈ p.loops, l.poll = some poll := by
  have marked {loops : List Loop}
      (here : l' ∈ loops.map fun k => if k.id = l.id then { k with poll := none } else k) : l' ∈ loops := by
    rcases mem_setPoll here with idle | there
    · cases idle.symm.trans polling
    · exact there
  cases p with
  | client c =>
    rcases taken : x.take l.line with ⟨_ | failure | m, x'⟩ <;>
      simp only [takeArrival, Client.takeArrival, taken] at here
    · exact ⟨l', here, polling⟩
    · exact ⟨l', (List.mem_filter.mp here).1, polling⟩
    · exact ⟨l', marked here, polling⟩
  | control c =>
    rcases taken : x.take l.line with ⟨_ | failure | m, x'⟩ <;>
      simp only [takeArrival, Control.takeArrival, taken] at here
    · exact ⟨l', here, polling⟩
    · exact ⟨l', (List.mem_filter.mp here).1, polling⟩
    · exact ⟨l', marked here, polling⟩
  | reader r => cases here

/-- A poll that begins now is over later. -/
theorem polls_lookAround (here : l' ∈ (p.lookAround x l).1.loops) (polling : l'.poll = some poll) :
    (∃ l ∈ p.loops, l.poll = some poll) ∨ x.now < poll.deadline := by
  have begun {turn : Nat} {loops : List Loop} (here : l' ∈ loops.map fun k =>
      if k.id = l.id then { k with poll := some ⟨x.now + pollTime, turn⟩ } else k) :
      (∃ l ∈ loops, l.poll = some poll) ∨ x.now < poll.deadline := by
    rcases mem_setPoll here with new | there
    · rw [← Option.some.inj (new.symm.trans polling)]
      exact Or.inr (Nat.lt_add_of_pos_right (by decide))
    · exact Or.inl ⟨l', there, polling⟩
  cases p with
  | client c =>
    cases may : c.mayPoll x l <;> simp only [lookAround, Client.lookAround, may, if_true] at here
    · exact Or.inl ⟨l', (List.mem_filter.mp here).1, polling⟩
    · exact begun here
  | control c =>
    cases may : c.mayPoll x l <;> simp only [lookAround, Control.lookAround, may, if_true] at here
    · exact Or.inl ⟨l', (List.mem_filter.mp here).1, polling⟩
    · exact begun here
  | reader r =>
    cases running : (x.line l.line).alive <;> simp only [lookAround, running, if_true] at here
    · cases here
    · cases List.mem_singleton.mp here
      cases polling
      exact Or.inr (Nat.lt_add_of_pos_right (by decide))

theorem polls_expire {now : Nat} (here : l' ∈ (p.expire now).loops) (polling : l'.poll = some poll) :
    now < poll.deadline := by
  have kept {loops : List Loop}
      (here : l' ∈ loops.map fun k => { k with poll := k.poll.filter fun poll => now < poll.deadline }) :
      now < poll.deadline := by
    obtain ⟨k, -, rfl⟩ := List.mem_map.mp here
    simpa using (Option.filter_eq_some_iff.mp polling).2
  cases p with
  | client c => exact kept here
  | control c => exact kept here
  | reader r =>
    obtain ⟨k, waiting, rfl⟩ := Option.map_eq_some_iff.mp (Option.mem_toList.mp here)
    simpa using (Option.filter_eq_some_iff.mp polling).2

end Party

namespace Scene

/-- All that happens by itself is still to come. -/
structure Ahead (s : Scene) : Prop where
  polls : ∀ p ∈ s.parties, ∀ l ∈ p.loops, ∀ poll, l.poll = some poll → s.exchange.now < poll.deadline
  arrivals : ∀ a ∈ s.arrivals, s.exchange.now < a.1

variable {s s' : Scene}

theorem Ahead.setParty (ahead : s.Ahead) {i : Nat} {p : Party} {x : Exchange} (now : x.now = s.exchange.now)
    (polls : ∀ l ∈ p.loops, ∀ poll, l.poll = some poll → s.exchange.now < poll.deadline) :
    (s.setParty i p x).Ahead := by
  refine ⟨fun q member => ?_, fun a member => ?_⟩
  · rw [show (s.setParty i p x).exchange.now = _ from now]
    rcases List.mem_or_eq_of_mem_set member with old | rfl
    · exact ahead.polls q old
    · exact polls
  · rw [show (s.setParty i p x).exchange.now = _ from now]
    exact ahead.arrivals a member

/-- The clock stands while something can be done, and what is begun meanwhile comes to its end later. -/
theorem step_now (stepped : s.step = some s') :
    s'.exchange.now = s.exchange.now ∧ (s.Ahead → s'.Ahead) := by
  unfold step at stepped
  split at stepped
  · rename_i i p l served
    cases stepped
    obtain ⟨here, member⟩ := mem_loops (served_mem served).1
    have now : (p.takeArrival s.exchange l).2.now = s.exchange.now := by
      rw [p.exchange_takeArrival, Exchange.now_take]
    refine ⟨now, fun ahead => ahead.setParty now fun l' inside poll polling => ?_⟩
    obtain ⟨old, there, same⟩ := Party.polls_takeArrival inside polling
    exact ahead.polls p (List.mem_of_getElem? here) old there poll same
  · split at stepped
    · rename_i i p l found
      cases stepped
      obtain ⟨here, -⟩ := mem_loops (List.mem_of_find?_eq_some found)
      have now : (p.lookAround s.exchange l).2.now = s.exchange.now := by
        rcases p.exchange_lookAround s.exchange l with same | same <;> rw [same]
        rfl
      refine ⟨now, fun ahead => ahead.setParty now fun l' inside poll polling => ?_⟩
      rcases Party.polls_lookAround inside polling with ⟨old, there, same⟩ | later
      · exact ahead.polls p (List.mem_of_getElem? here) old there poll same
      · exact later
    · cases stepped

theorem settle_now (s : Scene) : s.settle.exchange.now = s.exchange.now ∧ (s.Ahead → s.settle.Ahead) := by
  unfold settle
  simp only
  generalize 2 * _ + _ + 1 = fuel
  induction fuel generalizing s with
  | zero => exact ⟨rfl, id⟩
  | succ fuel ih =>
    unfold settleWith
    split
    · rename_i s' stepped
      obtain ⟨now, ahead⟩ := step_now stepped
      obtain ⟨now', ahead'⟩ := ih s'
      exact ⟨now'.trans now, ahead' ∘ ahead⟩
    · exact ⟨rfl, id⟩

/-- Once the polls that are over have ended and what is due has arrived, all the rest is still to come. -/
theorem ahead_deliver (s : Scene) (t : Nat) :
    (s.moveTo t).deliver.Ahead ∧ (s.moveTo t).deliver.exchange.now = max s.exchange.now t := by
  have still : (s.moveTo t).deliver.exchange.now = max s.exchange.now t := by
    obtain ⟨x, later, delivered, -, now⟩ := (s.moveTo t).deliver_cases
    rw [delivered]
    exact now
  refine ⟨⟨fun p member l inside poll polling => ?_, fun a member => ?_⟩, still⟩
  · rw [still]
    obtain ⟨old, -, rfl⟩ := List.mem_map.mp member
    exact Party.polls_expire inside polling
  · rw [still]
    unfold deliver at member
    simp only [List.partition_eq_filter_filter, List.mem_filter] at member
    have late := member.2
    simp only [Function.comp_apply, Bool.not_eq_true', moveTo] at late
    exact Nat.lt_of_not_le (of_decide_eq_false late)

/-- The next moment is one that is still to come, and not beyond the limit. -/
theorem Ahead.nextMoment (ahead : s.Ahead) {limit t : Nat} (next : s.nextMoment limit = some t) :
    s.exchange.now < t ∧ t ≤ limit := by
  unfold Scene.nextMoment at next
  have member := List.min?_mem next
  obtain ⟨there, bound⟩ := List.mem_filter.mp member
  refine ⟨?_, by simpa using bound⟩
  rcases List.mem_append.mp there with poll | arrival
  · obtain ⟨⟨i, p, l⟩, inside, same⟩ := List.mem_filterMap.mp poll
    obtain ⟨begun, polling, rfl⟩ := Option.map_eq_some_iff.mp same
    obtain ⟨here, loop⟩ := mem_loops inside
    exact ahead.polls p (List.mem_of_getElem? here) l loop begun polling
  · obtain ⟨a, waits, rfl⟩ := List.mem_map.mp arrival
    exact ahead.arrivals a waits

theorem le_of_nextMoment {limit t : Nat} (next : s.nextMoment limit = some t) : t ≤ limit := by
  have bound := (List.mem_filter.mp (List.min?_mem next)).2
  simpa using bound

/-- From moment to moment the clock gets to the limit, if no moment is taken twice. -/
theorem now_runWith {fuel limit : Nat} (ahead : s.Ahead) (early : s.exchange.now ≤ limit)
    (enough : limit < s.exchange.now + fuel) : (runWith fuel limit s).exchange.now = limit := by
  induction fuel generalizing s with
  | zero => omega
  | succ fuel ih =>
    obtain ⟨now, still⟩ := s.settle_now
    rw [runWith_succ]
    split
    · have soon : s.settle.exchange.now ≤ limit := by rw [now]; exact early
      dsimp only
      rw [Nat.max_eq_right soon]
    · rename_i t next
      obtain ⟨later, bound⟩ := (still ahead).nextMoment next
      obtain ⟨ahead', now'⟩ := s.settle.ahead_deliver t
      rw [now] at later
      rw [now, Nat.max_eq_right (Nat.le_of_lt later)] at now'
      generalize (s.settle.moveTo t).deliver = after at ahead' now' ⊢
      exact ih ahead' (now' ▸ bound) (by omega)

/-- As long as it is to pass, so long does time pass. -/
theorem now_pass (s : Scene) (ms : Nat) : (s.pass ms).exchange.now = s.exchange.now + ms := by
  obtain ⟨now, -⟩ := s.settle_now
  unfold pass
  -- what was due before is seen to at once, and then every moment is later than the one before
  rw [(settle_now _).1, runWith_succ]
  split
  · have soon : s.settle.exchange.now ≤ s.exchange.now + ms := by rw [now]; exact Nat.le_add_right ..
    dsimp only
    rw [Nat.max_eq_right soon]
  · rename_i t next
    have bound := le_of_nextMoment next
    obtain ⟨ahead, now'⟩ := s.settle.ahead_deliver t
    rw [now] at now'
    generalize (s.settle.moveTo t).deliver = after at ahead now' ⊢
    exact now_runWith ahead (by omega) (by omega)

end Scene

namespace Premises

theorem now_settle (p : Premises) : p.settle.now = p.now := (Scene.settle_now _).1

theorem now_pass (ms : Nat) (p : Premises) : (pass ms p).now = p.now + ms := by
  unfold pass
  induction ms with
  | zero => rfl
  | succ ms ih =>
    rw [Nat.repeat, now_settle]
    generalize Nat.repeat _ ms p = q at ih ⊢
    unfold now at ih ⊢
    rw [q.scene.now_pass 1, ih, Nat.add_assoc]

end Premises
end KernelLink
