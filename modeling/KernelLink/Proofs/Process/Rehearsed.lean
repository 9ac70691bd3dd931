import KernelLink.Proofs.Process.Lifetime
import KernelLink.Proofs.Rehearsal.Children
import Mathlib.Data.List.Induction

namespace KernelLink

namespace KernelProcess

/-- All watches take a step, one after the other. -/
theorem stepWatches_eq (p : KernelProcess) (now : Nat) :
    p.stepWatches now = (List.range p.watches.length).foldl (fun p watch => p.stepWatch now watch) p := by
  have upTo (k : Nat) : (List.range k).foldl (fun p watch => p.stepWatch now watch) p =
      { p with watches := p.watches.mapIdx fun i w => if i < k then w.step p.exited now else w } := by
    induction k with
    | zero =>
      have same : p.watches.mapIdx (fun _ w => w) = p.watches := List.ext_getElem? fun i => by simp
      simp [same]
    | succ k ih =>
      rw [List.range_succ, List.foldl_append, ih]
      simp only [List.foldl_cons, List.foldl_nil, stepWatch, KernelProcess.mk.injEq, true_and]
      refine List.ext_getElem? fun i => ?_
      simp only [List.getElem?_modify, List.getElem?_mapIdx]
      cases p.watches[i]? with
      | none => rfl
      | some w =>
        rcases Nat.lt_trichotomy i k with below | same | above
        · have apart : ¬ k = i := by omega
          simp [below, Nat.lt_succ_of_lt below, apart]
        · simp [same]
        · have apart : ¬ k = i ∧ ¬ i < k ∧ ¬ i < k + 1 := by omega
          simp [apart]
  rw [upTo]
  simp only [stepWatches, KernelProcess.mk.injEq, true_and]
  refine List.ext_getElem? fun i => ?_
  simp only [List.getElem?_map, List.getElem?_mapIdx]
  cases found : p.watches[i]? with
  | none => rfl
  | some w => simp [(List.getElem?_eq_some_iff.mp found).1]

theorem length_watches_stepReaper (p : KernelProcess) : p.stepReaper.1.watches.length = p.watches.length := by
  unfold stepReaper
  split
  case h_7 => exact List.length_map _
  all_goals try split
  all_goals rfl

end KernelProcess

/-- A child as the task and the callers of its process see it. -/
structure Child.Seen (c : Child) (s : Lifetime) : Prop where
  process : s.process = c.process
  ended : s.ended = c.program.status?

/-- The callers stand where they stood, with the watches that they have. -/
structure Lifetime.SameCallers (s t : Lifetime) : Prop where
  callers : t.callers = s.callers
  now : t.now = s.now
  watches : t.process.watches.length = s.process.watches.length

namespace Lifetime

variable {s t u : Lifetime} {i : Nat}

theorem after_turn {c : Caller} (found : s.callers[i]? = some c) :
    (s.act (.turn i)).process = (c.step s.now s.process).2 ∧
      (s.act (.turn i)).callers[i]? = some ⟨c.purpose, (c.step s.now s.process).1⟩ := by
  have next := getElem?_takeTurn found found
  rw [if_pos rfl] at next
  rw [act_turn found]
  exact ⟨rfl, next⟩

/-- A caller that nobody comes between asks for the program to be killed. -/
theorem requestKill_in_turns (found : s.callers[i]? = some (.fresh .requestKill)) :
    ((s.act (.turn i)).act (.turn i)).process = s.process.requestKill ∧
      ((s.act (.turn i)).act (.turn i)).callers[i]? = some ⟨.requestKill, .passedOn⟩ := by
  obtain ⟨marked, found⟩ := after_turn found
  obtain ⟨called, found⟩ := after_turn found
  rw [called, marked]
  exact ⟨rfl, found⟩

/-- A caller that nobody comes between kills the program, and has then enlisted. -/
theorem kill_in_turns {deadline : Nat} (found : s.callers[i]? = some (.fresh (.kill deadline)))
    (alive : s.process.exited = false) : ∃ watch,
    s.process.kill deadline = (some watch, ((List.replicate 4 (.turn i)).foldl act s).process) ∧
      ((List.replicate 4 (.turn i)).foldl act s).callers[i]? = some ⟨.kill deadline, .watching watch⟩ := by
  obtain ⟨looked, found⟩ := after_turn found
  simp only [Caller.step, Caller.fresh, alive] at looked found
  obtain ⟨marked, found⟩ := after_turn found
  obtain ⟨called, found⟩ := after_turn found
  obtain ⟨enlisted, found⟩ := after_turn found
  refine ⟨_, ?_, found⟩
  simp only [List.replicate, List.foldl_cons, List.foldl_nil]
  rw [enlisted, called, marked, looked]
  simp only [KernelProcess.kill, alive]
  rfl

theorem sameCallers_task (s : Lifetime) : s.SameCallers (s.act .task) where
  callers := rfl
  now := rfl
  watches := s.process.length_watches_stepReaper

theorem sameCallers_news (s : Lifetime) : s.SameCallers (s.act .news) := by
  rcases s.act_news_cases with same | ⟨status, -, -, heard⟩
  · rw [same]
    exact ⟨rfl, rfl, rfl⟩
  · rw [heard]
    exact ⟨rfl, rfl, rfl⟩

theorem SameCallers.trans (first : s.SameCallers t) (second : t.SameCallers u) : s.SameCallers u where
  callers := second.callers.trans first.callers
  now := second.now.trans first.now
  watches := second.watches.trans first.watches

/-- What the task does at a moment is a run of events. -/
theorem seen_reap {c : Child} (seen : c.Seen s) (fuel : Nat) : ∃ events : List Event,
    (c.reap fuel).Seen (events.foldl act s) ∧ s.SameCallers (events.foldl act s) := by
  induction fuel generalizing c s with
  | zero => exact ⟨[], seen, rfl, rfl, rfl⟩
  | succ fuel ih =>
    obtain ⟨process, ended⟩ := seen
    have stepped := sameCallers_task s
    -- a program that is killed ends at once, and the task hears of an end at once
    have once : ∃ events : List Event, (c.reap 1).Seen (events.foldl act s) ∧
        s.SameCallers (events.foldl act s) := by
      cases kills : s.process.stepReaper.2 with
      | true =>
        have killed : s.SameCallers ((s.act .task).act (.ends none)) := stepped.trans ⟨rfl, rfl, rfl⟩
        refine ⟨[.task, .ends none, .news], ?_, killed.trans (sameCallers_news _)⟩
        rw [process] at kills
        cases program : c.program <;> constructor <;>
          simp_all [Child.reap, act, Program.kill, Program.status?]
      | false =>
        refine ⟨[.task, .news], ?_, stepped.trans (sameCallers_news _)⟩
        rw [process] at kills
        cases program : c.program <;> constructor <;> simp_all [Child.reap, act, Program.status?]
    obtain ⟨events, seen, first⟩ := once
    obtain ⟨events', seen', second⟩ := ih seen
    refine ⟨events ++ events', ?_, ?_⟩
    · rw [List.foldl_append, Child.reap_succ]
      exact seen'
    · rw [List.foldl_append]
      exact first.trans second

/-- Every watch belongs to a caller. -/
def Attended (s : Lifetime) : Prop :=
  ∀ watch < s.process.watches.length, ∃ (i : Nat) (purpose : Purpose),
    s.callers[i]? = some ⟨purpose, .watching watch⟩

theorem act_watching {purpose : Purpose} {watch : Nat} (found : s.callers[i]? = some ⟨purpose, .watching watch⟩) :
    s.act (.turn i) = { s with process := s.process.stepWatch s.now watch } := by
  obtain ⟨inside, at_⟩ := List.getElem?_eq_some_iff.mp found
  rw [act_turn found]
  simp only [takeTurn, Caller.step, ← at_, List.set_getElem_self]

/-- What the watches do at a moment are turns of their callers. -/
theorem seen_stepWatches {c : Child} (seen : c.Seen s) (attended : s.Attended) : ∃ events : List Event,
    Child.Seen { c with process := c.process.stepWatches s.now } (events.foldl act s) ∧
      s.SameCallers (events.foldl act s) := by
  obtain ⟨process, ended⟩ := seen
  have upTo (watches : List Nat) (known : ∀ watch ∈ watches, watch < s.process.watches.length) :
      ∃ events : List Event, events.foldl act s =
        { s with process := watches.foldl (fun p watch => p.stepWatch s.now watch) s.process } := by
    induction watches using List.reverseRecOn with
    | nil => exact ⟨[], rfl⟩
    | append_singleton watches watch ih =>
      obtain ⟨events, led⟩ := ih fun watch member => known watch (List.mem_append_left _ member)
      obtain ⟨i, purpose, found⟩ := attended watch (known watch (by simp))
      refine ⟨events ++ [.turn i], ?_⟩
      rw [List.foldl_append, List.foldl_append, led]
      exact act_watching found
  obtain ⟨events, led⟩ := upTo (List.range s.process.watches.length) fun watch => List.mem_range.mp
  rw [← KernelProcess.stepWatches_eq] at led
  refine ⟨events, ?_, ?_⟩
  · rw [led, process]
    exact ⟨rfl, ended⟩
  · rw [led]
    exact ⟨rfl, rfl, List.length_map _⟩

theorem SameCallers.attended (same : s.SameCallers t) (attended : s.Attended) : t.Attended := by
  intro watch inside
  rw [same.watches] at inside
  rw [same.callers]
  exact attended watch inside

/-- What a rehearsal lets happen at a moment, to a process whose watches all belong to callers, is a run of
events. -/
theorem seen_settle {c : Child} (seen : c.Seen s) (attended : s.Attended) : ∃ events : List Event,
    (c.settle s.now).Seen (events.foldl act s) ∧ s.SameCallers (events.foldl act s) := by
  obtain ⟨reaping, seen, same⟩ := seen_reap seen 16
  have next {c : Child} {events : List Event} (seen : c.Seen (events.foldl act s))
      (same : s.SameCallers (events.foldl act s)) : ∃ events : List Event,
      Child.Seen { c with process := c.process.stepWatches s.now } (events.foldl act s) ∧
        s.SameCallers (events.foldl act s) := by
    obtain ⟨more, seen, further⟩ := seen_stepWatches seen (same.attended attended)
    rw [← List.foldl_append, same.now] at seen
    rw [← List.foldl_append] at further
    exact ⟨events ++ more, seen, same.trans further⟩
  obtain ⟨first, seen, same⟩ := next seen same
  obtain ⟨second, seen, same⟩ := next seen same
  obtain ⟨third, seen, same⟩ := next seen same
  refine ⟨third, ?_, same⟩
  unfold Child.settle
  generalize c.reap 16 = reaped at seen ⊢
  exact seen

end Lifetime
end KernelLink
