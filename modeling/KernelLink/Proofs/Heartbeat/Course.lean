import KernelLink.Heartbeat
import Mathlib.Data.List.Induction

namespace KernelLink

/-- When the time of the ping is over that a monitor waits for the answer to. -/
def Monitor.deadline? : Monitor → Option Nat
  | .looking deadline => some deadline
  | .listening deadline _ => some deadline
  | .backingOff deadline _ => some deadline
  | _ => none

namespace Heartbeat

/-- What can happen to a heartbeat. A stop is taken apart: the heartbeat is marked as stopped, the
monitor is called, and the socket is released. -/
inductive Event where
  | start
  | stop
  | call
  | release
  | turn (now : Nat)
  | reply (now : Nat) (frames : List Bytes)
  | fault (now : Nat)
  deriving DecidableEq, Repr

/-- Whether the socket refuses a ping makes no difference: the monitor waits for an answer anyway. -/
def react (h : Heartbeat) : Event → Heartbeat
  | .start => h.start
  | .stop => h.lower
  | .call => h.call
  | .release => h.release
  | .turn now => (h.stepMonitor now).1
  | .reply _ frames => (h.hear frames).1
  | .fault now => h.hearFault now

/-- Whether it is the reply that a ping asks for: the one frame of the ping itself. -/
def Event.answers : Event → Bool
  | .reply _ frames => frames = [pingFrame]
  | _ => false

def after (timing : HeartbeatTiming) (events : List Event) : Heartbeat :=
  events.foldl react (connected timing)

theorem after_snoc (timing : HeartbeatTiming) (events : List Event) (event : Event) :
    after timing (events ++ [event]) = (after timing events).react event := by
  rw [after, List.foldl_append]
  rfl

/-- What comes to a heartbeat by itself as the time goes on. A wait of limited length takes what
comes up to its end. -/
inductive Occurs (h : Heartbeat) (now : Nat) : Event → Nat → Prop
  | turn {later : Nat} : now ≤ later → Occurs h now (.turn later) later
  | reply {later deadline since : Nat} {frames : List Bytes} :
      h.monitor = some (.listening deadline since) → now ≤ later → later ≤ deadline →
      Occurs h now (.reply later frames) later
  | fault {later deadline since : Nat} :
      h.monitor = some (.listening deadline since) → now ≤ later → later ≤ deadline →
      Occurs h now (.fault later) later

theorem Occurs.not_owner {h : Heartbeat} {event : Event} {now later : Nat}
    (occurs : Occurs h now event later) : event ≠ .start ∧ event ≠ .stop ∧ event ≠ .release := by
  cases occurs <;> exact ⟨nofun, nofun, nofun⟩

/-- What one event makes of a heartbeat. -/
inductive Effect (h : Heartbeat) : Event → Heartbeat → Prop
  | started : h.alive = false →
      Effect h .start { h with alive := true, beating := true, monitor := some .pinging }
  | lowered : Effect h .stop h.lower
  | released : Effect h .release h.release
  | still {event : Event} : event.answers = false → Effect h event h
  | pinged {now : Nat} : h.monitor = some .pinging → h.held = true →
      Effect h (.turn now) (h.withMonitor (some (.looking (now + h.timing.timeToDead))))
  /-- The monitor waits on for the answer to the same ping. -/
  | waitsOn {event : Event} {monitor next : Monitor} {deadline : Nat} :
      h.monitor = some monitor → monitor.deadline? = some deadline →
      next.deadline? = some deadline →
      (∀ resume, next = .backingOff deadline resume → resume ≤ deadline + errorPause) →
      event.answers = false → Effect h event (h.withMonitor (some next))
  | answered {now deadline since : Nat} {frames : List Bytes} :
      h.monitor = some (.listening deadline since) → frames = [pingFrame] →
      Effect h (.reply now frames) (h.withMonitor (some .answered))
  /-- The monitor goes on between two pings. -/
  | goesOn {now : Nat} {monitor next : Monitor} : h.monitor = some monitor →
      monitor.deadline? = none → next.deadline? = none →
      Effect h (.turn now) (h.withMonitor (some next))
  | missed {now deadline : Nat} {monitor : Monitor} : h.monitor = some monitor →
      monitor.deadline? = some deadline → deadline ≤ now → Effect h (.turn now) h.miss
  | ended {event : Event} {monitor : Monitor} : h.monitor = some monitor →
      event = .call ∨ h.alive = false ∨ monitor = .pinging ∧ h.held = false →
      Effect h event (h.withMonitor none)

theorem turn_effect (h : Heartbeat) (now : Nat) : Effect h (.turn now) (h.stepMonitor now).1 := by
  unfold stepMonitor
  split
  next => exact .still rfl
  next here =>
    split
    next held => exact .pinged here held
    next gone => exact .ended here (.inr (.inr ⟨rfl, Bool.eq_false_iff.mpr gone⟩))
  next deadline here =>
    split
    next expired => exact .missed here rfl expired
    next =>
      split
      next => exact .waitsOn here rfl rfl (fun _ same => nomatch same) rfl
      next down => exact .ended here (.inr (.inl (Bool.eq_false_iff.mpr down)))
  next deadline since here =>
    split
    next expired => exact .missed here rfl expired
    next => exact .still rfl
  next deadline resume here =>
    split
    next => exact .waitsOn here rfl rfl (fun _ same => nomatch same) rfl
    next => exact .still rfl
  next here =>
    split
    next => exact .goesOn here rfl rfl
    next down => exact .ended here (.inr (.inl (Bool.eq_false_iff.mpr down)))
  next resume here =>
    split
    next => exact .goesOn here rfl rfl
    next => exact .still rfl

theorem start_effect (h : Heartbeat) : Effect h .start h.start := by
  unfold start
  split
  next => exact .still rfl
  next down => exact .started (Bool.eq_false_iff.mpr down)

theorem call_effect (h : Heartbeat) : Effect h .call h.call := by
  obtain ⟨timing, alive, beating, held, monitor⟩ := h
  cases monitor with
  | none => exact .still rfl
  | some monitor =>
    cases monitor with
    | listening deadline since => exact .ended rfl (.inl rfl)
    | resting resume => exact .ended rfl (.inl rfl)
    | pinging => exact .still rfl
    | looking deadline => exact .still rfl
    | backingOff deadline resume => exact .still rfl
    | answered => exact .still rfl

theorem Occurs.effect {h : Heartbeat} {event : Event} {now later : Nat}
    (occurs : Occurs h now event later) : Effect h event (h.react event) := by
  cases occurs with
  | turn ahead => exact turn_effect h later
  | @reply _ deadline since frames here ahead inTime =>
    simp only [react, hear, here]
    split
    next pong => exact .answered here (of_decide_eq_true pong)
    next junk =>
      exact .waitsOn here rfl rfl (fun _ same => nomatch same) (Bool.eq_false_iff.mpr junk)
  | @fault _ deadline since here ahead inTime =>
    simp only [react, hearFault, here]
    refine .waitsOn here rfl rfl (fun resume same => ?_) rfl
    have within := Nat.min_le_left errorPause (deadline - since)
    cases same
    omega

namespace Effect

variable {h next : Heartbeat} {event : Event}

theorem timing (effect : Effect h event next) : next.timing = h.timing := by
  cases effect <;> rfl

theorem alive (effect : Effect h event next) (unstarted : event ≠ .start) (unstopped : event ≠ .stop) :
    next.alive = h.alive := by
  cases effect with
  | started down => exact absurd rfl unstarted
  | lowered => exact absurd rfl unstopped
  | _ => rfl

theorem held (effect : Effect h event next) (unreleased : event ≠ .release) : next.held = h.held := by
  cases effect with
  | released => exact absurd rfl unreleased
  | _ => rfl

theorem monitor_eq_none (effect : Effect h event next) (unstarted : event ≠ .start)
    (idle : h.monitor = none) : next.monitor = none := by
  cases effect with
  | started down => exact absurd rfl unstarted
  | lowered => exact idle
  | released => exact idle
  | still => exact idle
  | pinged here => exact absurd (idle.symm.trans here) nofun
  | waitsOn here => exact absurd (idle.symm.trans here) nofun
  | answered here => exact absurd (idle.symm.trans here) nofun
  | goesOn here => exact absurd (idle.symm.trans here) nofun
  | missed here => exact absurd (idle.symm.trans here) nofun
  | ended => rfl

/-- The one way in which a heartbeat stops beating. -/
theorem beating (effect : Effect h event next) (unstarted : event ≠ .start) :
    next.beating = h.beating ∨ next.beating = false ∧ next.monitor = none ∧
      ∃ now monitor deadline, event = .turn now ∧ h.monitor = some monitor ∧
        monitor.deadline? = some deadline ∧ deadline ≤ now := by
  cases effect with
  | started down => exact absurd rfl unstarted
  | missed here wait expired => exact Or.inr ⟨rfl, rfl, _, _, _, rfl, here, wait, expired⟩
  | _ => exact Or.inl rfl

/-- A wait for an answer goes on until the answer comes or the monitor ends. -/
theorem wait (effect : Effect h event next) {monitor : Monitor} {deadline : Nat}
    (unanswered : event.answers = false) (kept : event = .start → h.alive = true)
    (here : h.monitor = some monitor) (waits : monitor.deadline? = some deadline) :
    next.monitor = none ∨
      ∃ later, next.monitor = some later ∧ later.deadline? = some deadline := by
  cases effect with
  | started down => exact absurd ((kept rfl).symm.trans down) nofun
  | lowered => exact Or.inr ⟨monitor, here, waits⟩
  | released => exact Or.inr ⟨monitor, here, waits⟩
  | still => exact Or.inr ⟨monitor, here, waits⟩
  | pinged resting =>
    cases Option.some.inj (here.symm.trans resting)
    exact absurd waits nofun
  | @waitsOn _ _ later _ same before after =>
    cases Option.some.inj (here.symm.trans same)
    cases Option.some.inj (waits.symm.trans before)
    exact Or.inr ⟨later, rfl, after⟩
  | answered listening pong => exact absurd pong (of_decide_eq_false unanswered)
  | goesOn same before =>
    cases Option.some.inj (here.symm.trans same)
    exact absurd (waits.symm.trans before) nofun
  | missed => exact Or.inl rfl
  | ended => exact Or.inl rfl

/-- A monitor waits for an answer because it did before, or because it has just sent a ping. -/
theorem waiting (effect : Effect h event next) {monitor : Monitor} {deadline : Nat}
    (here : next.monitor = some monitor) (waits : monitor.deadline? = some deadline) :
    (event.answers = false ∧
      ∃ earlier, h.monitor = some earlier ∧ earlier.deadline? = some deadline) ∨
    ∃ now, event = .turn now ∧ h.monitor = some .pinging ∧ h.held = true ∧
      deadline = now + h.timing.timeToDead := by
  cases effect with
  | started down =>
    cases here
    exact absurd waits nofun
  | lowered => exact Or.inl ⟨rfl, monitor, here, waits⟩
  | released => exact Or.inl ⟨rfl, monitor, here, waits⟩
  | still junk => exact Or.inl ⟨junk, monitor, here, waits⟩
  | @pinged now resting held =>
    cases here
    exact Or.inr ⟨now, rfl, resting, held, (Option.some.inj waits).symm⟩
  | @waitsOn _ earlier _ _ same before after patience junk =>
    cases here
    cases Option.some.inj (waits.symm.trans after)
    exact Or.inl ⟨junk, earlier, same, before⟩
  | answered =>
    cases here
    exact absurd waits nofun
  | goesOn same before after =>
    cases here
    exact absurd (waits.symm.trans after) nofun
  | missed => exact absurd here nofun
  | ended => exact absurd here nofun

/-- A wait for an answer ends when its time is over, or with a stop. -/
theorem ends (effect : Effect h event next) {monitor : Monitor} {deadline : Nat}
    (here : h.monitor = some monitor) (waits : monitor.deadline? = some deadline)
    (ended : next.monitor = none) :
    (∃ now, event = .turn now ∧ deadline ≤ now) ∨ event = .call ∨ h.alive = false := by
  cases effect with
  | started => exact nomatch ended
  | lowered => exact absurd (here.symm.trans ended) nofun
  | released => exact absurd (here.symm.trans ended) nofun
  | still => exact absurd (here.symm.trans ended) nofun
  | pinged => exact nomatch ended
  | waitsOn => exact nomatch ended
  | answered => exact nomatch ended
  | goesOn => exact nomatch ended
  | @missed now _ _ same before expired =>
    cases Option.some.inj (here.symm.trans same)
    cases Option.some.inj (waits.symm.trans before)
    exact Or.inl ⟨now, rfl, expired⟩
  | ended same reason =>
    cases Option.some.inj (here.symm.trans same)
    rcases reason with called | down | ⟨rfl, -⟩
    · exact Or.inr (Or.inl called)
    · exact Or.inr (Or.inr down)
    · exact nomatch waits

/-- A heartbeat that has its socket and is alive loses its monitor by a call or a missed ping only. -/
theorem keeps_monitor (effect : Effect h event next) (alive : h.alive = true) (held : h.held = true)
    (uncalled : event ≠ .call) (busy : h.monitor ≠ none) (beats : next.beating = true) :
    next.monitor ≠ none := by
  cases effect with
  | lowered => exact busy
  | released => exact busy
  | still => exact busy
  | missed => exact nomatch beats
  | ended here reason =>
    rcases reason with called | down | ⟨-, gone⟩
    · exact absurd called uncalled
    · exact absurd (alive.symm.trans down) nofun
    · exact absurd (held.symm.trans gone) nofun
  | _ => exact nofun

theorem patience (effect : Effect h event next) {deadline resume : Nat}
    (bound : ∀ {deadline resume : Nat}, h.monitor = some (.backingOff deadline resume) →
      resume ≤ deadline + errorPause)
    (here : next.monitor = some (.backingOff deadline resume)) :
    resume ≤ deadline + errorPause := by
  cases effect with
  | started => exact absurd here nofun
  | lowered => exact bound here
  | released => exact bound here
  | still => exact bound here
  | pinged => exact absurd here nofun
  | waitsOn same before after short =>
    cases here
    cases after
    exact short resume rfl
  | answered => exact absurd here nofun
  | goesOn same before after =>
    cases here
    exact absurd after nofun
  | missed => exact absurd here nofun
  | ended => exact absurd here nofun

end Effect

theorem stepMonitor_sends_iff (h : Heartbeat) (now : Nat) :
    (h.stepMonitor now).2 = true ↔ h.monitor = some .pinging ∧ h.held = true := by
  unfold stepMonitor
  split
  next idle => simp [idle]
  next here => split <;> simp_all
  next deadline here => split <;> [skip; split] <;> simp [here]
  next deadline since here => split <;> simp [here]
  next deadline resume here => split <;> simp [here]
  next here => split <;> simp [here]
  next resume here => split <;> simp [here]

/-- What can come next in a run that has no start after a stop of a heartbeat that was started. -/
inductive Next (timing : HeartbeatTiming) (events : List Event) (now : Nat) : Event → Nat → Prop
  | start : (after timing events).alive = true ∨ .start ∉ events → Next timing events now .start now
  | stop : Next timing events now .stop now
  | call : .stop ∈ events → Next timing events now .call now
  /-- The socket is released when the monitor does not wait for an answer. -/
  | release : .stop ∈ events →
      (∀ monitor, (after timing events).monitor = some monitor → monitor.deadline? = none) →
      Next timing events now .release now
  | occurs {event : Event} {later : Nat} : Occurs (after timing events) now event later →
      Next timing events now event later

/-- A run of a heartbeat, and the time up to which it has been followed. -/
inductive Run (timing : HeartbeatTiming) : List Event → Nat → Prop
  | connected (now : Nat) : Run timing [] now
  | next {events : List Event} {event : Event} {now later : Nat} : Run timing events now →
      Next timing events now event later → Run timing (events ++ [event]) later

/-- It has been started, and not stopped since then. -/
def Up (events : List Event) : Prop :=
  ∃ before since, events = before ++ .start :: since ∧ .start ∉ before ∧ .stop ∉ since

theorem snoc_eq_append_cons {α : Type} {list before since : List α} {last element : α} :
    list ++ [last] = before ++ element :: since ↔
      (since = [] ∧ before = list ∧ element = last) ∨
      ∃ earlier, since = earlier ++ [last] ∧ list = before ++ element :: earlier := by
  rcases List.eq_nil_or_concat since with rfl | ⟨earlier, final, rfl⟩
  · rw [List.append_singleton_inj]
    constructor
    · rintro ⟨rfl, rfl⟩
      exact Or.inl ⟨rfl, rfl, rfl⟩
    · rintro (⟨-, rfl, rfl⟩ | ⟨rest, empty, -⟩)
      · exact ⟨rfl, rfl⟩
      · exact absurd empty (by simp)
  · rw [List.concat_eq_append, ← List.cons_append, ← List.append_assoc, List.append_singleton_inj]
    constructor
    · rintro ⟨same, rfl⟩
      exact Or.inr ⟨earlier, rfl, same⟩
    · rintro (⟨empty, -⟩ | ⟨rest, same, list_eq⟩)
      · exact absurd empty (by simp)
      · obtain ⟨rfl, rfl⟩ := List.append_singleton_inj.mp same
        exact ⟨list_eq, rfl⟩

variable {timing : HeartbeatTiming} {events : List Event} {event : Event} {now later : Nat}

theorem up_snoc : Up (events ++ [event]) ↔
    (event = .start ∧ .start ∉ events) ∨ Up events ∧ event ≠ .stop := by
  simp only [Up, snoc_eq_append_cons]
  constructor
  · rintro ⟨before, since, ⟨rfl, rfl, rfl⟩ | ⟨earlier, rfl, rfl⟩, first, unstopped⟩
    · exact Or.inl ⟨rfl, first⟩
    · rw [List.mem_append, not_or, List.mem_singleton] at unstopped
      exact Or.inr ⟨⟨before, earlier, rfl, first, unstopped.1⟩, fun same => unstopped.2 same.symm⟩
  · rintro (⟨rfl, first⟩ | ⟨⟨before, earlier, rfl, first, unstopped⟩, other⟩)
    · exact ⟨events, [], Or.inl ⟨rfl, rfl, rfl⟩, first, List.not_mem_nil⟩
    · refine ⟨before, earlier ++ [event], Or.inr ⟨earlier, rfl, rfl⟩, first, ?_⟩
      rw [List.mem_append, not_or, List.mem_singleton]
      exact ⟨unstopped, fun same => other same.symm⟩

theorem Next.effect (next : Next timing events now event later) :
    Effect (after timing events) event (after timing (events ++ [event])) := by
  rw [after_snoc]
  cases next with
  | start => exact start_effect _
  | stop => exact .lowered
  | call => exact call_effect _
  | release => exact .released
  | occurs occurs => exact occurs.effect

theorem start_of_alive {h : Heartbeat} (alive : h.alive = true) : h.start = h := by
  rw [start, if_pos alive]

/-- A start in a run that has had one before finds the heartbeat alive. -/
theorem Next.alive_of_start (next : Next timing events now .start later) (started : .start ∈ events) :
    (after timing events).alive = true := by
  cases next with
  | start first => exact first.resolve_right (absurd started)
  | occurs occurs => exact nomatch occurs

/-- Once a heartbeat has been started, no other monitor takes the place of one that has ended. -/
theorem Next.stays_idle (next : Next timing events now event later) (started : .start ∈ events)
    (idle : (after timing events).monitor = none) :
    (after timing (events ++ [event])).monitor = none := by
  by_cases starts : event = .start
  · subst starts
    rw [after_snoc, react, start_of_alive (next.alive_of_start started)]
    exact idle
  · exact next.effect.monitor_eq_none starts idle

theorem after_start : (after timing (events ++ [.start])).alive = true := by
  rw [after_snoc, react, start]
  split
  next alive => exact alive
  next => rfl

namespace Run

theorem timing_eq (run : Run timing events now) : (after timing events).timing = timing := by
  induction run with
  | connected now => rfl
  | next run next ih => exact next.effect.timing.trans ih

theorem last (run : Run timing (events ++ [event]) now) :
    ∃ earlier, Run timing events earlier ∧ Next timing events earlier event now := by
  generalize whole : events ++ [event] = list at run
  cases run with
  | connected => exact absurd whole (by simp)
  | next run next =>
    obtain ⟨rfl, rfl⟩ := List.append_singleton_inj.mp whole
    exact ⟨_, run, next⟩

theorem before {more : List Event} (run : Run timing (events ++ more) now) :
    ∃ earlier, Run timing events earlier := by
  induction more using List.reverseRecOn generalizing now with
  | nil => exact ⟨now, List.append_nil events ▸ run⟩
  | append_singleton more event ih =>
    rw [← List.append_assoc] at run
    obtain ⟨earlier, first, -⟩ := run.last
    exact ih first

theorem unstarted (run : Run timing events now) (never : .start ∉ events) :
    (after timing events).alive = false ∧ (after timing events).beating = false ∧
      (after timing events).monitor = none := by
  induction run with
  | connected now => exact ⟨rfl, rfl, rfl⟩
  | @next events event now later run next ih =>
    rw [List.mem_append, not_or, List.mem_singleton] at never
    obtain ⟨down, silent, idle⟩ := ih never.1
    have other : event ≠ .start := fun same => never.2 same.symm
    refine ⟨?_, ?_, next.effect.monitor_eq_none other idle⟩
    · by_cases stops : event = .stop
      · subst stops
        rw [after_snoc]
        rfl
      · exact (next.effect.alive other stops).trans down
    · rcases next.effect.beating other with same | ⟨dead, -⟩
      · exact same.trans silent
      · exact dead

theorem mem_start (run : Run timing events now) (busy : (after timing events).monitor ≠ none) :
    .start ∈ events := by
  by_contra never
  exact busy (run.unstarted never).2.2

/-- A heartbeat is alive from its start until it is stopped. -/
theorem alive_iff (run : Run timing events now) : (after timing events).alive = true ↔ Up events := by
  induction run with
  | connected now => exact ⟨nofun, fun ⟨before, since, empty, _⟩ => absurd empty (by simp)⟩
  | @next events event now later run next ih =>
    rw [up_snoc]
    by_cases starts : event = .start
    · subst starts
      refine ⟨fun _ => ?_, fun _ => after_start⟩
      cases next with
      | start first =>
        rcases first with alive | first
        · exact Or.inr ⟨ih.mp alive, nofun⟩
        · exact Or.inl ⟨rfl, first⟩
      | occurs occurs => exact nomatch occurs
    by_cases stops : event = .stop
    · subst stops
      have down : (after timing (events ++ [.stop])).alive = false := by
        rw [after_snoc]
        rfl
      simp [down]
    · rw [next.effect.alive starts stops, ih]
      simp [starts, stops]

theorem mem_stop (run : Run timing events now) (started : .start ∈ events)
    (down : (after timing events).alive = false) : .stop ∈ events := by
  by_contra unstopped
  obtain ⟨before, since, rfl, first⟩ := List.eq_append_cons_of_mem started
  have up : Up (before ++ .start :: since) :=
    ⟨before, since, rfl, first, fun stops => unstopped (List.mem_append_right _ (.tail _ stops))⟩
  exact absurd ((run.alive_iff.mpr up).symm.trans down) nofun

theorem idle_of_not_beating (run : Run timing events now)
    (dead : (after timing events).beating = false) : (after timing events).monitor = none := by
  induction run with
  | connected now => rfl
  | @next events event now later run next ih =>
    by_cases starts : event = .start
    · subst starts
      by_cases alive : (after timing events).alive = true
      · rw [after_snoc, react, start_of_alive alive] at dead ⊢
        exact ih dead
      · rw [after_snoc, react, start, if_neg alive] at dead
        exact nomatch dead
    · rcases next.effect.beating starts with same | ⟨-, ended, -⟩
      · have idle := ih (same.symm.trans dead)
        exact next.effect.monitor_eq_none starts idle
      · exact ended

/-- After a fault the socket is left alone no longer than for the pause beyond the deadline. -/
theorem patience (run : Run timing events now) {deadline resume : Nat}
    (here : (after timing events).monitor = some (.backingOff deadline resume)) :
    resume ≤ deadline + errorPause := by
  induction run generalizing deadline resume with
  | connected now => exact absurd here nofun
  | next run next ih => exact next.effect.patience ih here

end Run

end Heartbeat
end KernelLink
