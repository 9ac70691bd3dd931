import KernelLink.Proofs.Heartbeat.Course

namespace KernelLink
namespace Heartbeat

/-- A ping has been sent at a time, and what has happened since. -/
def Pinged (timing : HeartbeatTiming) (events : List Event) (sent : Nat) (since : List Event) : Prop :=
  ∃ before, events = before ++ .turn sent :: since ∧
    ((after timing before).stepMonitor sent).2 = true

def Unanswered (since : List Event) : Prop := ∀ event ∈ since, event.answers = false

/-- With the next event the monitor ends, and a ping has not been answered. -/
def Abandons (timing : HeartbeatTiming) (events : List Event) (sent : Nat) (event : Event) : Prop :=
  ∃ since, Pinged timing events sent since ∧ Unanswered since ∧
    (after timing events).monitor ≠ none ∧ ((after timing events).react event).monitor = none

/-- The monitor has ended in the wait for the answer to a ping. -/
def Abandoned (timing : HeartbeatTiming) (events : List Event) (sent : Nat) (event : Event) : Prop :=
  ∃ before since, events = before ++ event :: since ∧ Abandons timing before sent event

/-- The monitor has ended because the time of a ping was over. -/
def Missed (timing : HeartbeatTiming) (events : List Event) (sent : Nat) : Prop :=
  ∃ late, sent + timing.timeToDead ≤ late ∧ Abandoned timing events sent (.turn late)

/-- The monitor has ended while a ping could still be answered. -/
def CutShort (timing : HeartbeatTiming) (events : List Event) (sent : Nat) : Prop :=
  ∃ event, Abandoned timing events sent event ∧
    ∀ late, event = .turn late → late < sent + timing.timeToDead

variable {timing : HeartbeatTiming} {events since : List Event} {event last : Event}
variable {now later sent : Nat}

theorem pinged_snoc : Pinged timing (events ++ [event]) sent since ↔
    (since = [] ∧ event = .turn sent ∧ ((after timing events).stepMonitor sent).2 = true) ∨
    ∃ earlier, since = earlier ++ [event] ∧ Pinged timing events sent earlier := by
  simp only [Pinged, snoc_eq_append_cons]
  constructor
  · rintro ⟨before, ⟨rfl, rfl, here⟩ | ⟨earlier, rfl, rfl⟩, sends⟩
    · exact Or.inl ⟨rfl, here.symm, sends⟩
    · exact Or.inr ⟨earlier, rfl, before, rfl, sends⟩
  · rintro (⟨rfl, rfl, sends⟩ | ⟨earlier, rfl, before, rfl, sends⟩)
    · exact ⟨events, Or.inl ⟨rfl, rfl, rfl⟩, sends⟩
    · exact ⟨before, Or.inr ⟨earlier, rfl, rfl⟩, sends⟩

theorem abandoned_snoc : Abandoned timing (events ++ [last]) sent event ↔
    (event = last ∧ Abandons timing events sent event) ∨ Abandoned timing events sent event := by
  simp only [Abandoned, snoc_eq_append_cons]
  constructor
  · rintro ⟨before, since, ⟨rfl, rfl, rfl⟩ | ⟨earlier, rfl, rfl⟩, abandons⟩
    · exact Or.inl ⟨rfl, abandons⟩
    · exact Or.inr ⟨before, earlier, rfl, abandons⟩
  · rintro (⟨rfl, abandons⟩ | ⟨before, earlier, rfl, abandons⟩)
    · exact ⟨events, [], Or.inl ⟨rfl, rfl, rfl⟩, abandons⟩
    · exact ⟨before, earlier ++ [last], Or.inr ⟨earlier, rfl, rfl⟩, abandons⟩

theorem missed_snoc : Missed timing (events ++ [last]) sent ↔
    (∃ late, sent + timing.timeToDead ≤ late ∧ last = .turn late ∧
      Abandons timing events sent last) ∨ Missed timing events sent := by
  simp only [Missed, abandoned_snoc]
  constructor
  · rintro ⟨late, expired, ⟨rfl, abandons⟩ | abandoned⟩
    · exact Or.inl ⟨late, expired, rfl, abandons⟩
    · exact Or.inr ⟨late, expired, abandoned⟩
  · rintro (⟨late, expired, rfl, abandons⟩ | ⟨late, expired, abandoned⟩)
    · exact ⟨late, expired, Or.inl ⟨rfl, abandons⟩⟩
    · exact ⟨late, expired, Or.inr abandoned⟩

theorem Missed.append (missed : Missed timing events sent) (more : List Event) :
    Missed timing (events ++ more) sent := by
  obtain ⟨late, expired, before, since, rfl, abandons⟩ := missed
  exact ⟨late, expired, before, since ++ more, by simp, abandons⟩

theorem Abandoned.missed_or_cutShort (abandoned : Abandoned timing events sent event) :
    Missed timing events sent ∨ CutShort timing events sent := by
  by_cases late : ∃ moment, event = .turn moment ∧ sent + timing.timeToDead ≤ moment
  · obtain ⟨moment, rfl, expired⟩ := late
    exact Or.inl ⟨moment, expired, abandoned⟩
  · refine Or.inr ⟨event, abandoned, fun moment here => ?_⟩
    by_contra expired
    exact late ⟨moment, here, by omega⟩

/-- A monitor that waits for an answer and finds its time over ends at once, unless it leaves the
socket alone. -/
theorem stepMonitor_late {h : Heartbeat} {monitor : Monitor} {deadline : Nat}
    (here : h.monitor = some monitor) (waits : monitor.deadline? = some deadline)
    (expired : deadline ≤ now) :
    (h.stepMonitor now).1 = h.miss ∨ ∃ resume, monitor = .backingOff deadline resume := by
  cases monitor with
  | looking wanted =>
    cases waits
    simp [stepMonitor, here, expired]
  | listening wanted since =>
    cases waits
    simp [stepMonitor, here, expired]
  | backingOff wanted resume =>
    cases waits
    exact Or.inr ⟨resume, rfl⟩
  | pinging => cases waits
  | answered => cases waits
  | resting resume => cases waits

/-- A turn of the monitor takes note that the time of a ping is over. -/
theorem missed_of_turn (pinged : Pinged timing events sent since)
    (unanswered : Unanswered since) {monitor : Monitor}
    (here : (after timing events).monitor = some monitor)
    (waits : monitor.deadline? = some (sent + timing.timeToDead))
    (ready : ∀ deadline resume, monitor ≠ .backingOff deadline resume)
    (expired : sent + timing.timeToDead ≤ later) : Missed timing (events ++ [.turn later]) sent := by
  rcases stepMonitor_late here waits expired with missed | ⟨resume, leaves⟩
  · have ended : ((after timing events).react (.turn later)).monitor = none := by
      rw [react, missed]
      rfl
    exact missed_snoc.mpr (.inl ⟨later, expired, rfl, since, pinged, unanswered, by simp [here], ended⟩)
  · exact absurd leaves (ready _ _)

namespace Run

theorem mem_start_of_pinged (run : Run timing events now) (pinged : Pinged timing events sent since) :
    .start ∈ events := by
  obtain ⟨before, rfl, sends⟩ := pinged
  obtain ⟨earlier, first⟩ := run.before
  have pinging := ((stepMonitor_sends_iff _ _).mp sends).1
  exact List.mem_append_left _ (first.mem_start (by simp [pinging]))

/-- The monitor waits for the answer to a ping that has not come yet, or it has given it up. -/
theorem wait (run : Run timing events now) (pinged : Pinged timing events sent since)
    (unanswered : Unanswered since) :
    ((after timing events).monitor = none ∧ ∃ event, Abandoned timing events sent event) ∨
    ∃ monitor, (after timing events).monitor = some monitor ∧
      monitor.deadline? = some (sent + timing.timeToDead) := by
  induction run generalizing since with
  | connected now =>
    obtain ⟨before, empty, -⟩ := pinged
    exact absurd empty (by simp)
  | @next events event now later run next ih =>
    rcases pinged_snoc.mp pinged with ⟨rfl, rfl, sends⟩ | ⟨earlier, rfl, before⟩
    · obtain ⟨pinging, held⟩ := (stepMonitor_sends_iff _ _).mp sends
      refine Or.inr ⟨.looking (sent + timing.timeToDead), ?_, rfl⟩
      rw [after_snoc, react, stepMonitor, pinging]
      simp only [held, if_true, withMonitor, run.timing_eq]
    have started := run.mem_start_of_pinged before
    have junk : event.answers = false := unanswered event (by simp)
    have silent : Unanswered earlier := fun event mem => unanswered event (List.mem_append_left _ mem)
    rcases ih before silent with ⟨idle, event, abandoned⟩ | ⟨monitor, here, waits⟩
    · exact Or.inl ⟨next.stays_idle started idle, event, abandoned_snoc.mpr (.inr abandoned)⟩
    have kept : event = .start → (after timing events).alive = true := by
      rintro rfl
      exact next.alive_of_start started
    rcases next.effect.wait junk kept here waits with ended | waits
    · have abandons : Abandons timing events sent event :=
        ⟨earlier, before, silent, by simp [here], after_snoc timing events event ▸ ended⟩
      exact Or.inl ⟨ended, event, abandoned_snoc.mpr (.inl ⟨rfl, abandons⟩)⟩
    · exact Or.inr waits

/-- What a monitor waits for is the answer to a ping that has been sent. -/
theorem pinged (run : Run timing events now) {monitor : Monitor} {deadline : Nat}
    (here : (after timing events).monitor = some monitor)
    (waits : monitor.deadline? = some deadline) :
    ∃ sent since, deadline = sent + timing.timeToDead ∧ Pinged timing events sent since ∧
      Unanswered since := by
  induction run generalizing monitor with
  | connected now => cases here
  | @next events event now later run next ih =>
    rcases next.effect.waiting here waits with
      ⟨junk, earlier, before, waits⟩ | ⟨sent, rfl, pinging, held, expired⟩
    · obtain ⟨sent, since, expired, pinged, unanswered⟩ := ih before waits
      refine ⟨sent, since ++ [event], expired, pinged_snoc.mpr (.inr ⟨since, rfl, pinged⟩), ?_⟩
      intro earlier mem
      rcases List.mem_append.mp mem with old | new
      · exact unanswered earlier old
      · cases List.mem_singleton.mp new
        exact junk
    · rw [run.timing_eq] at expired
      have sends := (stepMonitor_sends_iff (after timing events) sent).mpr ⟨pinging, held⟩
      exact ⟨sent, [], expired, pinged_snoc.mpr (.inl ⟨rfl, rfl, sends⟩), fun _ => nofun⟩

theorem mem_start_of_missed (run : Run timing events now) (missed : Missed timing events sent) :
    .start ∈ events := by
  obtain ⟨late, expired, before, since, rfl, awaited, pinged, -⟩ := missed
  obtain ⟨earlier, first⟩ := run.before
  exact List.mem_append_left _ (first.mem_start_of_pinged pinged)

/-- A monitor that gives up a ping after its time takes the kernel for dead. -/
theorem not_beating_of_abandons (run : Run timing events now)
    (abandons : Abandons timing events sent (.turn later)) (expired : sent + timing.timeToDead ≤ later) :
    (after timing (events ++ [.turn later])).beating = false := by
  obtain ⟨since, pinged, unanswered, busy, ended⟩ := abandons
  rcases run.wait pinged unanswered with ⟨idle, -⟩ | ⟨monitor, here, waits⟩
  · exact absurd idle busy
  rcases stepMonitor_late here waits expired with missed | ⟨resume, rfl⟩
  · rw [after_snoc, react, missed]
    rfl
  · rw [react, stepMonitor, here] at ended
    dsimp only at ended
    split at ended
    next => cases ended
    next => cases here.symm.trans ended

/-- A heartbeat beats until one of its pings is missed. -/
theorem beating_iff (run : Run timing events now) : (after timing events).beating = true ↔
    .start ∈ events ∧ ∀ sent, ¬ Missed timing events sent := by
  induction run with
  | connected now => exact ⟨nofun, fun ⟨started, _⟩ => nomatch started⟩
  | @next events event now later run next ih =>
    have whole := run.next next
    obtain rfl | starts := eq_or_ne event .start
    · have kept : (∀ sent, ¬ Missed timing (events ++ [.start]) sent) ↔
          ∀ sent, ¬ Missed timing events sent := by simp [missed_snoc]
      by_cases started : .start ∈ events
      · rw [after_snoc, react, start_of_alive (next.alive_of_start started), ih, kept]
        simp [started]
      · have down := (run.unstarted started).1
        have beats : (after timing (events ++ [.start])).beating = true := by
          simp [after_snoc, react, start, down]
        have none_missed (sent : Nat) (missed : Missed timing events sent) : False :=
          started (run.mem_start_of_missed missed)
        simp only [beats, kept, true_iff]
        exact ⟨by simp, none_missed⟩
    have mem : .start ∈ events ++ [event] ↔ .start ∈ events := by simp [Ne.symm starts]
    rw [mem]
    rcases next.effect.beating starts with same | ⟨dead, -, late, monitor, deadline, rfl, here, waits, expired⟩
    · rw [same, ih]
      refine and_congr_right fun started => forall_congr' fun sent => not_congr ?_
      refine ⟨fun missed => missed.append [event], fun missed => ?_⟩
      rcases missed_snoc.mp missed with ⟨late, expired, rfl, abandons⟩ | missed
      · have dead := run.not_beating_of_abandons abandons expired
        obtain ⟨since, pinged, unanswered, busy, ended⟩ := abandons
        exact absurd (run.idle_of_not_beating (same.symm.trans dead)) busy
      · exact missed
    · obtain ⟨sent, since, rfl, pinged, unanswered⟩ := run.pinged here waits
      have ended := whole.idle_of_not_beating dead
      rw [after_snoc] at ended
      have missed : Missed timing (events ++ [.turn late]) sent :=
        missed_snoc.mpr (.inl ⟨late, expired, rfl, since, pinged, unanswered, by simp [here], ended⟩)
      simp only [dead, Bool.false_eq_true, false_iff, not_and, not_forall, not_not]
      exact fun _ => ⟨sent, missed⟩

/-- A ping that nobody answers is missed once its time is over and the monitor has had two turns, one
of them to take up a socket that it has left alone. -/
theorem missed_in_the_end (run : Run timing events now) (pinged : Pinged timing events sent since)
    (unanswered : Unanswered since) (uncut : ¬ CutShort timing events sent)
    (expired : sent + timing.timeToDead + errorPause ≤ later) :
    Missed timing (events ++ [.turn later] ++ [.turn later]) sent := by
  rcases run.wait pinged unanswered with ⟨-, event, abandoned⟩ | ⟨monitor, here, waits⟩
  · have missed := abandoned.missed_or_cutShort.resolve_right uncut
    exact (missed.append _).append _
  by_cases leaves : ∃ deadline resume, monitor = .backingOff deadline resume
  · obtain ⟨deadline, resume, rfl⟩ := leaves
    have patience := run.patience here
    cases waits
    have again : (after timing (events ++ [.turn later])).monitor =
        some (.looking (sent + timing.timeToDead)) := by
      have ready : resume ≤ later := by omega
      simp only [after_snoc, react, stepMonitor, here, if_pos ready, withMonitor]
    have takes (deadline resume : Nat) :
        Monitor.looking (sent + timing.timeToDead) ≠ .backingOff deadline resume := by
      intro same
      cases same
    refine missed_of_turn (pinged_snoc.mpr (.inr ⟨since, rfl, pinged⟩)) ?_ again rfl takes (by omega)
    intro event mem
    rcases List.mem_append.mp mem with old | new
    · exact unanswered event old
    · cases List.mem_singleton.mp new
      rfl
  · push Not at leaves
    exact (missed_of_turn pinged unanswered here waits leaves (by omega)).append _

/-- A monitor ends before the time of its ping is over only because of a stop. -/
theorem mem_stop_of_cutShort (run : Run timing events now) (cut : CutShort timing events sent) :
    .stop ∈ events := by
  obtain ⟨event, ⟨before, rest, rfl, since, pinged, unanswered, busy, ended⟩, early⟩ := cut
  rw [List.append_cons] at run ⊢
  obtain ⟨reached, whole⟩ := run.before
  obtain ⟨moment, first, next⟩ := whole.last
  refine List.mem_append_left _ (List.mem_append_left _ ?_)
  rcases first.wait pinged unanswered with ⟨idle, -⟩ | ⟨monitor, here, waits⟩
  · exact absurd idle busy
  rw [← after_snoc] at ended
  rcases next.effect.ends here waits ended with ⟨late, rfl, expired⟩ | rfl | down
  · have inTime := early late rfl
    omega
  · cases next with
    | call stopped => exact stopped
    | occurs occurs => cases occurs
  · exact first.mem_stop (first.mem_start busy) down

end Run

/-- What can be relied on in the life of a heartbeat that is not started again after a stop. -/
structure Account (timing : HeartbeatTiming) (events : List Event) (now : Nat) : Prop where
  alive_iff : (after timing events).alive = true ↔ Up events
  beating_iff : (after timing events).beating = true ↔
    .start ∈ events ∧ ∀ sent, ¬ Missed timing events sent
  /-- Nothing brings the beat back after a missed ping, and no other ping is sent. -/
  dead_for_good : ∀ more later, Run timing (events ++ more) later → (∃ sent, Missed timing events sent) →
    (after timing (events ++ more)).beating = false ∧
      ∀ first sent since, more = first ++ .turn sent :: since →
        ((after timing (events ++ first)).stepMonitor sent).2 = false
  cut_short : ∀ sent, CutShort timing events sent → .stop ∈ events
  missed_in_the_end : ∀ sent since later, Pinged timing events sent since → Unanswered since →
    ¬ CutShort timing events sent → sent + timing.timeToDead + errorPause ≤ later →
    Missed timing (events ++ [.turn later] ++ [.turn later]) sent
  in_time : ∀ sent since later frames, Pinged timing events sent since → Unanswered since →
    Occurs (after timing events) now (.reply later frames) later → later ≤ sent + timing.timeToDead
  flags_kept : ∀ event later, Occurs (after timing events) now event later →
    (∀ moment, event ≠ .turn moment) →
    (after timing (events ++ [event])).alive = (after timing events).alive ∧
      (after timing (events ++ [event])).beating = (after timing events).beating
  start_kept : (after timing events).alive = true →
    after timing (events ++ [.start]) = after timing events

theorem Run.quiet_since_missed {more : List Event} (run : Run timing (events ++ more) later)
    (missed : Missed timing events sent) :
    (after timing (events ++ more)).beating = false ∧
      ∀ first moment since, more = first ++ .turn moment :: since →
        ((after timing (events ++ first)).stepMonitor moment).2 = false := by
  have silent {first : List Event} {moment : Nat} (run : Run timing (events ++ first) moment) :
      (after timing (events ++ first)).beating = false := by
    by_contra beats
    rw [Bool.not_eq_false, run.beating_iff] at beats
    exact beats.2 sent (missed.append first)
  refine ⟨silent run, ?_⟩
  rintro first moment since rfl
  rw [← List.append_assoc] at run
  obtain ⟨earlier, before⟩ := run.before
  have idle := before.idle_of_not_beating (silent before)
  rw [stepMonitor, idle]

theorem Run.beats_until_missed (run : Run timing events now) : Account timing events now where
  alive_iff := run.alive_iff
  beating_iff := run.beating_iff
  dead_for_good := by
    rintro more later goes ⟨sent, missed⟩
    exact goes.quiet_since_missed missed
  cut_short := by
    intro sent cut
    exact run.mem_stop_of_cutShort cut
  missed_in_the_end := by
    intro sent since later pinged unanswered uncut expired
    exact run.missed_in_the_end pinged unanswered uncut expired
  in_time := by
    intro sent since later frames pinged unanswered occurs
    cases occurs with
    | reply listening ahead inTime =>
      rcases run.wait pinged unanswered with ⟨idle, -⟩ | ⟨monitor, here, waits⟩
      · cases idle.symm.trans listening
      · cases Option.some.inj (here.symm.trans listening)
        cases waits
        exact inTime
  flags_kept := by
    intro event later occurs other
    have effect := (Next.occurs occurs).effect
    obtain ⟨unstarted, unstopped, -⟩ := occurs.not_owner
    refine ⟨effect.alive unstarted unstopped, ?_⟩
    rcases effect.beating unstarted with same | ⟨-, -, moment, -, -, turn, -⟩
    · exact same
    · exact absurd turn (other moment)
  start_kept := by
    intro alive
    rw [after_snoc, react, start_of_alive alive]

/-- A reply of another kind and a fault come before the ping is missed. -/
theorem silent_kernel_account :
    ∃ events now, Account ⟨20, 100⟩ events now ∧ (after ⟨20, 100⟩ events).beating = false ∧
      (after ⟨20, 100⟩ events).alive = true := by
  have started : Run ⟨20, 100⟩ ([] ++ [.start]) 0 := (Run.connected 0).next (.start (.inr nofun))
  have pinging := started.next (.occurs (.turn (Nat.zero_le 3)))
  have listening := pinging.next (.occurs (.turn (Nat.le_refl 3)))
  have junk := listening.next (.occurs (@Occurs.reply _ 3 40 103 3 [] rfl (by decide) (by decide)))
  have again := junk.next (.occurs (.turn (Nat.le_refl 40)))
  have fault := again.next (.occurs (.fault rfl (by decide : 40 ≤ 90) (by decide)))
  have ready := fault.next (.occurs (.turn (by decide : 90 ≤ 140)))
  have missed := ready.next (.occurs (.turn (Nat.le_refl 140)))
  exact ⟨_, _, missed.beats_until_missed, by decide, by decide⟩

end Heartbeat
end KernelLink
