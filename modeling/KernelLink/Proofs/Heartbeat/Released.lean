import KernelLink.Proofs.Heartbeat.Course

namespace KernelLink
namespace Heartbeat

/-- Calls of start and stop one after the other, with whatever comes in between, and whether a stop
still waits for the monitor to end. -/
inductive Sequence (timing : HeartbeatTiming) : List Event → Bool → Nat → Prop
  | connected (now : Nat) : Sequence timing [] false now
  | start {events : List Event} {now : Nat} : Sequence timing events false now →
      Sequence timing (events ++ [.start]) false now
  | stop {events : List Event} {now : Nat} : Sequence timing events false now →
      Sequence timing (events ++ [.stop] ++ [.call]) true now
  | stopped {events : List Event} {now : Nat} : Sequence timing events true now →
      (after timing events).monitor = none → Sequence timing (events ++ [.release]) false now
  | occurs {events : List Event} {stopping : Bool} {event : Event} {now later : Nat} :
      Sequence timing events stopping now → Occurs (after timing events) now event later →
      Sequence timing (events ++ [event]) stopping later

variable {timing : HeartbeatTiming} {events : List Event} {event : Event} {stopping : Bool}
variable {now later : Nat}

theorem after_stop (timing : HeartbeatTiming) (events : List Event) :
    after timing (events ++ [.stop] ++ [.call]) = (after timing events).beginStop := by
  rw [after_snoc, after_snoc]
  rfl

theorem after_stopped (idle : (after timing events).monitor = none) :
    after timing (events ++ [.release]) = (after timing events).finishStop := by
  rw [after_snoc, finishStop, idle]
  rfl

theorem Run.held (run : Run timing events now) (unstopped : .stop ∉ events) :
    (after timing events).held = true := by
  induction run with
  | connected now => rfl
  | @next events event now later run next ih =>
    have earlier : .stop ∉ events := fun mem => unstopped (List.mem_append_left _ mem)
    have unreleased : event ≠ .release := by
      rintro rfl
      cases next with
      | release stopped => exact earlier stopped
      | occurs occurs => cases occurs
    exact (next.effect.held unreleased).trans (ih earlier)

theorem Run.alive (run : Run timing events now) (started : .start ∈ events)
    (unstopped : .stop ∉ events) : (after timing events).alive = true := by
  by_contra down
  exact unstopped (run.mem_stop started (Bool.eq_false_iff.mpr down))

theorem Run.monitored (run : Run timing events now) (started : .start ∈ events)
    (unstopped : .stop ∉ events) (beats : (after timing events).beating = true) :
    (after timing events).monitor ≠ none := by
  induction run with
  | connected now => cases started
  | @next events event now later run next ih =>
    have earlier : .stop ∉ events := fun mem => unstopped (List.mem_append_left _ mem)
    have uncalled : event ≠ .call := by
      rintro rfl
      cases next with
      | call stopped => exact earlier stopped
      | occurs occurs => cases occurs
    by_cases before : .start ∈ events
    · have alive := run.alive before earlier
      by_cases starts : event = .start
      · subst starts
        rw [after_snoc, react, start_of_alive alive] at beats ⊢
        exact ih before earlier beats
      · have beat : (after timing events).beating = true := by
          rcases next.effect.beating starts with same | ⟨dead, -⟩
          · exact same.symm.trans beats
          · cases beats.symm.trans dead
        have busy := ih before earlier beat
        exact next.effect.keeps_monitor alive (run.held earlier) uncalled busy beats
    · have starts : event = .start := by simpa [before, eq_comm] using started
      subst starts
      have down := (run.unstarted before).1
      simp [after_snoc, react, start, down]

/-- A monitor that has nothing to ping with ends at its first turn. -/
theorem stepMonitor_gone {h : Heartbeat} (gone : h.held = false)
    (pinging : ∀ monitor, h.monitor = some monitor → monitor = .pinging) (now : Nat) :
    h.stepMonitor now = (h.withMonitor none, false) := by
  cases here : h.monitor with
  | none =>
    have idle : h.stepMonitor now = (h, false) := by rw [stepMonitor, here]
    have same : h.withMonitor none = h := by rw [withMonitor, ← here]
    rw [idle, same]
  | some monitor =>
    obtain rfl := pinging monitor here
    rw [stepMonitor, here]
    exact if_neg (by simp [gone])

namespace Sequence

/-- Up to the first stop, these are runs without a start after a stop. -/
theorem run (sequence : Sequence timing events stopping now) (unstopped : .stop ∉ events) :
    stopping = false ∧ Run timing events now := by
  induction sequence with
  | connected now => exact ⟨rfl, .connected now⟩
  | @start events now sequence ih =>
    obtain ⟨-, run⟩ := ih fun mem => unstopped (List.mem_append_left _ mem)
    have first : (after timing events).alive = true ∨ .start ∉ events := by
      by_cases started : .start ∈ events
      · exact Or.inl (run.alive started fun mem => unstopped (List.mem_append_left _ mem))
      · exact Or.inr started
    exact ⟨rfl, run.next (.start first)⟩
  | stop => simp at unstopped
  | stopped sequence idle ih =>
    have waiting := (ih fun mem => unstopped (List.mem_append_left _ mem)).1
    cases waiting
  | occurs sequence occurs ih =>
    obtain ⟨calm, run⟩ := ih fun mem => unstopped (List.mem_append_left _ mem)
    exact ⟨calm, run.next (.occurs occurs)⟩

/-- A heartbeat that has been stopped is down until the stop is over, and from then on its socket is
gone, so that a new monitor has nothing to ping with. -/
theorem released (sequence : Sequence timing events stopping now) (hasStopped : .stop ∈ events) :
    (stopping = true → (after timing events).alive = false) ∧
    (stopping = false → (after timing events).held = false ∧
      ∀ monitor, (after timing events).monitor = some monitor → monitor = .pinging) := by
  induction sequence with
  | connected now => cases hasStopped
  | @start events now sequence ih =>
    have before : .stop ∈ events := by simpa using hasStopped
    obtain ⟨gone, pinging⟩ := (ih before).2 rfl
    refine ⟨fun waits => absurd waits Bool.false_ne_true, fun _ => ?_⟩
    rw [after_snoc, react, Heartbeat.start]
    split
    next => exact ⟨gone, pinging⟩
    next => exact ⟨gone, fun monitor here => (Option.some.inj here).symm⟩
  | stop sequence ih =>
    refine ⟨fun _ => ?_, fun finished => absurd finished.symm Bool.false_ne_true⟩
    rw [after_stop]
    rfl
  | stopped sequence idle ih =>
    refine ⟨fun waits => absurd waits Bool.false_ne_true, fun _ => ?_⟩
    rw [after_stopped idle, finishStop, idle]
    refine ⟨rfl, fun monitor here => ?_⟩
    cases idle.symm.trans here
  | @occurs events stopping event now later sequence occurs ih =>
    obtain ⟨unstarted, unstopped, unreleased⟩ := occurs.not_owner
    have before : .stop ∈ events := by simpa [Ne.symm unstopped] using hasStopped
    obtain ⟨down, closed⟩ := ih before
    have effect := occurs.effect
    rw [← after_snoc] at effect
    refine ⟨fun waits => (effect.alive unstarted unstopped).trans (down waits), fun finished => ?_⟩
    obtain ⟨gone, pinging⟩ := closed finished
    refine ⟨(effect.held unreleased).trans gone, ?_⟩
    cases occurs with
    | turn ahead =>
      rw [after_snoc, react, stepMonitor_gone gone pinging]
      intro monitor here
      cases here
    | reply listening => cases pinging _ listening
    | fault listening => cases pinging _ listening

/-- A beat is reported by a monitor that runs and holds the socket as long as nobody has stopped the
heartbeat. After a stop, the next turn of a new monitor is its end, and the beat is still reported. -/
theorem monitored_iff (sequence : Sequence timing events stopping now)
    (alive : (after timing events).alive = true) (beats : (after timing events).beating = true) :
    ((after timing events).monitor ≠ none ∧ (after timing events).held = true ↔ .stop ∉ events) ∧
    (.stop ∈ events → ∀ moment, ((after timing events).stepMonitor moment) =
      ((after timing events).withMonitor none, false)) := by
  by_cases hasStopped : .stop ∈ events
  · obtain ⟨down, closed⟩ := sequence.released hasStopped
    have finished : stopping = false := by
      by_contra waits
      cases alive.symm.trans (down (Bool.not_eq_false stopping ▸ waits))
    obtain ⟨gone, pinging⟩ := closed finished
    have unheld : (after timing events).held ≠ true := by rw [gone]; exact Bool.false_ne_true
    refine ⟨⟨fun kept => absurd kept.2 unheld, absurd hasStopped⟩, ?_⟩
    intro _ moment
    exact stepMonitor_gone gone pinging moment
  · obtain ⟨-, run⟩ := sequence.run hasStopped
    have started : .start ∈ events := by
      by_contra never
      cases (run.unstarted never).1.symm.trans alive
    have busy := run.monitored started hasStopped beats
    exact ⟨⟨fun _ => hasStopped, fun _ => ⟨busy, run.held hasStopped⟩⟩, fun stopped => absurd stopped hasStopped⟩

theorem monitored_after_start :
    (after ⟨20, 100⟩ [.start]).monitor ≠ none ∧ (after ⟨20, 100⟩ [.start]).held = true := by
  have sequence : Sequence ⟨20, 100⟩ ([] ++ [.start]) false 0 := (Sequence.connected 0).start
  exact (sequence.monitored_iff (by decide) (by decide)).1.mpr (by decide)

/-- After a stop and another start the socket is gone, and the beat is reported all the same. -/
theorem restarted_unmonitored :
    ¬ ∀ timing events stopping now, Sequence timing events stopping now →
      (after timing events).alive = true → (after timing events).beating = true →
      (after timing events).monitor ≠ none ∧ (after timing events).held = true := by
  intro monitored
  have stopped : Sequence ⟨20, 100⟩ ([] ++ [.stop] ++ [.call]) true 0 := (Sequence.connected 0).stop
  have restarted : Sequence ⟨20, 100⟩ ([] ++ [.stop] ++ [.call] ++ [.release] ++ [.start]) false 0 :=
    (stopped.stopped (by decide)).start
  have held := (monitored _ _ _ _ restarted (by decide) (by decide)).2
  exact absurd held (by decide)

end Sequence

end Heartbeat
end KernelLink
