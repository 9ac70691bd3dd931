import KernelLink.Proofs.Process.Lifetime
import Mathlib.Data.Nat.Pairing

namespace KernelLink

/-- How many steps the task has ahead of it at most, once the program has ended: it may find a request and
go round once more. -/
def KernelProcess.ahead (p : KernelProcess) : Nat :=
  match p.reaper with
  | .enlisting => if p.killRequested then 6 else 10
  | .looking => if p.killRequested then 5 else 9
  | .waiting => if p.called then 7 else 8
  | .reaping => 4
  | .recording _ => 3
  | .closing => 2
  | .announcing => 1
  | .done => 0

def ExitWatch.ahead (w : ExitWatch) : Nat :=
  match w.stage with
  | .waiting => 2
  | .looking => 1
  | .answered _ => 0

/-- How many steps a caller has ahead of it once everybody has been told of the exit. -/
def Caller.ahead (p : KernelProcess) (c : Caller) : Nat :=
  match c.stage with
  | .doubting => 1
  | .marking => 5
  | .calling => 4
  | .enlisting => 3
  | .watching watch => p.watches[watch]?.elim 0 ExitWatch.ahead
  | .passedOn => 0
  | .spared => 0

namespace Lifetime

variable {s : Lifetime} {schedule : Nat → Event}

/-- Whoever can go on does so in the end, and a program that is killed ends. -/
structure Fair (schedule : Nat → Event) : Prop where
  task : ∀ n, ∃ m, n ≤ m ∧ schedule m = .task
  news : ∀ n, ∃ m, n ≤ m ∧ schedule m = .news
  turn : ∀ i n, ∃ m, n ≤ m ∧ schedule m = .turn i
  deadly : ∀ n, (after schedule n).killed = true → ∃ m, n ≤ m ∧ (after schedule m).ended.isSome = true

/-- What holds until an event brings about something else comes to that, if the event returns for ever. -/
theorem comes_about {P Q : Lifetime → Prop} {e : Event} (often : ∀ n, ∃ m, n ≤ m ∧ schedule m = e)
    (stays : ∀ s x, s.Sound → P s → P (s.act x) ∨ Q (s.act x)) (helps : ∀ s, s.Sound → P s → Q (s.act e))
    {n : Nat} (holds : P (after schedule n)) : ∃ m, n ≤ m ∧ Q (after schedule m) := by
  obtain ⟨m, later, event⟩ := often n
  -- either something else has come about on the way to the event, or the event finds what holds
  have onTheWay : P (after schedule m) ∨ ∃ k, n ≤ k ∧ Q (after schedule k) := by
    clear event
    induction later with
    | refl => exact Or.inl holds
    | @step k later ih =>
      rcases ih with holds | found
      · exact (stays _ (schedule k) (sound_after schedule k) holds).imp_right fun done =>
          ⟨k + 1, Nat.le_succ_of_le later, done⟩
      · exact Or.inr found
  rcases onTheWay with holds | found
  · refine ⟨m + 1, Nat.le_succ_of_le later, ?_⟩
    have done := helps _ (sound_after schedule m) holds
    rwa [← event] at done
  · exact found

/-- A measure that never grows, and that some event makes smaller as long as it is positive, comes to
nothing. -/
theorem comes_to_zero {P : Lifetime → Prop} (measure : Lifetime → Nat)
    (stays : ∀ s x, s.Sound → P s → P (s.act x) ∧ measure (s.act x) ≤ measure s)
    (helps : ∀ k, 0 < k → ∃ e, (∀ n, ∃ m, n ≤ m ∧ schedule m = e) ∧
      ∀ s, s.Sound → P s → measure s = k → measure (s.act e) < k)
    {n : Nat} (holds : P (after schedule n)) :
    ∃ m, n ≤ m ∧ P (after schedule m) ∧ measure (after schedule m) = 0 := by
  induction size : measure (after schedule n) using Nat.strongRecOn generalizing n with
  | _ k ih =>
    rcases Nat.eq_zero_or_pos k with rfl | positive
    · exact ⟨n, Nat.le_refl n, holds, size⟩
    obtain ⟨e, often, smaller⟩ := helps k positive
    have falls : ∃ m, n ≤ m ∧ P (after schedule m) ∧ measure (after schedule m) < k := by
      refine comes_about (P := fun s => P s ∧ measure s = k) (Q := fun s => P s ∧ measure s < k) often ?_ ?_
        ⟨holds, size⟩
      · intro s x sound ⟨holds, size⟩
        obtain ⟨still, grown⟩ := stays s x sound holds
        rcases Nat.lt_or_eq_of_le grown with less | same
        · exact Or.inr ⟨still, by omega⟩
        · exact Or.inl ⟨still, by omega⟩
      · intro s sound ⟨holds, size⟩
        exact ⟨(stays s e sound holds).1, smaller s sound holds size⟩
    obtain ⟨m, later, still, less⟩ := falls
    obtain ⟨m', later', done⟩ := ih _ less still rfl
    exact ⟨m', Nat.le_trans later later', done⟩

theorem ahead_news_lt (ended : s.ended.isSome = true) (idle : s.process.ahead = 4 ∨ s.process.ahead = 8) :
    (s.act .news).process.ahead < s.process.ahead := by
  obtain ⟨status, ended⟩ := Option.isSome_iff_exists.mp ended
  unfold KernelProcess.ahead at idle ⊢
  cases reaper : s.process.reaper <;>
    simp only [reaper, act, ended, KernelProcess.noticeEnd] at idle ⊢ <;> grind

theorem ahead_task_lt (sound : s.TaskSound) (busy : s.process.ahead ≠ 0)
    (alone : s.process.ahead ≠ 4 ∧ s.process.ahead ≠ 8) :
    (s.act .task).process.ahead < s.process.ahead := by
  have requested := sound.requested
  unfold KernelProcess.ahead at busy alone ⊢
  cases reaper : s.process.reaper <;>
    simp only [reaper, act, KernelProcess.stepReaper] at busy alone ⊢ <;> grind

theorem ahead_task_le (sound : s.TaskSound) : (s.act .task).process.ahead ≤ s.process.ahead := by
  have requested := sound.requested
  unfold KernelProcess.ahead
  cases reaper : s.process.reaper <;> simp only [reaper, act, KernelProcess.stepReaper] <;> grind

theorem ahead_step_le (now : Nat) (p : KernelProcess) (c : Caller) : (c.step now p).2.ahead ≤ p.ahead := by
  unfold Caller.step KernelProcess.ahead
  cases c.stage <;> cases reaper : p.reaper <;>
    simp only [reaper, KernelProcess.markKill, KernelProcess.callReaper, KernelProcess.watch,
      KernelProcess.stepWatch] <;> grind

theorem ahead_act_le (sound : s.TaskSound) (e : Event) : (s.act e).process.ahead ≤ s.process.ahead := by
  cases e with
  | task => exact ahead_task_le sound
  | news =>
    rcases s.act_news_cases with same | ⟨status, -, waiting | reaping, heard⟩
    · exact Nat.le_of_eq (by rw [same])
    · rw [heard]
      simp only [KernelProcess.ahead, waiting]
      split <;> omega
    · rw [heard]
      simp only [KernelProcess.ahead, reaping]
      omega
  | turn i =>
    simp only [act]
    split
    · exact ahead_step_le s.now s.process _
    · exact Nat.le_refl s.process.ahead
  | passes | ends | arrives => exact Nat.le_refl s.process.ahead

theorem done_of_ahead {p : KernelProcess} (nothing : p.ahead = 0) : p.reaper = .done := by
  unfold KernelProcess.ahead at nothing
  cases reaper : p.reaper <;> simp only [reaper] at nothing <;> grind

/-- Once the program has ended, the task comes to its end. -/
theorem Fair.done (fair : Fair schedule) {n : Nat} (ended : (after schedule n).ended.isSome = true) :
    ∃ m, n ≤ m ∧ (after schedule m).process.reaper = .done := by
  have ends : ∃ m, n ≤ m ∧ (after schedule m).ended.isSome = true ∧ (after schedule m).process.ahead = 0 := by
    refine comes_to_zero (P := fun s => s.ended.isSome = true) (fun s => s.process.ahead) ?_ ?_ ended
    · intro s x sound ended
      obtain ⟨status, ended⟩ := Option.isSome_iff_exists.mp ended
      exact ⟨by rw [(s.later_act x).ended ended]; rfl, ahead_act_le sound.task x⟩
    · intro k positive
      by_cases idle : k = 4 ∨ k = 8
      · refine ⟨.news, fair.news, fun s _ ended size => ?_⟩
        subst size
        exact ahead_news_lt ended idle
      · refine ⟨.task, fair.task, fun s sound _ size => ?_⟩
        subst size
        exact ahead_task_lt sound.task (by omega) (by omega)
  obtain ⟨m, later, -, nothing⟩ := ends
  exact ⟨m, later, done_of_ahead nothing⟩

theorem waiting_of_ahead {p : KernelProcess} (far : p.ahead = 8) : p.reaper = .waiting ∧ p.called = false := by
  unfold KernelProcess.ahead at far
  cases reaper : p.reaper <;> simp only [reaper] at far <;> grind

/-- A caller takes no step but in its turn. -/
theorem callers_act {e : Event} {i : Nat} {c : Caller} (found : s.callers[i]? = some c) (other : e ≠ .turn i) :
    (s.act e).callers[i]? = some c := by
  cases e with
  | passes | ends | task => exact found
  | news =>
    rcases s.act_news_cases with same | ⟨status, -, -, heard⟩
    · rwa [same]
    · rwa [heard]
  | arrives purpose => exact (List.getElem?_append_left (List.getElem?_eq_some_iff.mp found).1).trans found
  | turn j =>
    simp only [act]
    split
    · rename_i d atJ
      have apart : j ≠ i := fun same => other (by rw [same])
      rw [getElem?_takeTurn atJ found, if_neg apart]
    · exact found

theorem ahead_call {i : Nat} {c : Caller} (calling : c.stage = .calling) (far : s.process.ahead = 8) :
    (s.takeTurn i c).process.ahead = 7 := by
  obtain ⟨waiting, -⟩ := waiting_of_ahead far
  simp only [Lifetime.takeTurn, Caller.step, calling, KernelProcess.callReaper, waiting, KernelProcess.ahead,
    if_true]

/-- A request that the task does not know of yet is passed on to it. -/
theorem Fair.called (fair : Fair schedule) {n : Nat}
    (requested : (after schedule n).process.killRequested = true) :
    ∃ m, n ≤ m ∧ (after schedule m).process.killRequested = true ∧ (after schedule m).process.ahead ≤ 7 := by
  have sound := sound_after schedule n
  have bound : (after schedule n).process.ahead ≤ 8 := by
    unfold KernelProcess.ahead
    split <;> grind
  by_cases near : (after schedule n).process.ahead ≤ 7
  · exact ⟨n, Nat.le_refl n, requested, near⟩
  have far : (after schedule n).process.ahead = 8 := by omega
  obtain ⟨waiting, uncalled⟩ := waiting_of_ahead far
  obtain ⟨i, c, found, calling⟩ := sound.heard requested waiting uncalled
  have told {s : Lifetime} (far : s.process.ahead = 8) (found : s.callers[i]? = some c) :
      (s.act (.turn i)).process.ahead ≤ 7 := by
    rw [act_turn found]
    exact Nat.le_of_eq (ahead_call calling far)
  refine comes_about (P := fun s => s.process.killRequested = true ∧ s.process.ahead = 8 ∧ s.callers[i]? = some c)
    (Q := fun s => s.process.killRequested = true ∧ s.process.ahead ≤ 7) (fair.turn i) ?_ ?_
    ⟨requested, far, found⟩
  · intro s x sound ⟨requested, far, found⟩
    have still := (s.later_act x).process.requested requested
    have grown := ahead_act_le sound.task x
    by_cases near : (s.act x).process.ahead ≤ 7
    · exact Or.inr ⟨still, near⟩
    · have other : x ≠ .turn i := fun turn => near (turn ▸ told far found)
      exact Or.inl ⟨still, by omega, callers_act found other⟩
  · intro s sound ⟨requested, far, found⟩
    exact ⟨(s.later_act _).process.requested requested, told far found⟩

/-- A task that knows of a request kills the program, unless it has found that the program has ended. -/
theorem Fair.answered (fair : Fair schedule) {n : Nat}
    (requested : (after schedule n).process.killRequested = true) :
    ∃ m, n ≤ m ∧ ((after schedule m).killed = true ∨ (after schedule m).process.reaper.found = true) := by
  obtain ⟨n', later, requested, near⟩ := fair.called requested
  have ends : ∃ m, n' ≤ m ∧ ((after schedule m).process.killRequested = true ∧
      (after schedule m).process.ahead ≤ 7) ∧ (after schedule m).process.ahead - 4 = 0 := by
    refine comes_to_zero (P := fun s => s.process.killRequested = true ∧ s.process.ahead ≤ 7)
      (fun s => s.process.ahead - 4) ?_ ?_ ⟨requested, near⟩
    · intro s x sound ⟨requested, near⟩
      have grown := ahead_act_le sound.task x
      exact ⟨⟨(s.later_act x).process.requested requested, by omega⟩, by omega⟩
    · refine fun k positive => ⟨.task, fair.task, fun s sound ⟨requested, near⟩ size => ?_⟩
      have nearer := ahead_task_lt sound.task (by omega) (by omega)
      omega
  obtain ⟨m, later', -, close⟩ := ends
  refine ⟨m, Nat.le_trans later later', ?_⟩
  have sound := sound_after schedule m
  generalize after schedule m = s at close sound
  unfold KernelProcess.ahead at close
  cases reaper : s.process.reaper with
  | reaping => exact Or.inl (sound.task.reaping reaper)
  | recording | closing | announcing | done => exact Or.inr rfl
  | enlisting | looking | waiting =>
    simp only [reaper] at close
    split at close <;> omega

theorem ahead_watch_step {w : ExitWatch} (told : w.stage = .waiting → w.noticed = true) (now : Nat) :
    (w.step true now).ahead ≤ w.ahead - 1 := by
  obtain ⟨deadline, stage, noticed⟩ := w
  cases stage with
  | waiting =>
    obtain rfl := told rfl
    cases deadline <;> simp [ExitWatch.step, ExitWatch.ahead, ExitWatch.enlisted]
  | looking | answered => exact Nat.le_refl 0

/-- What the step of a caller leaves of a watch. -/
theorem watch_step (now : Nat) {p : KernelProcess} (c : Caller) {i : Nat} {w : ExitWatch}
    (found : p.watches[i]? = some w) : (c.step now p).2.watches[i]? =
      some (if c.stage = .watching i then w.step p.exited now else w) := by
  unfold Caller.step
  cases stage : c.stage with
  | watching watch =>
    simp only [KernelProcess.stepWatch, List.getElem?_modify, found, CallStage.watching.injEq]
    split <;> rfl
  | calling =>
    simp only [KernelProcess.callReaper]
    split <;> simpa using found
  | enlisting =>
    have inside := (List.getElem?_eq_some_iff.mp found).1
    simpa [KernelProcess.watch] using (List.getElem?_append_left inside).trans found
  | doubting | marking | passedOn | spared => exact found

/-- Once everybody has been told of the exit, a caller that takes a step comes nearer to its answer. -/
theorem Sound.ahead_own (sound : s.Sound) (done : s.process.reaper = .done) {i : Nat} {c : Caller}
    (found : s.callers[i]? = some c) :
    Caller.ahead (c.step s.now s.process).2 ⟨c.purpose, (c.step s.now s.process).1⟩ ≤
      c.ahead s.process - 1 := by
  have exited := sound.task.exited_of_done done
  have own := sound.callers c (List.mem_of_getElem? found)
  cases stage : c.stage with
  | watching watch =>
    obtain ⟨w, atWatch, -⟩ := own.watching watch stage
    have told := (sound.watches w (List.mem_of_getElem? atWatch)).told done
    have next := watch_step s.now c atWatch
    rw [if_pos stage, exited] at next
    have same : (c.step s.now s.process).1 = .watching watch := by simp only [Caller.step, stage]
    simp only [Caller.ahead, same, stage, next, atWatch, Option.elim_some]
    exact ahead_watch_step told s.now
  | calling => by_cases purpose : c.purpose = .requestKill <;> simp [Caller.step, stage, Caller.ahead, purpose]
  | enlisting =>
    simp [Caller.step, stage, Caller.ahead, KernelProcess.watch, ExitWatch.enlisted, ExitWatch.ahead]
  | doubting => simp [Caller.step, stage, Caller.ahead, exited]
  | marking | passedOn | spared => simp [Caller.step, stage, Caller.ahead]

/-- Another caller takes nobody further from an answer. -/
theorem Sound.ahead_other (sound : s.Sound) (done : s.process.reaper = .done) {c : Caller}
    (member : c ∈ s.callers) (d : Caller) :
    c.ahead (d.step s.now s.process).2 ≤ c.ahead s.process := by
  cases stage : c.stage with
  | watching watch =>
    obtain ⟨w, atWatch, -⟩ := (sound.callers c member).watching watch stage
    have told := (sound.watches w (List.mem_of_getElem? atWatch)).told done
    have next := watch_step s.now d atWatch
    have nearer := ahead_watch_step told s.now
    rw [sound.task.exited_of_done done] at next
    simp only [Caller.ahead, stage, next, atWatch, Option.elim_some]
    split <;> omega
  | doubting | marking | calling | enlisting | passedOn | spared => simp [Caller.ahead, stage]

/-- How many steps a caller has ahead of it that is known by its number. -/
def owed (i : Nat) (s : Lifetime) : Nat := s.callers[i]?.elim 0 (·.ahead s.process)

theorem Sound.owed_turn (sound : s.Sound) (done : s.process.reaper = .done) {i : Nat} {c : Caller}
    (found : s.callers[i]? = some c) : owed i (s.act (.turn i)) ≤ owed i s - 1 := by
  have next := getElem?_takeTurn found found
  rw [act_turn found]
  simp only [owed, next, found, if_true, Option.elim_some]
  exact sound.ahead_own done found

/-- When the task is done, only the callers change the process. -/
theorem process_act (done : s.process.reaper = .done) (e : Event) : (s.act e).process = s.process ∨
    ∃ j d, e = .turn j ∧ s.callers[j]? = some d := by
  cases e with
  | task => simp [act, KernelProcess.stepReaper, done]
  | news =>
    rcases s.act_news_cases with same | ⟨status, -, waits, -⟩
    · exact Or.inl (by rw [same])
    · simp [done] at waits
  | turn j =>
    cases found : s.callers[j]? with
    | none => exact Or.inl (by simp only [act, found])
    | some d => exact Or.inr ⟨j, d, rfl, found⟩
  | passes | ends | arrives => exact Or.inl rfl

theorem Sound.owed_act (sound : s.Sound) (done : s.process.reaper = .done) {i : Nat} {c : Caller}
    (found : s.callers[i]? = some c) (e : Event) : owed i (s.act e) ≤ owed i s := by
  by_cases own : e = .turn i
  · have nearer := sound.owed_turn done found
    rw [own]
    omega
  have still := callers_act found own
  simp only [owed, still, found, Option.elim_some]
  rcases process_act done e with same | ⟨j, d, rfl, atJ⟩
  · exact Nat.le_of_eq (by rw [same])
  · rw [act_turn atJ]
    exact sound.ahead_other done (List.mem_of_getElem? found) d

theorem done_act (sound : s.Sound) (done : s.process.reaper = .done) (e : Event) :
    (s.act e).process.reaper = .done := by
  have near := ahead_act_le sound.task e
  have nothing : s.process.ahead = 0 := by simp only [KernelProcess.ahead, done]
  exact done_of_ahead (by omega)

theorem answered_of_ahead {c : Caller} (own : s.CallerSound c) (wants : c.purpose ≠ .requestKill)
    (nothing : c.ahead s.process = 0) : ∃ exited, c.answer? s.process = some exited := by
  cases stage : c.stage with
  | watching watch =>
    obtain ⟨w, atWatch, -⟩ := own.watching watch stage
    simp only [Caller.ahead, stage, atWatch, Option.elim_some, ExitWatch.ahead] at nothing
    simp only [Caller.answer?, stage, KernelProcess.answer?, atWatch, Option.bind_some, ExitWatch.answer?]
    cases reached : w.stage with
    | waiting | looking => simp [reached] at nothing
    | answered exited => exact ⟨exited, rfl⟩
  | passedOn => exact absurd (own.passedOn stage) wants
  | spared => exact ⟨true, by simp only [Caller.answer?, stage]⟩
  | doubting | marking | calling | enlisting => simp [Caller.ahead, stage] at nothing

/-- Everybody who waits for the exit has an answer in the end. -/
theorem Fair.answers (fair : Fair schedule) {n i : Nat} {c : Caller}
    (ended : (after schedule n).ended.isSome = true) (found : (after schedule n).callers[i]? = some c)
    (wants : c.purpose ≠ .requestKill) :
    ∃ m exited, n ≤ m ∧ (after schedule m).answer? i = some exited := by
  obtain ⟨n', later, done⟩ := fair.done ended
  obtain ⟨stage, found⟩ := (later_after schedule later).callers found
  have ends : ∃ m, n' ≤ m ∧ ((after schedule m).process.reaper = .done ∧
      ∃ stage, (after schedule m).callers[i]? = some ⟨c.purpose, stage⟩) ∧ owed i (after schedule m) = 0 := by
    refine comes_to_zero (P := fun s => s.process.reaper = .done ∧
      ∃ stage, s.callers[i]? = some ⟨c.purpose, stage⟩) (owed i) ?_ ?_ ⟨done, stage, found⟩
    · intro s x sound ⟨done, stage, found⟩
      obtain ⟨stage', found'⟩ := (s.later_act x).callers found
      exact ⟨⟨done_act sound done x, stage', found'⟩, sound.owed_act done found x⟩
    · refine fun k positive => ⟨.turn i, fair.turn i, fun s sound ⟨done, stage, found⟩ size => ?_⟩
      have nearer := sound.owed_turn done found
      omega
  obtain ⟨m, later', ⟨-, stage, found⟩, nothing⟩ := ends
  simp only [owed, found, Option.elim_some] at nothing
  have own := (sound_after schedule m).callers _ (List.mem_of_getElem? found)
  obtain ⟨exited, answer⟩ := answered_of_ahead own wants nothing
  refine ⟨m, exited, Nat.le_trans later later', ?_⟩
  simp only [Lifetime.answer?, found, Option.bind_some, answer]

/-- Nobody gives up who still waits when the process has exited. -/
theorem Sound.answer_act (sound : s.Sound) (exited : s.process.exited = true) {i : Nat} {c : Caller}
    (found : s.callers[i]? = some c) (patient : s.answer? i ≠ some false) (e : Event) :
    (s.act e).answer? i ≠ some false := by
  have own := sound.callers c (List.mem_of_getElem? found)
  have onward := (s.later_act e).process
  have watching {watch : Nat} (stage : c.stage = .watching watch) :
      (s.act e).process.answer? watch ≠ some false := by
    obtain ⟨w, atWatch, -⟩ := own.watching watch stage
    obtain ⟨w', atWatch', -, waits⟩ := onward.watches atWatch
    simp only [Lifetime.answer?, found, Option.bind_some, Caller.answer?, stage, KernelProcess.answer?,
      atWatch] at patient
    simp only [KernelProcess.answer?, atWatch', Option.bind_some]
    exact waits exited patient
  by_cases turn : e = .turn i
  · subst turn
    have next := getElem?_takeTurn found found
    rw [if_pos rfl, ← act_turn found] at next
    simp only [Lifetime.answer?, next, Option.bind_some]
    cases stage : c.stage with
    | watching watch => simpa only [Caller.answer?, Caller.step, stage] using watching stage
    | doubting => simp [Caller.answer?, Caller.step, stage, exited]
    | enlisting =>
      simp [act_turn found, Lifetime.takeTurn, Caller.step, stage, Caller.answer?, KernelProcess.answer?,
        KernelProcess.watch, ExitWatch.answer?, ExitWatch.enlisted]
    | calling => by_cases purpose : c.purpose = .requestKill <;> simp [Caller.answer?, Caller.step, stage, purpose]
    | marking | passedOn | spared => simp [Caller.answer?, Caller.step, stage]
  · have still := callers_act found turn
    simp only [Lifetime.answer?, still, found, Option.bind_some] at patient ⊢
    cases stage : c.stage with
    | watching watch => simpa only [Caller.answer?, stage] using watching stage
    | doubting | marking | calling | enlisting | passedOn | spared => simp [Caller.answer?, stage]

theorem patient_after {n m i : Nat} (later : n ≤ m) {c : Caller}
    (exited : (after schedule n).process.exited = true) (found : (after schedule n).callers[i]? = some c)
    (patient : (after schedule n).answer? i ≠ some false) : (after schedule m).answer? i ≠ some false := by
  induction later with
  | refl => exact patient
  | @step m later ih =>
    have onward := later_after schedule later
    obtain ⟨stage, still⟩ := onward.callers found
    exact (sound_after schedule m).answer_act (onward.process.exited exited) still ih (schedule m)

/-- The turn of a caller comes while it stands where it stood. -/
theorem Fair.turn_comes (fair : Fair schedule) {n i : Nat} {c : Caller}
    (found : (after schedule n).callers[i]? = some c) :
    ∃ m, n ≤ m ∧ (after schedule m).callers[i]? = some c ∧ schedule m = .turn i := by
  obtain ⟨m, later, turn⟩ := fair.turn i n
  induction size : m - n generalizing n with
  | zero =>
    obtain rfl : m = n := by omega
    exact ⟨m, later, found, turn⟩
  | succ k ih =>
    by_cases now : schedule n = .turn i
    · exact ⟨n, Nat.le_refl n, found, now⟩
    · have still : (after schedule (n + 1)).callers[i]? = some c := callers_act found now
      obtain ⟨m', later', comes⟩ := ih still (by omega) (by omega)
      exact ⟨m', by omega, comes⟩

/-- A caller that wants the program killed notes its request, unless the process has exited. -/
theorem Fair.requests (fair : Fair schedule) {n : Nat} {purpose : Purpose}
    (arrives : schedule n = .arrives purpose) (kills : purpose.kills = true) :
    ∃ m, n ≤ m ∧ ((after schedule m).process.exited = true ∨ (after schedule m).process.killRequested = true) := by
  have marks {n i : Nat} (found : (after schedule n).callers[i]? = some ⟨purpose, .marking⟩) :
      ∃ m, n ≤ m ∧ (after schedule m).process.killRequested = true := by
    obtain ⟨m, later, found, turn⟩ := fair.turn_comes found
    refine ⟨m + 1, Nat.le_succ_of_le later, ?_⟩
    rw [after, turn, act_turn found]
    rfl
  have fresh : (after schedule (n + 1)).callers[(after schedule n).callers.length]? = some (.fresh purpose) := by
    simp only [after, arrives, act, List.getElem?_concat_length]
  cases purpose with
  | waitForExit | exited => contradiction
  | requestKill =>
    obtain ⟨m, later, requested⟩ := marks fresh
    exact ⟨m, by omega, Or.inr requested⟩
  | kill deadline =>
    obtain ⟨m, later, found, turn⟩ := fair.turn_comes fresh
    by_cases exited : (after schedule m).process.exited = true
    · exact ⟨m, by omega, Or.inl exited⟩
    have next : (after schedule (m + 1)).callers[(after schedule n).callers.length]? =
        some ⟨.kill deadline, .marking⟩ := by
      rw [after, turn, act_turn found, getElem?_takeTurn found found]
      simp [Caller.step, Caller.fresh, exited]
    obtain ⟨m', later', requested⟩ := marks next
    exact ⟨m', by omega, Or.inr requested⟩

theorem Sound.ended (sound : s.Sound) (exited : s.process.isAlive = false) :
    s.ended = some s.process.exitCode := by
  have gone : s.process.exited = true := by simpa [KernelProcess.isAlive] using exited
  exact sound.task.recorded (Or.inr (sound.task.marked.symm.trans gone))

theorem Sound.answered_true (sound : s.Sound) {i : Nat} (answer : s.answer? i = some true) :
    s.process.isAlive = false := by
  obtain ⟨c, found, answer⟩ := Option.bind_eq_some_iff.mp answer
  have own := sound.callers c (List.mem_of_getElem? found)
  unfold Caller.answer? at answer
  split at answer
  · obtain ⟨w, atWatch, answer⟩ := Option.bind_eq_some_iff.mp answer
    have watch := sound.watches w (List.mem_of_getElem? atWatch)
    unfold ExitWatch.answer? at answer
    split at answer
    · obtain rfl := Option.some.inj answer
      simp only [KernelProcess.isAlive, watch.exited ‹_›, Bool.not_true]
    · contradiction
  · simp only [KernelProcess.isAlive, own.spared ‹_›, Bool.not_true]
  · contradiction

theorem Sound.answered_false (sound : s.Sound) {i : Nat} (answer : s.answer? i = some false) :
    ∃ c deadline, s.callers[i]? = some c ∧ c.purpose.deadline? = some deadline ∧ deadline ≤ s.now := by
  obtain ⟨c, found, answer⟩ := Option.bind_eq_some_iff.mp answer
  have own := sound.callers c (List.mem_of_getElem? found)
  unfold Caller.answer? at answer
  split at answer
  · rename_i watch stage
    obtain ⟨w, atWatch, answer⟩ := Option.bind_eq_some_iff.mp answer
    have known := sound.watches w (List.mem_of_getElem? atWatch)
    unfold ExitWatch.answer? at answer
    split at answer
    · obtain rfl := Option.some.inj answer
      obtain ⟨deadline, given, passed⟩ := known.expired ‹_›
      obtain ⟨w', atWatch', same⟩ := own.watching watch stage
      obtain rfl := Option.some.inj (atWatch.symm.trans atWatch')
      exact ⟨c, deadline, found, same.symm.trans given, passed⟩
    · contradiction
  · cases answer
  · contradiction

theorem dead_iff {p : KernelProcess} : p.isAlive = false ↔ p.exited = true := by
  simp only [KernelProcess.isAlive, Bool.not_eq_eq_eq_not, Bool.not_false]

theorem dead_after {n m : Nat} (later : n ≤ m) (dead : (after schedule n).process.isAlive = false) :
    (after schedule m).process.isAlive = false ∧
      (after schedule n).ended = some (after schedule m).process.exitCode := by
  have onward := later_after schedule later
  have still := dead_iff.mpr (onward.process.exited (dead_iff.mp dead))
  have first := (sound_after schedule n).ended dead
  have last := (sound_after schedule m).ended still
  exact ⟨still, by rw [first, ← onward.ended first, last]⟩

/-- The task kills the program for a request, or has found that it has ended. -/
theorem Fair.kills (fair : Fair schedule) {n : Nat} (asked : (after schedule n).process.killRequested = true ∨
      ∃ purpose, schedule n = .arrives purpose ∧ purpose.kills = true) :
    ∃ m, n ≤ m ∧ ((after schedule m).killed = true ∨
      ((after schedule m).process.reaper.found = true ∧ (after schedule m).ended.isSome = true)) := by
  have noted : ∃ m, n ≤ m ∧ ((after schedule m).process.exited = true ∨
      (after schedule m).process.killRequested = true) := by
    rcases asked with requested | ⟨purpose, arrives, kills⟩
    · exact ⟨n, Nat.le_refl n, Or.inr requested⟩
    · exact fair.requests arrives kills
  obtain ⟨m, later, exited | requested⟩ := noted
  · have task := (sound_after schedule m).task
    have marked := task.marked.symm.trans exited
    have found : (after schedule m).process.reaper.found = true := by
      cases reaper : (after schedule m).process.reaper <;> simp_all [Reaper.marked, Reaper.found]
    exact ⟨m, later, Or.inr ⟨found, task.found found⟩⟩
  · obtain ⟨m', later', killed | found⟩ := fair.answered requested
    · exact ⟨m', Nat.le_trans later later', Or.inl killed⟩
    · exact ⟨m', Nat.le_trans later later', Or.inr ⟨found, (sound_after schedule m').task.found found⟩⟩

theorem Fair.exits (fair : Fair schedule) {n : Nat}
    (doomed : (after schedule n).ended.isSome = true ∨ (after schedule n).killed = true) :
    ∃ m, n ≤ m ∧ (after schedule m).process.isAlive = false := by
  have ends : ∃ m, n ≤ m ∧ (after schedule m).ended.isSome = true := by
    rcases doomed with ended | killed
    · exact ⟨n, Nat.le_refl n, ended⟩
    · exact fair.deadly n killed
  obtain ⟨m, later, ended⟩ := ends
  obtain ⟨m', later', done⟩ := fair.done ended
  exact ⟨m', Nat.le_trans later later', dead_iff.mpr ((sound_after schedule m').task.exited_of_done done)⟩

/-- Who has not given up before the exit learns of it. -/
theorem Fair.learns (fair : Fair schedule) {n i : Nat} {c : Caller}
    (dead : (after schedule n).process.isAlive = false) (found : (after schedule n).callers[i]? = some c)
    (wants : c.purpose ≠ .requestKill) (patient : (after schedule n).answer? i ≠ some false) :
    ∃ m, n ≤ m ∧ (after schedule m).answer? i = some true := by
  have ended : (after schedule n).ended.isSome = true := by rw [(sound_after schedule n).ended dead]; rfl
  obtain ⟨m, exited, later, answer⟩ := fair.answers ended found wants
  have waits := patient_after later (dead_iff.mp dead) found patient
  cases exited with
  | true => exact ⟨m, later, answer⟩
  | false => exact absurd answer waits

/-- However the task and its callers take turns, an exit is final and recorded when it can be seen, and nobody
is told of one that has not happened. If everybody goes on, no request is lost and nobody waits behind the
exit. -/
theorem nothing_goes_unnoticed (schedule : Nat → Event) :
    (∀ n m, n ≤ m → (after schedule n).process.isAlive = false →
      (after schedule m).process.isAlive = false ∧
        (after schedule n).ended = some (after schedule m).process.exitCode) ∧
    (∀ n i, (after schedule n).answer? i = some true → (after schedule n).process.isAlive = false) ∧
    (∀ n i, (after schedule n).answer? i = some false → ∃ c deadline,
      (after schedule n).callers[i]? = some c ∧ c.purpose.deadline? = some deadline ∧
        deadline ≤ (after schedule n).now) ∧
    (Fair schedule →
      (∀ n, ((after schedule n).process.killRequested = true ∨
          ∃ purpose, schedule n = .arrives purpose ∧ purpose.kills = true) →
        ∃ m, n ≤ m ∧ ((after schedule m).killed = true ∨
          ((after schedule m).process.reaper.found = true ∧ (after schedule m).ended.isSome = true))) ∧
      (∀ n, (after schedule n).ended.isSome = true ∨ (after schedule n).killed = true →
        ∃ m, n ≤ m ∧ (after schedule m).process.isAlive = false) ∧
      (∀ n i c, (after schedule n).ended.isSome = true → (after schedule n).callers[i]? = some c →
        c.purpose ≠ .requestKill → ∃ m exited, n ≤ m ∧ (after schedule m).answer? i = some exited) ∧
      (∀ n i c, (after schedule n).process.isAlive = false → (after schedule n).callers[i]? = some c →
        c.purpose ≠ .requestKill → (after schedule n).answer? i ≠ some false →
        ∃ m, n ≤ m ∧ (after schedule m).answer? i = some true)) := by
  refine ⟨fun n m => dead_after, fun n i => (sound_after schedule n).answered_true,
    fun n i => (sound_after schedule n).answered_false, fun fair => ⟨?_, ?_, ?_, ?_⟩⟩
  · intro n asked
    exact fair.kills asked
  · intro n doomed
    exact fair.exits doomed
  · intro n i c ended found wants
    exact fair.answers ended found wants
  · intro n i c dead found wants patient
    exact fair.learns dead found wants patient

/-- Some events, and then the task and every caller in turn. -/
def inTurn (first : List Event) (n : Nat) : Event :=
  first[n]?.getD <|
    if n % 3 = 0 then .task else if n % 3 = 1 then .news else .turn (Nat.unpair (n / 3)).1

theorem inTurn_of_le {first : List Event} {n : Nat} (behind : first.length ≤ n) : inTurn first n =
    if n % 3 = 0 then .task else if n % 3 = 1 then .news else .turn (Nat.unpair (n / 3)).1 := by
  simp only [inTurn, List.getElem?_eq_none behind, Option.getD_none]

theorem fair_inTurn {first : List Event} {n : Nat} (ends : (after (inTurn first) n).ended.isSome = true) :
    Fair (inTurn first) where
  task k := ⟨3 * (k + first.length), by omega, by rw [inTurn_of_le (by omega), if_pos (by omega)]⟩
  news k := by
    refine ⟨3 * (k + first.length) + 1, by omega, ?_⟩
    rw [inTurn_of_le (by omega), if_neg (by omega), if_pos (by omega)]
  turn i k := by
    have far := Nat.right_le_pair i (k + first.length)
    refine ⟨3 * Nat.pair i (k + first.length) + 2, by omega, ?_⟩
    have third : (3 * Nat.pair i (k + first.length) + 2) / 3 = Nat.pair i (k + first.length) := by omega
    rw [inTurn_of_le (by omega), if_neg (by omega), if_neg (by omega), third, Nat.unpair_pair]
  deadly k _ := by
    obtain ⟨status, ended⟩ := Option.isSome_iff_exists.mp ends
    refine ⟨max k n, Nat.le_max_left k n, ?_⟩
    rw [(later_after _ (Nat.le_max_right k n)).ended ended]
    rfl

/-- A caller kills the program and waits for its exit beside another, and the task is a little late. -/
def killing : Nat → Event :=
  inTurn [.task, .task, .arrives (.kill 100), .arrives .exited, .turn 0, .turn 0, .turn 0, .turn 0, .turn 1,
    .turn 0, .turn 1, .task, .task, .task, .ends none]

theorem killing_is_noticed : Fair killing ∧ (after killing 6).process.killRequested = true ∧
    (after killing 6).killed = false ∧ (after killing 15).process.isAlive = true ∧
    (∃ m, 6 ≤ m ∧ ((after killing m).killed = true ∨
      ((after killing m).process.reaper.found = true ∧ (after killing m).ended.isSome = true))) ∧
    (∃ m, 15 ≤ m ∧ (after killing m).process.isAlive = false) ∧
    ∃ m exited, 15 ≤ m ∧ (after killing m).answer? 1 = some exited := by
  have fair : Fair killing := @fair_inTurn _ 15 rfl
  obtain ⟨-, -, -, live⟩ := nothing_goes_unnoticed killing
  obtain ⟨kills, exits, answers, -⟩ := live fair
  exact ⟨fair, rfl, rfl, rfl, kills 6 (Or.inl rfl), exits 15 (Or.inl rfl),
    answers 15 1 ⟨.exited, .watching 1⟩ rfl rfl nofun⟩

end Lifetime
end KernelLink
