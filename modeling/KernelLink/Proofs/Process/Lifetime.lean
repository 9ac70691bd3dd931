import KernelLink.Process.Basic
import Mathlib.Data.List.Basic

namespace KernelLink

/-- What a caller wants of a process. A caller that waits for the exit may do so up to a deadline. -/
inductive Purpose where
  | requestKill
  | kill (deadline : Nat)
  | waitForExit (deadline : Nat)
  | exited
  deriving DecidableEq, Repr

def Purpose.deadline? : Purpose → Option Nat
  | requestKill => none
  | kill deadline => some deadline
  | waitForExit deadline => some deadline
  | exited => none

/-- Whether the caller asks for the program to be killed. -/
def Purpose.kills : Purpose → Bool
  | requestKill => true
  | kill _ => true
  | _ => false

/-- How far a caller has come. Every stage ends with a single access to what the callers and the task
share. -/
inductive CallStage where
  /-- It is about to look whether there is anything left to kill. -/
  | doubting
  | marking
  | calling
  /-- It has passed its request on, and does not wait. -/
  | passedOn
  | enlisting
  | watching (watch : Nat)
  /-- The process had exited before the caller did anything. -/
  | spared
  deriving DecidableEq, Repr

structure Caller where
  purpose : Purpose
  stage : CallStage
  deriving DecidableEq, Repr

/-- A watch alone does what comes next. -/
def KernelProcess.stepWatch (p : KernelProcess) (now watch : Nat) : KernelProcess :=
  { p with watches := p.watches.modify watch (ExitWatch.step p.exited now) }

namespace Caller

def fresh : Purpose → Caller
  | .requestKill => ⟨.requestKill, .marking⟩
  | .kill deadline => ⟨.kill deadline, .doubting⟩
  | .waitForExit deadline => ⟨.waitForExit deadline, .enlisting⟩
  | .exited => ⟨.exited, .enlisting⟩

/-- The stage behind the access that a caller makes next, and what the access does to the process. -/
def step (now : Nat) (p : KernelProcess) (c : Caller) : CallStage × KernelProcess :=
  match c.stage with
  | .doubting => (if p.exited then .spared else .marking, p)
  | .marking => (.calling, p.markKill)
  | .calling => (if c.purpose = .requestKill then .passedOn else .enlisting, p.callReaper)
  | .passedOn => (.passedOn, p)
  | .enlisting => (.watching (p.watch c.purpose.deadline?).1, (p.watch c.purpose.deadline?).2)
  | .watching watch => (.watching watch, p.stepWatch now watch)
  | .spared => (.spared, p)

def answer? (p : KernelProcess) (c : Caller) : Option Bool :=
  match c.stage with
  | .watching watch => p.answer? watch
  | .spared => some true
  | _ => none

end Caller

/-- A process between the program, the task that waits for it and any number of callers. -/
structure Lifetime where
  now : Nat
  /-- How the program ended, once it has. -/
  ended : Option ExitStatus
  /-- Whether the task has killed the program. -/
  killed : Bool
  process : KernelProcess
  callers : List Caller

namespace Lifetime

/-- What may happen next, in any order. -/
inductive Event where
  | passes (wait : Nat)
  | ends (status : ExitStatus)
  /-- The task takes a step. -/
  | task
  /-- The task is told that the program has ended, if it has. -/
  | news
  | arrives (purpose : Purpose)
  /-- A caller takes a step. -/
  | turn (caller : Nat)

def start : Lifetime := ⟨0, none, false, .started, []⟩

def takeTurn (s : Lifetime) (i : Nat) (c : Caller) : Lifetime :=
  { s with
    process := (c.step s.now s.process).2
    callers := s.callers.set i ⟨c.purpose, (c.step s.now s.process).1⟩ }

def act (s : Lifetime) : Event → Lifetime
  | .passes wait => { s with now := s.now + wait }
  | .ends status => { s with ended := s.ended.or (some status) }
  | .task => { s with process := s.process.stepReaper.1, killed := s.killed || s.process.stepReaper.2 }
  | .news =>
    match s.ended with
    | some status => { s with process := s.process.noticeEnd status }
    | none => s
  | .arrives purpose => { s with callers := s.callers ++ [.fresh purpose] }
  | .turn i =>
    match s.callers[i]? with
    | some c => s.takeTurn i c
    | none => s

/-- Where the first events of a schedule lead. -/
def after (schedule : Nat → Event) : Nat → Lifetime
  | 0 => start
  | n + 1 => (after schedule n).act (schedule n)

def answer? (s : Lifetime) (i : Nat) : Option Bool := s.callers[i]?.bind (·.answer? s.process)

end Lifetime

/-- The task that waits for the program has found it ended. -/
def Reaper.found : Reaper → Bool
  | recording _ => true
  | closing => true
  | announcing => true
  | done => true
  | _ => false

/-- The task has marked the process as exited. -/
def Reaper.marked : Reaper → Bool
  | announcing => true
  | done => true
  | _ => false

namespace Lifetime

/-- What the task has done agrees with what has become of the program. -/
structure TaskSound (s : Lifetime) : Prop where
  marked : s.process.exited = s.process.reaper.marked
  found : s.process.reaper.found = true → s.ended.isSome = true
  recording : ∀ status, s.process.reaper = .recording status → s.ended = some status
  recorded : s.process.reaper = .closing ∨ s.process.reaper.marked = true → s.ended = some s.process.exitCode
  reaping : s.process.reaper = .reaping → s.killed = true
  requested : s.process.called = true → s.process.killRequested = true

/-- A watch answers what is true, and it is told of an exit that it waits for. -/
structure WatchSound (s : Lifetime) (w : ExitWatch) : Prop where
  exited : w.stage = .answered true → s.process.exited = true
  expired : w.stage = .answered false → ∃ deadline, w.deadline = some deadline ∧ deadline ≤ s.now
  noticed : w.noticed = true → s.process.exited = true
  told : s.process.reaper = .done → w.stage = .waiting → w.noticed = true

structure CallerSound (s : Lifetime) (c : Caller) : Prop where
  spared : c.stage = .spared → s.process.exited = true
  requested : c.stage = .calling → s.process.killRequested = true
  passedOn : c.stage = .passedOn → c.purpose = .requestKill
  watching : ∀ watch, c.stage = .watching watch →
    ∃ w, s.process.watches[watch]? = some w ∧ w.deadline = c.purpose.deadline?

structure Sound (s : Lifetime) : Prop where
  task : s.TaskSound
  watches : ∀ w ∈ s.process.watches, s.WatchSound w
  callers : ∀ c ∈ s.callers, s.CallerSound c
  /-- A task that waits has been called after a request, or somebody is about to call it. -/
  heard : s.process.killRequested = true → s.process.reaper = .waiting → s.process.called = false →
    ∃ (i : Nat) (c : Caller), s.callers[i]? = some c ∧ c.stage = .calling

end Lifetime

namespace KernelProcess

variable {p q r : KernelProcess}

/-- Neither an exit nor a request is taken back, a watch keeps its number and its deadline, and nobody gives
up who waits behind the exit. -/
structure Onward (p q : KernelProcess) : Prop where
  exited : p.exited = true → q.exited = true
  requested : p.killRequested = true → q.killRequested = true
  watches : ∀ {i : Nat} {w : ExitWatch}, p.watches[i]? = some w → ∃ w', q.watches[i]? = some w' ∧
    w'.deadline = w.deadline ∧ (p.exited = true → w.answer? ≠ some false → w'.answer? ≠ some false)

theorem Onward.refl (p : KernelProcess) : p.Onward p where
  exited exited := exited
  requested requested := requested
  watches found := ⟨_, found, rfl, fun _ patient => patient⟩

theorem Onward.trans (first : p.Onward q) (second : q.Onward r) : p.Onward r where
  exited exited := second.exited (first.exited exited)
  requested requested := second.requested (first.requested requested)
  watches found := by
    obtain ⟨w', found, same, patient⟩ := first.watches found
    obtain ⟨w'', found, same', patient'⟩ := second.watches found
    refine ⟨w'', found, same'.trans same, fun exited waits => ?_⟩
    exact patient' (first.exited exited) (patient exited waits)

/-- A process whose watches are as they were goes on if its exit and its request do. -/
theorem onward_of_watches (same : q.watches = p.watches) (exited : p.exited = true → q.exited = true)
    (requested : p.killRequested = true → q.killRequested = true) : p.Onward q where
  exited := exited
  requested := requested
  watches found := ⟨_, by rw [same, found], rfl, fun _ patient => patient⟩

theorem onward_callReaper (p : KernelProcess) : p.Onward p.callReaper := by
  unfold callReaper
  split <;> exact onward_of_watches rfl id id

theorem onward_watch (p : KernelProcess) (deadline : Option Nat) : p.Onward (p.watch deadline).2 where
  exited exited := exited
  requested requested := requested
  watches found := by
    have inside := (List.getElem?_eq_some_iff.mp found).1
    exact ⟨_, (List.getElem?_append_left inside).trans found, rfl, fun _ patient => patient⟩

theorem deadline_step (exited : Bool) (now : Nat) (w : ExitWatch) :
    (w.step exited now).deadline = w.deadline := by
  obtain ⟨deadline, stage, noticed⟩ := w
  cases stage <;> cases deadline <;> simp only [ExitWatch.step] <;> split <;> try split
  all_goals rfl

theorem answer_step (now : Nat) {w : ExitWatch} (patient : w.answer? ≠ some false) :
    (w.step true now).answer? ≠ some false := by
  obtain ⟨deadline, stage, noticed⟩ := w
  cases stage with
  | looking => exact nofun
  | waiting =>
    cases deadline with
    | none => cases noticed <;> exact nofun
    | some deadline =>
      simp only [ExitWatch.step]
      split
      · exact nofun
      · split <;> exact nofun
  | answered => exact patient

theorem onward_stepWatch (p : KernelProcess) (now watch : Nat) : p.Onward (p.stepWatch now watch) where
  exited exited := exited
  requested requested := requested
  watches {i w} found := by
    simp only [stepWatch, List.getElem?_modify, found, Option.map_eq_map, Option.map_some,
      Option.some.injEq, exists_eq_left']
    split
    · refine ⟨deadline_step p.exited now w, fun exited patient => ?_⟩
      rw [exited]
      exact answer_step now patient
    · exact ⟨rfl, fun _ patient => patient⟩

theorem onward_stepReaper (p : KernelProcess) : p.Onward p.stepReaper.1 := by
  unfold stepReaper
  split
  case h_7 =>
    refine ⟨id, id, fun {i w} found => ⟨{ w with noticed := true }, ?_, rfl, fun _ patient => patient⟩⟩
    simp only [List.getElem?_map, found, Option.map_some]
  all_goals try split
  all_goals first
    | exact onward_of_watches rfl id id
    | exact onward_of_watches rfl (fun _ => rfl) id

end KernelProcess

theorem Caller.onward_step (now : Nat) (p : KernelProcess) (c : Caller) : p.Onward (c.step now p).2 := by
  unfold step
  cases c.stage with
  | marking => exact KernelProcess.onward_of_watches rfl id fun _ => rfl
  | calling => exact p.onward_callReaper
  | enlisting => exact p.onward_watch c.purpose.deadline?
  | watching watch => exact p.onward_stepWatch now watch
  | doubting | passedOn | spared => exact .refl p

namespace Lifetime

variable {s t u : Lifetime}

/-- What stays, whatever happens. -/
structure Later (s t : Lifetime) : Prop where
  now : s.now ≤ t.now
  ended : ∀ {status}, s.ended = some status → t.ended = some status
  killed : s.killed = true → t.killed = true
  process : s.process.Onward t.process
  callers : ∀ {i : Nat} {c : Caller}, s.callers[i]? = some c → ∃ stage, t.callers[i]? = some ⟨c.purpose, stage⟩

theorem Later.refl (s : Lifetime) : s.Later s where
  now := Nat.le_refl s.now
  ended ended := ended
  killed killed := killed
  process := .refl s.process
  callers found := ⟨_, found⟩

theorem Later.trans (first : s.Later t) (second : t.Later u) : s.Later u where
  now := Nat.le_trans first.now second.now
  ended ended := second.ended (first.ended ended)
  killed killed := second.killed (first.killed killed)
  process := first.process.trans second.process
  callers found := by
    obtain ⟨stage, found⟩ := first.callers found
    obtain ⟨stage', found⟩ := second.callers found
    exact ⟨stage', found⟩

theorem getElem?_takeTurn {i j : Nat} {c d : Caller} (atI : s.callers[i]? = some c)
    (atJ : s.callers[j]? = some d) : (s.takeTurn i c).callers[j]? =
      some (if i = j then ⟨c.purpose, (c.step s.now s.process).1⟩ else d) := by
  by_cases same : i = j
  · subst same
    have inside := (List.getElem?_eq_some_iff.mp atI).1
    simp only [takeTurn, List.getElem?_set_self inside, if_true]
  · simp only [takeTurn, List.getElem?_set_ne same, atJ, same, if_false]

theorem act_turn {i : Nat} {c : Caller} (found : s.callers[i]? = some c) : s.act (.turn i) = s.takeTurn i c := by
  simp only [act, found]

theorem later_takeTurn {i : Nat} {c : Caller} (found : s.callers[i]? = some c) :
    s.Later (s.takeTurn i c) where
  now := Nat.le_refl s.now
  ended ended := ended
  killed killed := killed
  process := c.onward_step s.now s.process
  callers {j d} atJ := by
    rw [getElem?_takeTurn found atJ]
    split
    · rename_i same
      subst same
      obtain rfl := Option.some.inj (found.symm.trans atJ)
      exact ⟨_, rfl⟩
    · exact ⟨d.stage, rfl⟩

theorem later_act (s : Lifetime) (e : Event) : s.Later (s.act e) := by
  have still := Later.refl s
  cases e with
  | passes wait => exact { still with now := Nat.le_add_right s.now wait }
  | ends status => exact { still with ended := fun ended => by simp only [act, ended, Option.some_or] }
  | task =>
    have killed : s.killed = true → (s.killed || s.process.stepReaper.2) = true := by simp +contextual
    exact { still with killed, process := s.process.onward_stepReaper }
  | news =>
    simp only [act]
    split
    · refine { still with process := ?_ }
      unfold KernelProcess.noticeEnd
      split <;> exact KernelProcess.onward_of_watches rfl id id
    · exact still
  | arrives purpose =>
    refine { still with callers := fun {i c} found => ⟨c.stage, ?_⟩ }
    exact (List.getElem?_append_left (List.getElem?_eq_some_iff.mp found).1).trans found
  | turn i =>
    simp only [act]
    split
    · exact later_takeTurn ‹_›
    · exact still

theorem later_after (schedule : Nat → Event) {n m : Nat} (before : n ≤ m) :
    (after schedule n).Later (after schedule m) := by
  induction before with
  | refl => exact .refl _
  | step _ ih => exact ih.trans (later_act _ _)

theorem taskSound_start : start.TaskSound := by
  constructor <;> simp [start, KernelProcess.started, Reaper.marked, Reaper.found]

theorem TaskSound.task (sound : s.TaskSound) : (s.act .task).TaskSound := by
  obtain ⟨now, ended, killed, ⟨exited, code, requested, called, reaper, watches⟩, callers⟩ := s
  obtain ⟨marked, found, recording, recorded, reaping, wanted⟩ := sound
  simp only at marked found recording recorded reaping wanted
  cases reaper with
  | looking =>
    cases requested <;> constructor <;> simp_all [act, KernelProcess.stepReaper, Reaper.marked, Reaper.found]
  | waiting =>
    cases called <;> constructor <;> simp_all [act, KernelProcess.stepReaper, Reaper.marked, Reaper.found]
  | enlisting | reaping | recording | closing | announcing | done =>
    constructor <;> simp_all [act, KernelProcess.stepReaper, Reaper.marked, Reaper.found]

theorem TaskSound.news (sound : s.TaskSound) : (s.act .news).TaskSound := by
  obtain ⟨now, ended, killed, ⟨exited, code, requested, called, reaper, watches⟩, callers⟩ := s
  obtain ⟨marked, found, recording, recorded, reaping, wanted⟩ := sound
  simp only at marked found recording recorded reaping wanted
  cases ended with
  | none => constructor <;> assumption
  | some status =>
    cases reaper <;> constructor <;> simp_all [act, KernelProcess.noticeEnd, Reaper.marked, Reaper.found]

theorem TaskSound.ends (sound : s.TaskSound) (status : ExitStatus) : (s.act (.ends status)).TaskSound := by
  have kept {found : ExitStatus} (ended : s.ended = some found) : s.ended.or (some status) = some found := by
    rw [ended, Option.some_or]
  exact { sound with
    found := fun found => by simp only [act, Option.isSome_or, sound.found found, Bool.true_or]
    recording := fun found recording => kept (sound.recording found recording)
    recorded := fun recorded => kept (sound.recorded recorded) }

/-- What a caller does to a process leaves the task with what it had, and with the same reasons to kill. -/
theorem TaskSound.takeTurn (sound : s.TaskSound) {c : Caller} (own : s.CallerSound c) (i : Nat) :
    (s.takeTurn i c).TaskSound := by
  unfold Lifetime.takeTurn Caller.step
  cases stage : c.stage with
  | marking => exact { sound with requested := fun _ => rfl }
  | calling =>
    simp only [KernelProcess.callReaper]
    split
    · exact { sound with requested := fun _ => own.requested stage }
    · exact { sound with requested := fun _ => own.requested stage }
    · exact { sound with }
  | doubting | passedOn | enlisting | watching | spared => exact { sound with }

theorem TaskSound.exited_of_done (sound : s.TaskSound) (done : s.process.reaper = .done) :
    s.process.exited = true := by
  rw [sound.marked, done]
  rfl

theorem WatchSound.later {w : ExitWatch} (sound : s.WatchSound w) (later : s.Later t)
    (done : t.process.reaper = .done → s.process.reaper = .done) : t.WatchSound w where
  exited answered := later.process.exited (sound.exited answered)
  expired answered := by
    obtain ⟨deadline, given, passed⟩ := sound.expired answered
    exact ⟨deadline, given, Nat.le_trans passed later.now⟩
  noticed noticed := later.process.exited (sound.noticed noticed)
  told gone := sound.told (done gone)

theorem watchSound_enlisted (s : Lifetime) (deadline : Option Nat) : s.WatchSound (.enlisted deadline) := by
  constructor <;> simp [ExitWatch.enlisted]

theorem WatchSound.step {w : ExitWatch} (sound : s.WatchSound w) (task : s.TaskSound) :
    s.WatchSound (w.step s.process.exited s.now) := by
  obtain ⟨deadline, stage, noticed⟩ := w
  obtain ⟨exited, expired, known, told⟩ := sound
  simp only at exited expired known told
  cases stage with
  | looking =>
    cases gone : s.process.exited with
    | true => constructor <;> simp_all [ExitWatch.step]
    | false =>
      have busy : s.process.reaper ≠ .done := fun done => by simp [task.exited_of_done done] at gone
      constructor <;> simp_all [ExitWatch.step]
  | waiting =>
    cases noticed with
    | true => cases deadline <;> constructor <;> simp_all [ExitWatch.step, ExitWatch.enlisted]
    | false =>
      cases deadline with
      | none => constructor <;> simp_all [ExitWatch.step]
      | some deadline =>
        simp only [ExitWatch.step]
        split
        · contradiction
        · split <;> constructor <;> simp_all
  | answered => exact ⟨exited, expired, known, told⟩

theorem CallerSound.later {c : Caller} (sound : s.CallerSound c) (later : s.Later t) : t.CallerSound c where
  spared spared := later.process.exited (sound.spared spared)
  requested calling := later.process.requested (sound.requested calling)
  passedOn := sound.passedOn
  watching watch watching := by
    obtain ⟨w, found, own⟩ := sound.watching watch watching
    obtain ⟨w', found, same, -⟩ := later.process.watches found
    exact ⟨w', found, same.trans own⟩

theorem mem_watches_step {now : Nat} {p : KernelProcess} {c : Caller} {w : ExitWatch}
    (member : w ∈ (c.step now p).2.watches) :
    w ∈ p.watches ∨ (∃ deadline, w = .enlisted deadline) ∨ ∃ v ∈ p.watches, w = v.step p.exited now := by
  unfold Caller.step at member
  cases stage : c.stage with
  | calling =>
    simp only [stage, KernelProcess.callReaper] at member
    split at member <;> exact Or.inl member
  | enlisting =>
    simp only [stage, KernelProcess.watch, List.mem_append, List.mem_singleton] at member
    exact member.imp_right fun new => Or.inl ⟨_, new⟩
  | watching watch =>
    simp only [stage, KernelProcess.stepWatch] at member
    obtain ⟨i, inside, at_⟩ := List.mem_iff_getElem.mp member
    rw [List.getElem_modify] at at_
    have old := List.getElem_mem (List.length_modify .. ▸ inside)
    split at at_
    · exact Or.inr (Or.inr ⟨_, old, at_.symm⟩)
    · exact Or.inl (at_ ▸ old)
  | doubting | marking | passedOn | spared => simpa only [stage, KernelProcess.markKill] using Or.inl member

theorem reaper_step (now : Nat) (p : KernelProcess) (c : Caller) : (c.step now p).2.reaper = p.reaper := by
  unfold Caller.step
  cases c.stage with
  | calling => simp only [KernelProcess.callReaper]; split <;> rfl
  | _ => rfl

theorem mem_watches_stepReaper {p : KernelProcess} {w : ExitWatch} (member : w ∈ p.stepReaper.1.watches) :
    (w ∈ p.watches ∧ (p.stepReaper.1.reaper = .done → p.reaper = .done)) ∨
      (p.reaper = .announcing ∧ ∃ v ∈ p.watches, w = { v with noticed := true }) := by
  unfold KernelProcess.stepReaper at member ⊢
  split at member
  case h_7 announcing =>
    obtain ⟨v, old, told⟩ := List.mem_map.mp member
    exact Or.inr ⟨announcing, v, old, told.symm⟩
  all_goals try split at member
  all_goals simp_all

theorem Sound.watches_task (sound : s.Sound) :
    ∀ w ∈ (s.act .task).process.watches, (s.act .task).WatchSound w := by
  intro w member
  have later := s.later_act .task
  rcases mem_watches_stepReaper member with ⟨old, done⟩ | ⟨announcing, v, old, rfl⟩
  · exact (sound.watches w old).later later done
  · have known := sound.watches v old
    have exited : s.process.exited = true := by rw [sound.task.marked, announcing]; rfl
    refine ⟨fun answered => later.process.exited (known.exited answered), known.expired, ?_, fun _ _ => rfl⟩
    exact fun _ => later.process.exited exited

theorem Sound.watches_takeTurn (sound : s.Sound) {i : Nat} {c : Caller} (found : s.callers[i]? = some c) :
    ∀ w ∈ (s.takeTurn i c).process.watches, (s.takeTurn i c).WatchSound w := by
  intro w member
  have known : s.WatchSound w := by
    rcases mem_watches_step member with old | ⟨deadline, rfl⟩ | ⟨v, old, rfl⟩
    · exact sound.watches w old
    · exact watchSound_enlisted s deadline
    · exact (sound.watches v old).step sound.task
  exact known.later (later_takeTurn found) fun done => (reaper_step s.now s.process c).symm.trans done

theorem CallerSound.takeTurn {c : Caller} (own : s.CallerSound c) {i : Nat}
    (found : s.callers[i]? = some c) :
    (s.takeTurn i c).CallerSound ⟨c.purpose, (c.step s.now s.process).1⟩ := by
  have later := later_takeTurn found
  cases stage : c.stage with
  | doubting =>
    simp only [Lifetime.takeTurn, Caller.step, stage]
    split
    · rename_i exited
      exact ⟨fun _ => exited, nofun, nofun, nofun⟩
    · exact ⟨nofun, nofun, nofun, nofun⟩
  | marking =>
    simp only [Lifetime.takeTurn, Caller.step, stage]
    exact ⟨nofun, fun _ => rfl, nofun, nofun⟩
  | calling =>
    simp only [Lifetime.takeTurn, Caller.step, stage]
    split
    · rename_i purpose
      exact ⟨nofun, nofun, fun _ => purpose, nofun⟩
    · exact ⟨nofun, nofun, nofun, nofun⟩
  | enlisting =>
    simp only [Lifetime.takeTurn, Caller.step, stage]
    refine ⟨nofun, nofun, nofun, fun watch watching => ⟨.enlisted c.purpose.deadline?, ?_, rfl⟩⟩
    obtain rfl := CallStage.watching.inj watching
    simp only [KernelProcess.watch, List.getElem?_concat_length]
  | passedOn | watching | spared =>
    have same : (c.step s.now s.process).1 = c.stage := by simp only [Caller.step, stage]
    rw [same]
    exact own.later later

theorem Sound.callers_takeTurn (sound : s.Sound) {i : Nat} {c : Caller} (found : s.callers[i]? = some c) :
    ∀ d ∈ (s.takeTurn i c).callers, (s.takeTurn i c).CallerSound d := by
  intro d member
  rcases List.mem_or_eq_of_mem_set member with old | rfl
  · exact (sound.callers d old).later (later_takeTurn found)
  · exact (sound.callers c (List.mem_of_getElem? found)).takeTurn found

theorem callerSound_fresh (s : Lifetime) (purpose : Purpose) : s.CallerSound (.fresh purpose) := by
  cases purpose <;> constructor <;> simp [Caller.fresh]

/-- While a request waits to be passed on, the caller that noted it is about to do so. -/
theorem Sound.heard_takeTurn (sound : s.Sound) {i : Nat} {c : Caller} (found : s.callers[i]? = some c)
    (requested : (s.takeTurn i c).process.killRequested = true)
    (waiting : (s.takeTurn i c).process.reaper = .waiting) (uncalled : (s.takeTurn i c).process.called = false) :
    ∃ (j : Nat) (d : Caller), (s.takeTurn i c).callers[j]? = some d ∧ d.stage = .calling := by
  have waited : s.process.reaper = .waiting := (reaper_step s.now s.process c).symm.trans waiting
  have others (same : (c.step s.now s.process).2.killRequested = s.process.killRequested ∧
      (c.step s.now s.process).2.called = s.process.called) (idle : c.stage ≠ .calling) :
      ∃ (j : Nat) (d : Caller), (s.takeTurn i c).callers[j]? = some d ∧ d.stage = .calling := by
    obtain ⟨j, d, atJ, calling⟩ := sound.heard (same.1.symm.trans requested) waited (same.2.symm.trans uncalled)
    refine ⟨j, d, ?_, calling⟩
    have apart : i ≠ j := by
      rintro rfl
      obtain rfl := Option.some.inj (found.symm.trans atJ)
      exact idle calling
    rw [getElem?_takeTurn found atJ, if_neg apart]
  cases stage : c.stage with
  | marking =>
    refine ⟨i, ⟨c.purpose, .calling⟩, ?_, rfl⟩
    rw [getElem?_takeTurn found found, if_pos rfl]
    simp only [Caller.step, stage]
  | calling => simp [Lifetime.takeTurn, Caller.step, stage, KernelProcess.callReaper, waited] at uncalled
  | doubting | passedOn | enlisting | watching | spared =>
    exact others (by unfold Caller.step; rw [stage]; exact ⟨rfl, rfl⟩) (by simp [stage])

theorem Sound.takeTurn (sound : s.Sound) {i : Nat} {c : Caller} (found : s.callers[i]? = some c) :
    (s.takeTurn i c).Sound where
  task := sound.task.takeTurn (sound.callers c (List.mem_of_getElem? found)) i
  watches := sound.watches_takeTurn found
  callers := sound.callers_takeTurn found
  heard := sound.heard_takeTurn found

theorem Sound.doTask (sound : s.Sound) : (s.act .task).Sound where
  task := sound.task.task
  watches := sound.watches_task
  callers c member := (sound.callers c member).later (s.later_act .task)
  heard requested waiting uncalled := by
    obtain ⟨now, ended, killed, ⟨exited, code, noted, called, reaper, watches⟩, callers⟩ := s
    -- a task that finds a request does not go on to wait, and one that has been called looks again
    cases reaper with
    | looking => cases noted <;> simp_all [act, KernelProcess.stepReaper]
    | waiting =>
      cases called with
      | true => simp [act, KernelProcess.stepReaper] at waiting
      | false => exact sound.heard requested rfl rfl
    | enlisting | reaping | recording | closing | announcing | done =>
      simp [act, KernelProcess.stepReaper] at waiting

/-- News of the end reach a task that waits for them, and no other. -/
theorem act_news_cases (s : Lifetime) : s.act .news = s ∨
    ∃ status, s.ended = some status ∧ (s.process.reaper = .waiting ∨ s.process.reaper = .reaping) ∧
      s.act .news = { s with process := { s.process with reaper := .recording status } } := by
  cases ended : s.ended with
  | none => exact Or.inl (by simp only [act, ended])
  | some status =>
    cases reaper : s.process.reaper with
    | waiting => exact Or.inr ⟨status, rfl, Or.inl rfl, by simp only [act, ended, KernelProcess.noticeEnd, reaper]⟩
    | reaping => exact Or.inr ⟨status, rfl, Or.inr rfl, by simp only [act, ended, KernelProcess.noticeEnd, reaper]⟩
    | _ =>
      refine Or.inl ?_
      simp only [act, ended, KernelProcess.noticeEnd, reaper]
      rw [← ended]

theorem Sound.hearNews (sound : s.Sound) : (s.act .news).Sound := by
  have later := s.later_act .news
  have task := sound.task.news
  rcases s.act_news_cases with same | ⟨status, -, -, heard⟩
  · rwa [same]
  · rw [heard] at later task ⊢
    refine ⟨task, ?_, fun c member => (sound.callers c member).later later, nofun⟩
    exact fun w member => (sound.watches w member).later later nofun

theorem Sound.act (sound : s.Sound) (e : Event) : (s.act e).Sound := by
  have later := s.later_act e
  cases e with
  | passes wait =>
    refine ⟨{ sound.task with }, ?_, fun c member => (sound.callers c member).later later, sound.heard⟩
    exact fun w member => (sound.watches w member).later later id
  | ends status =>
    refine ⟨sound.task.ends status, ?_, fun c member => (sound.callers c member).later later, sound.heard⟩
    exact fun w member => (sound.watches w member).later later id
  | task => exact sound.doTask
  | news => exact sound.hearNews
  | arrives purpose =>
    refine ⟨{ sound.task with }, fun w member => (sound.watches w member).later later id, ?_, ?_⟩
    · intro c member
      rcases List.mem_append.mp member with old | new
      · exact (sound.callers c old).later later
      · obtain rfl := List.mem_singleton.mp new
        exact callerSound_fresh _ purpose
    · intro requested waiting uncalled
      obtain ⟨i, c, found, calling⟩ := sound.heard requested waiting uncalled
      have inside := (List.getElem?_eq_some_iff.mp found).1
      exact ⟨i, c, (List.getElem?_append_left inside).trans found, calling⟩
  | turn i =>
    simp only [Lifetime.act]
    split
    · exact sound.takeTurn ‹_›
    · exact sound

theorem sound_after (schedule : Nat → Event) (n : Nat) : (after schedule n).Sound := by
  induction n with
  | zero => exact ⟨taskSound_start, nofun, nofun, nofun⟩
  | succ n ih => exact ih.act (schedule n)

end Lifetime
end KernelLink
