import KernelLink.Proofs.Rehearsal.Clock
import KernelLink.Rehearsal.Premises
import Mathlib.Data.List.Forall2

namespace KernelLink

/-- How many steps a task takes at most until it has marked a process as exited that is to be killed. -/
def Reaper.distance : Reaper → Nat
  | .waiting => 6
  | .enlisting => 5
  | .looking => 4
  | .reaping => 3
  | .recording _ => 2
  | .closing => 1
  | .announcing => 0
  | .done => 0

theorem Program.ended_run {program : Program} (ended : program.status?.isSome = true) (tree : FileTree)
    (now : Nat) : (program.run tree now).1.status?.isSome = true := by
  cases program with
  | running wakes shell => cases ended
  | ended status => rfl

namespace Child

variable {c : Child}

/-- A process is marked as exited at the end of its task and no sooner, and a task that is that far has seen
the program end. -/
structure Sound (c : Child) : Prop where
  exited_iff : c.process.exited = true ↔ c.process.reaper.distance = 0
  ended : c.process.reaper.distance ≤ 3 → c.program.status?.isSome = true

/-- The program is to be killed, and the task that waits for it has been told or is about to look. -/
structure Doomed (c : Child) : Prop where
  requested : c.process.killRequested = true
  called : c.process.reaper = .waiting → c.process.called = true

/-- The program has ended, and its owner knows. -/
structure Gone (c : Child) : Prop where
  exited : c.process.exited = true
  ended : c.program.status?.isSome = true

theorem Sound.gone (sound : c.Sound) (exited : c.process.exited = true) : c.Gone := by
  have far := sound.exited_iff.mp exited
  exact ⟨exited, sound.ended (by omega)⟩

theorem sound_started (program : Program) : Sound ⟨.started, program⟩ where
  exited_iff := ⟨nofun, nofun⟩
  ended near := absurd near (by simp [KernelProcess.started, Reaper.distance])

theorem reap_succ (c : Child) (fuel : Nat) : c.reap (fuel + 1) = (c.reap 1).reap fuel := rfl

theorem Sound.reapOnce (sound : c.Sound) : (c.reap 1).Sound := by
  obtain ⟨⟨exited, code, requested, called, reaper, watches⟩, program⟩ := c
  obtain ⟨exited_iff, ended⟩ := sound
  simp only at exited_iff ended
  -- where the task goes from each of its stages depends on the program, on requests and on calls
  cases reaper <;> cases program <;> cases requested <;> cases called <;> constructor <;>
    simp_all [reap, KernelProcess.stepReaper, KernelProcess.noticeEnd, Program.status?, Program.kill,
      Reaper.distance]

theorem Doomed.reapOnce (doomed : c.Doomed) (sound : c.Sound) :
    (c.reap 1).Doomed ∧ (c.reap 1).process.reaper.distance ≤ c.process.reaper.distance - 1 := by
  obtain ⟨⟨exited, code, requested, called, reaper, watches⟩, program⟩ := c
  obtain ⟨requested, called⟩ := doomed
  obtain ⟨exited_iff, ended⟩ := sound
  simp only at exited_iff ended requested called
  subst requested
  cases reaper <;> cases program <;> refine ⟨⟨?_, ?_⟩, ?_⟩ <;>
    simp_all [reap, KernelProcess.stepReaper, KernelProcess.noticeEnd, Program.status?, Program.kill,
      Reaper.distance]

theorem Gone.reapOnce (gone : c.Gone) : (c.reap 1).Gone := by
  obtain ⟨⟨exited, code, requested, called, reaper, watches⟩, program⟩ := c
  obtain ⟨exited, ended⟩ := gone
  simp only at exited ended
  cases reaper <;> cases program <;> cases requested <;> cases called <;> constructor <;>
    simp_all [reap, KernelProcess.stepReaper, KernelProcess.noticeEnd, Program.status?, Program.kill]

theorem reap_keeps {holds : Child → Prop} (once : ∀ c, holds c → holds (c.reap 1)) (fuel : Nat) (c : Child)
    (known : holds c) : holds (c.reap fuel) := by
  induction fuel generalizing c with
  | zero => exact known
  | succ fuel ih =>
    rw [reap_succ]
    exact ih (c.reap 1) (once c known)

/-- A program that is to be killed has ended once its task has gone through its stages. -/
theorem Doomed.gone_reap (doomed : c.Doomed) (sound : c.Sound) {fuel : Nat}
    (enough : c.process.reaper.distance ≤ fuel) : (c.reap fuel).Gone := by
  -- each step takes the task nearer to its end, so the fuel lasts as long as it covers the distance
  induction fuel generalizing c with
  | zero => exact sound.gone (sound.exited_iff.mpr (Nat.le_zero.mp enough))
  | succ fuel ih =>
    obtain ⟨still, nearer⟩ := doomed.reapOnce sound
    rw [reap_succ]
    exact ih still sound.reapOnce (Nat.le_trans nearer (Nat.sub_le_of_le_add enough))

/-- Those who wait for a process change neither it nor its program. -/
theorem settle_eq (c : Child) (now : Nat) : (c.settle now).process.exited = (c.reap 16).process.exited ∧
    (c.settle now).process.reaper = (c.reap 16).process.reaper ∧
    (c.settle now).program = (c.reap 16).program := by
  unfold settle
  generalize c.reap 16 = reaped
  exact ⟨rfl, rfl, rfl⟩

theorem Sound.settle (sound : c.Sound) (now : Nat) : (c.settle now).Sound := by
  obtain ⟨exited_iff, ended⟩ := reap_keeps (fun _ => Sound.reapOnce) 16 c sound
  obtain ⟨exited, reaper, program⟩ := c.settle_eq now
  exact ⟨by rwa [exited, reaper], by rwa [reaper, program]⟩

theorem Gone.of_reap (gone : (c.reap 16).Gone) (now : Nat) : (c.settle now).Gone := by
  obtain ⟨exited, -, program⟩ := c.settle_eq now
  exact ⟨by rw [exited, gone.exited], by rw [program, gone.ended]⟩

theorem Gone.settle (gone : c.Gone) (now : Nat) : (c.settle now).Gone :=
  .of_reap (reap_keeps (fun _ => Gone.reapOnce) 16 c gone) now

theorem Doomed.gone_settle (doomed : c.Doomed) (sound : c.Sound) (now : Nat) : (c.settle now).Gone := by
  have near : c.process.reaper.distance ≤ 16 := by cases c.process.reaper <;> simp [Reaper.distance]
  exact .of_reap (doomed.gone_reap sound near) now

/-- Whatever a child does as time goes by, this remains true of it. -/
structure Steady (holds : Child → Prop) : Prop where
  run : ∀ {c : Child} (tree : FileTree) (now : Nat), holds c →
    holds { c with program := (c.program.run tree now).1 }
  settle : ∀ {c : Child} (now : Nat), holds c → holds (c.settle now)

theorem steady_sound : Steady Sound where
  run tree now sound := ⟨sound.exited_iff, fun near => Program.ended_run (sound.ended near) tree now⟩
  settle now sound := sound.settle now

theorem steady_gone : Steady Gone where
  run tree now gone := ⟨gone.exited, Program.ended_run gone.ended tree now⟩
  settle now gone := gone.settle now

/-- A process that is being killed is doomed. -/
theorem Sound.kill (sound : c.Sound) (deadline : Nat) :
    (c.process.kill deadline = (none, c.process) ∧ c.Gone) ∨ ∃ watch process,
      c.process.kill deadline = (some watch, process) ∧ Sound { c with process := process } ∧
        Doomed { c with process := process } := by
  unfold KernelProcess.kill
  split
  · rename_i exited
    exact Or.inl ⟨rfl, sound.gone exited⟩
  · refine Or.inr ⟨_, _, rfl, ?_⟩
    obtain ⟨⟨exited, code, requested, called, reaper, watches⟩, program⟩ := c
    obtain ⟨exited_iff, ended⟩ := sound
    cases reaper <;> exact ⟨⟨exited_iff, ended⟩, ⟨rfl, by simp [KernelProcess.requestKill,
      KernelProcess.markKill, KernelProcess.callReaper]⟩⟩

end Child

namespace Premises

variable {p : Premises}

/-- One child has been started since there were so many, and something holds of it. -/
def Youngest (count : Nat) (holds : Child → Prop) (p : Premises) : Prop :=
  ∃ c, p.children.drop count = [c] ∧ holds c

/-- A program has run at some moment, and otherwise the child is as it was. -/
def HasRun (now : Nat) (before after : Child) : Prop :=
  ∃ tree, after = { before with program := (before.program.run tree now).1 }

theorem forall₂_foldl_run (now : Nat) (children done : List Child) (tree : FileTree) :
    ∃ after, (children.foldl (fun (done, tree) c =>
        let (program, tree) := c.program.run tree now
        (done ++ [{ c with program := program }], tree)) (done, tree)).1 = done ++ after ∧
      List.Forall₂ (HasRun now) children after := by
  induction children generalizing done tree with
  | nil => exact ⟨[], (List.append_nil _).symm, .nil⟩
  | cons c rest ih =>
    obtain ⟨after, same, others⟩ := ih (done ++ [{ c with program := (c.program.run tree now).1 }])
      (c.program.run tree now).2
    refine ⟨{ c with program := (c.program.run tree now).1 } :: after, ?_, .cons ⟨tree, rfl⟩ others⟩
    rw [List.foldl_cons, same, List.append_assoc, List.singleton_append]

theorem forall₂_runPrograms (p : Premises) : List.Forall₂ (HasRun p.now) p.children p.runPrograms.children := by
  obtain ⟨after, same, each⟩ := forall₂_foldl_run p.now p.children [] p.disk.tree
  have children : p.runPrograms.children = after := same
  rwa [children]

variable {count : Nat} {holds : Child → Prop}

theorem Youngest.process? (young : p.Youngest count holds) :
    ∃ c, p.process? count = some c.process ∧ p.children.drop count = [c] ∧ holds c := by
  obtain ⟨c, only, known⟩ := young
  have found : p.children[count]? = some c := by
    have head := congrArg (·[0]?) only
    rwa [List.getElem?_drop] at head
  exact ⟨c, by rw [Premises.process?, found, Option.map_some], only, known⟩

theorem Youngest.onProcess (young : p.Youngest count holds) {other : Child → Prop}
    {f : KernelProcess → KernelProcess} (changes : ∀ c, holds c → other { c with process := f c.process }) :
    (p.onProcess count f).Youngest count other := by
  obtain ⟨c, only, known⟩ := young
  have there : (p.children.take count).length = count := by
    have one := congrArg List.length only
    rw [List.length_drop, List.length_singleton] at one
    rw [List.length_take]
    omega
  refine ⟨{ c with process := f c.process }, ?_, changes c known⟩
  rw [Premises.onProcess, List.modify_eq_take_drop, List.drop_left' there, only]
  rfl

theorem Youngest.runPrograms (steady : Child.Steady holds) (young : p.Youngest count holds) :
    p.runPrograms.Youngest count holds := by
  obtain ⟨c, only, known⟩ := young
  have each := List.forall₂_drop count p.forall₂_runPrograms
  rw [only] at each
  obtain ⟨c', rest, ⟨tree, rfl⟩, others, after⟩ := List.forall₂_cons_left_iff.mp each
  cases others
  exact ⟨_, after, steady.run tree p.now known⟩

theorem Youngest.settleProcesses {other : Child → Prop} (young : p.Youngest count holds)
    (settle : ∀ c, holds c → other (c.settle p.now)) : p.settleProcesses.Youngest count other := by
  obtain ⟨c, only, known⟩ := young
  refine ⟨c.settle p.now, ?_, settle c known⟩
  show (p.children.map _).drop count = _
  rw [← List.map_drop, only]
  rfl

theorem Youngest.settle (steady : Child.Steady holds) (young : p.Youngest count holds) :
    p.settle.Youngest count holds := by
  obtain ⟨c, only, known⟩ := (young.runPrograms steady).settleProcesses fun _ => steady.settle p.runPrograms.now
  exact ⟨c, only, known⟩

theorem Youngest.pass (steady : Child.Steady holds) (ms : Nat) (young : p.Youngest count holds) :
    (Premises.pass ms p).Youngest count holds := by
  unfold Premises.pass
  induction ms with
  | zero => exact young
  | succ ms ih =>
    rw [Nat.repeat]
    generalize Nat.repeat _ ms p = before at ih ⊢
    obtain ⟨c, only, known⟩ := ih
    exact Youngest.settle steady ⟨c, only, known⟩

theorem Youngest.await (steady : Child.Steady holds) (done : Premises → Bool) (budget pause : Nat)
    (young : p.Youngest count holds) : (p.await done budget pause).2.Youngest count holds :=
  Clock.await_keeps (fun ms _ => Youngest.pass steady ms) done budget pause young

theorem Youngest.awaitWatch {other : Child → Prop} (young : p.Youngest count holds) (steady : Child.Steady other)
    (settle : ∀ c, holds c → other (c.settle p.now)) (child watch budget : Nat) :
    (p.awaitWatch child watch budget).2.Youngest count other := by
  have waited := (young.settleProcesses settle).await steady
    (fun p => ((p.process? child).bind (·.answer? watch)).isSome) (budget + 1) 1
  unfold Premises.awaitWatch
  exact waited

/-- A process that is killed has ended once its end has been waited for. -/
theorem Youngest.kill (young : p.Youngest count Child.Sound) (budget : Nat) :
    (p.kill count budget).2.Youngest count Child.Gone := by
  obtain ⟨c, here, only, sound⟩ := young.process?
  unfold Premises.kill
  rw [here]
  simp only
  rcases sound.kill (p.now + budget) with ⟨exited, gone⟩ | ⟨watch, process, killed, still, doomed⟩
  · rw [exited]
    exact ⟨c, only, gone⟩
  · rw [killed]
    have asked : (p.onProcess count fun _ => process).Youngest count fun c => c.Sound ∧ c.Doomed := by
      have this : p.Youngest count (· = c) := ⟨c, only, rfl⟩
      refine this.onProcess ?_
      rintro _ rfl
      exact ⟨still, doomed⟩
    exact asked.awaitWatch Child.steady_gone (fun c known => known.2.gone_settle known.1 _) count watch budget

end Premises
end KernelLink
