import KernelLink.Proofs.Client.Pending
import KernelLink.Proofs.Client.Polling
import Mathlib

namespace KernelLink

namespace Round

/-- How many steps a loop is away from its end once the client has been told to stop. -/
def rank : Round → Nat
  | .enlisting => 2
  | .looking => 1
  | .waiting => 4
  | .holding _ => 3

theorem rank_pos (r : Round) : 0 < r.rank := by
  cases r <;> exact Nat.succ_pos _

end Round

/-- How many steps of its own the call that stops a client has ahead of it. A client holds one line to a socket at
most, and there are five sockets. -/
def Errand.ahead (c : Client) : Errand → Nat
  | .calling => c.loopIds.length + 16
  | .draining => c.loopIds.length + 15
  | .stopping left => c.loopIds.length + 4 + 2 * left.length
  | .closing _ left => c.loopIds.length + 5 + 2 * left.length
  | .quieting (some _) => c.loopIds.length + 3
  | .quieting none => c.loopIds.length + 2
  | .joining left => left.length + 1
  | _ => 0

theorem sum_filter_lt {α : Type} (f : α → Nat) {p : α → Bool} {as : List α} {a : α} (member : a ∈ as)
    (dropped : p a = false) (positive : 0 < f a) : ((as.filter p).map f).sum < (as.map f).sum := by
  have le (bs : List α) : ((bs.filter p).map f).sum ≤ (bs.map f).sum :=
    (List.filter_sublist.map f).sum_le_sum fun _ _ => Nat.zero_le _
  induction as with
  | nil => exact absurd member List.not_mem_nil
  | cons b bs ih =>
    rw [List.filter_cons, List.map_cons, List.sum_cons]
    rcases List.mem_cons.mp member with rfl | later
    · have rest := le bs
      rw [if_neg (Bool.eq_false_iff.mp dropped)]
      omega
    · have rest := ih later
      split
      · rw [List.map_cons, List.sum_cons]
        omega
      · omega

/-- No loop is left once all have been waited for. -/
theorem Client.loops_joinLoops (c : Client) : c.joinLoops.loops = [] := by
  have gone (ended : List Loop) (c : Client) : ∀ loop ∈ (ended.foldl (fun c l => c.leave l.id) c).loops,
      loop ∈ c.loops ∧ loop ∉ ended := by
    induction ended generalizing c with
    | nil => exact fun loop member => ⟨member, List.not_mem_nil⟩
    | cons first ended ih =>
      intro loop member
      obtain ⟨left, others⟩ := ih (c.leave first.id) loop member
      obtain ⟨before, differs⟩ := List.mem_filter.mp left
      refine ⟨before, fun here => ?_⟩
      rcases List.mem_cons.mp here with rfl | later
      · simp at differs
      · exact others later
  refine List.eq_nil_iff_forall_not_mem.mpr fun loop member => ?_
  obtain ⟨before, ended⟩ := gone c.loops c loop member
  exact ended before

/-- Loops that end make a difference to the loops and to the log alone. -/
theorem Client.foldl_leave (ended : List Loop) (c : Client) :
    ended.foldl (fun c loop => c.leave loop.id) c = { c with
      loops := ended.foldl (fun left loop => left.filter (·.id ≠ loop.id)) c.loops
      log := ended.foldl (fun log _ => log.abandonPending.1) c.log } := by
  induction ended generalizing c with
  | nil => rfl
  | cons loop ended ih => exact ih (c.leave loop.id)

/-- It is the same whether the client waits for its loops before or after it lets go of its lines and its probe. -/
theorem Client.joinLoops_first (c : Client) (x : Exchange) :
    (c.joinLoops.stopLines x).1.stopPulse (c.joinLoops.stopLines x).2 =
      (((c.stopLines x).1.stopPulse (c.stopLines x).2).1.joinLoops,
        ((c.stopLines x).1.stopPulse (c.stopLines x).2).2) := by
  unfold joinLoops stopPulse stopLines
  simp only [foldl_leave]
  cases c.pulse <;> rfl

namespace Service

/-- How many steps all loops together are away from their ends. -/
def toil (s : Service) : Nat := (s.client.loopIds.map fun loop => (s.tasks loop).round.rank).sum

/-- How many steps are left until the call that stops the client returns, at most. -/
def distance (s : Service) : Nat := s.errand.ahead s.client + s.toil

section Progress

variable {s s' : Service} {happening : Option Happening} {loop : Loop}

theorem mem_loopIds (member : loop ∈ s.client.loops) : loop.id ∈ s.client.loopIds := List.mem_map_of_mem member

/-- A loop comes nearer to its end, and the others stay where they are. -/
theorem toil_assign_lt {t : Task} {c : Client} {x : Exchange} (member : loop ∈ s.client.loops)
    (ids : c.loopIds = s.client.loopIds) (nearer : t.round.rank < (s.tasks loop.id).round.rank) :
    toil { s.assign loop.id t with client := c, exchange := x } < s.toil := by
  unfold toil
  simp only [ids]
  refine List.sum_lt_sum _ _ (fun id _ => ?_) ⟨loop.id, mem_loopIds member, ?_⟩
  · rw [tasks_assign]
    split
    · rename_i same
      rw [same]
      exact nearer.le
    · exact le_rfl
  · rw [tasks_assign, if_pos rfl]
    exact nearer

theorem toil_leave_lt {x : Exchange} (member : loop ∈ s.client.loops) :
    toil { s with client := s.client.leave loop.id, exchange := x } < s.toil := by
  unfold toil
  simp only [Client.loopIds_leave]
  exact sum_filter_lt _ (mem_loopIds member) (by simp) (Round.rank_pos _)

/-- Once the client has been told to stop, every step brings a loop nearer to its end. -/
theorem Motion.toil_lt (motion : Motion loop s happening s') (stopping : s.client.stopping = true) :
    s'.toil < s.toil := by
  cases motion with
  | turn turn =>
    cases turn with
    | enlist member round => exact toil_assign_lt member rfl (by rw [round]; decide)
    | goOn member round may =>
      unfold Client.mayPoll at may
      rw [stopping] at may
      cases may
    | giveUp member round may => exact toil_leave_lt member
    | obey member round called => exact toil_leave_lt member
    | @handle m member round =>
      exact toil_assign_lt member ((s.client.handle loop.line.kind m).loopIds_setPoll ..)
        (by rw [round]; show 2 < 3; decide)
  | receipt receipt =>
    cases receipt with
    | @message m x member round taken => exact toil_assign_lt member rfl (by rw [round]; show 3 < 4; decide)
    | failure member round taken => exact toil_leave_lt member
  | expire member round =>
    exact toil_assign_lt member (s.client.loopIds_setPoll ..) (by rw [round]; decide)

/-- What goes on beside the call does not put it off. -/
theorem Beside.ahead_le (beside : Beside s happening s') :
    s'.errand.ahead s'.client ≤ s.errand.ahead s.client := by
  have fewer : s'.client.loopIds.length ≤ s.client.loopIds.length := by
    rw [Client.loopIds_eq, Client.loopIds_eq]
    exact (beside.seats.map _).length_le
  rw [beside.errand]
  cases s.errand with
  | quieting probe =>
    cases probe with
    | none => exact Nat.add_le_add_right fewer 2
    | some probe => exact Nat.add_le_add_right fewer 3
  | _ => simp only [Errand.ahead]; omega

theorem Aside.distance_le (aside : Aside s happening s') : s'.distance ≤ s.distance := by
  have ids : s'.client.loopIds = s.client.loopIds := by
    have beside := aside.beside
    rw [Client.loopIds_eq, Client.loopIds_eq, beside.stays aside.stays]
  have tasks : s'.tasks = s.tasks := by cases aside <;> rfl
  have toil : s'.toil = s.toil := by
    unfold Service.toil
    rw [ids, tasks]
  exact Nat.add_le_add aside.beside.ahead_le toil.le

theorem length_channels_le (kept : Kept s) : s.client.channels.length ≤ 5 := by
  have kinds : ∀ kind ∈ s.client.channels.map (·.kind),
      kind ∈ [ChannelKind.shell, .control, .stdin, .iopub, .heartbeat] := by
    intro kind _
    cases kind <;> decide
  have length := (kept.kinds.subperm kinds).length_le
  rwa [List.length_map] at length

/-- A step of its own brings the call nearer to its return. -/
theorem Teardown.distance_lt (teardown : Teardown s s') (kept : Kept s) : s'.distance < s.distance := by
  have bound := length_channels_le kept
  have nearer {e : Errand} (here : s.errand = e) (tasks : ∀ loop, (s'.tasks loop).round = (s.tasks loop).round)
      (loops : s'.client.loops = s.client.loops) (less : s'.errand.ahead s'.client < e.ahead s.client) :
      s'.distance < s.distance := by
    have ids : s'.client.loopIds = s.client.loopIds := congrArg (List.map Loop.id) loops
    unfold distance toil
    simp only [ids, tasks, here]
    omega
  cases teardown
  case call here =>
    exact nearer here (fun loop => (s.tasks loop).round_call) rfl (Nat.lt_succ_self _)
  case drain here =>
    refine nearer here (fun _ => rfl) rfl ?_
    show s.client.loopIds.length + 4 + 2 * s.client.channels.length < s.client.loopIds.length + 15
    omega
  case stopLine line left here =>
    refine nearer here (fun _ => rfl) rfl ?_
    simp only [Errand.ahead, List.length_cons]
    omega
  case close line left here free =>
    refine nearer here (fun _ => rfl) rfl ?_
    simp only [Errand.ahead]
    omega
  case takePulse here =>
    refine nearer here (fun _ => rfl) rfl ?_
    show Errand.ahead { s.client with pulse := none } (.quieting s.client.pulse) < s.client.loopIds.length + 4
    cases s.client.pulse with
    | none => exact Nat.add_lt_add_left (show 2 < 4 by decide) _
    | some probe => exact Nat.lt_succ_self _
  case stopPulse probe here => exact nearer here (fun _ => rfl) rfl (Nat.lt_succ_self _)
  case gather here => exact nearer here (fun _ => rfl) rfl (Nat.lt_succ_self _)
  case join loop left here gone => exact nearer here (fun _ => rfl) rfl (Nat.lt_succ_self _)
  case finish here => exact nearer here (fun _ => rfl) rfl (Nat.lt_succ_self _)

theorem Work.distance_lt (work : Work s happening s') (kept : Kept s) (halting : s.errand.halting = true) :
    s'.distance < s.distance := by
  cases work with
  | loop motion => exact Nat.add_lt_add_of_le_of_lt motion.beside.ahead_le (motion.toil_lt (kept.flag.trans halting))
  | setup setup => rw [setup.not_halting] at halting; cases halting
  | teardown teardown => exact teardown.distance_lt kept

/-- After the call to exit no loop waits for anything any more. -/
theorem Kept.exists_turn (kept : Kept s) (summoned : s.errand.summoned = true) (member : loop ∈ s.client.loops) :
    ∃ happening s', Turn loop s happening s' := by
  have seat : (loop.id, loop.line) ∈ s.client.seats := List.mem_map_of_mem member
  have stopping : s.client.stopping = true := kept.flag.trans (Errand.halting_of_summoned summoned)
  cases round : (s.tasks loop.id).round with
  | enlisting => exact ⟨_, _, .enlist member round⟩
  | looking =>
    have ended : s.client.mayPoll s.exchange loop = false := by
      unfold Client.mayPoll
      rw [stopping]
      rfl
    exact ⟨_, _, .giveUp member round ended⟩
  | waiting => exact ⟨_, _, .obey member round (kept.called summoned _ seat round)⟩
  | holding m => exact ⟨_, _, .handle member round⟩

/-- Until it returns, the call that stops a client can take a step, or a loop for which it waits can. -/
theorem Kept.exists_work (kept : Kept s) (halting : s.errand.halting = true) (unfinished : s.errand ≠ .stopped) :
    (∃ s', Teardown s s') ∨ ∃ loop ∈ s.client.loops, ∃ happening s', Turn loop s happening s' := by
  cases here : s.errand
  case idle => rw [here] at halting; cases halting
  case starting => rw [here] at halting; cases halting
  case probing => rw [here] at halting; cases halting
  case greeting => rw [here] at halting; cases halting
  case started => rw [here] at halting; cases halting
  case calling => exact Or.inl ⟨_, .call here⟩
  case draining => exact Or.inl ⟨_, .drain here⟩
  case stopping left =>
    cases left with
    | nil => exact Or.inl ⟨_, .takePulse here⟩
    | cons line left => exact Or.inl ⟨_, .stopLine here⟩
  case closing line left =>
    by_cases free : ∀ loop ∈ s.client.loops, loop.line = line → (s.tasks loop.id).round ≠ .waiting
    · exact Or.inl ⟨_, .close here free⟩
    · simp only [not_forall] at free
      obtain ⟨loop, member, -⟩ := free
      exact Or.inr ⟨loop, member, kept.exists_turn (by rw [here]; rfl) member⟩
  case quieting probe =>
    cases probe with
    | none => exact Or.inl ⟨_, .gather here⟩
    | some probe => exact Or.inl ⟨_, .stopPulse here⟩
  case joining left =>
    cases left with
    | nil => exact Or.inl ⟨_, .finish here⟩
    | cons id left =>
      by_cases running : id ∈ s.client.loopIds
      · obtain ⟨loop, member, -⟩ := List.mem_map.mp running
        exact Or.inr ⟨loop, member, kept.exists_turn (by rw [here]; rfl) member⟩
      · exact Or.inl ⟨_, .join here running⟩
  case stopped => exact absurd here unfinished

end Progress

/-- A stretch of a run without a new start or stop, and how many of its steps are taken by the loops and by the call
that is under way. -/
inductive Stretch (s : Service) : Nat → List Happening → Service → Prop
  | nil : Stretch s 0 [] s
  | work {n trace happening s' s''} : Stretch s n trace s' → Work s' happening s'' →
      Stretch s (n + 1) (trace ++ happening.toList) s''
  | aside {n trace happening s' s''} : Stretch s n trace s' → Aside s' happening s'' →
      Stretch s n (trace ++ happening.toList) s''

/-- A stretch of a run in which nobody starts the client. It may be stopped again and again. -/
inductive Unstarted (s : Service) : List Happening → Service → Prop
  | nil : Unstarted s [] s
  | next {trace happening s' s''} : Unstarted s trace s' → Step s' happening s'' → s''.errand.halting = true →
      Unstarted s (trace ++ happening.toList) s''

section Ends

variable {session : Session} {owned : Bool} {trace later : List Happening} {s s' : Service} {n : Nat}

theorem Kept.stretch (kept : Kept s) (stretch : Stretch s n later s') : Kept s' := by
  induction stretch with
  | nil => exact kept
  | work _ work ih => exact ih.step (.work work)
  | aside _ aside ih => exact ih.step (.aside aside)

theorem Stretch.halting (stretch : Stretch s n later s') (halting : s.errand.halting = true) :
    s'.errand.halting = true := by
  induction stretch with
  | nil => exact halting
  | work _ work ih =>
    cases work with
    | loop motion => rw [motion.beside.errand, ih]
    | setup setup => rw [setup.not_halting] at ih; cases ih
    | teardown teardown => exact teardown.halting.2
  | aside _ aside ih => rw [aside.beside.errand, ih]

/-- However the steps of the loops, of the call and of all others alternate, the loops and the call take no more of
them than they are away from the end. -/
theorem Stretch.add_distance_le (stretch : Stretch s n later s') (kept : Kept s)
    (halting : s.errand.halting = true) : n + s'.distance ≤ s.distance := by
  induction stretch with
  | nil => exact (Nat.zero_add _).le
  | @work n trace happening s' s'' stretch work ih =>
    have nearer := work.distance_lt (kept.stretch stretch) (stretch.halting halting)
    omega
  | @aside n trace happening s' s'' stretch aside ih =>
    have same := aside.distance_le
    omega

/-- A client without loops that has been told to stop, whether the call that stops it has returned or it is stopped
once more. -/
structure Still (s : Service) : Prop where
  halting : s.errand.halting = true
  stopping : s.client.stopping = true
  lines : ∀ id, (s.exchange.line id).alive = false
  pulses : ∀ id, (s.exchange.pulse id).alive = false
  loops : s.client.loops = []
  pulse : s.client.pulse = none

theorem Kept.still (kept : Kept s) (stopped : s.errand = .stopped) : Still s := by
  obtain ⟨flag, lines, probe, awaited⟩ := kept.halted stopped rfl
  refine ⟨by rw [stopped]; rfl, flag, fun id => ?_, fun id => ?_, ?_, kept.quiet (by rw [stopped]; rfl)⟩
  · exact Bool.eq_false_iff.mpr fun alive => List.not_mem_nil (lines id alive)
  · refine Bool.eq_false_iff.mpr fun alive => ?_
    cases probe id alive
  · exact Client.loops_eq_nil.mpr (List.eq_nil_iff_forall_not_mem.mpr fun id here =>
      List.not_mem_nil (awaited id here))

theorem Still.isRunning (still : Still s) : s.client.isRunning s.exchange = false := by
  unfold Client.isRunning
  rw [still.pulse]
  simp [still.lines]

theorem Motion.mem {loop : Loop} {happening : Option Happening} (motion : Motion loop s happening s') :
    loop ∈ s.client.loops := by
  cases motion with
  | turn turn => cases turn <;> assumption
  | receipt receipt => cases receipt <;> assumption
  | expire member round => exact member

/-- Stopping a client once more lets go of the lines that it has opened since. -/
theorem Still.teardown (still : Still s) (teardown : Teardown s s') :
    Still s' ∧ s'.client = { s.client with channels := s'.client.channels } := by
  obtain ⟨halting, stopping, lines, pulses, loops, pulse⟩ := still
  have rest := teardown.halting.2
  cases teardown with
  | call here => exact ⟨⟨rest, stopping, lines, pulses, loops, pulse⟩, rfl⟩
  | drain here => exact ⟨⟨rest, stopping, lines, pulses, loops, pulse⟩, rfl⟩
  | @stopLine line left here =>
    refine ⟨⟨rest, stopping, fun id => ?_, pulses, loops, pulse⟩, rfl⟩
    refine Bool.eq_false_iff.mpr fun alive => ?_
    have before := ((s.exchange.alive_stopLine line id).mp alive).2
    rw [lines id] at before
    cases before
  | close here free => exact ⟨⟨rest, stopping, lines, pulses, loops, pulse⟩, rfl⟩
  | takePulse here =>
    refine ⟨⟨rest, stopping, lines, pulses, loops, rfl⟩, ?_⟩
    rw [← pulse]
  | @stopPulse probe here =>
    refine ⟨⟨rest, stopping, lines, fun id => ?_, loops, pulse⟩, rfl⟩
    unfold Exchange.stopPulse
    rw [Exchange.alive_setPulse]
    split
    · rfl
    · exact pulses id
  | gather here => exact ⟨⟨rest, stopping, lines, pulses, loops, pulse⟩, rfl⟩
  | join here gone => exact ⟨⟨rest, stopping, lines, pulses, loops, pulse⟩, rfl⟩
  | finish here => exact ⟨⟨rest, stopping, lines, pulses, loops, pulse⟩, rfl⟩

/-- What a step does to a client that is still: a call may log a request or open a line, and nothing else
happens. -/
theorem Still.step {happening : Option Happening} (still : Still s) (step : Step s happening s')
    (halting : s'.errand.halting = true) :
    Still s' ∧ s'.client = { s.client with channels := s'.client.channels, log := s'.client.log } ∧
      (∀ loop, happening ≠ some (.left loop)) ∧ ∀ kind m, happening ≠ some (.heard kind m) := by
  cases step with
  | work work =>
    cases work with
    | loop motion =>
      have member := motion.mem
      rw [still.loops] at member
      exact absurd member List.not_mem_nil
    | setup setup =>
      have running := setup.not_halting
      rw [still.halting] at running
      cases running
    | teardown teardown =>
      obtain ⟨still', same⟩ := still.teardown teardown
      have log : s'.client.log = s.client.log := by rw [same]
      refine ⟨still', ?_, by simp, by simp⟩
      rw [log]
      exact same
  | aside aside =>
    cases aside with
    | @asks happening t asks =>
      obtain ⟨same, -, steady, remains, unheard⟩ := asks_opens asks
      have stopping : t.client.stopping = s.client.stopping := by rw [same]
      have loops : t.client.loops = s.client.loops := by rw [same]
      have pulse : t.client.pulse = s.client.pulse := by rw [same]
      exact ⟨⟨halting, stopping.trans still.stopping, fun id => (steady.lines id).trans (still.lines id),
        fun id => (steady.pulses id).trans (still.pulses id), loops.trans still.loops, pulse.trans still.pulse⟩,
        same, remains, unheard⟩
    | elsewhere steady =>
      exact ⟨⟨halting, still.stopping, fun id => (steady.lines id).trans (still.lines id),
        fun id => (steady.pulses id).trans (still.pulses id), still.loops, still.pulse⟩, rfl, by simp, by simp⟩
  | beginStart options rest => cases halting
  | beginStop rest =>
    refine ⟨⟨rfl, rfl, still.lines, still.pulses, still.loops, still.pulse⟩, ?_, by simp, by simp⟩
    simp only [beginStop, Client.beginStop]
    rw [← still.stopping]

theorem Run.unstarted (run : Run session owned trace s) (unstarted : Unstarted s later s') :
    Run session owned (trace ++ later) s' := by
  induction unstarted with
  | nil => rwa [List.append_nil]
  | @next later happening s' s'' _ step halting ih =>
    rw [← List.append_assoc]
    exact ih.next step

/-- A client that is still stays still, and no loop hears anything or ends. -/
theorem Still.unstarted (still : Still s) (unstarted : Unstarted s later s') :
    Still s' ∧ s'.client = { s.client with channels := s'.client.channels, log := s'.client.log } ∧
      ∀ happening ∈ later, (∀ loop, happening ≠ .left loop) ∧ ∀ kind m, happening ≠ .heard kind m := by
  induction unstarted with
  | nil => exact ⟨still, rfl, fun _ member => absurd member List.not_mem_nil⟩
  | @next later happening s' s'' _ step halting ih =>
    obtain ⟨still', same, quiet⟩ := ih
    obtain ⟨still'', same', remains, unheard⟩ := still'.step step halting
    refine ⟨still'', ?_, fun other member => ?_⟩
    · rw [same', same]
    · rcases List.mem_append.mp member with before | last
      · exact quiet other before
      · have here : happening = some other := Option.mem_toList.mp last
        rw [here] at remains unheard
        exact ⟨fun loop is => remains loop (congrArg some is), fun kind m is => unheard kind m (congrArg some is)⟩

/-- Stopping a client that is still lets go of the lines that it has opened since, and changes nothing else. -/
theorem Still.stop (still : Still s) :
    (s.client.stop s.exchange).1 = { s.client with channels := [] } ∧
      s.exchange.Steady (s.client.stop s.exchange).2 ∧
      (s.client.channels = [] → s.client.stop s.exchange = (s.client, s.exchange)) := by
  have flag : s.client.beginStop = s.client := by
    unfold Client.beginStop
    rw [← still.stopping]
  have stopped : s.client.stop s.exchange =
      ({ s.client with channels := [] }, s.client.channels.foldl Exchange.stopLine s.exchange) := by
    unfold Client.stop Client.stopLines Client.stopPulse Client.joinLoops
    rw [flag]
    simp only [still.pulse, still.loops, List.foldl_nil]
  have steady (lines : List LineId) : ∀ x : Exchange, (∀ id, (x.line id).alive = false) →
      x.Steady (lines.foldl Exchange.stopLine x) := by
    induction lines with
    | nil => exact fun x _ => .refl x
    | cons line lines ih =>
      intro x dead
      have first : x.Steady (x.stopLine line) := x.steady_setLine line (dead line).symm
      exact first.trans (ih _ fun id => (first.lines id).trans (dead id))
  rw [stopped]
  refine ⟨rfl, steady _ _ still.lines, fun none => ?_⟩
  rw [none, List.foldl_nil, ← none]

end Ends

/-! ### What the client does by itself -/

/-- No loop has a message at hand. -/
def EmptyHanded (tasks : Nat → Task) : Prop := ∀ loop m, (tasks loop).round ≠ .holding m

namespace Run

variable {session : Session} {owned : Bool} {trace : List Happening} {s : Service} {c : Client} {x : Exchange}
  {calls : List Call} {tasks : Nat → Task}

/-- A loop that has been told to end does so, whatever it is about to do. -/
theorem leave {loop : Loop} (run : Run session owned trace s) (member : loop ∈ s.client.loops)
    (stopping : s.client.stopping = true) (empty : EmptyHanded s.tasks)
    (called : ∀ other, (s.tasks other).round = .waiting → (s.tasks other).called = true) :
    ∃ tasks, EmptyHanded tasks ∧ (∀ other, (tasks other).round = .waiting → (tasks other).called = true) ∧
      Run session owned (trace ++ [.left loop.id])
        { s with client := s.client.leave loop.id, tasks := tasks } := by
  have ended : s.client.mayPoll s.exchange loop = false := by
    unfold Client.mayPoll
    rw [stopping]
    rfl
  cases round : (s.tasks loop.id).round with
  | enlisting =>
    have listed := run.silent (.work (.loop (.turn (.enlist member round))))
    have looking : ((s.assign loop.id ⟨.looking, false⟩).tasks loop.id).round = .looking := by
      rw [tasks_assign, if_pos rfl]
    refine ⟨_, fun other m holds => ?_, fun other waits => ?_,
      listed.next (.work (.loop (.turn (.giveUp member looking ended))))⟩
    · rw [tasks_assign] at holds
      split at holds
      · cases holds
      · exact empty other m holds
    · rw [tasks_assign] at waits ⊢
      split at waits
      · cases waits
      · rename_i others
        rw [if_neg others]
        exact called other waits
  | looking => exact ⟨_, empty, called, run.next (.work (.loop (.turn (.giveUp member round ended))))⟩
  | waiting => exact ⟨_, empty, called, run.next (.work (.loop (.turn (.obey member round (called _ round)))))⟩
  | holding m => exact absurd round (empty loop.id m)

theorem leaveAll (loops : List Loop) (run : Run session owned trace s)
    (running : ∀ loop ∈ loops, loop ∈ s.client.loops) (distinct : (loops.map (·.id)).Nodup)
    (stopping : s.client.stopping = true) (empty : EmptyHanded s.tasks)
    (called : ∀ other, (s.tasks other).round = .waiting → (s.tasks other).called = true) :
    ∃ tasks, Run session owned (trace ++ loops.map (.left ·.id))
      { s with client := loops.foldl (fun c loop => c.leave loop.id) s.client, tasks := tasks } := by
  induction loops generalizing s trace with
  | nil =>
    refine ⟨s.tasks, ?_⟩
    rw [List.map_nil, List.append_nil]
    exact run
  | cons loop rest ih =>
    obtain ⟨other, distinct⟩ := List.nodup_cons.mp distinct
    obtain ⟨tasks, empty, called, next⟩ := run.leave (running loop (List.mem_cons_self ..)) stopping empty called
    have others : ∀ later ∈ rest, later ∈ (s.client.leave loop.id).loops := by
      intro later member
      refine List.mem_filter.mpr ⟨running later (List.mem_cons_of_mem _ member), ?_⟩
      simpa using fun same => other (List.mem_map.mpr ⟨later, member, same⟩)
    obtain ⟨tasks, ended⟩ := ih next others distinct stopping empty called
    rw [List.append_assoc] at ended
    exact ⟨tasks, ended⟩

/-- No loop is left that receives from a line while it is closed. -/
theorem stopLines {lines : List LineId}
    (run : Run session owned trace ⟨⟨c, x, calls⟩, tasks, .stopping lines⟩) (none : c.loops = []) :
    Run session owned trace ⟨⟨c, lines.foldl Exchange.stopLine x, calls⟩, tasks, .stopping []⟩ := by
  induction lines generalizing x with
  | nil => exact run
  | cons line left ih =>
    have stopped := run.silent (.work (.teardown (.stopLine rfl)))
    have free : ∀ loop ∈ c.loops, loop.line = line → (tasks loop.id).round ≠ .waiting := by
      intro loop member
      rw [none] at member
      exact absurd member List.not_mem_nil
    exact ih (stopped.silent (.work (.teardown (.close rfl free))))

theorem stopPulse (run : Run session owned trace ⟨⟨c, x, calls⟩, tasks, .stopping []⟩) :
    Run session owned trace ⟨⟨(c.stopPulse x).1, (c.stopPulse x).2, calls⟩, tasks, .quieting none⟩ := by
  have taken := run.silent (.work (.teardown (.takePulse rfl)))
  unfold Client.stopPulse
  cases held : c.pulse with
  | none =>
    have same : ({ c with pulse := none } : Client) = c := by rw [← held]
    simp only [held, same] at taken
    exact taken
  | some probe =>
    simp only [held] at taken
    exact taken.silent (.work (.teardown (.stopPulse rfl)))

/-- Stopping a client by a call that nobody disturbs is a part of a run. -/
theorem stop (run : Run session owned trace s) (rest : s.errand.atRest = true) (empty : EmptyHanded s.tasks) :
    ∃ tasks, Run session owned (trace ++ s.client.loops.map (.left ·.id))
      ⟨⟨(s.client.stop s.exchange).1, (s.client.stop s.exchange).2, s.calls⟩, tasks, .stopped⟩ := by
  have summoned := (run.silent (.beginStop rest)).silent (.work (.teardown (.call rfl)))
  -- the loops end as soon as they are called, so that nobody has to wait for them later
  obtain ⟨tasks, ended⟩ := summoned.leaveAll s.client.loops (fun _ member => member)
    run.client.loopIds_nodup rfl (fun loop m round => empty loop m ((Task.round_call _).symm.trans round))
    fun loop waits => Task.called_call waits
  have left : Run session owned (trace ++ s.client.loops.map (.left ·.id))
      ⟨⟨s.client.beginStop.joinLoops, s.exchange, s.calls⟩, tasks, .draining⟩ := ended
  have drained := left.silent (.work (.teardown (.drain rfl)))
  have quiet := (drained.stopLines s.client.beginStop.loops_joinLoops).stopPulse
  have joined := s.client.beginStop.joinLoops_first s.exchange
  have same : Run session owned (trace ++ s.client.loops.map (.left ·.id))
      ⟨⟨(s.client.stop s.exchange).1, (s.client.stop s.exchange).2, s.calls⟩, tasks, .quieting none⟩ := by
    rw [show s.client.stop s.exchange = _ from joined.symm]
    exact quiet
  have gathered := same.silent (.work (.teardown (.gather rfl)))
  have gone : (s.client.stop s.exchange).1.loopIds = [] := by
    rw [← Client.loops_eq_nil]
    exact Client.loops_joinLoops _
  simp only [gone] at gathered
  exact ⟨tasks, gathered.silent (.work (.teardown (.finish rfl)))⟩

/-- While a client is being stopped, the loops and the call take no more steps than they are away from the end,
whatever else happens in between. After the call to exit every loop can take a step, and until the call returns
either it or a loop for which it waits can. Once it has returned, no line, no probe and no loop is running. As long
as nobody starts the client again, that stays so, nothing that arrives makes a difference, the log is what calls make
of it, and stopping the client once more changes nothing but that lines are let go of that have been opened
since. -/
theorem stop_is_final (run : Run session owned trace s) (halting : s.errand.halting = true) :
    (∀ n later s', Stretch s n later s' → n + s'.distance ≤ s.distance) ∧
    (s.errand.summoned = true → ∀ loop ∈ s.client.loops, ∃ happening s', Turn loop s happening s') ∧
    (s.errand ≠ .stopped →
      (∃ s', Teardown s s') ∨ ∃ loop ∈ s.client.loops, ∃ happening s', Turn loop s happening s') ∧
    (s.errand = .stopped →
      (∀ id, (s.exchange.line id).alive = false) ∧ (∀ id, (s.exchange.pulse id).alive = false) ∧
      s.client.pulse = none ∧ s.client.isRunning s.exchange = false ∧ s.client.loops = [] ∧
      (∀ later s', Unstarted s later s' →
        s'.client = { s.client with channels := s'.client.channels, log := s'.client.log } ∧
        s'.client.isRunning s'.exchange = false ∧
        s'.client.log = (logHistory later).foldl ExecutionLog.apply s.client.log ∧
        ∀ happening ∈ later, (∀ loop, happening ≠ .left loop) ∧ ∀ kind m, happening ≠ .heard kind m) ∧
      (s.client.stop s.exchange).1 = { s.client with channels := [] } ∧
      s.exchange.Steady (s.client.stop s.exchange).2 ∧
      (s.client.channels = [] → s.client.stop s.exchange = (s.client, s.exchange))) := by
  have kept := run.kept
  refine ⟨fun n later s' stretch => stretch.add_distance_le kept halting, fun summoned loop member => ?_,
    kept.exists_work halting, fun stopped => ?_⟩
  · exact kept.exists_turn summoned member
  have still := kept.still stopped
  refine ⟨still.lines, still.pulses, still.pulse, still.isRunning, still.loops, fun later s' unstarted => ?_,
    still.stop⟩
  obtain ⟨still', same, quiet⟩ := still.unstarted unstarted
  refine ⟨same, still'.isRunning, ?_, quiet⟩
  have before := run.client.log_eq
  have after := (run.unstarted unstarted).client.log_eq
  unfold logHistory at after before ⊢
  rw [after, before, List.filterMap_append, ExecutionLog.after_append]

theorem stop_is_final_shellOnly : ∃ trace s, Run Client.plainSession false trace s ∧
    s.client = (Client.shellOnly.2.1.stop Client.shellOnly.2.2).1 ∧ s.errand = .stopped ∧
    Client.shellOnly.2.1.loops.length = 1 ∧ s.client.loops = [] ∧ s.client.isRunning s.exchange = false := by
  have fresh : Run Client.plainSession false [] (.new Client.plainSession false (.new false)) :=
    .new (fun _ => rfl) (fun _ => rfl)
  obtain ⟨tasks, renewed, started⟩ := fresh.start rfl ⟨true, false, false, false⟩ ⟨"info", ""⟩
  have empty : EmptyHanded tasks := by
    intro loop m round
    rcases renewed loop with same | same <;> (rw [same] at round; cases round)
  obtain ⟨tasks, stopped⟩ := started.stop rfl empty
  obtain ⟨-, -, -, final⟩ := stopped.stop_is_final rfl
  obtain ⟨-, -, -, running, loops, -⟩ := final rfl
  exact ⟨_, _, stopped, rfl, rfl, by decide, loops, running⟩

end Run
end Service
end KernelLink
