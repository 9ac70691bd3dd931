import KernelLink.Proofs.Client.Pending
import KernelLink.Proofs.Client.Upkeep
import Mathlib.Data.List.Nodup
import Mathlib.Data.List.Perm.Subperm
import Mathlib.Logic.Relation

namespace KernelLink

/-- The loops that poll the lines to a socket. -/
def Client.pollers (c : Client) (kind : ChannelKind) : List Loop := c.loops.filter (·.line.kind = kind)

/-- It makes no difference what a loop was doing when it ends. -/
theorem Client.leave_setPoll (c : Client) (loop : Nat) (poll : Option Poll) :
    (c.setPoll loop poll).leave loop = c.leave loop := by
  have others (loops : List Loop) : (loops.map fun l => if l.id = loop then { l with poll := poll } else l).filter
      (·.id ≠ loop) = loops.filter (·.id ≠ loop) := by
    induction loops with
    | nil => rfl
    | cons l loops ih =>
      rw [List.map_cons, List.filter_cons, List.filter_cons, ih]
      by_cases here : l.id = loop <;> simp [here]
  unfold leave setPoll
  rw [others]

/-- Whether the call that starts a client has yet to deal with a socket, or has failed before it came to it. -/
def Errand.Due (kind : ChannelKind) : Errand → Prop
  | .starting _ left => kind ∈ left
  | .started (.error _) => True
  | _ => False

namespace Service

/-- A line is running, and no loop polls it. -/
def Deaf (s : Service) (line : LineId) : Prop :=
  (s.exchange.line line).alive = true ∧ ∀ seat ∈ s.client.seats, seat.2 ≠ line

/-- The client holds a line to a socket, and it is running. -/
def Holds (s : Service) (kind : ChannelKind) : Prop :=
  ∃ line, s.client.channels.find? (·.kind = kind) = some line ∧ (s.exchange.line line).alive = true

/-- What goes on while the kernel is alive and no loop receives a failure. -/
inductive Calm (s : Service) : Service → Prop
  | turn {loop happening s'} : s.client.isAlive s.exchange = true → Turn loop s happening s' → Calm s s'
  | message {loop s'} : Receipt loop s none s' → Calm s s'
  | expire {loop : Loop} : loop ∈ s.client.loops → (s.tasks loop.id).round = .waiting →
      Calm s { s.assign loop.id .fresh with client := s.client.setPoll loop.id none }
  | setup {s'} : Setup s s' → Calm s s'
  | aside {happening s'} : Aside s happening s' → Calm s s'

section Calm

variable {s₀ s s' : Service} {happening : Option Happening} {loop : Loop} {options : StartOptions}
  {kind : ChannelKind}

/-- While the kernel is alive and the client has not been told to stop, no loop has a reason to end. -/
theorem Turn.stays (turn : Turn loop s happening s') (kept : Kept s) (running : s.errand.halting = false)
    (alive : s.client.isAlive s.exchange = true) (other : Nat) : happening ≠ some (.left other) := by
  have seat (member : loop ∈ s.client.loops) : (loop.id, loop.line) ∈ s.client.seats :=
    List.mem_map_of_mem member
  cases turn with
  | enlist member round => simp
  | goOn member round may => simp
  | giveUp member round ended =>
    have stopping : s.client.stopping = false := kept.flag.trans running
    have line := kept.polled running _ (seat member)
    unfold Client.mayPoll at ended
    rw [stopping, line, alive] at ended
    cases ended
  | obey member round called =>
    have uncalled := kept.uncalled_of_running running _ (seat member)
    rw [called] at uncalled
    cases uncalled
  | handle member round => simp

/-- How things stand while a client is being started, and after that. -/
structure Underway (s₀ : Service) (options : StartOptions) (s : Service) : Prop where
  running : s.errand.halting = false
  /-- Nobody stops or begins to poll a line that was running before. -/
  deaf : ∀ line, s.Deaf line ↔ s₀.Deaf line
  held : ∀ kind ∈ options.kinds, s.errand.Due kind ∨ s.Holds kind

theorem Beside.deaf_iff (beside : Beside s happening s') (stays : ∀ loop, happening ≠ some (.left loop))
    (line : LineId) : s'.Deaf line ↔ s.Deaf line := by
  unfold Deaf
  rw [beside.steady.lines, beside.stays stays]

theorem Beside.holds (beside : Beside s happening s') (holds : s.Holds kind) : s'.Holds kind := by
  obtain ⟨line, found, alive⟩ := holds
  exact ⟨line, beside.channels.find? found, (beside.steady.lines line).trans alive⟩

theorem Underway.beside (underway : Underway s₀ options s) (beside : Beside s happening s')
    (stays : ∀ loop, happening ≠ some (.left loop)) : Underway s₀ options s' := by
  refine ⟨?_, fun line => ?_, fun kind wanted => ?_⟩
  · rw [beside.errand, underway.running]
  · rw [beside.deaf_iff stays, underway.deaf]
  · rw [beside.errand]
    exact (underway.held kind wanted).imp_right beside.holds

theorem Underway.move (underway : Underway s₀ options s) {e : Errand} (running : e.halting = false)
    (due : ∀ kind, s.errand.Due kind → e.Due kind ∨ s.Holds kind) :
    Underway s₀ options { s with errand := e } := by
  refine ⟨running, underway.deaf, fun kind wanted => ?_⟩
  rcases underway.held kind wanted with ahead | holds
  · exact due kind ahead
  · exact Or.inr holds

/-- A loop begins to poll a line that was not running, so that the line was not deaf and does not become it. -/
theorem Underway.spawn (underway : Underway s₀ options s) (id : Nat) {line : LineId}
    (dead : (s.exchange.line line).alive = false) :
    Underway s₀ options { s with
      client := { s.client with loops := s.client.loops ++ [⟨id, line, none⟩] }
      exchange := (s.exchange.startLine line).takeTurn.2 } := by
  have alive (other : LineId) : (((s.exchange.startLine line).takeTurn.2).line other).alive = true ↔
      other = line ∨ (s.exchange.line other).alive = true := s.exchange.alive_startLine line other
  refine ⟨underway.running, fun other => ?_, fun kind wanted => ?_⟩
  · rw [← underway.deaf]
    unfold Deaf
    rw [alive, Client.seats_append]
    constructor
    · rintro ⟨before, unpolled⟩
      have differs : line ≠ other := unpolled _ (List.mem_append_right _ (List.mem_singleton_self _))
      exact ⟨before.resolve_left differs.symm, fun seat member => unpolled seat (List.mem_append_left _ member)⟩
    · rintro ⟨before, unpolled⟩
      refine ⟨Or.inr before, fun seat member => ?_⟩
      rcases List.mem_append.mp member with old | new
      · exact unpolled seat old
      · rw [List.mem_singleton.mp new]
        rintro rfl
        rw [dead] at before
        cases before
  · rcases underway.held kind wanted with ahead | ⟨there, found, before⟩
    · exact Or.inl ahead
    · exact Or.inr ⟨there, found, (alive there).mpr (Or.inr before)⟩

theorem Underway.startChannel (underway : Underway s₀ options s) {options' : StartOptions} {kind : ChannelKind}
    {left : List ChannelKind} (here : s.errand = .starting options' (kind :: left)) :
    Underway s₀ options { s.assign s.exchange.turns .fresh with
      client := (s.client.startChannel s.exchange kind).2.1
      exchange := (s.client.startChannel s.exchange kind).2.2
      errand := .after (.starting options' left) (s.client.startChannel s.exchange kind).1 } := by
  have goesOn := s.client.startChannel_starting s.exchange kind
  generalize s.client.startChannel s.exchange kind = begun at goesOn
  have opened {held : List LineId} {x : Exchange} (opens : Client.Opens s.client.channels held)
      (steady : s.exchange.Steady x) : Underway s₀ options { s.assign s.exchange.turns .fresh with
        client := { s.client with channels := held }, exchange := x } :=
    underway.beside (beside_opens opens steady (fun called => by cases called) fun round => by cases round) (by simp)
  -- what is still ahead of the call is ahead of it afterwards, or has just been dealt with
  have due {t : Service} (same : t.errand = s.errand) (holds : t.Holds kind) (other : ChannelKind)
      (ahead : t.errand.Due other) : (Errand.starting options' left).Due other ∨ t.Holds other := by
    rw [same, here] at ahead
    rcases List.mem_cons.mp ahead with rfl | later
    · exact Or.inr holds
    · exact Or.inl later
  cases goesOn with
  | refused opens steady => exact (opened opens steady).move rfl fun _ _ => Or.inl trivial
  | running opens steady found alive => exact (opened opens steady).move rfl (due rfl ⟨_, found, alive⟩)
  | @spawned line held x opens steady found dead =>
    have spawned := (opened opens steady).spawn s.exchange.turns dead
    exact spawned.move rfl (due rfl ⟨line, found, (x.alive_startLine line line).mpr (Or.inl rfl)⟩)

theorem Underway.setup (underway : Underway s₀ options s) (setup : Setup s s') : Underway s₀ options s' := by
  cases setup with
  | startChannel here => exact underway.startChannel here
  | allow here =>
    refine ⟨rfl, underway.deaf, fun kind wanted => ?_⟩
    rcases underway.held kind wanted with ahead | holds
    · rw [here] at ahead
      exact absurd ahead List.not_mem_nil
    · exact Or.inr holds
  | probe here wanted =>
    rcases s.client.startPulse_cases s.exchange with ⟨failure, x, begun, steady⟩ | ⟨id, x, begun, steady, -⟩
    · rw [begun]
      have elsewhere := underway.beside (Aside.elsewhere steady).beside (by simp)
      exact elsewhere.move rfl fun _ _ => Or.inl trivial
    · rw [begun]
      have elsewhere := underway.beside (Aside.elsewhere steady).beside (by simp)
      refine ⟨rfl, elsewhere.deaf, fun kind wanted => ?_⟩
      rcases elsewhere.held kind wanted with ahead | holds
      · rw [show (_ : Errand) = .probing _ from here] at ahead
        exact ahead.elim
      · exact Or.inr holds
  | noProbe here unwanted =>
    refine underway.move rfl fun kind ahead => ?_
    rw [here] at ahead
    exact ahead.elim
  | greet stamp here wanted =>
    have asked := underway.beside (Aside.asks (Asks.kernelInfo stamp)).beside (by simp)
    refine asked.move rfl fun kind ahead => ?_
    rw [show (_ : Errand) = .greeting _ from here] at ahead
    exact ahead.elim
  | noGreeting here unwanted =>
    refine underway.move rfl fun kind ahead => ?_
    rw [here] at ahead
    exact ahead.elim

theorem Calm.step (calm : Calm s s') : ∃ happening, Step s happening s' := by
  cases calm with
  | turn alive turn => exact ⟨_, .work (.loop (.turn turn))⟩
  | message receipt => exact ⟨_, .work (.loop (.receipt receipt))⟩
  | expire member round => exact ⟨_, .work (.loop (.expire member round))⟩
  | setup setup => exact ⟨_, .work (.setup setup)⟩
  | aside aside => exact ⟨_, .aside aside⟩

theorem Underway.calm (underway : Underway s₀ options s) (kept : Kept s) (calm : Calm s s') :
    Underway s₀ options s' := by
  cases calm with
  | turn alive turn => exact underway.beside turn.beside (turn.stays kept underway.running alive)
  | message receipt => exact underway.beside (Motion.receipt receipt).beside (by simp)
  | expire member round => exact underway.beside (Motion.expire member round).beside (by simp)
  | setup setup => exact underway.setup setup
  | aside aside => exact underway.beside aside.beside aside.stays

theorem underway_of_calm (kept : Kept s₀) (rest : s₀.errand.atRest = true)
    (calm : Relation.ReflTransGen Calm (s₀.beginStart options) s) : Kept s ∧ Underway s₀ options s := by
  induction calm with
  | refl =>
    refine ⟨kept.beginStart options rest, rfl, fun line => Iff.rfl, fun kind wanted => Or.inl wanted⟩
  | tail _ calm ih =>
    obtain ⟨kept, underway⟩ := ih
    obtain ⟨happening, step⟩ := calm.step
    exact ⟨kept.step step, underway.calm kept calm⟩

/-- No two loops poll lines to one socket, since a loop polls the line that the client holds. -/
theorem Kept.pollers_le (kept : Kept s) (running : s.errand.halting = false) {line : LineId}
    (found : s.client.channels.find? (·.kind = kind) = some line) :
    (s.client.pollers kind).length ≤ 1 ∧ ∀ loop ∈ s.client.pollers kind, loop.line = line := by
  have same : ∀ loop ∈ s.client.pollers kind, loop.line = line := by
    intro loop member
    obtain ⟨here, named⟩ := List.mem_filter.mp member
    have seat : (loop.id, loop.line) ∈ s.client.seats := List.mem_map_of_mem here
    have held := kept.mem_channels running (kept.polled running _ seat)
    have kinds : loop.line.kind = line.kind := by
      rw [of_decide_eq_true named]
      have there := List.find?_some found
      exact (of_decide_eq_true there).symm
    exact List.inj_on_of_nodup_map kept.kinds held (List.mem_of_find?_eq_some found) kinds
  refine ⟨?_, same⟩
  have distinct : ((s.client.pollers kind).map (·.line)).Nodup := by
    have apart := kept.apart
    rw [← Client.lines_eq] at apart
    exact apart.sublist (List.filter_sublist.map _)
  have only : ∀ other ∈ (s.client.pollers kind).map (·.line), other ∈ [line] := by
    intro other member
    obtain ⟨loop, here, rfl⟩ := List.mem_map.mp member
    exact List.mem_singleton.mpr (same loop here)
  have length := (distinct.subperm only).length_le
  rwa [List.length_map] at length

end Calm

variable {session : Session} {owned : Bool} {trace : List Happening} {s₀ s : Service}

/-- When the call that starts a client has returned without a failure, and neither the kernel has died nor a loop has
received a failure in the meantime, the client holds a running line to every socket that it was asked to start. One
loop polls it and no other, unless the line was running before without a loop that polled it: then nobody does. -/
theorem Run.polled_iff_not_deaf (run : Run session owned trace s₀) (rest : s₀.errand.atRest = true)
    {options : StartOptions} (calm : Relation.ReflTransGen Calm (s₀.beginStart options) s)
    (done : s.errand = .started (.ok ())) {kind : ChannelKind} (wanted : kind ∈ options.kinds) :
    ∃ line, s.client.channels.find? (·.kind = kind) = some line ∧ (s.exchange.line line).alive = true ∧
      (∀ loop ∈ s.client.pollers kind, loop.line = line) ∧ (s.client.pollers kind).length ≤ 1 ∧
      ((s.client.pollers kind).length = 1 ↔ ¬s₀.Deaf line) := by
  obtain ⟨kept, underway⟩ := underway_of_calm run.kept rest calm
  rcases underway.held kind wanted with ahead | ⟨line, found, alive⟩
  · rw [done] at ahead
    exact ahead.elim
  obtain ⟨atMost, same⟩ := kept.pollers_le underway.running found
  refine ⟨line, found, alive, same, atMost, ?_⟩
  rw [← underway.deaf]
  constructor
  · rintro one ⟨-, unpolled⟩
    obtain ⟨loop, only⟩ := List.length_eq_one_iff.mp one
    have member : loop ∈ s.client.pollers kind := by rw [only]; exact List.mem_singleton_self _
    exact unpolled _ (List.mem_map_of_mem (List.mem_filter.mp member).1) (same loop member)
  · intro hears
    have some : s.client.pollers kind ≠ [] := by
      intro none
      refine hears ⟨alive, fun seat member polls => ?_⟩
      obtain ⟨loop, here, rfl⟩ := List.mem_map.mp member
      have named : loop ∈ s.client.pollers kind := by
        refine List.mem_filter.mpr ⟨here, decide_eq_true ?_⟩
        have there := List.find?_some found
        rw [show loop.line = line from polls]
        exact of_decide_eq_true there
      rw [none] at named
      exact List.not_mem_nil named
    have atLeast := List.length_pos_iff.mpr some
    omega

/-! ### What the call does that starts a client, by itself -/

/-- Some loops have begun anew, and the others stand where they stood. -/
def Renewed (tasks tasks' : Nat → Task) : Prop := ∀ loop, tasks' loop = tasks loop ∨ tasks' loop = .fresh

theorem startChannels_setups {c : Client} {x : Exchange} {calls : List Call} {tasks : Nat → Task}
    (options : StartOptions) (kinds : List ChannelKind) :
    ∃ tasks', Renewed tasks tasks' ∧
      Relation.ReflTransGen Setup ⟨⟨c, x, calls⟩, tasks, .starting options kinds⟩
        ⟨⟨(c.startChannels x kinds).2.1, (c.startChannels x kinds).2.2, calls⟩, tasks',
          .after (.starting options []) (c.startChannels x kinds).1⟩ := by
  induction kinds generalizing c x tasks with
  | nil => exact ⟨tasks, fun _ => Or.inl rfl, .refl⟩
  | cons kind left ih =>
    have first : Setup ⟨⟨c, x, calls⟩, tasks, .starting options (kind :: left)⟩ _ := .startChannel rfl
    have renewed : Renewed tasks (Function.update tasks x.turns .fresh) := by
      intro loop
      by_cases here : loop = x.turns
      · rw [here, Function.update_self]
        exact Or.inr rfl
      · rw [Function.update_of_ne here]
        exact Or.inl rfl
    unfold Client.startChannels
    simp only [assign] at first
    split
    · rename_i failed
      rw [failed] at first
      exact ⟨_, renewed, .single first⟩
    · rename_i c' x' begun
      rw [begun] at first
      obtain ⟨tasks', still, rest⟩ := @ih c' x' (Function.update tasks x.turns .fresh)
      refine ⟨tasks', fun loop => ?_, .head first rest⟩
      rcases still loop with same | fresh
      · rw [same]
        exact renewed loop
      · exact Or.inr fresh

/-- Nobody but the call itself is needed to start a client. -/
theorem start_setups (s : Service) (options : StartOptions) (stamp : Stamp) :
    ∃ tasks, Renewed s.tasks tasks ∧ Relation.ReflTransGen Setup (s.beginStart options)
      ⟨⟨(s.client.start s.exchange options stamp).2.1, (s.client.start s.exchange options stamp).2.2, s.calls⟩,
        tasks, .started (s.client.start s.exchange options stamp).1⟩ := by
  obtain ⟨tasks, renewed, lines⟩ := @startChannels_setups { s.client with stopping := false } s.exchange s.calls
    s.tasks options options.kinds
  refine ⟨tasks, renewed, ?_⟩
  unfold Client.start
  split
  · rename_i failed
    rw [failed] at lines
    exact lines
  rename_i c x begun
  rw [begun] at lines
  have allowed := lines.tail (.allow rfl)
  have pulsed : Relation.ReflTransGen Setup (s.beginStart options)
      ⟨⟨(if options.heartbeat then ({ c with allowStdin := options.stdin } : Client).startPulse x
          else (.ok (), { c with allowStdin := options.stdin }, x)).2.1,
        (if options.heartbeat then ({ c with allowStdin := options.stdin } : Client).startPulse x
          else (.ok (), { c with allowStdin := options.stdin }, x)).2.2, s.calls⟩, tasks,
        .after (.greeting options)
          (if options.heartbeat then ({ c with allowStdin := options.stdin } : Client).startPulse x
            else (.ok (), { c with allowStdin := options.stdin }, x)).1⟩ := by
    cases wanted : options.heartbeat with
    | false => exact allowed.tail (.noProbe rfl wanted)
    | true => exact allowed.tail (.probe rfl wanted)
  simp only
  split
  · rename_i failed
    rwa [failed] at pulsed
  rename_i beating
  rw [beating] at pulsed
  cases wanted : options.shell with
  | false => exact pulsed.tail (.noGreeting rfl wanted)
  | true =>
    have asked := pulsed.tail (.greet stamp rfl wanted)
    simp only [if_true]
    split <;> (rename_i answered; rw [answered] at asked; exact asked)

theorem Run.setups (run : Run session owned trace s) {s' : Service}
    (setups : Relation.ReflTransGen Setup s s') : Run session owned trace s' := by
  induction setups with
  | refl => exact run
  | tail _ setup ih => exact ih.silent (.work (.setup setup))

/-- Starting a client by a call that nobody disturbs is a part of a run. -/
theorem Run.start (run : Run session owned trace s) (rest : s.errand.atRest = true) (options : StartOptions)
    (stamp : Stamp) :
    ∃ tasks, Renewed s.tasks tasks ∧ Run session owned trace
      ⟨⟨(s.client.start s.exchange options stamp).2.1, (s.client.start s.exchange options stamp).2.2, s.calls⟩,
        tasks, .started (s.client.start s.exchange options stamp).1⟩ := by
  obtain ⟨tasks, renewed, setups⟩ := s.start_setups options stamp
  exact ⟨tasks, renewed, (run.silent (.beginStart options rest)).setups setups⟩

/-- A client that is new has no deaf line, so that the loop of its shell line is the only one. -/
theorem Run.polled_after_first_start : ∃ tasks,
    Relation.ReflTransGen Calm ((Service.new Client.plainSession false (.new false)).beginStart ⟨true, false, false, false⟩)
      ⟨⟨Client.shellOnly.2.1, Client.shellOnly.2.2, []⟩, tasks, .started (.ok ())⟩ ∧
    ¬(Service.new Client.plainSession false (.new false)).Deaf ⟨.shell, 0⟩ ∧
    (Client.shellOnly.2.1.pollers .shell).length = 1 := by
  have fresh : Run Client.plainSession false [] (.new Client.plainSession false (.new false)) :=
    .new (fun _ => rfl) (fun _ => rfl)
  obtain ⟨tasks, -, setups⟩ := start_setups (.new Client.plainSession false (.new false))
    ⟨true, false, false, false⟩ ⟨"info", ""⟩
  have calm := Relation.ReflTransGen.mono (fun _ _ => Calm.setup) _ _ setups
  have hears (line : LineId) : ¬(Service.new Client.plainSession false (.new false)).Deaf line := by
    rintro ⟨alive, -⟩
    cases alive
  obtain ⟨line, -, -, -, -, polled⟩ := fresh.polled_iff_not_deaf rfl calm rfl (List.mem_singleton_self _)
  exact ⟨tasks, calm, hears _, polled.mpr (hears line)⟩

/-- A loop that may poll may receive a failure, and then it ends. -/
theorem Run.fail {c : Client} {x : Exchange} {calls : List Call} {tasks : Nat → Task} {errand : Errand}
    {loop : Loop} (run : Run session owned trace ⟨⟨c, x, calls⟩, tasks, errand⟩) (member : loop ∈ c.loops)
    (enlisting : (tasks loop.id).round = .enlisting) (may : c.mayPoll x loop = true) :
    ∃ tasks, Run session owned (trace ++ [.left loop.id])
      ⟨⟨c.leave loop.id, x.takeTurn.2, calls⟩, tasks, errand⟩ := by
  have listed := run.silent (.work (.loop (.turn (.enlist member enlisting))))
  have looking := listed.silent (.work (.loop (.turn (.goOn member (by rw [tasks_assign, if_pos rfl]) may))))
  have waiting : ∃ tasks poll, (tasks loop.id).round = .waiting ∧
      Run session owned trace ⟨⟨c.setPoll loop.id (some poll), x.takeTurn.2, calls⟩, tasks, errand⟩ := by
    simp only [assign, c.lookAround_of_mayPoll may] at looking
    exact ⟨_, _, by rw [Function.update_self], looking⟩
  obtain ⟨tasks, poll, round, waiting⟩ := waiting
  have polls : ({ loop with poll := some poll } : Loop) ∈ (c.setPoll loop.id (some poll)).loops :=
    List.mem_map.mpr ⟨loop, member, if_pos rfl⟩
  -- the failure stands on the line for as long as it takes the loop to take it
  let failure : Failure := .protocol (.receiveOnly loop.line.kind)
  have arrived : x.takeTurn.2.Steady
      (x.takeTurn.2.setLine loop.line { x.line loop.line with inbox := [.error failure] }) :=
    x.takeTurn.2.steady_setLine loop.line rfl
  have taken : (x.takeTurn.2.setLine loop.line { x.line loop.line with inbox := [.error failure] }).take loop.line =
      (some (.error failure), (x.takeTurn.2.setLine loop.line
        { x.line loop.line with inbox := [.error failure] }).setLine loop.line
          { x.line loop.line with inbox := [] }) := by
    simp only [Exchange.take, Exchange.line_setLine]
  have failing := waiting.silent (.aside (.elsewhere arrived))
  have left := failing.next (.work (.loop (.receipt (.failure polls round taken))))
  have there := Exchange.steady_take (x.takeTurn.2.setLine loop.line
    { x.line loop.line with inbox := [.error failure] }) loop.line
  rw [taken] at there
  have both := arrived.trans there
  have back := left.silent (.aside (.elsewhere
    ⟨fun id => (both.lines id).symm, fun id => (both.pulses id).symm, le_refl x.takeTurn.2.turns⟩))
  have gone : (c.setPoll loop.id (some poll)).receive { loop with poll := some poll } (.error failure) =
      c.leave loop.id := c.leave_setPoll loop.id (some poll)
  rw [gone] at back
  exact ⟨tasks, back⟩

/-- A client whose iopub line alone has been started. -/
def iopubOnly : Except Failure Unit × Client × Exchange :=
  (Client.new Client.plainSession false).start (.new false) ⟨false, true, false, false⟩ ⟨"info", ""⟩

/-- After its loop has received a failure, starting the iopub line again succeeds, and nobody polls it. -/
theorem Run.restarted_line_unpolled : ∃ trace s₀ s, Run Client.plainSession false trace s₀ ∧
    s₀.errand.atRest = true ∧ s₀.Deaf ⟨.iopub, 0⟩ ∧
    Relation.ReflTransGen Calm (s₀.beginStart ⟨false, true, false, false⟩) s ∧ s.errand = .started (.ok ()) ∧
    s.client.isAlive s.exchange = true ∧ s.Holds .iopub ∧ s.client.pollers .iopub = [] := by
  have fresh : Run Client.plainSession false [] (.new Client.plainSession false (.new false)) :=
    .new (fun _ => rfl) (fun _ => rfl)
  obtain ⟨tasks, renewed, started⟩ := fresh.start rfl ⟨false, true, false, false⟩ ⟨"info", ""⟩
  have enlisting : (tasks 0).round = .enlisting := by
    rcases renewed 0 with same | same <;> (rw [same]; rfl)
  have member : ⟨0, ⟨.iopub, 0⟩, none⟩ ∈ iopubOnly.2.1.loops := by decide
  have may : iopubOnly.2.1.mayPoll iopubOnly.2.2 ⟨0, ⟨.iopub, 0⟩, none⟩ = true := by decide
  obtain ⟨tasks, failed⟩ := started.fail member enlisting may
  obtain ⟨tasks, -, setups⟩ := start_setups
    ⟨⟨iopubOnly.2.1.leave 0, iopubOnly.2.2.takeTurn.2, []⟩, tasks, .started (.ok ())⟩ ⟨false, true, false, false⟩
    ⟨"info", ""⟩
  have calm := Relation.ReflTransGen.mono (fun _ _ => Calm.setup) _ _ setups
  let again := (iopubOnly.2.1.leave 0).start iopubOnly.2.2.takeTurn.2 ⟨false, true, false, false⟩ ⟨"info", ""⟩
  have unpolled : again.2.1.pollers .iopub = [] := by decide
  have held : again.2.1.channels.find? (·.kind = .iopub) = some ⟨.iopub, 0⟩ := by decide
  have deaf : ∀ seat ∈ (iopubOnly.2.1.leave 0).seats, seat.2 ≠ ⟨.iopub, 0⟩ := by decide
  exact ⟨_, _, _, failed, rfl, ⟨rfl, deaf⟩, calm, rfl, rfl, ⟨⟨.iopub, 0⟩, held, rfl⟩, unpolled⟩

end Service
end KernelLink
