import KernelLink.Manager.Basic
import KernelLink.Proofs.Client.Frames

namespace KernelLink

/-- A shutdown that waits for the kernel to agree: the watch over the control line, the exchange, and how the
shutdown went once that is settled. -/
structure Waiting where
  watch : Control
  exchange : Exchange
  outcome : Option ShutdownOutcome

/-- What may happen while a shutdown waits. -/
inductive Occurrence where
  /-- Something has arrived on the control line. -/
  | arrived (a : Except Failure Message)
  /-- The kernel process has exited. -/
  | exited
  | elapsed (ms : Nat)
  /-- The loop, between two polls, has looked around whether to go on. -/
  | looked
  /-- The loop has taken from its line what had arrived first. -/
  | took (a : Except Failure Message)
  /-- A poll has ended without an arrival. -/
  | expired
  /-- The shutdown has looked whether the kernel has agreed. -/
  | checked

namespace Occurrence

def arrived? : Occurrence → Option (Except Failure Message)
  | .arrived a => some a
  | _ => none

def took? : Occurrence → Option (Except Failure Message)
  | .took a => some a
  | _ => none

end Occurrence

/-- What has arrived on the control line. -/
def arrivals (trace : List Occurrence) : List (Except Failure Message) := trace.filterMap Occurrence.arrived?

/-- What the loop has taken. -/
def taken (trace : List Occurrence) : List (Except Failure Message) := trace.filterMap Occurrence.took?

/-- The answer to a request to shut down. -/
def Message.Agreement (m : Message) : Prop := ∃ reply, m.classify = .shutdownReply reply

namespace Waiting

/-- What comes of a look at the watch: the kernel has agreed, or the time is over, or nothing is settled yet. -/
def verdict (s : Waiting) (deadline : Nat) : Option ShutdownOutcome :=
  if s.watch.acknowledged then some .acknowledged
  else if deadline ≤ s.exchange.now then some .killed
  else none

theorem verdict_acknowledged_iff {s : Waiting} {deadline : Nat} :
    s.verdict deadline = some .acknowledged ↔ s.watch.acknowledged = true := by
  unfold verdict
  by_cases agreed : s.watch.acknowledged = true
  · simp [agreed]
  · by_cases due : deadline ≤ s.exchange.now <;> simp [agreed, due]

/-- One step of the kernel, of the loop over the control line or of the shutdown, in any order. -/
inductive Step (line : LineId) (deadline : Nat) : Waiting → Occurrence → Waiting → Prop
  | arrived {c x outcome} (a : Except Failure Message) :
      Step line deadline ⟨c, x, outcome⟩ (.arrived a) ⟨c, x.arrive line a, outcome⟩
  | exited {c x outcome} : Step line deadline ⟨c, x, outcome⟩ .exited ⟨c, { x with kernelAlive := false }, outcome⟩
  /-- Time passes. Whatever changes meanwhile, the line and the kernel do not. -/
  | elapsed {c x x' outcome ms} : x'.line line = x.line line → x'.kernelAlive = x.kernelAlive →
      x'.now = x.now + ms → Step line deadline ⟨c, x, outcome⟩ (.elapsed ms) ⟨c, x', outcome⟩
  | looked {c x outcome loop} : loop ∈ c.loops → loop.poll = none →
      Step line deadline ⟨c, x, outcome⟩ .looked ⟨(c.lookAround x loop).1, (c.lookAround x loop).2, outcome⟩
  | took {c x outcome loop a x'} : loop ∈ c.loops → loop.poll ≠ none → x.take loop.line = (some a, x') →
      Step line deadline ⟨c, x, outcome⟩ (.took a) ⟨c.receive loop a, x', outcome⟩
  | expired {c x outcome loop} : loop ∈ c.loops →
      Step line deadline ⟨c, x, outcome⟩ .expired ⟨c.setPoll loop.id none, x, outcome⟩
  | checked {s} : s.outcome = none →
      Step line deadline s .checked { s with outcome := s.verdict deadline }

/-- A run from a beginning, with all that has happened. -/
inductive Run (line : LineId) (deadline : Nat) (start : Waiting) : List Occurrence → Waiting → Prop
  | begin : Run line deadline start [] start
  | next {trace s occurrence s'} : Run line deadline start trace s → Step line deadline s occurrence s' →
      Run line deadline start (trace ++ [occurrence]) s'

/-- How a shutdown begins: one loop watches the line, the kernel runs and has not agreed to anything. -/
structure Begun (line : LineId) (s : Waiting) : Prop where
  loops : ∃ loop, s.watch.loops = [loop] ∧ loop.line = line
  going : s.watch.stopping = false
  connected : (s.exchange.line line).alive = true
  running : s.exchange.kernelAlive = true
  unanswered : s.watch.acknowledged = false
  unsettled : s.outcome = none

/-- What ends a loop, by all that happened before: it looks around and the kernel has exited, or it takes a
failure. -/
inductive Ending : List Occurrence → Occurrence → Prop
  | exit {earlier} : .exited ∈ earlier → Ending earlier .looked
  | failure {earlier failure} : Ending earlier (.took (.error failure))

/-- One loop polls the line, or none any more. -/
def AtMostOne (line : LineId) (loops : List Loop) : Prop := loops = [] ∨ ∃ loop, loops = [loop] ∧ loop.line = line

/-- There is a loop until something ends it, and nothing is taken afterwards. -/
structure Polled (line : LineId) (trace : List Occurrence) (loops : List Loop) : Prop where
  single : AtMostOne line loops
  ended : loops = [] → ∃ earlier last, earlier ++ [last] <+: trace ∧ Ending earlier last
  afterwards : ∀ earlier last, earlier ++ [last] <+: trace → Ending earlier last →
    loops = [] ∧ taken trace = taken (earlier ++ [last])

variable {line : LineId} {deadline : Nat} {start s s' : Waiting} {trace : List Occurrence} {next : Occurrence}

theorem snoc_prefix_snoc_iff {α : Type} {earlier trace : List α} {last next : α} :
    earlier ++ [last] <+: trace ++ [next] ↔ (earlier = trace ∧ last = next) ∨ earlier ++ [last] <+: trace := by
  rw [List.prefix_concat_iff, List.append_singleton_inj]

theorem taken_snoc (trace : List Occurrence) (next : Occurrence) :
    taken (trace ++ [next]) = taken trace ++ next.took?.toList := by
  unfold taken
  rw [List.filterMap_append]
  cases next <;> rfl

theorem arrivals_snoc (trace : List Occurrence) (next : Occurrence) :
    arrivals (trace ++ [next]) = arrivals trace ++ next.arrived?.toList := by
  unfold arrivals
  rw [List.filterMap_append]
  cases next <;> rfl

theorem Polled.goOn {loops loops' : List Loop} (polled : Polled line trace loops)
    (single : AtMostOne line loops') (same : loops' = [] ↔ loops = []) (harmless : ¬Ending trace next)
    (idle : loops = [] → next.took? = none) :
    Polled line (trace ++ [next]) loops' := by
  refine ⟨single, fun empty => ?_, fun earlier last before ending => ?_⟩
  · obtain ⟨earlier, last, before, ending⟩ := polled.ended (same.mp empty)
    exact ⟨earlier, last, before.trans (List.prefix_append ..), ending⟩
  · rcases snoc_prefix_snoc_iff.mp before with ⟨rfl, rfl⟩ | before
    · exact absurd ending harmless
    · obtain ⟨empty, settled⟩ := polled.afterwards earlier last before ending
      refine ⟨same.mpr empty, ?_⟩
      rw [taken_snoc, idle empty, settled]
      exact List.append_nil _

theorem Polled.stop {loops : List Loop} (polled : Polled line trace loops) (polling : loops ≠ [])
    (ending : Ending trace next) : Polled line (trace ++ [next]) [] := by
  refine ⟨Or.inl rfl, fun _ => ⟨trace, next, List.prefix_rfl, ending⟩, fun earlier last before early => ?_⟩
  rcases snoc_prefix_snoc_iff.mp before with ⟨rfl, rfl⟩ | before
  · exact ⟨rfl, rfl⟩
  · exact absurd (polled.afterwards earlier last before early).1 polling

/-- What holds all along a run. -/
structure Kept (line : LineId) (start : Waiting) (trace : List Occurrence) (s : Waiting) : Prop where
  polled : Polled line trace s.watch.loops
  going : s.watch.stopping = false
  connected : (s.exchange.line line).alive = true
  running : s.exchange.kernelAlive = false ↔ .exited ∈ trace
  queue : (start.exchange.line line).inbox ++ arrivals trace = taken trace ++ (s.exchange.line line).inbox
  agreed : s.watch.acknowledged = true ↔ ∃ m, .ok m ∈ taken trace ∧ m.Agreement

theorem Begun.kept (begun : Begun line start) : Kept line start [] start where
  polled := by
    obtain ⟨loop, single, place⟩ := begun.loops
    exact ⟨Or.inr ⟨loop, single, place⟩, fun empty => by simp [single] at empty, by simp⟩
  going := begun.going
  connected := begun.connected
  running := by simp [begun.running]
  queue := by simp [arrivals, taken]
  agreed := by simp [begun.unanswered, taken]

theorem not_ending (untaken : next.took? = none) (unlooked : next ≠ .looked) : ¬Ending trace next := by
  intro ending
  cases ending with
  | exit => exact unlooked rfl
  | failure => cases untaken

/-- Where the loop takes nothing and goes on, only arrivals and the exit leave a trace. -/
theorem Kept.aside (kept : Kept line start trace s) (untaken : next.took? = none) (harmless : ¬Ending trace next)
    (single : AtMostOne line s'.watch.loops) (same : s'.watch.loops = [] ↔ s.watch.loops = [])
    (stopping : s'.watch.stopping = s.watch.stopping)
    (acknowledged : s'.watch.acknowledged = s.watch.acknowledged)
    (alive : (s'.exchange.line line).alive = (s.exchange.line line).alive)
    (inbox : (s'.exchange.line line).inbox = (s.exchange.line line).inbox ++ next.arrived?.toList)
    (running : s'.exchange.kernelAlive = false ↔ s.exchange.kernelAlive = false ∨ next = .exited) :
    Kept line start (trace ++ [next]) s' where
  polled := kept.polled.goOn single same harmless fun _ => untaken
  going := stopping.trans kept.going
  connected := alive.trans kept.connected
  running := by simp [running, kept.running, eq_comm]
  queue := by
    rw [arrivals_snoc, taken_snoc, untaken, inbox, ← List.append_assoc, kept.queue]
    simp
  agreed := by
    rw [acknowledged, kept.agreed, taken_snoc, untaken]
    simp

theorem AtMostOne.setPoll {c : Control} (single : AtMostOne line c.loops) (id : Nat) (poll : Option Poll) :
    AtMostOne line (c.setPoll id poll).loops := by
  rcases single with none | ⟨loop, one, place⟩
  · exact Or.inl (by simp [Control.setPoll, none])
  · refine Or.inr ⟨if loop.id = id then { loop with poll := poll } else loop, by simp [Control.setPoll, one], ?_⟩
    split <;> exact place

theorem setPoll_eq_nil_iff (c : Control) (id : Nat) (poll : Option Poll) :
    (c.setPoll id poll).loops = [] ↔ c.loops = [] := List.map_eq_nil_iff

theorem AtMostOne.leave {c : Control} (single : AtMostOne line c.loops) {loop : Loop} (member : loop ∈ c.loops) :
    loop.line = line ∧ (c.leave loop.id).loops = [] := by
  rcases single with none | ⟨other, one, place⟩
  · simp [none] at member
  · rw [one, List.mem_singleton] at member
    subst member
    exact ⟨place, by simp [Control.leave, one]⟩

/-- The loop goes on as long as the kernel runs, and ends when it looks around after the exit. -/
theorem Kept.look {c : Control} {x : Exchange} {outcome : Option ShutdownOutcome}
    (kept : Kept line start trace ⟨c, x, outcome⟩) {loop : Loop} (member : loop ∈ c.loops) :
    Kept line start (trace ++ [.looked]) ⟨(c.lookAround x loop).1, (c.lookAround x loop).2, outcome⟩ := by
  have single := kept.polled.single
  obtain ⟨place, gone⟩ := single.leave member
  have going : c.stopping = false := kept.going
  have may : c.mayPoll x loop = x.kernelAlive := by
    simp [Control.mayPoll, going, place, kept.connected]
  cases running : x.kernelAlive with
  | true =>
    have stays : ¬Ending trace .looked := by
      rintro ⟨exited⟩
      exact Bool.noConfusion (running.symm.trans (kept.running.mpr exited))
    rw [Control.lookAround, may, if_pos running]
    exact kept.aside rfl stays (single.setPoll _ _) (setPoll_eq_nil_iff ..) rfl rfl rfl
      (List.append_nil _).symm (by simp [Exchange.takeTurn])
  | false =>
    rw [Control.lookAround, may, running, if_neg Bool.false_ne_true]
    refine ⟨?_, kept.going, kept.connected, ?_, ?_, ?_⟩
    · simp only [gone]
      exact kept.polled.stop (List.ne_nil_of_mem member) (.exit (kept.running.mp running))
    · simp [kept.running]
    · rw [arrivals_snoc, taken_snoc]
      simpa [Occurrence.took?, Occurrence.arrived?] using kept.queue
    · refine (show c.acknowledged = true ↔ _ from kept.agreed).trans ?_
      rw [taken_snoc]
      simp [Occurrence.took?]

theorem acknowledged_handle_iff (c : Control) (m : Message) :
    (c.handle m).acknowledged = true ↔ c.acknowledged = true ∨ m.Agreement := by
  unfold Control.handle Message.Agreement
  cases m.classify <;> simp

/-- The loop takes what has arrived first. It notes an agreement, and a failure ends it. -/
theorem Kept.take {c : Control} {x x' : Exchange} {outcome : Option ShutdownOutcome}
    (kept : Kept line start trace ⟨c, x, outcome⟩) {loop : Loop} (member : loop ∈ c.loops)
    {a : Except Failure Message} (first : x.take loop.line = (some a, x')) :
    Kept line start (trace ++ [.took a]) ⟨c.receive loop a, x', outcome⟩ := by
  have single := kept.polled.single
  have polling : c.loops ≠ [] := List.ne_nil_of_mem member
  obtain ⟨place, gone⟩ := single.leave member
  obtain ⟨later, inbox, rfl⟩ : ∃ later, (x.line line).inbox = a :: later ∧
      x' = x.setLine line { x.line line with inbox := later } := by
    rw [place, Exchange.take] at first
    split at first
    · cases first
    · rename_i b later queued
      cases first
      exact ⟨later, queued, rfl⟩
  have connected := kept.connected
  have running : x.kernelAlive = false ↔ .exited ∈ trace ++ [.took a] := by simpa using kept.running
  have queue : (start.exchange.line line).inbox ++ arrivals (trace ++ [.took a]) =
      taken (trace ++ [.took a]) ++ later := by
    have before := kept.queue
    simp only [inbox] at before
    rw [arrivals_snoc, taken_snoc]
    simpa [Occurrence.took?, Occurrence.arrived?] using before
  cases a with
  | ok m =>
    refine ⟨?_, kept.going, ?_, running, ?_, ?_⟩
    · refine kept.polled.goOn (single.setPoll _ _) (setPoll_eq_nil_iff ..) (fun ending => ?_)
        fun empty => absurd empty polling
      cases ending
    · simpa [Exchange.line_setLine] using connected
    · simpa [Exchange.line_setLine] using queue
    · refine (acknowledged_handle_iff c m).trans ?_
      rw [taken_snoc, show c.acknowledged = true ↔ _ from kept.agreed]
      simp [Occurrence.took?, or_and_right, exists_or]
  | error failure =>
    refine ⟨?_, kept.going, ?_, running, ?_, ?_⟩
    · simp only [Control.receive, gone]
      exact kept.polled.stop polling .failure
    · simpa [Exchange.line_setLine] using connected
    · simpa [Exchange.line_setLine] using queue
    · refine (show c.acknowledged = true ↔ _ from kept.agreed).trans ?_
      rw [taken_snoc]
      simp [Occurrence.took?]

theorem Kept.step (kept : Kept line start trace s) (step : Step line deadline s next s') :
    Kept line start (trace ++ [next]) s' := by
  have single := kept.polled.single
  cases step with
  | arrived a =>
    refine kept.aside rfl (not_ending rfl (by simp)) single Iff.rfl rfl rfl ?_ ?_
      (by simp [Exchange.arrive, Exchange.setLine])
    · rw [Exchange.arrive, Exchange.line_setLine]
    · rw [Exchange.arrive, Exchange.line_setLine]
      rfl
  | exited =>
    exact kept.aside rfl (not_ending rfl (by simp)) single Iff.rfl rfl rfl rfl (List.append_nil _).symm (by simp)
  | elapsed same running =>
    exact kept.aside rfl (not_ending rfl (by simp)) single Iff.rfl rfl rfl (by rw [same])
      (by simp [same, Occurrence.arrived?]) (by simp [running])
  | looked member idle => exact kept.look member
  | took member polling first => exact kept.take member first
  | expired member =>
    exact kept.aside rfl (not_ending rfl (by simp)) (single.setPoll _ none) (setPoll_eq_nil_iff ..) rfl rfl rfl
      (List.append_nil _).symm (by simp)
  | checked unsettled =>
    exact kept.aside rfl (not_ending rfl (by simp)) single Iff.rfl rfl rfl rfl (List.append_nil _).symm (by simp)

theorem Run.kept (begun : Begun line start) (run : Run line deadline start trace s) :
    Kept line start trace s := by
  induction run with
  | begin => exact begun.kept
  | next run step ih => exact ih.step step

/-- The loop has taken an agreement exactly if nothing has ended it before. -/
theorem Kept.agreed_iff (kept : Kept line start trace s) {ahead behind : List (Except Failure Message)}
    {reply : Message}
    (queue : (start.exchange.line line).inbox ++ arrivals trace = ahead ++ .ok reply :: behind)
    (agreement : reply.Agreement) (first : ∀ m, .ok m ∈ ahead → ¬m.Agreement)
    (served : ahead.length < (taken trace).length ∨ s.watch.loops = []) :
    s.watch.acknowledged = true ↔ ¬∃ earlier last, earlier ++ [last] <+: trace ∧ Ending earlier last ∧
      (taken earlier).length ≤ ahead.length := by
  have fifo : taken trace <+: ahead ++ .ok reply :: behind := ⟨_, kept.queue.symm.trans queue⟩
  have inside (far : ahead.length < (taken trace).length) : ahead ++ [.ok reply] <+: taken trace := by
    have before : ahead ++ [.ok reply] <+: ahead ++ .ok reply :: behind := ⟨behind, by simp⟩
    exact List.prefix_of_prefix_length_le before fifo (by simpa using far)
  have reached : s.watch.acknowledged = true ↔ ahead.length < (taken trace).length := by
    rw [kept.agreed]
    constructor
    · rintro ⟨m, member, agrees⟩
      by_contra short
      have before := List.prefix_of_prefix_length_le fifo (List.prefix_append ..) (Nat.not_lt.mp short)
      exact first m (before.subset member) agrees
    · exact fun far => ⟨reply, (inside far).subset (by simp), agreement⟩
  rw [reached]
  constructor
  · rintro far ⟨earlier, last, before, ending, early⟩
    obtain ⟨-, settled⟩ := kept.polled.afterwards earlier last before ending
    have there := inside far
    rw [settled, taken_snoc] at there
    have short := there.length_le
    cases ending with
    | exit =>
      simp only [Occurrence.took?, Option.toList_none, List.append_nil, List.length_append,
        List.length_singleton] at short
      omega
    | failure =>
      -- the failure would stand in the place of the agreement
      have same := there.eq_of_length (by simp [Occurrence.took?] at short ⊢; omega)
      cases (List.append_singleton_inj.mp same).2
  · intro unharmed
    rcases served with far | gone
    · exact far
    · obtain ⟨earlier, last, before, ending⟩ := kept.polled.ended gone
      have late : ahead.length < (taken earlier).length :=
        Nat.lt_of_not_le fun early => unharmed ⟨earlier, last, before, ending, early⟩
      obtain ⟨-, settled⟩ := kept.polled.afterwards earlier last before ending
      rw [settled, taken_snoc, List.length_append]
      omega

/-- When a shutdown looks whether the kernel has agreed, and the loop has by then taken as many messages as stood in
the queue up to the agreement or has ended: the shutdown is acknowledged exactly if nothing had ended the loop before
it took the agreement. What may end it is a look around after the process has exited, or a failure that it takes. -/
theorem acknowledged_iff (begun : Begun line start) (run : Run line deadline start trace s)
    (checked : Step line deadline s .checked s')
    {ahead behind : List (Except Failure Message)} {reply : Message}
    (queue : (start.exchange.line line).inbox ++ arrivals trace = ahead ++ .ok reply :: behind)
    (agreement : reply.Agreement) (first : ∀ m, .ok m ∈ ahead → ¬m.Agreement)
    (served : ahead.length < (taken trace).length ∨ s.watch.loops = []) :
    s'.outcome = some .acknowledged ↔ ¬∃ earlier last, earlier ++ [last] <+: trace ∧ Ending earlier last ∧
      (taken earlier).length ≤ ahead.length := by
  rw [← (run.kept begun).agreed_iff queue agreement first served]
  cases checked
  exact verdict_acknowledged_iff

/-- What a kernel sends over the control line. -/
def said (msgType : String) : Except Failure Message := .ok (.new { Header.blank with msgType := msgType } .empty)

def controlLine : LineId := ⟨.control, 0⟩

/-- The loop over the control line, in its first poll. -/
def polling : Loop := ⟨0, controlLine, some ⟨100, 0⟩⟩

/-- The same loop after that poll. -/
def idling : Loop := ⟨0, controlLine, none⟩

/-- A shutdown that has asked: the loop, if it is still there, whether it has noted an agreement, the queue, whether
the kernel runs, and the time. -/
def asked (loops : List Loop) (agreed : Bool) (inbox : List (Except Failure Message)) (running : Bool) (now : Nat) :
    Waiting where
  watch := ⟨⟨"session", "user", ⟨[]⟩⟩, agreed, false, loops⟩
  exchange :=
    { Exchange.new true with
      now := now
      lines := [(controlLine, ⟨true, inbox, [], none, []⟩)]
      kernelAlive := running }
  outcome := none

/-- The kernel exits at once after it has agreed, while the loop is in a poll. -/
theorem acknowledged_after_exit : ∃ s, Run controlLine 500 (asked [polling] false [] true 0)
    [.arrived (said "shutdown_reply"), .exited, .took (said "shutdown_reply"), .elapsed 100, .checked] s ∧
      s.outcome = some .acknowledged := by
  have begun : Begun controlLine (asked [polling] false [] true 0) := ⟨⟨polling, rfl, rfl⟩, rfl, rfl, rfl, rfl, rfl⟩
  have arrived : Step controlLine 500 (asked [polling] false [] true 0) (.arrived (said "shutdown_reply"))
    (asked [polling] false [said "shutdown_reply"] true 0) := .arrived _
  have exited : Step controlLine 500 (asked [polling] false [said "shutdown_reply"] true 0) .exited
    (asked [polling] false [said "shutdown_reply"] false 0) := .exited
  have took : Step controlLine 500 (asked [polling] false [said "shutdown_reply"] false 0)
    (.took (said "shutdown_reply")) (asked [idling] true [] false 0) :=
    @Step.took _ _ _ _ none polling _ _ (.head _) (Option.some_ne_none _) rfl
  have elapsed : Step controlLine 500 (asked [idling] true [] false 0) (.elapsed 100)
    (asked [idling] true [] false 100) := .elapsed rfl rfl rfl
  have checked : Step controlLine 500 (asked [idling] true [] false 100) .checked _ := .checked rfl
  have run := (((Run.begin.next arrived).next exited).next took).next elapsed
  have queue : [] ++ [said "shutdown_reply"] = [] ++ said "shutdown_reply" :: [] := rfl
  have first : ∀ m, (.ok m : Except Failure Message) ∈ [] → ¬m.Agreement := fun m member => by cases member
  have harmless : ¬∃ earlier last, earlier ++ [last] <+: [.arrived (said "shutdown_reply"), .exited,
      .took (said "shutdown_reply"), .elapsed 100] ∧ Ending earlier last ∧ (taken earlier).length ≤ 0 := by
    rintro ⟨earlier, last, before, ending, -⟩
    have member := before.subset (List.mem_append_right earlier (List.mem_singleton_self last))
    simp only [List.mem_cons, List.not_mem_nil, or_false] at member
    rcases member with rfl | rfl | rfl | rfl <;> cases ending
  exact ⟨_, run.next checked,
    (acknowledged_iff begun run checked queue ⟨_, rfl⟩ first (Or.inl Nat.one_pos)).mpr harmless⟩

/-- An agreement is lost if the process exits while the loop is busy with another message. -/
theorem agreement_lost : ∃ s, Run controlLine 500 (asked [polling] false [] true 0)
    [.arrived (said "status"), .arrived (said "shutdown_reply"), .took (said "status"), .exited, .looked,
      .elapsed 100, .checked, .elapsed 400, .checked] s ∧ s.outcome = some .killed := by
  have busy : Step controlLine 500 (asked [polling] false [] true 0) (.arrived (said "status"))
    (asked [polling] false [said "status"] true 0) := .arrived _
  have agreed : Step controlLine 500 (asked [polling] false [said "status"] true 0) (.arrived (said "shutdown_reply"))
    (asked [polling] false [said "status", said "shutdown_reply"] true 0) := .arrived _
  have took : Step controlLine 500 (asked [polling] false [said "status", said "shutdown_reply"] true 0)
    (.took (said "status")) (asked [idling] false [said "shutdown_reply"] true 0) :=
    @Step.took _ _ _ _ none polling _ _ (.head _) (Option.some_ne_none _) rfl
  have exited : Step controlLine 500 (asked [idling] false [said "shutdown_reply"] true 0) .exited
    (asked [idling] false [said "shutdown_reply"] false 0) := .exited
  have looked : Step controlLine 500 (asked [idling] false [said "shutdown_reply"] false 0) .looked
    (asked [] false [said "shutdown_reply"] false 0) := @Step.looked _ _ _ _ none idling (.head _) rfl
  have elapsed : Step controlLine 500 (asked [] false [said "shutdown_reply"] false 0) (.elapsed 100)
    (asked [] false [said "shutdown_reply"] false 100) := .elapsed rfl rfl rfl
  have checked : Step controlLine 500 (asked [] false [said "shutdown_reply"] false 100) .checked
    (asked [] false [said "shutdown_reply"] false 100) := .checked rfl
  have due : Step controlLine 500 (asked [] false [said "shutdown_reply"] false 100) (.elapsed 400)
    (asked [] false [said "shutdown_reply"] false 500) := .elapsed rfl rfl rfl
  have run := (((((((Run.begin.next busy).next agreed).next took).next exited).next looked).next elapsed).next
    checked).next due
  exact ⟨_, run.next (.checked rfl), rfl⟩

end Waiting
end KernelLink
