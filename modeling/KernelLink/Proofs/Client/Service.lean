import KernelLink.Proofs.Client.Frames
import Mathlib.Logic.Function.Basic

namespace KernelLink

/-- Where a loop stands. It has its name put down for the call to exit before it looks around. -/
inductive Round where
  | enlisting
  | looking
  | waiting
  /-- The loop has taken a message, and has not handed it to the client. -/
  | holding (m : Message)

structure Task where
  round : Round
  /-- Whether the call to exit has reached the loop since it had its name put down. -/
  called : Bool

namespace Task

def fresh : Task := ⟨.enlisting, false⟩

/-- The call to exit reaches only those who have had their names put down. -/
def call (t : Task) : Task :=
  match t.round with
  | .enlisting => t
  | .looking => { t with called := true }
  | .waiting => { t with called := true }
  | .holding _ => t

theorem round_call (t : Task) : t.call.round = t.round := by
  unfold call
  split <;> rfl

theorem called_call {t : Task} (waits : t.call.round = .waiting) : t.call.called = true := by
  unfold call at waits ⊢
  split <;> rename_i round <;> simp_all

end Task

/-- How far the client has come with the call that starts it or the call that stops it. -/
inductive Errand where
  | idle
  | starting (options : StartOptions) (left : List ChannelKind)
  | probing (options : StartOptions)
  | greeting (options : StartOptions)
  | started (result : Except Failure Unit)
  /-- The loops have been told to end, but nobody has been called. -/
  | calling
  | draining
  /-- The client has let go of its lines, and some are still to be stopped. -/
  | stopping (left : List LineId)
  /-- The line is not running any more, but a loop may still be receiving from it. -/
  | closing (line : LineId) (left : List LineId)
  | quieting (probe : Option Nat)
  /-- The call waits for the loops of these numbers, in this order. -/
  | joining (left : List Nat)
  | stopped

namespace Errand

/-- Whether neither call is under way. -/
def atRest : Errand → Bool
  | .idle => true
  | .started _ => true
  | .stopped => true
  | _ => false

/-- Whether the client has been told to stop and has not been started since. -/
def halting : Errand → Bool
  | .idle => false
  | .starting .. => false
  | .probing _ => false
  | .greeting _ => false
  | .started _ => false
  | _ => true

/-- Whether the call to exit has gone out. -/
def summoned (e : Errand) : Bool :=
  match e with
  | .calling => false
  | e => e.halting

/-- A failure ends the call that starts a client. -/
def after (next : Errand) : Except Failure Unit → Errand
  | .ok () => next
  | .error failure => .started (.error failure)

end Errand

/-- A client with all who work for it: its loops, the calls that run code, and the call that starts or stops
it. -/
structure Service extends Situation where
  tasks : Nat → Task
  errand : Errand

namespace Service

def assign (s : Service) (loop : Nat) (t : Task) : Service :=
  { s with tasks := Function.update s.tasks loop t }

theorem tasks_assign (s : Service) (loop : Nat) (t : Task) (other : Nat) :
    (s.assign loop t).tasks other = if other = loop then t else s.tasks other := Function.update_apply ..

/-- What a loop does next. None of it waits for a message or for the clock. -/
inductive Turn (loop : Loop) (s : Service) : Option Happening → Service → Prop
  | enlist : loop ∈ s.client.loops → (s.tasks loop.id).round = .enlisting →
      Turn loop s none (s.assign loop.id ⟨.looking, false⟩)
  | goOn : loop ∈ s.client.loops → (s.tasks loop.id).round = .looking →
      s.client.mayPoll s.exchange loop = true →
      Turn loop s none { s.assign loop.id { s.tasks loop.id with round := .waiting } with
        client := (s.client.lookAround s.exchange loop).1
        exchange := (s.client.lookAround s.exchange loop).2 }
  | giveUp : loop ∈ s.client.loops → (s.tasks loop.id).round = .looking →
      s.client.mayPoll s.exchange loop = false →
      Turn loop s (some (.left loop.id)) { s with client := s.client.leave loop.id }
  | obey : loop ∈ s.client.loops → (s.tasks loop.id).round = .waiting → (s.tasks loop.id).called = true →
      Turn loop s (some (.left loop.id)) { s with client := s.client.leave loop.id }
  | handle {m} : loop ∈ s.client.loops → (s.tasks loop.id).round = .holding m →
      Turn loop s (some (.heard loop.line.kind m))
        { s.assign loop.id .fresh with client := s.client.receive loop (.ok m) }

/-- A loop that waits receives what has arrived first on its line, called or not. -/
inductive Receipt (loop : Loop) (s : Service) : Option Happening → Service → Prop
  | message {m x} : loop ∈ s.client.loops → (s.tasks loop.id).round = .waiting →
      s.exchange.take loop.line = (some (.ok m), x) →
      Receipt loop s none { s.assign loop.id ⟨.holding m, false⟩ with exchange := x }
  | failure {failure x} : loop ∈ s.client.loops → (s.tasks loop.id).round = .waiting →
      s.exchange.take loop.line = (some (.error failure), x) →
      Receipt loop s (some (.left loop.id))
        { s with client := s.client.receive loop (.error failure), exchange := x }

/-- The next step of the call that starts the client. -/
inductive Setup (s : Service) : Service → Prop
  | startChannel {options kind left} : s.errand = .starting options (kind :: left) →
      Setup s { s.assign s.exchange.turns .fresh with
        client := (s.client.startChannel s.exchange kind).2.1
        exchange := (s.client.startChannel s.exchange kind).2.2
        errand := .after (.starting options left) (s.client.startChannel s.exchange kind).1 }
  | allow {options} : s.errand = .starting options [] →
      Setup s { s with client := { s.client with allowStdin := options.stdin }, errand := .probing options }
  | probe {options} : s.errand = .probing options → options.heartbeat = true →
      Setup s { s with
        client := (s.client.startPulse s.exchange).2.1
        exchange := (s.client.startPulse s.exchange).2.2
        errand := .after (.greeting options) (s.client.startPulse s.exchange).1 }
  | noProbe {options} : s.errand = .probing options → options.heartbeat = false →
      Setup s { s with errand := .greeting options }
  | greet {options} (stamp : Stamp) : s.errand = .greeting options → options.shell = true →
      Setup s { s with
        client := (s.client.kernelInfo s.exchange stamp).2.1
        exchange := (s.client.kernelInfo s.exchange stamp).2.2
        errand := .started ((s.client.kernelInfo s.exchange stamp).1.map fun _ => ()) }
  | noGreeting {options} : s.errand = .greeting options → options.shell = false →
      Setup s { s with errand := .started (.ok ()) }

/-- The next step of the call that stops the client. It waits for a
loop that is receiving before it closes the line, and for every loop to end before it returns. -/
inductive Teardown (s : Service) : Service → Prop
  | call : s.errand = .calling →
      Teardown s { s with tasks := fun loop => (s.tasks loop).call, errand := .draining }
  | drain : s.errand = .draining →
      Teardown s { s with client := { s.client with channels := [] }, errand := .stopping s.client.channels }
  | stopLine {line left} : s.errand = .stopping (line :: left) →
      Teardown s { s with exchange := s.exchange.stopLine line, errand := .closing line left }
  | close {line left} : s.errand = .closing line left →
      (∀ loop ∈ s.client.loops, loop.line = line → (s.tasks loop.id).round ≠ .waiting) →
      Teardown s { s with errand := .stopping left }
  | takePulse : s.errand = .stopping [] →
      Teardown s { s with client := { s.client with pulse := none }, errand := .quieting s.client.pulse }
  | stopPulse {probe} : s.errand = .quieting (some probe) →
      Teardown s { s with exchange := s.exchange.stopPulse probe, errand := .quieting none }
  | gather : s.errand = .quieting none → Teardown s { s with errand := .joining s.client.loopIds }
  | join {loop left} : s.errand = .joining (loop :: left) → loop ∉ s.client.loopIds →
      Teardown s { s with errand := .joining left }
  | finish : s.errand = .joining [] → Teardown s { s with errand := .stopped }

/-- A step of a loop. -/
inductive Motion (loop : Loop) (s : Service) : Option Happening → Service → Prop
  | turn {happening s'} : Turn loop s happening s' → Motion loop s happening s'
  | receipt {happening s'} : Receipt loop s happening s' → Motion loop s happening s'
  | expire : loop ∈ s.client.loops → (s.tasks loop.id).round = .waiting →
      Motion loop s none { s.assign loop.id .fresh with client := s.client.setPoll loop.id none }

/-- A step of a loop, or of the call that starts or stops the client. -/
inductive Work (s : Service) : Option Happening → Service → Prop
  | loop {loop happening s'} : Motion loop s happening s' → Work s happening s'
  | setup {s'} : Setup s s' → Work s none s'
  | teardown {s'} : Teardown s s' → Work s none s'

end Service

/-- What the other calls of a client do. -/
inductive Asks : Situation → Option Happening → Situation → Prop
  | request {c x calls} (stamp : Stamp) (code : String) : Asks ⟨c, x, calls⟩
      (some (.requested (c.beginExecute stamp code).1))
      ⟨(c.beginExecute stamp code).2, x, .logged (c.beginExecute stamp code).1 :: calls⟩
  | send {c x earlier request later} : Asks ⟨c, x, earlier ++ .logged request :: later⟩ none
      ⟨(c.sendOnShell x request).2.1, (c.sendOnShell x request).2.2,
        earlier ++ .sent request (c.sendOnShell x request).1 :: later⟩
  | settle {c x earlier request result later} : Asks ⟨c, x, earlier ++ .sent request result :: later⟩
      (some (.ofResult request result)) ⟨(c.settleExecute request result).2, x, earlier ++ later⟩
  | kernelInfo {c x calls} (stamp : Stamp) : Asks ⟨c, x, calls⟩ none
      ⟨(c.kernelInfo x stamp).2.1, (c.kernelInfo x stamp).2.2, calls⟩
  | clear {c x calls} : Asks ⟨c, x, calls⟩ (some .cleared) ⟨{ c with log := .empty }, x, calls⟩

namespace Service

/-- What goes on beside the loops and the call that starts or stops the client. -/
inductive Aside (s : Service) : Option Happening → Service → Prop
  | asks {happening situation} : Asks s.toSituation happening situation →
      Aside s happening { s with toSituation := situation }
  /-- Messages arrive, the kernel and the probe fall silent, and time passes. -/
  | elsewhere {x} : s.exchange.Steady x → Aside s none { s with exchange := x }

def beginStart (s : Service) (options : StartOptions) : Service :=
  { s with client := { s.client with stopping := false }, errand := .starting options options.kinds }

def beginStop (s : Service) : Service := { s with client := s.client.beginStop, errand := .calling }

/-- One step of a client, of those who work for it or of the world around it. It is started and stopped by one
call at a time. -/
inductive Step (s : Service) : Option Happening → Service → Prop
  | work {happening s'} : Work s happening s' → Step s happening s'
  | aside {happening s'} : Aside s happening s' → Step s happening s'
  | beginStart (options : StartOptions) : s.errand.atRest = true → Step s none (s.beginStart options)
  | beginStop : s.errand.atRest = true → Step s none s.beginStop

/-- A client of which nothing has been started. -/
def new (session : Session) (owned : Bool) (x : Exchange) : Service :=
  ⟨⟨.new session owned, x, []⟩, fun _ => .fresh, .idle⟩

inductive Run (session : Session) (owned : Bool) : List Happening → Service → Prop
  | new {x} : (∀ id, (x.line id).alive = false) → (∀ id, (x.pulse id).alive = false) →
      Run session owned [] (.new session owned x)
  | next {trace s happening s'} : Run session owned trace s → Step s happening s' →
      Run session owned (trace ++ happening.toList) s'

end Service

/-! ### A run of the service as a run of the client -/

section Coarse

variable {session : Session} {owned : Bool} {trace : List Happening} {happening : Option Happening}
  {s s' : Service}

theorem Asks.step {t t' : Situation} (asks : Asks t happening t') : Client.Step t happening t' := by
  cases asks with
  | request stamp code => exact .request stamp code
  | send => exact .send
  | settle => exact .settle
  | kernelInfo stamp => exact .kernelInfo stamp
  | clear => exact .clear

namespace Service

theorem Turn.run {loop : Loop} (run : Client.Run session owned trace s.toSituation)
    (turn : Turn loop s happening s') :
    Client.Run session owned (trace ++ happening.toList) s'.toSituation := by
  cases turn with
  | enlist member round =>
    rw [Option.toList_none, List.append_nil]
    exact run
  | goOn member round may => exact run.next (.poll member may)
  | giveUp member round may => exact run.next (.leave member)
  | obey member round called => exact run.next (.leave member)
  | @handle m member round => exact run.hear member m

theorem Receipt.run {loop : Loop} (run : Client.Run session owned trace s.toSituation)
    (receipt : Receipt loop s happening s') :
    Client.Run session owned (trace ++ happening.toList) s'.toSituation := by
  have turns := s.exchange.turns_take loop.line
  cases receipt with
  | message member round taken =>
    rw [taken] at turns
    exact run.next (.elsewhere turns.ge)
  | failure member round taken =>
    rw [taken] at turns
    exact (run.next (.leave member)).silent (.elsewhere turns.ge)

theorem Setup.run (run : Client.Run session owned trace s.toSituation) (setup : Setup s s') :
    Client.Run session owned trace s'.toSituation := by
  cases setup with
  | @startChannel options kind left here => exact run.silent (.startChannel kind)
  | @allow options here => exact run.silent (.allow options.stdin)
  | probe here wanted => exact run.silent .startPulse
  | noProbe here unwanted => exact run
  | greet stamp here wanted => exact run.silent (.kernelInfo stamp)
  | noGreeting here unwanted => exact run

/-- The lines are let go of first and stopped one by one, and in between the exchange is as it was. -/
theorem Teardown.run (run : Client.Run session owned trace s.toSituation) (teardown : Teardown s s') :
    Client.Run session owned trace s'.toSituation := by
  cases teardown with
  | call here => exact run
  | drain here =>
    have stopped := run.silent .stopLines
    exact stopped.silent (.elsewhere (Client.stopLines_undisturbed s.client s.exchange).turns.le)
  | stopLine here => exact run.silent (.elsewhere le_rfl)
  | close here free => exact run
  | takePulse here =>
    have quiet := run.silent .stopPulse
    unfold Client.stopPulse at quiet
    cases held : s.client.pulse with
    | none =>
      rw [held] at quiet
      have same : ({ s.client with pulse := none } : Client) = s.client := by rw [← held]
      rw [← same] at quiet
      exact quiet
    | some probe =>
      rw [held] at quiet
      exact quiet.silent (.elsewhere le_rfl)
  | stopPulse here => exact run.silent (.elsewhere le_rfl)
  | gather here => exact run
  | join here gone => exact run
  | finish here => exact run

theorem Setup.not_halting (setup : Setup s s') : s.errand.halting = false := by
  cases setup with
  | startChannel here => rw [here]; rfl
  | allow here => rw [here]; rfl
  | probe here wanted => rw [here]; rfl
  | noProbe here unwanted => rw [here]; rfl
  | greet stamp here wanted => rw [here]; rfl
  | noGreeting here unwanted => rw [here]; rfl

theorem Teardown.halting (teardown : Teardown s s') :
    s.errand.halting = true ∧ s'.errand.halting = true := by
  cases teardown with
  | call here => exact ⟨by rw [here]; rfl, rfl⟩
  | drain here => exact ⟨by rw [here]; rfl, rfl⟩
  | stopLine here => exact ⟨by rw [here]; rfl, rfl⟩
  | close here free => exact ⟨by rw [here]; rfl, rfl⟩
  | takePulse here => exact ⟨by rw [here]; rfl, rfl⟩
  | stopPulse here => exact ⟨by rw [here]; rfl, rfl⟩
  | gather here => exact ⟨by rw [here]; rfl, rfl⟩
  | join here gone => exact ⟨by rw [here]; rfl, rfl⟩
  | finish here => exact ⟨by rw [here]; rfl, rfl⟩

theorem Motion.run {loop : Loop} (run : Client.Run session owned trace s.toSituation)
    (motion : Motion loop s happening s') :
    Client.Run session owned (trace ++ happening.toList) s'.toSituation := by
  cases motion with
  | turn turn => exact turn.run run
  | receipt receipt => exact receipt.run run
  | expire member round => exact run.next (.expire loop.id)

theorem Step.run (run : Client.Run session owned trace s.toSituation) (step : Step s happening s') :
    Client.Run session owned (trace ++ happening.toList) s'.toSituation := by
  cases step with
  | work work =>
    cases work with
    | loop motion => exact motion.run run
    | setup setup =>
      rw [Option.toList_none, List.append_nil]
      exact setup.run run
    | teardown teardown =>
      rw [Option.toList_none, List.append_nil]
      exact teardown.run run
  | aside aside =>
    cases aside with
    | asks asks => exact run.next asks.step
    | elsewhere steady => exact run.next (.elsewhere steady.turns)
  | beginStart options rest => exact run.next .beginStart
  | beginStop rest => exact run.next .beginStop

/-- Who works for a client in whatever order does to it what a run of the client does. -/
theorem Run.client (run : Run session owned trace s) : Client.Run session owned trace s.toSituation := by
  induction run with
  | new lines pulses => exact .new _
  | next _ step ih => exact step.run ih

theorem Run.silent (run : Run session owned trace s) (step : Step s none s') : Run session owned trace s' := by
  have next := run.next step
  rwa [Option.toList_none, List.append_nil] at next

end Service
end Coarse
end KernelLink
