namespace KernelLink

/-- How a program ended: with a code, or without one because a signal ended it. -/
abbrev ExitStatus := Option Int

/-- How far the task has come that waits for a program to end. -/
inductive Reaper where
  /-- It is about to enlist for calls to kill. -/
  | enlisting
  /-- It has enlisted, and is about to look whether there was a request before. -/
  | looking
  /-- It waits for the program to end, or for a call. -/
  | waiting
  /-- It has killed the program, and waits for it to end. -/
  | reaping
  /-- The program has ended. -/
  | recording (status : ExitStatus)
  /-- The status is recorded, and the process not yet marked. -/
  | closing
  /-- The process is marked as exited, and nobody has been told. -/
  | announcing
  | done
  deriving DecidableEq, Repr

/-- How far somebody has come who waits for a process to exit. -/
inductive WatchStage where
  /-- The watch is enlisted, and is about to look whether the process has exited before. -/
  | looking
  | waiting
  | answered (exited : Bool)
  deriving DecidableEq, Repr

/-- Somebody who waits for a process to exit. -/
structure ExitWatch where
  /-- When it gives up; a watch without such a time waits for as long as it takes. -/
  deadline : Option Nat
  stage : WatchStage
  /-- Whether it has been told of the exit. -/
  noticed : Bool
  deriving DecidableEq, Repr

/-- A process as its owner sees it. -/
structure KernelProcess where
  exited : Bool
  exitCode : ExitStatus
  killRequested : Bool
  /-- Whether the task that waits for the program has been called since it enlisted. -/
  called : Bool
  reaper : Reaper
  watches : List ExitWatch
  deriving DecidableEq, Repr

namespace ExitWatch

/-- A watch that has just enlisted. -/
def enlisted (deadline : Option Nat) : ExitWatch := ⟨deadline, .looking, false⟩

/-- What a watch does next. One that may wait for ever enlists again and looks once more when it
is told; one with a deadline takes the news for granted. -/
def step (exited : Bool) (now : Nat) (w : ExitWatch) : ExitWatch :=
  match w.stage with
  | .looking => { w with stage := if exited then .answered true else .waiting }
  | .waiting =>
    match w.deadline with
    | none => if w.noticed then enlisted none else w
    | some deadline =>
      if w.noticed then { w with stage := .answered true }
      else if deadline ≤ now then { w with stage := .answered exited }
      else w
  | .answered _ => w

def answer? (w : ExitWatch) : Option Bool :=
  match w.stage with
  | .answered exited => some exited
  | _ => none

end ExitWatch

namespace KernelProcess

/-- A process whose program has just been started. -/
def started : KernelProcess := ⟨false, none, false, false, .enlisting, []⟩

def isAlive (p : KernelProcess) : Bool := !p.exited

/-- Notes that the program is to be killed. -/
def markKill (p : KernelProcess) : KernelProcess := { p with killRequested := true }

/-- Calls the task that waits for the program, if it has enlisted. -/
def callReaper (p : KernelProcess) : KernelProcess :=
  match p.reaper with
  | .looking => { p with called := true }
  | .waiting => { p with called := true }
  | _ => p

/-- Asks for the program to be killed, and does not wait for it. -/
def requestKill (p : KernelProcess) : KernelProcess := p.markKill.callReaper

/-- Takes note that the program has ended, if the task waits for that. -/
def noticeEnd (p : KernelProcess) (status : ExitStatus) : KernelProcess :=
  match p.reaper with
  | .waiting => { p with reaper := .recording status }
  | .reaping => { p with reaper := .recording status }
  | _ => p

/-- What the task does next that waits for the program, and whether it kills the program. -/
def stepReaper (p : KernelProcess) : KernelProcess × Bool :=
  match p.reaper with
  | .enlisting => ({ p with reaper := .looking, called := false }, false)
  | .looking =>
    if p.killRequested then ({ p with reaper := .reaping }, true)
    else ({ p with reaper := .waiting }, false)
  | .waiting => if p.called then ({ p with reaper := .enlisting }, false) else (p, false)
  | .reaping => (p, false)
  | .recording status => ({ p with exitCode := status, reaper := .closing }, false)
  | .closing => ({ p with exited := true, reaper := .announcing }, false)
  | .announcing =>
    ({ p with
        reaper := .done
        watches := p.watches.map fun w => { w with noticed := true } }, false)
  | .done => (p, false)

/-- Begins to wait for the exit, and answers the number of the watch. -/
def watch (p : KernelProcess) (deadline : Option Nat) : Nat × KernelProcess :=
  (p.watches.length, { p with watches := p.watches ++ [.enlisted deadline] })

/-- Lets everybody who waits for the exit do what comes next. -/
def stepWatches (p : KernelProcess) (now : Nat) : KernelProcess :=
  { p with watches := p.watches.map (ExitWatch.step p.exited now) }

/-- The answer of a watch, once there is one. -/
def answer? (p : KernelProcess) (watch : Nat) : Option Bool :=
  p.watches[watch]?.bind (·.answer?)

/-- Asks for the program to be killed, and begins to wait for the exit, unless it has exited. -/
def kill (p : KernelProcess) (deadline : Nat) : Option Nat × KernelProcess :=
  if p.exited then (none, p)
  else
    let (watch, p) := p.requestKill.watch (some deadline)
    (some watch, p)

end KernelProcess
end KernelLink
