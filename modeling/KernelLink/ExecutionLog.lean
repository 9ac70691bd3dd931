import KernelLink.Message.Reply

namespace KernelLink

/-- The line that stands in the list of errors for a request that was given up. -/
def abandonedMessage : String :=
  "Execution was abandoned; the kernel stopped responding or aborted the request"

/-- What is known of one execute request. -/
structure ExecutionEntry where
  request : Message
  /-- Replies and outputs, in the order of their arrival. -/
  responses : List Message
  /-- The kernel's counter for this request, once it is known. -/
  executionIndex : Option Int
  complete : Bool
  error : Bool
  /-- No more replies are expected. -/
  abandoned : Bool

namespace ExecutionEntry

def new (request : Message) : ExecutionEntry := ⟨request, [], none, false, false, false⟩

def isPending (e : ExecutionEntry) : Bool := !e.complete && !e.abandoned

/-- Whether anything about the execution went wrong. A response without a status never counts. -/
def hasError (e : ExecutionEntry) : Bool :=
  e.abandoned || e.error || e.responses.any fun r => r.status.any (· ≠ .ok)

def addResponse (m : Message) (e : ExecutionEntry) : ExecutionEntry :=
  { e with responses := e.responses ++ [m] }

/-- Takes in how the execution ended. -/
def finish (status : Option ReplyStatus) (count : Option Int) (e : ExecutionEntry) :
    ExecutionEntry :=
  match status with
  | some .ok => { e with complete := true, executionIndex := count }
  | some .abort => { e with abandoned := true }
  | some .aborted => { e with abandoned := true }
  | _ => { e with error := true, complete := true, executionIndex := count.or e.executionIndex }

def abandon (e : ExecutionEntry) : ExecutionEntry := { e with abandoned := true }

/-- One line for every response that tells of an error, and one if the request was given up. -/
def errors (e : ExecutionEntry) : List String :=
  e.responses.filterMap Message.errorSummary ++ if e.abandoned then [abandonedMessage] else []

end ExecutionEntry

/-- The execute requests of a client in the order in which they were sent, found by their ids. -/
structure ExecutionLog where
  entries : List ExecutionEntry
  index : List (String × Nat)

namespace ExecutionLog

def empty : ExecutionLog := ⟨[], []⟩

/-- Tracks a request. One with the same id that is tracked already is replaced where it stands. -/
def insert (log : ExecutionLog) (request : Message) : ExecutionLog :=
  match log.index.lookup request.msgId with
  | some i => { log with entries := log.entries.set i (.new request) }
  | none =>
    ⟨log.entries ++ [.new request], log.index ++ [(request.msgId, log.entries.length)]⟩

def get? (log : ExecutionLog) (id : String) : Option ExecutionEntry :=
  (log.index.lookup id).bind fun i => log.entries[i]?

/-- Changes the entry of an id, and tells whether there is one. -/
def update (log : ExecutionLog) (id : String) (f : ExecutionEntry → ExecutionEntry) :
    ExecutionLog × Bool :=
  match log.index.lookup id with
  | some i =>
    if i < log.entries.length then ({ log with entries := log.entries.modify i f }, true)
    else (log, false)
  | none => (log, false)

/-- Adds an output to the request that it belongs to. -/
def recordOutput (log : ExecutionLog) (parent : String) (m : Message) : ExecutionLog × Bool :=
  log.update parent (.addResponse m)

/-- Adds a terminal reply to the request that it belongs to. -/
def recordReply (log : ExecutionLog) (parent : String) (m : Message) (status : Option ReplyStatus)
    (count : Option Int) : ExecutionLog × Bool :=
  log.update parent fun e => (e.addResponse m).finish status count

def abandon (log : ExecutionLog) (id : String) : ExecutionLog := (log.update id .abandon).1

def pendingCount (log : ExecutionLog) : Nat := log.entries.countP (·.isPending)

def hasPending (log : ExecutionLog) : Bool := log.entries.any (·.isPending)

/-- Gives up every pending request, and tells how many there were. -/
def abandonPending (log : ExecutionLog) : ExecutionLog × Nat :=
  ({ log with entries := log.entries.map fun e => if e.isPending then e.abandon else e },
    log.pendingCount)

def hasError (log : ExecutionLog) : Bool := log.entries.any (·.hasError)

def errors (log : ExecutionLog) : List String := log.entries.flatMap (·.errors)

def size (log : ExecutionLog) : Nat := log.entries.length

def isEmpty (log : ExecutionLog) : Bool := log.entries.isEmpty

end ExecutionLog
end KernelLink
