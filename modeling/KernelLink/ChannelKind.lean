namespace KernelLink

/-- The sockets over which a kernel is spoken to. -/
inductive ChannelKind where
  | shell
  | control
  | stdin
  | iopub
  | heartbeat
  deriving DecidableEq, Repr

namespace ChannelKind

/-- The short name that messages about a channel use. -/
def name : ChannelKind → String
  | .shell => "shell"
  | .control => "control"
  | .stdin => "stdin"
  | .iopub => "iopub"
  | .heartbeat => "hb"

/-- The names under which channels are stored. -/
def stored : List (String × ChannelKind) :=
  [("shell", .shell), ("control", .control), ("stdin", .stdin), ("iopub", .iopub),
    ("heartbeat", .heartbeat)]

/-- The name under which a channel is stored. -/
def storedName : ChannelKind → String
  | .heartbeat => "heartbeat"
  | kind => kind.name

end ChannelKind
end KernelLink
