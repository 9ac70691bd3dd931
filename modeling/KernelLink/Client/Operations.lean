import KernelLink.Client.Basic

namespace KernelLink
namespace Client

/-- The line that the client holds to a socket; one is opened if there is none. -/
def lineTo (c : Client) (x : Exchange) (kind : ChannelKind) :
    Except Failure LineId × Client × Exchange :=
  match c.channels.find? (·.kind = kind) with
  | some id => (.ok id, c, x)
  | none =>
    match x.create kind with
    | (.error failure, x) => (.error failure, c, x)
    | (.ok serial, x) =>
      (.ok ⟨kind, serial⟩, { c with channels := c.channels ++ [⟨kind, serial⟩] }, x)

/-- Starts the line to a socket and a loop that polls it, unless the line is running. -/
def startChannel (c : Client) (x : Exchange) (kind : ChannelKind) :
    Except Failure Unit × Client × Exchange :=
  match c.lineTo x kind with
  | (.error failure, c, x) => (.error failure, c, x)
  | (.ok id, c, x) =>
    if (x.line id).alive then (.ok (), c, x)
    else
      let (loop, x) := (x.startLine id).takeTurn
      (.ok (), { c with loops := c.loops ++ [⟨loop, id, none⟩] }, x)

/-- Starts the lines to some sockets in turn, up to the first that cannot be opened. -/
def startChannels (c : Client) (x : Exchange) :
    List ChannelKind → Except Failure Unit × Client × Exchange
  | [] => (.ok (), c, x)
  | kind :: rest =>
    match c.startChannel x kind with
    | (.error failure, c, x) => (.error failure, c, x)
    | (.ok (), c, x) => startChannels c x rest

/-- Starts the probe. -/
def startPulse (c : Client) (x : Exchange) : Except Failure Unit × Client × Exchange :=
  match c.pulse with
  | some id => (.ok (), c, x.startPulse id)
  | none =>
    match x.create .heartbeat with
    | (.error failure, x) => (.error failure, c, x)
    | (.ok id, x) => (.ok (), { c with pulse := some id }, x.startPulse id)

/-- Sends a message over the shell line. A line that is not running is a failure. -/
def sendOnShell (c : Client) (x : Exchange) (m : Message) :
    Except Failure Unit × Client × Exchange :=
  match c.lineTo x .shell with
  | (.error failure, c, x) => (.error failure, c, x)
  | (.ok id, c, x) =>
    match x.send id m with
    | (.ok true, x) => (.ok (), c, x)
    | (.ok false, x) => (.error (.channelNotAlive .shell), c, x)
    | (.error failure, x) => (.error failure, c, x)

/-- Asks the kernel what it is. The answer is the id of the request. -/
def kernelInfo (c : Client) (x : Exchange) (stamp : Stamp) :
    Except Failure String × Client × Exchange :=
  let request := c.session.newMessage stamp "kernel_info_request" .empty
  match c.sendOnShell x request with
  | (.ok (), c, x) => (.ok request.msgId, c, x)
  | (.error failure, c, x) => (.error failure, c, x)

/-- Starts what the options ask for, and then asks the kernel what it is, so that it publishes. -/
def start (c : Client) (x : Exchange) (options : StartOptions) (stamp : Stamp) :
    Except Failure Unit × Client × Exchange :=
  match ({ c with stopping := false } : Client).startChannels x options.kinds with
  | (.error failure, c, x) => (.error failure, c, x)
  | (.ok (), c, x) =>
    let c := { c with allowStdin := options.stdin }
    let pulsed : Except Failure Unit × Client × Exchange :=
      if options.heartbeat then c.startPulse x else (.ok (), c, x)
    match pulsed with
    | (.error failure, c, x) => (.error failure, c, x)
    | (.ok (), c, x) =>
      if options.shell then
        match c.kernelInfo x stamp with
        | (.error failure, c, x) => (.error failure, c, x)
        | (.ok _, c, x) => (.ok (), c, x)
      else (.ok (), c, x)

/-- Tells the loops to end. -/
def beginStop (c : Client) : Client := { c with stopping := true }

/-- Stops the lines that the client holds, and lets go of them. -/
def stopLines (c : Client) (x : Exchange) : Client × Exchange :=
  ({ c with channels := [] }, c.channels.foldl Exchange.stopLine x)

/-- Stops the probe, and lets go of it. -/
def stopPulse (c : Client) (x : Exchange) : Client × Exchange :=
  match c.pulse with
  | some id => ({ c with pulse := none }, x.stopPulse id)
  | none => (c, x)

/-- Waits until the loops, which have been told to end, have ended. -/
def joinLoops (c : Client) : Client := c.loops.foldl (fun c l => c.leave l.id) c

/-- Stops every line and the probe, and waits for the loops. -/
def stop (c : Client) (x : Exchange) : Client × Exchange :=
  let (c, x) := c.beginStop.stopLines x
  let (c, x) := c.stopPulse x
  (c.joinLoops, x)

/-- Tracks a request to run code that is about to be sent. -/
def beginExecute (c : Client) (stamp : Stamp) (code : String) : Message × Client :=
  let request := c.session.newMessage stamp "execute_request" (ExecuteRequest.new code).content
  (request, { c with log := c.log.insert request })

/-- Gives a request up if it could not be sent. -/
def settleExecute (c : Client) (request : Message) :
    Except Failure Unit → Except Failure String × Client
  | .ok () => (.ok request.msgId, c)
  | .error failure => (.error failure, { c with log := c.log.abandon request.msgId })

/-- Asks the kernel to run code. The answer is the id of the request. -/
def execute (c : Client) (x : Exchange) (stamp : Stamp) (code : String) :
    Except Failure String × Client × Exchange :=
  let (request, c) := c.beginExecute stamp code
  let (sent, c, x) := c.sendOnShell x request
  let (result, c) := c.settleExecute request sent
  (result, c, x)

end Client
end KernelLink
