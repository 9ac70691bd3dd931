import KernelLink.FileTree
import KernelLink.Process.Basic
import KernelLink.Rehearsal.Shell.Reader
import KernelLink.Rehearsal.Shell.Words

namespace KernelLink
namespace Shell

/-- Where a stream of a script leads. -/
inductive Sink where
  | nowhere
  | file (path : Path)
  deriving DecidableEq, Repr

/-- What is still to be done. -/
inductive Frame where
  | script (s : Script)
  | ifSuccess (s : Script)
  | ifFailure (s : Script)
  | negate
  | choose (yes no : Script)
  /-- A loop whose test has been run. -/
  | tested (whileSuccess : Bool) (test body : Script)
  /-- A loop whose body is being run. -/
  | again (whileSuccess : Bool) (test body : Script)
  /-- A loop over the fields that are left. -/
  | over (name : String) (left : List String) (body : Script)
  /-- What the streams were before, and the input if it was diverted. -/
  | restore (sinks : List (Nat × Sink)) (input : Option Bytes)
  /-- The variables before a command with settings of its own. -/
  | forget (bindings : List (String × String))
  /-- The variables before a script that stays apart. -/
  | rejoin (bindings : List (String × String))

end Shell

/-- A script that is being run. -/
structure Shell where
  frames : List Shell.Frame
  scope : Shell.Scope
  sinks : List (Nat × Shell.Sink)
  /-- What can still be read from the standard input. -/
  input : Bytes
  /-- What is done when a signal comes: nothing, if the text is empty. -/
  traps : List (String × String)

namespace Shell

/-- How a script goes on after a step. -/
inductive Pace where
  | goesOn
  | sleeps (ms : Nat)
  | ends (status : ExitStatus)
  deriving DecidableEq, Repr

/-- A script with its environment and its arguments, the name that it was called by first. -/
def load (script : Script) (env : List (String × String)) (arguments : List String) : Shell where
  frames := [.script script]
  scope := ⟨env, arguments, 0⟩
  sinks := []
  input := []
  traps := []

def push (s : Shell) (f : Frame) : Shell := { s with frames := f :: s.frames }

def withStatus (s : Shell) (status : Nat) : Shell :=
  { s with scope := { s.scope with status := status } }

def setVariable (s : Shell) (name value : String) : Shell :=
  { s with scope := s.scope.set name value }

/-- The streams and the input that there were before some were diverted. -/
def restore (s : Shell) (sinks : List (Nat × Sink)) (input : Option Bytes) : Shell :=
  { s with sinks := sinks, input := input.getD s.input }

/-- What has to be restored after some streams were diverted. -/
def restoring (s : Shell) (detours : List Detour) : Frame :=
  let isInput : Detour → Bool
    | .input _ => true
    | _ => false
  .restore s.sinks (if detours.any isInput then some s.input else none)

/-- Writes to a stream. -/
def emit (s : Shell) (tree : FileTree) (stream : Nat) (content : Bytes) : FileTree :=
  match s.sinks.lookup stream with
  | some (.file path) => (tree.extend path content).2
  | _ => tree

/-- Leaves a script that stays apart, or the whole script if there is none. -/
def leave (status : Nat) : List Frame → Shell → Pace × Shell
  | [], s => (.ends (some (status % 256)), { s with frames := [] })
  | .rejoin bindings :: rest, s =>
    (.goesOn, ({ s with
      frames := rest
      scope := { s.scope with bindings := bindings } } : Shell).withStatus (status % 256))
  | .restore sinks input :: rest, s => leave status rest (s.restore sinks input)
  | _ :: rest, s => leave status rest s

/-- Leaves the innermost loop, or goes on with its next round. -/
def leaveLoop (goOn : Bool) : List Frame → Shell → Shell
  | [], s => { s with frames := [] }
  | .again whileSuccess test body :: rest, s =>
    { s with frames := if goOn then .again whileSuccess test body :: rest else rest }
  | .tested _ _ _ :: rest, s => { s with frames := rest }
  | .over name left body :: rest, s =>
    { s with frames := if goOn then .over name left body :: rest else rest }
  | .restore sinks input :: rest, s => leaveLoop goOn rest (s.restore sinks input)
  | _ :: rest, s => leaveLoop goOn rest s

/-- Diverts one stream. -/
def divert (s : Shell) (tree : FileTree) : Detour → Option (Shell × FileTree)
  | .input path =>
    let path := path.joined s.scope
    if path = "/dev/null" then some ({ s with input := [] }, tree)
    else
      match tree.read path with
      | .ok content => some ({ s with input := content }, tree)
      | .error _ => none
  | .output stream path append =>
    let path := path.joined s.scope
    let sinks (sink : Sink) : List (Nat × Sink) :=
      (stream, sink) :: s.sinks.filter (·.1 ≠ stream)
    if path = "/dev/null" then some ({ s with sinks := sinks .nowhere }, tree)
    else
      let opened := if append then tree.append path [] else (tree.create path).map Prod.snd
      match opened with
      | .ok tree => some ({ s with sinks := sinks (.file path) }, tree)
      | .error _ => none
  | .merge stream other =>
    let sink :=
      match (other.joined s.scope).toNat? with
      | some n => (s.sinks.lookup n).getD .nowhere
      | none => .nowhere
    some ({ s with sinks := (stream, sink) :: s.sinks.filter (·.1 ≠ stream) }, tree)

/-- Diverts some streams in turn, if all of them can be. -/
def divertAll (s : Shell) (tree : FileTree) : List Detour → Option (Shell × FileTree)
  | [] => some (s, tree)
  | d :: rest =>
    match s.divert tree d with
    | some (s, tree) => divertAll s tree rest
    | none => none

/-- Whether a test of one operand holds. -/
def holds1 (tree : FileTree) (test operand : String) : Option Bool :=
  let isDirectory :=
    match tree.status operand with
    | .ok .directory => true
    | _ => false
  match test with
  | "-n" => some (operand ≠ "")
  | "-z" => some (operand = "")
  | "-e" => some (tree.hasNode operand)
  | "-f" => some (tree.isFile operand)
  | "-d" => some isDirectory
  | "-r" => some (tree.hasNode operand)
  | "-w" => some (tree.hasNode operand)
  | "-s" => some (match tree.read operand with
    | .ok content => !content.isEmpty
    | .error _ => isDirectory)
  | "-x" => some isDirectory
  | _ => none

/-- Whether a test of two operands holds. -/
def holds2 (left test right : String) : Option Bool :=
  let compare (f : Int → Int → Bool) : Option Bool := do
    let a ← integer? left
    let b ← integer? right
    some (f a b)
  match test with
  | "=" => some (left = right)
  | "!=" => some (left ≠ right)
  | "-eq" => compare fun a b => a = b
  | "-ne" => compare fun a b => a ≠ b
  | "-lt" => compare fun a b => a < b
  | "-le" => compare fun a b => a ≤ b
  | "-gt" => compare fun a b => a > b
  | "-ge" => compare fun a b => a ≥ b
  | _ => none

/-- Whether a test holds; there is no answer to one that makes no sense. -/
def holds (tree : FileTree) : List String → Option Bool
  | [] => some false
  | [word] => some (word ≠ "")
  | ["!", word] => some (word = "")
  | [test, operand] => holds1 tree test operand
  | ["!", test, operand] => (holds1 tree test operand).map (!·)
  | [left, test, right] => holds2 left test right
  | ["!", left, test, right] => (holds2 left test right).map (!·)
  | _ => none

/-- The status of a test. -/
def testStatus (tree : FileTree) (words : List String) : Nat :=
  match holds tree words with
  | some true => 0
  | some false => 1
  | none => 2

/-- The signals by their names and numbers. -/
def signals : List (String × Nat) :=
  [("HUP", 1), ("INT", 2), ("QUIT", 3), ("KILL", 9), ("USR1", 10), ("USR2", 12), ("ALRM", 14),
    ("TERM", 15)]

/-- The name of a signal that is given by its name or its number. -/
def signalName? (word : String) : Option String :=
  let bare := if word.startsWith "SIG" then (word.drop 3).toString else word
  match signals.find? fun (name, number) => name = bare || toString number = bare with
  | some (name, _) => some name
  | none => if bare = "0" then some "0" else none

/-- What a signal does to the script. -/
def signal (s : Shell) (name : String) : Pace × Shell :=
  if name = "0" then (.goesOn, s)
  else
    match if name = "KILL" then none else s.traps.lookup name with
    | none => (.ends none, { s with frames := [] })
    | some "" => (.goesOn, s)
    | some text =>
      match read? text with
      | some script => (.goesOn, s.push (.script script))
      | none => (.ends (some 2), s)

/-- Sends a signal, which only the script itself can get. -/
def sendSignal (s : Shell) (words : List String) : Pace × Shell :=
  let (name, targets) : Option String × List String :=
    match words with
    | "-s" :: name :: rest => (signalName? name, rest)
    | word :: rest =>
      if word.startsWith "-" && word ≠ "--" then (signalName? (word.drop 1).toString, rest)
      else (some "TERM", words)
    | [] => (none, [])
  match name, targets with
  | some name, [target] =>
    if target.toNat? = some Scope.ownNumber then (s.withStatus 0).signal name
    else (.goesOn, s.withStatus 1)
  | _, _ => (.goesOn, s.withStatus 2)

/-- Reads a line from the standard input into variables, the rest of it into the last. -/
def readLine (s : Shell) (names : List String) : Shell :=
  let line := s.input.takeWhile (· ≠ 10)
  let after := s.input.drop line.length
  let text := (Bytes.toString? line).getD ""
  let rec assign (s : Shell) (words : List String) : List String → Shell
    | [] => s
    | [last] => s.setVariable last (" ".intercalate words)
    | name :: rest => assign (s.setVariable name (words.headD "")) words.tail rest
  let words := (text.split fun c => c = ' ' || c = '\t').toList.map (·.toString)
  let s := assign s (words.filter (· ≠ "")) names
  ({ s with input := after.drop 1 } : Shell).withStatus (if after = [] then 1 else 0)

/-- Writes the files one after the other, or the standard input if none is named. -/
def concatenate (s : Shell) (tree : FileTree) : List String → Shell × FileTree
  | [] => (({ s with input := [] } : Shell).withStatus 0, s.emit tree 1 s.input)
  | words =>
    words.foldl (fun (s, tree) word =>
      match tree.read word with
      | .ok content => (s, s.emit tree 1 content)
      | .error _ => (s.withStatus 1, tree)) (s.withStatus 0, tree)

/-- Changes files, and succeeds if each change does. -/
def onFiles (s : Shell) (tree : FileTree) (words : List String)
    (change : FileTree → Path → Except SystemFault FileTree) : Shell × FileTree :=
  words.foldl (fun (s, tree) word =>
    match change tree word with
    | .ok tree => (s, tree)
    | .error _ => (s.withStatus 1, tree)) (s.withStatus 0, tree)

/-- Runs a command that is not part of the shell. -/
def runProgram (s : Shell) (tree : FileTree) (name : String) (words : List String) :
    Pace × Shell × FileTree :=
  match name with
  | "sleep" =>
    match words.mapM pause? with
    | some (first :: rest) => (.sleeps (rest.foldl (· + ·) first), s.withStatus 0, tree)
    | _ => (.goesOn, s.withStatus 1, tree)
  | "cat" => (.goesOn, s.concatenate tree words)
  | "touch" => (.goesOn, s.onFiles tree words fun tree p => tree.append p [])
  | "rm" =>
    let forced := words.contains "-f"
    (.goesOn, s.onFiles tree (words.filter (· ≠ "-f")) fun tree p =>
      match tree.remove p with
      | .error .notFound => if forced then .ok tree else .error .notFound
      | result => result)
  | "sh" =>
    match words with
    | "-c" :: text :: _ =>
      match read? text with
      | some script => (.goesOn, s.push (.script (.apart script)), tree)
      | none => (.goesOn, s.withStatus 2, tree)
    | _ => (.goesOn, s.withStatus 0, tree)
  | "env" => (.goesOn, s.withStatus 0, s.emit tree 1 (Bytes.ofString (String.join
      (s.scope.bindings.map fun (key, value) => key ++ "=" ++ value ++ "\n"))))
  | _ =>
    let found := name.toList.contains '/' && tree.hasNode name
    (.goesOn, s.withStatus (if found then 126 else 127), tree)

/-- The names of the programs that a script can start, without their directories. -/
def programs : List String := ["sh", "sleep", "cat", "touch", "rm", "env", "true", "false", "echo",
  "printf", "test", "[", "kill"]

/-- The directories that hold the programs. -/
def programPlaces : List Path := ["/bin", "/usr/bin"]

/-- The program that a path names. -/
def programAt? (path : Path) : Option String :=
  programs.find? fun name => programPlaces.any fun place => Path.join place name = path

/-- Runs a command with its fields. -/
def run (s : Shell) (tree : FileTree) (name : String) (words : List String) :
    Pace × Shell × FileTree :=
  let onward (s : Shell) : Pace × Shell × FileTree := (.goesOn, s, tree)
  match (programAt? name).getD name with
  | ":" => onward (s.withStatus 0)
  | "true" => onward (s.withStatus 0)
  | "false" => onward (s.withStatus 1)
  | "exit" =>
    let status := match words with
      | word :: _ => (word.toNat?).getD 2
      | [] => s.scope.status
    let (pace, s) := leave status s.frames s
    (pace, s, tree)
  | "break" => onward (leaveLoop false s.frames (s.withStatus 0))
  | "continue" => onward (leaveLoop true s.frames (s.withStatus 0))
  | "echo" => (.goesOn, s.withStatus 0, s.emit tree 1 (echoed words))
  | "printf" =>
    match words with
    | [] => onward (s.withStatus 2)
    | format :: words => (.goesOn, s.withStatus 0, s.emit tree 1 (formatted format words))
  | "test" => onward (s.withStatus (testStatus tree words))
  | "[" =>
    if words.getLast? = some "]" then onward (s.withStatus (testStatus tree words.dropLast))
    else onward (s.withStatus 2)
  | "read" => onward (s.readLine (words.filter (· ≠ "-r")))
  | "export" =>
    onward ((words.foldl (fun s word =>
      match word.splitOn "=" with
      | name :: value :: rest => s.setVariable name ("=".intercalate (value :: rest))
      | _ => s) s).withStatus 0)
  | "unset" => onward (words.foldl (fun s word => s.setVariable word "") (s.withStatus 0))
  | "shift" =>
    let scope := { s.scope with
      arguments := s.scope.arguments.take 1 ++ s.scope.arguments.drop 2 }
    onward (({ s with scope := scope } : Shell).withStatus 0)
  | "trap" =>
    match words with
    | [] => onward (s.withStatus 0)
    | action :: names =>
      let names := names.filterMap signalName?
      let kept := s.traps.filter fun (name, _) => !names.contains name
      let added := if action = "-" then [] else names.map fun name => (name, action)
      onward (({ s with traps := added ++ kept } : Shell).withStatus 0)
  | "kill" =>
    let (pace, s) := s.sendSignal words
    (pace, s, tree)
  | other => s.runProgram tree other words

/-- Commands that end the script if one of their streams cannot be diverted. -/
def special : List String :=
  [":", "exit", "break", "continue", "export", "unset", "shift", "trap", "exec"]

/-- Runs a command. -/
def runCommand (s : Shell) (tree : FileTree) (settings : List (String × Word)) (words : List Word)
    (detours : List Detour) : Pace × Shell × FileTree :=
  let fields := words.flatMap (·.fields s.scope)
  let assigned := settings.foldl (fun s (name, w) => s.setVariable name (w.joined s.scope)) s
  match fields with
  | [] =>
    match assigned.divertAll tree detours with
    | some (_, tree) => (.goesOn, assigned.withStatus 0, tree)
    | none => (.goesOn, assigned.withStatus 2, tree)
  | name :: words =>
    match assigned.divertAll tree detours with
    | none =>
      if special.contains name then
        let (pace, s) := leave 2 s.frames s
        (pace, s, tree)
      else (.goesOn, s.withStatus 2, tree)
    | some (diverted, tree) =>
      if name = "exec" then
        match words with
        | [] => (.goesOn, diverted.withStatus 0, tree)
        | name :: words => ({ diverted with frames := [] } : Shell).run tree name words
      else if detours = [] ∧ settings = [] then s.run tree name words
      else
        let forget := if settings = [] then [] else [Frame.forget s.scope.bindings]
        let framed := { diverted with frames := s.restoring detours :: forget ++ s.frames }
        framed.run tree name words

/-- Does what comes next. -/
def step (s : Shell) (tree : FileTree) : Pace × Shell × FileTree :=
  match s.frames with
  | [] => (.ends (some s.scope.status), s, tree)
  | frame :: rest =>
    let s := { s with frames := rest }
    let onward (s : Shell) : Pace × Shell × FileTree := (.goesOn, s, tree)
    let succeeded := s.scope.status = 0
    match frame with
    | .script .nothing => onward s
    | .script (.command settings words detours) => s.runCommand tree settings words detours
    | .script (.sequence first second) => onward ((s.push (.script second)).push (.script first))
    | .script (.both first second) => onward ((s.push (.ifSuccess second)).push (.script first))
    | .script (.either first second) => onward ((s.push (.ifFailure second)).push (.script first))
    | .script (.negation script) => onward ((s.push .negate).push (.script script))
    | .script (.branch test yes no) => onward ((s.push (.choose yes no)).push (.script test))
    | .script (.loop whileSuccess test body) =>
      onward ((s.push (.tested whileSuccess test body)).push (.script test))
    | .script (.each name words body) =>
      let fields := match words with
        | some words => words.flatMap (·.fields s.scope)
        | none => s.scope.arguments.tail
      onward ((s.withStatus 0).push (.over name fields body))
    | .script (.diverted script detours) =>
      match s.divertAll tree detours with
      | none => onward (s.withStatus 2)
      | some (diverted, tree) =>
        (.goesOn, (diverted.push (s.restoring detours)).push (.script script), tree)
    | .script (.apart script) =>
      onward ((s.push (.rejoin s.scope.bindings)).push (.script script))
    | .ifSuccess script => onward (if succeeded then s.push (.script script) else s)
    | .ifFailure script => onward (if succeeded then s else s.push (.script script))
    | .negate => onward (s.withStatus (if succeeded then 1 else 0))
    | .choose yes no =>
      if succeeded then onward (s.push (.script yes))
      else onward ((s.withStatus 0).push (.script no))
    | .tested whileSuccess test body =>
      if succeeded = whileSuccess then
        onward ((s.push (.again whileSuccess test body)).push (.script body))
      else onward (s.withStatus 0)
    | .again whileSuccess test body =>
      onward ((s.push (.tested whileSuccess test body)).push (.script test))
    | .over name left body =>
      match left with
      | [] => onward s
      | field :: left =>
        onward (((s.setVariable name field).push (.over name left body)).push (.script body))
    | .restore sinks input => onward (s.restore sinks input)
    | .forget bindings => onward { s with scope := { s.scope with bindings := bindings } }
    | .rejoin bindings => onward { s with scope := { s.scope with bindings := bindings } }

/-- Does what comes next, and again, at most so often and until the script sleeps or ends. -/
def steps : Nat → Shell → FileTree → Pace × Shell × FileTree
  | 0, s, tree => (.goesOn, s, tree)
  | fuel + 1, s, tree =>
    match s.step tree with
    | (.goesOn, s, tree) => steps fuel s tree
    | (.sleeps ms, s, tree) => (.sleeps ms, s, tree)
    | (.ends status, s, tree) => (.ends status, s, tree)

end Shell
end KernelLink
