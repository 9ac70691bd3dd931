import KernelLink.Launch.Command
import KernelLink.Rehearsal.Shell.Machine

namespace KernelLink

/-- A program that has been started. -/
inductive Program where
  /-- It goes on at some moment. -/
  | running (wakes : Nat) (shell : Shell)
  | ended (status : ExitStatus)

namespace Program

/-- The places to look for a program that is named without a directory. -/
def searchPath (env : List (String × String)) : List Path :=
  match env.lookup "PATH" with
  | some path => path.splitOn ":"
  | none => Shell.programPlaces

/-- Whether a path leads beneath a program, as if that were a directory. -/
def beneathProgram (path : Path) : Bool :=
  (Shell.programAt? ("/".intercalate (path.splitOn "/").dropLast)).isSome

/-- What stands at a path that is to be executed: a program, or something else. -/
def executable (tree : FileTree) (path : Path) : Except SystemFault String :=
  match Shell.programAt? path with
  | some name => .ok name
  | none =>
    match tree.status path with
    | .ok _ => .error .permissionDenied
    | .error fault => .error (if beneathProgram path then .notDirectory else fault)

/-- The first program along a search path. Something there that cannot be executed is passed
over, but it is told of in the end. -/
def search (tree : FileTree) (name : String) (denied : Bool) : List Path → Except SystemFault String
  | [] => .error (if denied then .permissionDenied else .notFound)
  | place :: rest =>
    match executable tree (Path.join place name) with
    | .ok name => .ok name
    | .error .permissionDenied => search tree name true rest
    | .error _ => search tree name denied rest

/-- The program that a command names. -/
def find (tree : FileTree) (c : Command) : Except SystemFault String :=
  if c.program = "" then .error .notFound
  else if c.program.toList.contains '/' then executable tree c.program
  else search tree c.program false (searchPath c.env)

/-- A word that stands for itself. -/
private def verbatim (text : String) : Shell.Word := [.text text.toList true]

private def plainCommand (words : List String) : Shell.Script :=
  .command [] (words.map verbatim) []

/-- What a shell runs that is called with some arguments. -/
def shellScript (tree : FileTree) : List String → Shell.Script × List String
  | "-c" :: text :: rest =>
    ((Shell.read? text).getD (plainCommand ["exit", "2"]), if rest = [] then ["sh"] else rest)
  | ["-c"] => (plainCommand ["exit", "2"], ["sh"])
  | path :: rest =>
    match tree.read path with
    | .ok content =>
      let script := (Bytes.toString? content).bind Shell.read?
      (script.getD (plainCommand ["exit", "2"]), path :: rest)
    | .error _ => (plainCommand ["exit", "2"], path :: rest)
  | [] => (.nothing, ["sh"])

/-- Whether a text can be handed to a program; the octet zero would end it. -/
private def canBePassed (text : String) : Bool := !text.toList.contains (Char.ofNat 0)

/-- Starts the program of a command. -/
def start (tree : FileTree) (c : Command) (now : Nat) : Except SystemFault Program :=
  let texts := c.program :: c.args ++ c.env.flatMap fun (name, value) => [name, value]
  if !texts.all canBePassed then .error (.other "nul byte found in provided data")
  else
    match find tree c with
    | .error fault => .error fault
    | .ok "sh" =>
      let (script, arguments) := shellScript tree c.args
      .ok (.running (now + 1) (Shell.load script c.env arguments))
    | .ok name => .ok (.running (now + 1) (Shell.load (plainCommand (name :: c.args)) c.env [name]))

/-- How many things a program does within a millisecond. -/
def pace : Nat := 200

/-- Runs a program up to a moment, if it is its turn. -/
def run (tree : FileTree) (now : Nat) : Program → Program × FileTree
  | .running wakes shell =>
    if now < wakes then (.running wakes shell, tree)
    else
      match shell.steps pace tree with
      | (.goesOn, shell, tree) => (.running (now + 1) shell, tree)
      | (.sleeps ms, shell, tree) => (.running (now + max ms 1) shell, tree)
      | (.ends status, _, tree) => (.ended status, tree)
  | .ended status => (.ended status, tree)

/-- Ends a program by a signal that it cannot ignore. -/
def kill : Program → Program
  | .running _ _ => .ended none
  | .ended status => .ended status

def status? : Program → Option ExitStatus
  | .running _ _ => none
  | .ended status => some status

end Program
end KernelLink
