import KernelLink.Failure
import KernelLink.FileTree
import KernelLink.Table

namespace KernelLink

/-- Whether a character may stand in the name of a placeholder. -/
def isNameChar (c : Char) : Bool := c.isAlphanum || c = '_'

/-- The name of the placeholder that a text begins with: letters, digits and underscores in braces. -/
def placeholder? : List Char → Option (List Char)
  | '\x7b' :: rest =>
    match rest.takeWhile isNameChar, rest.dropWhile isNameChar with
    | first :: name, '\x7d' :: _ => some (first :: name)
    | _, _ => none
  | _ => none

def braced (name : List Char) : List Char := '\x7b' :: (name ++ ['\x7d'])

/-- Fills in the placeholders of a text from left to right, and leaves those that it does not know. What
has been filled in is not looked at again. The number counts the characters of a placeholder that are
still to be passed over. -/
def fill (values : List (List Char × List Char)) : Nat → List Char → List Char
  | _, [] => []
  | passed + 1, _ :: rest => fill values passed rest
  | 0, c :: rest =>
    match placeholder? (c :: rest) with
    | some name => (values.lookup name).getD (braced name) ++ fill values (name.length + 1) rest
    | none => c :: fill values 0 rest

/-- What the placeholders of a command template stand for. -/
def templateValues (connectionFile resourceDir : Path) : List (List Char × List Char) :=
  [("connection_file".toList, connectionFile.toList), ("resource_dir".toList, resourceDir.toList)]

def fillArgument (connectionFile resourceDir : Path) (arg : String) : String :=
  String.ofList (fill (templateValues connectionFile resourceDir) 0 arg.toList)

/-- A command line: the template with its placeholders filled in, then the extra arguments. -/
def commandLine (argv extra : List String) (connectionFile resourceDir : Path) : List String :=
  argv.map (fillArgument connectionFile resourceDir) ++ extra

/-- A program with its arguments and its whole environment. -/
structure Command where
  program : String
  args : List String
  env : Table String
  deriving DecidableEq, Repr

/-- The command of a command line, which has to name a program. -/
def Command.build (argv : List String) (env : Table String) : Except Failure Command :=
  match argv with
  | [] => .error (.processStart "No arguments provided")
  | program :: args => .ok ⟨program, args, env⟩

end KernelLink
