namespace KernelLink
namespace Shell

/-- A part of a word: text as it stands, or the value of a variable. Within quotes neither is
split at blanks. -/
inductive Piece where
  | text (content : List Char) (quoted : Bool)
  | value (name : String) (quoted : Bool)
  deriving DecidableEq, Repr

/-- A word of a command, before its variables are filled in. -/
abbrev Word := List Piece

/-- The text of a word in which nothing is quoted or filled in. -/
def Word.plain? : Word → Option String
  | [] => some ""
  | .text content false :: rest => (Word.plain? rest).map (String.ofList content ++ ·)
  | _ :: _ => none

/-- Where a stream of a command leads instead. -/
inductive Detour where
  | input (path : Word)
  | output (stream : Nat) (path : Word) (append : Bool)
  | merge (stream : Nat) (other : Word)
  deriving DecidableEq, Repr

/-- A script that a shell runs. -/
inductive Script where
  | nothing
  | command (settings : List (String × Word)) (words : List Word) (detours : List Detour)
  | sequence (first second : Script)
  /-- The second is run only if the first succeeds. -/
  | both (first second : Script)
  /-- The second is run only if the first fails. -/
  | either (first second : Script)
  | negation (script : Script)
  | branch (test yes no : Script)
  /-- The body is run again as long as the test succeeds, or as long as it fails. -/
  | loop (whileSuccess : Bool) (test body : Script)
  /-- The body is run with a variable set to each of the words, or to each argument. -/
  | each (name : String) (words : Option (List Word)) (body : Script)
  | diverted (script : Script) (detours : List Detour)
  /-- What is set, and an exit, stay within. -/
  | apart (script : Script)
  deriving Repr

end Shell
end KernelLink
