import KernelLink.FileTree

namespace KernelLink

/-- What the program is asked to do. Times are in seconds. -/
structure Arguments where
  kernel : String
  code : List String
  /-- A file that holds one more block of code. -/
  file : Option Path
  /-- Whether to list the kernels and do nothing else. -/
  list : Bool
  connectionFile : Option Path
  attempts : Nat
  connectTimeout : Nat
  waitTimeout : Nat
  logLevel : Option String
  logFile : Option Path
  kernelArgs : List String
  deriving DecidableEq, Repr

namespace Arguments

def default : Arguments where
  kernel := "python3"
  code := []
  file := none
  list := false
  connectionFile := none
  attempts := 3
  connectTimeout := 10
  waitTimeout := 60
  logLevel := none
  logFile := none
  kernelArgs := []

/-- A number below a bound, in decimal digits. -/
def number? (bound : Nat) (s : String) : Option Nat :=
  let digits := if s.startsWith "+" then s.toList.drop 1 else s.toList
  if digits = [] ∨ digits.any fun c => !c.isDigit then none
  else
    let n := digits.foldl (fun n c => 10 * n + (c.toNat - 48)) 0
    if n < bound then some n else none

/-- The options that take a value, and how the value is taken in. -/
def valued : List (String × (Arguments → String → Option Arguments)) := [
  ("code", fun a s => some { a with code := a.code ++ [s] }),
  ("file", fun a s => some { a with file := some s }),
  ("connection-file", fun a s => some { a with connectionFile := some s }),
  ("attempts", fun a s => (number? (Nat.pow 2 32) s).map fun n => { a with attempts := n }),
  ("connect-timeout", fun a s =>
    (number? (Nat.pow 2 64) s).map fun n => { a with connectTimeout := n }),
  ("wait-timeout", fun a s => (number? (Nat.pow 2 64) s).map fun n => { a with waitTimeout := n }),
  ("log-level", fun a s => some { a with logLevel := some s }),
  ("log-file", fun a s => some { a with logFile := some s })]

/-- The options that are known by a letter too. -/
def letters : List (Char × String) := [('c', "code"), ('f', "file"), ('l', "log-level")]

/-- What has been read so far, which options have been given, and whether a kernel has. -/
structure Reading where
  arguments : Arguments
  given : List String
  named : Bool

namespace Reading

/-- Takes in an option. Only code may be given more than once. -/
def take (r : Reading) (name value : String) : Option Reading :=
  if name ≠ "code" ∧ r.given.contains name then none
  else
    match valued.lookup name with
    | none => none
    | some set => (set r.arguments value).map fun a =>
      { r with arguments := a, given := name :: r.given }

def takeList (r : Reading) : Option Reading :=
  if r.given.contains "list" then none
  else some { r with arguments := { r.arguments with list := true }, given := "list" :: r.given }

def takeKernel (r : Reading) (kernel : String) : Option Reading :=
  if r.named then none
  else some { r with arguments := { r.arguments with kernel := kernel }, named := true }

/-- Whether a word can be the value of an option that stands before it. -/
def isValue (word : String) : Bool := !word.startsWith "-" || word = "-"

/-- Takes in words up to the end, or up to two dashes, behind which all words are for the
kernel. -/
def takeAll (r : Reading) : List String → Option Reading
  | [] => some r
  | "--" :: rest => some { r with arguments := { r.arguments with kernelArgs := rest } }
  | word :: rest =>
    match word.toList with
    | '-' :: '-' :: long =>
      let name := long.takeWhile (· ≠ '=')
      match long.drop name.length with
      | _ :: value =>
        (r.take (String.ofList name) (String.ofList value)).bind fun r => takeAll r rest
      | [] =>
        if String.ofList name = "list" then r.takeList.bind fun r => takeAll r rest
        else
          match rest with
          | value :: rest =>
            if isValue value then
              (r.take (String.ofList name) value).bind fun r => takeAll r rest
            else none
          | [] => none
    | '-' :: c :: short =>
      match letters.lookup c, short, rest with
      | none, _, _ => none
      | some name, '=' :: value, rest =>
        (r.take name (String.ofList value)).bind fun r => takeAll r rest
      | some name, [], value :: rest =>
        if isValue value then (r.take name value).bind fun r => takeAll r rest else none
      | some _, [], [] => none
      | some name, value, rest =>
        (r.take name (String.ofList value)).bind fun r => takeAll r rest
    | _ => (r.takeKernel word).bind fun r => takeAll r rest

end Reading

/-- The arguments that some words stand for, if they make sense. -/
def parse (words : List String) : Option Arguments :=
  ((⟨default, [], false⟩ : Reading).takeAll words).map (·.arguments)

end Arguments
end KernelLink
