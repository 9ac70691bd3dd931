import KernelLink.Bytes
import KernelLink.Rehearsal.Shell.Script

namespace KernelLink
namespace Shell

/-- What the variables of a script stand for. -/
structure Scope where
  bindings : List (String × String)
  /-- The name that the script was called by, and then its arguments. -/
  arguments : List String
  /-- The status of the last command. -/
  status : Nat

namespace Scope

/-- The number by which a script knows its own process. -/
def ownNumber : Nat := 4242

def set (s : Scope) (name value : String) : Scope :=
  { s with bindings := (name, value) :: s.bindings.filter (·.1 ≠ name) }

/-- The value of a variable; one that is not set is empty. -/
def value (s : Scope) (name : String) : String :=
  match name with
  | "?" => toString s.status
  | "$" => toString ownNumber
  | "#" => toString (s.arguments.length - 1)
  | "*" => " ".intercalate s.arguments.tail
  | "@" => " ".intercalate s.arguments.tail
  | _ =>
    match name.toNat? with
    | some n => (s.arguments[n]?).getD ""
    | none => (s.bindings.lookup name).getD ""

end Scope

/-- Fields that have been made so far, the last first, and the one that is being made. -/
structure Fields where
  done : List (List Char)
  current : Option (List Char)

namespace Fields

def none : Fields := ⟨[], .none⟩

def add (f : Fields) (cs : List Char) : Fields :=
  { f with current := some (f.current.getD [] ++ cs) }

def close (f : Fields) : Fields :=
  match f.current with
  | some cs => ⟨cs :: f.done, .none⟩
  | .none => f

/-- Adds text that ends a field at every blank. -/
def split (f : Fields) : List Char → Fields
  | [] => f
  | c :: rest =>
    if c = ' ' ∨ c = '\t' ∨ c = '\n' then f.close.split rest else (f.add [c]).split rest

/-- Adds texts that each stand in a field of their own. -/
def spread (f : Fields) : List String → Fields
  | [] => f
  | [last] => f.add last.toList
  | first :: rest => (f.add first.toList).close.spread rest

def toList (f : Fields) : List String := f.close.done.reverse.map String.ofList

end Fields

/-- The fields of a word. -/
def Word.fields (scope : Scope) (w : Word) : List String :=
  let add (f : Fields) : Piece → Fields
    | .text content _ => f.add content
    | .value "@" true => f.spread scope.arguments.tail
    | .value name true => f.add (scope.value name).toList
    | .value name false => f.split (scope.value name).toList
  (w.foldl add Fields.none).toList

/-- The text of a word that is not split. -/
def Word.joined (scope : Scope) (w : Word) : String :=
  String.join (w.map fun
    | .text content _ => String.ofList content
    | .value name _ => scope.value name)

/-- The octet of up to three octal digits, and what follows them. -/
def readOctal (cs : List Char) : UInt8 × List Char :=
  let isOctal (c : Char) : Bool := '0' ≤ c && c ≤ '7'
  let digits := (cs.take 3).takeWhile isOctal
  (UInt8.ofNat (digits.foldl (fun n c => 8 * n + (c.toNat - 48)) 0), cs.drop digits.length)

/-- The octets of the escapes that are a single letter. -/
def escapes : List (Char × UInt8) :=
  [('a', 7), ('b', 8), ('t', 9), ('n', 10), ('v', 11), ('f', 12), ('r', 13), ('\\', 92)]

/-- The octets of a text in which escapes begin with a backslash. The flag tells whether the text
ends the whole output. -/
def unescape : Nat → List Char → Bytes × Bool
  | 0, _ => ([], false)
  | _ + 1, [] => ([], false)
  | fuel + 1, '\\' :: c :: rest =>
    if c = 'c' then ([], true)
    else if c = '0' then
      let (b, rest) := readOctal rest
      let (bs, last) := unescape fuel rest
      (b :: bs, last)
    else
      let here := match escapes.lookup c with
        | some b => [b]
        | none => Bytes.ofString (String.ofList ['\\', c])
      let (bs, last) := unescape fuel rest
      (here ++ bs, last)
  | fuel + 1, c :: rest =>
    let (bs, last) := unescape fuel rest
    (Bytes.ofString (String.singleton c) ++ bs, last)

/-- What `echo` writes. -/
def echoed (words : List String) : Bytes :=
  let (quiet, words) := match words with
    | "-n" :: words => (true, words)
    | words => (false, words)
  let text := " ".intercalate words
  let (bs, last) := unescape (text.length + 1) text.toList
  if quiet || last then bs else bs ++ [10]

/-- The number that a text stands for, if it is one. -/
def integer? (s : String) : Option Int := s.trimAscii.toString.toInt?

/-- One pass over a format, with what is left of the arguments. -/
def formatOnce : Nat → List Char → List String → Bytes × List String
  | 0, _, words => ([], words)
  | _ + 1, [], words => ([], words)
  | fuel + 1, '%' :: c :: rest, words =>
    if c = '%' then
      let (bs, words) := formatOnce fuel rest words
      (37 :: bs, words)
    else
      let word := words.headD ""
      let here : Bytes :=
        match c with
        | 's' => Bytes.ofString word
        | 'b' => (unescape (word.length + 1) word.toList).1
        | 'c' => Bytes.ofString (String.ofList (word.toList.take 1))
        | 'd' => Bytes.ofString (toString ((integer? word).getD 0))
        | 'i' => Bytes.ofString (toString ((integer? word).getD 0))
        | 'u' => Bytes.ofString (toString ((integer? word).getD 0).toNat)
        | _ => []
      let (bs, words) := formatOnce fuel rest words.tail
      (here ++ bs, words)
  | fuel + 1, '\\' :: c :: rest, words =>
    if c.isDigit then
      let (b, rest) := readOctal (c :: rest)
      let (bs, words) := formatOnce fuel rest words
      (b :: bs, words)
    else
      let here := match escapes.lookup c with
        | some b => [b]
        | none => if c = '"' then [34] else Bytes.ofString (String.ofList ['\\', c])
      let (bs, words) := formatOnce fuel rest words
      (here ++ bs, words)
  | fuel + 1, c :: rest, words =>
    let (bs, words) := formatOnce fuel rest words
    (Bytes.ofString (String.singleton c) ++ bs, words)

/-- The passes over a format: one, and more of them for as long as arguments are left. -/
def formatPasses (format : List Char) : Nat → List String → Bytes
  | 0, _ => []
  | fuel + 1, words =>
    let (bs, left) := formatOnce (format.length + 1) format words
    if left = [] ∨ left.length = words.length then bs else bs ++ formatPasses format fuel left

/-- What `printf` writes. -/
def formatted (format : String) (words : List String) : Bytes :=
  formatPasses format.toList (words.length + 1) words

/-- The milliseconds of a time that is given in seconds, or in another unit that is named. -/
def pause? (word : String) : Option Nat :=
  let (digits, unit) : List Char × Nat :=
    match word.toList.reverse with
    | 's' :: rest => (rest.reverse, 1)
    | 'm' :: rest => (rest.reverse, 60)
    | 'h' :: rest => (rest.reverse, 3600)
    | 'd' :: rest => (rest.reverse, 86400)
    | _ => (word.toList, 1)
  let whole := digits.takeWhile (· ≠ '.')
  let decimals := (digits.dropWhile (· ≠ '.')).drop 1
  if whole ++ decimals = [] ∨ (whole ++ decimals).any fun c => !c.isDigit then none
  else
    let number (cs : List Char) : Nat := cs.foldl (fun n c => 10 * n + (c.toNat - 48)) 0
    let scale := Nat.pow 10 decimals.length
    some ((number (whole ++ decimals) * unit * 1000 + scale - 1) / scale)

end Shell
end KernelLink
