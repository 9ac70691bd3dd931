import KernelLink.Rehearsal.Shell.Script

namespace KernelLink
namespace Shell

/-- What a script is made of. -/
inductive Token where
  | word (w : Word)
  /-- A line break or one of the signs between commands. -/
  | sign (s : String)
  /-- The sign of a detour, with the stream that it names. -/
  | detour (stream : Option Nat) (s : String)
  deriving DecidableEq, Repr

def isBlank (c : Char) : Bool := c = ' ' || c = '\t'

/-- The characters that end a word. -/
def endsWord (c : Char) : Bool := isBlank c || "\n;&|()<>".toList.contains c

def isNameStart (c : Char) : Bool := c.isAlpha || c = '_'

def isNamePart (c : Char) : Bool := c.isAlphanum || c = '_'

/-- Names of variables that are a single sign or digit. -/
def isSpecialName (c : Char) : Bool := c.isDigit || "@*#?$!-".toList.contains c

/-- What follows a dollar sign: the value of a variable, or nothing special. -/
def readValue (quoted : Bool) (cs : List Char) : Option (Piece × List Char) :=
  match cs with
  | '\x7b' :: rest =>
    let name := rest.takeWhile fun c => isNamePart c || isSpecialName c
    match rest.dropWhile fun c => isNamePart c || isSpecialName c with
    | '\x7d' :: rest => if name = [] then none else some (.value (String.ofList name) quoted, rest)
    | _ => none
  | '(' :: _ => none
  | c :: rest =>
    if isNameStart c then
      some (.value (String.ofList (cs.takeWhile isNamePart)) quoted, cs.dropWhile isNamePart)
    else if isSpecialName c then some (.value (String.singleton c) quoted, rest)
    else some (.text ['$'] quoted, cs)
  | [] => some (.text ['$'] quoted, [])

/-- Reads up to the closing quote of a text in which variables are filled in. -/
def readQuoted : Nat → List Char → Option (Word × List Char)
  | 0, _ => none
  | _ + 1, [] => none
  | _ + 1, '"' :: rest => some ([.text [] true], rest)
  | _ + 1, '`' :: _ => none
  | fuel + 1, '\\' :: c :: rest =>
    let kept := if "$`\"\\".toList.contains c then [c] else if c = '\n' then [] else ['\\', c]
    (readQuoted fuel rest).map fun (w, rest) => (.text kept true :: w, rest)
  | fuel + 1, '$' :: rest => do
    let (piece, rest) ← readValue true rest
    let (w, rest) ← readQuoted fuel rest
    some (piece :: w, rest)
  | fuel + 1, c :: rest =>
    (readQuoted fuel rest).map fun (w, rest) => (.text [c] true :: w, rest)

/-- Reads a word up to the character that ends it. -/
def readWord : Nat → List Char → Option (Word × List Char)
  | 0, _ => none
  | _ + 1, [] => some ([], [])
  | _ + 1, '`' :: _ => none
  | fuel + 1, '\'' :: rest =>
    match rest.dropWhile (· ≠ '\'') with
    | [] => none
    | _ :: after =>
      (readWord fuel after).map fun (w, after) =>
        (.text (rest.takeWhile (· ≠ '\'')) true :: w, after)
  | fuel + 1, '"' :: rest => do
    let (quoted, rest) ← readQuoted (rest.length + 1) rest
    let (w, rest) ← readWord fuel rest
    some (quoted ++ w, rest)
  | fuel + 1, '\\' :: '\n' :: rest => readWord fuel rest
  | fuel + 1, '\\' :: c :: rest =>
    (readWord fuel rest).map fun (w, rest) => (.text [c] true :: w, rest)
  | fuel + 1, '$' :: rest => do
    let (piece, rest) ← readValue false rest
    let (w, rest) ← readWord fuel rest
    some (piece :: w, rest)
  | fuel + 1, c :: rest =>
    if endsWord c then some ([], c :: rest)
    else (readWord fuel rest).map fun (w, rest) => (.text [c] false :: w, rest)

/-- The sign of a detour at the start of a text. -/
def readDetour (stream : Option Nat) : List Char → Option (Token × List Char)
  | '>' :: '>' :: rest => some (.detour stream ">>", rest)
  | '>' :: '&' :: rest => some (.detour stream ">&", rest)
  | '>' :: '|' :: rest => some (.detour stream ">", rest)
  | '>' :: rest => some (.detour stream ">", rest)
  | '<' :: '<' :: _ => none
  | '<' :: '&' :: rest => some (.detour stream ">&", rest)
  | '<' :: rest => some (.detour stream "<", rest)
  | _ => none

/-- The tokens of a script, if every quote is closed and nothing is used that is not known. -/
def tokens : Nat → List Char → Option (List Token)
  | 0, _ => none
  | _ + 1, [] => some []
  | fuel + 1, '#' :: rest => tokens fuel (rest.dropWhile (· ≠ '\n'))
  | fuel + 1, '&' :: '&' :: rest => (tokens fuel rest).map (.sign "&&" :: ·)
  | fuel + 1, '|' :: '|' :: rest => (tokens fuel rest).map (.sign "||" :: ·)
  | fuel + 1, c :: rest =>
    if isBlank c then tokens fuel rest
    else if c = '\n' ∨ c = ';' ∨ c = '(' ∨ c = ')' then
      (tokens fuel rest).map (.sign (String.singleton c) :: ·)
    else if c = '&' ∨ c = '|' then none
    else
      let digits := (c :: rest).takeWhile Char.isDigit
      match readDetour (String.ofList digits).toNat? ((c :: rest).drop digits.length) with
      | some (sign, rest) => (tokens fuel rest).map (sign :: ·)
      | none => do
        let (w, after) ← readWord (rest.length + 2) (c :: rest)
        if after.length ≤ rest.length then (tokens fuel after).map (.word w :: ·) else none

/-- The words at which a list of commands ends. -/
def closing : List String := ["then", "else", "elif", "fi", "do", "done", "\x7d"]

/-- Whether no command begins here. -/
def endsList : List Token → Bool
  | [] => true
  | .sign s :: _ => s = ")"
  | .word w :: _ => (Word.plain? w).any closing.contains
  | .detour _ _ :: _ => false

def skipBreaks (ts : List Token) : List Token := ts.dropWhile (· = .sign "\n")

/-- The rest behind a word that has to stand here. -/
def expect (word : String) : List Token → Option (List Token)
  | .word w :: rest => if Word.plain? w = some word then some rest else none
  | _ => none

/-- The variable and the value of a word that sets a variable. -/
def setting? (w : Word) : Option (String × Word) :=
  let lead := w.takeWhile fun p =>
    match p with
    | .text [c] false => c ≠ '='
    | _ => false
  match w.drop lead.length, Word.plain? lead with
  | .text ['='] false :: value, some name =>
    match name.toList with
    | c :: cs => if isNameStart c && cs.all isNamePart then some (name, value) else none
    | [] => none
  | _, _ => none

/-- A detour, with the word that has to follow its sign. -/
def detour? (stream : Option Nat) (s : String) (w : Word) : Detour :=
  match s with
  | "<" => .input w
  | ">>" => .output (stream.getD 1) w true
  | ">&" => .merge (stream.getD 1) w
  | _ => .output (stream.getD 1) w false

/-- The detours that follow a command. -/
def readDetours : List Token → List Detour × List Token
  | .detour stream s :: .word w :: rest =>
    let (ds, rest) := readDetours rest
    (detour? stream s w :: ds, rest)
  | ts => ([], ts)

/-- The settings, words and detours of a command, up to the sign that ends it. -/
def readCommand (settings : List (String × Word)) (words : List Word) (detours : List Detour) :
    List Token → Script × List Token
  | .detour stream s :: .word w :: rest =>
    readCommand settings words (detours ++ [detour? stream s w]) rest
  | .word w :: rest =>
    match setting? w, words with
    | some setting, [] => readCommand (settings ++ [setting]) [] detours rest
    | _, _ => readCommand settings (words ++ [w]) detours rest
  | ts => (.command settings words detours, ts)

/-- The words up to the sign that ends a command. -/
def readWords : List Token → List Word × List Token
  | .word w :: rest =>
    let (ws, rest) := readWords rest
    (w :: ws, rest)
  | ts => ([], ts)

mutual

/-- Commands one after the other. -/
def readList : Nat → List Token → Option (Script × List Token)
  | 0, _ => none
  | fuel + 1, ts =>
    let ts := skipBreaks ts
    if endsList ts then some (.nothing, ts)
    else do
      let (first, ts) ← readItem fuel ts
      let (first, ts) ← readChain fuel first ts
      match ts with
      | .sign s :: rest =>
        if s = ";" ∨ s = "\n" then
          let (second, rest) ← readList fuel rest
          some (.sequence first second, rest)
        else some (first, ts)
      | _ => some (first, ts)

/-- Commands that are run only if the one before has succeeded, or has failed. -/
def readChain : Nat → Script → List Token → Option (Script × List Token)
  | 0, _, _ => none
  | fuel + 1, first, ts =>
    match ts with
    | .sign "&&" :: rest => do
      let (second, rest) ← readItem fuel (skipBreaks rest)
      readChain fuel (.both first second) rest
    | .sign "||" :: rest => do
      let (second, rest) ← readItem fuel (skipBreaks rest)
      readChain fuel (.either first second) rest
    | _ => some (first, ts)

/-- One command. -/
def readItem : Nat → List Token → Option (Script × List Token)
  | 0, _ => none
  | fuel + 1, ts =>
    let diverted (found : Option (Script × List Token)) : Option (Script × List Token) :=
      found.map fun (script, rest) =>
        match readDetours rest with
        | ([], rest) => (script, rest)
        | (ds, rest) => (.diverted script ds, rest)
    match ts with
    | .sign "(" :: rest => diverted do
      let (script, rest) ← readList fuel rest
      match rest with
      | .sign ")" :: rest => some (.apart script, rest)
      | _ => none
    | .sign _ :: _ => none
    | .word w :: rest =>
      match Word.plain? w with
      | some "!" => (readItem fuel rest).map fun (script, rest) => (.negation script, rest)
      | some "\x7b" => diverted do
        let (script, rest) ← readList fuel rest
        let rest ← expect "\x7d" rest
        some (script, rest)
      | some "if" => diverted (readBranch fuel rest)
      | some "while" => diverted (readLoop fuel true rest)
      | some "until" => diverted (readLoop fuel false rest)
      | some "for" => diverted do
        match rest with
        | .word w :: rest =>
          let name ← Word.plain? w
          let (words, rest) : Option (List Word) × List Token :=
            match expect "in" (skipBreaks rest) with
            | some rest =>
              let (ws, rest) := readWords rest
              (some ws, rest)
            | none => (none, rest)
          let rest := rest.dropWhile fun t => t = .sign ";" || t = .sign "\n"
          let rest ← expect "do" rest
          let (body, rest) ← readList fuel rest
          let rest ← expect "done" rest
          some (.each name words body, rest)
        | _ => none
      | some word => if closing.contains word then none else some (readCommand [] [] [] ts)
      | none => some (readCommand [] [] [] ts)
    | .detour _ _ :: _ => some (readCommand [] [] [] ts)
    | [] => none

/-- What follows the word that opens a branch. -/
def readBranch : Nat → List Token → Option (Script × List Token)
  | 0, _ => none
  | fuel + 1, ts => do
    let (test, ts) ← readList fuel ts
    let ts ← expect "then" ts
    let (yes, ts) ← readList fuel ts
    match expect "elif" ts, expect "else" ts with
    | some ts, _ =>
      let (no, ts) ← readBranch fuel ts
      some (.branch test yes no, ts)
    | none, some ts =>
      let (no, ts) ← readList fuel ts
      let ts ← expect "fi" ts
      some (.branch test yes no, ts)
    | none, none =>
      let ts ← expect "fi" ts
      some (.branch test yes .nothing, ts)

/-- What follows the word that opens a loop. -/
def readLoop : Nat → Bool → List Token → Option (Script × List Token)
  | 0, _, _ => none
  | fuel + 1, whileSuccess, ts => do
    let (test, ts) ← readList fuel ts
    let ts ← expect "do" ts
    let (body, ts) ← readList fuel ts
    let ts ← expect "done" ts
    some (.loop whileSuccess test body, ts)

end

/-- The script that a text holds, if the text is well formed. -/
def read? (text : String) : Option Script := do
  let ts ← tokens (text.length + 1) text.toList
  let (script, rest) ← readList (4 * ts.length + 4) ts
  match rest with
  | [] => some script
  | _ => none

end Shell
end KernelLink
