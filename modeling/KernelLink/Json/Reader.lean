import KernelLink.Json.Fault
import KernelLink.Json.Payload

namespace KernelLink

/-- What a JSON value is, as messages about it say. -/
def Json.found : Json → Found
  | .null => .null
  | .bool b => .bool b
  | .number n => .number n
  | .text s => .text s
  | .array _ => .array
  | .object _ => .object

namespace Reader

def isBlank (b : UInt8) : Bool := b = 32 || b = 10 || b = 13 || b = 9

def skipBlank (bs : Bytes) : Bytes := bs.dropWhile isBlank

def isDigit (b : UInt8) : Bool := 48 ≤ b && b ≤ 57

/-- The rest of a word whose beginning has been read. -/
def word : Bytes → Bytes → Except Fault Bytes
  | [], bs => .ok bs
  | _ :: _, [] => .error .incomplete
  | e :: es, b :: bs => if b = e then word es bs else .error .malformed

/-- The decimal digits at the head of a text. -/
def digits (bs : Bytes) : List Nat × Bytes :=
  ((bs.takeWhile isDigit).map fun b => b.toNat - 48, bs.dropWhile isDigit)

/-- One digit at least. A text that ends in front of it has the given fault. -/
def someDigits (short : Fault) (bs : Bytes) : Except Fault (List Nat × Bytes) :=
  match digits bs with
  | ([], []) => .error short
  | ([], _ :: _) => .error .malformed
  | (ds, rest) => .ok (ds, rest)

/-- The digits in front of a point or an exponent: a zero stands alone. -/
def wholeDigits (short : Fault) (bs : Bytes) : Except Fault (List Nat × Bytes) := do
  let (ds, rest) ← someDigits short bs
  match ds with
  | 0 :: _ :: _ => .error .malformed
  | _ => .ok (ds, rest)

/-- The part of a numeral behind a point, if there is one. -/
def fraction (short : Fault) : Bytes → Except Fault (Option (List Nat) × Bytes)
  | [] => .ok (none, [])
  | b :: rest =>
    if b = octet '.' then do
      let (ds, rest) ← someDigits short rest
      .ok (some ds, rest)
    else .ok (none, b :: rest)

/-- The exponent of a numeral, if there is one: whether it is negative, and its digits. -/
def exponent (short : Fault) : Bytes → Except Fault (Option (Bool × List Nat) × Bytes)
  | [] => .ok (none, [])
  | b :: rest =>
    if b = octet 'e' ∨ b = octet 'E' then do
      let (down, rest) :=
        match rest with
        | [] => (false, [])
        | s :: after =>
          if s = octet '+' then (false, after)
          else if s = octet '-' then (true, after)
          else (false, s :: after)
      let (ds, rest) ← someDigits short rest
      .ok (some (down, ds), rest)
    else .ok (none, b :: rest)

/-- A numeral behind its sign. -/
def numeral (short : Fault) (negative : Bool) (bs : Bytes) : Except Fault (Numeral × Bytes) := do
  let (whole, bs) ← wholeDigits short bs
  let (fraction, bs) ← fraction short bs
  let (exponent, bs) ← exponent short bs
  .ok (⟨negative, whole, fraction, exponent⟩, bs)

/-- A number whose first octet is there. -/
def number (bs : Bytes) : Except Fault (Number × Bytes) := do
  let (n, rest) ←
    match bs with
    | [] => .error .incomplete
    | b :: rest =>
      if b = octet '-' then numeral .incomplete true rest else numeral .incomplete false (b :: rest)
  match n.value with
  | some value => .ok (value, rest)
  | none => .error .malformed

/-- Four hexadecimal digits. -/
def hexFour : Bytes → Except Fault (Nat × Bytes)
  | a :: b :: c :: d :: rest =>
    match Bytes.hexValue a, Bytes.hexValue b, Bytes.hexValue c, Bytes.hexValue d with
    | some a, some b, some c, some d => .ok (((a * 16 + b) * 16 + c) * 16 + d, rest)
    | _, _, _, _ => .error .malformed
  | _ => .error .incomplete

/-- The second half of a pair of escapes that stand for one code point. -/
def trailingHalf (lead : Nat) : Bytes → Except Fault (Bytes × Bytes)
  | [] => .error .incomplete
  | b :: rest =>
    if b ≠ octet '\\' then .error .malformed
    else
      match rest with
      | [] => .error .incomplete
      | u :: rest =>
        if u ≠ octet 'u' then .error .malformed
        else do
          let (n, rest) ← hexFour rest
          if n < 0xDC00 ∨ 0xDFFF < n then .error .malformed
          else
            let point := 0x10000 + (lead - 0xD800) * 0x400 + (n - 0xDC00)
            .ok (String.utf8EncodeChar (Char.ofNat point), rest)

/-- The octets that an escape stands for, read from behind its backslash. -/
def escape : Bytes → Except Fault (Bytes × Bytes)
  | [] => .error .incomplete
  | b :: rest =>
    if b = octet '"' ∨ b = octet '\\' ∨ b = octet '/' then .ok ([b], rest)
    else if b = octet 'b' then .ok ([8], rest)
    else if b = octet 'f' then .ok ([12], rest)
    else if b = octet 'n' then .ok ([10], rest)
    else if b = octet 'r' then .ok ([13], rest)
    else if b = octet 't' then .ok ([9], rest)
    else if b = octet 'u' then do
      let (n, rest) ← hexFour rest
      if 0xDC00 ≤ n ∧ n ≤ 0xDFFF then .error .malformed
      else if 0xD800 ≤ n ∧ n ≤ 0xDBFF then trailingHalf n rest
      else .ok (String.utf8EncodeChar (Char.ofNat n), rest)
    else .error .malformed

/-- The octets of a string up to its closing quote. -/
def stringBody : Nat → Bytes → Except Fault (Bytes × Bytes)
  | 0, _ => .error .incomplete
  | _ + 1, [] => .error .incomplete
  | fuel + 1, b :: rest =>
    if b = octet '"' then .ok ([], rest)
    else if b = octet '\\' then do
      let (head, rest) ← escape rest
      let (tail, rest) ← stringBody fuel rest
      .ok (head ++ tail, rest)
    else if b < 32 then .error .malformed
    else do
      let (tail, rest) ← stringBody fuel rest
      .ok (b :: tail, rest)

/-- A string behind its opening quote. Its octets have to be UTF-8. -/
def string (bs : Bytes) : Except Fault (String × Bytes) := do
  let (body, rest) ← stringBody (bs.length + 1) bs
  match Bytes.toString? body with
  | some s => .ok (s, rest)
  | none => .error .malformed

/-- A value that is neither an array nor an object; nothing blank stands in front of it. -/
def atom (bs : Bytes) : Except Fault (Json × Bytes) := do
  match bs with
  | [] => .error .incomplete
  | b :: rest =>
    if b = octet 'n' then
      let rest ← word [octet 'u', octet 'l', octet 'l'] rest
      .ok (.null, rest)
    else if b = octet 't' then
      let rest ← word [octet 'r', octet 'u', octet 'e'] rest
      .ok (.bool true, rest)
    else if b = octet 'f' then
      let rest ← word [octet 'a', octet 'l', octet 's', octet 'e'] rest
      .ok (.bool false, rest)
    else if b = octet '"' then
      let (s, rest) ← string rest
      .ok (.text s, rest)
    else if b = octet '-' ∨ isDigit b then
      let (n, rest) ← number (b :: rest)
      .ok (.number n, rest)
    else .error .malformed

/-- The fault of a text that has something else where a value of a type was wanted. -/
def mismatch (wanted : String) (bs : Bytes) : Fault :=
  match bs with
  | [] => .incomplete
  | b :: _ =>
    if b = octet '[' then .mismatch .array wanted
    else if b = octet '\x7b' then .mismatch .object wanted
    else
      match atom bs with
      | .ok (j, _) => .mismatch j.found wanted
      | .error fault => fault

/-- Where a list stands: at its end, with what follows it, or in front of one more part. -/
inductive Next (α : Type) where
  | done (rest : Bytes)
  | more (part : α) (rest : Bytes)

/-- Steps to the next item of an array, over a comma unless it is the first. -/
def nextItem (first : Bool) (bs : Bytes) : Except Fault (Next Unit) :=
  match skipBlank bs with
  | [] => .error .incomplete
  | b :: rest =>
    if b = octet ']' then .ok (.done rest)
    else if first then .ok (.more () (b :: rest))
    else if b = octet ',' then
      match skipBlank rest with
      | [] => .error .incomplete
      | c :: rest => if c = octet ']' then .error .malformed else .ok (.more () (c :: rest))
    else .error .malformed

/-- Steps to the opening quote of the next key of an object, over a comma unless it is the first. -/
def nextQuote (first : Bool) (bs : Bytes) : Except Fault (Next Unit) :=
  match skipBlank bs with
  | [] => .error .incomplete
  | b :: rest =>
    if b = octet '\x7d' then .ok (.done rest)
    else if first then
      if b = octet '"' then .ok (.more () rest) else .error .malformed
    else if b = octet ',' then
      match skipBlank rest with
      | [] => .error .incomplete
      | c :: rest => if c = octet '"' then .ok (.more () rest) else .error .malformed
    else .error .malformed

/-- The next key of an object. -/
def nextKey (first : Bool) (bs : Bytes) : Except Fault (Next String) := do
  match ← nextQuote first bs with
  | .done rest => .ok (.done rest)
  | .more () rest =>
    let (key, rest) ← string rest
    .ok (.more key rest)

def colon (bs : Bytes) : Except Fault Bytes :=
  match skipBlank bs with
  | [] => .error .incomplete
  | b :: rest => if b = octet ':' then .ok rest else .error .malformed

mutual

/-- A value with at most `room` arrays and objects around one another. Two units of fuel for each
octet, and two more, are enough. -/
def value : Nat → Nat → Bytes → Except Fault (Json × Bytes)
  | 0, _, _ => .error .incomplete
  | fuel + 1, room, bs => do
    match skipBlank bs with
    | [] => .error .incomplete
    | b :: rest =>
      if b = octet '[' then
        if room = 0 then .error .malformed
        else
          let (js, rest) ← items fuel (room - 1) true rest
          .ok (.array js, rest)
      else if b = octet '\x7b' then
        if room = 0 then .error .malformed
        else
          let (ms, rest) ← members fuel (room - 1) true rest
          .ok (.object ms, rest)
      else atom (b :: rest)

/-- The items of an array up to its closing bracket. -/
def items : Nat → Nat → Bool → Bytes → Except Fault (List Json × Bytes)
  | 0, _, _, _ => .error .incomplete
  | fuel + 1, room, first, bs => do
    match ← nextItem first bs with
    | .done rest => .ok ([], rest)
    | .more () rest =>
      let (j, rest) ← value fuel room rest
      let (js, rest) ← items fuel room false rest
      .ok (j :: js, rest)

/-- The members of an object up to its closing brace. -/
def members : Nat → Nat → Bool → Bytes → Except Fault (List (String × Json) × Bytes)
  | 0, _, _, _ => .error .incomplete
  | fuel + 1, room, first, bs => do
    match ← nextKey first bs with
    | .done rest => .ok ([], rest)
    | .more key rest =>
      let rest ← colon rest
      let (j, rest) ← value fuel room rest
      let (ms, rest) ← members fuel room false rest
      .ok ((key, j) :: ms, rest)

end

/-- The fuel that a text needs. -/
def fuelFor (bs : Bytes) : Nat := 2 * bs.length + 2

/-- A value of which nothing is kept: its escapes may be any four digits, its strings any octets,
its numbers of any size, and it may nest at will. -/
def skipEscape : Bytes → Except Fault Bytes
  | [] => .error .incomplete
  | b :: rest =>
    if b = octet 'u' then do
      let (_, rest) ← hexFour rest
      .ok rest
    else if "\"\\/bfnrt".toList.any fun c => octet c = b then .ok rest
    else .error .malformed

/-- A string of which nothing is kept, behind its opening quote. -/
def skipString : Nat → Bytes → Except Fault Bytes
  | 0, _ => .error .incomplete
  | _ + 1, [] => .error .incomplete
  | fuel + 1, b :: rest =>
    if b = octet '"' then .ok rest
    else if b = octet '\\' then do
      let rest ← skipEscape rest
      skipString fuel rest
    else if b < 32 then .error .malformed
    else skipString fuel rest

/-- A value that is neither an array nor an object, and of which nothing is kept. -/
def skipAtom (bs : Bytes) : Except Fault Bytes := do
  match bs with
  | [] => .error .incomplete
  | b :: rest =>
    if b = octet '"' then skipString (rest.length + 1) rest
    else if b = octet '-' then
      let (_, rest) ← numeral .malformed true rest
      .ok rest
    else if isDigit b then
      let (_, rest) ← numeral .malformed false (b :: rest)
      .ok rest
    else
      let (_, rest) ← atom (b :: rest)
      .ok rest

mutual

/-- Any value, of which nothing is kept. -/
def skipValue : Nat → Bytes → Except Fault Bytes
  | 0, _ => .error .incomplete
  | fuel + 1, bs =>
    match skipBlank bs with
    | [] => .error .incomplete
    | b :: rest =>
      if b = octet '[' then skipItems fuel true rest
      else if b = octet '\x7b' then skipMembers fuel true rest
      else skipAtom (b :: rest)

def skipItems : Nat → Bool → Bytes → Except Fault Bytes
  | 0, _, _ => .error .incomplete
  | fuel + 1, first, bs => do
    match ← nextItem first bs with
    | .done rest => .ok rest
    | .more () rest =>
      let rest ← skipValue fuel rest
      skipItems fuel false rest

def skipMembers : Nat → Bool → Bytes → Except Fault Bytes
  | 0, _, _ => .error .incomplete
  | fuel + 1, first, bs => do
    match ← nextQuote first bs with
    | .done rest => .ok rest
    | .more () rest =>
      let rest ← skipString (rest.length + 1) rest
      let rest ← colon rest
      let rest ← skipValue fuel rest
      skipMembers fuel false rest

end

/-- Nothing but blanks may follow. -/
def finish {α : Type} (read : Except Fault (α × Bytes)) : Except Fault α := do
  let (a, rest) ← read
  if skipBlank rest = [] then .ok a else .error .malformed

/-- How many arrays and objects may stand around one another. -/
def depthLimit : Nat := 127

end Reader

/-- The value that a text is, members as they are written. -/
def Json.parse (bs : Bytes) : Except Fault Json :=
  Reader.finish (Reader.value (Reader.fuelFor bs) Reader.depthLimit bs)

/-- The value that a text is. -/
def Payload.parse (bs : Bytes) : Except Fault Payload := do
  let j ← Json.parse bs
  .ok (Payload.ofJson j)

end KernelLink
