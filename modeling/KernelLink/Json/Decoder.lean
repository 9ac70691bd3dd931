import KernelLink.Json.Reader

namespace KernelLink

/-- How the values of a type are read, from a text that may hold `room` nested arrays and objects,
and how they are taken from JSON that has been read already. -/
structure Decoder (α : Type) where
  read (room : Nat) : Bytes → Except Fault (α × Bytes)
  take : Json → Except Fault α

namespace Decoder

/-- The value that a whole text stands for. -/
def parse {α : Type} (d : Decoder α) (bs : Bytes) : Except Fault α :=
  Reader.finish (d.read Reader.depthLimit bs)

def map {α β : Type} (f : α → β) (d : Decoder α) : Decoder β where
  read room bs := do
    let (a, rest) ← d.read room bs
    .ok (f a, rest)
  take j := do
    let a ← d.take j
    .ok (f a)

/-- Any value at all. -/
def payload : Decoder Payload where
  read room bs := do
    let (j, rest) ← Reader.value (Reader.fuelFor bs) room bs
    .ok (Payload.ofJson j, rest)
  take j := .ok (Payload.ofJson j)

/-- A value that is no array and no object, judged by what it is. -/
def scalar {α : Type} (wanted : String) (first : UInt8 → Bool) (judge : Json → Except Fault α) :
    Decoder α where
  read _ bs := do
    match Reader.skipBlank bs with
    | [] => .error .incomplete
    | b :: rest =>
      if first b then
        let (j, rest) ← Reader.atom (b :: rest)
        let a ← judge j
        .ok (a, rest)
      else .error (Reader.mismatch wanted (b :: rest))
  take := judge

def text : Decoder String :=
  scalar "a string" (· = octet '"') fun
    | .text s => .ok s
    | j => .error (.mismatch j.found "a string")

def boolean : Decoder Bool :=
  scalar "a boolean" (fun b => b = octet 't' || b = octet 'f') fun
    | .bool b => .ok b
    | j => .error (.mismatch j.found "a boolean")

/-- Nothing but null. -/
def unit : Decoder Unit :=
  scalar "unit" (· = octet 'n') fun
    | .null => .ok ()
    | j => .error (.mismatch j.found "unit")

/-- An integer between two bounds. -/
def integer (low high : Int) (wanted : String) : Decoder Int :=
  scalar wanted (fun b => b = octet '-' || Reader.isDigit b) fun
    | .number (.integer i) =>
      if low ≤ i ∧ i ≤ high then .ok i else .error (.outOfRange i wanted)
    | j => .error (.mismatch j.found wanted)

/-- A port number. -/
def port : Decoder Nat := (integer 0 65535 "u16").map Int.toNat

/-- Null, or a value. -/
def optional {α : Type} (d : Decoder α) : Decoder (Option α) where
  read room bs := do
    match Reader.skipBlank bs with
    | [] => .error .incomplete
    | b :: rest =>
      if b = octet 'n' then
        let (_, rest) ← Reader.atom (b :: rest)
        .ok (none, rest)
      else
        let (a, rest) ← d.read room (b :: rest)
        .ok (some a, rest)
  take
    | .null => .ok none
    | j => do
      let a ← d.take j
      .ok (some a)

/-- The items of an array up to its closing bracket. -/
def readItems {α : Type} (d : Decoder α) (room : Nat) :
    Nat → Bool → Bytes → Except Fault (List α × Bytes)
  | 0, _, _ => .error .incomplete
  | fuel + 1, first, bs => do
    match ← Reader.nextItem first bs with
    | .done rest => .ok ([], rest)
    | .more () rest =>
      let (a, rest) ← d.read room rest
      let (as, rest) ← readItems d room fuel false rest
      .ok (a :: as, rest)

/-- An array whose items are all of one type. -/
def list {α : Type} (d : Decoder α) : Decoder (List α) where
  read room bs := do
    match Reader.skipBlank bs with
    | [] => .error .incomplete
    | b :: rest =>
      if b ≠ octet '[' then .error (Reader.mismatch "a sequence" (b :: rest))
      else if room = 0 then .error .malformed
      else readItems d (room - 1) (rest.length + 1) true rest
  take
    | .array js => js.mapM d.take
    | j => .error (.mismatch j.found "a sequence")

/-- The members of an object up to its closing brace. -/
def readMembers {α : Type} (d : Decoder α) (room : Nat) :
    Nat → Bool → Bytes → Except Fault (List (String × α) × Bytes)
  | 0, _, _ => .error .incomplete
  | fuel + 1, first, bs => do
    match ← Reader.nextKey first bs with
    | .done rest => .ok ([], rest)
    | .more key rest =>
      let rest ← Reader.colon rest
      let (a, rest) ← d.read room rest
      let (as, rest) ← readMembers d room fuel false rest
      .ok ((key, a) :: as, rest)

/-- An object whose members are all of one type, in the order in which they are written. -/
def members {α : Type} (d : Decoder α) : Decoder (List (String × α)) where
  read room bs := do
    match Reader.skipBlank bs with
    | [] => .error .incomplete
    | b :: rest =>
      if b ≠ octet '\x7b' then .error (Reader.mismatch "a map" (b :: rest))
      else if room = 0 then .error .malformed
      else readMembers d (room - 1) (rest.length + 1) true rest
  take
    | .object ms => ms.mapM fun (key, j) => do
      let a ← d.take j
      .ok (key, a)
    | j => .error (.mismatch j.found "a map")

/-- Any object. -/
def object : Decoder Payload :=
  (members payload).map fun ms => .ofJson (.object (ms.map fun (key, p) => (key, p.json)))

/-- One of several names. -/
def named {α : Type} (known : List (String × α)) (name : String) : Except Fault α :=
  match known.lookup name with
  | some a => .ok a
  | none => .error (.unknownVariant name (known.map Prod.fst))

/-- A name as a string, or as the one key of an object whose value is null. -/
def variant {α : Type} (known : List (String × α)) : Decoder α where
  read room bs := do
    match Reader.skipBlank bs with
    | [] => .error .incomplete
    | b :: rest =>
      if b = octet '"' then
        let (name, rest) ← Reader.string rest
        let a ← named known name
        .ok (a, rest)
      else if b = octet '\x7b' then
        if room = 0 then .error .malformed
        else
          match Reader.skipBlank rest with
          | [] => .error .incomplete
          | c :: rest =>
            if c ≠ octet '"' then .error (Reader.mismatch "variant identifier" (c :: rest))
            else
              let (name, rest) ← Reader.string rest
              let a ← named known name
              let rest ← Reader.colon rest
              let ((), rest) ← unit.read (room - 1) rest
              match Reader.skipBlank rest with
              | [] => .error .incomplete
              | e :: rest => if e = octet '\x7d' then .ok (a, rest) else .error .malformed
      else .error .malformed
  take
    | .text name => named known name
    | .object [(name, j)] => do
      let a ← named known name
      let () ← unit.take j
      .ok a
    | j => .error (.mismatch j.found "string or map")

end Decoder

/-- What becomes of a field that is not there. -/
inductive Presence where
  /-- It has to be there. -/
  | required
  /-- An object may leave it out, an array may not. -/
  | optional
  | defaulted
  deriving DecidableEq, Repr

/-- A field of a record: its name, and how its value enters a record that is being read. -/
structure Field (σ : Type) where
  name : String
  presence : Presence
  read (s : σ) (room : Nat) : Bytes → Except Fault (σ × Bytes)
  take (s : σ) : Json → Except Fault σ

/-- A field whose value a decoder reads. -/
def Field.of {σ α : Type} (name : String) (presence : Presence) (d : Decoder α)
    (put : σ → α → σ) : Field σ where
  name := name
  presence := presence
  read s room bs := do
    let (a, rest) ← d.read room bs
    .ok (put s a, rest)
  take s j := do
    let a ← d.take j
    .ok (put s a)

/-- A record: its fields in the order of declaration, and the record whose fields all have their
defaults. It is an object, or an array of its fields. -/
structure Record (σ : Type) where
  title : String
  fields : List (Field σ)
  blank : σ

namespace Record

variable {σ : Type}

def wanted (r : Record σ) : String := "struct " ++ r.title

/-- What an array that is too short was meant to be. -/
def sizeWanted (r : Record σ) : String :=
  r.wanted ++ " with " ++ toString r.fields.length ++
    (if r.fields.length = 1 then " element" else " elements")

/-- An array that ends before the given fields, the first of which stands at `index`. -/
def endsBefore (r : Record σ) (fields : List (Field σ)) (index : Nat) (s : σ) : Except Fault σ :=
  match fields.findIdx? fun f => f.presence ≠ .defaulted with
  | some i => .error (.length (index + i) r.sizeWanted)
  | none => .ok s

/-- An array holds nothing behind the last field. -/
def closing (bs : Bytes) : Except Fault Bytes :=
  match Reader.skipBlank bs with
  | [] => .error .incomplete
  | b :: rest => if b = octet ']' then .ok rest else .error .malformed

def readArray (r : Record σ) (room : Nat) :
    List (Field σ) → Nat → Bool → σ → Bytes → Except Fault (σ × Bytes)
  | [], _, _, s, bs => do
    let rest ← closing bs
    .ok (s, rest)
  | f :: fields, index, first, s, bs => do
    match ← Reader.nextItem first bs with
    | .done rest =>
      let s ← r.endsBefore (f :: fields) index s
      .ok (s, rest)
    | .more () rest =>
      let (s, rest) ← f.read s room rest
      readArray r room fields (index + 1) false s rest

/-- The first required field that is not among those seen. -/
def missing (r : Record σ) (seen : List String) : Option (Field σ) :=
  r.fields.find? fun f => f.presence = .required && !seen.contains f.name

def readObject (r : Record σ) (room : Nat) :
    Nat → List String → Bool → σ → Bytes → Except Fault (σ × Bytes)
  | 0, _, _, _, _ => .error .incomplete
  | fuel + 1, seen, first, s, bs => do
    match ← Reader.nextKey first bs with
    | .done rest =>
      match r.missing seen with
      | some f => .error (.missing f.name)
      | none => .ok (s, rest)
    | .more key rest =>
      match r.fields.find? (·.name = key) with
      | some f =>
        if seen.contains key then .error (.duplicate key)
        else
          let rest ← Reader.colon rest
          let (s, rest) ← f.read s room rest
          readObject r room fuel (key :: seen) false s rest
      | none =>
        let rest ← Reader.colon rest
        let rest ← Reader.skipValue (Reader.fuelFor rest) rest
        readObject r room fuel seen false s rest

def takeArray (r : Record σ) (total : Nat) : List (Field σ) → Nat → σ → List Json → Except Fault σ
  | [], _, s, [] => .ok s
  | [], _, _, _ :: _ => .error (.length total "fewer elements in array")
  | f :: fields, index, s, [] => r.endsBefore (f :: fields) index s
  | f :: fields, index, s, j :: js => do
    let s ← f.take s j
    takeArray r total fields (index + 1) s js

def takeMembers (r : Record σ) : σ → List (String × Json) → Except Fault σ
  | s, [] => .ok s
  | s, (key, j) :: ms =>
    match r.fields.find? (·.name = key) with
    | some f => do
      let s ← f.take s j
      takeMembers r s ms
    | none => takeMembers r s ms

def decoder (r : Record σ) : Decoder σ where
  read room bs := do
    match Reader.skipBlank bs with
    | [] => .error .incomplete
    | b :: rest =>
      if b = octet '[' then
        if room = 0 then .error .malformed
        else readArray r (room - 1) r.fields 0 true r.blank rest
      else if b = octet '\x7b' then
        if room = 0 then .error .malformed
        else readObject r (room - 1) (rest.length + 1) [] true r.blank rest
      else .error (Reader.mismatch r.wanted (b :: rest))
  take
    | .array js => takeArray r js.length r.fields 0 r.blank js
    | .object ms => do
      let s ← takeMembers r r.blank ms
      match r.missing (ms.map Prod.fst) with
      | some f => .error (.missing f.name)
      | none => .ok s
    | j => .error (.mismatch j.found r.wanted)

end Record
end KernelLink
