import KernelLink.Json.Decoder
import Mathlib.Data.List.DropRight

namespace KernelLink

theorem bind_eq_ok_iff {ε α β : Type} {x : Except ε α} {f : α → Except ε β} {b : β} :
    (x >>= f) = .ok b ↔ ∃ a, x = .ok a ∧ f a = .ok b := by
  cases x with
  | error fault => simp [bind, Except.bind]
  | ok a => simp [bind, Except.bind]

namespace Reader

/-- What is left when the text goes on. -/
def Next.append {α : Type} (more : Bytes) : Next α → Next α
  | .done rest => .done (rest ++ more)
  | .more part rest => .more part (rest ++ more)

theorem skipBlank_append {bs rest : Bytes} {b : UInt8} (skipped : skipBlank bs = b :: rest) (more : Bytes) :
    skipBlank (bs ++ more) = b :: (rest ++ more) := by
  unfold skipBlank at skipped ⊢
  rw [List.dropWhile_append, skipped]
  rfl

theorem skipBlank_append_of_blank {bs : Bytes} (blank : skipBlank bs = []) (more : Bytes) :
    skipBlank (bs ++ more) = skipBlank more := by
  unfold skipBlank at blank ⊢
  rw [List.dropWhile_append, blank]
  rfl

theorem skipBlank_idem (bs : Bytes) : skipBlank (skipBlank bs) = skipBlank bs :=
  List.dropWhile_idempotent _ _

theorem exists_fuel {fuel fuel' : Nat} (enough : fuel + 1 ≤ fuel') : ∃ left, fuel' = left + 1 ∧ fuel ≤ left :=
  ⟨fuel' - 1, by omega, by omega⟩

theorem fuelFor_le_append (bs more : Bytes) : fuelFor bs ≤ fuelFor (bs ++ more) := by
  rw [fuelFor, fuelFor, List.length_append]
  omega

theorem word_append {es bs rest : Bytes} (read : word es bs = .ok rest) (more : Bytes) :
    word es (bs ++ more) = .ok (rest ++ more) := by
  induction es generalizing bs with
  | nil =>
    cases read
    rfl
  | cons e es ih =>
    cases bs with
    | nil => cases read
    | cons b bs =>
      rw [word] at read
      rw [List.cons_append, word]
      split at read
      · rename_i same
        rw [if_pos same, ih read]
      · cases read

theorem hexFour_append {bs rest : Bytes} {n : Nat} (read : hexFour bs = .ok (n, rest)) (more : Bytes) :
    hexFour (bs ++ more) = .ok (n, rest ++ more) := by
  rcases bs with _ | ⟨a, _ | ⟨b, _ | ⟨c, _ | ⟨d, bs⟩⟩⟩⟩
  case cons.cons.cons.cons =>
    simp only [hexFour, List.cons_append] at read ⊢
    split at read
    · cases read
      rfl
    · cases read
  all_goals cases read

theorem trailingHalf_append {lead : Nat} {bs octets rest : Bytes}
    (read : trailingHalf lead bs = .ok (octets, rest)) (more : Bytes) :
    trailingHalf lead (bs ++ more) = .ok (octets, rest ++ more) := by
  rcases bs with _ | ⟨b, _ | ⟨u, bs⟩⟩
  · cases read
  · rw [trailingHalf] at read
    split at read <;> cases read
  · simp only [trailingHalf, List.cons_append] at read ⊢
    split at read
    · cases read
    · rename_i slash
      rw [if_neg slash]
      split at read
      · cases read
      · rename_i u
        rw [if_neg u]
        obtain ⟨⟨n, after⟩, four, read⟩ := bind_eq_ok_iff.mp read
        rw [hexFour_append four more]
        simp only [bind, Except.bind] at read ⊢
        split at read
        · cases read
        · rename_i inside
          obtain ⟨same, rfl⟩ := Prod.mk.inj (Except.ok.inj read)
          rw [if_neg inside, same]

theorem escape_append {bs octets rest : Bytes} (read : escape bs = .ok (octets, rest)) (more : Bytes) :
    escape (bs ++ more) = .ok (octets, rest ++ more) := by
  cases bs with
  | nil => cases read
  | cons b bs =>
    simp only [escape, List.cons_append] at read ⊢
    iterate 6
      split at read
      · rename_i same
        cases read
        rw [if_pos same]
      rename_i other
      rw [if_neg other]
      clear other
    split at read
    · rename_i u
      rw [if_pos u]
      obtain ⟨⟨n, after⟩, four, read⟩ := bind_eq_ok_iff.mp read
      rw [hexFour_append four more]
      simp only [bind, Except.bind] at read ⊢
      split at read
      · cases read
      · rename_i leading
        rw [if_neg leading]
        split at read
        · rename_i pair
          rw [if_pos pair]
          exact trailingHalf_append read more
        · rename_i single
          cases read
          rw [if_neg single]
    · cases read

/-- A string is read the same with more fuel, and when the text goes on. -/
theorem stringBody_append {fuel fuel' : Nat} {bs octets rest : Bytes} (enough : fuel ≤ fuel')
    (read : stringBody fuel bs = .ok (octets, rest)) (more : Bytes) :
    stringBody fuel' (bs ++ more) = .ok (octets, rest ++ more) := by
  induction fuel generalizing fuel' bs octets with
  | zero => cases read
  | succ fuel ih =>
    obtain ⟨left, rfl, fits⟩ := exists_fuel enough
    cases bs with
    | nil => cases read
    | cons b bs =>
      rw [stringBody] at read
      rw [List.cons_append, stringBody]
      split at read
      · rename_i quote
        cases read
        rw [if_pos quote]
      rename_i notQuote
      rw [if_neg notQuote]
      split at read
      · rename_i slash
        rw [if_pos slash]
        obtain ⟨⟨head, after⟩, escaped, read⟩ := bind_eq_ok_iff.mp read
        obtain ⟨⟨tail, last⟩, body, read⟩ := bind_eq_ok_iff.mp read
        cases read
        simp only [escape_append escaped, ih fits body, bind, Except.bind]
      rename_i notSlash
      rw [if_neg notSlash]
      split at read
      · cases read
      rename_i visible
      rw [if_neg visible]
      obtain ⟨⟨tail, last⟩, body, read⟩ := bind_eq_ok_iff.mp read
      cases read
      simp only [ih fits body, bind, Except.bind]

theorem string_append {bs rest : Bytes} {s : String} (read : string bs = .ok (s, rest)) (more : Bytes) :
    string (bs ++ more) = .ok (s, rest ++ more) := by
  obtain ⟨⟨body, after⟩, octets, read⟩ := bind_eq_ok_iff.mp read
  have enough : bs.length + 1 ≤ (bs ++ more).length + 1 := by simp
  unfold string
  rw [stringBody_append enough octets more]
  simp only [bind, Except.bind] at read ⊢
  split at read
  · cases read
    rfl
  · cases read

/-! A numeral has no end of its own: it is read the same when the text goes on only if something stands
behind it already. -/

theorem digits_append {bs rest : Bytes} {ds : List Nat} (read : digits bs = (ds, rest)) (more : Bytes)
    (ends : rest = [] → more = []) : digits (bs ++ more) = (ds, rest ++ more) := by
  cases read
  by_cases last : bs.dropWhile isDigit = []
  · rw [ends last, List.append_nil, List.append_nil, digits]
  · have parts := congrArg List.length (List.takeWhile_append_dropWhile (p := isDigit) (l := bs))
    have behind : 0 < (bs.dropWhile isDigit).length := List.length_pos_iff.mpr last
    rw [List.length_append] at parts
    unfold digits
    rw [List.takeWhile_append, List.dropWhile_append, if_neg (by omega), if_neg (by simpa using last)]

theorem someDigits_append {short : Fault} {bs rest : Bytes} {ds : List Nat}
    (read : someDigits short bs = .ok (ds, rest)) (more : Bytes) (ends : rest = [] → more = []) :
    someDigits short (bs ++ more) = .ok (ds, rest ++ more) := by
  unfold someDigits at read ⊢
  cases spelled : digits bs with
  | mk ds' rest' =>
    rw [spelled] at read
    cases ds' with
    | nil => cases rest' <;> cases read
    | cons d ds' =>
      cases read
      rw [digits_append spelled more ends]

theorem wholeDigits_append {short : Fault} {bs rest : Bytes} {ds : List Nat}
    (read : wholeDigits short bs = .ok (ds, rest)) (more : Bytes) (ends : rest = [] → more = []) :
    wholeDigits short (bs ++ more) = .ok (ds, rest ++ more) := by
  obtain ⟨⟨ds', rest'⟩, spelled, read⟩ := bind_eq_ok_iff.mp read
  simp only at read
  split at read
  · cases read
  · cases read
    unfold wholeDigits
    rw [someDigits_append spelled more ends]
    simp only [bind, Except.bind]

theorem fraction_append {short : Fault} {bs rest : Bytes} {part : Option (List Nat)}
    (read : fraction short bs = .ok (part, rest)) (more : Bytes) (ends : rest = [] → more = []) :
    fraction short (bs ++ more) = .ok (part, rest ++ more) := by
  cases bs with
  | nil =>
    cases read
    rw [ends rfl]
    rfl
  | cons b bs =>
    rw [fraction] at read
    rw [List.cons_append, fraction]
    split at read
    · rename_i point
      obtain ⟨⟨ds, after⟩, spelled, read⟩ := bind_eq_ok_iff.mp read
      cases read
      rw [if_pos point, someDigits_append spelled more ends]
      rfl
    · rename_i other
      cases read
      rw [if_neg other]
      rfl

theorem exponent_append {short : Fault} {bs rest : Bytes} {part : Option (Bool × List Nat)}
    (read : exponent short bs = .ok (part, rest)) (more : Bytes) (ends : rest = [] → more = []) :
    exponent short (bs ++ more) = .ok (part, rest ++ more) := by
  cases bs with
  | nil =>
    cases read
    rw [ends rfl]
    rfl
  | cons b bs =>
    unfold exponent at read ⊢
    simp only [List.cons_append] at read ⊢
    split at read
    · rename_i marked
      rw [if_pos marked]
      obtain ⟨⟨ds, after⟩, spelled, read⟩ := bind_eq_ok_iff.mp read
      cases read
      cases bs with
      | nil => cases spelled
      | cons s bs =>
        simp only [List.cons_append] at spelled ⊢
        split at spelled
        · rename_i plus
          simp only [if_pos plus, someDigits_append spelled more ends, bind, Except.bind]
        rename_i unsigned
        split at spelled
        · rename_i minus
          simp only [if_neg unsigned, if_pos minus, someDigits_append spelled more ends, bind, Except.bind]
        · rename_i digit
          have onward := someDigits_append spelled more ends
          simp only [List.cons_append] at onward
          simp only [if_neg unsigned, if_neg digit, onward, bind, Except.bind]
    · rename_i other
      cases read
      rw [if_neg other]
      rfl

theorem numeral_append {short : Fault} {negative : Bool} {bs rest : Bytes} {n : Numeral}
    (read : numeral short negative bs = .ok (n, rest)) (more : Bytes) (ends : rest = [] → more = []) :
    numeral short negative (bs ++ more) = .ok (n, rest ++ more) := by
  obtain ⟨⟨whole, afterWhole⟩, readWhole, read⟩ := bind_eq_ok_iff.mp read
  obtain ⟨⟨part, afterPart⟩, readPart, read⟩ := bind_eq_ok_iff.mp read
  obtain ⟨⟨power, afterPower⟩, readPower, read⟩ := bind_eq_ok_iff.mp read
  cases read
  -- where one part of the numeral leaves nothing, so do the parts behind it
  have endsPart : afterPart = [] → more = [] := by
    rintro rfl
    cases readPower
    exact ends rfl
  have endsWhole : afterWhole = [] → more = [] := by
    rintro rfl
    cases readPart
    exact endsPart rfl
  unfold numeral
  simp only [wholeDigits_append readWhole more endsWhole, fraction_append readPart more endsPart,
    exponent_append readPower more ends, bind, Except.bind]

theorem number_append {bs rest : Bytes} {n : Number} (read : number bs = .ok (n, rest)) (more : Bytes)
    (ends : rest = [] → more = []) : number (bs ++ more) = .ok (n, rest ++ more) := by
  cases bs with
  | nil => cases read
  | cons b bs =>
    unfold number at read ⊢
    simp only [List.cons_append] at read ⊢
    split at read
    · rename_i minus
      obtain ⟨⟨spelled, after⟩, readNumeral, read⟩ := bind_eq_ok_iff.mp read
      simp only at read
      split at read
      · rename_i value
        cases read
        simp only [if_pos minus, numeral_append readNumeral more ends, bind, Except.bind, value]
      · cases read
    · rename_i digit
      obtain ⟨⟨spelled, after⟩, readNumeral, read⟩ := bind_eq_ok_iff.mp read
      simp only at read
      split at read
      · rename_i value
        cases read
        have onward := numeral_append readNumeral more ends
        rw [List.cons_append] at onward
        simp only [if_neg digit, onward, bind, Except.bind, value]
      · cases read

end Reader

/-- The value is a number, and not one inside an array or an object. -/
def Json.IsNumber (j : Json) : Prop := ∃ n, j = .number n

namespace Reader

/-- Whether a numeral begins with this octet. -/
def Numeric (b : UInt8) : Prop := b = octet '-' ∨ isDigit b = true

theorem atom_append {bs rest : Bytes} {j : Json} (read : atom bs = .ok (j, rest)) (more : Bytes)
    (ends : j.IsNumber → rest = [] → more = []) : atom (bs ++ more) = .ok (j, rest ++ more) := by
  cases bs with
  | nil => cases read
  | cons b bs =>
    unfold atom at read ⊢
    simp only [List.cons_append] at read ⊢
    iterate 3
      split at read
      · rename_i same
        obtain ⟨after, spelled, read⟩ := bind_eq_ok_iff.mp read
        cases read
        rw [if_pos same, word_append spelled more]
        rfl
      rename_i other
      rw [if_neg other]
      clear other
    split at read
    · rename_i quote
      obtain ⟨⟨s, after⟩, spelled, read⟩ := bind_eq_ok_iff.mp read
      cases read
      rw [if_pos quote, string_append spelled more]
      rfl
    rename_i notQuote
    rw [if_neg notQuote]
    split at read
    · rename_i numeric
      obtain ⟨⟨n, after⟩, spelled, read⟩ := bind_eq_ok_iff.mp read
      cases read
      have onward := number_append spelled more (ends ⟨n, rfl⟩)
      rw [List.cons_append] at onward
      rw [if_pos numeric, onward]
      rfl
    · cases read

/-- The first octet shows whether a value is a number. -/
theorem isNumber_iff_of_atom {b : UInt8} {bs rest : Bytes} {j : Json} (read : atom (b :: bs) = .ok (j, rest)) :
    j.IsNumber ↔ Numeric b := by
  have neither {j : Json} {b : UInt8} (other : ¬j.IsNumber) (plain : ¬Numeric b) : j.IsNumber ↔ Numeric b :=
    ⟨fun number => absurd number other, fun numeric => absurd numeric plain⟩
  unfold atom at read
  simp only at read
  iterate 3
    split at read
    · rename_i same
      obtain ⟨after, -, read⟩ := bind_eq_ok_iff.mp read
      cases read
      subst same
      exact neither (by simp [Json.IsNumber]) (by unfold Numeric; decide)
  split at read
  · rename_i same
    obtain ⟨⟨s, after⟩, -, read⟩ := bind_eq_ok_iff.mp read
    cases read
    subst same
    exact neither (by simp [Json.IsNumber]) (by unfold Numeric; decide)
  split at read
  · rename_i numeric
    obtain ⟨⟨n, after⟩, -, read⟩ := bind_eq_ok_iff.mp read
    cases read
    exact ⟨fun _ => numeric, fun _ => ⟨n, rfl⟩⟩
  · cases read

theorem nextItem_append {first : Bool} {bs : Bytes} {next : Next Unit} (step : nextItem first bs = .ok next)
    (more : Bytes) : nextItem first (bs ++ more) = .ok (next.append more) := by
  unfold nextItem at step ⊢
  cases skipped : skipBlank bs with
  | nil =>
    rw [skipped] at step
    cases step
  | cons b tail =>
    rw [skipped] at step
    rw [skipBlank_append skipped more]
    simp only at step ⊢
    split at step
    · rename_i bracket
      cases step
      rw [if_pos bracket]
      rfl
    rename_i bracket
    rw [if_neg bracket]
    split at step
    · rename_i begins
      cases step
      rw [if_pos begins]
      rfl
    rename_i begins
    rw [if_neg begins]
    split at step
    · rename_i comma
      rw [if_pos comma]
      cases behind : skipBlank tail with
      | nil =>
        rw [behind] at step
        cases step
      | cons c later =>
        rw [behind] at step
        rw [skipBlank_append behind more]
        simp only at step ⊢
        split at step
        · cases step
        · rename_i item
          cases step
          rw [if_neg item]
          rfl
    · cases step

theorem nextQuote_append {first : Bool} {bs : Bytes} {next : Next Unit} (step : nextQuote first bs = .ok next)
    (more : Bytes) : nextQuote first (bs ++ more) = .ok (next.append more) := by
  unfold nextQuote at step ⊢
  cases skipped : skipBlank bs with
  | nil =>
    rw [skipped] at step
    cases step
  | cons b tail =>
    rw [skipped] at step
    rw [skipBlank_append skipped more]
    simp only at step ⊢
    split at step
    · rename_i brace
      cases step
      rw [if_pos brace]
      rfl
    rename_i brace
    rw [if_neg brace]
    split at step
    · rename_i begins
      rw [if_pos begins]
      split at step
      · rename_i quote
        cases step
        rw [if_pos quote]
        rfl
      · cases step
    rename_i begins
    rw [if_neg begins]
    split at step
    · rename_i comma
      rw [if_pos comma]
      cases behind : skipBlank tail with
      | nil =>
        rw [behind] at step
        cases step
      | cons c later =>
        rw [behind] at step
        rw [skipBlank_append behind more]
        simp only at step ⊢
        split at step
        · rename_i quote
          cases step
          rw [if_pos quote]
          rfl
        · cases step
    · cases step

theorem nextKey_append {first : Bool} {bs : Bytes} {next : Next String} (step : nextKey first bs = .ok next)
    (more : Bytes) : nextKey first (bs ++ more) = .ok (next.append more) := by
  obtain ⟨quote, opened, step⟩ := bind_eq_ok_iff.mp step
  unfold nextKey
  rw [nextQuote_append opened more]
  cases quote with
  | done rest =>
    cases step
    rfl
  | more _ rest =>
    obtain ⟨⟨key, after⟩, spelled, step⟩ := bind_eq_ok_iff.mp step
    cases step
    simp only [Next.append, string_append spelled more, bind, Except.bind]

theorem colon_append {bs rest : Bytes} (read : colon bs = .ok rest) (more : Bytes) :
    colon (bs ++ more) = .ok (rest ++ more) := by
  unfold colon at read ⊢
  cases skipped : skipBlank bs with
  | nil =>
    rw [skipped] at read
    cases read
  | cons b tail =>
    rw [skipped] at read
    rw [skipBlank_append skipped more]
    simp only at read ⊢
    split at read
    · rename_i here
      cases read
      rw [if_pos here]
    · cases read

/-- Before an array or an object is closed, something is left of the text. -/
theorem ne_nil_of_items {fuel room : Nat} {first : Bool} {bs rest : Bytes} {js : List Json}
    (read : items fuel room first bs = .ok (js, rest)) : bs ≠ [] := by
  rintro rfl
  cases fuel <;> cases read

theorem ne_nil_of_members {fuel room : Nat} {first : Bool} {bs rest : Bytes} {ms : List (String × Json)}
    (read : members fuel room first bs = .ok (ms, rest)) : bs ≠ [] := by
  rintro rfl
  cases fuel <;> cases read

mutual

/-- A value is read the same with more fuel, and when the text goes on. Behind a number that ends the text
nothing may be added. -/
theorem value_append : (fuel : Nat) → ∀ {fuel' room : Nat} {bs rest : Bytes} {j : Json}, fuel ≤ fuel' →
    value fuel room bs = .ok (j, rest) → ∀ (more : Bytes), (j.IsNumber → rest = [] → more = []) →
    value fuel' room (bs ++ more) = .ok (j, rest ++ more)
  | 0, _, _, _, _, _, _, read, _, _ => by cases read
  | fuel + 1, fuel', room, bs, rest, j, enough, read, more, ends => by
    obtain ⟨left, rfl, fits⟩ := exists_fuel enough
    unfold value at read ⊢
    cases skipped : skipBlank bs with
    | nil =>
      rw [skipped] at read
      cases read
    | cons b tail =>
      rw [skipped] at read
      rw [skipBlank_append skipped more]
      simp only at read ⊢
      split at read
      · rename_i bracket
        rw [if_pos bracket]
        split at read
        · cases read
        rename_i roomy
        obtain ⟨⟨js, after⟩, inner, read⟩ := bind_eq_ok_iff.mp read
        cases read
        rw [if_neg roomy, items_append fuel fits inner more]
        rfl
      rename_i bracket
      rw [if_neg bracket]
      split at read
      · rename_i brace
        rw [if_pos brace]
        split at read
        · cases read
        rename_i roomy
        obtain ⟨⟨ms, after⟩, inner, read⟩ := bind_eq_ok_iff.mp read
        cases read
        rw [if_neg roomy, members_append fuel fits inner more]
        rfl
      · rename_i brace
        rw [if_neg brace]
        exact atom_append read more ends

theorem items_append : (fuel : Nat) → ∀ {fuel' room : Nat} {first : Bool} {bs rest : Bytes} {js : List Json},
    fuel ≤ fuel' → items fuel room first bs = .ok (js, rest) → ∀ more : Bytes,
    items fuel' room first (bs ++ more) = .ok (js, rest ++ more)
  | 0, _, _, _, _, _, _, _, read, _ => by cases read
  | fuel + 1, fuel', room, first, bs, rest, js, enough, read, more => by
    obtain ⟨left, rfl, fits⟩ := exists_fuel enough
    rw [items] at read ⊢
    obtain ⟨next, step, read⟩ := bind_eq_ok_iff.mp read
    rw [nextItem_append step more]
    cases next with
    | done rest =>
      cases read
      rfl
    | more _ begun =>
      obtain ⟨⟨j, behind⟩, one, read⟩ := bind_eq_ok_iff.mp read
      obtain ⟨⟨others, last⟩, inner, read⟩ := bind_eq_ok_iff.mp read
      cases read
      have onward := value_append fuel fits one more fun _ nothing =>
        absurd nothing (ne_nil_of_items inner)
      simp only [Next.append, onward, items_append fuel fits inner more, bind, Except.bind]

theorem members_append : (fuel : Nat) → ∀ {fuel' room : Nat} {first : Bool} {bs rest : Bytes}
    {ms : List (String × Json)}, fuel ≤ fuel' → members fuel room first bs = .ok (ms, rest) → ∀ more : Bytes,
    members fuel' room first (bs ++ more) = .ok (ms, rest ++ more)
  | 0, _, _, _, _, _, _, _, read, _ => by cases read
  | fuel + 1, fuel', room, first, bs, rest, ms, enough, read, more => by
    obtain ⟨left, rfl, fits⟩ := exists_fuel enough
    rw [members] at read ⊢
    obtain ⟨next, step, read⟩ := bind_eq_ok_iff.mp read
    rw [nextKey_append step more]
    cases next with
    | done rest =>
      cases read
      rfl
    | more key begun =>
      obtain ⟨begun, colon, read⟩ := bind_eq_ok_iff.mp read
      obtain ⟨⟨j, behind⟩, one, read⟩ := bind_eq_ok_iff.mp read
      obtain ⟨⟨others, last⟩, inner, read⟩ := bind_eq_ok_iff.mp read
      cases read
      have onward := value_append fuel fits one more fun _ nothing =>
        absurd nothing (ne_nil_of_members inner)
      simp only [Next.append, colon_append colon more, onward, members_append fuel fits inner more, bind,
        Except.bind]

end

end Reader
end KernelLink
