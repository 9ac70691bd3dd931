import KernelLink.Proofs.Json.Extension

namespace KernelLink
namespace Reader

theorem skipEscape_append {bs rest : Bytes} (read : skipEscape bs = .ok rest) (more : Bytes) :
    skipEscape (bs ++ more) = .ok (rest ++ more) := by
  cases bs with
  | nil => cases read
  | cons b bs =>
    simp only [skipEscape, List.cons_append] at read ⊢
    split at read
    · rename_i u
      obtain ⟨⟨n, after⟩, four, read⟩ := bind_eq_ok_iff.mp read
      cases read
      rw [if_pos u, hexFour_append four more]
      rfl
    rename_i notU
    rw [if_neg notU]
    split at read
    · rename_i known
      cases read
      rw [if_pos known]
    · cases read

theorem skipString_append {fuel fuel' : Nat} {bs rest : Bytes} (enough : fuel ≤ fuel')
    (read : skipString fuel bs = .ok rest) (more : Bytes) : skipString fuel' (bs ++ more) = .ok (rest ++ more) := by
  induction fuel generalizing fuel' bs with
  | zero => cases read
  | succ fuel ih =>
    obtain ⟨left, rfl, fits⟩ := exists_fuel enough
    cases bs with
    | nil => cases read
    | cons b bs =>
      rw [skipString] at read
      rw [List.cons_append, skipString]
      split at read
      · rename_i quote
        cases read
        rw [if_pos quote]
      rename_i notQuote
      rw [if_neg notQuote]
      split at read
      · rename_i slash
        obtain ⟨after, escaped, read⟩ := bind_eq_ok_iff.mp read
        rw [if_pos slash, skipEscape_append escaped more]
        exact ih fits read
      rename_i notSlash
      rw [if_neg notSlash]
      split at read
      · cases read
      · rename_i visible
        rw [if_neg visible]
        exact ih fits read

theorem skipAtom_append {bs rest : Bytes} (read : skipAtom bs = .ok rest) (more : Bytes)
    (ends : rest = [] → more = []) : skipAtom (bs ++ more) = .ok (rest ++ more) := by
  cases bs with
  | nil => cases read
  | cons b bs =>
    simp only [skipAtom, List.cons_append] at read ⊢
    split at read
    · rename_i quote
      rw [if_pos quote]
      exact skipString_append (by simp) read more
    rename_i notQuote
    rw [if_neg notQuote]
    split at read
    · rename_i minus
      obtain ⟨⟨n, after⟩, spelled, read⟩ := bind_eq_ok_iff.mp read
      cases read
      rw [if_pos minus, numeral_append spelled more ends]
      rfl
    rename_i notMinus
    rw [if_neg notMinus]
    split at read
    · rename_i digit
      obtain ⟨⟨n, after⟩, spelled, read⟩ := bind_eq_ok_iff.mp read
      cases read
      have onward := numeral_append spelled more ends
      rw [List.cons_append] at onward
      rw [if_pos digit, onward]
      rfl
    · rename_i notDigit
      obtain ⟨⟨j, after⟩, spelled, read⟩ := bind_eq_ok_iff.mp read
      cases read
      have onward := atom_append spelled more fun _ => ends
      rw [List.cons_append] at onward
      rw [if_neg notDigit, onward]
      rfl

theorem ne_nil_of_skipItems {fuel : Nat} {first : Bool} {bs rest : Bytes}
    (read : skipItems fuel first bs = .ok rest) : bs ≠ [] := by
  rintro rfl
  cases fuel <;> cases read

theorem ne_nil_of_skipMembers {fuel : Nat} {first : Bool} {bs rest : Bytes}
    (read : skipMembers fuel first bs = .ok rest) : bs ≠ [] := by
  rintro rfl
  cases fuel <;> cases read

mutual

theorem skipValue_append : (fuel : Nat) → ∀ {fuel' : Nat} {bs rest : Bytes}, fuel ≤ fuel' →
    skipValue fuel bs = .ok rest → ∀ (more : Bytes), (rest = [] → more = []) →
    skipValue fuel' (bs ++ more) = .ok (rest ++ more)
  | 0, _, _, _, _, read, _, _ => by cases read
  | fuel + 1, fuel', bs, rest, enough, read, more, ends => by
    obtain ⟨left, rfl, fits⟩ := exists_fuel enough
    unfold skipValue at read ⊢
    cases skipped : skipBlank bs with
    | nil =>
      rw [skipped] at read
      cases read
    | cons b tail =>
      rw [skipped] at read
      rw [skipBlank_append skipped more]
      simp only at read ⊢
      split at read
      · rename_i bracket
        rw [if_pos bracket]
        exact skipItems_append fuel fits read more
      rename_i bracket
      rw [if_neg bracket]
      split at read
      · rename_i brace
        rw [if_pos brace]
        exact skipMembers_append fuel fits read more
      · rename_i brace
        rw [if_neg brace]
        exact skipAtom_append read more ends

theorem skipItems_append : (fuel : Nat) → ∀ {fuel' : Nat} {first : Bool} {bs rest : Bytes},
    fuel ≤ fuel' → skipItems fuel first bs = .ok rest → ∀ more : Bytes,
    skipItems fuel' first (bs ++ more) = .ok (rest ++ more)
  | 0, _, _, _, _, _, read, _ => by cases read
  | fuel + 1, fuel', first, bs, rest, enough, read, more => by
    obtain ⟨left, rfl, fits⟩ := exists_fuel enough
    rw [skipItems] at read ⊢
    obtain ⟨next, step, read⟩ := bind_eq_ok_iff.mp read
    rw [nextItem_append step more]
    cases next with
    | done rest =>
      cases read
      rfl
    | more _ begun =>
      obtain ⟨behind, one, inner⟩ := bind_eq_ok_iff.mp read
      have onward := skipValue_append fuel fits one more fun nothing =>
        absurd nothing (ne_nil_of_skipItems inner)
      simp only [Next.append, onward, skipItems_append fuel fits inner more, bind, Except.bind]

theorem skipMembers_append : (fuel : Nat) → ∀ {fuel' : Nat} {first : Bool} {bs rest : Bytes},
    fuel ≤ fuel' → skipMembers fuel first bs = .ok rest → ∀ more : Bytes,
    skipMembers fuel' first (bs ++ more) = .ok (rest ++ more)
  | 0, _, _, _, _, _, read, _ => by cases read
  | fuel + 1, fuel', first, bs, rest, enough, read, more => by
    obtain ⟨left, rfl, fits⟩ := exists_fuel enough
    rw [skipMembers] at read ⊢
    obtain ⟨next, step, read⟩ := bind_eq_ok_iff.mp read
    rw [nextQuote_append step more]
    cases next with
    | done rest =>
      cases read
      rfl
    | more _ begun =>
      obtain ⟨named, key, read⟩ := bind_eq_ok_iff.mp read
      obtain ⟨value, colon, read⟩ := bind_eq_ok_iff.mp read
      obtain ⟨behind, one, inner⟩ := bind_eq_ok_iff.mp read
      have longer : begun.length + 1 ≤ (begun ++ more).length + 1 := by simp
      have onward := skipValue_append fuel fits one more fun nothing =>
        absurd nothing (ne_nil_of_skipMembers inner)
      simp only [Next.append, skipString_append longer key more, colon_append colon more, onward,
        skipMembers_append fuel fits inner more, bind, Except.bind]

end

end Reader

/-- A field takes the same from a text that goes on. -/
structure Field.Closed {σ : Type} (f : Field σ) : Prop where
  append {s s' : σ} {room : Nat} {bs rest : Bytes} (read : f.read s room bs = .ok (s', rest)) (more : Bytes) :
    f.read s room (bs ++ more) = .ok (s', rest ++ more)

theorem Decoder.text_append {room : Nat} {bs rest : Bytes} {s : String}
    (read : Decoder.text.read room bs = .ok (s, rest)) (more : Bytes) :
    Decoder.text.read room (bs ++ more) = .ok (s, rest ++ more) := by
  unfold text scalar at read ⊢
  simp only at read ⊢
  cases skipped : Reader.skipBlank bs with
  | nil =>
    rw [skipped] at read
    cases read
  | cons b tail =>
    rw [skipped] at read
    rw [Reader.skipBlank_append skipped more]
    simp only at read ⊢
    split at read
    · rename_i quote
      rw [if_pos quote]
      obtain ⟨⟨j, after⟩, spelled, read⟩ := bind_eq_ok_iff.mp read
      obtain ⟨text, judged, read⟩ := bind_eq_ok_iff.mp read
      cases read
      have onward := Reader.atom_append spelled more fun number => by
        obtain ⟨n, rfl⟩ := number
        cases judged
      rw [List.cons_append] at onward
      simp only [onward, judged, bind, Except.bind]
    · cases read

theorem Field.closed_text {σ : Type} (name : String) (presence : Presence) (put : σ → String → σ) :
    (Field.of name presence .text put).Closed := by
  refine ⟨fun read more => ?_⟩
  obtain ⟨⟨text, after⟩, spelled, read⟩ := bind_eq_ok_iff.mp read
  cases read
  simp only [Field.of, Decoder.text_append spelled more, bind, Except.bind]

namespace Record

variable {σ : Type} {r : Record σ}

theorem closing_append {bs rest : Bytes} (read : closing bs = .ok rest) (more : Bytes) :
    closing (bs ++ more) = .ok (rest ++ more) := by
  unfold closing at read ⊢
  cases skipped : Reader.skipBlank bs with
  | nil =>
    rw [skipped] at read
    cases read
  | cons b tail =>
    rw [skipped] at read
    rw [Reader.skipBlank_append skipped more]
    simp only at read ⊢
    split at read
    · rename_i bracket
      cases read
      rw [if_pos bracket]
    · cases read

theorem readArray_append {room : Nat} {fields : List (Field σ)} (closed : ∀ f ∈ fields, f.Closed) {index : Nat}
    {first : Bool} {s s' : σ} {bs rest : Bytes} (read : r.readArray room fields index first s bs = .ok (s', rest))
    (more : Bytes) : r.readArray room fields index first s (bs ++ more) = .ok (s', rest ++ more) := by
  induction fields generalizing index first s bs with
  | nil =>
    obtain ⟨after, ended, read⟩ := bind_eq_ok_iff.mp read
    cases read
    rw [readArray, closing_append ended more]
    rfl
  | cons f fields ih =>
    rw [readArray] at read ⊢
    obtain ⟨next, step, read⟩ := bind_eq_ok_iff.mp read
    rw [Reader.nextItem_append step more]
    cases next with
    | done rest =>
      obtain ⟨final, complete, read⟩ := bind_eq_ok_iff.mp read
      cases read
      simp only [Reader.Next.append, complete, bind, Except.bind]
    | more _ begun =>
      obtain ⟨⟨one, behind⟩, taken, read⟩ := bind_eq_ok_iff.mp read
      have onward := (closed f (List.mem_cons_self ..)).append taken more
      have others := ih (fun other member => closed other (List.mem_cons_of_mem _ member)) read
      simp only [Reader.Next.append, onward, others, bind, Except.bind]

theorem ne_nil_of_readObject {room fuel : Nat} {seen : List String} {first : Bool} {s s' : σ} {bs rest : Bytes}
    (read : r.readObject room fuel seen first s bs = .ok (s', rest)) : bs ≠ [] := by
  rintro rfl
  cases fuel <;> cases read

theorem readObject_append (closed : ∀ f ∈ r.fields, f.Closed) {room fuel fuel' : Nat} (enough : fuel ≤ fuel')
    {seen : List String} {first : Bool} {s s' : σ} {bs rest : Bytes}
    (read : r.readObject room fuel seen first s bs = .ok (s', rest)) (more : Bytes) :
    r.readObject room fuel' seen first s (bs ++ more) = .ok (s', rest ++ more) := by
  induction fuel generalizing fuel' seen first s bs with
  | zero => cases read
  | succ fuel ih =>
    obtain ⟨left, rfl, fits⟩ := Reader.exists_fuel enough
    rw [readObject] at read ⊢
    obtain ⟨next, step, read⟩ := bind_eq_ok_iff.mp read
    rw [Reader.nextKey_append step more]
    cases next with
    | done rest =>
      simp only [Reader.Next.append, bind, Except.bind] at read ⊢
      split at read
      · cases read
      · cases read
        rfl
    | more key begun =>
      simp only [Reader.Next.append] at read ⊢
      cases found : r.fields.find? (·.name = key) with
      | some f =>
        simp only [found] at read
        split at read
        · cases read
        rename_i unseen
        obtain ⟨value, colon, read⟩ := bind_eq_ok_iff.mp read
        obtain ⟨⟨one, behind⟩, taken, read⟩ := bind_eq_ok_iff.mp read
        have onward := (closed f (List.mem_of_find?_eq_some found)).append taken more
        simp only [bind, Except.bind, found, if_neg unseen, Reader.colon_append colon more, onward, ih fits read]
      | none =>
        simp only [found] at read
        obtain ⟨value, colon, read⟩ := bind_eq_ok_iff.mp read
        obtain ⟨behind, skipped, read⟩ := bind_eq_ok_iff.mp read
        have longer : Reader.fuelFor value ≤ Reader.fuelFor (value ++ more) := Reader.fuelFor_le_append value more
        have onward := Reader.skipValue_append _ longer skipped more fun nothing =>
          absurd nothing (ne_nil_of_readObject read)
        simp only [bind, Except.bind, found, Reader.colon_append colon more, onward, ih fits read]

/-- A record that is read from a text is read from every longer one. -/
theorem decoder_append (closed : ∀ f ∈ r.fields, f.Closed) {room : Nat} {bs rest : Bytes} {s : σ}
    (read : r.decoder.read room bs = .ok (s, rest)) (more : Bytes) :
    r.decoder.read room (bs ++ more) = .ok (s, rest ++ more) := by
  unfold decoder at read ⊢
  simp only at read ⊢
  cases skipped : Reader.skipBlank bs with
  | nil =>
    rw [skipped] at read
    cases read
  | cons b tail =>
    rw [skipped] at read
    rw [Reader.skipBlank_append skipped more]
    simp only at read ⊢
    split at read
    · rename_i bracket
      rw [if_pos bracket]
      split at read
      · cases read
      · rename_i roomy
        rw [if_neg roomy]
        exact readArray_append closed read more
    rename_i bracket
    rw [if_neg bracket]
    split at read
    · rename_i brace
      rw [if_pos brace]
      split at read
      · cases read
      · rename_i roomy
        rw [if_neg roomy]
        exact readObject_append closed (by simp) read more
    · cases read

end Record
end KernelLink
