import KernelLink.Launch.Command
import Mathlib.Data.List.TakeWhile

namespace KernelLink

theorem placeholder?_eq_some_iff {text name : List Char} : placeholder? text = some name ↔
    name ≠ [] ∧ (∀ c ∈ name, isNameChar c = true) ∧ braced name <+: text := by
  constructor
  · intro found
    unfold placeholder? at found
    split at found
    · rename_i rest
      split at found
      · rename_i first letters after taken dropped
        cases found
        refine ⟨List.cons_ne_nil _ _, fun c member => ?_, after, ?_⟩
        · rw [← taken] at member
          exact List.mem_takeWhile_imp member
        · rw [braced, List.cons_append, List.append_assoc, ← taken, List.singleton_append, ← dropped,
            List.takeWhile_append_dropWhile]
      · cases found
    · cases found
  · rintro ⟨some, letters, after, rfl⟩
    have brace : isNameChar '\x7d' = false := rfl
    have taken : (name ++ '\x7d' :: after).takeWhile isNameChar = name := by
      rw [List.takeWhile_append_of_pos letters, List.takeWhile_cons, brace]
      exact List.append_nil _
    have dropped : (name ++ '\x7d' :: after).dropWhile isNameChar = '\x7d' :: after := by
      rw [List.dropWhile_append_of_pos letters, List.dropWhile_cons, brace]
      rfl
    rw [braced, List.cons_append, List.append_assoc, List.singleton_append, placeholder?, taken, dropped]
    cases name with
    | nil => exact absurd rfl some
    | cons first name => rfl

theorem not_mem_name {name : List Char} (letters : ∀ c ∈ name, isNameChar c = true) : '\x7b' ∉ name := by
  intro member
  cases letters _ member

/-- No placeholder goes beyond an opening brace that is not its own. -/
theorem placeholder?_append (c : Char) (rest after : List Char) :
    placeholder? (c :: rest ++ '\x7b' :: after) = placeholder? (c :: rest) := by
  refine Option.ext fun name => ?_
  rw [placeholder?_eq_some_iff, placeholder?_eq_some_iff]
  refine and_congr_right fun _ => and_congr_right fun letters =>
    ⟨fun ahead => ?_, fun ahead => ahead.trans (List.prefix_append _ _)⟩
  rcases List.prefix_or_prefix_of_prefix ahead (List.prefix_append (c :: rest) _) with inside | ⟨more, beyond⟩
  · exact inside
  · cases more with
    | nil => exact ⟨[], by rw [List.append_nil, ← beyond, List.append_nil]⟩
    | cons next more =>
      rw [← beyond, List.prefix_append_right_inj] at ahead
      have brace : next = '\x7b' := (List.cons_prefix_cons.mp ahead).1
      have tail : rest ++ next :: more = name ++ ['\x7d'] := (List.cons.inj beyond).2
      have member : '\x7b' ∈ name ++ ['\x7d'] := by
        rw [← tail, brace]
        exact List.mem_append_right _ (List.mem_cons_self ..)
      rcases List.mem_append.mp member with inName | last
      · exact absurd inName (not_mem_name letters)
      · cases List.mem_singleton.mp last

variable {values : List (List Char × List Char)}

theorem fill_passed (past after : List Char) : fill values past.length (past ++ after) = fill values 0 after := by
  induction past with
  | nil => rfl
  | cons c past ih => exact ih

theorem fill_braced {name : List Char} (some : name ≠ []) (letters : ∀ c ∈ name, isNameChar c = true)
    (after : List Char) :
    fill values 0 (braced name ++ after) = (values.lookup name).getD (braced name) ++ fill values 0 after := by
  have found : placeholder? (braced name ++ after) = .some name :=
    placeholder?_eq_some_iff.mpr ⟨some, letters, List.prefix_append _ _⟩
  have past := @fill_passed values (name ++ ['\x7d']) after
  rw [List.length_append, List.length_singleton] at past
  rw [braced, List.cons_append] at found ⊢
  rw [fill, found]
  exact congrArg _ past

/-- What stands in front of an opening brace is filled in on its own. The characters that are to be passed over
do not reach the brace. -/
theorem fill_append_brace (text after : List Char) (passed : Nat) (within : passed ≤ text.length) :
    fill values passed (text ++ '\x7b' :: after) = fill values passed text ++ fill values 0 ('\x7b' :: after) := by
  induction text generalizing passed with
  | nil =>
    cases Nat.le_zero.mp within
    rfl
  | cons c rest ih =>
    rw [List.length_cons] at within
    cases passed with
    | succ passed => exact ih passed (by omega)
    | zero =>
      have same := placeholder?_append c rest after
      rw [List.cons_append] at same ⊢
      rw [fill, fill, same]
      cases found : placeholder? (c :: rest) with
      | none => exact congrArg (c :: ·) (ih 0 (Nat.zero_le _))
      | some name =>
        obtain ⟨-, -, later, whole⟩ := placeholder?_eq_some_iff.mp found
        have length := congrArg List.length whole
        simp only [braced, List.length_cons, List.length_append, List.length_nil] at length
        have reach : name.length + 1 ≤ rest.length := by omega
        simp only
        rw [ih _ reach, List.append_assoc]

theorem fill_append_braced (before after name : List Char) (some : name ≠ [])
    (letters : ∀ c ∈ name, isNameChar c = true) : fill values 0 (before ++ braced name ++ after) =
      fill values 0 before ++ (values.lookup name).getD (braced name) ++ fill values 0 after := by
  have alone := @fill_append_brace values before (name ++ ['\x7d'] ++ after) 0 (Nat.zero_le _)
  have filled := @fill_braced values name some letters after
  rw [braced, List.cons_append] at filled
  rw [List.append_assoc, braced, List.cons_append, alone, filled, List.append_assoc]

/-- A text without any placeholder that is known stays as it is. -/
theorem fill_of_unknown (text : List Char) (passed : Nat)
    (unknown : ∀ name value, values.lookup name = some value → ¬braced name <:+: text) :
    fill values passed text = text.drop passed := by
  induction text generalizing passed with
  | nil =>
    cases passed <;> rfl
  | cons c rest ih =>
    have later := fun passed => ih passed fun name value known inside =>
      unknown name value known (inside.trans (List.suffix_cons c rest).isInfix)
    cases passed with
    | succ passed => exact later passed
    | zero =>
      rw [fill]
      cases found : placeholder? (c :: rest) with
      | none => exact congrArg (c :: ·) (later 0)
      | some name =>
        obtain ⟨-, -, after, whole⟩ := placeholder?_eq_some_iff.mp found
        have stranger : values.lookup name = none := by
          refine Option.eq_none_iff_forall_ne_some.mpr fun value known => ?_
          exact unknown name value known ⟨[], after, whole⟩
        have rest' : rest = name ++ ['\x7d'] ++ after := (List.cons.inj whole).2.symm
        have past : rest.drop (name.length + 1) = after := by
          rw [rest']
          exact List.drop_left' (by rw [List.length_append, List.length_singleton])
        simp only
        rw [stranger, later, past]
        exact whole

/-- How the arguments of a template are filled in: each token gives way to its value wherever it stands, on both
sides of it the text is filled in as if it stood alone, and a text without a token stays as it is. -/
structure FillsIn (connectionFile resourceDir : Path) (fills : String → String) : Prop where
  file : ∀ before after, fills (before ++ "\x7bconnection_file\x7d" ++ after) =
    fills before ++ connectionFile ++ fills after
  dir : ∀ before after, fills (before ++ "\x7bresource_dir\x7d" ++ after) =
    fills before ++ resourceDir ++ fills after
  plain : ∀ arg, ¬"\x7bconnection_file\x7d".toList <:+: arg.toList → ¬"\x7bresource_dir\x7d".toList <:+: arg.toList →
    fills arg = arg

variable {connectionFile resourceDir : Path}

theorem lookup_templateValues {name value : List Char}
    (known : (templateValues connectionFile resourceDir).lookup name = some value) :
    name = "connection_file".toList ∨ name = "resource_dir".toList := by
  by_cases file : name = "connection_file".toList
  · exact Or.inl file
  by_cases dir : name = "resource_dir".toList
  · exact Or.inr dir
  rw [templateValues, List.lookup_cons, beq_eq_false_iff_ne.mpr file, List.lookup_cons,
    beq_eq_false_iff_ne.mpr dir] at known
  cases known

theorem fillArgument_append (name value : String) (some : name.toList ≠ [])
    (letters : name.toList.all isNameChar = true)
    (known : (templateValues connectionFile resourceDir).lookup name.toList = .some value.toList)
    {token : String} (tokenIs : token.toList = braced name.toList) (before after : String) :
    fillArgument connectionFile resourceDir (before ++ token ++ after) =
      fillArgument connectionFile resourceDir before ++ value ++ fillArgument connectionFile resourceDir after := by
  have filled := @fill_append_braced (templateValues connectionFile resourceDir) before.toList after.toList _ some
    (List.all_eq_true.mp letters)
  rw [known, Option.getD_some] at filled
  rw [fillArgument, String.toList_append, String.toList_append, tokenIs, filled, String.ofList_append,
    String.ofList_append, String.ofList_toList]
  rfl

theorem fillsIn_fillArgument (connectionFile resourceDir : Path) :
    FillsIn connectionFile resourceDir (fillArgument connectionFile resourceDir) where
  file := fillArgument_append "connection_file" connectionFile (by decide) rfl rfl rfl
  dir := fillArgument_append "resource_dir" resourceDir (by decide) rfl rfl rfl
  plain arg noFile noDir := by
    have unknown : ∀ name value, (templateValues connectionFile resourceDir).lookup name = some value →
        ¬braced name <:+: arg.toList := by
      intro name value known inside
      rcases lookup_templateValues known with rfl | rfl
      · exact noFile inside
      · exact noDir inside
    rw [fillArgument, fill_of_unknown arg.toList 0 unknown, List.drop_zero, String.ofList_toList]

/-- A text with a token in it falls apart into that token and two texts that are shorter. -/
theorem exists_split_of_infix {token arg : String} (inside : token.toList <:+: arg.toList)
    (some : token.toList ≠ []) : ∃ before after : String, arg = before ++ token ++ after ∧
      before.toList.length < arg.toList.length ∧ after.toList.length < arg.toList.length := by
  obtain ⟨front, back, whole⟩ := inside
  have length := congrArg List.length whole
  have positive := List.length_pos_iff.mpr some
  rw [List.length_append, List.length_append] at length
  refine ⟨.ofList front, .ofList back, ?_, ?_, ?_⟩
  · rw [← String.toList_inj, String.toList_append, String.toList_append, String.toList_ofList, String.toList_ofList]
    exact whole.symm
  · rw [String.toList_ofList]
    omega
  · rw [String.toList_ofList]
    omega

/-- There is only one way to fill in the arguments of a template like that. -/
theorem FillsIn.eq {fills fills' : String → String} (one : FillsIn connectionFile resourceDir fills)
    (other : FillsIn connectionFile resourceDir fills') : fills = fills' := by
  refine funext fun arg => ?_
  induction size : arg.toList.length using Nat.strong_induction_on generalizing arg with
  | _ n ih =>
    by_cases file : "\x7bconnection_file\x7d".toList <:+: arg.toList
    · obtain ⟨before, after, rfl, shorter, shorter'⟩ := exists_split_of_infix file (by decide)
      rw [one.file, other.file, ih _ (size ▸ shorter) before rfl, ih _ (size ▸ shorter') after rfl]
    by_cases dir : "\x7bresource_dir\x7d".toList <:+: arg.toList
    · obtain ⟨before, after, rfl, shorter, shorter'⟩ := exists_split_of_infix dir (by decide)
      rw [one.dir, other.dir, ih _ (size ▸ shorter) before rfl, ih _ (size ▸ shorter') after rfl]
    rw [one.plain arg file dir, other.plain arg file dir]

/-- A command line is its template, each argument filled in by the one way there is to do so, and then the extra
arguments as they are. -/
theorem commandLine_filledIn (argv extra : List String) (connectionFile resourceDir : Path) :
    (commandLine argv extra connectionFile resourceDir).length = argv.length + extra.length ∧
    (commandLine argv extra connectionFile resourceDir).drop argv.length = extra ∧
    ∃ fills, FillsIn connectionFile resourceDir fills ∧
      (∀ fills', FillsIn connectionFile resourceDir fills' → fills' = fills) ∧
      (commandLine argv extra connectionFile resourceDir).take argv.length = argv.map fills := by
  have fillsIn := fillsIn_fillArgument connectionFile resourceDir
  have length : (argv.map (fillArgument connectionFile resourceDir)).length = argv.length := List.length_map _
  refine ⟨?_, List.drop_left' length, fillArgument connectionFile resourceDir, fillsIn,
    fun fills' also => also.eq fillsIn, List.take_left' length⟩
  rw [commandLine, List.length_append, length]

/-- What has been filled in is not looked at again, not even together with what stands around it. -/
example : commandLine ["\x7b\x7bconnection_file\x7d_dir\x7d", "\x7bunknown\x7d"] ["\x7bresource_dir\x7d"]
    "\x7bresource_dir\x7d" "/r" = ["\x7b\x7bresource_dir\x7d_dir\x7d", "\x7bunknown\x7d", "\x7bresource_dir\x7d"] := by
  cbv

end KernelLink
