import KernelLink.Proofs.Spec.Precedence

namespace KernelLink
namespace SpecSearch

variable {search : SpecSearch} {view : FileView} {name key : String} {dir : Path} {spec : KernelSpec}

theorem resourceDir_parse {text : Bytes} (parsed : KernelSpec.parse text dir = .ok spec) : spec.resourceDir = dir := by
  unfold KernelSpec.parse at parsed
  cases read : KernelSpec.record.decoder.parse text with
  | error fault => rw [read] at parsed; cases parsed
  | ok whole => rw [read] at parsed; cases parsed; rfl

/-- Whether a directory holds a spec does not depend on the name that it is loaded for. That name is only told in
the failure. -/
theorem load_cases (view : FileView) (dir : Path) :
    (∃ spec, spec.argv ≠ [] ∧ spec.resourceDir = dir ∧ ∀ name, load view name dir = .ok spec) ∨
      ∃ reason, ∀ name, load view name dir = .error (.invalidSpec name reason) := by
  simp only [load]
  cases view.read (specFile dir) with
  | error fault => exact Or.inr ⟨_, fun _ => rfl⟩
  | ok content =>
    by_cases text : (Bytes.toString? content).isNone = true
    · exact Or.inr ⟨_, fun _ => if_pos text⟩
    simp only [if_neg text]
    cases parsed : KernelSpec.parse content dir with
    | error fault => exact Or.inr ⟨_, fun _ => rfl⟩
    | ok spec =>
      by_cases empty : spec.argv = []
      · exact Or.inr ⟨_, fun _ => if_pos empty⟩
      · exact Or.inl ⟨spec, empty, resourceDir_parse parsed, fun _ => if_neg empty⟩

theorem load_of_load {other : String} (loaded : load view other dir = .ok spec) (name : String) :
    load view name dir = .ok spec := by
  rcases load_cases view dir with ⟨spec', -, -, all⟩ | ⟨reason, none⟩
  · rw [all other] at loaded
    rw [all name, loaded]
  · rw [none other] at loaded
    cases loaded

theorem of_load (loaded : load view name dir = .ok spec) : spec.argv ≠ [] ∧ spec.resourceDir = dir := by
  rcases load_cases view dir with ⟨spec', some, place, all⟩ | ⟨reason, none⟩
  · rw [all name] at loaded
    cases loaded
    exact ⟨some, place⟩
  · rw [none name] at loaded
    cases loaded

/-- The spec of a kernel that is found, under its name, if it can be loaded. -/
def listed (view : FileView) (entry : String × Path) : Option (String × KernelSpec) :=
  (load view entry.1 entry.2).toOption.map (entry.1, ·)

theorem all_eq_filterMap (search : SpecSearch) (view : FileView) :
    search.all view = (search.find view).filterMap (listed view) := by
  refine List.filterMap_congr fun entry _ => ?_
  obtain ⟨name, dir⟩ := entry
  simp only [listed]
  cases load view name dir <;> rfl

theorem fst_of_listed (entry : String × Path) (made : String × KernelSpec) (gives : listed view entry = some made) :
    made.1 = entry.1 := by
  obtain ⟨spec, -, rfl⟩ := Option.map_eq_some_iff.mp gives
  rfl

theorem distinct_find : Table.Distinct (search.find view) := (Table.ordered_ofLast _).distinct

theorem lookup_all (search : SpecSearch) (view : FileView) (key : String) : (search.all view).lookup key =
    ((search.find view).lookup key).bind fun dir => (load view key dir).toOption := by
  rw [all_eq_filterMap, distinct_find.lookup_filterMap fst_of_listed]
  refine congrArg _ (funext fun dir => ?_)
  rw [listed]
  cases (load view key dir).toOption <;> rfl

theorem lookup_all_eq_some_iff : (search.all view).lookup key = some spec ↔
    ∃ dir, (search.find view).lookup key = some dir ∧ load view key dir = .ok spec := by
  rw [lookup_all, Option.bind_eq_some_iff]
  refine exists_congr fun dir => and_congr_right fun _ => ?_
  cases load view key dir <;> simp [Except.toOption]

theorem mem_all_iff : (key, spec) ∈ search.all view ↔ (search.all view).lookup key = some spec := by
  rw [all_eq_filterMap]
  exact (Table.Distinct.filterMap fst_of_listed distinct_find).lookup_eq_some_iff.symm

theorem get_of_invalid (invalid : ¬isKernelName name = true) : search.get view name = .error (.noSuchKernel name) := by
  simp [get, invalid]

theorem get_of_absent (valid : isKernelName name = true) (absent : (search.find view).lookup name.toLower = none) :
    search.get view name = .error (.noSuchKernel name) := by
  simp [get, valid, absent]

theorem get_of_found (valid : isKernelName name = true) (found : (search.find view).lookup name.toLower = some dir) :
    search.get view name = load view name dir := by
  simp [get, valid, found]

theorem get_eq_ok_iff : search.get view name = .ok spec ↔
    isKernelName name = true ∧ (search.all view).lookup name.toLower = some spec := by
  rw [lookup_all_eq_some_iff]
  by_cases valid : isKernelName name = true
  · cases found : (search.find view).lookup name.toLower with
    | none => simp [get_of_absent valid found]
    | some dir =>
      rw [get_of_found valid found]
      refine ⟨fun loaded => ⟨valid, dir, rfl, load_of_load loaded _⟩, ?_⟩
      rintro ⟨-, _, ⟨⟩, loaded⟩
      exact load_of_load loaded name
  · simp [get_of_invalid valid, valid]

theorem found_of_lookup_all (listed : (search.all view).lookup key = some spec) :
    spec.argv ≠ [] ∧ (search.find view).lookup key = some spec.resourceDir := by
  obtain ⟨dir, found, loaded⟩ := lookup_all_eq_some_iff.mp listed
  obtain ⟨some, rfl⟩ := of_load loaded
  exact ⟨some, found⟩

/-- A kernel is found under a name, but its spec is missing from the list of all specs. -/
def Unloadable (search : SpecSearch) (view : FileView) (name : String) : Prop :=
  isKernelName name = true ∧ (∃ dir, (search.find view).lookup name.toLower = some dir) ∧
    (search.all view).lookup name.toLower = none

theorem get_of_unloadable (unloadable : search.Unloadable view name) :
    ∃ reason, search.get view name = .error (.invalidSpec name reason) := by
  obtain ⟨valid, ⟨dir, found⟩, missing⟩ := unloadable
  rw [get_of_found valid found]
  rcases load_cases view dir with ⟨spec, -, -, all⟩ | ⟨reason, none⟩
  · rw [lookup_all_eq_some_iff.mpr ⟨dir, found, all _⟩] at missing
    cases missing
  · exact ⟨reason, none name⟩

theorem get_of_not_unloadable {failure : Failure} (failed : search.get view name = .error failure)
    (loadable : ¬search.Unloadable view name) : failure = .noSuchKernel name := by
  by_cases valid : isKernelName name = true
  · cases found : (search.find view).lookup name.toLower with
    | none =>
      rw [get_of_absent valid found] at failed
      exact (Except.error.inj failed).symm
    | some dir =>
      cases listed : (search.all view).lookup name.toLower with
      | none => exact absurd ⟨valid, ⟨dir, found⟩, listed⟩ loadable
      | some spec =>
        rw [get_eq_ok_iff.mpr ⟨valid, listed⟩] at failed
        cases failed
  · rw [get_of_invalid valid] at failed
    exact (Except.error.inj failed).symm

/-- A kernel can be looked up exactly if its name is that of a kernel and the list of all specs has it in lower case,
and both give the same spec. A kernel that is found but not listed has a spec that cannot be loaded; for any other
name that cannot be looked up there is no kernel. A spec names a program and lies where the kernel was found. -/
theorem lookup_agrees_with_list (search : SpecSearch) (view : FileView) :
    (∀ name spec, search.get view name = .ok spec ↔
      isKernelName name = true ∧ (search.all view).lookup name.toLower = some spec) ∧
    (∀ name, search.Unloadable view name → ∃ reason, search.get view name = .error (.invalidSpec name reason)) ∧
    (∀ name failure, search.get view name = .error failure → ¬search.Unloadable view name →
      failure = .noSuchKernel name) ∧
    (∀ name spec, search.get view name = .ok spec →
      spec.argv ≠ [] ∧ (search.find view).lookup name.toLower = some spec.resourceDir) ∧
    ∀ key spec, (key, spec) ∈ search.all view →
      spec.argv ≠ [] ∧ (search.find view).lookup key = some spec.resourceDir :=
  ⟨fun _ _ => get_eq_ok_iff, fun _ => get_of_unloadable, fun _ _ => get_of_not_unloadable,
    fun _ _ loaded => found_of_lookup_all (get_eq_ok_iff.mp loaded).2,
    fun _ _ listed => found_of_lookup_all (mem_all_iff.mp listed)⟩

/-- Two directories with a kernel of one name, of which the one that comes later has a broken spec, beside a kernel
whose name is one letter. -/
def shadowed : FileView where
  list dir := if dir = "/a" then some ["Py", "K"] else if dir = "/b" then some ["PY"] else none
  isFile _ := true
  read file :=
    .ok (if file = "/b/PY/kernel.json" then [octet '[']
      else Bytes.ofString "\x7b\"argv\":[\"run\"],\"display_name\":\"\"\x7d")

theorem lookup_find_shadowed : ((SpecSearch.mk ["/a", "/b"]).find shadowed).lookup "k" = some "/a/K" ∧
    ((SpecSearch.mk ["/a", "/b"]).find shadowed).lookup "py" = some "/b/PY" := by
  rw [lookup_find, lookup_find]
  decide +kernel

theorem load_shadowed : (load shadowed "k" "/a/K").isOk = true ∧ (load shadowed "py" "/b/PY").isOk = false := by
  decide +kernel

/-- The sign for kelvin is a letter that is written like one of those names in lower case, but there is no kernel of
that name. -/
theorem shadowed_lookup_agrees :
    (∃ spec, (SpecSearch.mk ["/a", "/b"]).get shadowed "K" = .ok spec ∧ spec.argv ≠ [] ∧
      spec.resourceDir = "/a/K") ∧
    (∃ reason, (SpecSearch.mk ["/a", "/b"]).get shadowed "pY" = .error (.invalidSpec "pY" reason)) ∧
    (SpecSearch.mk ["/a", "/b"]).get shadowed "\u212a" = .error (.noSuchKernel "\u212a") := by
  obtain ⟨same, broken, missing, place, -⟩ := lookup_agrees_with_list ⟨["/a", "/b"]⟩ shadowed
  obtain ⟨foundK, foundPy⟩ := lookup_find_shadowed
  obtain ⟨loadsK, loadsPy⟩ := load_shadowed
  have lowerK : "K".toLower = "k" := by decide +kernel
  have lowerPy : "pY".toLower = "py" := by decide +kernel
  have foreign : ¬isKernelName "\u212a" = true := by decide +kernel
  rw [← lowerK] at foundK loadsK
  rw [← lowerPy] at foundPy loadsPy
  refine ⟨?_, broken "pY" ⟨by decide +kernel, ⟨_, foundPy⟩, ?_⟩, ?_⟩
  · cases loaded : load shadowed "K".toLower "/a/K" with
    | error failure => rw [loaded] at loadsK; cases loadsK
    | ok spec =>
      have got := (same "K" spec).mpr ⟨by decide +kernel, lookup_all_eq_some_iff.mpr ⟨_, foundK, loaded⟩⟩
      obtain ⟨some, there⟩ := place "K" spec got
      rw [foundK] at there
      exact ⟨spec, got, some, (Option.some.inj there).symm⟩
  · rw [lookup_all, foundPy, Option.bind_some]
    cases loaded : load shadowed "pY".toLower "/b/PY" with
    | error failure => rfl
    | ok spec => rw [loaded] at loadsPy; cases loadsPy
  · cases got : (SpecSearch.mk ["/a", "/b"]).get shadowed "\u212a" with
    | ok spec => exact absurd ((same _ _).mp got).1 foreign
    | error failure => rw [missing _ failure got fun unloadable => foreign unloadable.1]

end SpecSearch
end KernelLink
