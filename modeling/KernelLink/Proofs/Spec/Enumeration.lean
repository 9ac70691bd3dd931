import KernelLink.CommandLine.Report
import KernelLink.Proofs.Spec.Precedence
import Mathlib.Data.Option.Basic

namespace KernelLink

/-- The same files, where the entries of each directory are told in another order. -/
structure FileView.Reordered (view view' : FileView) : Prop where
  list : ∀ dir, Option.Rel List.Perm (view.list dir) (view'.list dir)
  isFile : view'.isFile = view.isFile
  read : view'.read = view.read

/-- The same files, where one directory tells one of its entries last. -/
def FileView.tellLast (view : FileView) (dir : Path) (entry : String) : FileView :=
  { view with list := fun d =>
      if d = dir then (view.list d).map fun names => names.erase entry ++ [entry] else view.list d }

variable {view view' : FileView} {dir path : Path} {name entry : String}

theorem FileView.reordered_tellLast (member : entry ∈ (view.list dir).getD []) :
    view.Reordered (view.tellLast dir entry) where
  isFile := rfl
  read := rfl
  list d := by
    by_cases here : d = dir
    · subst here
      cases listed : view.list d with
      | none => simp [listed] at member
      | some names =>
        rw [listed, Option.getD_some] at member
        have moved : names.Perm (names.erase entry ++ [entry]) :=
          (List.perm_cons_erase member).trans (List.perm_append_singleton _ _).symm
        simpa [tellLast, listed] using moved
    · rw [tellLast]
      simp only [if_neg here]
      cases view.list d with
      | none => exact .none
      | some names => exact .some (.refl names)

theorem FileView.Reordered.entries_perm (same : view.Reordered view') (dir : Path) :
    ((view.list dir).getD []).Perm ((view'.list dir).getD []) := by
  have told := same.list dir
  generalize view.list dir = names, view'.list dir = names' at told
  cases told with
  | some perm => exact perm
  | none => exact .refl _

namespace SpecSearch

theorem offers_reordered (same : view.Reordered view') : Offers view' dir name path ↔ Offers view dir name path := by
  have entries (entry : String) : entry ∈ (view'.list dir).getD [] ↔ entry ∈ (view.list dir).getD [] :=
    (same.entries_perm dir).mem_iff.symm
  simp only [Offers, entries, same.isFile]

/-- No kernel that is found has a rival: of the kernels that the last directory to have any of a name has of it, no
two lie at different paths. -/
def Unrivalled (search : SpecSearch) (view : FileView) : Prop :=
  ∀ name lower dir higher, search.dirs = lower ++ dir :: higher →
    (∀ other ∈ higher, ∀ path, ¬Offers view other name path) →
    ∀ path path', Offers view dir name path → Offers view dir name path' → path' = path

/-- What the last directory that has kernels of a name picks is found. -/
theorem lookup_find_of_pick {search : SpecSearch} {lower higher : List Path}
    (whole : search.dirs = lower ++ dir :: higher) (absent : ∀ other ∈ higher, ∀ path, ¬Offers view other name path)
    (picked : pick view name dir = some path) : (search.find view).lookup name = some path := by
  rw [lookup_find, whole, List.reverse_append, List.reverse_cons, List.append_assoc, List.singleton_append,
    List.findSome?_eq_some_iff]
  exact ⟨higher.reverse, dir, lower.reverse, rfl, picked,
    fun other member => pick_eq_none_iff.mpr (absent other (List.mem_reverse.mp member))⟩

theorem find_reordered {search : SpecSearch} (unrivalled : search.Unrivalled view) (same : view.Reordered view') :
    search.find view' = search.find view := by
  refine Table.Ordered.ext (Table.ordered_ofLast _) (Table.ordered_ofLast _) fun name => ?_
  cases found : (search.find view).lookup name with
  | none =>
    have none : ¬∃ dir ∈ search.dirs, ∃ path, Offers view dir name path := by
      rw [← exists_lookup_find_iff, found]
      rintro ⟨_, ⟨⟩⟩
    simp only [← offers_reordered same] at none
    rw [← exists_lookup_find_iff, ← Option.isSome_iff_exists] at none
    exact Option.not_isSome_iff_eq_none.mp none
  | some path =>
    obtain ⟨lower, dir, higher, whole, offer, absent⟩ := last_of_lookup found
    cases picked : pick view' name dir with
    | none => exact absurd ((offers_reordered same).mpr offer) (pick_eq_none_iff.mp picked path)
    | some path' =>
      -- whatever the other order makes the directory pick, it is a kernel of that name, so it is the only one
      have offer' := (offers_reordered same).mp (offers_of_pick picked)
      cases unrivalled name lower dir higher whole absent path path' offer offer'
      exact lookup_find_of_pick whole
        (fun other member path => mt (offers_reordered same).mp (absent other member path)) picked

theorem pick_tellLast (member : entry ∈ (view.list dir).getD []) (valid : isKernelName entry = true)
    (file : view.isFile (specFile (Path.join dir entry)) = true) :
    pick (view.tellLast dir entry) entry.toLower dir = some (Path.join dir entry) := by
  cases listed : view.list dir with
  | none => simp [listed] at member
  | some names => simp [pick, kernelsIn, FileView.tellLast, listed, file, valid]

/-- The kernel of a name that is told last by the last directory that has one is found. -/
theorem exists_reordered_lookup {search : SpecSearch} {lower higher : List Path}
    (whole : search.dirs = lower ++ dir :: higher) (absent : ∀ other ∈ higher, ∀ path, ¬Offers view other name path)
    (offer : Offers view dir name path) :
    ∃ view', view.Reordered view' ∧ (search.find view').lookup name = some path := by
  obtain ⟨entry, member, valid, rfl, rfl, file⟩ := offer
  have same := FileView.reordered_tellLast member
  have absent' : ∀ other ∈ higher, ∀ path, ¬Offers (view.tellLast dir entry) other entry.toLower path :=
    fun other member path => mt (offers_reordered same).mp (absent other member path)
  exact ⟨_, same, lookup_find_of_pick whole absent' (pick_tellLast member valid file)⟩

theorem unrivalled_of_find_reordered {search : SpecSearch}
    (same : ∀ view', view.Reordered view' → search.find view' = search.find view) : search.Unrivalled view := by
  intro name lower dir higher whole absent path path' offer offer'
  obtain ⟨last, reordered, found⟩ := exists_reordered_lookup whole absent offer
  obtain ⟨last', reordered', found'⟩ := exists_reordered_lookup whole absent offer'
  rw [same last reordered] at found
  rw [same last' reordered', found] at found'
  exact (Option.some.inj found').symm

theorem get_reordered {search : SpecSearch} (same : view.Reordered view')
    (found : search.find view' = search.find view) (name : String) : search.get view' name = search.get view name := by
  simp only [get, load, found, same.read]

theorem all_reordered {search : SpecSearch} (same : view.Reordered view')
    (found : search.find view' = search.find view) : search.all view' = search.all view := by
  simp only [all, load, found, same.read]

/-- What a search finds is the same for all orders in which directories may tell their entries exactly if no kernel
that it finds has a rival. Then each lookup, the specs of all kernels and the list of them are the same as well. -/
theorem order_irrelevant_iff_unrivalled (search : SpecSearch) (view : FileView) :
    ((∀ view', view.Reordered view' → search.find view' = search.find view) ↔ search.Unrivalled view) ∧
    (search.Unrivalled view → ∀ view', view.Reordered view' →
      (∀ name, search.get view' name = search.get view name) ∧ search.all view' = search.all view ∧
        listing (search.find view') = listing (search.find view)) := by
  refine ⟨⟨unrivalled_of_find_reordered, fun unrivalled view' same => find_reordered unrivalled same⟩, ?_⟩
  intro unrivalled view' same
  have found := find_reordered unrivalled same
  exact ⟨get_reordered same found, all_reordered same found, congrArg listing found⟩

/-- The same files, where each directory tells its entries from the last to the first. -/
def backwards (view : FileView) : FileView := { view with list := fun dir => (view.list dir).map List.reverse }

theorem reordered_backwards (view : FileView) : view.Reordered (backwards view) where
  isFile := rfl
  read := rfl
  list dir := by
    simp only [backwards]
    cases view.list dir with
    | none => exact .none
    | some names => exact .some (List.reverse_perm names).symm

/-- Directories with kernels of one name, two of them in the same directory. -/
def crowded : FileView where
  list dir := if dir = "/a" then some ["Py", "R", "py"] else if dir = "/b" then some ["PY"] else none
  isFile _ := true
  read _ := .error .notFound

theorem offers_crowded (offer : Offers crowded dir name path) :
    dir = "/a" ∧ (name = "py" ∨ path = "/a/R" ∧ name = "r") ∨ dir = "/b" ∧ path = "/b/PY" := by
  obtain ⟨entry, member, -, rfl, rfl, -⟩ := offer
  simp only [crowded] at member
  split at member
  · subst dir
    simp only [Option.getD_some, List.mem_cons, List.not_mem_nil, or_false] at member
    rcases member with rfl | rfl | rfl <;> exact Or.inl ⟨rfl, by decide +kernel⟩
  split at member
  · subst dir
    rw [Option.getD_some, List.mem_singleton] at member
    exact Or.inr ⟨rfl, by rw [member]; decide +kernel⟩
  · cases member

/-- Rivals do no harm where a directory that comes later has the kernel. -/
theorem unrivalled_crowded : (SpecSearch.mk ["/a", "/b"]).Unrivalled crowded := by
  intro name lower dir higher whole absent path path' offer offer'
  have whole : ["/a", "/b"] = lower ++ dir :: higher := whole
  have later : dir = "/a" → name ≠ "py" := by
    rintro rfl rfl
    have last : "/b" ∈ higher := by
      cases lower with
      | nil => cases whole; exact List.mem_singleton_self _
      | cons first lower => simp [List.cons_eq_append_iff] at whole
    exact absent "/b" last "/b/PY" ⟨"PY", by decide +kernel⟩
  rcases offers_crowded offer with ⟨rfl, rfl | ⟨rfl, rfl⟩⟩ | ⟨rfl, rfl⟩
  · exact absurd rfl (later rfl)
  · rcases offers_crowded offer' with ⟨-, other | ⟨same, -⟩⟩ | ⟨other, -⟩
    · exact absurd other (later rfl)
    · exact same
    · exact absurd other (by decide)
  · rcases offers_crowded offer' with ⟨other, -⟩ | ⟨-, same⟩
    · exact absurd other (by decide)
    · exact same

theorem crowded_found_in_any_order :
    (SpecSearch.mk ["/a", "/b"]).Unrivalled crowded ∧ crowded.Reordered (backwards crowded) ∧
      (SpecSearch.mk ["/a", "/b"]).find (backwards crowded) = (SpecSearch.mk ["/a", "/b"]).find crowded ∧
      (SpecSearch.mk ["/a", "/b"]).get (backwards crowded) "pY" = (SpecSearch.mk ["/a", "/b"]).get crowded "pY" := by
  have same := reordered_backwards crowded
  obtain ⟨found, rest⟩ := order_irrelevant_iff_unrivalled ⟨["/a", "/b"]⟩ crowded
  exact ⟨unrivalled_crowded, same, found.mpr unrivalled_crowded _ same, (rest unrivalled_crowded _ same).1 "pY"⟩

/-- Of two rivals the one that is told last is found. -/
theorem rival_told_last_found :
    ¬∀ (search : SpecSearch) (view view' : FileView), view.Reordered view' → search.find view' = search.find view := by
  intro same
  have found : ((SpecSearch.mk ["/a"]).find crowded).lookup "py" = some "/a/py" := by
    rw [lookup_find]
    decide +kernel
  have found' : ((SpecSearch.mk ["/a"]).find (backwards crowded)).lookup "py" = some "/a/Py" := by
    rw [lookup_find]
    decide +kernel
  rw [same _ _ _ (reordered_backwards crowded), found] at found'
  exact absurd found' (by decide)

end SpecSearch
end KernelLink
