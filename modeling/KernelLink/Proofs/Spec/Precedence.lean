import KernelLink.Spec.Lookup
import KernelLink.Proofs.Table
import Mathlib.Data.List.Basic

namespace KernelLink

/-- A directory that is listed tells neither itself nor the one above among its entries. -/
def FileView.Proper (view : FileView) : Prop :=
  ∀ dir names, view.list dir = some names → "." ∉ names ∧ ".." ∉ names

/-- The same files, with no entry shown that could not be the name of a kernel. -/
def FileView.kernelNames (view : FileView) : FileView :=
  { view with list := fun dir => (view.list dir).map (·.filter isKernelName) }

/-- A path leads to something that stands in a directory under a name of its own. -/
def Path.DirectChild (dir path : Path) : Prop :=
  ∃ entry : String, entry ≠ "" ∧ entry ≠ "." ∧ entry ≠ ".." ∧ '/' ∉ entry.toList ∧ path = Path.join dir entry

theorem slash_not_mem_kernelName {name : String} (valid : isKernelName name = true) : '/' ∉ name.toList := by
  intro member
  simp only [isKernelName, Bool.and_eq_true, List.all_eq_true] at valid
  exact absurd (valid.2 '/' member) (by decide)

theorem kernelName_ne_empty {name : String} (valid : isKernelName name = true) : name ≠ "" := by
  simp only [isKernelName, Bool.and_eq_true, decide_eq_true_eq] at valid
  exact valid.1

namespace SpecSearch

/-- A directory has a kernel of a name at a path: an entry with the name of a kernel, in lower case the name that is
asked for, which contains a kernel file. -/
def Offers (view : FileView) (dir : Path) (name : String) (path : Path) : Prop :=
  ∃ entry ∈ (view.list dir).getD [], isKernelName entry = true ∧ entry.toLower = name ∧
    path = Path.join dir entry ∧ view.isFile (specFile path) = true

/-- The kernel of a name in one directory; of several the one that is listed last. -/
def pick (view : FileView) (name : String) (dir : Path) : Option Path := (kernelsIn view dir).reverse.lookup name

/-- The data directories of the standard search, the one that wins over all others first. -/
def ranking (places : Places) : List Path :=
  (places.jupyterDataDir.or places.userData).toList ++ (places.jupyterPath.map (·.splitOn ":")).getD [] ++
    ["/usr/local/share/jupyter", "/usr/share/jupyter"]

variable {view view' : FileView} {dir path : Path} {name : String}

theorem mem_kernelsIn : (name, path) ∈ kernelsIn view dir ↔ Offers view dir name path := by
  simp only [kernelsIn, List.mem_filterMap, Offers, Option.ite_none_right_eq_some, Bool.and_eq_true,
    Option.some.injEq, Prod.mk.injEq]
  refine exists_congr fun entry => and_congr_right fun _ => ⟨?_, ?_⟩
  · rintro ⟨⟨file, valid⟩, lower, rfl⟩
    exact ⟨valid, lower, rfl, file⟩
  · rintro ⟨valid, lower, rfl, file⟩
    exact ⟨⟨file, valid⟩, lower, rfl⟩

theorem offers_of_pick (picked : pick view name dir = some path) : Offers view dir name path := by
  obtain ⟨before, after, whole, -⟩ := List.lookup_eq_some_iff.mp picked
  refine mem_kernelsIn.mp (List.mem_reverse.mp ?_)
  rw [whole]
  exact List.mem_append_right _ (List.mem_cons_self ..)

theorem pick_eq_none_iff : pick view name dir = none ↔ ∀ path, ¬Offers view dir name path := by
  constructor
  · intro absent path offer
    have missed := List.lookup_eq_none_iff.mp absent _ (List.mem_reverse.mpr (mem_kernelsIn.mpr offer))
    simp at missed
  · intro none
    cases picked : pick view name dir with
    | none => rfl
    | some path => exact absurd (offers_of_pick picked) (none path)

/-- The search asks the directories from the last to the first. -/
theorem lookup_find (search : SpecSearch) (view : FileView) (name : String) :
    (search.find view).lookup name = search.dirs.reverse.findSome? (pick view name) := by
  -- what comes later in the list goes before, so the list is read from its end
  rw [find, Table.lookup_ofLast]
  induction search.dirs with
  | nil => rfl
  | cons dir rest ih =>
    have last : [dir].findSome? (pick view name) = pick view name dir := by
      cases picked : pick view name dir <;> simp [picked]
    rw [List.flatMap_cons, List.reverse_append, List.lookup_append, ih, List.reverse_cons, List.findSome?_append,
      last, pick]

theorem exists_lookup_find_iff (search : SpecSearch) (view : FileView) (name : String) :
    (∃ path, (search.find view).lookup name = some path) ↔
      ∃ dir ∈ search.dirs, ∃ path, Offers view dir name path := by
  rw [← Option.isSome_iff_exists, lookup_find, ← Option.ne_none_iff_isSome, Ne, List.findSome?_eq_none_iff]
  simp [pick_eq_none_iff]

/-- Of directories that are asked one after the other, the first that has the kernel gives it. -/
theorem first_of_findSome? {α : Type} {ranked : List α} {place : α → Path}
    (found : ranked.findSome? (fun a => pick view name (place a)) = some path) :
    ∃ higher best lower, ranked = higher ++ best :: lower ∧ Offers view (place best) name path ∧
      ∀ other ∈ higher, ∀ path, ¬Offers view (place other) name path := by
  obtain ⟨higher, best, lower, whole, picked, absent⟩ := List.findSome?_eq_some_iff.mp found
  exact ⟨higher, best, lower, whole, offers_of_pick picked,
    fun other member => pick_eq_none_iff.mp (absent other member)⟩

theorem last_of_lookup {search : SpecSearch} (found : (search.find view).lookup name = some path) :
    ∃ lower dir higher, search.dirs = lower ++ dir :: higher ∧ Offers view dir name path ∧
      ∀ other ∈ higher, ∀ path, ¬Offers view other name path := by
  rw [lookup_find] at found
  obtain ⟨higher, dir, lower, whole, offer, absent⟩ := @first_of_findSome? view path name _ _ id found
  refine ⟨lower.reverse, dir, higher.reverse, ?_, offer, fun other member => absent other (List.mem_reverse.mp member)⟩
  rw [← List.reverse_reverse search.dirs, whole]
  simp

theorem reverse_dirs_standard (places : Places) :
    (standard places).dirs.reverse = (ranking places).map fun place => Path.join place "kernels" := by
  have own (o : Option Path) : o.toList.reverse = o.toList := by cases o <;> rfl
  have system : ["/usr/share/jupyter", "/usr/local/share/jupyter"].reverse =
      ["/usr/local/share/jupyter", "/usr/share/jupyter"] := rfl
  simp only [standard, ranking, ← List.map_reverse, List.reverse_append, List.reverse_reverse, own, system,
    List.append_assoc]

theorem highest_of_standard {places : Places} (found : ((standard places).find view).lookup name = some path) :
    ∃ higher place lower, ranking places = higher ++ place :: lower ∧
      Offers view (Path.join place "kernels") name path ∧
      ∀ other ∈ higher, ∀ path, ¬Offers view (Path.join other "kernels") name path := by
  rw [lookup_find, reverse_dirs_standard, List.findSome?_map] at found
  exact first_of_findSome? found

theorem find_congr {search : SpecSearch} (same : ∀ dir ∈ search.dirs, kernelsIn view' dir = kernelsIn view dir) :
    search.find view' = search.find view := by
  rw [find, find, List.flatMap_def, List.flatMap_def, List.map_congr_left same]

theorem find_readable (search : SpecSearch) (view : FileView) :
    (SpecSearch.mk (search.dirs.filter fun dir => (view.list dir).isSome)).find view = search.find view := by
  have same : (search.dirs.filter fun dir => (view.list dir).isSome).flatMap (kernelsIn view) =
      search.dirs.flatMap (kernelsIn view) := by
    induction search.dirs with
    | nil => rfl
    | cons dir rest ih =>
      cases listed : view.list dir with
      | some names => simp [listed, ih]
      | none => simp [listed, ih, kernelsIn]
  exact congrArg Table.ofLast same

theorem find_kernelNames (search : SpecSearch) (view : FileView) :
    search.find view.kernelNames = search.find view := by
  refine find_congr fun dir _ => ?_
  cases listed : view.list dir with
  | none => simp [kernelsIn, FileView.kernelNames, listed]
  | some names =>
    simp only [kernelsIn, FileView.kernelNames, listed, Option.map_some, Option.getD_some, List.filterMap_filter]
    refine List.filterMap_congr fun entry _ => ?_
    cases isKernelName entry <;> simp

theorem directChild_of_entry (proper : view.Proper) {entry : String} (member : entry ∈ (view.list dir).getD [])
    (valid : isKernelName entry = true) : Path.DirectChild dir (Path.join dir entry) := by
  cases listed : view.list dir with
  | none => simp [listed] at member
  | some names =>
    rw [listed, Option.getD_some] at member
    obtain ⟨here, above⟩ := proper dir names listed
    exact ⟨entry, kernelName_ne_empty valid, fun same => here (same ▸ member), fun same => above (same ▸ member),
      slash_not_mem_kernelName valid, rfl⟩

/-- Two views show the same entries in the directories of a search and the same kernel files directly beneath them,
whatever else they show. -/
def Alike (search : SpecSearch) (view view' : FileView) : Prop :=
  ∀ dir ∈ search.dirs, view'.list dir = view.list dir ∧ ∀ path, Path.DirectChild dir path →
    view'.isFile (specFile path) = view.isFile (specFile path) ∧ view'.read (specFile path) = view.read (specFile path)

theorem Alike.find_eq {search : SpecSearch} (alike : Alike search view view') (proper : view.Proper) :
    search.find view' = search.find view := by
  refine find_congr fun dir searched => ?_
  obtain ⟨listing, files⟩ := alike dir searched
  rw [kernelsIn, kernelsIn, listing]
  refine List.filterMap_congr fun entry member => ?_
  cases valid : isKernelName entry with
  | false => simp
  | true => simp only [(files _ (directChild_of_entry proper member valid)).1]

theorem Alike.get_eq {search : SpecSearch} (alike : Alike search view view') (proper : view.Proper) (name : String) :
    search.get view' name = search.get view name := by
  unfold get
  rw [alike.find_eq proper]
  split
  · rfl
  split
  · -- the directory that is read from was listed, so it stands directly beneath one that is searched
    rename_i directory found
    obtain ⟨lower, dir, higher, whole, ⟨entry, member, valid, -, same, -⟩, -⟩ := last_of_lookup found
    have searched : dir ∈ search.dirs := by simp [whole]
    have child : Path.DirectChild dir directory := same ▸ directChild_of_entry proper member valid
    rw [load, load, ((alike dir searched).2 directory child).2]
  · rfl

/-- A search knows a name exactly if one of its directories has a kernel of that name, and what it finds is a kernel
of the last directory that has one. Directories that cannot be listed and entries that are not named like kernels
have no influence. In the standard search the user's own directory goes before those of the path, these go before one
another as they are listed, and the system's come last, the local one first. Whatever string is asked for, nothing
is looked at but kernel files directly beneath the directories. -/
theorem directories_take_precedence (search : SpecSearch) (view : FileView) :
    (∀ name, (∃ path, (search.find view).lookup name = some path) ↔
      ∃ dir ∈ search.dirs, ∃ path, Offers view dir name path) ∧
    (∀ name path, (search.find view).lookup name = some path → ∃ lower dir higher,
      search.dirs = lower ++ dir :: higher ∧ Offers view dir name path ∧
        ∀ other ∈ higher, ∀ path, ¬Offers view other name path) ∧
    (SpecSearch.mk (search.dirs.filter fun dir => (view.list dir).isSome)).find view = search.find view ∧
    search.find view.kernelNames = search.find view ∧
    (∀ places name path, ((standard places).find view).lookup name = some path → ∃ higher place lower,
      ranking places = higher ++ place :: lower ∧ Offers view (Path.join place "kernels") name path ∧
        ∀ other ∈ higher, ∀ path, ¬Offers view (Path.join other "kernels") name path) ∧
    ∀ view' name, view.Proper → Alike search view view' → search.get view' name = search.get view name :=
  ⟨exists_lookup_find_iff search view, fun _ _ => last_of_lookup, find_readable search view,
    find_kernelNames search view, fun _ _ _ => highest_of_standard, fun _ name proper alike => alike.get_eq proper name⟩

/-- Two directories that have a kernel of one name, spelled in different ways, beside what is no kernel. -/
def twofold : FileView where
  list dir := if dir = "/a" then some ["Py", "no name", "R"] else if dir = "/b" then some ["py"] else none
  isFile _ := true
  read _ := .error .notFound

theorem proper_twofold : twofold.Proper := by
  intro dir names listed
  simp only [twofold] at listed
  split at listed
  · cases listed
    decide
  split at listed
  · cases listed
    decide
  · cases listed

/-- The same directories, in a system that has one more file that is no kernel file. -/
def twofoldBeside : FileView :=
  { twofold with read := fun file => if file = "secret" then .ok [octet '!'] else twofold.read file }

theorem specFile_ne_secret (directory : Path) : specFile directory ≠ "secret" := by
  intro same
  have long : "kernel.json".length = 11 := rfl
  have short : (specFile directory).length = 6 := congrArg String.length same
  unfold specFile Path.join at short
  split at short
  · omega
  split at short <;> (rw [String.length_append] at short; omega)

theorem alike_twofold (dirs : List Path) : Alike ⟨dirs⟩ twofold twofoldBeside :=
  fun _ _ => ⟨rfl, fun path _ => ⟨rfl, if_neg (specFile_ne_secret path)⟩⟩

theorem twofold_takes_precedence :
    ((SpecSearch.mk ["/a", "/b", "/c"]).find twofold).lookup "py" = some "/b/py" ∧
      (∃ lower dir higher, ["/a", "/b", "/c"] = lower ++ dir :: higher ∧ Offers twofold dir "py" "/b/py" ∧
        ∀ other ∈ higher, ∀ path, ¬Offers twofold other "py" path) ∧
      (SpecSearch.mk ["/a", "/b", "/c"]).get twofoldBeside "Py" =
        (SpecSearch.mk ["/a", "/b", "/c"]).get twofold "Py" := by
  have found : ((SpecSearch.mk ["/a", "/b", "/c"]).find twofold).lookup "py" = some "/b/py" := by
    rw [lookup_find]
    decide +kernel
  obtain ⟨-, last, -, -, -, reads⟩ := directories_take_precedence ⟨["/a", "/b", "/c"]⟩ twofold
  exact ⟨found, last "py" "/b/py" found, reads twofoldBeside "Py" proper_twofold (alike_twofold _)⟩

end SpecSearch
end KernelLink
