import KernelLink.FileTree

namespace KernelLink
namespace FileTree

variable {t t' : FileTree} {p : Path} {content : Bytes}

theorem lookup_map_put {place : List String} {node : Node} (other : List String)
    (nodes : List (List String × Node)) :
    (nodes.map fun (q, old) => if q = place then (q, node) else (q, old)).lookup other =
      (nodes.lookup other).map fun old => if other = place then node else old := by
  induction nodes with
  | nil => rfl
  | cons entry rest ih =>
    obtain ⟨q, old⟩ := entry
    by_cases here : other = q
    · subst here
      by_cases same : other = place <;> simp [same]
    · have missed : (other == q) = false := beq_eq_false_iff_ne.mpr here
      simp only [List.map_cons]
      split <;> rw [List.lookup_cons, List.lookup_cons, missed] <;> exact ih

theorem node?_put {place : List String} (beneath : place ≠ []) (node : Node) (other : List String) :
    (t.put place node).node? other = if other = place then some node else t.node? other := by
  unfold node? put
  by_cases top : other = []
  · simp [top, beneath.symm]
  · simp only [if_neg top]
    split
    · rename_i there
      rw [lookup_map_put]
      by_cases same : other = place
      · subst same
        obtain ⟨old, found⟩ := Option.isSome_iff_exists.mp there
        simp [found]
      · simp [same]
    · rename_i missing
      rw [List.lookup_append]
      by_cases same : other = place
      · subst same
        simp [Option.not_isSome_iff_eq_none.mp missing]
      · simp [same, List.lookup_cons, beq_eq_false_iff_ne.mpr same]

theorem node?_erase {place : List String} (beneath : place ≠ []) (other : List String) :
    (t.erase place).node? other = if other = place then none else t.node? other := by
  unfold node? erase
  by_cases top : other = []
  · simp [top, beneath.symm]
  · simp only [if_neg top]
    induction t.nodes with
    | nil => simp
    | cons entry rest ih =>
      obtain ⟨q, old⟩ := entry
      by_cases erased : q = place
      · subst erased
        by_cases same : other = q
        · simpa [same] using ih
        · simpa [same, List.lookup_cons, beq_eq_false_iff_ne.mpr same] using ih
      · by_cases here : other = q
        · subst here
          simp [erased]
        · simpa [erased, List.lookup_cons, beq_eq_false_iff_ne.mpr here] using ih

/-- Names lead to the same place in every tree that has the same directories. -/
theorem walk_of_directories
    (kept : ∀ place, t.node? place = some .directory → t'.node? place = some .directory)
    {here names place : List String} (reached : t.walk here names = .ok place) :
    t'.walk here names = .ok place := by
  induction names generalizing here with
  | nil => exact reached
  | cons name names ih =>
    unfold walk at reached ⊢
    split at reached
    · cases reached
    · cases reached
    · rename_i directory
      rw [kept here directory]
      split at reached
      · rename_i same
        simpa [same] using ih reached
      · rename_i other
        split at reached
        · rename_i up
          simpa [up] using ih reached
        · rename_i down
          simpa [other, down] using ih reached

theorem locate_of_directories (home : t'.home = t.home)
    (kept : ∀ place, t.node? place = some .directory → t'.node? place = some .directory)
    {place : List String} (reached : t.locate p = .ok place) : t'.locate p = .ok place := by
  unfold locate at reached ⊢
  split at reached
  · cases reached
  · rename_i named
    rw [if_neg named, home]
    exact walk_of_directories kept reached

theorem status_of_locate {place : List String} {node : Node} (reached : t.locate p = .ok place)
    (found : t.node? place = some node) : t.status p = .ok node := by
  simp [status, reached, found, bind, Except.bind]

@[simp] theorem home_put (t : FileTree) (place : List String) (node : Node) : (t.put place node).home = t.home := by
  unfold put
  split <;> rfl

@[simp] theorem obstacles_put (t : FileTree) (place : List String) (node : Node) :
    (t.put place node).obstacles = t.obstacles := by
  unfold put
  split <;> rfl

@[simp] theorem home_erase (t : FileTree) (place : List String) : (t.erase place).home = t.home := rfl

/-- The directories on the way to a place are still there when a file has been put at it, because a file never takes
the place of one. -/
theorem locate_put {place : List String} (reached : t.locate p = .ok place) (beneath : place ≠ [])
    (free : t.node? place ≠ some .directory) (content : Bytes) :
    (t.put place (.file content)).locate p = .ok place := by
  refine locate_of_directories (t.home_put place _) (fun q directory => ?_) reached
  have other : q ≠ place := fun same => free (same ▸ directory)
  rw [node?_put beneath, if_neg other, directory]

/-- A file that has been opened to be written is empty, and stands where there was no directory. -/
theorem create_eq {place : List String} (made : t.create p = .ok (place, t')) :
    place ≠ [] ∧ t.locate p = .ok place ∧ t.node? place ≠ some .directory ∧ t' = t.put place (.file []) := by
  unfold create at made
  cases reached : t.locate p with
  | error fault => simp [reached, bind, Except.bind] at made
  | ok q =>
    simp only [reached, bind, Except.bind] at made
    split at made
    · cases made
    · cases made
    · rename_i free
      cases made
      refine ⟨?_, rfl, free, rfl⟩
      rintro rfl
      exact free rfl

/-- Writing behind what a file holds succeeds, or breaks off after some of it. -/
theorem fill_cases (t : FileTree) (place : List String) (old content : Bytes) :
    t.fill place old content = (.ok (), t.put place (.file (old ++ content))) ∨
      ∃ room fault, room < content.length ∧ t.obstacles.write = some (room, fault) ∧
        t.fill place old content = (.error fault, t.put place (.file (old ++ content.take room))) := by
  unfold fill Obstacles.breakOff?
  split
  · rename_i room fault broken
    obtain ⟨known, short⟩ := Option.filter_eq_some_iff.mp broken
    exact Or.inr ⟨room, fault, by simpa using short, known, rfl⟩
  · exact Or.inl rfl

/-- What has been put into a file that has just been opened is there. -/
theorem status_put {place : List String} (made : t.create p = .ok (place, t')) (content : Bytes) :
    (t'.put place (.file content)).status p = .ok (.file content) := by
  obtain ⟨beneath, reached, free, rfl⟩ := create_eq made
  have here : (t.put place (.file [])).node? place = some (.file []) := by rw [node?_put beneath, if_pos rfl]
  have open_ := locate_put reached beneath free []
  have still := locate_put open_ beneath (by rw [here]; nofun) content
  exact status_of_locate still (by rw [node?_put beneath, if_pos rfl])

/-- A file that has been written to its end is there with its content. -/
theorem status_fill {place : List String} {t'' : FileTree} (made : t.create p = .ok (place, t'))
    (filled : t'.fill place [] content = (.ok (), t'')) : t''.status p = .ok (.file content) := by
  obtain done | ⟨room, fault, -, -, broken⟩ := t'.fill_cases place [] content
  · cases done.symm.trans filled
    exact status_put made content
  · cases broken.symm.trans filled

/-- Of a file whose writing has broken off a part is there. -/
theorem status_fill_error {place : List String} {t'' : FileTree} {fault : SystemFault}
    (made : t.create p = .ok (place, t')) (broken : t'.fill place [] content = (.error fault, t'')) :
    ∃ room < content.length, t''.status p = .ok (.file (content.take room)) := by
  obtain done | ⟨room, fault, short, -, torn⟩ := t'.fill_cases place [] content
  · cases done.symm.trans broken
  · cases torn.symm.trans broken
    exact ⟨room, short, status_put made (content.take room)⟩

/-- Opening a file and writing to it leaves everything else as it was, also if it breaks off. -/
theorem node?_fill {place : List String} {t'' : FileTree} {result : Except SystemFault Unit}
    (made : t.create p = .ok (place, t')) (filled : t'.fill place [] content = (result, t'')) {other : List String}
    (elsewhere : t.locate p ≠ .ok other) : t''.node? other = t.node? other := by
  obtain ⟨beneath, reached, -, rfl⟩ := create_eq made
  have apart : other ≠ place := by
    rintro rfl
    exact elsewhere reached
  obtain done | ⟨room, fault, -, -, torn⟩ := (t.put place (.file [])).fill_cases place [] content
  · cases done.symm.trans filled
    rw [node?_put beneath, if_neg apart, node?_put beneath, if_neg apart]
  · cases torn.symm.trans filled
    rw [node?_put beneath, if_neg apart, node?_put beneath, if_neg apart]

theorem isFile_of_status (found : t.status p = .ok (.file content)) : t.isFile p = true := by
  rw [isFile, found]

/-- Removing a file takes it from its place. -/
theorem remove_eq (removed : t.remove p = .ok t') :
    ∃ place content, place ≠ [] ∧ t.locate p = .ok place ∧ t.node? place = some (.file content) ∧
      t' = t.erase place := by
  unfold remove at removed
  cases reached : t.locate p with
  | error fault => simp [reached, bind, Except.bind] at removed
  | ok place =>
    simp only [reached, bind, Except.bind] at removed
    split at removed
    · cases removed
    · cases removed
    · cases removed
    · rename_i content found _
      cases removed
      refine ⟨place, content, ?_, rfl, found, rfl⟩
      rintro rfl
      cases found

/-- Where a file has been removed there is nothing. -/
theorem status_remove (removed : t.remove p = .ok t') : t'.status p = .error .notFound := by
  obtain ⟨place, content, beneath, reached, found, rfl⟩ := remove_eq removed
  have still : (t.erase place).locate p = .ok place := by
    refine locate_of_directories (t.home_erase place) (fun q directory => ?_) reached
    have other : q ≠ place := by
      rintro rfl
      cases found.symm.trans directory
    rw [node?_erase beneath, if_neg other, directory]
  simp [status, still, node?_erase beneath, bind, Except.bind]

/-- Nothing else is gone when a file has been removed. -/
theorem node?_remove (removed : t.remove p = .ok t') {place : List String} (elsewhere : t.locate p ≠ .ok place) :
    t'.node? place = t.node? place := by
  obtain ⟨gone, _, beneath, reached, -, rfl⟩ := remove_eq removed
  have other : place ≠ gone := by
    rintro rfl
    exact elsewhere reached
  rw [node?_erase beneath, if_neg other]

theorem isFile_of_remove (removed : t.remove p = .ok t') : t'.isFile p = false := by
  rw [isFile, status_remove removed]

/-- Where files may be removed, what cannot be removed is no file. -/
theorem isFile_of_remove_error (free : t.obstacles.remove = none) {fault : SystemFault}
    (failed : t.remove p = .error fault) : t.isFile p = false := by
  unfold isFile status
  unfold remove at failed
  cases reached : t.locate p with
  | error fault => rfl
  | ok place =>
    simp only [reached, bind, Except.bind] at failed ⊢
    split at failed
    · rename_i nothing
      rw [nothing]
    · rename_i directory
      rw [directory]
    · rename_i refused
      cases free.symm.trans refused
    · cases failed

theorem obstacles_remove (removed : t.remove p = .ok t') : t'.obstacles = t.obstacles := by
  obtain ⟨place, content, -, -, -, rfl⟩ := remove_eq removed
  rfl

theorem isFile_of_hasNode (there : t.hasNode p = true) (noDirectory : t.status p ≠ .ok .directory) :
    t.isFile p = true := by
  unfold hasNode at there
  unfold isFile
  cases found : t.status p with
  | error fault => simp [found, Except.isOk, Except.toBool] at there
  | ok node =>
    cases node with
    | directory => exact absurd found noDirectory
    | file content => rfl

end FileTree
end KernelLink
