import KernelLink.Proofs.Connection.Operations

namespace KernelLink
namespace ConnectionFile

/-- What others may do while somebody has a connection file: anything but to make or change what stands at its path.
They may remove it. -/
def Spares (path : Path) (tree tree' : FileTree) : Prop :=
  tree'.status path = tree.status path ∨ ∃ fault, tree'.status path = .error fault

theorem Spares.remove {path : Path} {tree tree' : FileTree} (removed : tree.remove path = .ok tree') :
    Spares path tree tree' := Or.inr ⟨_, FileTree.status_remove removed⟩

/-- What becomes of the files when writing to that path is cut short: the file has been made, or the one that was there
emptied, and it holds a part of what it was to hold. -/
def CutShort (path : Path) (tree tree' : FileTree) : Prop :=
  ∃ place made text fault, tree.create path = .ok (place, made) ∧ made.fill place [] text = (.error fault, tree')

theorem CutShort.status {path : Path} {tree tree' : FileTree} (short : CutShort path tree tree') :
    ∃ part, tree'.status path = .ok (.file part) := by
  obtain ⟨place, made, text, fault, opened, broken⟩ := short
  obtain ⟨room, -, there⟩ := FileTree.status_fill_error opened broken
  exact ⟨_, there⟩

/-- A connection file that has just been made, from a connection or from what stands at a path. -/
def Created (tree : FileTree) (f : ConnectionFile) : Prop :=
  (∃ info path, f = ofInfo info path) ∨ ∃ path, ofFile tree path = .ok f

/-- A write has succeeded, and there has been no cleanup since. -/
def Wrote (past : List (Operation × Except Failure Unit)) : Prop :=
  ∃ earlier later, past = earlier ++ (.write, .ok ()) :: later ∧ ∀ event ∈ later, event.1 ≠ .cleanup

variable {f : ConnectionFile} {past : List (Operation × Except Failure Unit)}

theorem Created.unwritten {tree : FileTree} (created : Created tree f) : f.written = false := by
  rcases created with ⟨info, path, rfl⟩ | ⟨path, read⟩
  · rfl
  · unfold ofFile at read
    split at read
    · cases read
    · cases read
    · split at read
      · cases read
        rfl
      · cases read

theorem not_wrote_nil : ¬Wrote [] := by
  rintro ⟨earlier, later, none, -⟩
  cases earlier <;> cases none

theorem wrote_snoc {op : Operation} {answer : Except Failure Unit} :
    Wrote (past ++ [(op, answer)]) ↔ op = .write ∧ answer = .ok () ∨ op ≠ .cleanup ∧ Wrote past := by
  constructor
  · rintro ⟨earlier, later, whole, kept⟩
    obtain rfl | ⟨later, last, rfl⟩ := List.eq_nil_or_concat' later
    · obtain ⟨-, last⟩ := List.append_inj' whole rfl
      cases last
      exact Or.inl ⟨rfl, rfl⟩
    · rw [← List.cons_append, ← List.append_assoc] at whole
      obtain ⟨rfl, last⟩ := List.append_inj' whole rfl
      cases last
      exact Or.inr ⟨kept (op, answer) (by simp), earlier, later, rfl, fun event member => kept event (by simp [member])⟩
  · rintro (⟨rfl, rfl⟩ | ⟨goesOn, earlier, later, rfl, kept⟩)
    · exact ⟨past, [], rfl, fun _ member => nomatch member⟩
    · refine ⟨earlier, later ++ [(op, answer)], by simp, fun event member => ?_⟩
      rcases List.mem_append.mp member with before | last
      · exact kept event before
      · rw [List.mem_singleton.mp last]
        exact goesOn

theorem cleanup_of_unwritten (unwritten : f.written = false) (disk : Disk) : f.cleanup disk = (f, disk) := by
  simp [cleanup, unwritten]

theorem path_write (f : ConnectionFile) (disk : Disk) : (f.write disk).2.1.path = f.path := by
  have ends := f.writing_write disk
  generalize f.write disk = result at ends ⊢
  cases ends <;> rfl

theorem path_perform (op : Operation) (f : ConnectionFile) (disk : Disk) :
    (op.perform f disk).2.1.path = f.path := by
  cases op with
  | validate => rfl
  | assignPorts => rfl
  | generateKey octets => rfl
  | write => exact path_write f disk
  | cleanup =>
    have same : (f.cleanup disk).1.path = f.path := by rw [written_cleanup]
    exact same

/-- What an operation does to the files and to the mark: nothing, or it is a write that is cut short or leaves a file,
or it is a cleanup, which does not touch the files unless the file counts as written. A write that does nothing and
yet succeeds finds something in the place of a file that counts as written. -/
theorem perform_cases (op : Operation) (f : ConnectionFile) (disk : Disk) :
    (op ≠ .cleanup ∧ (op.perform f disk).2.1.written = f.written ∧ (op.perform f disk).2.2.tree = disk.tree ∧
        (op = .write → (op.perform f disk).1 = .ok () →
          f.written = true ∧ disk.tree.hasNode f.path = true)) ∨
      (op = .write ∧ (∃ reason, (op.perform f disk).1 = .error (.json reason)) ∧
        (op.perform f disk).2.1.written = f.written ∧ CutShort f.path disk.tree (op.perform f disk).2.2.tree) ∨
      (op = .write ∧ (op.perform f disk).1 = .ok () ∧ (op.perform f disk).2.1.written = true ∧
        (op.perform f disk).2.2.tree.isFile f.path = true) ∨
      op = .cleanup ∧ (op.perform f disk).2.1.written = false ∧
        (f.written = false → (op.perform f disk).2.2.tree = disk.tree) := by
  cases op with
  | validate => exact Or.inl ⟨nofun, rfl, rfl, nofun⟩
  | assignPorts => exact Or.inl ⟨nofun, rfl, rfl, nofun⟩
  | generateKey octets => exact Or.inl ⟨nofun, rfl, rfl, nofun⟩
  | write =>
    rw [Operation.perform]
    have ends := f.writing_write disk
    generalize f.write disk = result at ends ⊢
    cases ends with
    | again written there => exact Or.inl ⟨nofun, rfl, rfl, fun _ _ => ⟨written, there⟩⟩
    | refused _ _ _ => exact Or.inl ⟨nofun, rfl, rfl, fun _ => nofun⟩
    | torn opened broken =>
      exact Or.inr (Or.inl ⟨rfl, ⟨_, rfl⟩, rfl, _, _, _, _, opened.opened, broken⟩)
    | written opened filled =>
      have there := FileTree.status_fill opened.opened filled
      exact Or.inr (Or.inr (Or.inl ⟨rfl, rfl, rfl, FileTree.isFile_of_status there⟩))
  | cleanup =>
    refine Or.inr (Or.inr (Or.inr ⟨rfl, congrArg ConnectionFile.written (written_cleanup f disk),
      fun unwritten => ?_⟩))
    exact congrArg (·.2.tree) (cleanup_of_unwritten unwritten disk)

variable {others : FileTree → FileTree → Prop} {f₀ : ConnectionFile} {disk disk₀ : Disk}

theorem Run.path_eq (run : Run others f₀ disk₀ past f disk) : f.path = f₀.path := by
  induction run with
  | begin => rfl
  | perform op _ ih => exact (path_perform op _ _).trans ih
  | meanwhile _ _ _ ih => exact ih

/-- A file counts as written exactly if a write has succeeded and there has been no cleanup since. -/
theorem Run.written_iff (run : Run others f₀ disk₀ past f disk) (unwritten : f₀.written = false) :
    f.written = true ↔ Wrote past := by
  induction run with
  | begin => simp [unwritten, not_wrote_nil]
  | @perform past f disk op _ ih =>
    rw [wrote_snoc]
    obtain ⟨goesOn, same, -, before⟩ | ⟨rfl, ⟨reason, failed⟩, same, -⟩ | ⟨write, done, written, -⟩ |
      ⟨cleanup, off, -⟩ := perform_cases op f disk
    · rw [same, ih]
      exact ⟨fun wrote => Or.inr ⟨goesOn, wrote⟩, fun either => either.elim
        (fun both => ih.mp (before both.1 both.2).1) And.right⟩
    · rw [same, ih, failed]
      simp
    · exact ⟨fun _ => Or.inl ⟨write, done⟩, fun _ => written⟩
    · rw [off]
      simp [cleanup]
  | meanwhile _ _ _ ih => exact ih

/-- What may become of the files while no write succeeds: others change them, or a write is cut short. -/
def Changes (others : FileTree → FileTree → Prop) (path : Path) (past : List (Operation × Except Failure Unit))
    (tree tree' : FileTree) : Prop :=
  others tree tree' ∨ (∃ reason, (.write, .error (.json reason)) ∈ past) ∧ CutShort path tree tree'

theorem Changes.later {path : Path} {tree tree' : FileTree} (changed : Changes others path past tree tree')
    (event : Operation × Except Failure Unit) : Changes others path (past ++ [event]) tree tree' :=
  changed.imp_right fun ⟨⟨reason, member⟩, short⟩ => ⟨⟨reason, List.mem_append_left _ member⟩, short⟩

/-- As long as no write has succeeded, all that has become of the files is the doing of others and of writes that have
been cut short. -/
theorem Run.untouched (run : Run others f₀ disk₀ past f disk) (unwritten : f₀.written = false)
    (never : (Operation.write, .ok ()) ∉ past) :
    Relation.ReflTransGen (Changes others f₀.path past) disk₀.tree disk.tree := by
  induction run with
  | begin => exact .refl
  | @perform past f disk op run ih =>
    have later : Changes others f₀.path past ≤ Changes others f₀.path (past ++ [(op, (op.perform f disk).1)]) :=
      fun _ _ changed => changed.later _
    have before := Relation.ReflTransGen.mono later _ _ (ih fun member => never (List.mem_append_left _ member))
    obtain ⟨-, -, same, -⟩ | ⟨rfl, ⟨reason, failed⟩, -, short⟩ | ⟨rfl, done, -⟩ | ⟨-, -, same⟩ :=
      perform_cases op f disk
    · rwa [same]
    · refine before.tail (Or.inr ⟨⟨reason, ?_⟩, run.path_eq ▸ short⟩)
      simp [failed]
    · exact absurd (by simp [done]) never
    · rwa [same]
      rw [← Bool.not_eq_true, run.written_iff unwritten]
      rintro ⟨earlier, later, rfl, -⟩
      exact never (by simp)
  | meanwhile _ _ changed ih => exact (ih never).tail (Or.inl changed)

/-- As long as nobody else makes anything in its place, a file that counts as written is there as a file or has been
removed. -/
theorem Run.not_directory (run : Run others f₀ disk₀ past f disk)
    (spares : ∀ tree tree', others tree tree' → Spares f₀.path tree tree') (unwritten : f₀.written = false)
    (written : f.written = true) : disk.tree.status f.path ≠ .ok .directory := by
  induction run with
  | begin => cases unwritten.symm.trans written
  | @perform past f disk op run ih =>
    rw [path_perform]
    obtain ⟨-, mark, same, -⟩ | ⟨-, -, -, short⟩ | ⟨-, -, -, there⟩ | ⟨-, off, -⟩ := perform_cases op f disk
    · rw [same]
      exact ih (mark ▸ written)
    · obtain ⟨part, there⟩ := short.status
      rw [there]
      nofun
    · intro directory
      rw [FileTree.isFile, directory] at there
      cases there
    · cases off.symm.trans written
  | meanwhile disk' run changed ih =>
    rw [run.path_eq] at ih ⊢
    obtain same | ⟨fault, gone⟩ := spares _ _ changed
    · rw [same]
      exact ih written
    · rw [gone]
      intro directory
      cases directory

/-- A file that counts as written is gone after a cleanup, where files may be removed. -/
theorem Run.hasNode_cleanup (run : Run others f₀ disk₀ past f disk)
    (spares : ∀ tree tree', others tree tree' → Spares f₀.path tree tree') (unwritten : f₀.written = false)
    (written : f.written = true) (free : disk.tree.obstacles.remove = none) :
    (f.cleanup disk).2.tree.hasNode f.path = false := by
  simp only [cleanup, written, Bool.not_true, Bool.false_eq_true, if_false]
  split
  · rename_i tree removed
    rw [FileTree.hasNode, FileTree.status_remove removed]
    rfl
  · rename_i fault failed
    have noFile := FileTree.isFile_of_remove_error free failed
    rw [Bool.eq_false_iff] at noFile ⊢
    exact fun there => noFile (FileTree.isFile_of_hasNode there (run.not_directory spares unwritten written))

/-- A cleanup touches nothing but the file itself. -/
theorem node?_cleanup (f : ConnectionFile) (disk : Disk) {place : List String}
    (elsewhere : disk.tree.locate f.path ≠ .ok place) :
    (f.cleanup disk).2.tree.node? place = disk.tree.node? place := by
  unfold cleanup
  split
  · rfl
  · split
    · rename_i tree removed
      exact FileTree.node?_remove removed elsewhere
    · rfl

/-- After a write that succeeds there is a file, whatever others have removed before. -/
theorem Run.isFile_write (run : Run others f₀ disk₀ past f disk)
    (spares : ∀ tree tree', others tree tree' → Spares f₀.path tree tree') (unwritten : f₀.written = false)
    (done : (f.write disk).1 = .ok ()) : (f.write disk).2.2.tree.isFile f.path = true := by
  obtain ⟨-, -, same, before⟩ | ⟨-, ⟨reason, failed⟩, -⟩ | ⟨-, -, -, there⟩ | ⟨cleanup, -⟩ :=
    perform_cases .write f disk
  · obtain ⟨written, node⟩ := before rfl done
    have same : (f.write disk).2.2.tree = disk.tree := same
    rw [same]
    exact FileTree.isFile_of_hasNode node (run.not_directory spares unwritten written)
  · cases failed.symm.trans done
  · exact there
  · cases cleanup

/-- A connection file that nobody else makes or changes is removed exactly if this object has written it. The mark is
set if and only if a write has succeeded and there has been no cleanup since. A cleanup then takes the file away, if
files may be removed, and otherwise it touches nothing; it never touches anything else. Before the first write that
succeeds, all that becomes of the files is the doing of others, and of writes that make or empty the file and are cut
short if there have been such. After a write that succeeds the file is there, also if others had removed it. -/
theorem Run.removes_what_it_wrote (created : Created disk₀.tree f₀) (run : Run others f₀ disk₀ past f disk)
    (spares : ∀ tree tree', others tree tree' → Spares f₀.path tree tree') :
    f.path = f₀.path ∧ (f.written = true ↔ Wrote past) ∧
      (Wrote past → disk.tree.obstacles.remove = none → (f.cleanup disk).2.tree.hasNode f.path = false) ∧
      (∀ place, disk.tree.locate f.path ≠ .ok place →
        (f.cleanup disk).2.tree.node? place = disk.tree.node? place) ∧
      (¬Wrote past → (f.cleanup disk).2 = disk) ∧
      ((.write, .ok ()) ∉ past → Relation.ReflTransGen (Changes others f₀.path past) disk₀.tree disk.tree) ∧
      ((f.write disk).1 = .ok () → (f.write disk).2.2.tree.isFile f.path = true) := by
  have unwritten := created.unwritten
  have mark := run.written_iff unwritten
  refine ⟨run.path_eq, mark, fun wrote => run.hasNode_cleanup spares unwritten (mark.mpr wrote),
    fun place => node?_cleanup f disk, fun never => ?_, run.untouched unwritten, run.isFile_write spares unwritten⟩
  have off : f.written = false := Bool.eq_false_iff.mpr (mt mark.mp never)
  rw [cleanup_of_unwritten off]

/-- What is left of the files when somebody has removed what was written. -/
def robbed : Disk := { stuttering with tree := untiedTree.erase ["k"], asked := 7 }

theorem remove_untied : untiedTree.remove "/k" = .ok robbed.tree := by
  have there : untiedTree.node? ["k"] = some (.file untied.fileText) := rfl
  have free : untiedTree.obstacles.remove = none := rfl
  simp only [FileTree.remove, locate_top, there, free, bind, Except.bind, robbed]

/-- A file has been written and others have removed it: it counts as written and is not there, and it is there again
when it has been written once more. A cleanup would not find anything. -/
theorem Run.written_twice : ∃ past f, Wrote past ∧
    Run (fun tree tree' => tree.remove "/k" = .ok tree') (ofInfo knotty "/k") stuttering past f robbed ∧
      f.written = true ∧ robbed.tree.hasNode "/k" = false ∧ (f.cleanup robbed).2.tree.hasNode "/k" = false ∧
      (f.write robbed).1 = .ok () ∧ (f.write robbed).2.2.tree.isFile f.path = true := by
  have first : Run (fun tree tree' => tree.remove "/k" = .ok tree') (ofInfo knotty "/k") stuttering
      ([] ++ [(.write, ((ofInfo knotty "/k").write stuttering).1)]) _ _ := Run.begin.perform .write
  rw [Operation.perform, write_knotty] at first
  have gone := first.meanwhile robbed remove_untied
  have absent : robbed.tree.hasNode "/k" = false := by
    rw [FileTree.hasNode, FileTree.status_remove remove_untied]
    rfl
  have valid : (⟨untied, "/k", true⟩ : ConnectionFile).validate = .ok () := validate_knotty
  have opened : Opened ⟨untied, "/k", true⟩ robbed untied 7 ["k"] (robbed.tree.put ["k"] (.file [])) :=
    ⟨fun both => Bool.false_ne_true (absent.symm.trans both.2), valid, rfl, create_top rfl rfl⟩
  have again := write_anew opened rfl
  have done := congrArg Prod.fst again
  have wrote : Wrote [(.write, .ok ())] := ⟨[], [], rfl, fun _ member => nomatch member⟩
  obtain ⟨-, mark, away, -, -, -, there⟩ := Run.removes_what_it_wrote (Or.inl ⟨_, _, rfl⟩) gone
    fun _ _ removed => Spares.remove removed
  exact ⟨_, _, wrote, gone, mark.mpr wrote, absent, away wrote rfl, done, there done⟩

/-- A write that is cut short leaves a part of the file, which no more counts as written than it did before, and
touches nothing else. If the file did not count as written, a cleanup leaves that part where it is. -/
theorem cut_short_stays {reason : Fault} (failed : (f.write disk).1 = .error (.json reason)) :
    (f.write disk).2.1.written = f.written ∧ (f.write disk).2.2.tree.isFile f.path = true ∧
      (∀ place, disk.tree.locate f.path ≠ .ok place →
        (f.write disk).2.2.tree.node? place = disk.tree.node? place) ∧
      (f.written = false → ((f.write disk).2.1.cleanup (f.write disk).2.2).2 = (f.write disk).2.2) := by
  have ends := f.writing_write disk
  generalize f.write disk = result at ends failed ⊢
  cases ends with
  | again => cases failed
  | refused _ kind =>
    cases failed
    cases kind with
    | port portless => cases portless
  | torn opened broken =>
    obtain ⟨room, -, there⟩ := FileTree.status_fill_error opened.opened broken
    refine ⟨rfl, FileTree.isFile_of_status there, fun _ => FileTree.node?_fill opened.opened broken,
      fun unwritten => ?_⟩
    simp only [cleanup, unwritten, Bool.not_false, if_true]
  | written => cases failed

end ConnectionFile
end KernelLink
