import KernelLink.Connection.File
import KernelLink.Proofs.Connection.WriteRead
import KernelLink.Proofs.FileTree

namespace KernelLink

/-- Every port is one that there is. -/
def ConnectionInfo.Fits (i : ConnectionInfo) : Prop := ∀ port ∈ i.ports, port < 65536

instance (i : ConnectionInfo) : Decidable i.Fits :=
  inferInstanceAs (Decidable (∀ port ∈ i.ports, port < 65536))

/-- A picker names no ports but those that there are. -/
def PortPicker.Valid (picker : PortPicker) : Prop := ∀ n port, picker n = some port → port < 65536

/-- What can go wrong when a port is looked for: there is none that is free, or none but those reserved. -/
inductive PortFailure : Failure → Prop
  | exhausted (label : String) : PortFailure (.processStart ("Failed to pick " ++ label ++
      " port; no free ports available or port range exhausted"))
  | reserved (label : String) :
      PortFailure (.processStart ("Failed to pick unreserved " ++ label ++ " port after 10 tries"))

/-- What can go wrong before a connection file is opened to be written: a setting is not allowed, there is no port for
it, or the file system refuses to open it. -/
inductive WriteFailure : Failure → Prop
  | transport (name : String) : WriteFailure (.config (.transport name))
  | address (ip : String) : WriteFailure (.config (.address ip))
  | scheme (name : String) : WriteFailure (.config (.scheme name))
  | port {failure : Failure} : PortFailure failure → WriteFailure failure
  | io (fault : SystemFault) : WriteFailure (.io fault)

namespace Ports

variable {picker : PortPicker} {info : ConnectionInfo}

theorem find_lt (valid : PortPicker.Valid picker) {label : String} {reserved : List Nat}
    {patience asked port : Nat} (found : (find picker label reserved patience asked).1 = .ok port) : port < 65536 := by
  fun_induction find picker label reserved patience asked with
  | case1 => cases found
  | case2 => cases found
  | case3 _ _ _ _ _ ih => exact ih found
  | case4 _ _ _ named =>
    cases found
    exact valid _ _ named

theorem find_failure {label : String} {reserved : List Nat} {patience asked : Nat} {failure : Failure}
    (failed : (find picker label reserved patience asked).1 = .error failure) : PortFailure failure := by
  fun_induction find picker label reserved patience asked with
  | case1 =>
    cases failed
    exact .exhausted label
  | case2 =>
    cases failed
    exact .reserved label
  | case3 _ _ _ _ _ ih => exact ih failed
  | case4 => cases failed

theorem fits_set {slot : Slot} (known : slot ∈ slots) {n : Nat} (small : n < 65536) (fits : info.Fits) :
    (slot.set info n).Fits := by
  simp only [ConnectionInfo.Fits, ConnectionInfo.ports, List.forall_mem_cons, List.not_mem_nil, false_implies,
    implies_true, and_true] at fits ⊢
  simp only [slots, List.mem_cons, List.not_mem_nil, or_false] at known
  rcases known with rfl | rfl | rfl | rfl | rfl <;> simp_all

theorem fill_fits (valid : PortPicker.Valid picker) {chosen : List Slot} (known : chosen ⊆ slots) (fits : info.Fits)
    (reserved : List Nat) (asked : Nat) : (fill picker chosen reserved info asked).2.1.Fits := by
  induction chosen generalizing reserved info asked with
  | nil => exact fits
  | cons slot rest ih =>
    have others : rest ⊆ slots := fun _ member => known (List.mem_cons_of_mem _ member)
    unfold fill
    split
    · exact ih others fits reserved asked
    · cases found : find picker slot.label reserved 10 asked with
      | mk result asked' =>
        cases result with
        | ok port =>
          exact ih others (fits_set (known (List.mem_cons_self ..)) (find_lt valid (congrArg Prod.fst found)) fits)
            _ asked'
        | error failure => exact fits

theorem fill_failure {chosen : List Slot} {reserved : List Nat} {asked : Nat} {failure : Failure}
    (failed : (fill picker chosen reserved info asked).1 = .error failure) : PortFailure failure := by
  induction chosen generalizing reserved info asked with
  | nil => cases failed
  | cons slot rest ih =>
    unfold fill at failed
    split at failed
    · exact ih failed
    · cases found : find picker slot.label reserved 10 asked with
      | mk result asked' =>
        rw [found] at failed
        cases result with
        | ok port => exact ih failed
        | error other =>
          cases failed
          exact find_failure (congrArg Prod.fst found)

theorem assign_fits (valid : PortPicker.Valid picker) (fits : info.Fits) (asked : Nat) :
    (assign picker info asked).2.1.Fits := fill_fits valid (List.Subset.refl _) fits _ asked

end Ports

namespace ConnectionFile

theorem validate_failure {f : ConnectionFile} {failure : Failure} (refused : f.validate = .error failure) :
    WriteFailure failure := by
  unfold validate at refused
  split at refused
  · cases refused
    exact .transport _
  split at refused
  · cases refused
    exact .address _
  split at refused
  · cases refused
    exact .scheme _
  · cases refused

/-- A file that has been written and is there is not written again. -/
theorem write_again {f : ConnectionFile} {disk : Disk} (written : f.written = true)
    (there : disk.tree.hasNode f.path = true) : f.write disk = (.ok (), f, disk) := by
  simp [write, written, there]

/-- A connection as far as ports have been assigned to it, and how often the picker has been asked by then. -/
inductive Drafted (f : ConnectionFile) (disk : Disk) : ConnectionInfo → Nat → Prop
  | unchanged : Drafted f disk f.info disk.asked
  | assigned {result info asked} : Ports.assign disk.picker f.info disk.asked = (result, info, asked) →
      Drafted f disk info asked

/-- A connection file that is due to be written has been opened: its settings are allowed, it has all its ports, and
it stands empty at its place. -/
structure Opened (f : ConnectionFile) (disk : Disk) (info : ConnectionInfo) (asked : Nat) (place : List String)
    (made : FileTree) : Prop where
  due : ¬(f.written = true ∧ disk.tree.hasNode f.path = true)
  valid : f.validate = .ok ()
  assigned : Ports.assign disk.picker f.info disk.asked = (.ok (), info, asked)
  opened : disk.tree.create f.path = .ok (place, made)

/-- How writing a connection file may end: it has been written before and is there; it is not opened, and no file is
touched; it is opened, and its text is cut short; or it is there with its text. -/
inductive Writing (f : ConnectionFile) (disk : Disk) : Except Failure Unit × ConnectionFile × Disk → Prop
  | again : f.written = true → disk.tree.hasNode f.path = true → Writing f disk (.ok (), f, disk)
  | refused {failure info asked} : ¬(f.written = true ∧ disk.tree.hasNode f.path = true) → WriteFailure failure →
      Drafted f disk info asked → Writing f disk (.error failure, { f with info := info }, { disk with asked := asked })
  | torn {info asked place made fault tree} : f.Opened disk info asked place made →
      made.fill place [] info.fileText = (.error fault, tree) →
      Writing f disk (.error (.json (.io fault.describe)), { f with info := info },
        { disk with tree := tree, asked := asked })
  | written {info asked place made tree} : f.Opened disk info asked place made →
      made.fill place [] info.fileText = (.ok (), tree) →
      Writing f disk (.ok (), ⟨info, f.path, true⟩, { disk with tree := tree, asked := asked })

theorem writing_write (f : ConnectionFile) (disk : Disk) : f.Writing disk (f.write disk) := by
  by_cases there : f.written = true ∧ disk.tree.hasNode f.path = true
  · rw [write_again there.1 there.2]
    exact .again there.1 there.2
  · have absent : (f.written && disk.tree.hasNode f.path) = false := by
      rwa [Bool.eq_false_iff, Ne, Bool.and_eq_true]
    unfold write assignPorts
    rw [if_neg (by simp [absent])]
    cases valid : f.validate with
    | error failure => exact .refused there (validate_failure valid) .unchanged
    | ok _ =>
      rcases assigned : Ports.assign disk.picker f.info disk.asked with ⟨failure | _, info, asked⟩
      · exact .refused there (.port (Ports.fill_failure (congrArg Prod.fst assigned))) (.assigned assigned)
      · dsimp only
        cases opened : disk.tree.create f.path with
        | error fault => exact .refused there (.io fault) (.assigned assigned)
        | ok handle =>
          have known : f.Opened disk info asked handle.1 handle.2 := ⟨there, valid, assigned, opened⟩
          rcases filled : handle.2.fill handle.1 [] info.fileText with ⟨fault | _, tree⟩
          · simp only [filled]
            exact .torn known filled
          · simp only [filled]
            exact .written known filled

variable {f : ConnectionFile} {disk : Disk} {info : ConnectionInfo} {asked : Nat} {place : List String}
  {made tree : FileTree} {fault : SystemFault}

theorem Drafted.fits (drafted : f.Drafted disk info asked) (valid : PortPicker.Valid disk.picker)
    (fits : f.info.Fits) : info.Fits := by
  cases drafted with
  | unchanged => exact fits
  | assigned assigned =>
    have filled := Ports.assign_fits valid fits disk.asked
    rwa [assigned] at filled

theorem Opened.drafted (opened : f.Opened disk info asked place made) : f.Drafted disk info asked :=
  .assigned opened.assigned

/-- Writing a file does nothing to its connection but assign ports. -/
theorem drafted_write (f : ConnectionFile) (disk : Disk) :
    ∃ asked, f.Drafted disk (f.write disk).2.1.info asked := by
  have ends := f.writing_write disk
  generalize f.write disk = result at ends ⊢
  cases ends with
  | again => exact ⟨_, .unchanged⟩
  | refused _ _ drafted => exact ⟨_, drafted⟩
  | torn opened => exact ⟨_, opened.drafted⟩
  | written opened => exact ⟨_, opened.drafted⟩

/-- A file is written anew if its settings are allowed, there are ports, and the file system takes it. -/
theorem write_anew (opened : f.Opened disk info asked place made)
    (filled : made.fill place [] info.fileText = (.ok (), tree)) :
    f.write disk = (.ok (), ⟨info, f.path, true⟩, { disk with tree := tree, asked := asked }) := by
  have due := opened.due
  rw [← Bool.and_eq_true, Bool.not_eq_true] at due
  simp [write, due, opened.valid, assignPorts, opened.assigned, opened.opened, filled]

/-- A file that has been opened stays as it is if writing to it breaks off. -/
theorem write_torn (opened : f.Opened disk info asked place made)
    (broken : made.fill place [] info.fileText = (.error fault, tree)) :
    f.write disk = (.error (.json (.io fault.describe)), { f with info := info },
      { disk with tree := tree, asked := asked }) := by
  have due := opened.due
  rw [← Bool.and_eq_true, Bool.not_eq_true] at due
  simp [write, due, opened.valid, assignPorts, opened.assigned, opened.opened, broken]

/-- What is opened is not refused. -/
theorem Opened.not_refused (opened : f.Opened disk info asked place made) {failure : Failure}
    (failed : (f.write disk).1 = .error failure) : ¬WriteFailure failure := by
  rcases filled : made.fill place [] info.fileText with ⟨fault | _, tree⟩
  · rw [write_torn opened filled] at failed
    cases failed
    intro kind
    cases kind with
    | port portless => cases portless
  · rw [write_anew opened filled] at failed
    cases failed

/-- A write that succeeds has not been cut short. -/
theorem Opened.whole (opened : f.Opened disk info asked place made) (done : (f.write disk).1 = .ok ()) :
    made.fill place [] info.fileText ≠ (.error fault, tree) := by
  intro broken
  rw [write_torn opened broken] at done
  cases done

/-- What has been written to a file is read back from it. -/
theorem ofFile_of_status {path : Path} (fits : info.Fits)
    (there : tree.status path = .ok (.file info.fileText)) : ofFile tree path = .ok (.ofInfo info path) := by
  simp only [ofFile, there, info.parse_fileText fits]
  rfl

theorem written_cleanup (f : ConnectionFile) (disk : Disk) :
    (f.cleanup disk).1 = { f with written := false } := by
  unfold cleanup
  split
  · rename_i unwritten
    rw [Bool.not_eq_true'] at unwritten
    rw [← unwritten]
  · split <;> rfl

/-- Removing a connection file leaves what stands in the way. -/
theorem obstacles_cleanup (f : ConnectionFile) (disk : Disk) :
    (f.cleanup disk).2.tree.obstacles = disk.tree.obstacles := by
  unfold cleanup
  split
  · rfl
  · split
    · rename_i removed
      exact FileTree.obstacles_remove removed
    · rfl

/-- A file that this object wrote is gone once it has been removed, where files may be removed. -/
theorem isFile_cleanup (written : f.written = true)
    (free : (f.cleanup disk).2.tree.obstacles.remove = none) : (f.cleanup disk).2.tree.isFile f.path = false := by
  rw [obstacles_cleanup] at free
  simp only [cleanup, written, Bool.not_true, Bool.false_eq_true, if_false]
  split
  · rename_i removed
    exact FileTree.isFile_of_remove removed
  · rename_i failed
    exact FileTree.isFile_of_remove_error free failed

end ConnectionFile
end KernelLink
