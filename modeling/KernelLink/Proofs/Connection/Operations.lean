import KernelLink.Proofs.Connection.Ports
import Mathlib

namespace KernelLink
namespace ConnectionFile

/-- What can be done with a connection file. -/
inductive Operation where
  | validate
  | assignPorts
  | generateKey (octets : Bytes)
  | write
  | cleanup

/-- What comes of an operation: an answer, the connection file and its surroundings. -/
def Operation.perform : Operation → ConnectionFile → Disk → Except Failure Unit × ConnectionFile × Disk
  | .validate, f, disk => (f.validate, f, disk)
  | .assignPorts, f, disk => f.assignPorts disk
  | .generateKey octets, f, disk => (.ok (), f.generateKey octets, disk)
  | .write, f, disk => f.write disk
  | .cleanup, f, disk => (.ok (), f.cleanup disk)

/-- Operations in any order, each with its answer. In between others change the files as they do, and the picker
may become another one. -/
inductive Run (others : FileTree → FileTree → Prop) (f₀ : ConnectionFile) (disk₀ : Disk) :
    List (Operation × Except Failure Unit) → ConnectionFile → Disk → Prop
  | begin : Run others f₀ disk₀ [] f₀ disk₀
  | perform {past f disk} (op : Operation) : Run others f₀ disk₀ past f disk →
      Run others f₀ disk₀ (past ++ [(op, (op.perform f disk).1)]) (op.perform f disk).2.1 (op.perform f disk).2.2
  | meanwhile {past f disk} (disk' : Disk) : Run others f₀ disk₀ past f disk → others disk.tree disk'.tree →
      Run others f₀ disk₀ past f disk'

variable {others : FileTree → FileTree → Prop} {f f' f₀ : ConnectionFile} {disk disk' disk₀ : Disk}
  {past : List (Operation × Except Failure Unit)}

/-- A write that succeeds, of a file that does not count as written, opens the file and fills it to its end. -/
theorem opened_of_write (unwritten : f.written = false) (wrote : f.write disk = (.ok (), f', disk')) :
    ∃ info asked place made tree, f.Opened disk info asked place made ∧
      made.fill place [] info.fileText = (.ok (), tree) ∧ f' = ⟨info, f.path, true⟩ ∧
      disk' = { disk with tree := tree, asked := asked } := by
  have ends := f.writing_write disk
  rw [wrote] at ends
  cases ends with
  | again written => cases unwritten.symm.trans written
  | written opened filled => exact ⟨_, _, _, _, _, opened, filled, rfl, rfl⟩

theorem answer_assignPorts (f : ConnectionFile) (disk : Disk) : (f.assignPorts disk).1 = .ok () ∨
    ∃ failure, PortFailure failure ∧ (f.assignPorts disk).1 = .error failure := by
  have same : (f.assignPorts disk).1 = (Ports.assign disk.picker f.info disk.asked).1 := rfl
  rw [same]
  cases answer : (Ports.assign disk.picker f.info disk.asked).1 with
  | ok _ => exact Or.inl rfl
  | error failure => exact Or.inr ⟨failure, Ports.fill_failure answer, rfl⟩

theorem kept_assignPorts (disk : Disk) {slot : Ports.Slot} (here : slot ∈ Ports.slots) (set : slot.get f.info ≠ 0) :
    slot.get (f.assignPorts disk).2.1.info = slot.get f.info :=
  Ports.assign_kept disk.picker disk.asked here set

theorem Drafted.kept {info : ConnectionInfo} {asked : Nat} (drafted : f.Drafted disk info asked) {slot : Ports.Slot}
    (here : slot ∈ Ports.slots) (set : slot.get f.info ≠ 0) : slot.get info = slot.get f.info := by
  cases drafted with
  | unchanged => rfl
  | assigned assigned =>
    have kept := Ports.assign_kept disk.picker disk.asked here set
    rwa [assigned] at kept

theorem get_generateKey {slot : Ports.Slot} (here : slot ∈ Ports.slots) (octets : Bytes) :
    slot.get (f.generateKey octets).info = slot.get f.info := by
  simp only [Ports.slots, List.mem_cons, List.not_mem_nil, or_false] at here
  rcases here with rfl | rfl | rfl | rfl | rfl <;> rfl

/-- No operation changes a port that is set. -/
theorem Operation.kept_perform (op : Operation) (disk : Disk) {slot : Ports.Slot} (here : slot ∈ Ports.slots)
    (set : slot.get f.info ≠ 0) : slot.get (op.perform f disk).2.1.info = slot.get f.info := by
  cases op with
  | validate => rfl
  | assignPorts => exact kept_assignPorts disk here set
  | generateKey octets => exact get_generateKey here octets
  | write =>
    obtain ⟨asked, drafted⟩ := drafted_write f disk
    exact drafted.kept here set
  | cleanup =>
    have same : (f.cleanup disk).1.info = f.info := by rw [written_cleanup]
    exact congrArg slot.get same

theorem Run.kept (run : Run others f₀ disk₀ past f disk) {slot : Ports.Slot} (here : slot ∈ Ports.slots)
    (set : slot.get f₀.info ≠ 0) : slot.get f.info = slot.get f₀.info := by
  induction run with
  | begin => rfl
  | perform op _ ih =>
    rw [op.kept_perform _ here (ih ▸ set), ih]
  | meanwhile _ _ _ ih => exact ih

/-- Assigning ports comes to an end: the picker is asked at most eleven times for each port that is missing, and
the answer is that it is done or why a port could not be had. A port that is set is not changed. A port that is
newly given differs from the other four, also when a later one could not be had. When it is done, all five are set,
and they differ from each other if those did that were set before. Whatever is done with the connection file from
then on, a port that is set stays as it is. -/
theorem ports_assigned_for_good (nonzero : disk.picker.Nonzero) :
    ∃ result g disk', f.assignPorts disk = (result, g, disk') ∧
      disk'.asked ≤ disk.asked + 11 * f.info.ports.count 0 ∧
      (result = .ok () ∨ ∃ failure, PortFailure failure ∧ result = .error failure) ∧
      (∀ slot ∈ Ports.slots, slot.get f.info ≠ 0 → slot.get g.info = slot.get f.info) ∧
      (∀ slot ∈ Ports.slots, slot.get f.info = 0 → slot.get g.info ≠ 0 →
        ∀ other ∈ Ports.slots, other ≠ slot → other.get g.info ≠ slot.get g.info) ∧
      (result = .ok () → (∀ slot ∈ Ports.slots, slot.get g.info ≠ 0) ∧
        ((f.info.ports.filter (· ≠ 0)).Nodup → g.info.ports.Nodup)) ∧
      ∀ others past h disk'', Run others f disk past h disk'' →
        ∀ slot ∈ Ports.slots, slot.get f.info ≠ 0 → slot.get h.info = slot.get f.info := by
  refine ⟨_, _, _, rfl, Ports.asked_assign .., answer_assignPorts f disk,
    fun slot here set => kept_assignPorts disk here set, fun slot here missing given other there different =>
      Ports.assign_apart nonzero here missing given there different, fun done => ⟨fun slot here => ?_, ?_⟩,
    fun others past h disk'' run slot here set => run.kept here set⟩
  · exact Ports.assign_complete nonzero done here
  · exact Ports.nodup_assign nonzero done

/-- A picker that names a port again and again, also when it is taken. -/
def stubborn : Disk := ⟨.empty, fun n => some (if n < 3 then 7 else 8), 0⟩

/-- The port that is set stays, one that is free is found at the fourth try, and no other is found after it. -/
theorem stubborn_picker_given_up :
    stubborn.picker.Nonzero ∧ ∃ g disk',
      (ofInfo { ConnectionInfo.default with shellPort := 7 } "/k").assignPorts stubborn =
        (.error (.processStart "Failed to pick unreserved stdin port after 10 tries"), g, disk') ∧
      g.info.ports = [7, 8, 0, 0, 0] ∧ disk'.asked = 15 ∧ disk'.asked ≤ 0 + 11 * 4 ∧
      ∀ others past h disk'', Run others (ofInfo { ConnectionInfo.default with shellPort := 7 } "/k") stubborn
        past h disk'' → h.info.shellPort = 7 := by
  have nonzero : stubborn.picker.Nonzero := by
    intro n port named
    simp only [stubborn, Option.some.injEq] at named
    split at named <;> omega
  obtain ⟨result, g, disk', assigned, bound, -, -, -, -, lasting⟩ := ports_assigned_for_good
    (f := ofInfo { ConnectionInfo.default with shellPort := 7 } "/k") nonzero
  refine ⟨nonzero, g, disk', ?_⟩
  cases assigned
  exact ⟨rfl, rfl, rfl, bound, fun others past h disk'' run =>
    lasting others past h disk'' run _ (List.mem_cons_self ..) (by decide)⟩

/-- A connection file that has been written is read back with the connection that its writer has then: all ports are
set, and the reader does not take it for a file of its own. -/
theorem ofFile_write (valid : disk.picker.Valid) (nonzero : disk.picker.Nonzero) (fits : f.info.Fits)
    (unwritten : f.written = false) (wrote : f.write disk = (.ok (), f', disk')) :
    ∃ g, ofFile disk'.tree f.path = .ok g ∧ g.info = f'.info ∧ g.info.portsAssigned = true ∧ g.written = false := by
  obtain ⟨info, asked, place, made, tree, opened, filled, rfl, rfl⟩ := opened_of_write unwritten wrote
  have complete := @Ports.portsAssigned_assign _ f.info disk.asked nonzero
  rw [opened.assigned] at complete
  have there := FileTree.status_fill opened.opened filled
  exact ⟨_, ofFile_of_status (opened.drafted.fits valid fits) there, rfl, complete rfl, rfl⟩

theorem locate_top (tree : FileTree) : tree.locate "/k" = .ok ["k"] := by
  have names : "/k".splitOn "/" = ["", "k"] := by cbv
  have absolute : "/k".startsWith "/" = true := by cbv
  simp [FileTree.locate, absolute, names, FileTree.walk, FileTree.node?]

/-- A file in the root can be opened where nothing stands in the way. -/
theorem create_top {tree : FileTree} (empty : tree.node? ["k"] = none) (free : tree.obstacles.create = none) :
    tree.create "/k" = .ok (["k"], tree.put ["k"] (.file [])) := by
  simp only [FileTree.create, locate_top, empty, free, bind, Except.bind]

/-- A connection whose texts have to be quoted, with two ports that are set. -/
def knotty : ConnectionInfo :=
  { ConnectionInfo.default with
    iopubPort := 9001, hbPort := 65535, ip := "LocalHost", key := "a\"b\\c\n\u0001é😀", kernelName := "\t\u007f/" }

/-- A picker that names each port twice. -/
def stuttering : Disk := ⟨.empty, fun n => some (9000 + n % 100 / 2), 0⟩

/-- The connection with all its ports, as it is written. -/
def untied : ConnectionInfo := { knotty with shellPort := 9000, stdinPort := 9002, controlPort := 9003 }

theorem validate_knotty : (ofInfo knotty "/k").validate = .ok () := by
  have here : isLocalAddress "LocalHost" = true := by cbv
  simp [validate, ofInfo, knotty, ConnectionInfo.default, here]

/-- The file that is written where there has been none. -/
def untiedTree : FileTree := { FileTree.empty with nodes := [(["k"], .file untied.fileText)] }

theorem write_knotty : (ofInfo knotty "/k").write stuttering =
    (.ok (), ⟨untied, "/k", true⟩, { stuttering with tree := untiedTree, asked := 7 }) :=
  write_anew ⟨fun both => Bool.false_ne_true both.1, validate_knotty, rfl, create_top rfl rfl⟩ rfl

theorem ofFile_write_knotty : ∃ f' disk', (ofInfo knotty "/k").write stuttering = (.ok (), f', disk') ∧
    f'.info.ports = [9000, 9001, 9002, 65535, 9003] ∧ f'.info.key = knotty.key ∧
    ∃ g, ofFile disk'.tree "/k" = .ok g ∧ g.info = f'.info ∧ g.info.portsAssigned = true ∧ g.written = false := by
  have named (n port : Nat) (answer : stuttering.picker n = some port) : 9000 ≤ port ∧ port < 9050 := by
    cases answer
    omega
  have valid : stuttering.picker.Valid := fun n port answer => (named n port answer).2.trans (by decide)
  have nonzero : stuttering.picker.Nonzero := fun n port answer => by
    have bounds := named n port answer
    omega
  have fits : (ofInfo knotty "/k").info.Fits := by decide
  have back := ofFile_write valid nonzero fits rfl write_knotty
  exact ⟨_, _, write_knotty, rfl, rfl, back⟩

end ConnectionFile
end KernelLink
