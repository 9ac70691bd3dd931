import KernelLink.Proofs.Connection.File
import Mathlib.Data.List.Nodup

namespace KernelLink

/-- A picker that names a port names one that a socket can have: zero stands for no port. -/
def PortPicker.Nonzero (picker : PortPicker) : Prop := ∀ n port, picker n = some port → port ≠ 0

namespace Ports

variable {picker : PortPicker} {info : ConnectionInfo} {slot other : Slot} {chosen : List Slot}
  {reserved : List Nat}

theorem nodup_slots : slots.Nodup := by
  have labels : (slots.map (·.label)).Nodup := by decide
  exact labels.of_map

theorem get_set_self (known : slot ∈ slots) (info : ConnectionInfo) (n : Nat) :
    slot.get (slot.set info n) = n := by
  simp only [slots, List.mem_cons, List.not_mem_nil, or_false] at known
  rcases known with rfl | rfl | rfl | rfl | rfl <;> rfl

theorem get_set_of_ne (known : slot ∈ slots) (known' : other ∈ slots) (different : other ≠ slot)
    (info : ConnectionInfo) (n : Nat) : other.get (slot.set info n) = other.get info := by
  simp only [slots, List.mem_cons, List.not_mem_nil, or_false] at known known'
  rcases known with rfl | rfl | rfl | rfl | rfl <;> rcases known' with rfl | rfl | rfl | rfl | rfl <;>
    first | rfl | exact absurd rfl different

theorem find_free {label : String} {patience asked port : Nat}
    (found : (find picker label reserved patience asked).1 = .ok port) :
    port ∉ reserved ∧ ∃ n, picker n = some port := by
  fun_induction find picker label reserved patience asked with
  | case1 => cases found
  | case2 => cases found
  | case3 _ _ _ _ _ ih => exact ih found
  | case4 _ _ _ named free =>
    cases found
    exact ⟨by simpa using free, _, named⟩

theorem asked_find (label : String) (patience asked : Nat) :
    (find picker label reserved patience asked).2 ≤ asked + (patience + 1) := by
  fun_induction find picker label reserved patience asked with
  | case1 => omega
  | case2 => omega
  | case3 _ _ _ _ _ ih => omega
  | case4 => omega

theorem asked_of_find {label : String} {asked after : Nat} {result : Except Failure Nat}
    (found : find picker label reserved 10 asked = (result, after)) : after ≤ asked + 11 := by
  have bound := @asked_find picker reserved label 10 asked
  rwa [found] at bound

/-- A slot that holds a port keeps it. -/
theorem fill_kept (known : chosen ⊆ slots) (reserved : List Nat) (asked : Nat) (here : slot ∈ slots)
    (set : slot.get info ≠ 0) : slot.get (fill picker chosen reserved info asked).2.1 = slot.get info := by
  fun_induction fill picker chosen reserved info asked with
  | case1 => rfl
  | case2 _ _ _ _ _ _ ih => exact ih (List.cons_subset.mp known).2 set
  | case3 head rest reserved info asked missing port after found ih =>
    obtain ⟨first, others⟩ := List.cons_subset.mp known
    have different : slot ≠ head := by
      rintro rfl
      exact missing set
    have same := get_set_of_ne first here different info port
    rw [ih others (by rwa [same]), same]
  | case4 => rfl

theorem fill_complete (nonzero : picker.Nonzero) (known : chosen ⊆ slots) {asked : Nat}
    (done : (fill picker chosen reserved info asked).1 = .ok ()) (member : slot ∈ chosen) :
    slot.get (fill picker chosen reserved info asked).2.1 ≠ 0 := by
  fun_induction fill picker chosen reserved info asked with
  | case1 => cases member
  | case2 head rest reserved info asked set ih =>
    obtain ⟨first, others⟩ := List.cons_subset.mp known
    rcases List.mem_cons.mp member with rfl | member
    · rwa [fill_kept others _ _ first set]
    · exact ih others done member
  | case3 head rest reserved info asked missing port after found ih =>
    obtain ⟨first, others⟩ := List.cons_subset.mp known
    rcases List.mem_cons.mp member with rfl | member
    · obtain ⟨-, n, named⟩ := find_free (congrArg Prod.fst found)
      have set : slot.get (slot.set info port) ≠ 0 := by
        rw [get_set_self first]
        exact nonzero n port named
      rwa [fill_kept others _ _ first set]
    · exact ih others done member
  | case4 => cases done

/-- Every port that is set is among those that are reserved. -/
def Covered (info : ConnectionInfo) (reserved : List Nat) : Prop :=
  ∀ slot ∈ slots, slot.get info ≠ 0 → slot.get info ∈ reserved

theorem Covered.set (covered : Covered info reserved) (here : slot ∈ slots) (port : Nat) :
    Covered (slot.set info port) (reserved ++ [port]) := by
  intro other there set
  by_cases same : other = slot
  · subst same
    rw [get_set_self here]
    simp
  · rw [get_set_of_ne here there same] at set ⊢
    exact List.mem_append_left _ (covered other there set)

theorem Covered.ne (covered : Covered info reserved) (there : other ∈ slots) {port : Nat} (free : port ∉ reserved)
    (set : other.get info ≠ 0) : other.get info ≠ port :=
  fun same => free (same ▸ covered other there set)

/-- A port that is newly given is one that no other slot holds, whether or not a later slot is given up. -/
theorem fill_apart (nonzero : picker.Nonzero) (known : chosen ⊆ slots) {asked : Nat}
    (covered : Covered info reserved) (here : slot ∈ slots) (missing : slot.get info = 0)
    (given : slot.get (fill picker chosen reserved info asked).2.1 ≠ 0) (there : other ∈ slots)
    (different : other ≠ slot) : other.get (fill picker chosen reserved info asked).2.1 ≠
      slot.get (fill picker chosen reserved info asked).2.1 := by
  fun_induction fill picker chosen reserved info asked generalizing slot other with
  | case1 => exact absurd missing given
  | case2 _ _ _ _ _ _ ih =>
    exact ih (List.cons_subset.mp known).2 covered here missing given there different
  | case3 head rest reserved info asked unset port after found ih =>
    obtain ⟨first, others⟩ := List.cons_subset.mp known
    have covered' := covered.set first port
    by_cases same : slot = head
    · -- the port that is found now differs from those that are set, and each that is found later from this one
      subst same
      obtain ⟨free, n, named⟩ := find_free (congrArg Prod.fst found)
      have placed : slot.get (slot.set info port) = port := get_set_self here info port
      have stays := @fill_kept picker _ _ _ others (reserved ++ [port]) after here
        (placed ▸ nonzero n port named)
      have elsewhere := get_set_of_ne first there different info port
      by_cases set : other.get info = 0
      · by_cases filled : other.get (fill picker rest (reserved ++ [port]) (slot.set info port) after).2.1 = 0
        · rw [filled]
          exact given.symm
        · exact (ih others covered' there (elsewhere.trans set) filled here different.symm).symm
      · have kept := @fill_kept picker _ _ _ others (reserved ++ [port]) after there (elsewhere ▸ set)
        rw [kept, stays, placed, elsewhere]
        exact covered.ne there free set
    · exact ih others covered' here ((get_set_of_ne first here same info port).trans missing) given there different
  | case4 => exact absurd missing given

/-- The picker is asked at most eleven times for each slot that holds no port. -/
theorem asked_fill (known : chosen ⊆ slots) (distinct : chosen.Nodup) (reserved : List Nat) (asked : Nat) :
    (fill picker chosen reserved info asked).2.2 ≤ asked + 11 * chosen.countP (·.get info = 0) := by
  fun_induction fill picker chosen reserved info asked with
  | case1 => exact Nat.le_add_right ..
  | case2 head rest _ info _ set ih =>
    have rest' := ih (List.cons_subset.mp known).2 distinct.of_cons
    have count : (head :: rest).countP (·.get info = 0) = rest.countP (·.get info = 0) :=
      List.countP_cons_of_neg (by simpa using set)
    omega
  | case3 head rest reserved info asked missing port after found ih =>
    obtain ⟨first, others⟩ := List.cons_subset.mp known
    have rest' := ih others distinct.of_cons
    have tries := asked_of_find found
    have unset : head.get info = 0 := Decidable.not_not.mp missing
    have count : (head :: rest).countP (·.get info = 0) = rest.countP (·.get info = 0) + 1 :=
      List.countP_cons_of_pos (by simpa using unset)
    have same : rest.countP (·.get (head.set info port) = 0) = rest.countP (·.get info = 0) := by
      refine List.countP_congr fun slot member => ?_
      have different : slot ≠ head := by
        rintro rfl
        exact (List.nodup_cons.mp distinct).1 member
      rw [get_set_of_ne first (others member) different]
    omega
  | case4 head rest reserved info asked missing failure after found =>
    have tries := asked_of_find found
    have unset : head.get info = 0 := Decidable.not_not.mp missing
    have count : (head :: rest).countP (·.get info = 0) = rest.countP (·.get info = 0) + 1 :=
      List.countP_cons_of_pos (by simpa using unset)
    exact Nat.le_trans tries (by omega)

variable {asked : Nat}

theorem assign_kept (picker : PortPicker) (asked : Nat) (here : slot ∈ slots) (set : slot.get info ≠ 0) :
    slot.get (assign picker info asked).2.1 = slot.get info :=
  fill_kept (List.Subset.refl _) _ _ here set

theorem assign_apart (nonzero : picker.Nonzero) (here : slot ∈ slots) (missing : slot.get info = 0)
    (given : slot.get (assign picker info asked).2.1 ≠ 0) (there : other ∈ slots) (different : other ≠ slot) :
    other.get (assign picker info asked).2.1 ≠ slot.get (assign picker info asked).2.1 := by
  refine fill_apart nonzero (List.Subset.refl _) (fun slot here set => ?_) here missing given there different
  have member : slot.get info ∈ info.ports := List.mem_map_of_mem (f := fun s : Slot => s.get info) here
  simpa [List.mem_filter] using ⟨member, set⟩

theorem assign_complete (nonzero : picker.Nonzero) (done : (assign picker info asked).1 = .ok ())
    (here : slot ∈ slots) : slot.get (assign picker info asked).2.1 ≠ 0 :=
  fill_complete nonzero (List.Subset.refl _) done here

theorem asked_assign (picker : PortPicker) (info : ConnectionInfo) (asked : Nat) :
    (assign picker info asked).2.2 ≤ asked + 11 * info.ports.count 0 := by
  have count : info.ports.count 0 = slots.countP (·.get info = 0) := by
    have ports : info.ports = slots.map (·.get info) := rfl
    rw [ports, List.count_eq_countP, List.countP_map]
    rfl
  rw [count]
  exact asked_fill (List.Subset.refl _) nodup_slots _ asked

theorem portsAssigned_assign (nonzero : picker.Nonzero) (done : (assign picker info asked).1 = .ok ()) :
    (assign picker info asked).2.1.portsAssigned = true := by
  have ports : (assign picker info asked).2.1.ports = slots.map (·.get (assign picker info asked).2.1) := rfl
  rw [ConnectionInfo.portsAssigned, ports, List.all_map, List.all_eq_true]
  intro slot here
  simpa using assign_complete nonzero done here

/-- If the ports that are set differ from each other, then so do all five of them once they are assigned. -/
theorem nodup_assign (nonzero : picker.Nonzero) (done : (assign picker info asked).1 = .ok ())
    (preset : (info.ports.filter (· ≠ 0)).Nodup) : (assign picker info asked).2.1.ports.Nodup := by
  have before : info.ports = slots.map (·.get info) := rfl
  have after : (assign picker info asked).2.1.ports = slots.map (·.get (assign picker info asked).2.1) := rfl
  rw [before, List.Nodup, List.pairwise_filter, List.pairwise_map] at preset
  rw [after, List.Nodup, List.pairwise_map]
  refine (List.Pairwise.and nodup_slots preset).imp_of_mem fun {slot other} here there both => ?_
  obtain ⟨different, distinct⟩ := both
  by_cases missing : slot.get info = 0
  · exact (assign_apart nonzero here missing (assign_complete nonzero done here) there different.symm).symm
  by_cases missing' : other.get info = 0
  · exact assign_apart nonzero there missing' (assign_complete nonzero done there) here different
  · rw [assign_kept picker asked here missing, assign_kept picker asked there missing']
    exact distinct (by simpa using missing) (by simpa using missing')

end Ports
end KernelLink
