import KernelLink.Table

namespace KernelLink
namespace Table

variable {α : Type} {t : Table α} {key other : String} {value : α}

/-- The keys stand in their order, each once. -/
def Ordered (t : Table α) : Prop := t.Pairwise (·.1 < ·.1)

theorem mem_place {entry : String × α} (member : entry ∈ place key value t) :
    entry = (key, value) ∨ entry ∈ t := by
  fun_induction place key value t with
  | case1 => exact List.mem_cons.mp member
  | case2 => exact List.mem_cons.mp member
  | case3 => exact Or.inr member
  | case4 other kept rest _ _ ih =>
    rcases List.mem_cons.mp member with rfl | member
    · exact Or.inr (List.mem_cons_self ..)
    · exact (ih member).imp_right (List.mem_cons_of_mem _)

theorem lt_of_not_lt_of_ne (after : ¬key < other) (different : key ≠ other) : other < key :=
  String.not_le.mp fun before => different (String.le_antisymm before (String.not_lt.mp after))

theorem lookup_cons (key : String) (value : α) (t : Table α) (asked : String) :
    List.lookup asked ((key, value) :: t) = if asked = key then some value else t.lookup asked := by
  by_cases here : asked = key
  · simp [here]
  · simp [here, List.lookup_cons, beq_eq_false_iff_ne.mpr here]

theorem Ordered.place (ordered : Ordered t) : Ordered (place key value t) := by
  fun_induction Table.place key value t with
  | case1 => exact List.pairwise_singleton ..
  | case2 other kept rest before =>
    refine List.pairwise_cons.mpr ⟨fun entry member => ?_, ordered⟩
    rcases List.mem_cons.mp member with rfl | member
    · exact before
    · exact String.lt_trans before ((List.pairwise_cons.mp ordered).1 entry member)
  | case3 => exact ordered
  | case4 other kept rest after different ih =>
    obtain ⟨first, others⟩ := List.pairwise_cons.mp ordered
    refine List.pairwise_cons.mpr ⟨fun entry member => ?_, ih others⟩
    rcases mem_place member with rfl | member
    · exact lt_of_not_lt_of_ne after different
    · exact first entry member

theorem lookup_eq_none_of_lt (ahead : ∀ entry ∈ t, key < entry.1) : t.lookup key = none := by
  refine List.lookup_eq_none_iff.mpr fun entry member => ?_
  have different : key ≠ entry.1 := fun same => String.lt_irrefl key (same ▸ ahead entry member)
  simpa using different

/-- A key that is there already keeps its value, and any other key has the value that it had. -/
theorem lookup_place (ordered : Ordered t) (asked : String) :
    (place key value t).lookup asked = if asked = key then some ((t.lookup key).getD value) else t.lookup asked := by
  fun_induction place key value t with
  | case1 => exact lookup_cons ..
  | case2 other kept rest before =>
    have absent : List.lookup key ((other, kept) :: rest) = none := by
      refine lookup_eq_none_of_lt fun entry member => ?_
      rcases List.mem_cons.mp member with rfl | member
      · exact before
      · exact String.lt_trans before ((List.pairwise_cons.mp ordered).1 entry member)
    rw [absent, lookup_cons]
    rfl
  | case3 => by_cases here : asked = key <;> simp [lookup_cons, here]
  | case4 other kept rest after different ih =>
    rw [lookup_cons, lookup_cons, lookup_cons, if_neg different, ih (List.pairwise_cons.mp ordered).2]
    by_cases here : asked = key
    · rw [here, if_neg different, if_pos rfl, if_pos rfl]
    · rw [if_neg here, if_neg here]

theorem ordered_ofLast (entries : List (String × α)) : Ordered (ofLast entries) := by
  induction entries with
  | nil => exact List.Pairwise.nil
  | cons entry rest ih => exact ih.place

/-- A table has the last of the values that its entries give to a key. -/
theorem lookup_ofLast (entries : List (String × α)) (asked : String) :
    (ofLast entries).lookup asked = entries.reverse.lookup asked := by
  induction entries with
  | nil => rfl
  | cons entry rest ih =>
    obtain ⟨key, value⟩ := entry
    have step : ofLast ((key, value) :: rest) = place key value (ofLast rest) := rfl
    rw [step, lookup_place (ordered_ofLast rest), List.reverse_cons, List.lookup_append, lookup_cons, ← ih]
    by_cases here : asked = key
    · subst here
      cases (ofLast rest).lookup asked <;> simp
    · simp [here]

variable {β : Type} {entries entries' : List (String × α)}

/-- The entries of a map, in whatever order they are told: no key stands there twice. -/
def Distinct (entries : List (String × α)) : Prop := (entries.map Prod.fst).Nodup

theorem Ordered.distinct (ordered : Ordered t) : Distinct t := by
  refine List.pairwise_map.mpr (List.Pairwise.imp ?_ ordered)
  intro entry entry' before same
  rw [same] at before
  exact String.lt_irrefl _ before

theorem Distinct.nodup (distinct : Distinct entries) : entries.Nodup :=
  List.Pairwise.imp (fun different same => different (congrArg Prod.fst same)) (List.pairwise_map.mp distinct)

theorem Distinct.perm (distinct : Distinct entries) (perm : entries.Perm entries') : Distinct entries' :=
  (perm.map Prod.fst).nodup distinct

theorem Distinct.filter (distinct : Distinct entries) (p : String × α → Bool) : Distinct (entries.filter p) :=
  List.Pairwise.sublist (List.filter_sublist.map Prod.fst) distinct

theorem Distinct.lookup_eq_some_iff (distinct : Distinct entries) :
    entries.lookup key = some value ↔ (key, value) ∈ entries := by
  induction entries with
  | nil => simp
  | cons entry rest ih =>
    obtain ⟨other, kept⟩ := entry
    obtain ⟨absent, others⟩ := List.nodup_cons.mp distinct
    rw [lookup_cons, List.mem_cons, Prod.mk.injEq]
    by_cases here : key = other
    · subst here
      have elsewhere : (key, value) ∉ rest := fun member => absent (List.mem_map.mpr ⟨_, member, rfl⟩)
      simp [elsewhere, eq_comm]
    · simp [here, ih others]

theorem Distinct.lookup_eq_none_iff (distinct : Distinct entries) :
    entries.lookup key = none ↔ ∀ value, (key, value) ∉ entries := by
  simp only [Option.eq_none_iff_forall_ne_some, Ne, distinct.lookup_eq_some_iff]

theorem Distinct.lookup_perm (distinct : Distinct entries) (perm : entries.Perm entries') (asked : String) :
    entries'.lookup asked = entries.lookup asked := by
  refine Option.ext fun value => ?_
  rw [(distinct.perm perm).lookup_eq_some_iff, distinct.lookup_eq_some_iff, perm.mem_iff]

theorem lookup_ofLast_of_distinct (distinct : Distinct entries) (asked : String) :
    (ofLast entries).lookup asked = entries.lookup asked := by
  rw [lookup_ofLast, distinct.lookup_perm (List.reverse_perm entries).symm]

section Made

-- something is made of each entry, under the same key or not at all
variable {f : String × α → Option (String × β)}
  (keeps : ∀ entry made, f entry = some made → made.1 = entry.1)

include keeps

theorem Distinct.filterMap (distinct : Distinct entries) : Distinct (entries.filterMap f) := by
  refine List.pairwise_map.mpr (List.pairwise_filterMap.mpr ((List.pairwise_map.mp distinct).imp ?_))
  intro entry entry' different made gives made' gives'
  rwa [keeps _ _ gives, keeps _ _ gives']

theorem Distinct.lookup_filterMap (distinct : Distinct entries) (asked : String) :
    (entries.filterMap f).lookup asked =
      (entries.lookup asked).bind fun value => (f (asked, value)).map Prod.snd := by
  refine Option.ext fun value => ?_
  rw [(distinct.filterMap keeps).lookup_eq_some_iff, List.mem_filterMap, Option.bind_eq_some_iff]
  constructor
  · rintro ⟨⟨key, kept⟩, member, gives⟩
    obtain rfl : asked = key := keeps _ _ gives
    exact ⟨kept, distinct.lookup_eq_some_iff.mpr member, by rw [gives]; rfl⟩
  · rintro ⟨kept, found, made⟩
    obtain ⟨⟨key, made⟩, gives, rfl⟩ := Option.map_eq_some_iff.mp made
    obtain rfl : key = asked := keeps _ _ gives
    exact ⟨(key, kept), distinct.lookup_eq_some_iff.mp found, gives⟩

end Made

/-- A table is known by what is found in it. -/
theorem Ordered.ext {t' : Table α} (ordered : Ordered t) (ordered' : Ordered t')
    (same : ∀ key, t.lookup key = t'.lookup key) : t = t' := by
  refine List.Perm.eq_of_pairwise ?_ ordered ordered' ?_
  · intro entry entry' _ _ before after
    exact absurd (String.lt_trans before after) (String.lt_irrefl _)
  · rw [List.perm_ext_iff_of_nodup ordered.distinct.nodup ordered'.distinct.nodup]
    rintro ⟨key, value⟩
    rw [← ordered.distinct.lookup_eq_some_iff, ← ordered'.distinct.lookup_eq_some_iff, same]

end Table
end KernelLink
