import KernelLink.Launch.Environment
import KernelLink.Proofs.Table
import Mathlib.Data.List.Forall2

namespace KernelLink
namespace Environment

variable {t : Table String} {inherited inherited' layer : List (String × String)}
  {layers layers' : List (List (String × String))} {name value : String}

theorem ordered_merge (ordered : Table.Ordered t) (layer : List (String × String)) : Table.Ordered (merge t layer) := by
  induction layer generalizing t with
  | nil => exact ordered
  | cons entry rest ih => exact ih ordered.place

/-- A layer gives values only to variables that have none yet. -/
theorem lookup_merge (ordered : Table.Ordered t) (layer : List (String × String)) (name : String) :
    (merge t layer).lookup name = (t.lookup name).or (layer.lookup name) := by
  induction layer generalizing t with
  | nil => exact Option.or_none.symm
  | cons entry rest ih =>
    obtain ⟨key, value⟩ := entry
    have step : merge t ((key, value) :: rest) = merge (Table.place key value t) rest := rfl
    rw [step, ih ordered.place, Table.lookup_place ordered, Table.lookup_cons]
    by_cases here : name = key
    · subst here
      cases t.lookup name <;> simp
    · simp [here]

theorem ordered_merges (ordered : Table.Ordered t) (layers : List (List (String × String))) :
    Table.Ordered (layers.foldl merge t) := by
  induction layers generalizing t with
  | nil => exact ordered
  | cons layer rest ih => exact ih (ordered_merge ordered layer)

theorem lookup_merges (ordered : Table.Ordered t) (layers : List (List (String × String))) (name : String) :
    (layers.foldl merge t).lookup name = (t.lookup name).or (layers.findSome? (·.lookup name)) := by
  induction layers generalizing t with
  | nil => exact Option.or_none.symm
  | cons layer rest ih =>
    rw [List.foldl_cons, ih (ordered_merge ordered layer), lookup_merge ordered, Option.or_assoc, List.findSome?_cons]
    cases layer.lookup name <;> rfl

theorem ordered_resolve (inherited : List (String × String)) (layers : List (List (String × String))) :
    Table.Ordered (resolve inherited layers) := ordered_merges (Table.ordered_ofLast _) layers

theorem lookup_resolve (inherited : List (String × String)) (layers : List (List (String × String))) (name : String) :
    (resolve inherited layers).lookup name =
      ((base inherited).lookup name).or (layers.findSome? (·.lookup name)) :=
  lookup_merges (Table.ordered_ofLast _) layers name

theorem lookup_base_eq_some_iff (distinct : Table.Distinct inherited) :
    (base inherited).lookup name = some value ↔ name ≠ "PYTHONEXECUTABLE" ∧ (name, value) ∈ inherited := by
  rw [base, Table.lookup_ofLast_of_distinct (distinct.filter _), (distinct.filter _).lookup_eq_some_iff,
    List.mem_filter, and_comm]
  simp [withheld]

theorem lookup_base_eq_none_iff (distinct : Table.Distinct inherited) :
    (base inherited).lookup name = none ↔ name = "PYTHONEXECUTABLE" ∨ ∀ value, (name, value) ∉ inherited := by
  simp only [Option.eq_none_iff_forall_ne_some, Ne, lookup_base_eq_some_iff distinct, not_and_or, not_not,
    forall_or_left]

/-- Which value a variable has: the one that is inherited, unless the variable is withheld; without it the one in the
first layer that has any. -/
inductive Wins (inherited : List (String × String)) (layers : List (List (String × String))) (name value : String) :
    Prop
  | inherited : name ≠ "PYTHONEXECUTABLE" → (name, value) ∈ inherited → Wins inherited layers name value
  | layered {earlier layer later} : name = "PYTHONEXECUTABLE" ∨ (∀ value, (name, value) ∉ inherited) →
      layers = earlier ++ layer :: later → (∀ other ∈ earlier, ∀ value, (name, value) ∉ other) →
      (name, value) ∈ layer → Wins inherited layers name value

theorem findSome?_lookup_eq_some_iff (each : ∀ layer ∈ layers, Table.Distinct layer) :
    layers.findSome? (·.lookup name) = some value ↔ ∃ earlier layer later, layers = earlier ++ layer :: later ∧
      (name, value) ∈ layer ∧ ∀ other ∈ earlier, ∀ value, (name, value) ∉ other := by
  rw [List.findSome?_eq_some_iff]
  refine exists_congr fun earlier => exists_congr fun layer => exists_congr fun later => and_congr_right fun whole => ?_
  refine and_congr (each layer (by simp [whole])).lookup_eq_some_iff (forall₂_congr fun other member => ?_)
  exact (each other (by simp [whole, member])).lookup_eq_none_iff

theorem lookup_resolve_eq_some_iff (distinct : Table.Distinct inherited)
    (each : ∀ layer ∈ layers, Table.Distinct layer) :
    (resolve inherited layers).lookup name = some value ↔ Wins inherited layers name value := by
  rw [lookup_resolve, Option.or_eq_some_iff, lookup_base_eq_some_iff distinct, lookup_base_eq_none_iff distinct,
    findSome?_lookup_eq_some_iff each]
  constructor
  · rintro (⟨shown, member⟩ | ⟨none, earlier, layer, later, whole, member, absent⟩)
    · exact .inherited shown member
    · exact .layered none whole absent member
  · rintro (⟨shown, member⟩ | ⟨none, whole, absent, member⟩)
    · exact Or.inl ⟨shown, member⟩
    · exact Or.inr ⟨none, _, _, _, whole, member, absent⟩

theorem exists_lookup_resolve_iff (distinct : Table.Distinct inherited)
    (each : ∀ layer ∈ layers, Table.Distinct layer) :
    (∃ value, (resolve inherited layers).lookup name = some value) ↔
      (name ≠ "PYTHONEXECUTABLE" ∧ ∃ value, (name, value) ∈ inherited) ∨
        ∃ layer ∈ layers, ∃ value, (name, value) ∈ layer := by
  rw [lookup_resolve, ← Option.isSome_iff_exists, Option.isSome_or, Bool.or_eq_true, Option.isSome_iff_exists,
    List.findSome?_isSome_iff]
  refine or_congr (by simp [lookup_base_eq_some_iff distinct]) ?_
  refine exists_congr fun layer => and_congr_right fun member => ?_
  simp only [Option.isSome_iff_exists, (each layer member).lookup_eq_some_iff]

theorem resolve_perm (distinct : Table.Distinct inherited) (each : ∀ layer ∈ layers, Table.Distinct layer)
    (same : inherited.Perm inherited') (alike : List.Forall₂ List.Perm layers layers') :
    resolve inherited' layers' = resolve inherited layers := by
  refine Table.Ordered.ext (ordered_resolve _ _) (ordered_resolve _ _) fun name => ?_
  have first : (base inherited').lookup name = (base inherited).lookup name := by
    refine Option.ext fun value => ?_
    rw [lookup_base_eq_some_iff (distinct.perm same), lookup_base_eq_some_iff distinct, same.mem_iff]
  have later : layers'.findSome? (·.lookup name) = layers.findSome? (·.lookup name) := by
    induction alike with
    | nil => rfl
    | cons perm _ ih =>
      obtain ⟨here, others⟩ := List.forall_mem_cons.mp each
      rw [List.findSome?_cons, List.findSome?_cons, here.lookup_perm perm, ih others]
  rw [lookup_resolve, lookup_resolve, first, later]

/-- The first to give a variable a value wins. A variable is there exactly if it is inherited and not withheld, or if
some layer has it; of the values that it could have it has the one of highest precedence, which is inherited or of the
first layer that has one. In what order the inherited variables and those of each layer are told does not matter. -/
theorem first_value_wins (distinct : Table.Distinct inherited) (each : ∀ layer ∈ layers, Table.Distinct layer) :
    (∀ name, (∃ value, (resolve inherited layers).lookup name = some value) ↔
      (name ≠ "PYTHONEXECUTABLE" ∧ ∃ value, (name, value) ∈ inherited) ∨
        ∃ layer ∈ layers, ∃ value, (name, value) ∈ layer) ∧
    (∀ name value, (resolve inherited layers).lookup name = some value ↔ Wins inherited layers name value) ∧
    ∀ inherited' layers', inherited.Perm inherited' → List.Forall₂ List.Perm layers layers' →
      resolve inherited' layers' = resolve inherited layers :=
  ⟨fun _ => exists_lookup_resolve_iff distinct each, fun _ _ => lookup_resolve_eq_some_iff distinct each,
    fun _ _ => resolve_perm distinct each⟩

/-- Variables of a program that runs in an interpreter of its own. -/
def hosted : List (String × String) := [("PYTHONEXECUTABLE", "/host/python"), ("PATH", "/bin")]

/-- What a kernel is launched with: the variables of its spec and some more. -/
def ownLayers : List (List (String × String)) :=
  [[("PATH", "/opt"), ("A", "spec"), ("PYTHONEXECUTABLE", "/own/python")], [("B", "more"), ("A", "more")]]

theorem withheld_variable_put_back :
    Table.Distinct hosted ∧ (∀ layer ∈ ownLayers, Table.Distinct layer) ∧
      (resolve hosted ownLayers).lookup "PATH" = some "/bin" ∧
      (resolve hosted ownLayers).lookup "PYTHONEXECUTABLE" = some "/own/python" ∧
      (resolve hosted ownLayers).lookup "A" = some "spec" ∧
      resolve hosted.reverse (ownLayers.map List.reverse) = resolve hosted ownLayers := by
  have distinct : Table.Distinct hosted := by unfold Table.Distinct; decide
  have each : ∀ layer ∈ ownLayers, Table.Distinct layer := by unfold Table.Distinct; decide
  obtain ⟨-, wins, anyOrder⟩ := first_value_wins distinct each
  refine ⟨distinct, each, (wins _ _).mpr ?_, (wins _ _).mpr ?_, (wins _ _).mpr ?_, anyOrder _ _ ?_ ?_⟩
  · exact .inherited (by decide) (by decide)
  · exact @Wins.layered _ _ _ _ [] _ _ (Or.inl rfl) rfl (by simp) (by decide)
  · exact @Wins.layered _ _ _ _ [] _ _ (Or.inr (by simp [hosted])) rfl (by simp) (by decide)
  · exact (List.reverse_perm hosted).symm
  · exact .cons (List.reverse_perm _).symm (.cons (List.reverse_perm _).symm .nil)

end Environment
end KernelLink
