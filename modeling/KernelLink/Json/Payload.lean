import KernelLink.Json.Value
import KernelLink.Table

namespace KernelLink
namespace Json

mutual

/-- The value with the keys of every object in order and, of several members with one key, only
the last. -/
def sorted : Json → Json
  | .array items => .array (sortedItems items)
  | .object members => .object (sortedMembers members)
  | .null => .null
  | .bool b => .bool b
  | .number n => .number n
  | .text s => .text s

def sortedItems : List Json → List Json
  | [] => []
  | j :: rest => sorted j :: sortedItems rest

def sortedMembers : List (String × Json) → List (String × Json)
  | [] => []
  | (key, j) :: rest => Table.place key (sorted j) (sortedMembers rest)

end

mutual

/-- The keys of every object increase. -/
def Ordered : Json → Prop
  | .array items => OrderedItems items
  | .object members => OrderedMembers members
  | .null => True
  | .bool _ => True
  | .number _ => True
  | .text _ => True

def OrderedItems : List Json → Prop
  | [] => True
  | j :: rest => Ordered j ∧ OrderedItems rest

def OrderedMembers : List (String × Json) → Prop
  | [] => True
  | (key, j) :: rest => Ordered j ∧ (∀ m ∈ rest, key < m.1) ∧ OrderedMembers rest

end

theorem mem_place {key : String} {value : Json} {members : List (String × Json)}
    {m : String × Json} (member : m ∈ Table.place key value members) :
    m = (key, value) ∨ m ∈ members := by
  induction members with
  | nil => simpa [Table.place] using member
  | cons head rest ih =>
    obtain ⟨other, kept⟩ := head
    simp only [Table.place] at member
    split at member
    · simpa using member
    · split at member
      · exact Or.inr member
      · rcases List.mem_cons.mp member with here | later
        · exact Or.inr (here ▸ List.mem_cons_self ..)
        · exact (ih later).imp_right (List.mem_cons_of_mem _)

theorem place_ordered {key : String} {value : Json} {members : List (String × Json)}
    (new : Ordered value) (old : OrderedMembers members) :
    OrderedMembers (Table.place key value members) := by
  induction members with
  | nil => exact ⟨new, by simp, trivial⟩
  | cons head rest ih =>
    obtain ⟨other, kept⟩ := head
    simp only [Table.place]
    split
    · rename_i less
      refine ⟨new, fun m member => ?_, old⟩
      rcases List.mem_cons.mp member with here | later
      · exact here ▸ less
      · exact String.lt_trans less (old.2.1 m later)
    · split
      · exact old
      · rename_i notLess different
        refine ⟨old.1, fun m member => ?_, ih old.2.2⟩
        rcases mem_place member with here | later
        · subst here
          exact Decidable.byContradiction fun notGreater =>
            different (String.le_antisymm (String.not_lt.mp notGreater) (String.not_lt.mp notLess))
        · exact old.2.1 m later

mutual

theorem sorted_ordered : (j : Json) → Ordered (sorted j)
  | .array items => by simpa only [sorted, Ordered] using sortedItems_ordered items
  | .object members => by simpa only [sorted, Ordered] using sortedMembers_ordered members
  | .null => trivial
  | .bool _ => trivial
  | .number _ => trivial
  | .text _ => trivial

theorem sortedItems_ordered : (items : List Json) → OrderedItems (sortedItems items)
  | [] => trivial
  | j :: rest => ⟨sorted_ordered j, sortedItems_ordered rest⟩

theorem sortedMembers_ordered :
    (members : List (String × Json)) → OrderedMembers (sortedMembers members)
  | [] => trivial
  | (_, j) :: rest => place_ordered (sorted_ordered j) (sortedMembers_ordered rest)

end

end Json

/-- A JSON value as messages hold it: the keys of its objects are in order and differ. -/
structure Payload where
  json : Json
  ordered : json.Ordered

namespace Payload

/-- The value with its objects put in order. -/
def ofJson (j : Json) : Payload := ⟨j.sorted, Json.sorted_ordered j⟩

def null : Payload := ⟨.null, trivial⟩

/-- The object without members. -/
def empty : Payload := ⟨.object [], trivial⟩

instance : Inhabited Payload := ⟨empty⟩

/-- The compact form. -/
def write (p : Payload) : Bytes := p.json.write

end Payload
end KernelLink
