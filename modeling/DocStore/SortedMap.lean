/-!
# Sorted maps

Finite maps from names to values, held as a list that strictly increases in its
names.  A map has one such list, so equal maps are equal values.
-/

namespace DocStore

/-- A finite map from names to values, in increasing order of the names. -/
structure SortedMap (α : Type u) where
  entries : List (String × α)
  increasing : entries.Pairwise (fun a b => a.1 < b.1)

namespace SortedMap

variable {α : Type u} {β : Type v}

def empty : SortedMap α := ⟨[], .nil⟩

instance : EmptyCollection (SortedMap α) := ⟨empty⟩

instance : Inhabited (SortedMap α) := ⟨empty⟩

instance [BEq α] : BEq (SortedMap α) := ⟨fun a b => a.entries == b.entries⟩

def names (m : SortedMap α) : List String :=
  m.entries.map Prod.fst

def values (m : SortedMap α) : List α :=
  m.entries.map Prod.snd

def find? (name : String) : List (String × α) → Option α
  | [] => none
  | (other, value) :: rest => if other = name then some value else find? name rest

def get? (m : SortedMap α) (name : String) : Option α :=
  find? name m.entries

def has (m : SortedMap α) (name : String) : Bool :=
  (m.get? name).isSome

/-- An entry placed into a list of entries, instead of one of the same name. -/
def place (name : String) (value : α) : List (String × α) → List (String × α)
  | [] => [(name, value)]
  | (other, old) :: rest =>
    if name < other then (name, value) :: (other, old) :: rest
    else if other = name then (name, value) :: rest
    else (other, old) :: place name value rest

theorem mem_place {name : String} {value : α} {entries : List (String × α)}
    {entry : String × α} (member : entry ∈ place name value entries) :
    entry = (name, value) ∨ entry ∈ entries := by
  induction entries with
  | nil => simpa [place] using member
  | cons head rest ih =>
      obtain ⟨other, old⟩ := head
      simp only [place] at member
      split at member
      · simpa using member
      · split at member
        · rcases List.mem_cons.1 member with rfl | inRest
          · exact .inl rfl
          · exact .inr (List.mem_cons_of_mem _ inRest)
        · rcases List.mem_cons.1 member with rfl | inRest
          · exact .inr List.mem_cons_self
          · rcases ih inRest with rfl | older
            · exact .inl rfl
            · exact .inr (List.mem_cons_of_mem _ older)

theorem pairwise_place (name : String) (value : α) {entries : List (String × α)}
    (increasing : entries.Pairwise (fun a b => a.1 < b.1)) :
    (place name value entries).Pairwise (fun a b => a.1 < b.1) := by
  induction entries with
  | nil => simp [place]
  | cons head rest ih =>
      obtain ⟨other, old⟩ := head
      obtain ⟨headLess, restIncreasing⟩ := List.pairwise_cons.1 increasing
      simp only [place]
      split
      · rename_i less
        refine List.pairwise_cons.2 ⟨?_, increasing⟩
        intro entry member
        rcases List.mem_cons.1 member with rfl | inRest
        · exact less
        · exact String.lt_trans less (headLess entry inRest)
      · split
        · rename_i same
          subst same
          exact List.pairwise_cons.2 ⟨headLess, restIncreasing⟩
        · rename_i notLess notSame
          refine List.pairwise_cons.2 ⟨?_, ih restIncreasing⟩
          intro entry member
          rcases mem_place member with rfl | inRest
          · exact String.not_le.1 fun le =>
              notSame (String.le_antisymm (String.not_lt.1 notLess) le)
          · exact headLess entry inRest

def insert (m : SortedMap α) (name : String) (value : α) : SortedMap α :=
  ⟨place name value m.entries, pairwise_place name value m.increasing⟩

def erase (m : SortedMap α) (name : String) : SortedMap α :=
  ⟨m.entries.filter (·.1 ≠ name), m.increasing.filter _⟩

/-- The map with the value of a name, or the default where there is none,
changed by a function. -/
def modify (m : SortedMap α) (name : String) (default : α) (change : α → α) :
    SortedMap α :=
  m.insert name (change ((m.get? name).getD default))

/-- The map of any list of pairs: of a repeated name the last value counts. -/
def ofList (pairs : List (String × α)) : SortedMap α :=
  pairs.foldl (fun m (name, value) => m.insert name value) empty

end SortedMap

end DocStore
