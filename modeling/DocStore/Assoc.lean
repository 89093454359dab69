/-!
# Association lists ordered by name

Lists of named values kept in increasing order of their names, the order of the
names' UTF-8 bytes.  The laws of `insert` and `erase` hold for every list; only
extensionality needs the order.
-/

namespace DocStore

universe u v

/-- A list of named values. -/
abbrev Assoc (α : Type u) := List (String × α)

namespace Assoc

variable {α : Type u} {β : Type v}

/-- The value of the first entry that carries the name. -/
def find? (name : String) : Assoc α → Option α
  | [] => none
  | (key, value) :: rest => if key = name then some value else find? name rest

/-- Gives a name a value: the entry that carries the name is replaced, and a new
one goes in front of the first greater name. -/
def insert (name : String) (value : α) : Assoc α → Assoc α
  | [] => [(name, value)]
  | (key, old) :: rest =>
    if key = name then (name, value) :: rest
    else if name < key then (name, value) :: (key, old) :: rest
    else (key, old) :: insert name value rest

/-- Removes every entry that carries the name. -/
def erase (name : String) (entries : Assoc α) : Assoc α :=
  entries.filter fun entry => entry.1 ≠ name

/-- The entries gathered one after the other: a name that comes again keeps its
last value. -/
def ofList (entries : List (String × α)) : Assoc α :=
  entries.foldl (fun gathered entry => insert entry.1 entry.2 gathered) []

/-- The names increase strictly. -/
def Sorted (entries : Assoc α) : Prop :=
  entries.Pairwise fun left right => left.1 < right.1

/-! ## Look-up after a change -/

@[simp]
theorem find?_nil (name : String) : find? name ([] : Assoc α) = none := rfl

theorem find?_insert (name other : String) (value : α) (entries : Assoc α) :
    find? other (insert name value entries) =
      if other = name then some value else find? other entries := by
  induction entries with
  | nil => simp [insert, find?, eq_comm]
  | cons entry rest ih =>
    obtain ⟨key, old⟩ := entry
    unfold insert
    split
    · grind [find?]
    · split <;> grind [find?]

theorem find?_erase (name other : String) (entries : Assoc α) :
    find? other (erase name entries) = if other = name then none else find? other entries := by
  induction entries with
  | nil => simp [erase]
  | cons entry rest ih =>
    obtain ⟨key, old⟩ := entry
    unfold erase at ih ⊢
    by_cases same : key = name <;> grind [find?]

theorem find?_eq_none_iff (name : String) (entries : Assoc α) :
    find? name entries = none ↔ ∀ entry ∈ entries, entry.1 ≠ name := by
  induction entries with
  | nil => simp
  | cons entry rest ih =>
    obtain ⟨key, old⟩ := entry
    by_cases same : key = name <;> simp [find?, same, ih]

/-! ## The order of the names -/

theorem name_of_mem_insert {name : String} {value : α} {entries : Assoc α}
    {entry : String × α} (member : entry ∈ insert name value entries) :
    entry.1 = name ∨ ∃ old ∈ entries, old.1 = entry.1 := by
  induction entries with
  | nil => simp [insert] at member; simp [member]
  | cons head rest ih =>
    obtain ⟨key, old⟩ := head
    unfold insert at member
    split at member
    · grind
    · split at member <;> grind

theorem Sorted.insert {entries : Assoc α} (sorted : Sorted entries)
    (name : String) (value : α) : Sorted (Assoc.insert name value entries) := by
  induction entries with
  | nil => simp [Assoc.insert, Sorted]
  | cons head rest ih =>
    obtain ⟨key, old⟩ := head
    have tail : Sorted rest := List.Pairwise.of_cons sorted
    have above : ∀ entry ∈ rest, key < entry.1 := (List.pairwise_cons.1 sorted).1
    unfold Assoc.insert
    split
    case isTrue same =>
      subst same
      exact List.pairwise_cons.2 ⟨above, tail⟩
    case isFalse differs =>
      split
      case isTrue smaller =>
        refine List.pairwise_cons.2 ⟨?_, sorted⟩
        intro entry member
        cases member with
        | head => exact smaller
        | tail _ member => exact String.lt_trans smaller (above entry member)
      case isFalse notSmaller =>
        refine List.pairwise_cons.2 ⟨?_, ih tail⟩
        intro entry member
        rcases name_of_mem_insert member with same | ⟨old, oldMember, same⟩
        · rw [same]
          rcases String.le_total name key with below | below
          · exact absurd (String.le_antisymm below (String.not_lt.1 notSmaller)) (Ne.symm differs)
          · exact Decidable.byContradiction fun notLess =>
              differs (String.le_antisymm below (String.not_lt.1 notLess))
        · exact same ▸ above old oldMember

theorem Sorted.erase {entries : Assoc α} (sorted : Sorted entries) (name : String) :
    Sorted (Assoc.erase name entries) :=
  List.Pairwise.filter _ sorted

theorem sorted_ofList (entries : List (String × α)) : Sorted (ofList entries) := by
  unfold ofList
  suffices general : ∀ start : Assoc α, Sorted start →
      Sorted (entries.foldl (fun gathered entry => insert entry.1 entry.2 gathered) start) from
    general [] List.Pairwise.nil
  induction entries with
  | nil => exact fun _ sorted => sorted
  | cons entry rest ih => exact fun start sorted => ih _ (sorted.insert _ _)

end Assoc
end DocStore
