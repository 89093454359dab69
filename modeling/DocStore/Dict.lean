import DocStore.Assoc

/-!
# Dictionaries

A dictionary is an association list whose names increase strictly, so two
dictionaries with the same look-ups are equal (`Dict.ext`).  A set of names is a
dictionary without values.
-/

namespace DocStore

universe u v

/-- Named values, each name once, listed in increasing order of the names. -/
structure Dict (α : Type u) where
  /-- The entries, in order. -/
  entries : Assoc α
  /-- The names increase strictly. -/
  sorted : Assoc.Sorted entries

namespace Dict

variable {α : Type u} {β : Type v}

/-- The dictionary without entries. -/
def empty : Dict α := ⟨[], List.Pairwise.nil⟩

instance : EmptyCollection (Dict α) := ⟨empty⟩
instance : Inhabited (Dict α) := ⟨empty⟩

instance [DecidableEq α] : DecidableEq (Dict α) := fun left right =>
  decidable_of_iff (left.entries = right.entries) <| by
    cases left; cases right; simp

/-- The value of a name. -/
def find? (dict : Dict α) (name : String) : Option α :=
  Assoc.find? name dict.entries

/-- Whether the name has a value. -/
def contains (dict : Dict α) (name : String) : Bool :=
  (dict.find? name).isSome

/-- Gives a name a value. -/
def insert (dict : Dict α) (name : String) (value : α) : Dict α :=
  ⟨Assoc.insert name value dict.entries, dict.sorted.insert name value⟩

/-- Takes a name out. -/
def erase (dict : Dict α) (name : String) : Dict α :=
  ⟨Assoc.erase name dict.entries, dict.sorted.erase name⟩

/-- Gives a name a value or takes it out. -/
def assign (dict : Dict α) (name : String) : Option α → Dict α
  | some value => dict.insert name value
  | none => dict.erase name

/-- The entries that pass a test. -/
def filter (dict : Dict α) (keep : String → α → Bool) : Dict α :=
  ⟨dict.entries.filter fun entry => keep entry.1 entry.2, List.Pairwise.filter _ dict.sorted⟩

/-- Gathers entries: a name that comes again keeps its last value. -/
def ofList (entries : List (String × α)) : Dict α :=
  ⟨Assoc.ofList entries, Assoc.sorted_ofList entries⟩

/-- The names, in order. -/
def keys (dict : Dict α) : List String := dict.entries.map (·.1)

/-- The values, in the order of their names. -/
def values (dict : Dict α) : List α := dict.entries.map (·.2)

/-- Whether there is no entry. -/
def isEmpty (dict : Dict α) : Bool := dict.entries.isEmpty

/-- The number of entries. -/
def size (dict : Dict α) : Nat := dict.entries.length

/-! ## Look-up after a change -/

@[simp]
theorem find?_empty (name : String) : (empty : Dict α).find? name = none := rfl

theorem find?_insert (dict : Dict α) (name other : String) (value : α) :
    (dict.insert name value).find? other =
      if other = name then some value else dict.find? other :=
  Assoc.find?_insert name other value dict.entries

theorem find?_erase (dict : Dict α) (name other : String) :
    (dict.erase name).find? other = if other = name then none else dict.find? other :=
  Assoc.find?_erase name other dict.entries

theorem find?_assign (dict : Dict α) (name other : String) (value : Option α) :
    (dict.assign name value).find? other = if other = name then value else dict.find? other := by
  cases value with
  | none => exact find?_erase dict name other
  | some value => exact find?_insert dict name other value

end Dict

/-- A set of names, listed in increasing order. -/
abbrev NameSet := Dict Unit

namespace NameSet

/-- Gathers names; repetitions do not count. -/
def ofNames (names : List String) : NameSet :=
  Dict.ofList (names.map fun name => (name, ()))

/-- Adds a name. -/
def add (names : NameSet) (name : String) : NameSet :=
  names.insert name ()

/-- Adds every name of a list. -/
def addAll (names : NameSet) (more : List String) : NameSet :=
  more.foldl add names

end NameSet
end DocStore
