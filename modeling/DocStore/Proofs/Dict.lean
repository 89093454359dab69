import DocStore.Dict

/-!
# Dictionaries by their look-ups

A sorted association list is determined by its look-ups, so two dictionaries
in which every name has the same value are equal.  Gathering the entries of a
dictionary again gives the dictionary back.
-/

namespace DocStore

namespace Assoc

variable {α : Type u}

theorem Sorted.nodup {entries : Assoc α} (sorted : Sorted entries) : entries.Nodup := by
  refine List.Pairwise.imp ?_ sorted
  intro left right less equal
  subst equal
  exact String.lt_irrefl _ less

/-- In a sorted list the value of a name is that of the one entry with the name. -/
theorem find?_eq_some_iff {entries : Assoc α} (sorted : Sorted entries)
    (name : String) (value : α) :
    find? name entries = some value ↔ (name, value) ∈ entries := by
  induction entries with
  | nil => simp
  | cons entry rest ih =>
    obtain ⟨key, old⟩ := entry
    obtain ⟨above, tail⟩ := List.pairwise_cons.1 sorted
    by_cases same : key = name
    · subst same
      have absent : (key, value) ∉ rest := fun member =>
        String.lt_irrefl key (above (key, value) member)
      simp [find?, absent, eq_comm]
    · have different : name ≠ key := Ne.symm same
      simp [find?, same, different, ih tail]

/-- What is found stands in the list. -/
theorem mem_of_find? {entries : Assoc α} {name : String} {value : α}
    (found : find? name entries = some value) : (name, value) ∈ entries := by
  induction entries with
  | nil => cases found
  | cons entry rest ih =>
    obtain ⟨key, old⟩ := entry
    unfold find? at found
    split at found
    · rename_i same
      cases found
      rw [same]
      exact List.mem_cons_self
    · exact List.mem_cons_of_mem _ (ih found)

/-- Sorted lists with the same look-ups are equal. -/
theorem Sorted.eq_of_find?_eq {left right : Assoc α}
    (leftSorted : Sorted left) (rightSorted : Sorted right)
    (same : ∀ name, find? name left = find? name right) : left = right := by
  have permuted : left.Perm right := by
    rw [List.perm_ext_iff_of_nodup leftSorted.nodup rightSorted.nodup]
    intro entry
    rw [← find?_eq_some_iff leftSorted, ← find?_eq_some_iff rightSorted, same]
  refine permuted.eq_of_pairwise ?_ leftSorted rightSorted
  intro first second _ _ before after
  exact absurd (String.lt_trans before after) (String.lt_irrefl _)

theorem find?_append (name : String) (left right : Assoc α) :
    find? name (left ++ right) = (find? name left).or (find? name right) := by
  induction left with
  | nil => simp
  | cons entry rest ih =>
    by_cases same : entry.1 = name <;> simp [find?, same, ih]

theorem find?_ofList (entries : List (String × α)) (name : String) :
    find? name (ofList entries) = find? name entries.reverse := by
  suffices general : ∀ start : Assoc α,
      find? name (entries.foldl (fun gathered entry => insert entry.1 entry.2 gathered) start) =
        (find? name entries.reverse).or (find? name start) by
    simpa [ofList] using general []
  induction entries with
  | nil => simp
  | cons entry rest ih =>
    intro start
    rw [List.foldl_cons, ih, find?_insert, List.reverse_cons, find?_append, Option.or_assoc]
    congr 1
    by_cases same : name = entry.1 <;> simp [find?, same, eq_comm]

/-- In a sorted list the name of the first entry is not found behind it. -/
theorem Sorted.find?_tail {entry : String × α} {rest : Assoc α}
    (sorted : Sorted (entry :: rest)) : find? entry.1 rest = none := by
  obtain ⟨above, _⟩ := List.pairwise_cons.1 sorted
  rw [find?_eq_none_iff]
  intro other member equal
  exact String.lt_irrefl _ (equal ▸ above other member)

/-- A name that no two entries share is found from either end. -/
theorem find?_reverse {entries : Assoc α} (sorted : Sorted entries) (name : String) :
    find? name entries.reverse = find? name entries := by
  induction entries with
  | nil => rfl
  | cons entry rest ih =>
    have absent := sorted.find?_tail
    obtain ⟨_, tail⟩ := List.pairwise_cons.1 sorted
    rw [List.reverse_cons, find?_append, ih tail]
    by_cases same : entry.1 = name
    · rw [same] at absent
      simp [find?, same, absent]
    · simp [find?, same]

/-- Gathering entries that are in order changes nothing. -/
theorem ofList_eq_self {entries : Assoc α} (sorted : Sorted entries) :
    ofList entries = entries := by
  refine (sorted_ofList entries).eq_of_find?_eq sorted fun name => ?_
  rw [find?_ofList, find?_reverse sorted]

end Assoc

namespace Dict

variable {α : Type u}

/-- Dictionaries with the same look-ups are equal. -/
theorem ext {left right : Dict α} (same : ∀ name, left.find? name = right.find? name) :
    left = right := by
  obtain ⟨leftEntries, leftSorted⟩ := left
  obtain ⟨rightEntries, rightSorted⟩ := right
  have entriesEqual : leftEntries = rightEntries :=
    leftSorted.eq_of_find?_eq rightSorted same
  subst entriesEqual
  rfl

theorem mem_entries_iff (dict : Dict α) (name : String) (value : α) :
    (name, value) ∈ dict.entries ↔ dict.find? name = some value :=
  (Assoc.find?_eq_some_iff dict.sorted name value).symm

theorem mem_values_iff (dict : Dict α) (value : α) :
    value ∈ dict.values ↔ ∃ name, dict.find? name = some value := by
  simp only [values, List.mem_map, Prod.exists, exists_eq_right, mem_entries_iff]

/-- Two values stand under different names. -/
theorem pairwise_values {Related : α → α → Prop} {dict : Dict α}
    (each : ∀ {name other value second}, name ≠ other → dict.find? name = some value →
      dict.find? other = some second → Related value second) :
    dict.values.Pairwise Related := by
  rw [values, List.pairwise_map]
  refine List.Pairwise.imp_of_mem (fun {left right} leftMember rightMember less => ?_) dict.sorted
  refine each (fun same => ?_) ((mem_entries_iff dict _ _).1 leftMember)
    ((mem_entries_iff dict _ _).1 rightMember)
  rw [same] at less
  exact String.lt_irrefl _ less

theorem find?_filter (dict : Dict α) (keep : String → α → Bool) (name : String) :
    (dict.filter keep).find? name = (dict.find? name).filter (keep name) := by
  refine Option.ext fun value => ?_
  rw [Option.filter_eq_some_iff, ← mem_entries_iff, ← mem_entries_iff]
  simp [filter]

/-- A dictionary is empty when no name has a value. -/
theorem isEmpty_iff (dict : Dict α) : dict.isEmpty = true ↔ ∀ name, dict.find? name = none := by
  rw [isEmpty, List.isEmpty_iff]
  constructor
  · intro noEntries name
    simp [find?, noEntries]
  · intro nothing
    refine List.eq_nil_iff_forall_not_mem.2 fun entry member => ?_
    have found := (mem_entries_iff dict entry.1 entry.2).1 member
    rw [nothing] at found
    exact absurd found (by simp)

@[simp] theorem insert_insert (dict : Dict α) (name : String) (first second : α) :
    (dict.insert name first).insert name second = dict.insert name second := by
  refine ext fun other => ?_
  simp only [find?_insert]
  by_cases same : other = name <;> simp [same]

/-- Giving a name the value that it has changes nothing. -/
theorem insert_eq_self {dict : Dict α} {name : String} {value : α}
    (present : dict.find? name = some value) : dict.insert name value = dict := by
  refine ext fun other => ?_
  rw [find?_insert]
  split
  · rename_i same
    rw [same, present]
  · rfl

theorem mem_keys_iff (dict : Dict α) (name : String) :
    name ∈ dict.keys ↔ dict.contains name = true := by
  simp only [keys, contains, List.mem_map, Prod.exists, exists_and_right, exists_eq_right,
    mem_entries_iff, Option.isSome_iff_exists]

/-- The names are listed in increasing order. -/
theorem pairwise_keys (dict : Dict α) : dict.keys.Pairwise (· < ·) := by
  rw [keys, List.pairwise_map]
  exact dict.sorted

theorem nodup_keys (dict : Dict α) : dict.keys.Nodup := by
  refine dict.pairwise_keys.imp fun {first second} less same => ?_
  exact String.lt_irrefl _ (same ▸ less)

/-- Gathering the entries of a dictionary gives the dictionary back. -/
theorem ofList_entries (dict : Dict α) : ofList dict.entries = dict := by
  obtain ⟨entries, sorted⟩ := dict
  simp [ofList, Assoc.ofList_eq_self sorted]

end Dict

/-! ## Sets of names -/

namespace NameSet

variable (names : NameSet) (more : List String) (name other : String)

@[simp] theorem contains_empty : Dict.contains (Dict.empty : NameSet) other = false := rfl

theorem contains_add :
    Dict.contains (names.add name) other = true ↔ other = name ∨ names.contains other = true := by
  rw [add, Dict.contains, Dict.find?_insert, Dict.contains]
  by_cases same : other = name <;> simp [same]

theorem contains_addAll :
    Dict.contains (names.addAll more) other = true ↔
      other ∈ more ∨ names.contains other = true := by
  unfold addAll
  induction more generalizing names with
  | nil => simp
  | cons first rest ih =>
    rw [List.foldl_cons, ih, contains_add, List.mem_cons, or_assoc, or_left_comm]

theorem contains_erase :
    Dict.contains (names.erase name) other = true ↔ other ≠ name ∧ names.contains other = true := by
  rw [Dict.contains, Dict.find?_erase, Dict.contains]
  by_cases same : other = name <;> simp [same]

theorem contains_ofNames : Dict.contains (ofNames more) other = true ↔ other ∈ more := by
  rw [Dict.contains, ofNames, Dict.find?, Dict.ofList, Assoc.find?_ofList, ← Option.ne_none_iff_isSome,
    ne_eq, Assoc.find?_eq_none_iff]
  simp

end NameSet
end DocStore
