import Mathlib.Data.List.Induction
import DocStore.Proofs.Sql.PathPattern
import DocStore.Store.Grants

/-!
# Ancestors of a path

The ancestors of a path are reached by cutting it before the last slash but one, over and
over, down to the empty path.  What lies below a path is told from its beginning: the path and
a slash.  The two agree on well-formed paths, which have their slashes in pairs
(`Path.mem_traverse_iff`, `Path.isBelow_iff`): a beginning that ends before the second slash of
a pair is no ancestor.
-/

namespace DocStore

namespace Path

/-- Whether characters are none, or begin with a slash and have an even number of slashes. -/
def Paired (chars : List Char) : Prop :=
  chars = [] ∨ chars.head? = some '/' ∧ 2 ∣ chars.count '/'

/-- Whether the path is empty, or begins with a slash and has an even number of slashes. -/
def WellFormed (path : Path) : Prop := Paired path.text.toList

instance (path : Path) : Decidable path.WellFormed :=
  inferInstanceAs (Decidable (_ ∨ _))

/-- The path of an identifier in a collection. -/
def under (collection id : String) : Path := ⟨collection ++ "/" ++ id⟩

theorem toList_under (collection id : String) :
    (under collection id).text.toList = collection.toList ++ '/' :: id.toList := by
  simp [under]

/-! ## Parents -/

theorem Paired.even {chars : List Char} (paired : Paired chars) : 2 ∣ chars.count '/' := by
  rcases paired with rfl | ⟨_, even⟩
  · exact Nat.dvd_zero 2
  · exact even

/-- The parent stands before the last slash but one. -/
theorem parentChars_append (before : List Char) {name id : List Char} (inName : '/' ∉ name)
    (inId : '/' ∉ id) : parentChars ((before ++ '/' :: name) ++ '/' :: id) = before := by
  rw [parentChars, splitAtLast_append '/' _ inId]
  dsimp only
  rw [splitAtLast_append '/' before inName]

/-- A path that is not empty is its parent and two more segments. -/
theorem Paired.exists_parent {chars : List Char} (paired : Paired chars) (nonempty : chars ≠ []) :
    ∃ parent name id, chars = (parent ++ '/' :: name) ++ '/' :: id ∧ '/' ∉ name ∧ '/' ∉ id ∧
      parentChars chars = parent ∧ Paired parent := by
  obtain ⟨head, even⟩ := paired.resolve_left nonempty
  obtain ⟨before, id, rfl, inId⟩ := exists_last (List.mem_of_mem_head? head)
  have counted : (before ++ '/' :: id).count '/' = before.count '/' + 1 := by
    simp [List.count_append, List.count_eq_zero.2 inId]
  have slashed : '/' ∈ before := List.count_pos_iff.1 (by omega)
  obtain ⟨parent, name, rfl, inName⟩ := exists_last slashed
  refine ⟨parent, name, id, rfl, inName, inId, parentChars_append parent inName inId, ?_⟩
  cases parent with
  | nil => exact .inl rfl
  | cons c rest =>
    refine .inr ⟨by simpa using head, ?_⟩
    simp only [List.count_append, List.count_cons_self, List.count_eq_zero.2 inName] at counted even
    omega

/-! ## Beginnings -/

/-- What begins a text and ends with a slash ends with its last slash or before. -/
theorem slashed_prefix_iff (root before : List Char) {after : List Char} (last : '/' ∉ after) :
    root ++ ['/'] <+: before ++ '/' :: after ↔ root = before ∨ root ++ ['/'] <+: before := by
  induction after using List.reverseRecOn with
  | nil => rw [List.prefix_concat_iff, List.append_left_inj]
  | append_singleton start c ih =>
    obtain ⟨inStart, different⟩ : '/' ∉ start ∧ '/' ≠ c := by simpa using last
    have regrouped : before ++ '/' :: (start ++ [c]) = (before ++ '/' :: start) ++ [c] := by simp
    rw [regrouped, List.prefix_concat_iff, ih inStart]
    refine or_iff_right fun same => different ?_
    exact List.cons.inj (List.append_inj_right' same rfl) |>.1

/-- With slashes in pairs, what begins a text and has one more slash than a path does not end
inside the last pair of the text. -/
theorem slashed_prefix_pair_iff {root before name id : List Char} (evenRoot : 2 ∣ root.count '/')
    (evenBefore : 2 ∣ before.count '/') (inName : '/' ∉ name) (inId : '/' ∉ id) :
    root ++ ['/'] <+: (before ++ '/' :: name) ++ '/' :: id ↔
      root = before ∨ root ++ ['/'] <+: before := by
  rw [slashed_prefix_iff root _ inId, slashed_prefix_iff root before inName]
  refine or_iff_right ?_
  rintro rfl
  simp only [List.count_append, List.count_cons_self, List.count_eq_zero.2 inName] at evenRoot
  omega

/-! ## Ancestors -/

theorem ancestors_nil : ancestors [] = [[]] := by
  rw [ancestors, dif_pos rfl]

theorem ancestors_of_ne_nil {chars : List Char} (nonempty : chars ≠ []) :
    ancestors chars = chars :: ancestors (parentChars chars) := by
  rw [ancestors, dif_neg nonempty]

/-- The ancestors of a path are the path and those that it begins with, up to a slash. -/
theorem mem_ancestors_iff {root : List Char} (evenRoot : 2 ∣ root.count '/') (chars : List Char)
    (paired : Paired chars) :
    root ∈ ancestors chars ↔ chars = root ∨ root ++ ['/'] <+: chars := by
  induction chars using ancestors.induct with
  | case1 =>
    have longer : ¬root ++ ['/'] <+: [] := by simp
    rw [ancestors_nil, List.mem_singleton, or_iff_left longer, eq_comm]
  | case2 chars nonempty _ ih =>
    obtain ⟨parent, name, id, text, inName, inId, cut, pairedParent⟩ :=
      paired.exists_parent nonempty
    rw [cut] at ih
    rw [ancestors_of_ne_nil nonempty, cut, List.mem_cons, ih pairedParent, text,
      slashed_prefix_pair_iff evenRoot pairedParent.even inName inId, eq_comm,
      eq_comm (a := parent)]

theorem getLast?_ancestors (chars : List Char) : (ancestors chars).getLast? = some [] := by
  induction chars using ancestors.induct with
  | case1 => rw [ancestors_nil, List.getLast?_singleton]
  | case2 chars nonempty _ ih =>
    rw [ancestors_of_ne_nil nonempty, List.getLast?_cons, ih]
    rfl

theorem mem_traverse (path other : Path) :
    path ∈ other.traverse ↔ path.text.toList ∈ ancestors other.text.toList := by
  simp only [traverse, List.mem_map]
  constructor
  · rintro ⟨chars, member, rfl⟩
    rwa [String.toList_ofList]
  · intro member
    exact ⟨_, member, by rw [String.ofList_toList]⟩

/-- Going up from a path ends with the empty path. -/
theorem getLast?_traverse (path : Path) : path.traverse.getLast? = some ⟨""⟩ := by
  rw [traverse, List.getLast?_map, getLast?_ancestors]
  rfl

/-- The paths that another one is at or below are those on the way up from it. -/
theorem mem_traverse_iff {path other : Path} (wellFormed : path.WellFormed)
    (otherWellFormed : other.WellFormed) :
    path ∈ other.traverse ↔ isAtOrBelow path other = true := by
  rw [mem_traverse, mem_ancestors_iff wellFormed.even _ otherWellFormed, isAtOrBelow,
    Bool.or_eq_true, beq_iff_eq, List.isPrefixOf_iff_prefix, String.toList_inj]
  exact or_congr_left ⟨congrArg Path.mk, congrArg Path.text⟩

/-- The collections below a path are those of the paths properly below it. -/
theorem isBelow_iff {path : Path} {collection id : String} (wellFormed : path.WellFormed)
    (last : '/' ∉ id.toList) (documentWellFormed : (under collection id).WellFormed) :
    isBelow path collection = true ↔
      path ∈ (under collection id).traverse ∧ path ≠ under collection id := by
  have inCollection : path.text.toList ≠ collection.toList := by
    intro same
    have even := documentWellFormed.even
    have evenPath := wellFormed.even
    simp only [toList_under, List.count_append, List.count_cons_self, List.count_eq_zero.2 last,
      ← same] at even
    omega
  have begins : isBelow path collection = true ↔
      path.text.toList ++ ['/'] <+: (under collection id).text.toList := by
    rw [isBelow, belowMark, List.isPrefixOf_iff_prefix, toList_under,
      slashed_prefix_iff _ _ last, or_iff_right inCollection]
  rw [mem_traverse, mem_ancestors_iff wellFormed.even _ documentWellFormed, begins]
  constructor
  · intro below
    refine ⟨.inr below, ?_⟩
    rintro rfl
    have shorter := below.length_le
    rw [List.length_append] at shorter
    exact absurd shorter (Nat.not_succ_le_self _)
  · rintro ⟨same | below, different⟩
    · exact absurd (congrArg Path.mk (String.toList_inj.1 same.symm)) different
    · exact below

end Path
end DocStore
