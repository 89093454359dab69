import DocStore.Proofs.Path.Ancestors

/-!
# Joining and splitting

A collection and an identifier are joined to a path as the path of a request is read: an API
version at its start is dropped, and a path that then ends in a collection is made a node path.
With an odd number of slashes in the collection and none in the identifier, the path is split into
the two again exactly if nothing is dropped (`Path.split_join_iff`).  What is dropped is not only
`/v` with a number: `/v` alone is taken for a version too.
-/

namespace DocStore
namespace Path

/-! ## Versions -/

/-- Whether a text starts with `/v` and digits, and the rest is empty or begins with a slash. -/
def StartsVersion (digits rest chars : List Char) : Prop :=
  (∀ d ∈ digits, '0' ≤ d ∧ d ≤ '9') ∧ (∀ c ∈ rest.head?, c = '/') ∧
    chars = '/' :: 'v' :: (digits ++ rest)

/-- Whether a text starts with an API version, which has a number. -/
def Versioned (chars : List Char) : Prop :=
  ∃ digits rest, digits ≠ [] ∧ StartsVersion digits rest chars

/-- Whether a text starts with `/v` without a number. -/
def Unnumbered (chars : List Char) : Prop := ∃ rest, StartsVersion [] rest chars

theorem versioned_or_unnumbered_iff {chars : List Char} :
    Versioned chars ∨ Unnumbered chars ↔ ∃ digits rest, StartsVersion digits rest chars := by
  constructor
  · rintro (⟨digits, rest, _, starts⟩ | ⟨rest, starts⟩)
    · exact ⟨digits, rest, starts⟩
    · exact ⟨[], rest, starts⟩
  · rintro ⟨digits, rest, starts⟩
    by_cases unnumbered : digits = []
    · exact .inr ⟨rest, unnumbered ▸ starts⟩
    · exact .inl ⟨digits, rest, unnumbered, starts⟩

/-- Digits are passed up to a slash or the end. -/
theorem afterVersion?_eq_some_iff {chars rest : List Char} :
    afterVersion? chars = some rest ↔ ∃ digits, (∀ d ∈ digits, '0' ≤ d ∧ d ≤ '9') ∧
      (∀ c ∈ rest.head?, c = '/') ∧ chars = digits ++ rest := by
  fun_induction afterVersion? chars with
  | case1 =>
    constructor
    · rintro ⟨⟩
      exact ⟨[], by simp⟩
    · rintro ⟨digits, _, _, text⟩
      rw [(List.append_eq_nil_iff.1 text.symm).2]
  | case2 others =>
    constructor
    · rintro ⟨⟩
      exact ⟨[], by simp⟩
    · rintro ⟨digits, all, _, text⟩
      cases digits with
      | nil => rw [text, List.nil_append]
      | cons d digits =>
        obtain ⟨rfl, _⟩ := List.cons.inj text
        exact absurd (all '/' List.mem_cons_self) (by decide)
  | case3 c others slash digit ih =>
    rw [ih]
    constructor
    · rintro ⟨digits, all, stops, rfl⟩
      exact ⟨c :: digits, List.forall_mem_cons.2 ⟨digit, all⟩, stops, rfl⟩
    · rintro ⟨digits, all, stops, text⟩
      cases digits with
      | nil =>
        rw [List.nil_append] at text
        exact absurd (stops c (text ▸ rfl)) slash
      | cons d digits =>
        obtain ⟨rfl, rfl⟩ := List.cons.inj text
        exact ⟨digits, (List.forall_mem_cons.1 all).2, stops, rfl⟩
  | case4 c others slash digit =>
    refine iff_of_false (by simp) ?_
    rintro ⟨digits, all, stops, text⟩
    cases digits with
    | nil =>
      rw [List.nil_append] at text
      exact slash (stops c (text ▸ rfl))
    | cons d digits =>
      obtain ⟨rfl, _⟩ := List.cons.inj text
      exact digit (all c List.mem_cons_self)

/-- What a text starts with is dropped if it is a version, with a number or without one. -/
theorem withoutVersion_of_starts {digits rest chars : List Char}
    (starts : StartsVersion digits rest chars) : withoutVersion chars = rest := by
  obtain ⟨all, stops, rfl⟩ := starts
  have after : afterVersion? (digits ++ rest) = some rest :=
    afterVersion?_eq_some_iff.2 ⟨digits, all, stops, rfl⟩
  rw [withoutVersion, after]
  rfl

/-- What starts with no version is kept. -/
theorem withoutVersion_eq_self_iff {chars : List Char} :
    withoutVersion chars = chars ↔ ¬∃ digits rest, StartsVersion digits rest chars := by
  constructor
  · rintro kept ⟨digits, rest, starts⟩
    rw [withoutVersion_of_starts starts] at kept
    have shorter := congrArg List.length (kept.trans starts.2.2)
    simp only [List.length_cons, List.length_append] at shorter
    omega
  · intro plain
    unfold withoutVersion
    split
    · rename_i others
      cases after : afterVersion? others with
      | none => rfl
      | some rest =>
        obtain ⟨digits, all, stops, rfl⟩ := afterVersion?_eq_some_iff.1 after
        exact absurd ⟨digits, rest, all, stops, rfl⟩ plain
    · rfl

/-! ## Request paths -/

theorem afterVersion?_append (chars id : List Char) :
    afterVersion? (chars ++ '/' :: id) = (afterVersion? chars).map (· ++ '/' :: id) := by
  fun_induction afterVersion? chars with
  | case1 => rfl
  | case2 others => rfl
  | case3 c others slash digit ih =>
    rw [List.cons_append, afterVersion?, if_neg slash, if_pos digit, ih]
  | case4 c others slash digit =>
    rw [List.cons_append, afterVersion?, if_neg slash, if_neg digit, Option.map_none]

/-- What follows another slash has no part in a version. -/
theorem withoutVersion_append {chars : List Char} (nonempty : chars ≠ []) (id : List Char) :
    withoutVersion (chars ++ '/' :: id) = withoutVersion chars ++ '/' :: id := by
  by_cases marked : ∃ others, chars = '/' :: 'v' :: others
  · obtain ⟨others, rfl⟩ := marked
    rw [List.cons_append, List.cons_append, withoutVersion, withoutVersion, afterVersion?_append]
    cases afterVersion? others <;> rfl
  · have kept : ∀ text, (¬∃ others, text = '/' :: 'v' :: others) → withoutVersion text = text := by
      intro text unmarked
      unfold withoutVersion
      split
      · exact absurd ⟨_, rfl⟩ unmarked
      · rfl
    rw [kept chars marked, kept (chars ++ '/' :: id)]
    rintro ⟨others, text⟩
    match chars with
    | [] => exact nonempty rfl
    | [_] => simp at text
    | c :: d :: more =>
      simp only [List.cons_append, List.cons.injEq] at text
      exact marked ⟨more, by rw [text.1, text.2.1]⟩

theorem toList_normalize (requestPath : String) :
    (normalize requestPath).text.toList =
      if (withoutVersion requestPath.toList).count '/' % 2 = 0 then
        withoutVersion requestPath.toList
      else withoutVersion requestPath.toList ++ '/' :: ['*'] := by
  unfold normalize
  dsimp only
  split <;> exact String.toList_ofList

/-- The path of a request has an even number of slashes. -/
theorem even_count_normalize (requestPath : String) :
    2 ∣ (normalize requestPath).text.toList.count '/' := by
  rw [toList_normalize]
  split
  · omega
  · rw [List.count_append]
    simp only [List.count_cons_self, show ['*'].count '/' = 0 from rfl]
    omega

/-- The path that is joined, before its slashes are counted. -/
theorem withoutVersion_joined {collection : String} (nonempty : collection.toList ≠ [])
    (id : String) :
    withoutVersion (collection ++ "/" ++ id).toList =
      withoutVersion collection.toList ++ '/' :: id.toList := by
  rw [← withoutVersion_append nonempty]
  simp

/-! ## Joined paths -/

theorem split_of_toList {path : Path} {before after : List Char}
    (text : path.text.toList = before ++ '/' :: after) (last : '/' ∉ after) :
    path.split = (String.ofList before, String.ofList after) := by
  unfold split
  rw [text, splitAtLast_append '/' before last]

section

variable {collection id : String} (odd : collection.toList.count '/' % 2 = 1)

include odd

theorem toList_ne_nil_of_odd : collection.toList ≠ [] := by
  intro empty
  rw [empty] at odd
  cases odd

theorem slashed_join : (join collection id).Slashed := by
  have joined := withoutVersion_joined (toList_ne_nil_of_odd odd) id
  rw [Slashed, join, toList_normalize, joined]
  split <;> simp

variable (plain : '/' ∉ id.toList)

include plain

/-- A collection that is kept is split off again. -/
theorem split_join_of_kept (kept : withoutVersion collection.toList = collection.toList) :
    (join collection id).split = (collection, id) := by
  have joined := withoutVersion_joined (toList_ne_nil_of_odd odd) id
  rw [kept] at joined
  have even : (collection.toList ++ '/' :: id.toList).count '/' % 2 = 0 := by
    rw [List.count_append, List.count_cons_self, List.count_eq_zero.2 plain]
    omega
  have text : (join collection id).text.toList = collection.toList ++ '/' :: id.toList := by
    rw [join, toList_normalize, joined, if_pos even]
  rw [split_of_toList text plain, String.ofList_toList, String.ofList_toList]

/-- Without the version in front of it a collection and an identifier are the path of a
collection. -/
theorem split_join_of_starts {digits rest : List Char}
    (starts : StartsVersion digits rest collection.toList) :
    (join collection id).split = (String.ofList rest ++ "/" ++ id, "*") := by
  have joined := withoutVersion_joined (toList_ne_nil_of_odd odd) id
  rw [withoutVersion_of_starts starts] at joined
  obtain ⟨all, -, shape⟩ := starts
  have inDigits : '/' ∉ digits := fun member => absurd (all '/' member) (by decide)
  rw [shape] at odd
  have left : ¬(rest ++ '/' :: id.toList).count '/' % 2 = 0 := by
    simp only [List.count_append, List.count_cons_self, List.count_eq_zero.2 plain,
      List.count_eq_zero.2 inDigits, List.count_cons_of_ne (show 'v' ≠ '/' by decide)] at odd ⊢
    omega
  have text : (join collection id).text.toList = (rest ++ '/' :: id.toList) ++ '/' :: ['*'] := by
    rw [join, toList_normalize, joined, if_neg left]
  rw [split_of_toList text (by decide)]
  simp [String.append_assoc]

end

/-- A path lies in the collection of the node path beside it. -/
theorem contains_beside {path : Path} (slashed : path.Slashed) :
    (path.withDocumentId "*").isNode = true ∧
      (path.withDocumentId "*").contains path = true := by
  obtain ⟨before, after, text, last⟩ := exists_last slashed
  have beside : (path.withDocumentId "*").text.toList = before ++ '/' :: ['*'] := by
    rw [withDocumentId, text, splitAtLast_append '/' before last]
    simp
  have node := (isNode_iff_of_slash beside).2 rfl
  refine ⟨node, (contains_node_iff node slashed).2 ⟨after, ?_, last⟩⟩
  rw [toList_collection beside (by decide), text]

/-- Splitting undoes joining exactly if no version is dropped.  Of a collection with an odd number of
slashes and an identifier without one, the joined path is split into the two unless the collection
starts with an API version, or with `/v` alone.  What is left of such a collection and the
identifier make up the collection of a node path.  In either case the joined path has an even number
of slashes and lies in the collection of the node path beside it. -/
theorem split_join_iff {collection id : String} (odd : collection.toList.count '/' % 2 = 1)
    (plain : '/' ∉ id.toList) :
    ((join collection id).split = (collection, id) ↔
        ¬(Versioned collection.toList ∨ Unnumbered collection.toList)) ∧
      (∀ digits rest, StartsVersion digits rest collection.toList →
        (join collection id).split = (String.ofList rest ++ "/" ++ id, "*")) ∧
      2 ∣ (join collection id).text.toList.count '/' ∧
      ((join collection id).withDocumentId "*").isNode = true ∧
      ((join collection id).withDocumentId "*").contains (join collection id) = true := by
  have dropped : ∀ digits rest, StartsVersion digits rest collection.toList →
      (join collection id).split = (String.ofList rest ++ "/" ++ id, "*") :=
    fun _ _ starts => split_join_of_starts odd plain starts
  refine ⟨⟨fun back versioned => ?_, fun unversioned => ?_⟩, dropped,
    even_count_normalize _, contains_beside (slashed_join odd)⟩
  · -- A slash and an asterisk behind the rest do not make up for the `v` of the version.
    obtain ⟨digits, rest, starts⟩ := versioned_or_unnumbered_iff.1 versioned
    obtain ⟨same, star⟩ := Prod.mk.inj (back.symm.trans (dropped digits rest starts))
    have text : collection.toList = rest ++ '/' :: ['*'] := by
      rw [same, star]
      simp
    have letters := congrArg (List.count 'v') (text.symm.trans starts.2.2)
    rw [List.count_append, show ('/' :: ['*']).count 'v' = 0 from rfl,
      List.count_cons_of_ne (by decide), List.count_cons_self, List.count_append] at letters
    omega
  · rw [versioned_or_unnumbered_iff, ← withoutVersion_eq_self_iff] at unversioned
    exact split_join_of_kept odd plain unversioned

/-- Names that begin like a version, in a collection and as an identifier. -/
theorem split_join_iff_beside_version :
    "/v1x/v2/values".toList.count '/' % 2 = 1 ∧ '/' ∉ "v1*".toList ∧
      (join "/v1x/v2/values" "v1*").split = ("/v1x/v2/values", "v1*") ∧
      ((join "/v1x/v2/values" "v1*").withDocumentId "*").contains
        (join "/v1x/v2/values" "v1*") = true := by
  have odd : "/v1x/v2/values".toList.count '/' % 2 = 1 := by decide
  have plain : '/' ∉ "v1*".toList := by decide
  obtain ⟨back, -, -, -, contained⟩ := split_join_iff odd plain
  refine ⟨odd, plain, back.2 ?_, contained⟩
  rw [versioned_or_unnumbered_iff, ← withoutVersion_eq_self_iff]
  decide

/-- A collection that is named `v` is taken for a version, although it has no number. -/
theorem bare_version_dropped :
    "/v".toList.count '/' % 2 = 1 ∧ '/' ∉ "x".toList ∧ ¬Versioned "/v".toList ∧
      (join "/v" "x").split ≠ ("/v", "x") := by
  refine ⟨by decide, by decide, ?_, by decide +kernel⟩
  rintro ⟨digits, rest, numbered, -, -, text⟩
  have ended : digits ++ rest = [] := (List.cons.inj (List.cons.inj text).2).2.symm
  exact numbered (List.append_eq_nil_iff.1 ended).1

end Path
end DocStore
