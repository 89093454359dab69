import DocStore.Proofs.Text.Percent
import DocStore.Proofs.Text.Split
import DocStore.Url.Reader

/-!
# Paths of URLs read back

The segments of a path are encoded and no dots any more, so that reading them again changes
nothing, whether they follow an authority or not.
-/

namespace DocStore
namespace Url
namespace Reader

open Text (escapeChars percentEncode)

/-! ## Encoded parts -/

/-- A text without characters of a set. -/
def FreeOf (inSet : Char → Bool) (text : String) : Prop := ∀ c ∈ text.toList, inSet c = false

variable {inSet : Char → Bool}

theorem freeOf_encoded (spares : ∀ c ∈ escapeChars, inSet c = false) (chars : List Char) :
    FreeOf inSet (encoded inSet chars) := by
  rw [FreeOf, encoded, String.toList_ofList]
  exact Text.free_percentEncode spares chars

/-- Where there is nothing to encode, nothing changes. -/
theorem FreeOf.encoded {text : String} (free : FreeOf inSet text) :
    Reader.encoded inSet text.toList = text := by
  rw [Reader.encoded, Text.percentEncode_of_free free, String.ofList_toList]

/-- Whether a character is neither a blank nor a control nor beyond ASCII. -/
def isSolid (c : Char) : Bool := !Host.isControlOrWide c && c ≠ ' '

theorem isSolid_of_fragment {c : Char} (free : inFragmentSet c = false) : isSolid c = true := by
  simp [inFragmentSet] at free
  simp [isSolid, free]

theorem isSolid_of_query {c : Char} (free : inQuerySet c = false) : isSolid c = true := by
  simp [inQuerySet] at free
  simp [isSolid, free]

theorem isSolid_of_path {c : Char} (free : inPathSet c = false) : isSolid c = true := by
  rw [inPathSet, Bool.or_eq_false_iff] at free
  exact isSolid_of_fragment free.1

/-- What is solid is no control. -/
theorem printed_of_isSolid {c : Char} (solid : isSolid c = true) :
    Host.isControlOrWide c = false := by
  rw [isSolid, Bool.and_eq_true_iff] at solid
  simpa using solid.1

/-! ## Dots -/

/-- Whether a segment counts as dots. -/
def isDots (segment : List Char) : Bool := isSingleDot segment || isDoubleDot segment

/-- A segment as it stands in a path that was read. -/
structure SettledName (name : String) : Prop where
  free : FreeOf inPathSet name
  whole : '/' ∉ name.toList
  plain : isDots name.toList = false

/-- Whether every percent sign is followed by what spells a dot. -/
def spellsDots : List Char → Bool
  | [] => true
  | c :: rest => (c ≠ '%' || rest.take 2 = ['2', 'e']) && spellsDots rest

/-- No byte but that of a dot spells one. -/
theorem eq_dot_of_spelled {byte : UInt8}
    (spelled : (Text.percentByte byte).map Char.toLower = ['%', '2', 'e']) : byte.toNat = 0x2E := by
  have digits : ∀ high low : Fin 16,
      [Text.upperHexDigit high, Text.upperHexDigit low].map Char.toLower = ['2', 'e'] →
        high = 2 ∧ low = 14 := by decide
  have bound : byte.toNat < 256 := byte.toNat_lt
  have both := digits ⟨byte.toNat / 16, by omega⟩ ⟨byte.toNat % 16, by omega⟩
    (List.cons.inj spelled).2
  have high := congrArg Fin.val both.1
  have low := congrArg Fin.val both.2
  simp at high low
  omega

/-- A segment that is encoded as dots has nothing to encode. -/
theorem free_of_spellsDots {segment : List Char}
    (dots : spellsDots ((percentEncode inPathSet segment).map Char.toLower) = true) :
    ∀ c ∈ segment, inPathSet c = false := by
  induction segment with
  | nil => simp
  | cons c rest ih =>
    rw [percentEncode, List.flatMap_cons, List.map_append] at dots
    cases inSet : inPathSet c with
    | true =>
      -- The first byte of the character would be that of a dot.
      obtain ⟨byte, bytes, spelled, unlike⟩ := Text.exists_charBytes c
      rw [inSet, if_pos rfl, spelled, List.flatMap_cons] at dots
      have marks : (Text.percentByte byte).map Char.toLower = ['%', '2', 'e'] := by
        have percent : Char.toLower '%' = '%' := by decide
        have behind : (Text.percentByte byte ++ bytes.flatMap Text.percentByte).map Char.toLower =
            (Text.percentByte byte).map Char.toLower ++
              (bytes.flatMap Text.percentByte).map Char.toLower := List.map_append
        rw [behind] at dots
        simp only [Text.percentByte, List.map_cons, List.map_nil, List.cons_append, percent,
          spellsDots, Bool.and_eq_true] at dots ⊢
        simpa using dots.1
      have value := eq_dot_of_spelled marks
      rcases unlike with same | wide
      · have isDot : c = '.' := Char.toNat_inj.1 (same.symm.trans value)
        rw [isDot] at inSet
        cases inSet
      · omega
    | false =>
      rw [inSet, if_neg Bool.false_ne_true, List.map_singleton, List.singleton_append,
        spellsDots, Bool.and_eq_true] at dots
      have others := ih dots.2
      intro d member
      rcases List.mem_cons.1 member with rfl | later
      · exact inSet
      · exact others d later

theorem spellsDots_of_isDots {segment : List Char} (dots : isDots segment = true) :
    spellsDots (segment.map Char.toLower) = true := by
  simp only [isDots, isSingleDot, isDoubleDot, Bool.or_eq_true, decide_eq_true_eq] at dots
  rcases dots with (same | same) | ((same | same) | same) | same <;>
    · rw [same]
      decide

theorem isDots_percentEncode {segment : List Char} (plain : isDots segment = false) :
    isDots (percentEncode inPathSet segment) = false := by
  rw [← Bool.not_eq_true] at plain ⊢
  intro dots
  rw [Text.percentEncode_of_free (free_of_spellsDots (spellsDots_of_isDots dots))] at dots
  exact plain dots

/-! ## Walks -/

theorem isBreak_of_not_control {c : Char} (printed : Host.isControlOrWide c = false) :
    isBreak c = false := by
  rw [← Bool.not_eq_true] at printed ⊢
  intro breaks
  simp only [isBreak, Bool.or_eq_true, decide_eq_true_eq] at breaks
  rcases breaks with (rfl | rfl) | rfl <;> exact printed (by decide)

/-- Where there are no breaks, none are left out. -/
theorem filter_isBreak {chars : List Char} (printed : ∀ c ∈ chars, Host.isControlOrWide c = false) :
    chars.filter (!isBreak ·) = chars := by
  refine List.filter_eq_self.2 fun c member => ?_
  rw [isBreak_of_not_control (printed c member)]
  rfl

/-- What becomes of a segment that is no dots. -/
theorem settled_encoded {name : List Char} (whole : '/' ∉ name) (plain : isDots name = false) :
    SettledName (encoded inPathSet name) := by
  have spares : ∀ c ∈ escapeChars, inPathSet c = false := Text.forall_mem_of_all (by decide)
  refine ⟨freeOf_encoded spares name, ?_, ?_⟩ <;>
    simp only [encoded, String.toList_ofList]
  · intro slash
    have unlike : ∀ c ∈ percentEncode inPathSet name, c ≠ '/' :=
      Text.forall_mem_percentEncode (Text.forall_mem_of_all (by decide)) fun c member _ same =>
        whole (same ▸ member)
    exact unlike '/' slash rfl
  · exact isDots_percentEncode plain

variable {walk : Walk}

/-- Every segment of a walk is settled. -/
def Walk.Settled (walk : Walk) : Prop := ∀ name ∈ walk.above, SettledName name

theorem Walk.Settled.leave (settled : walk.Settled) : walk.leave.Settled := by
  obtain ⟨_ | ⟨last, above⟩, onDrive⟩ := walk
  · exact settled
  · simp only [Walk.leave]
    split
    · exact settled
    · exact fun name member => settled name (List.mem_cons_of_mem _ member)

theorem Walk.Settled.push (settled : walk.Settled) {name : String} (also : SettledName name) :
    Walk.Settled { walk with above := name :: walk.above } := by
  intro other member
  rcases List.mem_cons.1 member with rfl | below
  · exact also
  · exact settled other below

theorem settledName_empty : SettledName "" := ⟨by simp [FreeOf], by simp, by decide⟩

/-- How a segment is entered outside the web. -/
theorem enter_other (walk : Walk) (segment : List Char) :
    walk.enter .other segment =
      let name := segment.filter (!isBreak ·)
      if isDoubleDot name then walk.leave
      else if isSingleDot name then walk
      else { walk with above := encoded inPathSet name :: walk.above } := by
  simp [Walk.enter]

theorem Walk.Settled.enter (settled : walk.Settled) {segment : List Char} (whole : '/' ∉ segment) :
    (walk.enter .other segment).Settled := by
  rw [enter_other]
  simp only []
  split
  · exact settled.leave
  · split
    · exact settled
    · rename_i double single
      refine settled.push (settled_encoded (fun slash => whole (List.mem_filter.1 slash).1) ?_)
      simp [isDots, double, single]

theorem Walk.Settled.finish (settled : walk.Settled) {segment : List Char}
    (whole : '/' ∉ segment) : (walk.finish .other segment).Settled := by
  unfold Walk.finish
  simp only []
  split
  · exact (settled.enter whole).push settledName_empty
  · exact settled.enter whole

/-- A walk ends in a segment. -/
theorem finish_above_ne_nil (walk : Walk) (segment : List Char) :
    (walk.finish .other segment).above ≠ [] := by
  unfold Walk.finish
  rw [enter_other]
  grind

theorem Walk.Settled.walkThrough (settled : walk.Settled) {segments : List (List Char)}
    (whole : ∀ segment ∈ segments, '/' ∉ segment) :
    (walkThrough .other walk segments).Settled := by
  induction segments generalizing walk with
  | nil => exact settled
  | cons segment rest ih =>
    have first := whole segment List.mem_cons_self
    have others : ∀ other ∈ rest, '/' ∉ other := fun other member =>
      whole other (List.mem_cons_of_mem _ member)
    cases rest with
    | nil => exact settled.finish first
    | cons next rest => exact ih (settled.enter first) others

theorem walkThrough_above_ne_nil (walk : Walk) {segments : List (List Char)}
    (some : segments ≠ []) : (walkThrough .other walk segments).above ≠ [] := by
  induction segments generalizing walk with
  | nil => exact absurd rfl some
  | cons segment rest ih =>
    cases rest with
    | nil => exact finish_above_ne_nil walk segment
    | cons next rest => exact ih _ (List.cons_ne_nil _ _)

/-! ## Settled segments -/

theorem SettledName.filter {name : String} (settled : SettledName name) :
    name.toList.filter (!isBreak ·) = name.toList :=
  filter_isBreak fun c member => printed_of_isSolid (isSolid_of_path (settled.free c member))

/-- A settled segment is entered as it is. -/
theorem SettledName.enter {name : String} (settled : SettledName name) (walk : Walk) :
    walk.enter .other name.toList = { walk with above := name :: walk.above } := by
  have plain := settled.plain
  rw [isDots, Bool.or_eq_false_iff] at plain
  rw [enter_other, settled.filter]
  simp only [plain.1, plain.2, Bool.false_eq_true, if_false, settled.free.encoded]

theorem SettledName.finish {name : String} (settled : SettledName name) (walk : Walk) :
    walk.finish .other name.toList = { walk with above := name :: walk.above } := by
  have plain : (isSingleDot name.toList || isDoubleDot name.toList) = false := settled.plain
  simp only [Walk.finish, settled.filter, plain, settled.enter, Bool.false_eq_true, if_false]

/-- A walk along settled segments enters all of them. -/
theorem walkThrough_settled {names : List String} (settled : ∀ name ∈ names, SettledName name)
    (walk : Walk) :
    (walkThrough .other walk (names.map String.toList)).above = names.reverse ++ walk.above := by
  induction names generalizing walk with
  | nil => rfl
  | cons name rest ih =>
    have first := settled name List.mem_cons_self
    have others := ih fun other member => settled other (List.mem_cons_of_mem _ member)
    cases rest with
    | nil => simp [walkThrough, first.finish]
    | cons next rest =>
      rw [List.map_cons, List.map_cons, walkThrough, first.enter, ← List.map_cons, others]
      simp
      exact List.cons_ne_nil _ _

/-- The pieces of a path outside the web are those between its slashes. -/
theorem rawSegments_other (chars : List Char) :
    rawSegments .other chars = Text.splitOn '/' chars := by
  have same : ∀ c ∈ chars, (if SchemeKind.isSlash .other c then '/' else c) = c := by
    intro c _
    by_cases slash : c = '/' <;> simp [SchemeKind.isSlash, SchemeKind.isSpecial, slash]
  rw [rawSegments, List.map_congr_left same, List.map_id']

theorem pathChars_cons (name : String) (rest : List String) :
    pathChars (.segments (name :: rest)) =
      '/' :: (name.toList ++ pathChars (.segments rest)) := by
  simp [pathChars]

theorem splitOn_pathChars {name : String} {rest : List String}
    (whole : ∀ other ∈ name :: rest, '/' ∉ other.toList) :
    Text.splitOn '/' (name.toList ++ pathChars (.segments rest)) =
      (name :: rest).map String.toList := by
  induction rest generalizing name with
  | nil => simpa [pathChars] using Text.splitOn_of_not_mem (whole name List.mem_cons_self)
  | cons next rest ih =>
    have first := whole name List.mem_cons_self
    have others := ih fun other member => whole other (List.mem_cons_of_mem _ member)
    rw [pathChars_cons, Text.splitOn_append first, others]
    rfl

/-- The path that a walk along some characters takes. -/
theorem walkPath_settled {name : String} {rest : List String}
    (settled : ∀ other ∈ name :: rest, SettledName other) :
    (walkPath .other (name.toList ++ pathChars (.segments rest))).path .other =
      .segments (name :: rest) := by
  have pieces := splitOn_pathChars fun other member => (settled other member).whole
  have walked := walkThrough_settled settled ⟨[], false⟩
  rw [Walk.path, walkPath, rawSegments_other, pieces, walked]
  simp

/-- A dot in front, which keeps two slashes apart, is passed. -/
theorem walkPath_guarded {names : List String} (some : names ≠ [])
    (settled : ∀ name ∈ names, SettledName name) :
    (walkPath .other ('.' :: pathChars (.segments names))).path .other = .segments names := by
  obtain ⟨name, rest, rfl⟩ := List.exists_cons_of_ne_nil some
  have pieces := splitOn_pathChars fun other member => (settled other member).whole
  have passed : Text.splitOn '/' ('.' :: pathChars (.segments (name :: rest))) =
      ['.'] :: (name :: rest).map String.toList := by
    have whole : '/' ∉ ['.'] := by decide
    rw [pathChars_cons, ← pieces]
    exact Text.splitOn_append whole _
  have dot : Walk.enter .other ⟨[], false⟩ ['.'] = ⟨[], false⟩ := rfl
  have walked := walkThrough_settled settled ⟨[], false⟩
  rw [Walk.path, walkPath, rawSegments_other, passed, List.map_cons, walkThrough, dot,
    ← List.map_cons, walked]
  · simp
  · exact List.cons_ne_nil _ _

/-- The path behind an authority is read back as it is. -/
theorem pathAfterAuthority_settled {names : List String}
    (settled : ∀ name ∈ names, SettledName name) :
    pathAfterAuthority .other (pathChars (.segments names)) = .segments names := by
  cases names with
  | nil => rfl
  | cons name rest =>
    have walked := walkPath_settled settled
    have inside : dropSlash .other ('/' :: (name.toList ++ pathChars (.segments rest))) =
        name.toList ++ pathChars (.segments rest) := rfl
    rw [pathAfterAuthority, pathChars_cons, inside, walked]
    simp

/-! ## Paths that were read -/

/-- Whatever is read as a path is settled. -/
theorem exists_walkPath (chars : List Char) :
    ∃ names, (walkPath .other chars).path .other = .segments names ∧ names ≠ [] ∧
      ∀ name ∈ names, SettledName name := by
  have start : Walk.Settled ⟨[], false⟩ := fun _ member => absurd member List.not_mem_nil
  have settled : (walkPath .other chars).Settled := by
    rw [walkPath, rawSegments_other]
    exact start.walkThrough fun _ member => Text.not_mem_of_mem_splitOn member
  have some : (walkPath .other chars).above ≠ [] := by
    rw [walkPath, rawSegments_other]
    exact walkThrough_above_ne_nil _ (Text.splitOn_ne_nil '/' chars)
  refine ⟨(walkPath .other chars).above.reverse, by simp [Walk.path], ?_, ?_⟩
  · simpa using some
  · exact fun name member => settled name (List.mem_reverse.1 member)

theorem exists_pathAfterAuthority (chars : List Char) :
    ∃ names, pathAfterAuthority .other chars = .segments names ∧
      ∀ name ∈ names, SettledName name := by
  unfold pathAfterAuthority
  split
  · exact ⟨[], rfl, fun _ member => absurd member List.not_mem_nil⟩
  · obtain ⟨names, path, _, settled⟩ := exists_walkPath (dropSlash .other chars)
    exact ⟨names, path, settled⟩

end Reader
end Url
end DocStore
