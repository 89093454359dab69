import DocStore.Proofs.Text.FormUrlEncoded
import DocStore.Proofs.Url.ReadBack

/-!
# Pairs in the query of a URL

Pairs that are put into a query are read back from it behind those that were there
(`queryPairs_appendQueryPairs`), and a URL stays settled whatever pairs are put into it or taken
out of it.
-/

namespace DocStore

namespace Text.FormUrlEncoded

/-- Pieces around a separator are read one after the other. -/
theorem decode_append (before after : List Char) :
    decode (before ++ '&' :: after) = decode before ++ decode after := by
  rw [decode, splitOn_append_cons, List.filter_append, List.map_append]
  rfl

theorem encode_eq_nil_iff {pairs : List (String × String)} : encode pairs = [] ↔ pairs = [] := by
  refine ⟨fun nothing => ?_, fun nothing => nothing ▸ rfl⟩
  rw [← decode_encode pairs, nothing]
  rfl

/-- Whatever is written stands for itself, for a space or for a byte, or separates. -/
theorem mem_encode {pairs : List (String × String)} {c : Char} (member : c ∈ encode pairs) :
    isPlain c = true ∨ c ∈ escapeChars ∨ c ∈ ['+', '&', '='] := by
  have component : ∀ text, c ∈ encodeComponent text →
      isPlain c = true ∨ c ∈ escapeChars ∨ c ∈ ['+', '&', '='] := by
    intro text inside
    obtain ⟨original, _, written⟩ := List.mem_flatMap.1 inside
    split at written
    · rename_i plain
      exact .inl (List.mem_singleton.1 written ▸ plain)
    · split at written
      · rw [List.mem_singleton.1 written]
        exact .inr (.inr (by decide))
      · obtain ⟨byte, _, spelled⟩ := List.mem_flatMap.1 written
        exact .inr (.inl (mem_escapeChars spelled))
  rw [encode, ← join_eq_intercalate] at member
  rcases mem_join member with rfl | ⟨piece, among, inside⟩
  · exact .inr (.inr (by decide))
  · obtain ⟨pair, _, rfl⟩ := List.mem_map.1 among
    rcases List.mem_append.1 inside with name | value
    · exact component _ name
    · rcases List.mem_cons.1 value with rfl | value
      · exact .inr (.inr (by decide))
      · exact component _ value

end Text.FormUrlEncoded

namespace Url

open Reader
open Text.FormUrlEncoded (encode decode)

variable {url : Url} {pairs : List (String × String)}

/-! ## Pairs -/

theorem queryPairs_eq (url : Url) : url.queryPairs = decode (url.query.getD "").toList := by
  cases query : url.query <;> simp [queryPairs, query]
  rfl

theorem queryPairs_withQueryPairs (url : Url) (pairs : List (String × String)) :
    (url.withQueryPairs pairs).queryPairs = pairs := by
  rw [queryPairs, withQueryPairs]
  simp only [String.toList_ofList]
  exact Text.FormUrlEncoded.decode_encode pairs

theorem queryPairs_appendQueryPairs (url : Url) (pairs : List (String × String)) :
    (url.appendQueryPairs pairs).queryPairs = url.queryPairs ++ pairs := by
  rw [queryPairs_eq url, queryPairs, appendQueryPairs]
  simp only [String.toList_ofList]
  generalize (url.query.getD "").toList = before
  by_cases nothing : before = []
  · subst nothing
    exact Text.FormUrlEncoded.decode_encode pairs
  · by_cases none : pairs = []
    · subst none
      simp [encode]
    · have some : encode pairs ≠ [] := fun nothing =>
        none (Text.FormUrlEncoded.encode_eq_nil_iff.1 nothing)
      have joined := Text.FormUrlEncoded.decode_append before (encode pairs)
      simpa [List.isEmpty_iff, nothing, some, Text.FormUrlEncoded.decode_encode] using joined

theorem queryPairs_withPairsOrNone (url : Url) (pairs : List (String × String)) :
    (url.withPairsOrNone pairs).queryPairs = pairs := by
  cases pairs with
  | nil => rfl
  | cons pair rest => exact queryPairs_withQueryPairs _ _

/-- Nothing is appended once there is a query. -/
theorem appendQueryPairs_nil (url : Url) (pairs : List (String × String)) :
    (url.appendQueryPairs pairs).appendQueryPairs [] = url.appendQueryPairs pairs := by
  simp [appendQueryPairs, encode]

/-! ## Settled queries -/

theorem free_encode (pairs : List (String × String)) :
    FreeOf inQuerySet (String.ofList (encode pairs)) := by
  have plain : ∀ c : Char, c.toNat < 128 → Text.FormUrlEncoded.isPlain c = true →
      inQuerySet c = false := Text.forall_ascii (by decide)
  have marks : ∀ c ∈ Text.escapeChars ++ ['+', '&', '='], inQuerySet c = false :=
    Text.forall_mem_of_all (by decide)
  intro c member
  rw [String.toList_ofList] at member
  rcases Text.FormUrlEncoded.mem_encode member with letter | marked
  · have small : c.toNat < 128 := by
      simp [Text.FormUrlEncoded.isPlain, Char.le_def, UInt32.le_iff_toNat_le] at letter
      rcases letter with (((((digit | upper) | lower) | rfl) | rfl) | rfl) | rfl
      · omega
      · omega
      · omega
      all_goals decide
    exact plain c small letter
  · exact marks c (List.mem_append.2 marked)

/-- A settled URL stays so with another query. -/
theorem Settled.withQuery (settled : url.Settled) {query : String}
    (free : FreeOf inQuerySet query) : Settled { url with query := some query } := by
  refine ⟨settled.scheme, settled.other, settled.authority, ?_, ?_, settled.fragment⟩
  · cases settled.path with
    | segments names path segments nonempty => exact .segments names path segments nonempty
    | plain text path plain nobody _ =>
      refine .plain text path plain nobody fun none => ?_
      cases none
  · rintro _ same
    cases same
    exact free

theorem Settled.withQueryPairs (settled : url.Settled) (pairs : List (String × String)) :
    (url.withQueryPairs pairs).Settled := settled.withQuery (free_encode pairs)

theorem Settled.appendQueryPairs (settled : url.Settled) (pairs : List (String × String)) :
    (url.appendQueryPairs pairs).Settled := by
  refine settled.withQuery fun c member => ?_
  have before : ∀ c ∈ (url.query.getD "").toList, inQuerySet c = false := by
    cases query : url.query with
    | none => simp
    | some text => exact settled.query text query
  rw [String.toList_ofList, List.mem_append, List.mem_append] at member
  rcases member with (inside | inside) | inside
  · exact before c inside
  · split at inside
    · cases inside
    · rw [List.mem_singleton.1 inside]
      decide
  · exact free_encode pairs c (by rwa [String.toList_ofList])

/-- A text without the spaces at its end is a beginning of it. -/
theorem exists_withoutTrailingSpaces (text : List Char) :
    ∃ spaces, text = (text.reverse.dropWhile (· = ' ')).reverse ++ spaces := by
  refine ⟨(text.reverse.takeWhile (· = ' ')).reverse, ?_⟩
  rw [← List.reverse_append, List.takeWhile_append_dropWhile, List.reverse_reverse]

theorem settledText_withoutTrailingSpaces {text : String} (settled : SettledText text) :
    SettledText (String.ofList (text.toList.reverse.dropWhile (· = ' ')).reverse) := by
  obtain ⟨spaces, whole⟩ := exists_withoutTrailingSpaces text.toList
  generalize (text.toList.reverse.dropWhile (· = ' ')).reverse = kept at whole ⊢
  have inside : ∀ c ∈ (String.ofList kept).toList, c ∈ text.toList := by
    intro c member
    rw [String.toList_ofList] at member
    rw [whole]
    exact List.mem_append_left spaces member
  refine ⟨fun c member => settled.printed c (inside c member),
    fun c member => settled.whole c (inside c member), fun slash => settled.start ?_⟩
  rw [String.toList_ofList] at slash
  rw [whole, List.head?_append, slash]
  rfl

theorem getLast?_withoutTrailingSpaces (text : List Char) :
    (text.reverse.dropWhile (· = ' ')).reverse.getLast? ≠ some ' ' := by
  intro last
  have stops := List.head?_dropWhile_not (· = ' ') text.reverse
  rw [← List.getLast?_reverse, last] at stops
  cases stops

/-- A settled URL stays so without its query, as it loses the spaces that came before. -/
theorem Settled.withoutQuery (settled : url.Settled) : url.withoutQuery.Settled := by
  refine ⟨settled.scheme, settled.other, settled.authority, ?_, ?_, settled.fragment⟩
  · cases settled.path with
    | segments names path segments nonempty =>
      refine .segments names ?_ segments nonempty
      simp [Url.withoutQuery, path, withoutTrailingSpaces]
    | plain text path plain nobody _ =>
      cases fragment : url.fragment with
      | some behind =>
        have same : url.withoutQuery.path = .plain text := by
          simp [Url.withoutQuery, path, fragment]
        refine .plain text same plain nobody fun _ none => ?_
        cases fragment.symm.trans none
      | none =>
        refine .plain _ (by simp [Url.withoutQuery, path, fragment, withoutTrailingSpaces])
          (settledText_withoutTrailingSpaces plain) nobody fun _ _ => ?_
        rw [String.toList_ofList]
        exact getLast?_withoutTrailingSpaces text.toList
  · rintro _ same
    cases same

theorem Settled.withPairsOrNone (settled : url.Settled) (pairs : List (String × String)) :
    (url.withPairsOrNone pairs).Settled := by
  unfold Url.withPairsOrNone
  split
  · exact settled.withoutQuery
  · exact settled.withoutQuery.withQueryPairs pairs

end Url
end DocStore
