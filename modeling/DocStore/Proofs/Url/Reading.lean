import DocStore.Proofs.Url.ReadBack

/-!
# URLs that were read

Whatever is read as a URL of a scheme outside the web is settled (`settled_of_ofText`): its parts
are trimmed and encoded, so that no part has a mark that would end it.
-/

namespace DocStore
namespace Url

open Reader

variable {url : Url} {scheme : String} {chars : List Char}

/-! ## Blanks around a text -/

theorem isOuterBlank_of_trimmed {c : Char} (last : (trimmed chars).getLast? = some c) :
    isOuterBlank c = false := by
  rw [trimmed, List.getLast?_reverse] at last
  have stops := List.head?_dropWhile_not isOuterBlank (chars.dropWhile isOuterBlank).reverse
  rw [last] at stops
  exact stops

/-- No text that was trimmed and joined ends in a blank. -/
theorem last_of_joined {c : Char}
    (last : ((trimmed chars).filter (!isBreak ·)).getLast? = some c) : isOuterBlank c = false := by
  rcases List.eq_nil_or_concat (trimmed chars) with nothing | ⟨front, d, ends⟩
  · rw [nothing] at last
    cases last
  · have outermost : (trimmed chars).getLast? = some d := by simp [ends]
    have visible := isOuterBlank_of_trimmed outermost
    have joined : isBreak d = false := by
      rw [← Bool.not_eq_true]
      intro breaks
      simp only [isBreak, Bool.or_eq_true, decide_eq_true_eq] at breaks
      rcases breaks with (rfl | rfl) | rfl <;> cases visible
    rw [ends] at last
    simp [joined] at last
    exact last ▸ visible

/-! ## Schemes -/

theorem exists_of_hierarchicalUrl {kind : SchemeKind}
    (read : hierarchicalUrl kind scheme chars = .ok url) :
    ∃ found rest, Reader.authority kind chars = .ok (found, rest) ∧
      url = Reader.finish kind scheme (some found) (pathAfterAuthority kind (splitPath rest).1)
        (splitPath rest).2 := by
  unfold hierarchicalUrl at read
  cases who : Reader.authority kind chars with
  | error failure =>
    rw [who] at read
    cases read
  | ok found =>
    rw [who] at read
    cases read
    exact ⟨found.1, found.2, rfl, rfl⟩

theorem scheme_of_fileUrl (read : fileUrl chars = .ok url) : url.scheme = "file" := by
  unfold fileUrl at read
  simp only [bind, Except.bind] at read
  split at read
  · cases read
    rfl
  · split at read
    · cases read
      rfl
    · split at read
      · cases read
      · cases read
        rfl

/-! ## What ends a URL -/

theorem free_of_query? {rest : List Char} {query : String}
    (read : query? .other rest = some query) : FreeOf inQuerySet query := by
  unfold query? at read
  split at read
  · cases read
    exact freeOf_encoded (Text.forall_mem_of_all (by decide)) _
  · cases read

theorem free_of_fragment? {rest : List Char} {fragment : String}
    (read : fragment? rest = some fragment) : FreeOf inFragmentSet fragment := by
  unfold fragment? at read
  split at read
  · cases read
    exact freeOf_encoded (Text.forall_mem_of_all (by decide)) _
  · cases read

/-- What was put together is settled if its authority and its path are. -/
theorem settled_finish (named : SettledScheme scheme) (other : SchemeKind.of scheme = .other)
    {authority : Option Authority} {path : UrlPath} {rest : List Char}
    (who : ∀ found, authority = some found → SettledAuthority found)
    (way : SettledPath (finish .other scheme authority path rest)) :
    Settled (finish .other scheme authority path rest) :=
  ⟨named, other, who, way, fun _ read => free_of_query? read, fun _ read => free_of_fragment? read⟩

/-- A path that nothing follows is all that there is. -/
theorem splitPath_of_bare (query : query? .other (splitPath chars).2 = none)
    (fragment : fragment? ((splitPath chars).2.dropWhile (· ≠ '#')) = none) :
    (splitPath chars).1 = chars := by
  rw [splitPath, List.span_eq_takeWhile_dropWhile] at query fragment ⊢
  have whole : (chars.takeWhile fun c => !endsPath c) ++ (chars.dropWhile fun c => !endsPath c) =
      chars := List.takeWhile_append_dropWhile
  have stops := List.head?_dropWhile_not (fun c => !endsPath c) chars
  simp only [] at query fragment ⊢
  cases behind : chars.dropWhile fun c => !endsPath c with
  | nil => rwa [behind, List.append_nil] at whole
  | cons c rest =>
    rw [behind] at query fragment stops
    have mark : endsPath c = true := by simpa using stops
    simp only [endsPath, Bool.or_eq_true, decide_eq_true_eq] at mark
    rcases mark with rfl | rfl
    · cases query
    · cases fragment

/-- A path without structure is encoded, and keeps its ends. -/
theorem settledPath_plain {authority : Option Authority} (nobody : authority = none)
    (start : chars.head? ≠ some '/')
    (visible : ∀ c, chars.getLast? = some c → isOuterBlank c = false) :
    SettledPath (finish .other scheme authority
      (.plain (encoded Host.isControlOrWide (splitPath chars).1)) (splitPath chars).2) := by
  have taken : (splitPath chars).1 = chars.takeWhile fun c => !endsPath c := by
    rw [splitPath, List.span_eq_takeWhile_dropWhile]
  have spares : ∀ c ∈ Text.escapeChars, Host.isControlOrWide c = false :=
    Text.forall_mem_of_all (by decide)
  refine .plain _ rfl ⟨freeOf_encoded spares _, ?_, ?_⟩ nobody fun query fragment last => ?_
  · rw [FreeOf, encoded, String.toList_ofList, taken]
    refine Text.forall_mem_percentEncode (Text.forall_mem_of_all (by decide)) fun c member _ => ?_
    simpa using List.mem_takeWhile_imp member
  · rw [encoded, String.toList_ofList, taken]
    intro slash
    have first := Text.head?_of_percentEncode (by decide) slash
    rw [List.head?_takeWhile, Option.filter_eq_some_iff] at first
    exact start first.1
  · rw [splitPath_of_bare query fragment, encoded, String.toList_ofList] at last
    exact absurd (visible ' ' (Text.getLast?_of_percentEncode (by decide) last)) (by decide)

theorem settled_of_otherUrl (named : SettledScheme scheme) (other : SchemeKind.of scheme = .other)
    (visible : ∀ c, chars.getLast? = some c → isOuterBlank c = false)
    (read : otherUrl scheme chars = .ok url) : url.Settled := by
  unfold otherUrl at read
  split at read
  · obtain ⟨found, rest, who, rfl⟩ := exists_of_hierarchicalUrl read
    obtain ⟨names, path, settled⟩ := exists_pathAfterAuthority (splitPath rest).1
    refine settled_finish named other ?_ (.segments names path settled ?_)
    · rintro _ same
      cases same
      exact settled_of_authority who
    · intro nobody
      cases nobody
  · rename_i rest _
    cases read
    obtain ⟨names, path, nonempty, settled⟩ := exists_walkPath (splitPath rest).1
    refine settled_finish named other ?_ (.segments names path settled fun _ => nonempty)
    intro _ same
    cases same
  · rename_i noSlash
    cases read
    refine settled_finish named other ?_ (settledPath_plain rfl ?_ visible)
    · intro _ same
      cases same
    · intro slash
      obtain ⟨rest, starts⟩ := List.head?_eq_some_iff.1 slash
      exact noSlash rest starts

/-- Whatever is read as a URL of a scheme outside the web is settled. -/
theorem settled_of_ofText {text : String} (read : ofText text = .ok url)
    (other : SchemeKind.of url.scheme = .other) : url.Settled := by
  unfold ofText at read
  simp only [] at read
  split at read
  · cases read
  · rename_i scheme rest found
    obtain ⟨named, start, joined⟩ := exists_of_scheme? found
    split at read
    · rw [scheme_of_fileUrl read] at other
      cases other
    · rename_i kind
      refine settled_of_otherUrl named kind (fun c last => ?_) read
      have ended : ((trimmed text.toList).filter (!isBreak ·)).getLast? = some c := by
        rw [joined, List.getLast?_append, List.getLast?_cons, last]
        rfl
      exact last_of_joined ended
    · rename_i notOther
      obtain ⟨_, _, _, rfl⟩ := exists_of_hierarchicalUrl read
      exact absurd other notOther

end Url
end DocStore
