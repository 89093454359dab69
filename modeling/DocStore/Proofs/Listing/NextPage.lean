import DocStore.ListingRequest
import DocStore.Proofs.Listing.Keyset
import DocStore.Proofs.Text.Numeral
import DocStore.Proofs.Url.QueryPairs

/-!
# The URL of the next page

The URL of the next page asks for the same listing as the URL that it was made from, behind
the last document of the page (`ListingRequest.nextPage_reads_back`).  The limit and the
cursor are the place of a page; what else is asked for depends on the other parameters only
(`ListingRequest.foldlM_kept`), and a limit that was read once is read again as it is
(`ListingRequest.Settled`).
-/

namespace DocStore
namespace ListingRequest

open Url (queryPairs_withQueryPairs)

variable {maxLimit limit : Nat} {request next : ListingRequest} {cursor : Option Cursor}
  {pair : String × String} {pairs : List (String × String)}

/-! ## Limits -/

/-- The number that a parameter asks for as the limit. -/
def asked (raw : String) : Nat :=
  match Text.Numeral.readInt64 (Text.trim raw.toList) with
  | .ok value => value.toNat
  | .error _ => 0

/-- A number brought within one and a positive maximum. -/
def within (maxLimit number : Nat) : Nat :=
  if maxLimit > 0 ∧ (number < 1 ∨ number > maxLimit) then maxLimit else number

theorem readLimit_eq (raw : String) (maxLimit : Nat) :
    readLimit raw maxLimit = within maxLimit (asked raw) := rfl

theorem asked_lt (raw : String) : asked raw < 2 ^ 63 := by
  unfold asked
  split
  · rename_i value read
    have bound : value ≤ ((1 <<< 63 - 1 : Nat) : Int) :=
      (Text.Numeral.range_of_readInt read).2
    have top : (1 <<< 63 - 1 : Nat) < 2 ^ 63 := by decide
    omega
  · decide

theorem asked_showNat (number : Nat) :
    asked (String.ofList (Text.Numeral.showNat number)) =
      if number < 2 ^ 63 then number else 0 := by
  have solid : ∀ c ∈ Text.Numeral.showNat number, Text.isBlank c = false := fun c member =>
    Text.not_isBlank_of_isDigit (Json.Reader.isDigit_of_mem_showNat member)
  rw [asked, String.toList_ofList, Text.trim_eq_self solid, Text.Numeral.readInt64_showNat]
  by_cases small : number < 2 ^ 63
  · simp only [if_pos small, Int.toNat_natCast]
  · simp only [if_neg small]

/-- A limit that is read as it is once it is written. -/
def Settled (maxLimit limit : Nat) : Prop :=
  readLimit (String.ofList (Text.Numeral.showNat limit)) maxLimit = limit

theorem settled_maxLimit (maxLimit : Nat) : Settled maxLimit maxLimit := by
  rw [Settled, readLimit_eq, asked_showNat]
  unfold within
  split <;> split <;> omega

/-- Every limit that was read from a parameter is settled. -/
theorem settled_readLimit (raw : String) (maxLimit : Nat) :
    Settled maxLimit (readLimit raw maxLimit) := by
  rw [readLimit_eq]
  have small := asked_lt raw
  by_cases outside : maxLimit > 0 ∧ (asked raw < 1 ∨ asked raw > maxLimit)
  · rw [within, if_pos outside]
    exact settled_maxLimit maxLimit
  · rw [within, if_neg outside, Settled, readLimit_eq, asked_showNat, if_pos small, within,
      if_neg outside]

/-! ## The place of a page -/

/-- The same listing at another place. -/
def placed (request : ListingRequest) (limit : Nat) (cursor : Option Cursor) : ListingRequest :=
  { request with limit, cursor }

theorem addFilter_placed (request : ListingRequest) (filter : Filter) :
    (request.placed limit cursor).addFilter filter =
      (request.addFilter filter).placed limit cursor := by
  unfold addFilter
  split <;> rfl

theorem addParameter_limit (request : ListingRequest) (value : String) :
    addParameter maxLimit request (limitParameter, value) =
      .ok { request with limit := readLimit value maxLimit } := rfl

theorem addParameter_token (request : ListingRequest) (value : String) :
    addParameter maxLimit request (Cursor.parameter, value) =
      (Cursor.decode value).map fun found =>
        { request with cursor := found.or request.cursor } := by
  have other : Cursor.parameter ≠ limitParameter ∧ Cursor.parameter ≠ sortParameter := by decide
  simp only [addParameter, if_neg other.1, if_neg other.2, if_true]
  congr 1
  funext found
  cases found <;> rfl

/-- The parameters of a place set the limit, which is one that is read, or the cursor. -/
theorem page_cases (page : isPageParameter pair.1 = true)
    (added : addParameter maxLimit request pair = .ok next) :
    (∃ value, next = { request with limit := readLimit value maxLimit }) ∨
      ∃ cursor, next = { request with cursor } := by
  obtain ⟨name, value⟩ := pair
  simp only [isPageParameter, Bool.or_eq_true, beq_iff_eq] at page
  rcases page with rfl | rfl
  · rw [addParameter_limit] at added
    cases added
    exact .inl ⟨value, rfl⟩
  · rw [addParameter_token] at added
    cases decoded : Cursor.decode value with
    | error error => rw [decoded] at added; cases added
    | ok found =>
      rw [decoded] at added
      cases added
      exact .inr ⟨_, rfl⟩

/-- The limit and the token change the place only. -/
theorem placed_of_page (page : isPageParameter pair.1 = true)
    (added : addParameter maxLimit request pair = .ok next) :
    next.placed limit cursor = request.placed limit cursor := by
  obtain ⟨_, rfl⟩ | ⟨_, rfl⟩ := page_cases page added <;> rfl

/-- Every other parameter changes a request, and does so without regard to its place. -/
theorem exists_change (maxLimit : Nat) (other : isPageParameter pair.1 = false) :
    ∃ change : ListingRequest → ListingRequest,
      (∀ request, addParameter maxLimit request pair = .ok (change request)) ∧
      ∀ request limit cursor,
        change (request.placed limit cursor) = (change request).placed limit cursor := by
  obtain ⟨name, value⟩ := pair
  simp only [isPageParameter, Bool.or_eq_false_iff, beq_eq_false_iff_ne] at other
  simp only [addParameter, if_neg other.1, if_neg other.2]
  have filters : ∀ filter : Filter, ∃ change : ListingRequest → ListingRequest,
      (∀ request : ListingRequest,
        (.ok (request.addFilter filter) : Except RequestError ListingRequest) =
          .ok (change request)) ∧
      ∀ request limit cursor,
        change (request.placed limit cursor) = (change request).placed limit cursor :=
    fun filter => ⟨(·.addFilter filter), fun _ => rfl,
      fun request _ _ => addFilter_placed request filter⟩
  split
  · exact ⟨fun request => { request with sort := SortKey.ofParameter value }, fun _ => rfl,
      fun _ _ _ => rfl⟩
  · split
    · exact ⟨id, fun _ => rfl, fun _ _ _ => rfl⟩
    · split
      · exact filters _
      · split <;> exact filters _

/-- Without the parameters of its place, a request asks for the same listing. -/
theorem foldlM_kept (read : pairs.foldlM (addParameter maxLimit) request = .ok next) (limit : Nat)
    (cursor : Option Cursor) :
    (pairs.filter fun pair => !isPageParameter pair.1).foldlM (addParameter maxLimit)
      (request.placed limit cursor) = .ok (next.placed limit cursor) := by
  induction pairs generalizing request with
  | nil =>
    cases read
    rfl
  | cons pair rest ih =>
    rw [List.foldlM_cons] at read
    cases page : isPageParameter pair.1 with
    | true =>
      cases added : addParameter maxLimit request pair with
      | error error => rw [added] at read; cases read
      | ok between =>
        rw [added] at read
        rw [List.filter_cons_of_neg (by simp [page]), ← placed_of_page page added]
        exact ih read
    | false =>
      obtain ⟨change, added, commutes⟩ := exists_change maxLimit page
      rw [added] at read
      rw [List.filter_cons_of_pos (by simp [page]), List.foldlM_cons, added, commutes]
      exact ih read

theorem settled_addParameter (settled : Settled maxLimit request.limit)
    (added : addParameter maxLimit request pair = .ok next) : Settled maxLimit next.limit := by
  cases page : isPageParameter pair.1 with
  | true =>
    obtain ⟨value, rfl⟩ | ⟨_, rfl⟩ := page_cases page added
    · exact settled_readLimit value maxLimit
    · exact settled
  | false =>
    obtain ⟨change, changed, commutes⟩ := exists_change maxLimit page
    rw [changed] at added
    cases added
    have same := congrArg ListingRequest.limit (commutes request request.limit request.cursor)
    exact same ▸ settled

theorem settled_foldlM (settled : Settled maxLimit request.limit)
    (read : pairs.foldlM (addParameter maxLimit) request = .ok next) :
    Settled maxLimit next.limit := by
  induction pairs generalizing request with
  | nil =>
    cases read
    exact settled
  | cons pair rest ih =>
    rw [List.foldlM_cons] at read
    cases added : addParameter maxLimit request pair with
    | error error => rw [added] at read; cases read
    | ok between =>
      rw [added] at read
      exact ih (settled_addParameter settled added) read

/-! ## The next page -/

theorem foldlM_append_ok {ε α β : Type} {step : β → α → Except ε β} {first : List α}
    {start middle : β} (done : first.foldlM step start = .ok middle) (second : List α) :
    (first ++ second).foldlM step start = second.foldlM step middle := by
  rw [List.foldlM_append, done]
  rfl

/-- A settled limit and a token give a request their place. -/
theorem foldlM_place (request : ListingRequest) (settled : Settled maxLimit limit)
    {text : String} {found : Cursor} (token : Cursor.decode text = .ok (some found)) :
    [(limitParameter, String.ofList (Text.Numeral.showNat limit)),
        (Cursor.parameter, text)].foldlM (addParameter maxLimit) request =
      .ok (request.placed limit (some found)) := by
  have first : addParameter maxLimit request
      (limitParameter, String.ofList (Text.Numeral.showNat limit)) =
        .ok { request with limit } := by
    rw [addParameter_limit, settled]
  have second : addParameter maxLimit { request with limit } (Cursor.parameter, text) =
      .ok (request.placed limit (some found)) := by
    rw [addParameter_token, token]
    rfl
  rw [List.foldlM_cons, first]
  exact congrArg (· >>= pure) second

/-- The URL of the next page asks for the same filters in the same order up to the same limit,
behind the last document of the page. -/
theorem nextPage_reads_back {url : Url} (read : ofUrl url maxLimit = .ok request) (nonce : String)
    {last : Document} (portable : ∀ key ∈ request.sort, ∀ value ∈ last.get? key.field,
      Cursor.Portable value) :
    ofUrl (request.nextPage url nonce last) maxLimit =
      .ok { request with cursor := some (Cursor.afterDocument nonce last request.sort) } := by
  have taken : url.queryPairs.foldlM (addParameter maxLimit) (plain maxLimit) = .ok request := read
  have kept : (url.queryPairs.filter fun pair => !isPageParameter pair.1).foldlM
      (addParameter maxLimit) (plain maxLimit) = .ok (request.placed maxLimit none) :=
    foldlM_kept taken maxLimit none
  have start : Settled maxLimit (plain maxLimit).limit := settled_maxLimit maxLimit
  have settled : Settled maxLimit request.limit := settled_foldlM start taken
  have placed := foldlM_place (request.placed maxLimit none) settled
    (Cursor.decode_encode_afterDocument nonce portable)
  rw [ofUrl, nextPage, queryPairs_withQueryPairs, ofPairs, foldlM_append_ok kept]
  exact placed

/-- A URL with limits that are no number, too large and repeated, an empty token, two orders,
bytes that are no text, a filter without a field and names and values that need escapes. -/
theorem nextPage_reads_back_malformed :
    let query :=
      "_limit=x&na%6De=%FF%26+&_sort=id&_limit=70&&=&_token=&gt_=3&_sort=-n%2Cid&n=%F0%9F%98%80"
    let url : Url := ⟨"http", none, .segments ["v1", "a"], some query, some "end"⟩
    let last : Document := ⟨"b & \"c\"", ⟨5⟩, false, [("n", .arr [.int (2 ^ 64 - 1), .null])]⟩
    ∃ request, ofUrl url 5 = .ok request ∧ request.limit = 5 ∧
      request.sort = [⟨"n", true⟩, ⟨"id", false⟩] ∧
      (∀ key ∈ request.sort, ∀ value ∈ last.get? key.field, Cursor.Portable value) ∧
      ofUrl (request.nextPage url "no+n\u0000ce" last) 5 =
        .ok { request with
          cursor := some (Cursor.afterDocument "no+n\u0000ce" last request.sort) } := by
  intro query url last
  have seen : (ofUrl url 5).toOption.map (fun request => (request.limit, request.sort)) =
      some (5, [⟨"n", true⟩, ⟨"id", false⟩]) := by
    decide +kernel
  cases read : ofUrl url 5 with
  | error error =>
    rw [read] at seen
    cases seen
  | ok request =>
    rw [read] at seen
    obtain ⟨limit, sort⟩ : request.limit = 5 ∧ request.sort = [⟨"n", true⟩, ⟨"id", false⟩] :=
      Prod.mk.inj (Option.some.inj seen)
    have portable : ∀ key ∈ request.sort, ∀ value ∈ last.get? key.field,
        Cursor.Portable value := by
      rw [sort]
      decide +kernel
    exact ⟨request, rfl, limit, sort, portable, nextPage_reads_back read _ portable⟩

end ListingRequest
end DocStore
