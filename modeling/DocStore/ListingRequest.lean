import DocStore.Cursor
import DocStore.Url.Reader

/-!
# Requests for listings

The parameters of a listing: filters, sort keys, a limit and the cursor of the page
before.  Parameters of other names than the reserved ones are filters.
-/

namespace DocStore

/-- What a listing is asked for. -/
structure ListingRequest where
  /-- The filters that documents must pass. -/
  condition : Condition
  /-- The order of the documents. -/
  sort : List SortKey
  /-- The greatest number of documents. -/
  limit : Nat
  /-- The end of the page before. -/
  cursor : Option Cursor

namespace ListingRequest

/-- A request without parameters. -/
def plain (maxLimit : Nat) : ListingRequest := ⟨[], [], maxLimit, none⟩

/-- Reads a limit: what is negative or no integer counts as zero, and under a positive
maximum everything outside of one to the maximum counts as the maximum. -/
def readLimit (raw : String) (maxLimit : Nat) : Nat :=
  let limit := match Text.Numeral.readInt64 (Text.trim raw.toList) with
    | .ok value => value.toNat
    | .error _ => 0
  if maxLimit > 0 ∧ (limit < 1 ∨ limit > maxLimit) then maxLimit else limit

/-- The name of the limit's parameter. -/
def limitParameter : String := "_limit"

/-- The name of the sort keys' parameter. -/
def sortParameter : String := "_sort"

/-- Adds a filter if it is valid. -/
def addFilter (request : ListingRequest) (filter : Filter) : ListingRequest :=
  if filter.isValid then { request with condition := request.condition ++ [filter] } else request

/-- Takes one parameter into a request. -/
def addParameter (maxLimit : Nat) (request : ListingRequest) (pair : String × String) :
    Except RequestError ListingRequest :=
  let (name, value) := pair
  if name = limitParameter then .ok { request with limit := readLimit value maxLimit }
  else if name = sortParameter then .ok { request with sort := SortKey.ofParameter value }
  else if name = Cursor.parameter then
    (Cursor.decode value).map fun cursor =>
      match cursor with
      | some cursor => { request with cursor := some cursor }
      | none => request
  else if name = "_fields" then .ok request
  else if name = "_before" then .ok (request.addFilter (.ofParameter "lt_last_modified" value))
  else if name = "_since" then .ok (request.addFilter (.ofParameter "gt_last_modified" value))
  else .ok (request.addFilter (.ofParameter name value))

/-- Reads decoded parameters in order. -/
def ofPairs (pairs : List (String × String)) (maxLimit : Nat) :
    Except RequestError ListingRequest :=
  pairs.foldlM (addParameter maxLimit) (plain maxLimit)

/-- Reads the query of a URL. -/
def ofQuery (query : String) (maxLimit : Nat) : Except RequestError ListingRequest :=
  ofPairs (Text.FormUrlEncoded.decode query.toList) maxLimit

/-- Reads the parameters of a URL. -/
def ofUrl (url : Url) (maxLimit : Nat) : Except RequestError ListingRequest :=
  ofPairs url.queryPairs maxLimit

/-- Reads an absolute URL. -/
def readUrl (text : String) : Except RequestError Url :=
  match Url.ofText text with
  | .ok url => .ok url
  | .error failure => .error (.invalidUrl failure)

/-- Whether a parameter belongs to the place of a page in its listing. -/
def isPageParameter (name : String) : Bool := name == limitParameter || name == Cursor.parameter

/-- The URL of the next page: the other parameters of this page, the limit and the
cursor after the last document. -/
def nextPage (request : ListingRequest) (current : Url) (nonce : String) (last : Document) : Url :=
  let kept := current.queryPairs.filter fun pair => !isPageParameter pair.1
  let cursor := Cursor.afterDocument nonce last request.sort
  current.withQueryPairs <| kept ++
    [(limitParameter, String.ofList (Text.Numeral.showNat request.limit)),
      (Cursor.parameter, cursor.encode)]

end ListingRequest
end DocStore
