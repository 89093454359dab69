import DocStore.Proofs.Listing.Keyset
import DocStore.Proofs.Memory.Epochs

/-!
# Paging through a collection

A client reads a listing page by page: the first page without conditions, and after a full
page the next one with the conditions of the cursor that the token carries.  Whatever the
store went through, the pages put together are the listing without pages, and they come to
an end (`SerialStore.pages_flatten`).
-/

namespace DocStore

/-- A field value that paging may order by: it has no floats, double precision tells its
integers apart, its objects have their members in order, and it is no deeper than tokens
can carry. -/
def Json.Pageable (value : Json) : Prop :=
  Json.Integral Json.Fits53 value ∧ Json.Ordered value ∧ Json.depth value ≤ Cursor.valueDepth

instance : DecidablePred Json.Pageable := fun value =>
  inferInstanceAs (Decidable (Json.Integral Json.Fits53 value ∧ Json.Ordered value ∧
    Json.depth value ≤ Cursor.valueDepth))

theorem Json.Pageable.portable {value : Json} (pageable : value.Pageable) :
    Cursor.Portable value :=
  ⟨pageable.1.mono fun _ => Json.Fits53.fits64, pageable.2⟩

theorem Json.discrete_of_pageable {field : Option Json}
    (pageable : ∀ value ∈ field, value.Pageable) : Json.Discrete field := by
  cases field with
  | none => exact ⟨trivial, trivial⟩
  | some value => exact ⟨(pageable value rfl).1, (pageable value rfl).2.1⟩

namespace Document

theorem get?_id {document : Document} {field : String} (isId : field = Document.idField) :
    document.get? field = some (.str document.id) := by
  rw [Document.get?, if_pos isId]

theorem get?_modified {document : Document} {field : String}
    (isModified : field = Document.modifiedField) :
    document.get? field = some (.int document.modified.millis) := by
  have notId : field ≠ Document.idField := by
    rw [isModified]
    decide
  rw [Document.get?, if_neg notId, if_pos isModified]

end Document

/-- The same listing without pages. -/
def ListingOptions.whole (options : ListingOptions) : ListingOptions :=
  { options with alternatives := [], limit := 0 }

namespace DocumentSession

/-- The pages of a listing, as many as the fuel allows: after a full page the next one,
with the token of the cursor after its last document.  None if the fuel runs out, a page
cannot be listed or a token cannot be read. -/
def pages (surroundings : Surroundings) (path : Path) (options : ListingOptions)
    (nonces : Nat → String) :
    Nat → DocumentSession → List Condition → Option (List (List Document))
  | 0, _, _ => none
  | fuel + 1, session, alternatives =>
    match session.run surroundings (.list path { options with alternatives }) with
    | .ok (.documents page, session) =>
      if page.length = options.limit then
        match page.getLast? with
        | some last =>
          match Cursor.decode (Cursor.afterDocument (nonces fuel) last options.sort).encode with
          | .ok (some cursor) =>
            (pages surroundings path options nonces fuel session
              (cursor.conditions options.sort)).map (page :: ·)
          | _ => none
        | none => none
      else some [page]
    | _ => none

/-! ## The documents of a collection -/

theorem mem_documentsOf {session : DocumentSession} {name : String} {inclusion : Inclusion}
    {document : Document} (member : document ∈ session.documentsOf name inclusion) :
    ∃ deleted id, (session.holdings.shelf deleted).find? name id = some document := by
  rcases List.mem_append.1 member with live | dead
  · obtain ⟨id, found⟩ := (Dict.mem_values_iff _ _).1 live
    exact ⟨false, id, by rw [Shelf.find?_eq]; exact found⟩
  · cases inclusion with
    | live => cases dead
    | all =>
      obtain ⟨id, found⟩ := (Dict.mem_values_iff _ _).1 dead
      exact ⟨true, id, by rw [Shelf.find?_eq]; exact found⟩

/-- What relates any two documents of a collection relates them as they are listed. -/
theorem pairwise_documentsOf {Related : Document → Document → Prop}
    {session : DocumentSession} {name : String}
    (each : ∀ {deleted other id key document second}, ¬(deleted = other ∧ id = key) →
      (session.holdings.shelf deleted).find? name id = some document →
      (session.holdings.shelf other).find? name key = some second → Related document second)
    (inclusion : Inclusion) : (session.documentsOf name inclusion).Pairwise Related := by
  have shelved : ∀ deleted,
      ((session.holdings.shelf deleted).collection name).documents.values.Pairwise Related := by
    intro deleted
    refine Dict.pairwise_values fun different found other => ?_
    rw [← Shelf.find?_eq] at found other
    exact each (fun same => different same.2) found other
  cases inclusion with
  | live => simpa [documentsOf, Holdings.shelf] using shelved false
  | all =>
    refine List.pairwise_append.2 ⟨shelved false, shelved true, ?_⟩
    intro document live second dead
    obtain ⟨id, found⟩ := (Dict.mem_values_iff _ _).1 live
    obtain ⟨key, other⟩ := (Dict.mem_values_iff _ _).1 dead
    rw [← Shelf.find?_eq] at found other
    have apart : ¬(false = true ∧ id = key) := fun same => Bool.false_ne_true same.1
    exact each apart (show (session.holdings.shelf false).find? name id = _ from found) other

/-- Documents of a collection have different identifiers. -/
theorem pairwise_id {session : DocumentSession} (placed : session.holdings.Placed)
    (name : String) (inclusion : Inclusion) :
    (session.documentsOf name inclusion).Pairwise fun left right => left.id ≠ right.id := by
  refine pairwise_documentsOf (fun {deleted other id key left right} different found second => ?_)
    inclusion
  obtain ⟨leftId, _⟩ := placed.labelled found
  obtain ⟨rightId, _⟩ := placed.labelled second
  rw [leftId, rightId]
  rintro rfl
  have none := placed.disjoint name id
  cases deleted <;> cases other
  · exact different ⟨rfl, rfl⟩
  · rw [show session.holdings.live.find? name id = some left from found,
      show session.holdings.dead.find? name id = some right from second] at none
    simp at none
  · rw [show session.holdings.dead.find? name id = some left from found,
      show session.holdings.live.find? name id = some right from second] at none
    simp at none
  · exact different ⟨rfl, rfl⟩

/-- Documents of a collection have different epochs. -/
theorem pairwise_modified {session : DocumentSession} (dated : session.holdings.Dated)
    (name : String) (inclusion : Inclusion) :
    (session.documentsOf name inclusion).Pairwise fun left right =>
      left.modified ≠ right.modified :=
  pairwise_documentsOf (fun different found second same =>
    different (dated.distinct found second same)) inclusion

/-! ## Listings -/

/-- A listing with a limit is the beginning of the one without. -/
theorem list_eq_take (session : DocumentSession) (name : String) {options : ListingOptions}
    (limited : 0 < options.limit) :
    session.list name options =
      (session.list name { options with limit := 0 }).take options.limit := by
  simp only [list, if_pos (show options.limit > 0 from limited), Nat.lt_irrefl, gt_iff_lt,
    if_false]

theorem list_whole (session : DocumentSession) (name : String) (options : ListingOptions) :
    session.list name options.whole =
      SortKey.sort options.sort
        ((session.documentsOf name options.inclusion).filter options.condition.holds) := by
  simp [list, ListingOptions.whole, Condition.anyHolds, Condition.compact]

theorem mem_documentsOf_of_whole {session : DocumentSession} {name : String}
    {options : ListingOptions} {document : Document}
    (member : document ∈ session.list name options.whole) :
    document ∈ session.documentsOf name options.inclusion := by
  rw [list_whole, (SortKey.sort_perm _ _).mem_iff] at member
  exact (List.mem_filter.1 member).1

/-- What relates any two documents of a collection either way relates those of a listing. -/
theorem pairwise_whole {Related : Document → Document → Prop}
    (symmetric : ∀ {left right}, Related left right → Related right left)
    {session : DocumentSession} {name : String} {options : ListingOptions}
    (pairwise : (session.documentsOf name options.inclusion).Pairwise Related) :
    (session.list name options.whole).Pairwise Related := by
  rw [list_whole]
  exact ((SortKey.sort_perm _ _).pairwise_iff symmetric).2 (pairwise.filter _)

/-- A listing with alternatives is what they leave of the one without. -/
theorem list_alternatives {session : DocumentSession} {name : String} {options : ListingOptions}
    (apart : SortKey.Apart options.sort (session.list name options.whole))
    (alternatives : List Condition) :
    session.list name { options with alternatives, limit := 0 } =
      (session.list name options.whole).filter (Condition.anyHolds alternatives) := by
  rw [list_whole] at apart ⊢
  have kept := (SortKey.apart_iff_of_perm (SortKey.sort_perm _ _)).1 apart
  rw [← kept.sort_filter, List.filter_filter]
  simp only [list, Nat.lt_irrefl, gt_iff_lt, if_false, Bool.and_comm]

/-- Sort keys that paging can follow: they tell the documents apart, tokens can carry the
fields, and no document is without a value. -/
structure Followable (keys : List SortKey) (documents : List Document) : Prop where
  apart : SortKey.Apart keys documents
  pageable : ∀ document ∈ documents, ∀ key ∈ keys, ∀ value ∈ document.get? key.field,
    value.Pageable
  valued : ∀ document ∈ documents, ∃ key ∈ keys, ∃ value,
    document.get? key.field = some value ∧ value ≠ .null

/-- The conditions of the cursor after a document leave what stands behind it. -/
theorem list_conditions {session : DocumentSession} {name : String} {options : ListingOptions}
    (followable : Followable options.sort (session.list name options.whole))
    {before after : List Document} {last : Document}
    (split : session.list name options.whole = before ++ last :: after) (nonce : String) :
    session.list name
      { options with
        alternatives := (Cursor.afterDocument nonce last options.sort).conditions options.sort
        limit := 0 } = after := by
  have member : last ∈ session.list name options.whole := by
    rw [split]
    exact List.mem_append_right before List.mem_cons_self
  have discrete : ∀ row ∈ session.list name options.whole, ∀ key ∈ options.sort,
      Json.Discrete (row.get? key.field) := fun row isRow key isKey =>
    Json.discrete_of_pageable (followable.pageable row isRow key isKey)
  obtain ⟨key, isKey, value, get, nonnull⟩ := followable.valued last member
  have admits : ∀ row ∈ session.list name options.whole,
      Condition.anyHolds
        ((Cursor.afterDocument nonce last options.sort).conditions options.sort) row =
        (SortKey.compareAll options.sort row last == .gt) := by
    intro row isRow
    refine Cursor.anyHolds_conditions (Cursor.isEmpty_afterDocument nonce isKey get nonnull)
      (List.ne_nil_of_mem isKey) (Cursor.marks_afterDocument nonce last options.sort)
      (discrete row isRow) (discrete last member)
  have sorted : (session.list name options.whole).Pairwise fun left right =>
      SortKey.compareAll options.sort left right = .lt := by
    have apart := followable.apart
    rw [list_whole] at apart ⊢
    exact ((SortKey.apart_iff_of_perm (SortKey.sort_perm _ _)).1 apart).pairwise_sort
  rw [list_alternatives followable.apart, List.filter_congr admits, split]
  rw [split] at sorted
  exact SortKey.filter_after sorted

/-! ## The walk -/

theorem run_list (session : DocumentSession) (surroundings : Surroundings) {path : Path}
    (node : path.isNode = true) (options : ListingOptions) :
    session.run surroundings (.list path options) =
      .ok (.documents (session.list path.collection options), session) := by
  simp [DocumentSession.run, requireNode, node, bind, Except.bind, pure, Except.pure]

/-- The page that a walk sees: the beginning of what is left. -/
theorem list_page {session : DocumentSession} {name : String} {options : ListingOptions}
    (limited : 0 < options.limit) {alternatives : List Condition} {rest : List Document}
    (left : session.list name { options with alternatives, limit := 0 } = rest) :
    session.list name { options with alternatives } = rest.take options.limit := by
  have shorter := @list_eq_take session name { options with alternatives } limited
  rw [shorter, left]

/-- A full page ends in a document, behind which stands what comes after the page. -/
theorem exists_last_of_full {rest : List Document} {limit : Nat} (limited : 0 < limit)
    (long : limit ≤ rest.length) :
    ∃ front last, rest.take limit = front ++ [last] ∧
      rest = front ++ last :: rest.drop limit := by
  have nonempty : rest.take limit ≠ [] := by
    refine List.ne_nil_of_length_pos ?_
    rw [List.length_take]
    omega
  refine ⟨_, _, (List.dropLast_concat_getLast nonempty).symm, ?_⟩
  rw [List.append_cons, List.dropLast_concat_getLast nonempty, List.take_append_drop]

section Walk

variable {session : DocumentSession} {path : Path} {options : ListingOptions}
  (node : path.isNode = true) (surroundings : Surroundings) (nonces : Nat → String)
  {fuel : Nat} {alternatives : List Condition}

include node

/-- After a full page the walk goes on behind the last document of the page. -/
theorem pages_of_full {front : List Document} {last : Document}
    (page : session.list path.collection { options with alternatives } = front ++ [last])
    (full : (front ++ [last]).length = options.limit)
    (portable : ∀ key ∈ options.sort, ∀ value ∈ last.get? key.field, Cursor.Portable value) :
    pages surroundings path options nonces (fuel + 1) session alternatives =
      (pages surroundings path options nonces fuel session
        ((Cursor.afterDocument (nonces fuel) last options.sort).conditions options.sort)).map
        ((front ++ [last]) :: ·) := by
  have token := Cursor.decode_encode_afterDocument (nonces fuel) portable
  conv => lhs; unfold pages
  rw [run_list session surroundings node]
  simp only [page, if_pos full, List.getLast?_concat, token]

/-- A page that is not full ends the walk. -/
theorem pages_of_short {page : List Document}
    (listed : session.list path.collection { options with alternatives } = page)
    (short : page.length ≠ options.limit) :
    pages surroundings path options nonces (fuel + 1) session alternatives = some [page] := by
  unfold pages
  rw [run_list session surroundings node]
  simp only [listed, if_neg short]

/-- From every point on, the pages put together are what is left of the listing. -/
theorem pages_of_rest (limited : 0 < options.limit)
    (followable : Followable options.sort (session.list path.collection options.whole))
    {before rest : List Document}
    (split : session.list path.collection options.whole = before ++ rest)
    (left : session.list path.collection { options with alternatives, limit := 0 } = rest)
    (enough : rest.length / options.limit < fuel) :
    ∃ found, pages surroundings path options nonces fuel session alternatives = some found ∧
      found.flatten = rest ∧ found.length = rest.length / options.limit + 1 := by
  -- every full page uses one unit of fuel and takes one from the quotient
  induction fuel generalizing alternatives before rest with
  | zero => exact absurd enough (Nat.not_lt_zero _)
  | succ fuel ih =>
    have page := list_page limited left
    by_cases long : options.limit ≤ rest.length
    · obtain ⟨front, last, shape, pieces⟩ := exists_last_of_full limited long
      have full : (front ++ [last]).length = options.limit := by
        rw [← shape, List.length_take]
        omega
      have fewer : (rest.drop options.limit).length / options.limit + 1 =
          rest.length / options.limit := by
        rw [List.length_drop, Nat.div_eq_sub_div limited long]
      have behind : session.list path.collection options.whole =
          (before ++ front) ++ last :: rest.drop options.limit := by
        rw [split, List.append_assoc, ← pieces]
      have further : session.list path.collection options.whole =
          (before ++ front ++ [last]) ++ rest.drop options.limit := by
        rw [behind, List.append_cons]
      have isLast : last ∈ session.list path.collection options.whole := by
        rw [behind]
        exact List.mem_append_right _ List.mem_cons_self
      have portable : ∀ key ∈ options.sort, ∀ value ∈ last.get? key.field,
          Cursor.Portable value := fun key isKey value get =>
        (followable.pageable last isLast key isKey value get).portable
      obtain ⟨found, walked, whole, count⟩ :=
        ih further (list_conditions followable behind (nonces fuel)) (by omega)
      rw [shape] at page
      refine ⟨(front ++ [last]) :: found, ?_, ?_, ?_⟩
      · rw [pages_of_full node surroundings nonces page full portable, walked, Option.map_some]
      · rw [List.flatten_cons, whole, ← shape, List.take_append_drop]
      · rw [List.length_cons, count, fewer]
    · have short : rest.length < options.limit := Nat.lt_of_not_le long
      rw [List.take_of_length_le (Nat.le_of_lt short)] at page
      refine ⟨[rest], pages_of_short node surroundings nonces page (Nat.ne_of_lt short), ?_, ?_⟩
      · simp
      · rw [Nat.div_eq_of_lt short]
        rfl

end Walk

end DocumentSession

namespace SerialStore

/-! ## Paging in a reachable store -/

theorem unwrapped_of_lt {stamps : List Stamp}
    (epochs : ∀ stamp ∈ stamps, stamp.epoch.millis < 2 ^ 53) : Stamp.Unwrapped stamps :=
  fun stamp member => Int.lt_trans (epochs stamp member) (by decide)

/-- Where every epoch that was given out fits, so does every epoch of a document. -/
theorem fits53_of_play {moves : List (Move documentEngine)}
    (epochs : ∀ stamp ∈ (stampHistory moves).all, stamp.epoch.millis < 2 ^ 53)
    {deleted : Bool} {name id : String} {document : Document}
    (found : ((fresh.play moves).holdings.shelf deleted).find? name id = some document) :
    Json.Fits53 document.modified.millis := by
  obtain ⟨dated, tracks, positive⟩ := (kept_play moves).2 (unwrapped_of_lt epochs)
  have low := positive found
  have high := dated.bounded found
  rw [Epoch.le_iff] at high
  refine ⟨by omega, ?_⟩
  rcases (tracks name).known with zero | known
  · rw [zero] at high
    exact Int.le_trans high (by decide)
  · have bound := epochs _ ((Stamp.mem_epochsIn_iff name _ _).1 known)
    simp only at bound
    omega

/-- In a reachable store the documents of a collection differ in their identifiers, and in
their epochs as long as these do not start anew. -/
theorem pairwise_field_play {moves : List (Move documentEngine)} {client : String}
    {session : DocumentSession} (opened : (fresh.play moves).session client = .ok session)
    (name : String) (inclusion : Inclusion) {field : String}
    (kind : field = Document.idField ∨
      field = Document.modifiedField ∧ Stamp.Unwrapped (stampHistory moves).all) :
    (session.documentsOf name inclusion).Pairwise fun left right =>
      (left.get? field).getD .null ≠ (right.get? field).getD .null := by
  have seen : (fresh.play moves).holdings = session.holdings := holdings_of_session opened
  obtain ⟨placed, dating⟩ := kept_play moves
  rcases kind with isId | ⟨isModified, unwrapped⟩
  · refine (DocumentSession.pairwise_id (seen ▸ placed) name inclusion).imp ?_
    intro left right different same
    rw [Document.get?_id isId, Document.get?_id isId] at same
    exact different (Json.str.inj same)
  · have dated := (dating unwrapped).1
    rw [seen] at dated
    refine (DocumentSession.pairwise_modified dated name inclusion).imp ?_
    intro left right different same
    rw [Document.get?_modified isModified, Document.get?_modified isModified] at same
    exact different (congrArg Epoch.mk (Json.int.inj same))

/-- In a reachable store tokens can carry every sort field of a document, if they can carry
the fields besides identifier and epoch. -/
theorem pageable_play {moves : List (Move documentEngine)} {client : String}
    {session : DocumentSession} (opened : (fresh.play moves).session client = .ok session)
    {name : String} {options : ListingOptions}
    (epochs : (∃ key ∈ options.sort, key.field = Document.modifiedField) →
      ∀ stamp ∈ (stampHistory moves).all, stamp.epoch.millis < 2 ^ 53)
    (pageable : ∀ document ∈ session.list name options.whole, ∀ key ∈ options.sort,
      key.field ≠ Document.idField → key.field ≠ Document.modifiedField →
        ∀ value ∈ document.get? key.field, value.Pageable) :
    ∀ document ∈ session.list name options.whole, ∀ key ∈ options.sort,
      ∀ value ∈ document.get? key.field, value.Pageable := by
  intro document member key isKey value get
  by_cases isId : key.field = Document.idField
  · rw [Document.get?_id isId] at get
    cases get
    exact ⟨trivial, trivial, Nat.zero_le _⟩
  by_cases isModified : key.field = Document.modifiedField
  · obtain ⟨deleted, id, found⟩ :=
      DocumentSession.mem_documentsOf (DocumentSession.mem_documentsOf_of_whole member)
    rw [← holdings_of_session opened] at found
    rw [Document.get?_modified isModified] at get
    cases get
    exact ⟨fits53_of_play (epochs ⟨key, isKey, isModified⟩) found, trivial, Nat.zero_le _⟩
  exact pageable document member key isKey isId isModified value get

/-- In a reachable store, keys with the identifier or the epoch among them can be followed. -/
theorem followable_play {moves : List (Move documentEngine)} {client : String}
    {session : DocumentSession} (opened : (fresh.play moves).session client = .ok session)
    (name : String) (options : ListingOptions)
    (unique : ∃ key ∈ options.sort,
      key.field = Document.idField ∨ key.field = Document.modifiedField)
    (epochs : (∃ key ∈ options.sort, key.field = Document.modifiedField) →
      ∀ stamp ∈ (stampHistory moves).all, stamp.epoch.millis < 2 ^ 53)
    (pageable : ∀ document ∈ session.list name options.whole, ∀ key ∈ options.sort,
      key.field ≠ Document.idField → key.field ≠ Document.modifiedField →
        ∀ value ∈ document.get? key.field, value.Pageable) :
    DocumentSession.Followable options.sort (session.list name options.whole) := by
  have fields := pageable_play opened epochs pageable
  obtain ⟨key, isKey, kind⟩ := unique
  refine ⟨SortKey.apart_of_key isKey (fun document member => ?_) ?_, fields, ?_⟩
  · exact Json.discrete_of_pageable (fields document member key isKey)
  · refine DocumentSession.pairwise_whole (fun different => Ne.symm different)
      (pairwise_field_play opened name options.inclusion (kind.imp_right fun isModified => ?_))
    exact ⟨isModified, unwrapped_of_lt (epochs ⟨key, isKey, isModified⟩)⟩
  · intro document member
    rcases kind with isId | isModified
    · exact ⟨key, isKey, _, Document.get?_id isId, by simp⟩
    · exact ⟨key, isKey, _, Document.get?_modified isModified, by simp⟩

/-- In every state that clients can bring the store into, and for a listing of any collection,
condition, inclusion and limit whose sort keys name the identifier or the epoch: the pages that
follow one another by tokens come to an end, and put together they are the listing without pages. -/
theorem pages_flatten (moves : List (Move documentEngine)) {client : String}
    {session : DocumentSession} (opened : (fresh.play moves).session client = .ok session)
    (surroundings : Surroundings) {path : Path} (node : path.isNode = true)
    (options : ListingOptions) (limited : 0 < options.limit) (nonces : Nat → String)
    (unique : ∃ key ∈ options.sort,
      key.field = Document.idField ∨ key.field = Document.modifiedField)
    (epochs : (∃ key ∈ options.sort, key.field = Document.modifiedField) →
      ∀ stamp ∈ (stampHistory moves).all, stamp.epoch.millis < 2 ^ 53)
    (pageable : ∀ document ∈ session.list path.collection options.whole,
      ∀ key ∈ options.sort, key.field ≠ Document.idField → key.field ≠ Document.modifiedField →
        ∀ value ∈ document.get? key.field, value.Pageable) :
    ∃ listing, DocumentSession.run session surroundings (.list path options.whole) =
        .ok (.documents listing, session) ∧
      ∀ fuel, listing.length / options.limit < fuel →
        ∃ pages,
          DocumentSession.pages surroundings path options nonces fuel session [] = some pages ∧
          pages.flatten = listing ∧ pages.length = listing.length / options.limit + 1 := by
  have followable := followable_play opened path.collection options unique epochs pageable
  refine ⟨_, DocumentSession.run_list session surroundings node options.whole, ?_⟩
  intro fuel enough
  exact DocumentSession.pages_of_rest node surroundings nonces limited followable
    (List.nil_append _).symm rfl enough

/-- Pages of two over live documents and a tombstone, in descending order of a field that is
missing in one of them, null in another and the same in two more. -/
theorem pages_flatten_nullable :
    let at_ (now : Int) : Surroundings := ⟨⟨now⟩, fun _ => "x"⟩
    let ranked (id : String) (rank : Json) : Document := ⟨id, ⟨0⟩, false, [("rank", rank)]⟩
    let moves : List (Move documentEngine) :=
      [.begin "c", .run "c" (at_ 5) (.create ⟨"/a/*"⟩ (ranked "one" (.int 2))),
        .run "c" (at_ 5) (.create ⟨"/a/*"⟩ (Document.withId "two")),
        .run "c" (at_ 3) (.create ⟨"/a/*"⟩ (ranked "three" .null)),
        .run "c" (at_ 9) (.create ⟨"/a/*"⟩ (ranked "four" (.int 2))),
        .run "c" (at_ 9) (.create ⟨"/a/*"⟩ (ranked "five" (.arr [.str "x", .obj []]))),
        .run "c" (at_ 0) (.delete ⟨"/a/four"⟩)]
    let options : ListingOptions :=
      ⟨[], [], .all, [⟨"rank", true⟩, ⟨Document.modifiedField, false⟩], 2⟩
    let path : Path := ⟨"/a/*"⟩
    let session : DocumentSession :=
      match (fresh.play moves).session "c" with
      | .ok session => session
      | .error _ => DocumentSession.start Holdings.empty 0
    (fresh.play moves).session "c" = .ok session ∧
      path.isNode = true ∧ 0 < options.limit ∧
      (∃ key ∈ options.sort,
        key.field = Document.idField ∨ key.field = Document.modifiedField) ∧
      ((∃ key ∈ options.sort, key.field = Document.modifiedField) →
        ∀ stamp ∈ (stampHistory moves).all, stamp.epoch.millis < 2 ^ 53) ∧
      (∀ document ∈ session.list path.collection options.whole,
        ∀ key ∈ options.sort, key.field ≠ Document.idField → key.field ≠ Document.modifiedField →
          ∀ value ∈ document.get? key.field, value.Pageable) ∧
      (session.list path.collection options.whole).length = 5 ∧
      ∃ listing, DocumentSession.run session (at_ 0) (.list path options.whole) =
          .ok (.documents listing, session) ∧
        ∀ fuel, listing.length / options.limit < fuel →
          ∃ pages,
            DocumentSession.pages (at_ 0) path options (fun _ => "n") fuel session [] =
              some pages ∧
            pages.flatten = listing ∧ pages.length = listing.length / options.limit + 1 := by
  intro at_ ranked moves options path session
  have opened : (fresh.play moves).session "c" = .ok session := by
    have isOpen : ((fresh.play moves).session "c").isOk = true := by decide +kernel
    simp only [session]
    cases found : (fresh.play moves).session "c" with
    | ok inner => rfl
    | error error =>
      rw [found] at isOpen
      cases isOpen
  have listed : (session.list path.collection options.whole).Perm
      ((session.documentsOf path.collection .all).filter (Condition.holds [])) := by
    rw [DocumentSession.list_whole]
    exact SortKey.sort_perm _ _
  have ranks : ∀ document ∈ (session.documentsOf path.collection .all).filter (Condition.holds []),
      ∀ value ∈ document.get? "rank", value.Pageable := by decide +kernel
  have pageable : ∀ document ∈ session.list path.collection options.whole,
      ∀ key ∈ options.sort, key.field ≠ Document.idField → key.field ≠ Document.modifiedField →
        ∀ value ∈ document.get? key.field, value.Pageable := by
    intro document member key isKey _ notModified
    rcases List.mem_cons.1 isKey with rfl | second
    · exact ranks document (listed.mem_iff.1 member)
    · rw [List.mem_singleton.1 second] at notModified
      exact absurd rfl notModified
  have epochs : (∃ key ∈ options.sort, key.field = Document.modifiedField) →
      ∀ stamp ∈ (stampHistory moves).all, stamp.epoch.millis < 2 ^ 53 := by decide +kernel
  have five : (session.list path.collection options.whole).length = 5 := by
    rw [listed.length_eq]
    decide +kernel
  exact ⟨opened, by decide, by decide, by decide, epochs, pageable, five,
    pages_flatten moves opened (at_ 0) (by decide) options (by decide) (fun _ => "n") (by decide)
      epochs pageable⟩

end SerialStore
end DocStore
