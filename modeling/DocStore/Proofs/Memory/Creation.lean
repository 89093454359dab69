import DocStore.Proofs.Memory.Contents
import DocStore.Proofs.Memory.Timeline

/-!
# Creations

A creation under an identifier that is free leaves every live document as it is and adds one.
One that names the identifier of a live document is refused.  Identifiers that are handed out
are not looked up, so a creation without an identifier replaces the live document whose
identifier it is given: creations leave live documents alone exactly if that does not happen
(`SerialStore.creates_apart_iff`).
-/

namespace DocStore

namespace Shelf

/-! ## The number of documents -/

theorem length_keysIn (shelf : Shelf) : (shelf.keysIn (Dict.keys shelf)).length = shelf.count := by
  rw [keysIn, Dict.keys, List.flatMap_map, List.length_flatMap, count, Dict.values, List.map_map,
    ← List.sum_eq_foldr]
  refine congrArg List.sum (List.map_congr_left fun entry member => ?_)
  have present := (Dict.mem_entries_iff shelf entry.1 entry.2).1 member
  simp [collection, present, Dict.keys, Dict.size]

/-- The keys of all documents are those under which a document is found. -/
theorem mem_keysIn_keys (shelf : Shelf) (name id : String) :
    (name, id) ∈ shelf.keysIn (Dict.keys shelf) ↔ (shelf.find? name id).isSome = true := by
  rw [mem_keysIn, Dict.mem_keys_iff, Dict.contains, and_iff_right_iff_imp]
  intro found
  obtain ⟨document, inShelf⟩ := Option.isSome_iff_exists.1 found
  obtain ⟨collection, present, _⟩ := Option.bind_eq_some_iff.1 inShelf
  rw [present]
  rfl

/-- A list of the places in which a document is found is as long as there are documents. -/
theorem count_eq_length {shelf : Shelf} {places : List (String × String)} (nodup : places.Nodup)
    (each : ∀ name id, (name, id) ∈ places ↔ (shelf.find? name id).isSome = true) :
    shelf.count = places.length := by
  have listed : (shelf.keysIn (Dict.keys shelf)).Perm places := by
    apply (List.perm_ext_iff_of_nodup (nodup_keysIn _ (Dict.pairwise_keys _)) nodup).2
    rintro ⟨name, id⟩
    rw [mem_keysIn_keys, each]
  rw [← length_keysIn, listed.length_eq]

/-- A shelf that has a document in one more place has one document more. -/
theorem count_of_added {before after : Shelf} {name id : String}
    (free : before.find? name id = none)
    (places : ∀ other key, (after.find? other key).isSome = true ↔
      (other = name ∧ key = id) ∨ (before.find? other key).isSome = true) :
    after.count = before.count + 1 := by
  have absent : (name, id) ∉ before.keysIn (Dict.keys before) := by
    rw [mem_keysIn_keys, free]
    exact Bool.false_ne_true
  have nodup : ((name, id) :: before.keysIn (Dict.keys before)).Nodup :=
    List.nodup_cons.2 ⟨absent, nodup_keysIn _ (Dict.pairwise_keys _)⟩
  have added : after.count = ((name, id) :: before.keysIn (Dict.keys before)).length := by
    apply count_eq_length nodup
    intro other key
    rw [List.mem_cons, Prod.mk.injEq, mem_keysIn_keys, places]
  rw [added, List.length_cons, length_keysIn]

end Shelf

namespace Holdings

variable (holdings : Holdings) (name : String) (document : Document) (now : Epoch)

/-! ## A stored document -/

theorem find?_live_store (other key : String) :
    (holdings.store name document now).live.find? other key =
      if other = name ∧ key = document.id then
        some { document with modified := holdings.nextEpoch name now }
      else holdings.live.find? other key := by
  simp only [store, Shelf.find?_insert, Collection.put, Dict.find?_insert]
  by_cases here : other = name
  · subst here
    by_cases own : key = document.id <;> simp [own, Shelf.find?_eq, nextEpoch]
  · simp [here]

variable {holdings name document}

/-- A document stored in a free place leaves the live documents as they are. -/
theorem find?_live_store_of_free (free : holdings.live.find? name document.id = none)
    {other key : String} {found : Document} (live : holdings.live.find? other key = some found) :
    (holdings.store name document now).live.find? other key = some found := by
  rw [find?_live_store, if_neg, live]
  rintro ⟨rfl, rfl⟩
  rw [free] at live
  cases live

theorem count_live_store_of_free (free : holdings.live.find? name document.id = none) :
    (holdings.store name document now).live.count = holdings.live.count + 1 := by
  refine Shelf.count_of_added free fun other key => ?_
  rw [find?_live_store]
  by_cases here : other = name ∧ key = document.id
  · simp [here]
  · simp [here]

end Holdings

namespace DocumentSession

/-- The identifier under which a new document is stored: its own, or the next one. -/
def idOfNew (session : DocumentSession) (surroundings : Surroundings) (document : Document) :
    String :=
  if document.id.isEmpty then surroundings.ids session.minted else document.id

/-- The identifier of a document that has none is handed out without a look at the live
documents. -/
def Collides (session : DocumentSession) (surroundings : Surroundings) (path : Path)
    (document : Document) : Prop :=
  document.id.isEmpty = true ∧
    (session.holdings.live.find? path.collection (surroundings.ids session.minted)).isSome = true

variable {session : DocumentSession} {surroundings : Surroundings} {path : Path}
  {document : Document}

/-- The creation stores the document under its identifier. -/
def Stores (session : DocumentSession) (surroundings : Surroundings) (path : Path)
    (document : Document) : Prop :=
  ∃ stored after, session.create surroundings path document = .ok (.document stored, after) ∧
    after.holdings = session.holdings.store path.collection
      { document with id := session.idOfNew surroundings document, deleted := false }
      surroundings.now

/-- A document without an identifier is stored, whatever is live. -/
theorem stores_unnamed (surroundings : Surroundings) (node : path.isNode = true)
    (unnamed : document.id.isEmpty = true) : session.Stores surroundings path document := by
  let counted : DocumentSession := { session with minted := session.minted + 1 }
  let named : Document := { document with id := surroundings.ids session.minted }
  have handed : session.idOfNew surroundings document = surroundings.ids session.minted :=
    if_pos unnamed
  refine ⟨(counted.store path.collection named surroundings.now).1,
    (counted.store path.collection named surroundings.now).2, ?_, ?_⟩
  · simp only [create, requireNode, node, if_true, unnamed]
    rfl
  · rw [handed]
    exact holdings_store counted path.collection named surroundings.now

theorem stores_named (surroundings : Surroundings) (node : path.isNode = true)
    (named : document.id.isEmpty = false)
    (free : session.holdings.live.find? path.collection document.id = none) :
    session.Stores surroundings path document := by
  have own : session.idOfNew surroundings document = document.id := by
    rw [idOfNew, named, if_neg Bool.false_ne_true]
  refine ⟨(session.store path.collection document surroundings.now).1,
    (session.store path.collection document surroundings.now).2, ?_, ?_⟩
  · simp only [create, requireNode, node, if_true, named, free]
    rfl
  · rw [own]
    exact holdings_store session path.collection document surroundings.now

theorem create_taken (node : path.isNode = true) (named : document.id.isEmpty = false)
    (taken : (session.holdings.live.find? path.collection document.id).isSome = true) :
    session.create surroundings path document =
      .error (.alreadyExists (path.withDocumentId document.id).text, session) := by
  simp only [create, requireNode, node, if_true, named, taken]
  rfl

end DocumentSession

namespace SerialStore

variable {store : SerialStore documentEngine} {client : String} {session : DocumentSession}
  {surroundings : Surroundings} {path : Path} {document : Document}

/-- In an open transaction, a document is created under an identifier that is free. -/
theorem run_create_of_free (opened : store.session client = .ok session)
    (surroundings : Surroundings) (node : path.isNode = true)
    (named : document.id.isEmpty = false)
    (free : store.holdings.live.find? path.collection document.id = none) :
    ∃ stored after, store.run client surroundings (.create path document) =
      .ok (.document stored, after) ∧ stored.id = document.id := by
  rw [holdings_of_session opened] at free
  obtain ⟨stored, later, ran, _⟩ :=
    DocumentSession.stores_named surroundings node named free
  have worked : session.run surroundings (.create path document) =
      .ok (.document stored, later) := ran
  refine ⟨stored, _, run_of_ok opened worked, ?_⟩
  cases DocumentSession.effect_of_run worked with
  | read op answer reads => cases reads
  | created path document node named fresh => rfl
  | minted path document labelled counted node unnamed =>
    rw [named] at unnamed
    cases unnamed

/-- A creation under an identifier leaves live documents alone: if it succeeds, the place was
free, what was live is so still and unchanged, and there is one more live document; if the
place is taken, it is refused and the store stays as it is. -/
structure CreatesApart (store : SerialStore documentEngine) (client : String)
    (surroundings : Surroundings) (path : Path) (document : Document) (id : String) : Prop where
  adds : ∀ {answer after},
    store.run client surroundings (.create path document) = .ok (answer, after) →
      store.holdings.live.find? path.collection id = none ∧
        (∀ {name key found}, store.holdings.live.find? name key = some found →
          after.holdings.live.find? name key = some found) ∧
        after.holdings.live.count = store.holdings.live.count + 1
  refuses : (store.holdings.live.find? path.collection id).isSome = true →
    store.run client surroundings (.create path document) =
        .error (.store (.alreadyExists (path.withDocumentId id).text), store) ∧
      store.step (.run client surroundings (.create path document)) = store

theorem createsApart_of_stores (opened : store.session client = .ok session)
    (stores : session.Stores surroundings path document)
    (free : session.holdings.live.find? path.collection
      (session.idOfNew surroundings document) = none) :
    store.CreatesApart client surroundings path document
      (session.idOfNew surroundings document) := by
  obtain ⟨stored, after, created, held⟩ := stores
  have current : store.holdings = session.holdings := holdings_of_session opened
  have worked : store.run client surroundings (.create path document) =
      .ok (.document stored, { store with lock := .held client after }) := run_of_ok opened created
  constructor
  · intro answer later ran
    rw [worked] at ran
    cases ran
    have now : SerialStore.holdings { store with lock := .held client after } = after.holdings := rfl
    rw [now, held, current]
    refine ⟨free, fun live => ?_, ?_⟩
    · exact Holdings.find?_live_store_of_free _ free live
    · exact Holdings.count_live_store_of_free _ free
  · intro taken
    rw [current, free] at taken
    cases taken

theorem createsApart_of_refused (opened : store.session client = .ok session)
    (refused : session.create surroundings path document =
      .error (.alreadyExists (path.withDocumentId document.id).text, session)) :
    store.CreatesApart client surroundings path document document.id := by
  have failed : store.run client surroundings (.create path document) =
      .error (.store (.alreadyExists (path.withDocumentId document.id).text), store) := by
    have worked : documentEngine.run session surroundings (.create path document) = .error _ :=
      refused
    rw [run_of_error opened worked, with_lock_of_session opened]
  constructor
  · intro answer later ran
    rw [failed] at ran
    cases ran
  · intro _
    exact ⟨failed, step_of_run_error failed⟩

/-- In an open transaction, creations leave live documents alone exactly if the identifier of a
document that has none is not handed out while a live document has it. -/
theorem creates_apart_iff (opened : store.session client = .ok session)
    (surroundings : Surroundings) (node : path.isNode = true) (document : Document) :
    store.CreatesApart client surroundings path document
        (session.idOfNew surroundings document) ↔
      ¬ session.Collides surroundings path document := by
  cases named : document.id.isEmpty with
  | true =>
    have stores : session.Stores surroundings path document :=
      DocumentSession.stores_unnamed surroundings node named
    have handed : session.idOfNew surroundings document = surroundings.ids session.minted :=
      if_pos named
    constructor
    · rintro apart ⟨_, taken⟩
      obtain ⟨stored, after, created, _⟩ := stores
      have free := (apart.adds (run_of_ok opened created)).1
      rw [holdings_of_session opened, handed] at free
      rw [free] at taken
      cases taken
    · intro clear
      refine createsApart_of_stores opened stores ?_
      rw [handed, ← Option.not_isSome_iff_eq_none]
      exact fun taken => clear ⟨named, taken⟩
  | false =>
    have own : session.idOfNew surroundings document = document.id := by
      rw [DocumentSession.idOfNew, named, if_neg Bool.false_ne_true]
    refine iff_of_true ?_ fun collides => ?_
    · cases live : session.holdings.live.find? path.collection document.id with
      | none =>
        refine createsApart_of_stores opened
          (DocumentSession.stores_named surroundings node named live) ?_
        rw [own, live]
      | some old =>
        rw [own]
        refine createsApart_of_refused opened ?_
        exact DocumentSession.create_taken node named (Option.isSome_of_mem live)
    · rw [collides.1] at named
      cases named

/-- Beside a live document and a tombstone: a document without an identifier gets that of the
tombstone, and one with the identifier of the live document is refused. -/
theorem creates_apart_iff_revival :
    let here : Surroundings := ⟨⟨7⟩, fun _ => "two"⟩
    let path : Path := ⟨"/a/*"⟩
    let store := fresh.play
      [.begin "c", .run "c" here (.create path (Document.withId "one")),
        .run "c" here (.create path (Document.withId "two")),
        .run "c" here (.delete ⟨"/a/two"⟩), .commit "c", .begin "d"]
    path.isNode = true ∧
      (store.holdings.live.find? path.collection "one").isSome = true ∧
      (store.holdings.dead.find? path.collection "two").isSome = true ∧
      ∃ session, store.session "d" = .ok session ∧
        store.CreatesApart "d" here path (Document.withId "") "two" ∧
        store.CreatesApart "d" here path (Document.withId "one") "one" := by
  intro here path store
  have isOpen : (store.session "d").isOk = true := by decide +kernel
  have buried : (store.holdings.live.find? path.collection "two").isSome = false := by
    decide +kernel
  refine ⟨by decide, by decide +kernel, by decide +kernel, ?_⟩
  cases opened : store.session "d" with
  | error error =>
    rw [opened] at isOpen
    cases isOpen
  | ok session =>
    rw [holdings_of_session opened] at buried
    refine ⟨session, rfl, ?_, ?_⟩
    · refine (creates_apart_iff opened here (by decide) (Document.withId "")).2 ?_
      rintro ⟨_, taken⟩
      exact absurd (buried.symm.trans taken) Bool.false_ne_true
    · refine (creates_apart_iff opened here (by decide) (Document.withId "one")).2 ?_
      rintro ⟨unnamed, _⟩
      exact absurd unnamed (by decide)

/-- An identifier that is handed out twice: the second document takes the place of the first. -/
theorem creation_replaces_live :
    let here : Surroundings := ⟨⟨0⟩, fun _ => "x"⟩
    let path : Path := ⟨"/a/*"⟩
    let numbered (number : Int) : Document := ⟨"", ⟨0⟩, false, [("v", .int number)]⟩
    let store := fresh.play [.begin "c", .run "c" here (.create path (numbered 1))]
    let later := store.step (.run "c" here (.create path (numbered 2)))
    store.holdings.live.count = 1 ∧ later.holdings.live.count = 1 ∧
      ¬ store.CreatesApart "c" here path (numbered 2) "x" := by
  intro here path numbered store later
  refine ⟨by decide +kernel, by decide +kernel, fun apart => ?_⟩
  have succeeds : (store.run "c" here (.create path (numbered 2))).isOk = true := by
    decide +kernel
  cases ran : store.run "c" here (.create path (numbered 2)) with
  | error error =>
    rw [ran] at succeeds
    cases succeeds
  | ok outcome =>
    have free := (apart.adds ran).1
    exact absurd (congrArg Option.isSome free) (by decide +kernel)

end SerialStore
end DocStore
