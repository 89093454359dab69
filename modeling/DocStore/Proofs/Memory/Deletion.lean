import Mathlib.Data.List.Basic
import DocStore.Proofs.Memory.Cascade
import DocStore.Proofs.Memory.Creation
import DocStore.Proofs.Memory.Epochs
import DocStore.Proofs.Memory.Latest

/-!
# Deletions

A deletion reaches the place of its path and every place in a collection below the path.  The
live documents in the places that it reaches become tombstones, and all other places, of live
documents and of tombstones, hold what they held before (`Holdings.Buries`).  Burying one
document after the other and deleting one path after the other reaches the places that the
single steps reach.

Every tombstone that is made gets an epoch past the one that its collection had before
(`Holdings.Changes.succeeds`), so that a deletion is described in full by
`SerialStore.delete_buries_reached`.
-/

namespace DocStore

namespace Path

/-- A deletion of the path reaches the place of the path and the places below the path. -/
def Reaches (path : Path) (name id : String) : Prop :=
  (name = path.collection ∧ id = path.documentId) ∨ isBelow path name = true

instance (path : Path) (name id : String) : Decidable (path.Reaches name id) :=
  inferInstanceAs (Decidable (_ ∨ _))

end Path

namespace Holdings

/-- The live documents in some places become tombstones, and nothing else changes. -/
structure Buries (Reached : String → String → Prop) (before after : Holdings) : Prop where
  /-- A live document that is reached keeps its identifier and its fields as a tombstone. -/
  moved : ∀ {name id document}, Reached name id →
    before.live.find? name id = some document → after.live.find? name id = none ∧
      ∃ epoch, after.dead.find? name id =
        some { document with modified := epoch, deleted := true }
  /-- Every other place holds what it held. -/
  others : ∀ {name id}, ¬ (Reached name id ∧ (before.live.find? name id).isSome = true) →
    ∀ deleted, (after.shelf deleted).find? name id = (before.shelf deleted).find? name id
  /-- A collection without a document that is reached keeps its epoch. -/
  epochs : ∀ {name}, (∀ id, Reached name id → before.live.find? name id = none) →
    after.epoch? name = before.epoch? name

variable {Reached Further : String → String → Prop} {holdings before between after : Holdings}

namespace Buries

/-- Where nothing that is live is reached, nothing is buried. -/
theorem refl (nothing : ∀ name id, Reached name id → holdings.live.find? name id = none) :
    holdings.Buries Reached holdings where
  moved reached found := by
    rw [nothing _ _ reached] at found
    cases found
  others _ _ := rfl
  epochs _ := rfl

/-- Only the places of live documents count. -/
theorem congr (buries : before.Buries Reached after)
    (same : ∀ name id, (before.live.find? name id).isSome = true →
      (Reached name id ↔ Further name id)) : before.Buries Further after where
  moved := by
    intro name id document reached found
    apply buries.moved _ found
    exact (same name id (Option.isSome_of_mem found)).2 reached
  others := by
    intro name id apart
    apply buries.others
    rintro ⟨reached, isLive⟩
    exact apart ⟨(same name id isLive).1 reached, isLive⟩
  epochs := by
    intro name nothing
    apply buries.epochs
    intro id reached
    by_contra isLive
    have found : (before.live.find? name id).isSome = true := Option.isSome_iff_ne_none.2 isLive
    exact isLive (nothing id ((same name id found).1 reached))

/-- Burying twice reaches what either reaches: what was buried first is live no more. -/
theorem trans (first : before.Buries Reached between) (second : between.Buries Further after) :
    before.Buries (fun name id => Reached name id ∨ Further name id) after where
  moved := by
    intro name id document reached found
    by_cases early : Reached name id
    · obtain ⟨gone, epoch, buried⟩ := first.moved early found
      have stays (deleted : Bool) :
          (after.shelf deleted).find? name id = (between.shelf deleted).find? name id :=
        second.others (by simp [gone]) deleted
      exact ⟨(stays false).trans gone, epoch, (stays true).trans buried⟩
    · have still : between.live.find? name id = before.live.find? name id :=
        first.others (fun both => early both.1) false
      exact second.moved (reached.resolve_left early) (still.trans found)
  others := by
    intro name id apart deleted
    have early (deleted : Bool) :
        (between.shelf deleted).find? name id = (before.shelf deleted).find? name id :=
      first.others (fun both => apart ⟨.inl both.1, both.2⟩) deleted
    have isLive : between.live.find? name id = before.live.find? name id := early false
    rw [← early deleted]
    apply second.others
    rintro ⟨reached, found⟩
    exact apart ⟨.inr reached, isLive ▸ found⟩
  epochs := by
    intro name nothing
    rw [← first.epochs fun id reached => nothing id (.inl reached)]
    apply second.epochs
    intro id reached
    have unchanged : between.live.find? name id = before.live.find? name id :=
      first.others (by simp [nothing id (.inr reached)]) false
    exact unchanged.trans (nothing id (.inr reached))

end Buries

/-! ## Burying documents -/

/-- Burying one document reaches its place. -/
theorem Placed.buries_bury (placed : holdings.Placed) (name id : String) (now : Epoch) :
    holdings.Buries (fun other key => other = name ∧ key = id) (holdings.bury name id now) := by
  cases found : holdings.live.find? name id with
  | none =>
    rw [bury_of_none now found]
    apply Buries.refl
    rintro other key ⟨rfl, rfl⟩
    exact found
  | some document =>
    have labelled : document.id = id := placed.id_of_live found
    have renews := renews_bury now found labelled
    constructor
    · rintro other key old ⟨rfl, rfl⟩ oldFound
      have same : old = document := Option.some.inj (oldFound.symm.trans found)
      subst same
      have live := renews.places false other key
      have dead := renews.places true other key
      rw [if_pos ⟨rfl, labelled.symm⟩] at live dead
      exact ⟨live, _, dead⟩
    · intro other key apart deleted
      rw [renews.places, if_neg]
      rintro ⟨rfl, here⟩
      have own : key = id := here.trans labelled
      subst own
      exact apart ⟨⟨rfl, rfl⟩, Option.isSome_of_mem found⟩
    · intro other nothing
      have elsewhere : other ≠ name := by
        rintro rfl
        rw [nothing id ⟨rfl, rfl⟩] at found
        cases found
      rw [epoch?_bury now found, epoch?_advance, if_neg elsewhere]

theorem Placed.bury (placed : holdings.Placed) (name id : String) (now : Epoch) :
    (holdings.bury name id now).Placed := by
  cases found : holdings.live.find? name id with
  | none =>
    rw [bury_of_none now found]
    exact placed
  | some document => exact placed.change (.bury holdings name id document found)

/-- Burying documents one after the other reaches all of their places. -/
theorem Placed.buries_buryKeys (placed : holdings.Placed) (keys : List (String × String))
    (now : Epoch) :
    holdings.Buries (fun name id => (name, id) ∈ keys) (holdings.buryKeys keys now) := by
  induction keys generalizing holdings with
  | nil =>
    apply Buries.refl
    intro name id member
    cases member
  | cons key rest ih =>
    have first := placed.buries_bury key.1 key.2 now
    have later := ih (placed.bury key.1 key.2 now)
    apply (first.trans later).congr
    intro name id _
    rw [List.mem_cons, Prod.ext_iff]

/-! ## How many documents are moved -/

/-- The places of the live documents that are reached. -/
def reachedPlaces (Reached : String → String → Prop) [∀ name id, Decidable (Reached name id)]
    (holdings : Holdings) : List (String × String) :=
  (holdings.live.keysIn (Dict.keys holdings.live)).filter fun key => Reached key.1 key.2

theorem nodup_reachedPlaces [∀ name id, Decidable (Reached name id)] (holdings : Holdings) :
    (holdings.reachedPlaces Reached).Nodup :=
  (Shelf.nodup_keysIn _ (Dict.pairwise_keys _)).filter _

theorem mem_reachedPlaces [∀ name id, Decidable (Reached name id)] (holdings : Holdings)
    (name id : String) : (name, id) ∈ holdings.reachedPlaces Reached ↔
      (holdings.live.find? name id).isSome = true ∧ Reached name id := by
  rw [reachedPlaces, List.mem_filter, Shelf.mem_keysIn_keys, decide_eq_true_iff]

namespace Buries

variable [∀ name id, Decidable (Reached name id)]

/-- A document is live afterwards if it was and is not reached. -/
theorem live_isSome_iff (buries : before.Buries Reached after) (name id : String) :
    (after.live.find? name id).isSome = true ↔
      (before.live.find? name id).isSome = true ∧ ¬ Reached name id := by
  by_cases leaves : Reached name id ∧ (before.live.find? name id).isSome = true
  · obtain ⟨document, found⟩ := Option.isSome_iff_exists.1 leaves.2
    have gone := (buries.moved leaves.1 found).1
    simp [gone, leaves.1]
  · have kept : after.live.find? name id = before.live.find? name id := buries.others leaves false
    rw [kept]
    tauto

/-- A tombstone is there afterwards if it was before or is of a live document that is
reached. -/
theorem dead_isSome_iff (buries : before.Buries Reached after) (name id : String) :
    (after.dead.find? name id).isSome = true ↔
      (before.dead.find? name id).isSome = true ∨
        (before.live.find? name id).isSome = true ∧ Reached name id := by
  by_cases leaves : Reached name id ∧ (before.live.find? name id).isSome = true
  · obtain ⟨document, found⟩ := Option.isSome_iff_exists.1 leaves.2
    obtain ⟨_, epoch, buried⟩ := buries.moved leaves.1 found
    simp [buried, leaves]
  · have kept : after.dead.find? name id = before.dead.find? name id := buries.others leaves true
    rw [kept]
    tauto

/-- The live documents that are reached leave the one shelf for the other. -/
theorem counts (buries : before.Buries Reached after) (placed : before.Placed) :
    after.live.count + (before.reachedPlaces Reached).length = before.live.count ∧
      after.dead.count = before.dead.count + (before.reachedPlaces Reached).length := by
  let places := before.live.keysIn (Dict.keys before.live)
  let tombs := before.dead.keysIn (Dict.keys before.dead)
  have nodup : places.Nodup := Shelf.nodup_keysIn _ (Dict.pairwise_keys _)
  constructor
  · have left : after.live.count =
        (places.filter fun key => !decide (Reached key.1 key.2)).length := by
      apply Shelf.count_eq_length (nodup.filter _)
      intro name id
      rw [List.mem_filter, Shelf.mem_keysIn_keys, buries.live_isSome_iff]
      simp
    have split := List.length_eq_length_filter_add (l := places)
      (fun key => decide (Reached key.1 key.2))
    rw [left, ← Shelf.length_keysIn before.live, split, reachedPlaces, Nat.add_comm]
  · have joined : after.dead.count = (tombs ++ before.reachedPlaces Reached).length := by
      apply Shelf.count_eq_length
      · apply List.nodup_append.2
        refine ⟨Shelf.nodup_keysIn _ (Dict.pairwise_keys _), before.nodup_reachedPlaces, ?_⟩
        rintro ⟨name, id⟩ dead _ live rfl
        rw [Shelf.mem_keysIn_keys] at dead
        rw [mem_reachedPlaces] at live
        rcases placed.disjoint name id with missing | missing
        · simp [missing] at live
        · simp [missing] at dead
      · intro name id
        rw [List.mem_append, Shelf.mem_keysIn_keys, mem_reachedPlaces, buries.dead_isSome_iff]
    rw [joined, List.length_append, Shelf.length_keysIn]

end Buries

/-! ## Epochs of changes -/

/-- The documents of a collection are those of before or have epochs past the one that the
collection had, which is never set back. -/
structure Succeeds (before after : Holdings) (name : String) : Prop where
  grows : (before.live.collection name).latest ≤ (after.live.collection name).latest
  newer : ∀ {deleted id document}, (after.shelf deleted).find? name id = some document →
    (before.shelf deleted).find? name id = some document ∨
      (before.live.collection name).latest < document.modified

theorem Succeeds.refl (holdings : Holdings) (name : String) : holdings.Succeeds holdings name :=
  ⟨Int.le_refl _, .inl⟩

theorem Succeeds.trans {name : String} (first : before.Succeeds between name)
    (second : between.Succeeds after name) : before.Succeeds after name where
  grows := Int.le_trans first.grows second.grows
  newer := by
    intro deleted id document found
    rcases second.newer found with old | later
    · exact first.newer old
    · exact .inr (Int.lt_of_le_of_lt first.grows later)

theorem Renews.succeeds {name : String} {document : Document}
    (renews : before.Renews after name document)
    (later : (before.live.collection name).latest < document.modified) (other : String) :
    before.Succeeds after other where
  grows := by
    rw [renews.latest]
    split
    · rename_i same
      rw [same]
      exact Int.le_of_lt later
    · exact Int.le_refl _
  newer := by
    intro deleted id found present
    rcases renews.of_find? present with ⟨rfl, _, _, rfl⟩ | old
    · exact .inr later
    · exact .inl old

theorem Change.succeeds {now : Epoch} {past stamps : List Stamp} (kept : before.Kept past)
    (change : Change now before stamps after) (unwrapped : Stamp.Unwrapped past)
    (name : String) : before.Succeeds after name := by
  obtain ⟨placed, epochs⟩ := kept
  obtain ⟨-, tracks, -⟩ := epochs unwrapped
  have later (other : String) :
      (before.live.collection other).latest < before.nextEpoch other now :=
    (tracks other).lt_after (unwrapped.epochsIn other) now
  cases change with
  | store other document revived =>
    exact (renews_store before other now revived).succeeds (later other) name
  | bury other id document found =>
    exact (renews_bury now found (placed.id_of_live found)).succeeds (later other) name
  | sweep olderThan other => exact ⟨Int.le_refl _, fun found => .inl (find?_of_sweep found)⟩

/-- As long as epochs do not start anew, whatever changes gets an epoch past those of before. -/
theorem Changes.succeeds {now : Epoch} {past stamps : List Stamp} (kept : before.Kept past)
    (changes : Changes now before stamps after) (unwrapped : Stamp.Unwrapped (past ++ stamps))
    (name : String) : before.Succeeds after name := by
  induction changes generalizing past with
  | refl holdings => exact .refl holdings name
  | cons first _ ih =>
    rw [← List.append_assoc] at unwrapped
    exact (first.succeeds kept unwrapped.left.left name).trans
      (ih (kept.change first) unwrapped)

/-- An epoch that a tombstone gets: it lies past the one that the collection had before, and
nothing else in the collection has it. -/
structure Fresh (before after : Holdings) (name id : String) (epoch : Epoch) : Prop where
  past : (before.live.collection name).latest < epoch
  bounded : epoch ≤ (after.live.collection name).latest
  alone : ∀ {deleted key document}, (after.shelf deleted).find? name key = some document →
    document.modified = epoch → deleted = true ∧ key = id

/-- What a deletion does: the documents that the path reaches are moved to the tombstones, each
under an epoch of its own, and nothing else changes. -/
structure Deletes (path : Path) (before after : Holdings) : Prop where
  buries : before.Buries path.Reaches after
  fresh : ∀ {name id tombstone}, path.Reaches name id →
    (before.live.find? name id).isSome = true →
    after.dead.find? name id = some tombstone → before.Fresh after name id tombstone.modified
  /-- There are fewer live documents, by as many as are moved. -/
  fewer : after.live.count + (before.reachedPlaces path.Reaches).length = before.live.count
  /-- Nothing is lost and nothing doubled. -/
  total : after.live.count + after.dead.count = before.live.count + before.dead.count

theorem Buries.deletes {path : Path} (buries : before.Buries path.Reaches after)
    (placed : before.Placed) (succeeds : ∀ name, before.Succeeds after name)
    (dated : after.Dated) : before.Deletes path after where
  buries := buries
  fresh := by
    intro name id tombstone reached isLive found
    have inTombstones : (after.shelf true).find? name id = some tombstone := found
    refine ⟨?_, dated.bounded inTombstones, fun here same => ?_⟩
    · rcases (succeeds name).newer inTombstones with old | later
      · -- No place had both a live document and a tombstone.
        rcases placed.disjoint name id with missing | missing
        · simp [missing] at isLive
        · simp [shelf, missing] at old
      · exact later
    · exact dated.distinct here inTombstones same
  fewer := (buries.counts placed).1
  total := by
    obtain ⟨fewer, more⟩ := buries.counts placed
    omega

end Holdings

namespace DocumentSession

/-! ## Deletions -/

variable (session : DocumentSession)

theorem placed_buryAt (placed : session.holdings.Placed) (path : Path) (now : Epoch) :
    (session.buryAt path now).2.holdings.Placed :=
  placed.changes (change_of_buryAt session path now)

theorem buries_buryAt (placed : session.holdings.Placed) (path : Path) (now : Epoch) :
    session.holdings.Buries (fun name id => name = path.collection ∧ id = path.documentId)
      (session.buryAt path now).2.holdings := by
  cases found : session.holdings.live.find? path.collection path.documentId with
  | none =>
    have nothing : (session.buryAt path now).2 = session := by simp [buryAt, found]
    rw [nothing]
    apply Holdings.Buries.refl
    rintro name id ⟨rfl, rfl⟩
    exact found
  | some document =>
    rw [(buryAt_some session now found).2.1]
    exact placed.buries_bury path.collection path.documentId now

theorem buries_buryBelow (placed : session.holdings.Placed) (path : Path) (now : Epoch) :
    session.holdings.Buries (fun name _ => isBelow path name = true)
      (session.buryBelow path now).holdings := by
  rw [(buryBelow_eq session path now).1]
  apply (placed.buries_buryKeys (session.keysBelow path) now).congr
  intro name id isLive
  rw [mem_keysBelow, and_iff_left isLive]

variable {session}

/-- A deletion that is carried out buries what it reaches. -/
theorem buries_delete (placed : session.holdings.Placed) {path : Path} (now : Epoch)
    {demanded : Bool} (carried : demanded = true → (session.find? path).isSome = true) :
    session.holdings.Buries path.Reaches (session.delete path now demanded).2.holdings := by
  rw [delete_snd now carried]
  have itself := session.buries_buryAt placed path now
  exact itself.trans (buries_buryBelow _ (session.placed_buryAt placed path now) path now)

theorem delete_fst (session : DocumentSession) (path : Path) (now : Epoch) (demanded : Bool) :
    (session.delete path now demanded).1 = (session.buryAt path now).1 := by
  unfold delete
  generalize session.buryAt path now = outcome
  obtain ⟨tombstone | tombstone, after⟩ := outcome
  · cases demanded <;> rfl
  · rfl

/-- What a deletion answers is the document of the path under the next epoch. -/
theorem delete_fst_of_live {path : Path} {document : Document} (now : Epoch) (demanded : Bool)
    (found : session.holdings.live.find? path.collection path.documentId = some document) :
    (session.delete path now demanded).1 = some { document with
      modified := session.holdings.nextEpoch path.collection now, deleted := true } :=
  (delete_fst session path now demanded).trans (buryAt_some session now found).1

theorem delete_fst_of_none {path : Path} (now : Epoch) (demanded : Bool)
    (missing : session.holdings.live.find? path.collection path.documentId = none) :
    (session.delete path now demanded).1 = none := by
  rw [delete_fst]
  simp [buryAt, missing]

/-- What a deletion answers is the tombstone that it leaves in the place of the path. -/
theorem dead_delete (placed : session.holdings.Placed) {path : Path} {now : Epoch}
    {demanded : Bool} {tombstone : Document}
    (answered : (session.delete path now demanded).1 = some tombstone) :
    (session.delete path now demanded).2.holdings.dead.find? path.collection path.documentId =
      some tombstone := by
  cases found : session.holdings.live.find? path.collection path.documentId with
  | none =>
    rw [delete_fst_of_none now demanded found] at answered
    cases answered
  | some document =>
    rw [delete_fst_of_live now demanded found] at answered
    cases answered
    have labelled : document.id = path.documentId := placed.id_of_live found
    have buried := Holdings.renews_bury now found labelled
    rw [← (buryAt_some session now found).2.1] at buried
    have live := buried.places false path.collection path.documentId
    have dead := buried.places true path.collection path.documentId
    rw [if_pos ⟨rfl, labelled.symm⟩] at live dead
    -- The place of the path is live no more when the places below are buried.
    have below := buries_buryBelow _ (session.placed_buryAt placed path now) path now
    have isLive : (session.find? path).isSome = true := Option.isSome_of_mem found
    rw [delete_snd now fun _ => isLive]
    refine (below.others (fun both => ?_) true).trans dead
    have gone : (session.buryAt path now).2.holdings.live.find? path.collection path.documentId =
      none := live
    rw [gone] at both
    cases both.2

/-- Deleting a live document answers its tombstone. -/
theorem run_delete_of_live (surroundings : Surroundings) {path : Path}
    (leaf : path.isNode = false) (isLive : (session.find? path).isSome = true) :
    ∃ tombstone, (session.delete path surroundings.now true).1 = some tombstone ∧
      session.run surroundings (.delete path) =
        .ok (.document tombstone, (session.delete path surroundings.now true).2) := by
  obtain ⟨document, found⟩ := Option.isSome_iff_exists.1 isLive
  refine ⟨_, delete_fst_of_live surroundings.now true found, ?_⟩
  have answered := delete_fst_of_live surroundings.now true found
  simp only [run, requireLeaf, leaf]
  generalize session.delete path surroundings.now true = outcome at answered ⊢
  obtain ⟨tombstone, after⟩ := outcome
  cases answered
  rfl

/-- What is not live is not found. -/
theorem run_delete_of_none (surroundings : Surroundings) {path : Path}
    (leaf : path.isNode = false)
    (missing : session.holdings.live.find? path.collection path.documentId = none) :
    session.run surroundings (.delete path) = .error (.notFound path.text, session) := by
  simp only [run, requireLeaf, leaf, delete_of_none surroundings.now missing]
  rfl

end DocumentSession

namespace SerialStore

variable {moves : List (Move documentEngine)} {client : String} {session after : DocumentSession}
  {surroundings : Surroundings} {op : DocumentOp} {answer : DocumentAnswer}

/-! ## One more operation -/

/-- An operation adds its stamps. -/
theorem stampHistory_run (opened : (fresh.play moves).session client = .ok session)
    (surroundings : Surroundings) (op : DocumentOp) :
    (stampHistory (moves ++ [.run client surroundings op])).all =
      (stampHistory moves).all ++ session.stamps surroundings op := by
  rw [stampHistory_concat]
  simp only [noted, opened, History.all, List.append_assoc]

/-- The store after an operation that succeeds holds what the session does. -/
theorem holdings_play_run (opened : (fresh.play moves).session client = .ok session)
    (ran : session.run surroundings op = .ok (answer, after)) :
    (fresh.play (moves ++ [.run client surroundings op])).holdings = after.holdings := by
  have worked : documentEngine.run session surroundings op = .ok (answer, after) := ran
  rw [play_concat, step_of_run (run_of_ok opened worked)]
  exact holdings_of_session (session_with_lock opened after)

/-- The size that a client reads is the number of live documents. -/
theorem run_size {store : SerialStore documentEngine} (opened : store.session client = .ok session)
    (surroundings : Surroundings) :
    store.run client surroundings .size = .ok (.number store.holdings.live.count, store) := by
  have read : documentEngine.run session surroundings .size =
      .ok (.number session.holdings.live.count, session) := rfl
  rw [run_of_ok opened read, with_lock_of_session opened, holdings_of_session opened]

/-! ## What a deletion does -/

/-- Deleting a leaf path whose document is live answers the tombstone of the document, moves
what the path reaches to the tombstones and changes nothing else; the number of live documents
that is told falls by what is moved.  Where the document is not live the deletion gives back the
session that it was called on, journals included, and is refused by a store that stays as it is. -/
theorem delete_buries_reached (opened : (fresh.play moves).session client = .ok session)
    (surroundings : Surroundings) {path : Path} (leaf : path.isNode = false)
    (clock : ∀ move ∈ moves ++ [.run client surroundings (.delete path)],
      ∀ reading ∈ move.reading?, reading.millis < 2 ^ 62)
    (few : (stampHistory (moves ++ [.run client surroundings (.delete path)])).all.length <
      2 ^ 62) :
    let store := fresh.play moves
    ((store.holdings.live.find? path.collection path.documentId).isSome = true →
      ∃ tombstone after,
        store.run client surroundings (.delete path) = .ok (.document tombstone, after) ∧
          after.holdings.dead.find? path.collection path.documentId = some tombstone ∧
          store.holdings.Deletes path after.holdings ∧
          ∀ later, store.run client later .size = .ok (.number store.holdings.live.count, store) ∧
            after.run client later .size = .ok (.number after.holdings.live.count, after)) ∧
    (store.holdings.live.find? path.collection path.documentId = none →
      session.delete path surroundings.now true = (none, session) ∧
        store.run client surroundings (.delete path) =
          .error (.store (.notFound path.text), store) ∧
        store.step (.run client surroundings (.delete path)) = store) := by
  intro store
  have current : store.holdings = session.holdings := holdings_of_session opened
  have kept : store.holdings.Kept (stampHistory moves).all := kept_play moves
  have sound := sound_play _ clock few
  have unwrapped := unwrapped_play clock few
  rw [current] at kept ⊢
  constructor
  · intro isLive
    obtain ⟨tombstone, answered, ran⟩ :=
      DocumentSession.run_delete_of_live surroundings leaf isLive
    rw [holdings_play_run opened ran] at sound
    rw [stampHistory_run opened] at unwrapped
    have changes := DocumentSession.change_of_run ran DocumentOp.noConfusion
    have buries : session.holdings.Buries path.Reaches
        (session.delete path surroundings.now true).2.holdings :=
      DocumentSession.buries_delete kept.1 surroundings.now fun _ => isLive
    have deletes := buries.deletes kept.1 (changes.succeeds kept unwrapped) sound.toDated
    have reopened := session_with_lock opened (session.delete path surroundings.now true).2
    refine ⟨tombstone, _, run_of_ok opened ran, DocumentSession.dead_delete kept.1 answered,
      deletes, fun later => ⟨?_, run_size reopened later⟩⟩
    rw [← current]
    exact run_size opened later
  · intro missing
    have worked : documentEngine.run session surroundings (.delete path) =
        .error (.notFound path.text, session) :=
      DocumentSession.run_delete_of_none surroundings leaf missing
    have refused : store.run client surroundings (.delete path) =
        .error (.store (.notFound path.text), store) := by
      rw [run_of_error opened worked, with_lock_of_session opened]
    exact ⟨DocumentSession.delete_of_none surroundings.now missing, refused,
      step_of_run_error refused⟩

/-- Under a clock that goes back, a bucket is deleted with the group in it.  The group of a bucket
whose name begins like its own stays, and a second deletion finds nothing. -/
theorem delete_buries_reached_in_bucket :
    let here (millis : Int) : Surroundings := ⟨⟨millis⟩, fun _ => "x"⟩
    let bucket : Path := ⟨"/buckets/b"⟩
    let moves : List (Move documentEngine) :=
      [.begin "c", .run "c" (here 7) (.create ⟨"/buckets/*"⟩ (Document.withId "b")),
        .run "c" (here 6) (.create ⟨"/buckets/b/groups/*"⟩ (Document.withId "g")),
        .run "c" (here 6) (.create ⟨"/buckets/bb/groups/*"⟩ (Document.withId "g")),
        .commit "c", .begin "d"]
    let store := fresh.play moves
    let later := store.step (.run "d" (here 2) (.delete bucket))
    (store.holdings.reachedPlaces bucket.Reaches =
        [("/buckets", "b"), ("/buckets/b/groups", "g")] ∧
      ∃ tombstone after,
        store.run "d" (here 2) (.delete bucket) = .ok (.document tombstone, after) ∧
          store.holdings.Deletes bucket after.holdings ∧
          (after.holdings.live.find? "/buckets/bb/groups" "g").isSome = true) ∧
      later.run "d" (here 2) (.delete bucket) =
        .error (.store (.notFound "/buckets/b"), later) := by
  intro here bucket moves store later
  let deletion : Move documentEngine := .run "d" (here 2) (.delete bucket)
  have leaf : bucket.isNode = false := by decide
  have clock : ∀ move ∈ (moves ++ [deletion]) ++ [deletion], ∀ reading ∈ move.reading?,
      reading.millis < 2 ^ 62 := by
    simp [moves, deletion, here, Move.reading?]
  have fewFirst : (stampHistory (moves ++ [deletion])).all.length < 2 ^ 62 := by decide +kernel
  have fewSecond : (stampHistory ((moves ++ [deletion]) ++ [deletion])).all.length < 2 ^ 62 := by
    decide +kernel
  have isOpen : (store.session "d").isOk = true := by decide +kernel
  have stillOpen : ((fresh.play (moves ++ [deletion])).session "d").isOk = true := by
    decide +kernel
  constructor
  · cases opened : store.session "d" with
    | error error =>
      rw [opened] at isOpen
      cases isOpen
    | ok session =>
      have isLive : (store.holdings.live.find? bucket.collection bucket.documentId).isSome =
          true := by decide +kernel
      have neighbour : (store.holdings.live.find? "/buckets/bb/groups" "g").isSome = true := by
        decide +kernel
      have spared : ¬ bucket.Reaches "/buckets/bb/groups" "g" := by decide +kernel
      obtain ⟨tombstone, after, ran, _, deletes, _⟩ := (delete_buries_reached opened (here 2) leaf
        (fun move member => clock move (List.mem_append_left _ member)) fewFirst).1 isLive
      refine ⟨by decide +kernel, tombstone, after, ran, deletes, ?_⟩
      exact (deletes.buries.live_isSome_iff _ _).2 ⟨neighbour, spared⟩
  · cases opened : (fresh.play (moves ++ [deletion])).session "d" with
    | error error =>
      rw [opened] at stillOpen
      cases stillOpen
    | ok session =>
      have gone : (fresh.play (moves ++ [deletion])).holdings.live.find? bucket.collection
          bucket.documentId = none := by
        rw [← Option.not_isSome_iff_eq_none]
        decide +kernel
      have played : later = fresh.play (moves ++ [deletion]) := (play_concat _ _ _).symm
      obtain ⟨_, refused, _⟩ := (delete_buries_reached opened (here 2) leaf clock fewSecond).2 gone
      rw [played]
      exact refused

end SerialStore
end DocStore
