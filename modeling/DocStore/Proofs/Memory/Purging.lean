import DocStore.Proofs.Memory.Creation
import DocStore.Proofs.Memory.Onward

/-!
# Purges

A purge takes away the tombstones that its cut-off leaves behind: with a cut-off below one these
are all of them, with any other one those that are older.  It counts them and leaves everything
else, the latest epochs of the collections included, so what is created afterwards still gets an
epoch past those of the tombstones that are gone.  A second purge with a later cut-off leaves what
it would have left without the first one (`SerialStore.purges_expired`).
-/

namespace DocStore

/-- Whether a cut-off leaves a tombstone behind. -/
def Epoch.Outdates (olderThan : Epoch) (tombstone : Document) : Prop :=
  olderThan.millis < 1 ∨ tombstone.modified < olderThan

instance (olderThan : Epoch) (tombstone : Document) : Decidable (olderThan.Outdates tombstone) :=
  inferInstanceAs (Decidable (_ ∨ _))

theorem DocumentSession.survives_iff {olderThan : Epoch} {tombstone : Document} :
    survives olderThan tombstone = true ↔ ¬ olderThan.Outdates tombstone := by
  have split : olderThan ≤ tombstone.modified ↔ ¬ tombstone.modified < olderThan := by
    rw [Epoch.le_iff, Epoch.lt_iff, Int.not_lt]
  simp [survives, Epoch.isZero, Epoch.Outdates, split]

theorem DocumentSession.not_survives (olderThan : Epoch) (tombstone : Document) :
    (!survives olderThan tombstone) = decide (olderThan.Outdates tombstone) := by
  rw [Bool.eq_iff_iff, Bool.not_eq_true', ← Bool.not_eq_true, survives_iff, not_not,
    decide_eq_true_eq]

/-- A later cut-off leaves behind what an earlier one does, unless the earlier one takes all. -/
theorem Epoch.Outdates.mono {olderThan later : Epoch} {tombstone : Document}
    (positive : 1 ≤ olderThan.millis) (le : olderThan ≤ later)
    (outdated : olderThan.Outdates tombstone) : later.Outdates tombstone := by
  rw [Epoch.le_iff] at le
  unfold Outdates at outdated ⊢
  rw [Epoch.lt_iff] at outdated ⊢
  omega

namespace Holdings

/-- What a purge does: the tombstones that the cut-off leaves behind are gone and counted, and
nothing else changes. -/
structure Purges (olderThan : Epoch) (before after : Holdings) (count : Nat) : Prop where
  /-- The tombstones that are left are those of before that the cut-off does not leave behind. -/
  left : ∀ name id tombstone, after.dead.find? name id = some tombstone ↔
    before.dead.find? name id = some tombstone ∧ ¬ olderThan.Outdates tombstone
  /-- The count is that of the others. -/
  counted : count = before.dead.contents.countP fun entry => olderThan.Outdates entry.2
  /-- Together they are the tombstones of before. -/
  total : after.dead.count + count = before.dead.count
  /-- The live documents stay, and the latest epochs of all collections. -/
  live : after.live = before.live

/-- The tombstones that a purge leaves, as a list of the tombstones before. -/
theorem contents_perm_filter {before after : Holdings} {keep : Document → Bool}
    (placed : before.Placed) (placedAfter : after.Placed)
    (left : ∀ name id, after.dead.find? name id = (before.dead.find? name id).filter keep) :
    after.dead.contents.Perm (before.dead.contents.filter fun entry => keep entry.2) := by
  refine (List.perm_ext_iff_of_nodup (placedAfter.nodup_shelf true)
    ((placed.nodup_shelf true).filter _)).2 ?_
  rintro ⟨name, document⟩
  have before := before.dead.mem_contents name document
  have after := after.dead.mem_contents name document
  simp only [left, Option.filter_eq_some_iff] at after
  simp only [shelf, if_true, List.mem_filter]
  rw [before, after, exists_and_right]

end Holdings

namespace DocumentSession

variable {session : DocumentSession} {olderThan later : Epoch}

/-- Purging does what it says. -/
theorem purges_purge (placed : session.holdings.Placed) (olderThan : Epoch) :
    session.holdings.Purges olderThan (session.purge olderThan).2.holdings
      (session.purge olderThan).1 := by
  obtain ⟨count, live, left⟩ := session.purge_eq olderThan
  have placedAfter := placed.changes (change_of_purge session olderThan Epoch.zero)
  refine ⟨fun name id tombstone => ?_, ?_, ?_, live⟩
  · rw [left, Option.filter_eq_some_iff, survives_iff]
  · simpa only [not_survives] using count
  · have remaining := (Holdings.contents_perm_filter placed placedAfter left).length_eq
    have parts := List.length_eq_length_filter_add (l := session.holdings.dead.contents)
      fun entry => survives olderThan entry.2
    rw [← Shelf.length_contents, ← Shelf.length_contents, remaining, count, parts,
      List.countP_eq_length_filter]

/-! ## Repeated purges -/

/-- A collection of tombstones without those that a purge takes away. -/
def remnant (olderThan : Epoch) (collection : Collection) : Collection :=
  { collection with
    documents := collection.documents.filter fun _ tombstone => survives olderThan tombstone }

/-- What a purge leaves of a collection of tombstones, unless that is nothing. -/
def left? (olderThan : Epoch) (collection : Collection) : Option Collection :=
  if (remnant olderThan collection).isEmpty then none else some (remnant olderThan collection)

/-- A purge of what another one left, with a cut-off that leaves behind what that of the other one
does. -/
theorem remnant_remnant (mono : ∀ tombstone, survives later tombstone = true →
    survives olderThan tombstone = true) (collection : Collection) :
    remnant later (remnant olderThan collection) = remnant later collection := by
  suffices documents : (remnant olderThan collection).documents.filter
      (fun _ tombstone => survives later tombstone) = collection.documents.filter
        fun _ tombstone => survives later tombstone by
    simp only [remnant] at documents ⊢
    rw [documents]
  refine Dict.ext fun id => ?_
  simp only [remnant, Dict.find?_filter, Option.filter_filter]
  refine congrArg (Option.filter · _) (funext fun tombstone => ?_)
  cases kept : survives later tombstone with
  | false => rw [Bool.and_false]
  | true => rw [Bool.and_true, mono tombstone kept]

theorem isEmpty_remnant {collection : Collection} (empty : collection.isEmpty = true)
    (olderThan : Epoch) : (remnant olderThan collection).isEmpty = true := by
  rw [Collection.isEmpty, Dict.isEmpty_iff] at empty ⊢
  intro id
  rw [remnant, Dict.find?_filter, empty id]
  rfl

theorem left?_bind (mono : ∀ tombstone, survives later tombstone = true →
    survives olderThan tombstone = true) (collection : Collection) :
    (left? olderThan collection).bind (left? later) = left? later collection := by
  have again := remnant_remnant mono collection
  unfold left?
  split
  · rename_i empty
    have nothing := isEmpty_remnant empty later
    rw [again] at nothing
    rw [if_pos nothing]
    rfl
  · rw [Option.bind_some, again]

/-- What a session has noted of a collection of tombstones after it touched it. -/
def notedDead (session : DocumentSession) (name : String) : Option (Option Collection) :=
  if session.flushed.isSome then session.deadJournal.find? name
  else some ((session.deadJournal.find? name).getD (Dict.find? session.holdings.dead name))

theorem find?_touchDead (session : DocumentSession) (name other : String) :
    (session.touchDead name).deadJournal.find? other =
      if other = name then session.notedDead name else session.deadJournal.find? other := by
  unfold touchDead notedDead
  split
  · split
    · rename_i same
      rw [same]
    · rfl
  · exact Journal.find?_record _ _ _ _

/-- A session with other tombstones and other notes on them. -/
def withDead (session : DocumentSession) (dead : Shelf) (journal : Journal Collection) :
    DocumentSession :=
  { session with
    holdings := { session.holdings with dead := dead }
    deadJournal := journal }

/-- How a purge works on a session: it notes what the collections of tombstones were and keeps
what is left of them.  The rest of the session stays. -/
structure Sweeps (olderThan : Epoch) (names : List String) (before after : DocumentSession) :
    Prop where
  rest : after = before.withDead after.holdings.dead after.deadJournal
  swept : ∀ name ∈ names,
    Dict.find? after.holdings.dead name = left? olderThan (before.holdings.dead.collection name) ∧
      after.deadJournal.find? name = before.notedDead name
  others : ∀ name, name ∉ names →
    Dict.find? after.holdings.dead name = Dict.find? before.holdings.dead name ∧
      after.deadJournal.find? name = before.deadJournal.find? name

theorem Sweeps.flushed {names : List String} {before after : DocumentSession}
    (sweeps : Sweeps olderThan names before after) : after.flushed = before.flushed := by
  rw [sweeps.rest]
  rfl

theorem Sweeps.withDead {names : List String} {before after : DocumentSession}
    (sweeps : Sweeps olderThan names before after) (dead : Shelf) (journal : Journal Collection) :
    after.withDead dead journal = before.withDead dead journal := by
  rw [sweeps.rest]
  rfl

theorem sweeps_purgeCollection (olderThan : Epoch) (progress : Nat × DocumentSession)
    (name : String) :
    Sweeps olderThan [name] progress.2 (purgeCollection olderThan progress name).2 := by
  have dead (other : String) := Shelf.dict_find?_place progress.2.holdings.dead name other
    (remnant olderThan (progress.2.holdings.dead.collection name))
  have noted (other : String) := find?_touchDead progress.2 name other
  refine ⟨?_, fun other here => ?_, fun other elsewhere => ?_⟩
  · obtain ⟨_, ⟨_, _, _, _ | _, _⟩⟩ := progress <;> rfl
  · rw [List.mem_singleton.1 here, holdings_purgeCollection]
    exact ⟨(dead name).trans (if_pos rfl), (noted name).trans (if_pos rfl)⟩
  · rw [List.mem_singleton] at elsewhere
    rw [holdings_purgeCollection]
    exact ⟨(dead other).trans (if_neg elsewhere), (noted other).trans (if_neg elsewhere)⟩

/-- A purge of one collection and then of others. -/
theorem Sweeps.cons {name : String} {rest : List String} {before between after : DocumentSession}
    (absent : name ∉ rest) (first : Sweeps olderThan [name] before between)
    (second : Sweeps olderThan rest between after) :
    Sweeps olderThan (name :: rest) before after := by
  have sameFlushed := first.flushed
  have same {other : String} (different : other ≠ name) :=
    first.others other (mt List.mem_singleton.1 different)
  refine ⟨second.rest.trans (first.withDead _ _), fun other member => ?_, fun other elsewhere => ?_⟩
  · by_cases here : other = name
    · have kept := second.others name absent
      have swept := first.swept name (List.mem_singleton_self name)
      rw [here]
      exact ⟨kept.1.trans swept.1, kept.2.trans swept.2⟩
    · have swept := second.swept other ((List.mem_cons.1 member).resolve_left here)
      have earlier := same here
      unfold notedDead Shelf.collection at swept ⊢
      rwa [earlier.1, earlier.2, sameFlushed] at swept
  · rw [List.mem_cons, not_or] at elsewhere
    have kept := second.others other elsewhere.2
    have earlier := same elsewhere.1
    exact ⟨kept.1.trans earlier.1, kept.2.trans earlier.2⟩

/-- How a purge works on a session. -/
theorem sweeps_purge (session : DocumentSession) (olderThan : Epoch) :
    Sweeps olderThan session.holdings.dead.keys session (session.purge olderThan).2 := by
  suffices general : ∀ (names : List String), names.Nodup → ∀ progress : Nat × DocumentSession,
      Sweeps olderThan names progress.2 (names.foldl (purgeCollection olderThan) progress).2 from
    general _ (Dict.nodup_keys session.holdings.dead) (0, session)
  intro names
  induction names with
  | nil =>
    intro _ progress
    refine ⟨rfl, fun name member => ?_, fun _ _ => ⟨rfl, rfl⟩⟩
    cases member
  | cons name rest ih =>
    intro nodup progress
    obtain ⟨absent, others⟩ := List.nodup_cons.1 nodup
    exact (sweeps_purgeCollection olderThan progress name).cons absent (ih others _)

/-- What was noted once is not noted again. -/
theorem notedDead_of_noted {before after : DocumentSession} {name : String}
    (sameFlushed : after.flushed = before.flushed)
    (noted : after.deadJournal.find? name = before.notedDead name) :
    after.notedDead name = before.notedDead name := by
  unfold notedDead at noted ⊢
  rw [sameFlushed, noted]
  split
  · rfl
  · rfl

/-- What a purge leaves of a collection of tombstones, by the name of the collection. -/
theorem find?_dead_purge (session : DocumentSession) (olderThan : Epoch) (name : String) :
    Dict.find? (session.purge olderThan).2.holdings.dead name =
      (Dict.find? session.holdings.dead name).bind (left? olderThan) := by
  have sweeps := session.sweeps_purge olderThan
  cases found : Dict.find? session.holdings.dead name with
  | none =>
    have absent : name ∉ session.holdings.dead.keys := by
      simp [Dict.mem_keys_iff, Dict.contains, found]
    rw [(sweeps.others name absent).1, found]
    rfl
  | some collection =>
    have present : name ∈ session.holdings.dead.keys := by
      simp [Dict.mem_keys_iff, Dict.contains, found]
    rw [(sweeps.swept name present).1, Shelf.collection, found]
    rfl

/-- What a session has noted after a purge. -/
theorem find?_deadJournal_purge (session : DocumentSession) (olderThan : Epoch) (name : String) :
    (session.purge olderThan).2.deadJournal.find? name =
      if (Dict.find? session.holdings.dead name).isSome then session.notedDead name
      else session.deadJournal.find? name := by
  have sweeps := session.sweeps_purge olderThan
  have member := Dict.mem_keys_iff session.holdings.dead name
  rw [Dict.contains] at member
  split
  · rename_i present
    exact (sweeps.swept name (member.2 present)).2
  · rename_i absent
    exact (sweeps.others name (mt member.1 absent)).2

/-- A second purge with a later cut-off leaves the session as if the first one had not been. -/
theorem purge_purge (session : DocumentSession) (mono : ∀ tombstone,
    survives later tombstone = true → survives olderThan tombstone = true) :
    ((session.purge olderThan).2.purge later).2 = (session.purge later).2 := by
  have first := session.sweeps_purge olderThan
  have second := (session.purge olderThan).2.sweeps_purge later
  have dead : ((session.purge olderThan).2.purge later).2.holdings.dead =
      (session.purge later).2.holdings.dead := by
    refine Dict.ext fun name => ?_
    rw [find?_dead_purge, find?_dead_purge, find?_dead_purge, Option.bind_assoc]
    exact congrArg _ (funext (left?_bind mono))
  have noted : ((session.purge olderThan).2.purge later).2.deadJournal =
      (session.purge later).2.deadJournal := by
    refine Dict.ext fun name => ?_
    have once := find?_deadJournal_purge session olderThan name
    rw [find?_deadJournal_purge, find?_deadJournal_purge session later, find?_dead_purge]
    cases present : Dict.find? session.holdings.dead name with
    | none =>
      rw [present] at once
      exact once
    | some collection =>
      rw [present, Option.isSome_some, if_pos rfl] at once
      rw [notedDead_of_noted first.flushed once, once, Option.isSome_some, if_pos rfl]
      exact ite_self _
  rw [second.rest, first.withDead, dead, noted, ← (session.sweeps_purge later).rest]

/-- Both purges together count what the later one counts alone. -/
theorem purge_purge_fst (placed : session.holdings.Placed) (mono : ∀ tombstone,
    survives later tombstone = true → survives olderThan tombstone = true) :
    (session.purge olderThan).1 + ((session.purge olderThan).2.purge later).1 =
      (session.purge later).1 := by
  have placedAfter := placed.changes (change_of_purge session olderThan Epoch.zero)
  have first := (purges_purge placed olderThan).total
  have second := (purges_purge placedAfter later).total
  have alone := (purges_purge placed later).total
  rw [session.purge_purge mono] at second
  omega

end DocumentSession

namespace SerialStore

variable {store : SerialStore documentEngine} {client : String} {session : DocumentSession}

theorem run_purge (opened : store.session client = .ok session) (surroundings : Surroundings)
    (olderThan : Epoch) : store.run client surroundings (.purge olderThan) =
      .ok (.number ↑(session.purge olderThan).1,
        { store with lock := .held client (session.purge olderThan).2 }) :=
  run_of_ok opened rfl

/-- A purge in an open transaction takes away the tombstones that its cut-off leaves behind,
counts them and changes nothing else.  A second one with a later cut-off leaves the store that it
leaves alone, and together they count what it counts alone.  As long as nothing is taken back,
what is created afterwards has an epoch past that of every tombstone that its collection had. -/
theorem purges_expired (moves : List (Move documentEngine))
    (opened : (fresh.play moves).session client = .ok session) (surroundings : Surroundings)
    (olderThan : Epoch) :
    let store := fresh.play moves
    let purge : Move documentEngine := .run client surroundings (.purge olderThan)
    ∃ (count : Nat) (after : SerialStore documentEngine),
      store.run client surroundings (.purge olderThan) = .ok (.number count, after) ∧
      store.holdings.Purges olderThan after.holdings count ∧
      (∀ again later, 1 ≤ olderThan.millis → olderThan ≤ later →
        ∃ (more : Nat) (last : SerialStore documentEngine),
          after.run client again (.purge later) = .ok (.number more, last) ∧
          ∀ alone, store.run client alone (.purge later) =
            .ok (.number ↑(count + more), last)) ∧
      ∀ further, after.Onward further →
        (∀ move ∈ moves ++ purge :: further, ∀ reading ∈ move.reading?,
          reading.millis < 2 ^ 62) →
        (stampHistory (moves ++ purge :: further)).all.length < 2 ^ 62 →
        ∀ creator here path document stored last,
          (after.play further).run creator here (.create path document) =
            .ok (.document stored, last) →
          ∀ id tombstone, store.holdings.dead.find? path.collection id = some tombstone →
            tombstone.modified < stored.modified := by
  intro store purge
  have current : store.holdings = session.holdings := holdings_of_session opened
  have placed : session.holdings.Placed := current ▸ (kept_play moves).1
  have ran := run_purge opened surroundings olderThan
  have reopened := session_with_lock opened (session.purge olderThan).2
  refine ⟨_, _, ran, ?_, fun again later positive le => ?_, fun further onward clock few creator
    here path document stored last created id tombstone found => ?_⟩
  · rw [current, holdings_of_session reopened]
    exact DocumentSession.purges_purge placed olderThan
  · have mono (tombstone : Document) (left : DocumentSession.survives later tombstone = true) :
        DocumentSession.survives olderThan tombstone = true := by
      rw [DocumentSession.survives_iff] at left ⊢
      exact mt (Epoch.Outdates.mono positive le) left
    refine ⟨_, _, run_purge reopened again later, fun alone => ?_⟩
    rw [run_purge opened alone later, session.purge_purge mono,
      DocumentSession.purge_purge_fst placed mono]
  · have played : store.step purge =
        { store with lock := .held client (session.purge olderThan).2 } := step_of_run ran
    have joined : (fresh.play (moves ++ purge :: further)) = (store.step purge).play further :=
      play_append fresh moves (purge :: further)
    rw [← played] at onward created
    rw [← joined] at created
    have inTombstones : (store.holdings.shelf true).find? path.collection id = some tombstone :=
      found
    have alsoPurge : store.Onward (purge :: further) := ⟨rfl, onward⟩
    exact lt_of_created alsoPurge (unwrapped_play clock few) created inTombstones

/-- Two of three tombstones are purged, with them the last one of a collection, and the third one is
left to a second purge.  Without that the transaction is committed, its client gives it up, and
under a clock that goes back another one creates a document in the place of a tombstone that is
gone. -/
theorem purges_expired_past_commit :
    let here (millis : Int) : Surroundings := ⟨⟨millis⟩, fun _ => ""⟩
    let moves : List (Move documentEngine) :=
      [.begin "c", .run "c" (here 7) (.create ⟨"/a/*"⟩ (Document.withId "one")),
        .run "c" (here 7) (.create ⟨"/a/*"⟩ (Document.withId "two")),
        .run "c" (here 7) (.create ⟨"/b/*"⟩ (Document.withId "three")),
        .run "c" (here 7) (.delete ⟨"/a/one"⟩), .run "c" (here 7) (.delete ⟨"/a/two"⟩),
        .run "c" (here 7) (.delete ⟨"/b/three"⟩), .commit "c", .begin "d"]
    let further : List (Move documentEngine) := [.commit "d", .drop "d", .begin "e"]
    let store := fresh.play moves
    ∃ after, store.run "d" (here 0) (.purge ⟨10⟩) = .ok (.number 2, after) ∧
      store.holdings.Purges ⟨10⟩ after.holdings 2 ∧
      (∃ (more : Nat) (last : SerialStore documentEngine),
        after.run "d" (here 0) (.purge ⟨11⟩) = .ok (.number more, last) ∧
        store.run "d" (here 0) (.purge ⟨11⟩) = .ok (.number ↑(2 + more), last)) ∧
      ∃ stored last, (after.play further).run "e" (here (-3))
          (.create ⟨"/a/*"⟩ (Document.withId "one")) = .ok (.document stored, last) ∧
        ∀ id tombstone, store.holdings.dead.find? "/a" id = some tombstone →
          tombstone.modified < stored.modified := by
  intro here moves further store
  have isOpen : (store.session "d").isOk = true := by decide +kernel
  have two :
      (store.holdings.dead.contents.countP fun entry => Epoch.Outdates ⟨10⟩ entry.2) = 2 := by
    decide +kernel
  cases opened : store.session "d" with
  | error error =>
    rw [opened] at isOpen
    cases isOpen
  | ok session =>
    obtain ⟨count, after, ran, purges, again, past⟩ :=
      purges_expired moves opened (here 0) ⟨10⟩
    have counted : count = 2 := purges.counted.trans two
    subst counted
    let purge : Move documentEngine := .run "d" (here 0) (.purge ⟨10⟩)
    have played : store.step purge = after := step_of_run ran
    have onward : (store.step purge).Onward further :=
      ⟨by decide +kernel, by decide +kernel, by decide +kernel, trivial⟩
    have clock : ∀ move ∈ moves ++ purge :: further, ∀ reading ∈ move.reading?,
        reading.millis < 2 ^ 62 := by
      simp [moves, purge, further, here, Move.reading?]
    have few : (stampHistory (moves ++ purge :: further)).all.length < 2 ^ 62 := by decide +kernel
    have stillOpen : (((store.step purge).play further).session "e").isOk = true := by
      decide +kernel
    have free :
        (((store.step purge).play further).holdings.live.find? "/a" "one").isNone = true := by
      decide +kernel
    rw [played] at onward stillOpen free
    cases reopened : (after.play further).session "e" with
    | error error =>
      rw [reopened] at stillOpen
      cases stillOpen
    | ok later =>
      have node : (⟨"/a/*"⟩ : Path).isNode = true := by decide
      have named : (Document.withId "one").id.isEmpty = false := by decide
      obtain ⟨stored, last, created, _⟩ := run_create_of_free reopened (here (-3)) node named
        (Option.isNone_iff_eq_none.1 free)
      obtain ⟨more, final, second, alone⟩ := again (here 0) ⟨11⟩ (by decide) (by decide)
      exact ⟨after, ran, purges, ⟨more, final, second, alone (here 0)⟩, stored, last, created,
        past further onward clock few "e" (here (-3)) ⟨"/a/*"⟩ _ stored last created⟩

end SerialStore
end DocStore
