import DocStore.Proofs.Memory.Deletion

/-!
# Deletions of several paths

Deleting several paths buries what any of the leaf paths reaches, so the live documents and,
apart from their epochs, the tombstones that are left depend on the set of leaf paths alone.
The answer names some of the leaf paths, in order and each once: those whose document was still
live when their turn came.  It comes with the greatest epoch of the tombstones of these paths.
`SerialStore.bulk_deletion_by_set` states both.
-/

namespace DocStore

namespace Epoch

/-- The greatest of zero and some epochs. -/
def greatest (epochs : List Epoch) : Epoch := epochs.foldr Epoch.max zero

theorem max_eq_or (left right : Epoch) : left.max right = left ∨ left.max right = right := by
  unfold Epoch.max
  split
  · exact .inr rfl
  · exact .inl rfl

theorem le_max_left (left right : Epoch) : left ≤ left.max right := by
  unfold Epoch.max
  split
  · assumption
  · exact Int.le_refl _

theorem le_max_right (left right : Epoch) : right ≤ left.max right := by
  unfold Epoch.max
  split
  · exact Int.le_refl _
  · rename_i larger
    rw [le_iff] at larger ⊢
    omega

theorem le_greatest {epochs : List Epoch} {epoch : Epoch} (member : epoch ∈ epochs) :
    epoch ≤ greatest epochs := by
  induction epochs with
  | nil => cases member
  | cons first rest ih =>
    rcases List.mem_cons.1 member with rfl | later
    · exact le_max_left epoch (greatest rest)
    · exact Int.le_trans (ih later) (le_max_right first (greatest rest))

/-- The greatest of some epochs is one of them, unless it is zero. -/
theorem greatest_mem (epochs : List Epoch) : greatest epochs = zero ∨ greatest epochs ∈ epochs := by
  induction epochs with
  | nil => exact .inl rfl
  | cons first rest ih =>
    rcases max_eq_or first (greatest rest) with own | later
    · exact .inr (List.mem_cons.2 (.inl own))
    · rw [greatest, List.foldr_cons, ← greatest, later]
      exact ih.imp_right (List.mem_cons_of_mem first)

/-- The greatest of some epochs, none of them negative, is one of them. -/
theorem greatest_mem_of_nonneg {epochs : List Epoch} (some : epochs ≠ [])
    (nonneg : ∀ epoch ∈ epochs, 0 ≤ epoch.millis) : greatest epochs ∈ epochs := by
  rcases greatest_mem epochs with blank | member
  · obtain ⟨first, rest, rfl⟩ := List.exists_cons_of_ne_nil some
    have least := nonneg first List.mem_cons_self
    have bound : first ≤ greatest (first :: rest) := le_greatest List.mem_cons_self
    rw [blank, le_iff] at bound
    have same : first = zero := by
      cases first
      simp only [zero, Epoch.mk.injEq] at bound least ⊢
      omega
    rw [blank, ← same]
    exact List.mem_cons_self
  · exact member

end Epoch

/-- The document without its epoch. -/
def Document.undated (document : Document) : Document := { document with modified := Epoch.zero }

/-- Two lists have the same leaf paths, in any order and any number. -/
def SameLeaves (paths others : List Path) : Prop :=
  ∀ path, path.isNode = false → (path ∈ paths ↔ path ∈ others)

/-- One of the leaf paths reaches the place. -/
def ReachedByAny (paths : List Path) (name id : String) : Prop :=
  ∃ path ∈ paths, path.isNode = false ∧ path.Reaches name id

theorem SameLeaves.reachedByAny_iff {paths others : List Path} (same : SameLeaves paths others)
    (name id : String) : ReachedByAny paths name id ↔ ReachedByAny others name id := by
  constructor
  · rintro ⟨path, member, leaf, reaches⟩
    exact ⟨path, (same path leaf).1 member, leaf, reaches⟩
  · rintro ⟨path, member, leaf, reaches⟩
    exact ⟨path, (same path leaf).2 member, leaf, reaches⟩

namespace Holdings

variable {Reached : String → String → Prop} {before after later : Holdings}

/-- The same live documents and, apart from their epochs, the same tombstones. -/
structure Alike (left right : Holdings) : Prop where
  live : ∀ name id, left.live.find? name id = right.live.find? name id
  dead : ∀ name id, (left.dead.find? name id).map Document.undated =
    (right.dead.find? name id).map Document.undated

/-- What is buried determines the live documents that are left and, apart from their epochs, the
tombstones. -/
theorem Buries.alike (one : before.Buries Reached after) (other : before.Buries Reached later) :
    after.Alike later where
  live := by
    intro name id
    by_cases moves : Reached name id ∧ (before.live.find? name id).isSome = true
    · obtain ⟨document, found⟩ := Option.isSome_iff_exists.1 moves.2
      rw [(one.moved moves.1 found).1, (other.moved moves.1 found).1]
    · exact (one.others moves false).trans (other.others moves false).symm
  dead := by
    intro name id
    by_cases moves : Reached name id ∧ (before.live.find? name id).isSome = true
    · obtain ⟨document, found⟩ := Option.isSome_iff_exists.1 moves.2
      obtain ⟨_, epoch, tombstone⟩ := one.moved moves.1 found
      obtain ⟨_, second, otherTombstone⟩ := other.moved moves.1 found
      rw [tombstone, otherTombstone]
      rfl
    · have same : after.dead.find? name id = later.dead.find? name id :=
        (one.others moves true).trans (other.others moves true).symm
      rw [same]

/-- The answer to a deletion of several paths. -/
structure AnswersDeletion (before after : Holdings) (paths deleted : List Path) (latest : Epoch) :
    Prop where
  /-- The paths that are answered are leaf paths of the list, in its order. -/
  sublist : deleted.Sublist (paths.filter fun path => !path.isNode)
  /-- None is answered twice. -/
  nodup : deleted.Nodup
  /-- Their documents were live. -/
  live : ∀ path ∈ deleted, (before.live.find? path.collection path.documentId).isSome = true
  /-- They come with the greatest epoch of their tombstones. -/
  greatest : ∃ tombstones : List Document,
    (deleted.map fun path => after.dead.find? path.collection path.documentId) =
        tombstones.map some ∧
      latest = Epoch.greatest (tombstones.map (·.modified))

/-- If no epoch of a tombstone is negative, the greatest one is that of a path. -/
theorem AnswersDeletion.attained {paths deleted : List Path} {latest : Epoch}
    (answers : before.AnswersDeletion after paths deleted latest) (positive : after.Positive)
    (some : deleted ≠ []) : ∃ path ∈ deleted, ∃ tombstone,
      after.dead.find? path.collection path.documentId = Option.some tombstone ∧
        tombstone.modified = latest := by
  obtain ⟨tombstones, found, rfl⟩ := answers.greatest
  have listed {tombstone : Document} (member : tombstone ∈ tombstones) : ∃ path ∈ deleted,
      after.dead.find? path.collection path.documentId = Option.some tombstone := by
    have inImage : Option.some tombstone ∈ tombstones.map Option.some := List.mem_map_of_mem member
    rw [← found] at inImage
    exact List.mem_map.1 inImage
  have nonempty : tombstones.map (·.modified) ≠ [] := by
    intro nothing
    rw [List.map_eq_nil_iff.1 nothing] at found
    exact some (List.map_eq_nil_iff.1 found)
  have nonneg : ∀ epoch ∈ tombstones.map (·.modified), 0 ≤ epoch.millis := by
    intro epoch member
    obtain ⟨tombstone, inTombstones, rfl⟩ := List.mem_map.1 member
    obtain ⟨path, _, place⟩ := listed inTombstones
    exact @positive true path.collection path.documentId tombstone place
  obtain ⟨tombstone, inTombstones, same⟩ :=
    List.mem_map.1 (Epoch.greatest_mem_of_nonneg nonempty nonneg)
  obtain ⟨path, member, place⟩ := listed inTombstones
  exact ⟨path, member, tombstone, place, same⟩

end Holdings

namespace DocumentSession

variable {session : DocumentSession}

/-! ## The steps -/

variable (now : Epoch) {path : Path} (rest : List Path)

theorem deleteAll_node (node : path.isNode = true) :
    session.deleteAll now (path :: rest) = session.deleteAll now rest := by
  rw [deleteAll, if_pos node]

/-- A path that is not found is left out. -/
theorem deleteAll_missing (leaf : path.isNode = false)
    (missing : (session.delete path now false).1 = none) :
    session.deleteAll now (path :: rest) =
      (session.delete path now false).2.deleteAll now rest := by
  rw [deleteAll, if_neg (by rw [leaf]; exact Bool.false_ne_true)]
  simp only [missing]

/-- A path that is found is answered. -/
theorem deleteAll_found (leaf : path.isNode = false) {tombstone : Document}
    (answered : (session.delete path now false).1 = some tombstone) :
    session.deleteAll now (path :: rest) =
      let later := (session.delete path now false).2.deleteAll now rest
      ((tombstone.modified.max later.1.1, path :: later.1.2), later.2) := by
  rw [deleteAll, if_neg (by rw [leaf]; exact Bool.false_ne_true)]
  simp only [answered]

theorem deleteAll_leaf_snd (leaf : path.isNode = false) :
    (session.deleteAll now (path :: rest)).2 =
      ((session.delete path now false).2.deleteAll now rest).2 := by
  cases answered : (session.delete path now false).1 with
  | none => rw [deleteAll_missing now rest leaf answered]
  | some tombstone => rw [deleteAll_found now rest leaf answered]

theorem placed_delete (placed : session.holdings.Placed) (path : Path) :
    (session.delete path now false).2.holdings.Placed :=
  placed.changes (change_of_delete session path now false)

/-! ## The whole -/

/-- Deleting several paths buries what any of them reaches. -/
theorem buries_deleteAll (placed : session.holdings.Placed) (paths : List Path) :
    session.holdings.Buries (ReachedByAny paths) (session.deleteAll now paths).2.holdings := by
  induction paths generalizing session with
  | nil =>
    apply Holdings.Buries.refl
    rintro name id ⟨path, member, _⟩
    cases member
  | cons path rest ih =>
    by_cases node : path.isNode = true
    · rw [deleteAll_node now rest node]
      apply (ih placed).congr
      intro name id _
      simp [ReachedByAny, node]
    · rw [Bool.not_eq_true] at node
      have first :
          session.holdings.Buries path.Reaches (session.delete path now false).2.holdings :=
        buries_delete placed now fun demanded => by cases demanded
      rw [deleteAll_leaf_snd now rest node]
      apply (first.trans (ih (placed_delete now placed path))).congr
      intro name id _
      simp [ReachedByAny, node]

/-- What is answered to a deletion of several paths. -/
theorem answers_deleteAll (placed : session.holdings.Placed) (paths : List Path) :
    session.holdings.AnswersDeletion (session.deleteAll now paths).2.holdings paths
      (session.deleteAll now paths).1.2 (session.deleteAll now paths).1.1 := by
  induction paths generalizing session with
  | nil =>
    refine ⟨.slnil, .nil, fun path member => ?_, [], rfl, rfl⟩
    cases member
  | cons path rest ih =>
    by_cases node : path.isNode = true
    · rw [deleteAll_node now rest node]
      obtain ⟨sublist, nodup, live, greatest⟩ := ih placed
      refine ⟨?_, nodup, live, greatest⟩
      rwa [List.filter_cons_of_neg (by simp [node])]
    · rw [Bool.not_eq_true] at node
      have first :
          session.holdings.Buries path.Reaches (session.delete path now false).2.holdings :=
        buries_delete placed now fun demanded => by cases demanded
      have placedLater := placed_delete now placed path
      obtain ⟨sublist, nodup, live, tombstones, found, latest⟩ := ih placedLater
      have wasLive : ∀ other ∈ ((session.delete path now false).2.deleteAll now rest).1.2,
          (session.holdings.live.find? other.collection other.documentId).isSome = true :=
        fun other member => ((first.live_isSome_iff _ _).1 (live other member)).1
      cases answered : (session.delete path now false).1 with
      | none =>
        rw [deleteAll_missing now rest node answered]
        refine ⟨?_, nodup, wasLive, tombstones, found, latest⟩
        rw [List.filter_cons_of_pos (by simp [node])]
        exact sublist.cons path
      | some tombstone =>
        rw [deleteAll_found now rest node answered]
        have own : path.Reaches path.collection path.documentId := .inl ⟨rfl, rfl⟩
        have gone : ¬ ((session.delete path now false).2.holdings.live.find?
            path.collection path.documentId).isSome = true :=
          fun isLive => ((first.live_isSome_iff _ _).1 isLive).2 own
        refine ⟨?_, List.nodup_cons.2 ⟨fun member => gone (live path member), nodup⟩, ?_,
          tombstone :: tombstones, ?_, ?_⟩
        · rw [List.filter_cons_of_pos (by simp [node])]
          exact sublist.cons_cons path
        · intro other member
          rcases List.mem_cons.1 member with rfl | later
          · by_contra missing
            rw [Option.not_isSome_iff_eq_none] at missing
            rw [delete_fst_of_none now false missing] at answered
            cases answered
          · exact wasLive other later
        · -- The later deletions leave the tombstone in its place.
          have laid := dead_delete placed answered
          have stays := (buries_deleteAll now placedLater rest).others
            (fun both => gone both.2) true
          have place := Eq.trans stays laid
          rw [List.map_cons, List.map_cons, found]
          exact congrArg (· :: tombstones.map some) place
        · rw [List.map_cons, Epoch.greatest, List.foldr_cons, ← Epoch.greatest, ← latest]

end DocumentSession

namespace SerialStore

variable {moves : List (Move documentEngine)} {client : String} {session : DocumentSession}

theorem run_deleteAll (session : DocumentSession) (surroundings : Surroundings)
    (paths : List Path) :
    session.run surroundings (.deleteAll paths) =
      .ok (.deleted (session.deleteAll surroundings.now paths).1.1
        (session.deleteAll surroundings.now paths).1.2,
        (session.deleteAll surroundings.now paths).2) := rfl

/-- In every open transaction, deletions of lists with the same leaf paths leave the same live
documents and, apart from their epochs, the same tombstones, whatever the clock reads.  The answer
names leaf paths of the list, in order and each once, whose documents were live, with the greatest
epoch of their tombstones, which is zero if there are none. -/
theorem bulk_deletion_by_set (opened : (fresh.play moves).session client = .ok session) :
    let store := fresh.play moves
    (∀ (here there : Surroundings) (paths others : List Path), SameLeaves paths others →
      ∃ answer other after later,
        store.run client here (.deleteAll paths) = .ok (answer, after) ∧
          store.run client there (.deleteAll others) = .ok (other, later) ∧
          after.holdings.Alike later.holdings) ∧
    ∀ (here : Surroundings) (paths : List Path),
      let deletion : Move documentEngine := .run client here (.deleteAll paths)
      ∃ latest deleted after,
        store.run client here (.deleteAll paths) = .ok (.deleted latest deleted, after) ∧
          store.holdings.AnswersDeletion after.holdings paths deleted latest ∧
          ((∀ move ∈ moves ++ [deletion], ∀ reading ∈ move.reading?, reading.millis < 2 ^ 62) →
            (stampHistory (moves ++ [deletion])).all.length < 2 ^ 62 → deleted ≠ [] →
            ∃ path ∈ deleted, ∃ tombstone,
              after.holdings.dead.find? path.collection path.documentId = some tombstone ∧
                tombstone.modified = latest) := by
  intro store
  have placed : store.holdings.Placed := (kept_play moves).1
  have current : store.holdings = session.holdings := holdings_of_session opened
  rw [current] at placed ⊢
  constructor
  · intro here there paths others same
    refine ⟨_, _, _, _, run_of_ok opened (run_deleteAll session here paths),
      run_of_ok opened (run_deleteAll session there others), ?_⟩
    have one := DocumentSession.buries_deleteAll here.now placed paths
    have other := DocumentSession.buries_deleteAll there.now placed others
    exact one.alike (other.congr fun name id _ => (same.reachedByAny_iff name id).symm)
  · intro here paths deletion
    have ran := run_deleteAll session here paths
    have answers := DocumentSession.answers_deleteAll here.now placed paths
    refine ⟨_, _, _, run_of_ok opened ran, answers, fun clock few some => ?_⟩
    have kept := kept_play (moves ++ [deletion])
    rw [holdings_play_run opened ran] at kept
    exact answers.attained (kept.2 (unwrapped_play clock few)).2.2 some

/-- A group is deleted and then its bucket, which comes twice, beside a node path and a path that
is not found: both are answered, with the later epoch.  Deleting the bucket first leaves the
same. -/
theorem bulk_deletion_by_set_overlapping :
    let here : Surroundings := ⟨⟨3⟩, fun _ => "x"⟩
    let moves : List (Move documentEngine) :=
      [.begin "c", .run "c" here (.create ⟨"/buckets/*"⟩ (Document.withId "a")),
        .run "c" here (.create ⟨"/buckets/*"⟩ (Document.withId "b")),
        .run "c" here (.create ⟨"/buckets/b/groups/*"⟩ (Document.withId "g")),
        .commit "c", .begin "d"]
    let store := fresh.play moves
    let group : Path := ⟨"/buckets/b/groups/g"⟩
    let bucket : Path := ⟨"/buckets/b"⟩
    let paths : List Path := [group, ⟨"/buckets/*"⟩, bucket, ⟨"/none"⟩, bucket]
    let others : List Path := [bucket, ⟨"/none"⟩, group]
    (∃ answer other after later,
      store.run "d" here (.deleteAll paths) = .ok (answer, after) ∧
        store.run "d" here (.deleteAll others) = .ok (other, later) ∧
        after.holdings.Alike later.holdings) ∧
    ∃ after, store.run "d" here (.deleteAll paths) = .ok (.deleted ⟨5⟩ [group, bucket], after) ∧
      store.holdings.AnswersDeletion after.holdings paths [group, bucket] ⟨5⟩ ∧
      ∃ path ∈ [group, bucket], ∃ tombstone,
        after.holdings.dead.find? path.collection path.documentId = some tombstone ∧
          tombstone.modified = ⟨5⟩ := by
  intro here moves store group bucket paths others
  let deletion : Move documentEngine := .run "d" here (.deleteAll paths)
  have isOpen : (store.session "d").isOk = true := by decide +kernel
  have clock : ∀ move ∈ moves ++ [deletion], ∀ reading ∈ move.reading?,
      reading.millis < 2 ^ 62 := by
    simp [moves, deletion, here, Move.reading?]
  have few : (stampHistory (moves ++ [deletion])).all.length < 2 ^ 62 := by decide +kernel
  have same : SameLeaves paths others := by
    intro path leaf
    have notNode : path ≠ ⟨"/buckets/*"⟩ := by
      rintro rfl
      exact absurd leaf (by decide)
    simp only [paths, others, List.mem_cons, notNode, List.not_mem_nil, or_false, false_or]
    constructor
    · rintro (inside | below | missing | again)
      exacts [.inr (.inr inside), .inl below, .inr (.inl missing), .inl again]
    · rintro (below | missing | inside)
      exacts [.inr (.inl below), .inr (.inr (.inl missing)), .inl inside]
  have outcome : (store.session "d").toOption.map (fun session =>
      (session.deleteAll here.now paths).1) = some (⟨5⟩, [group, bucket]) := by decide +kernel
  cases opened : store.session "d" with
  | error error =>
    rw [opened] at isOpen
    cases isOpen
  | ok session =>
    obtain ⟨bySet, answered⟩ := bulk_deletion_by_set opened
    refine ⟨bySet here here paths others same, ?_⟩
    obtain ⟨latest, deleted, after, ran, answers, attained⟩ := answered here paths
    rw [opened] at outcome
    have told := ran.symm.trans (run_of_ok opened (run_deleteAll session here paths))
    have counted : (session.deleteAll here.now paths).1 = (⟨5⟩, [group, bucket]) :=
      Option.some.inj outcome
    rw [counted] at told
    obtain ⟨rfl, rfl⟩ := DocumentAnswer.deleted.inj (Prod.mk.inj (Except.ok.inj told)).1
    exact ⟨after, ran, answers, attained clock few (List.cons_ne_nil _ _)⟩

end SerialStore
end DocStore
