import DocStore.Proofs.Memory.Contents
import DocStore.Proofs.Path.Ancestors

/-!
# Cascades

A deletion turns the document at a path into a tombstone and with it every document of the
collections that the path begins, up to a slash (`DocumentSession.live_delete`).  Where paths
are well formed those are the documents that have the path on the way up
(`Path.notions_of_below_agree`).
-/

namespace DocStore

namespace Holdings

/-- Burying takes away the one live document and leaves the others. -/
theorem live_bury (holdings : Holdings) (name id : String) (now : Epoch) (other key : String) :
    (holdings.bury name id now).live.find? other key =
      if (other, key) = (name, id) then none else holdings.live.find? other key := by
  cases found : holdings.live.find? name id with
  | none =>
    rw [bury_of_none now found]
    split
    · rename_i same
      cases same
      exact found
    · rfl
  | some document =>
    rw [bury_eq now found, Shelf.find?_insert, Dict.find?_erase, Shelf.find?_eq]
    grind

theorem live_buryKeys (holdings : Holdings) (keys : List (String × String)) (now : Epoch)
    (name id : String) : (holdings.buryKeys keys now).live.find? name id =
      if (name, id) ∈ keys then none else holdings.live.find? name id := by
  induction keys generalizing holdings with
  | nil => rfl
  | cons key rest ih =>
    rw [buryKeys, List.foldl_cons]
    refine (ih (holdings.bury key.1 key.2 now)).trans ?_
    rw [live_bury]
    simp only [List.mem_cons]
    grind

end Holdings

namespace DocumentSession

theorem live_buryBelow (session : DocumentSession) (path : Path) (now : Epoch)
    (name id : String) : (session.buryBelow path now).holdings.live.find? name id =
      if isBelow path name then none else session.holdings.live.find? name id := by
  rw [(buryBelow_eq session path now).1, Holdings.live_buryKeys]
  simp only [mem_keysBelow]
  cases session.holdings.live.find? name id <;> simp

theorem live_buryAt (session : DocumentSession) (path : Path) (now : Epoch) (name id : String) :
    (session.buryAt path now).2.holdings.live.find? name id =
      if (name, id) = (path.collection, path.documentId) then none
      else session.holdings.live.find? name id := by
  cases found : session.holdings.live.find? path.collection path.documentId with
  | none =>
    have nothing : (session.buryAt path now).2 = session := by simp [buryAt, found]
    rw [nothing]
    split
    · rename_i same
      cases same
      exact found
    · rfl
  | some document => rw [(buryAt_some session now found).2.1, Holdings.live_bury]

/-- A deletion is carried out where the document is live or is not demanded. -/
theorem delete_snd {session : DocumentSession} {path : Path} (now : Epoch) {demanded : Bool}
    (carried : demanded = true → (session.find? path).isSome = true) :
    (session.delete path now demanded).2 = (session.buryAt path now).2.buryBelow path now := by
  have goesOn : ¬((session.buryAt path now).1.isNone && demanded) = true := by
    intro stops
    obtain ⟨missing, isDemanded⟩ := (Bool.and_eq_true _ _).mp stops
    obtain ⟨document, found⟩ := Option.isSome_iff_exists.1 (carried isDemanded)
    rw [(buryAt_some session now found).1] at missing
    cases missing
  rw [delete]
  exact congrArg Prod.snd (if_neg goesOn)

/-- A deletion takes away the document of the path and those of the collections below it. -/
theorem live_delete {session : DocumentSession} {path : Path} (now : Epoch) {demanded : Bool}
    (carried : demanded = true → (session.find? path).isSome = true) (name id : String) :
    (session.delete path now demanded).2.holdings.live.find? name id =
      if (name, id) = (path.collection, path.documentId) ∨ isBelow path name = true then none
      else session.holdings.live.find? name id := by
  rw [delete_snd now carried, live_buryBelow, live_buryAt]
  by_cases below : isBelow path name = true <;> simp [below]

end DocumentSession

namespace Path

theorem collection_under (collection : String) {id : String} (last : '/' ∉ id.toList) :
    (under collection id).collection = collection :=
  String.toList_inj.1 (toList_collection (toList_under collection id) last)

theorem documentId_under (collection : String) {id : String} (last : '/' ∉ id.toList) :
    (under collection id).documentId = id :=
  String.toList_inj.1 (toList_documentId (toList_under collection id) last)

/-- A well-formed path that has a document's collection and identifier is the document's. -/
theorem eq_under_iff {path : Path} {collection id : String} (wellFormed : path.WellFormed)
    (last : '/' ∉ id.toList) (documentWellFormed : (under collection id).WellFormed) :
    path = under collection id ↔ (collection, id) = (path.collection, path.documentId) := by
  constructor
  · rintro rfl
    rw [collection_under collection last, documentId_under collection last]
  · intro same
    obtain ⟨sameCollection, sameId⟩ := Prod.mk.inj same
    by_cases empty : path.text.toList = []
    · -- The collection and the identifier of the empty path make up a single slash.
      have nameless : collection = "" ∧ id = "" := by
        simp only [sameCollection, sameId, Path.collection, documentId, split, empty,
          splitAtLast, and_self]
      obtain ⟨rfl, rfl⟩ := nameless
      exact absurd documentWellFormed (by decide)
    · obtain ⟨parent, name, key, text, _, inKey, _⟩ := wellFormed.exists_parent empty
      have isCollection := toList_collection text inKey
      have isKey := toList_documentId text inKey
      have sameText : path.text = (under collection id).text := by
        rw [← String.toList_inj, toList_under, sameCollection, sameId, isCollection, isKey, text]
      exact congrArg mk sameText

/-- Three notions of being below a path agree on well-formed ones.  What goes up from a path
passes the paths that it is at or below; a collection lies below a path if its documents have
the path on the way up and are not at it; and a deletion that is carried out takes away the
live documents that have the path on the way up.  Going up ends with the empty path. -/
theorem notions_of_below_agree :
    (∀ path other : Path, path.WellFormed → other.WellFormed →
      (path ∈ other.traverse ↔ isAtOrBelow path other = true)) ∧
    (∀ (path : Path) (collection id : String), path.WellFormed → '/' ∉ id.toList →
      (under collection id).WellFormed →
      (isBelow path collection = true ↔
        path ∈ (under collection id).traverse ∧ path ≠ under collection id) ∧
      ∀ (session : DocumentSession) (now : Epoch) (demanded : Bool),
        (session.holdings.live.find? collection id).isSome = true →
        (demanded = true → (session.find? path).isSome = true) →
        ((session.delete path now demanded).2.holdings.live.find? collection id = none ↔
          path ∈ (under collection id).traverse)) ∧
    ∀ path : Path, path.traverse.getLast? = some ⟨""⟩ := by
  refine ⟨fun path other => mem_traverse_iff, ?_, getLast?_traverse⟩
  intro path collection id wellFormed last documentWellFormed
  have below := isBelow_iff wellFormed last documentWellFormed
  refine ⟨below, fun session now demanded isLive carried => ?_⟩
  have itself : under collection id ∈ (under collection id).traverse := by
    rw [mem_traverse_iff documentWellFormed documentWellFormed]
    simp [isAtOrBelow]
  rw [DocumentSession.live_delete now carried, ite_eq_left_iff,
    ← eq_under_iff wellFormed last documentWellFormed, below]
  constructor
  · intro reached
    by_contra above
    refine Option.isSome_iff_ne_none.1 isLive (reached ?_)
    rintro (rfl | ⟨onTheWay, _⟩)
    · exact above itself
    · exact above onTheWay
  · intro onTheWay spared
    by_cases same : path = under collection id
    · exact absurd (.inl same) spared
    · exact absurd (.inr ⟨onTheWay, same⟩) spared

/-- Deleting a bucket reaches the groups in it, and not those of a bucket whose name begins
like its own. -/
theorem notions_of_below_agree_in_bucket :
    let bucket : Path := ⟨"/buckets/b"⟩
    let keys := [("/buckets", "b"), ("/buckets/b/groups", "g"), ("/buckets/bb/groups", "g")]
    let holdings := keys.foldl (fun holdings key =>
      holdings.store key.1 (Document.withId key.2) ⟨1⟩) Holdings.empty
    let after := ((DocumentSession.start holdings 0).delete bucket ⟨2⟩ true).2
    (isAtOrBelow bucket (under "/buckets/b/groups" "g") = true ∧
      isBelow bucket "/buckets/b/groups" = true ∧
      after.holdings.live.find? "/buckets/b/groups" "g" = none) ∧
    isAtOrBelow bucket (under "/buckets/bb/groups" "g") = false ∧
      isBelow bucket "/buckets/bb/groups" = false ∧
      after.holdings.live.find? "/buckets/bb/groups" "g" ≠ none := by
  intro bucket keys holdings after
  obtain ⟨traversed, below, _⟩ := notions_of_below_agree
  have inside : bucket ∈ (under "/buckets/b/groups" "g").traverse := by decide +kernel
  have outside : bucket ∉ (under "/buckets/bb/groups" "g").traverse := by decide +kernel
  obtain ⟨belowInside, goneInside⟩ := below bucket "/buckets/b/groups" "g" (by decide +kernel)
    (by decide +kernel) (by decide +kernel)
  obtain ⟨belowOutside, goneOutside⟩ := below bucket "/buckets/bb/groups" "g" (by decide +kernel)
    (by decide +kernel) (by decide +kernel)
  have carried : true = true → ((DocumentSession.start holdings 0).find? bucket).isSome = true := by
    decide +kernel
  refine ⟨⟨?_, ?_, ?_⟩, ?_, ?_, ?_⟩
  · exact (traversed bucket _ (by decide +kernel) (by decide +kernel)).1 inside
  · exact belowInside.2 ⟨inside, by decide +kernel⟩
  · exact (goneInside _ ⟨2⟩ true (by decide +kernel) carried).2 inside
  · rw [← Bool.not_eq_true, ← traversed bucket _ (by decide +kernel) (by decide +kernel)]
    exact outside
  · rw [← Bool.not_eq_true, belowOutside]
    exact fun both => outside both.1
  · rw [Ne, goneOutside _ ⟨2⟩ true (by decide +kernel) carried]
    exact outside

end Path
end DocStore
