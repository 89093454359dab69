import DocStore.Memory.Documents

/-!
# Stamps

A stamp is an epoch that was given out in a collection.  `DocumentSession.stamps` lists
the stamps of an operation in the order in which it gives them out: that of the document
it stores, or those of the tombstones it makes, the cascade of a deletion included.
-/

namespace DocStore

/-- An epoch that was given out in a collection. -/
structure Stamp where
  collection : String
  epoch : Epoch

namespace Stamp

/-- The epochs that were given out in a collection, in order. -/
def epochsIn (name : String) (stamps : List Stamp) : List Epoch :=
  (stamps.filter fun stamp => stamp.collection = name).map (·.epoch)

@[simp] theorem epochsIn_nil (name : String) : epochsIn name [] = [] := rfl

@[simp] theorem epochsIn_append (name : String) (earlier later : List Stamp) :
    epochsIn name (earlier ++ later) = epochsIn name earlier ++ epochsIn name later := by
  simp [epochsIn]

@[simp] theorem epochsIn_single_self (name : String) (epoch : Epoch) :
    epochsIn name [⟨name, epoch⟩] = [epoch] := by
  simp [epochsIn]

theorem epochsIn_single_other {name other : String} (different : other ≠ name) (epoch : Epoch) :
    epochsIn name [⟨other, epoch⟩] = [] := by
  simp [epochsIn, different]

theorem mem_epochsIn_iff (name : String) (epoch : Epoch) (stamps : List Stamp) :
    epoch ∈ epochsIn name stamps ↔ ⟨name, epoch⟩ ∈ stamps := by
  simp only [epochsIn, List.mem_map, List.mem_filter, decide_eq_true_eq]
  constructor
  · rintro ⟨⟨_, _⟩, ⟨member, rfl⟩, rfl⟩
    exact member
  · intro member
    exact ⟨⟨name, epoch⟩, ⟨member, rfl⟩, rfl⟩

theorem length_epochsIn_le (name : String) (stamps : List Stamp) :
    (epochsIn name stamps).length ≤ stamps.length := by
  simpa [epochsIn] using List.length_filter_le (fun stamp => stamp.collection = name) stamps

end Stamp

namespace DocumentSession

/-- The stamps of the tombstones that are made of documents of a collection. -/
def buryStamps (session : DocumentSession) (name : String) (ids : List String) (now : Epoch) :
    List Stamp :=
  (session.buryAll name ids now).1.map fun tombstone => ⟨name, tombstone.modified⟩

/-- The stamps of the tombstones that are made of the document at a path. -/
def buryAtStamps (session : DocumentSession) (path : Path) (now : Epoch) : List Stamp :=
  if (session.holdings.live.find? path.collection path.documentId).isSome then
    session.buryStamps path.collection [path.documentId] now
  else []

/-- The stamps of the tombstones that are made of whole collections. -/
def buryCollectionStamps (now : Epoch) (session : DocumentSession) : List String → List Stamp
  | [] => []
  | name :: rest =>
    session.buryStamps name (session.holdings.live.collection name).documents.keys now ++
      buryCollectionStamps now (buryCollection now session name) rest

/-- The stamps of a deletion. -/
def deleteStamps (session : DocumentSession) (path : Path) (now : Epoch) (demanded : Bool) :
    List Stamp :=
  let (tombstone, after) := session.buryAt path now
  session.buryAtStamps path now ++
    if tombstone.isNone && demanded then []
    else buryCollectionStamps now after (after.collectionsBelow path)

/-- The stamps of the deletion of several documents. -/
def deleteAllStamps (session : DocumentSession) (now : Epoch) : List Path → List Stamp
  | [] => []
  | path :: rest =>
    if path.isNode then session.deleteAllStamps now rest
    else session.deleteStamps path now false ++
      (session.delete path now false).2.deleteAllStamps now rest

/-- The stamps of an operation. -/
def stamps (session : DocumentSession) (surroundings : Surroundings) : DocumentOp → List Stamp
  | .create path document =>
    match session.create surroundings path document with
    | .ok (.document stored, _) => [⟨path.collection, stored.modified⟩]
    | _ => []
  | .update handle =>
    match session.update surroundings.now handle with
    | .ok (.document stored, _) => [⟨handle.path.collection, stored.modified⟩]
    | _ => []
  | .delete path =>
    if path.isNode then [] else session.deleteStamps path surroundings.now true
  | .deleteAll paths => session.deleteAllStamps surroundings.now paths
  | .flush | .purge _ | .latestEpoch _ | .exists _ | .get _ | .getForUpdate _ | .list _ _
  | .count _ _ | .size => []

end DocumentSession
end DocStore
