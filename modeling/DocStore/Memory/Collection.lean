import DocStore.Document
import DocStore.Dict

/-!
# Collections in memory

A collection keeps its documents by identifier and the latest epoch that was given
out in it.  Every change takes an epoch after the latest one.
-/

namespace DocStore

/-- The documents of one collection. -/
structure Collection where
  /-- The documents by identifier. -/
  documents : Dict Document
  /-- The latest epoch. -/
  latest : Epoch

namespace Collection

/-- A collection that was never written. -/
def empty : Collection := ⟨Dict.empty, Epoch.zero⟩

instance : Inhabited Collection := ⟨empty⟩

/-- Whether there is no document. -/
def isEmpty (collection : Collection) : Bool := collection.documents.isEmpty

/-- Stores a document under the next epoch and gives back how it was stored. -/
def put (collection : Collection) (document : Document) (now : Epoch) : Document × Collection :=
  let epoch := now.after collection.latest
  let stamped := { document with modified := epoch }
  (stamped, ⟨collection.documents.insert stamped.id stamped, epoch⟩)

/-- Stores a document as it is. -/
def keep (collection : Collection) (document : Document) : Collection :=
  { collection with documents := collection.documents.insert document.id document }

/-- Takes a document out and gives it back as a tombstone of the next epoch. -/
def remove? (collection : Collection) (id : String) (now : Epoch) : Option (Document × Collection) :=
  (collection.documents.find? id).map fun document =>
    let epoch := now.after collection.latest
    ({ document with modified := epoch, deleted := true },
      ⟨collection.documents.erase id, epoch⟩)

/-- Takes documents out one after the other and gives them back as tombstones. -/
def removeAll (collection : Collection) (ids : List String) (now : Epoch) :
    List Document × Collection :=
  match ids with
  | [] => ([], collection)
  | id :: rest =>
    match collection.remove? id now with
    | some (tombstone, smaller) =>
      let (tombstones, final) := smaller.removeAll rest now
      (tombstone :: tombstones, final)
    | none => collection.removeAll rest now

end Collection

/-- The collections of a store by name. -/
abbrev Shelf := Dict Collection

namespace Shelf

/-- The document of an identifier in a collection. -/
def find? (shelf : Shelf) (collection id : String) : Option Document :=
  (Dict.find? shelf collection).bind fun found => found.documents.find? id

/-- The collection of a name, empty where there is none. -/
def collection (shelf : Shelf) (name : String) : Collection :=
  (Dict.find? shelf name).getD Collection.empty

/-- How many documents there are. -/
def count (shelf : Shelf) : Nat :=
  (shelf.values.map fun collection => collection.documents.size).foldr (· + ·) 0

end Shelf
end DocStore
