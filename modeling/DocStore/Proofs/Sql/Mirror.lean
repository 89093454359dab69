import DocStore.Proofs.Memory.Latest
import DocStore.Proofs.Sql.DocumentTables

/-!
# Tables that mirror holdings

The table of documents mirrors holdings if it has one row for each live document and each
tombstone, and the table of epochs if it has one row for each collection that was ever written
(`Mirrors`).  A conversation simulates a change of the holdings if it comes to a given result
and leaves tables that mirror the holdings after the change, whichever server it is held with
(`Simulates`).  Simulations are put together like the conversations.
-/

namespace DocStore
namespace Sql

/-! ## Mirrors -/

/-- A table with one row for each live document and each tombstone. -/
structure ShowsContents (table : Table) (holdings : Holdings)
    (entries : List (String × Document)) : Prop where
  rows : table = entries.map documentRow
  nodup : (entries.map documentKey).Nodup
  known : ∀ name document, (name, document) ∈ entries ↔
    (holdings.shelf document.deleted).find? name document.id = some document

/-- A table with one row for the latest epoch of each collection. -/
structure ShowsEpochs (table : Table) (holdings : Holdings) (entries : List (String × Epoch)) :
    Prop where
  rows : table = entries.map epochRow
  nodup : (entries.map Prod.fst).Nodup
  known : ∀ name epoch, (name, epoch) ∈ entries ↔ holdings.epoch? name = some epoch

/-- Tables that show what holdings contain. -/
structure Mirrors (tables : Database) (holdings : Holdings) : Prop where
  contents : ∃ entries, ShowsContents (tables documentTable) holdings entries
  epochs : ∃ entries, ShowsEpochs (tables epochTable) holdings entries

theorem mirrors_empty {tables : Database} (documents : tables documentTable = [])
    (epochs : tables epochTable = []) : Mirrors tables Holdings.empty where
  contents := ⟨[], documents, List.nodup_nil, fun _ document => by
    cases document.deleted <;> simp [Holdings.shelf, Holdings.empty, Shelf.find?]⟩
  epochs := ⟨[], epochs, List.nodup_nil, fun _ _ => by simp [Holdings.epoch?, Holdings.empty]⟩

section

variable {tables : Database} {before after : Holdings} {name : String}

/-- Giving the table of documents other rows. -/
theorem Mirrors.setDocuments (mirrors : Mirrors tables before) {table : Table}
    {entries : List (String × Document)} (shows : ShowsContents table after entries)
    (epochs : ∀ other, after.epoch? other = before.epoch? other) :
    Mirrors (tables.set documentTable table) after where
  contents := by
    refine ⟨entries, ?_⟩
    rw [set_same]
    exact shows
  epochs := by
    obtain ⟨others, shown⟩ := mirrors.epochs
    refine ⟨others, ?_, shown.nodup, fun other epoch => ?_⟩
    · rw [set_other _ _ (by decide), shown.rows]
    · rw [shown.known, epochs]

/-- Putting the row of a document that takes its place. -/
theorem ShowsContents.put {table : Table} {entries : List (String × Document)}
    (shows : ShowsContents table before entries) {document : Document}
    (places : ∀ deleted other key, (after.shelf deleted).find? other key =
      if other = name ∧ key = document.id then
        if deleted = document.deleted then some document else none
      else (before.shelf deleted).find? other key) :
    ShowsContents ((put documentKey (name, document) entries).map documentRow) after
      (put documentKey (name, document) entries) where
  rows := rfl
  nodup := nodup_put shows.nodup
  known other found := by
    rw [mem_put, shows.known, places]
    simp only [documentKey, Prod.mk.injEq, ne_eq]
    grind

/-- Putting the row of a new latest epoch. -/
theorem Mirrors.putEpoch (mirrors : Mirrors tables before) {entries : List (String × Epoch)}
    (shows : ShowsEpochs (tables epochTable) before entries) {epoch : Epoch}
    (latest : ∀ other, after.epoch? other =
      if other = name then some epoch else before.epoch? other)
    (places : ∀ deleted other key,
      (after.shelf deleted).find? other key = (before.shelf deleted).find? other key) :
    Mirrors (tables.set epochTable ((put Prod.fst (name, epoch) entries).map epochRow)) after where
  contents := by
    obtain ⟨others, shown⟩ := mirrors.contents
    refine ⟨others, ?_, shown.nodup, fun other document => ?_⟩
    · rw [set_other _ _ (by decide), shown.rows]
    · rw [shown.known, places]
  epochs := by
    refine ⟨_, set_same _ _ _, nodup_put shows.nodup, fun other found => ?_⟩
    rw [mem_put, shows.known, latest]
    simp only [Prod.mk.injEq, ne_eq]
    grind

end

/-- The live document with an identifier among the items of a table. -/
theorem ShowsContents.live_iff {table : Table} {holdings : Holdings}
    {entries : List (String × Document)} (shows : ShowsContents table holdings entries)
    (placed : holdings.Placed) (name id : String) (document : Document) :
    (name, document) ∈ entries ∧ document.id = id ∧ document.deleted = false ↔
      holdings.live.find? name id = some document := by
  rw [shows.known]
  constructor
  · rintro ⟨found, rfl, live⟩
    rwa [live] at found
  · intro found
    obtain ⟨same, live⟩ := @Holdings.Placed.labelled holdings placed false name id document found
    rw [same, live]
    exact ⟨found, rfl, rfl⟩

/-! ## Simulations -/

variable {dialect : Dialect} {before between after : Holdings} {α β : Type}

/-- Held with a server whose tables mirror the holdings, a conversation comes to a result and
leaves tables that mirror the holdings after a change. -/
def Simulates (dialect : Dialect) (before : Holdings) (talk : Talk α)
    (result : Except StoreError α) (after : Holdings) : Prop :=
  ∀ server : Server, Mirrors server.tables before →
    ∃ tables, server.hold dialect talk = (result, { server with tables }) ∧ Mirrors tables after

namespace Simulates

theorem finish (result : Except StoreError α) :
    Simulates dialect before (.finish result) result before :=
  fun server mirrors => ⟨server.tables, rfl, mirrors⟩

theorem bind {talk : Talk α} {value : α} {next : α → Talk β} {result : Except StoreError β}
    (first : Simulates dialect before talk (.ok value) between)
    (second : Simulates dialect between (next value) result after) :
    Simulates dialect before (talk >>= next) result after := by
  intro server mirrors
  obtain ⟨middle, held, mirrored⟩ := first server mirrors
  obtain ⟨tables, heldNext, mirroredNext⟩ := second { server with tables := middle } mirrored
  exact ⟨tables, (Server.hold_bind_ok next held).trans heldNext, mirroredNext⟩

theorem bind_error {talk : Talk α} {error : StoreError} (next : α → Talk β)
    (first : Simulates dialect before talk (.error error) after) :
    Simulates dialect before (talk >>= next) (.error error) after := by
  intro server mirrors
  obtain ⟨tables, held, mirrored⟩ := first server mirrors
  exact ⟨tables, Server.hold_bind_error next held, mirrored⟩

/-- Going on with a pure function of the value. -/
theorem map {talk : Talk α} {value : α} (f : α → β)
    (first : Simulates dialect before talk (.ok value) after) :
    Simulates dialect before (talk >>= fun found => pure (f found)) (.ok (f value)) after :=
  first.bind (finish _)

theorem within {talk : Talk α} {result : Except StoreError α} (task : String) (limit : Nat)
    (simulates : Simulates dialect before talk result after) :
    Simulates dialect before (talk.within task limit) result after := by
  intro server mirrors
  rw [Server.hold_within]
  exact simulates server mirrors

end Simulates

end Sql
end DocStore
