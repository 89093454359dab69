import DocStore.Dict

/-!
# Journals

A journal keeps for every name that a transaction touches what the name held when it
was touched first.  Restoring puts all of that back.
-/

namespace DocStore

universe u

/-- What touched names held before, nothing for names without a value. -/
abbrev Journal (α : Type u) := Dict (Option α)

namespace Journal

variable {α : Type u}

/-- Notes what a name holds, unless the name was touched before. -/
def record (journal : Journal α) (table : Dict α) (name : String) : Journal α :=
  if journal.contains name then journal else journal.insert name (table.find? name)

/-- Puts back what every touched name held. -/
def restore (journal : Journal α) (table : Dict α) : Dict α :=
  journal.entries.foldl (fun restored entry => restored.assign entry.1 entry.2) table

end Journal
end DocStore
