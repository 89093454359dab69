import DocStore.Dict
import DocStore.StoreError
import DocStore.Text.Quoted
import DocStore.Url.Reader

/-!
# Registries

A registry chooses what to connect by the scheme of a connection string.
-/

namespace DocStore

/-- What can be connected, by scheme. -/
structure Registry (α : Type) where
  /-- What is registered, as errors name it. -/
  kind : String
  /-- What is registered under each scheme. -/
  entries : Dict α

namespace Registry

variable {α : Type}

/-- A registry without entries. -/
def empty (kind : String) : Registry α := ⟨kind, Dict.empty⟩

/-- The complaint about a scheme that is registered already. -/
def takenMessage (registry : Registry α) (scheme : String) : String :=
  registry.kind ++ " backend " ++ Text.Quoted.quote scheme ++ " registered twice"

/-- Registers a scheme, which must be new. -/
def register (registry : Registry α) (scheme : String) (value : α) :
    Except String (Registry α) :=
  if registry.entries.contains scheme then .error (registry.takenMessage scheme)
  else .ok { registry with entries := registry.entries.insert scheme value }

/-- The registered schemes, in order. -/
def schemes (registry : Registry α) : List String := registry.entries.keys

/-- Finds what a connection string asks for, and reads the string. -/
def select (registry : Registry α) (text : String) : Except StoreError (α × Url) :=
  match Url.ofText text with
  | .error _ => .error (.invalidUrl registry.kind text)
  | .ok url =>
    match registry.entries.find? url.scheme with
    | some value => .ok (value, url)
    | none => .error (.unknownScheme registry.kind url.scheme)

/-- Where a store is kept. -/
inductive Place where
  /-- In memory. -/
  | memory
  /-- On a server. -/
  | server
  deriving DecidableEq, Repr

/-- The registry of a kind of store. -/
def ofStores (kind : String) : Registry Place :=
  ⟨kind, Dict.ofList [("memory", .memory), ("postgres", .server), ("postgresql", .server)]⟩

/-- The registry of stores of documents. -/
def documents : Registry Place := ofStores "storage"

/-- The registry of stores of grants. -/
def grants : Registry Place := ofStores "permission"

/-- The registry of caches, which are kept in memory only. -/
def caches : Registry Place := ⟨"cache", Dict.ofList [("memory", .memory)]⟩

end Registry
end DocStore
