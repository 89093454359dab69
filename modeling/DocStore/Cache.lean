import DocStore.Dict
import DocStore.StoreError

/-!
# Caches

A cache keeps bytes under keys until their deadline.  A one-time word is a key that is
spent by deleting it, which works once and only before the deadline.
-/

namespace DocStore

/-- A value with its deadline. -/
structure CacheEntry where
  /-- The bytes. -/
  value : List UInt8
  /-- The first millisecond at which the value is gone; none for values that stay. -/
  deadline : Option Nat

/-- Values under keys, and the time that has passed. -/
structure Cache where
  entries : Dict CacheEntry
  /-- Milliseconds on a clock that never goes back. -/
  now : Nat

namespace Cache

/-- The cache without content. -/
def empty : Cache := ⟨Dict.empty, 0⟩

instance : Inhabited Cache := ⟨empty⟩

/-- Milliseconds beyond which the clock cannot tell a time. -/
def horizon : Nat := (1 <<< 63 - 1) * 1000

/-- Whether an entry is still there. -/
def isLive (cache : Cache) (entry : CacheEntry) : Bool :=
  match entry.deadline with
  | some deadline => cache.now < deadline
  | none => true

/-- Lets time pass. -/
def advance (cache : Cache) (millis : Nat) : Cache := { cache with now := cache.now + millis }

/-- The live entry of a key. -/
def find? (cache : Cache) (key : String) : Option CacheEntry :=
  (cache.entries.find? key).filter cache.isLive

/-- Reads a key. -/
def get (cache : Cache) (key : String) : Except StoreError (List UInt8) :=
  match cache.find? key with
  | some entry => .ok entry.value
  | none => .error (.notFound key)

/-- Stores a value for a span of time; one that ends beyond the clock's horizon lasts for
ever. -/
def set (cache : Cache) (key : String) (value : List UInt8) (lifetime : Nat) : Cache :=
  let ending := cache.now + lifetime
  let deadline := if ending ≤ horizon then some ending else none
  { cache with entries := cache.entries.insert key ⟨value, deadline⟩ }

/-- Deletes a key. -/
def delete (cache : Cache) (key : String) : Except StoreError Unit × Cache :=
  let smaller := { cache with entries := cache.entries.erase key }
  match cache.find? key with
  | some _ => (.ok (), smaller)
  | none => (.error (.notFound key), smaller)

/-- Spends a one-time word. -/
def spend (cache : Cache) (word : String) : Except StoreError Unit × Cache :=
  match cache.delete word with
  | (.ok (), smaller) => (.ok (), smaller)
  | (.error _, smaller) => (.error .invalidToken, smaller)

/-- Deletes every key. -/
def flush (cache : Cache) : Cache := { cache with entries := Dict.empty }

end Cache
end DocStore
