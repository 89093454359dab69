import Mathlib.Algebra.GroupWithZero.Nat
import DocStore.Cache

/-!
# Words that are spent once

The history of a cache lists what was done with it, when, and whether it succeeded.  A word
can be spent exactly while the last event that settles what the word stands for is one that
stored it with a deadline that is still to come (`Cache.spend_iff_open`), so it is spent no
more often than it was stored.  A cache may let go of a value whose deadline has passed, at
any time.
-/

namespace DocStore

/-- What is done with a cache. -/
inductive CacheMove where
  /-- A value is stored for a span of time. -/
  | set (key : String) (value : List UInt8) (lifetime : Nat)
  /-- A key is read. -/
  | get (key : String)
  /-- A key is deleted. -/
  | delete (key : String)
  /-- A one-time word is spent. -/
  | spend (word : String)
  /-- Every key is deleted. -/
  | flush
  /-- Time passes. -/
  | advance (millis : Nat)
  /-- The cache lets go of a key, unless its value is still there. -/
  | release (key : String)

/-- How much time passes. -/
def CacheMove.elapsed : CacheMove → Nat
  | .advance millis => millis
  | _ => 0

/-- Something that was done with a cache. -/
structure CacheEvent where
  /-- When it was done. -/
  time : Nat
  /-- What was done. -/
  move : CacheMove
  /-- Whether it was answered without an error. -/
  succeeded : Bool

namespace CacheEvent

/-- Whether the event settles what a key stands for: it stores the key, or it takes the key
away. -/
def settles (key : String) (event : CacheEvent) : Bool :=
  match event.move with
  | .set other _ _ => other == key
  | .delete other | .spend other => event.succeeded && other == key
  | .flush => true
  | .get _ | .advance _ | .release _ => false

/-- The value that the event stores, with the deadline at the end of its span.  A value whose
deadline the clock cannot tell has none. -/
def stored? (event : CacheEvent) : Option CacheEntry :=
  match event.move with
  | .set _ value lifetime =>
    let ending := event.time + lifetime
    some ⟨value, if ending ≤ Cache.horizon then some ending else none⟩
  | _ => none

/-- Whether the event stores a word. -/
def stores (word : String) (event : CacheEvent) : Bool :=
  match event.move with
  | .set key _ _ => key == word
  | _ => false

/-- Whether the event spends a word, with success. -/
def spends (word : String) (event : CacheEvent) : Bool :=
  match event.move with
  | .spend other => event.succeeded && other == word
  | _ => false

/-- The last event that settles what a key stands for. -/
def last? (key : String) (events : List CacheEvent) : Option CacheEvent :=
  (events.filter (settles key)).getLast?

/-- The last event that settles what a word stands for stored it, and its deadline is still to
come. -/
def Open (word : String) (now : Nat) (events : List CacheEvent) : Prop :=
  ∃ event ∈ last? word events, ∃ entry ∈ event.stored?, ∀ moment ∈ entry.deadline, now < moment

theorem last?_concat (key : String) (events : List CacheEvent) (event : CacheEvent) :
    last? key (events ++ [event]) = if event.settles key then some event else last? key events := by
  unfold last?
  rw [List.filter_append]
  cases settled : event.settles key <;> simp [settled]

/-- Whatever spends or stores a word settles it. -/
theorem not_of_not_settles {word : String} {event : CacheEvent}
    (other : event.settles word = false) :
    event.spends word = false ∧ event.stores word = false := by
  obtain ⟨time, move, succeeded⟩ := event
  cases move with
  | set => exact ⟨rfl, other⟩
  | spend => exact ⟨other, rfl⟩
  | get | delete | flush | advance | release => exact ⟨rfl, rfl⟩

theorem Open.mono {word : String} {now later : Nat} {events : List CacheEvent}
    (isOpen : Open word later events) (le : now ≤ later) : Open word now events := by
  obtain ⟨event, last, entry, stored, ahead⟩ := isOpen
  exact ⟨event, last, entry, stored, fun moment some => Nat.lt_of_le_of_lt le (ahead moment some)⟩

end CacheEvent

namespace Cache

open CacheEvent (last? Open)

/-- The cache after it may let go of a key. -/
def release (cache : Cache) (key : String) : Cache :=
  if (cache.find? key).isSome then cache else { cache with entries := cache.entries.erase key }

/-- The cache after a move. -/
def step (cache : Cache) : CacheMove → Cache
  | .set key value lifetime => cache.set key value lifetime
  | .get _ => cache
  | .delete key => (cache.delete key).2
  | .spend word => (cache.spend word).2
  | .flush => cache.flush
  | .advance millis => cache.advance millis
  | .release key => cache.release key

/-- The cache after a list of moves. -/
def play (cache : Cache) (moves : List CacheMove) : Cache := moves.foldl step cache

/-- Whether a move is answered without an error. -/
def succeeds (cache : Cache) : CacheMove → Bool
  | .get key => (cache.get key).isOk
  | .delete key => (cache.delete key).1.isOk
  | .spend word => (cache.spend word).1.isOk
  | _ => true

/-- What happens during a list of moves that starts at a time. -/
def history (cache : Cache) (time : Nat) : List CacheMove → List CacheEvent
  | [] => []
  | move :: rest =>
    ⟨time, move, cache.succeeds move⟩ :: (cache.step move).history (time + move.elapsed) rest

/-! ## Single moves -/

variable {cache : Cache} {events : List CacheEvent} {key word : String}

theorem delete_eq (cache : Cache) (key : String) :
    cache.delete key = (if (cache.find? key).isSome then .ok () else .error (.notFound key),
      { cache with entries := cache.entries.erase key }) := by
  unfold delete
  cases cache.find? key <;> rfl

theorem spend_eq (cache : Cache) (word : String) :
    cache.spend word = (if (cache.find? word).isSome then .ok () else .error .invalidToken,
      { cache with entries := cache.entries.erase word }) := by
  rw [spend, delete_eq]
  cases cache.find? word <;> rfl

theorem succeeds_delete (cache : Cache) (key : String) :
    cache.succeeds (.delete key) = (cache.find? key).isSome := by
  rw [succeeds, delete_eq]
  cases cache.find? key <;> rfl

theorem succeeds_spend (cache : Cache) (word : String) :
    cache.succeeds (.spend word) = (cache.find? word).isSome := by
  rw [succeeds, spend_eq]
  cases cache.find? word <;> rfl

theorem isLive_iff (cache : Cache) (entry : CacheEntry) :
    cache.isLive entry = true ↔ ∀ moment ∈ entry.deadline, cache.now < moment := by
  unfold isLive
  cases entry.deadline <;> simp

theorem now_step (cache : Cache) (move : CacheMove) :
    (cache.step move).now = cache.now + move.elapsed := by
  cases move with
  | set | get | flush | advance => rfl
  | delete key => rw [step, delete_eq]; rfl
  | spend word => rw [step, spend_eq]; rfl
  | release key => rw [step, release]; split <;> rfl

/-- What is noted on a move. -/
def note (cache : Cache) (move : CacheMove) : CacheEvent := ⟨cache.now, move, cache.succeeds move⟩

/-- After a move that settles what a key stands for, it stands for what the move stored. -/
theorem find?_step_of_settles {move : CacheMove} (settles : (cache.note move).settles key = true) :
    (cache.step move).entries.find? key = (cache.note move).stored? := by
  cases move with
  | set other value lifetime =>
    obtain rfl : other = key := by simpa [note, CacheEvent.settles] using settles
    rw [step, set, Dict.find?_insert, if_pos rfl]
    rfl
  | delete other =>
    obtain ⟨_, rfl⟩ : _ ∧ other = key := by simpa [note, CacheEvent.settles] using settles
    rw [step, delete_eq, Dict.find?_erase, if_pos rfl]
    rfl
  | spend other =>
    obtain ⟨_, rfl⟩ : _ ∧ other = key := by simpa [note, CacheEvent.settles] using settles
    rw [step, spend_eq, Dict.find?_erase, if_pos rfl]
    rfl
  | flush => rfl
  | get | advance | release => cases settles

/-- A move that does not settle what a key stands for leaves it alone, or takes away a value
that is not there any more. -/
theorem find?_step_of_not_settles {move : CacheMove}
    (other : (cache.note move).settles key = false) :
    (cache.step move).entries.find? key = cache.entries.find? key ∨
      (cache.step move).entries.find? key = none ∧ cache.find? key = none := by
  have erased : ∀ name, (name = key → (cache.find? key).isSome = false) →
      (cache.entries.erase name).find? key = cache.entries.find? key ∨
        (cache.entries.erase name).find? key = none ∧ cache.find? key = none := by
    intro name gone
    rw [Dict.find?_erase]
    by_cases same : key = name
    · exact .inr ⟨if_pos same, by simpa using gone same.symm⟩
    · exact .inl (if_neg same)
  cases move with
  | set name value lifetime =>
    have different : key ≠ name := by
      rintro rfl
      simp [note, CacheEvent.settles] at other
    rw [step, set, Dict.find?_insert, if_neg different]
    exact .inl rfl
  | get | advance => exact .inl rfl
  | flush => cases other
  | delete name =>
    rw [step, delete_eq]
    refine erased name fun same => ?_
    simpa [note, CacheEvent.settles, same, succeeds_delete] using other
  | spend name =>
    rw [step, spend_eq]
    refine erased name fun same => ?_
    simpa [note, CacheEvent.settles, same, succeeds_spend] using other
  | release name =>
    rw [step, release]
    split
    · exact .inl rfl
    · rename_i gone
      exact erased name fun same => by simpa [same] using gone

/-! ## Runs -/

/-- What the cache keeps is what the events tell, up to values whose deadline has passed. -/
structure Told (cache : Cache) (events : List CacheEvent) : Prop where
  known : ∀ key, ∀ entry ∈ cache.entries.find? key,
    ∃ event ∈ last? key events, event.stored? = some entry
  gone : ∀ key, cache.entries.find? key = none → ¬ Open key cache.now events

theorem Told.isSome_find?_iff (told : Told cache events) (key : String) :
    (cache.find? key).isSome = true ↔ Open key cache.now events := by
  constructor
  · intro there
    obtain ⟨entry, found⟩ := Option.isSome_iff_exists.1 there
    obtain ⟨kept, live⟩ := Option.filter_eq_some_iff.1 found
    obtain ⟨event, last, stored⟩ := told.known key entry kept
    exact ⟨event, last, entry, stored, (isLive_iff cache entry).1 live⟩
  · intro isOpen
    cases kept : cache.entries.find? key with
    | none => exact absurd isOpen (told.gone key kept)
    | some entry =>
      obtain ⟨event, last, stored⟩ := told.known key entry kept
      obtain ⟨other, alsoLast, same, alsoStored, ahead⟩ := isOpen
      obtain rfl : event = other := Option.mem_unique last alsoLast
      obtain rfl : entry = same := Option.mem_unique stored alsoStored
      simp [find?, kept, (isLive_iff cache entry).2 ahead]

theorem Told.step (told : Told cache events) (move : CacheMove) :
    Told (cache.step move) (events ++ [cache.note move]) where
  known := by
    intro key entry found
    rw [CacheEvent.last?_concat]
    cases settles : (cache.note move).settles key with
    | true =>
      rw [find?_step_of_settles settles] at found
      exact ⟨_, rfl, found⟩
    | false =>
      rcases find?_step_of_not_settles settles with same | ⟨none, _⟩
      · exact told.known key entry (same ▸ found)
      · rw [none] at found
        cases found
  gone := by
    intro key none isOpen
    unfold Open at isOpen
    rw [CacheEvent.last?_concat] at isOpen
    cases settles : (cache.note move).settles key with
    | true =>
      obtain ⟨event, last, entry, stored, _⟩ := isOpen
      rw [settles, if_pos rfl] at last
      cases last
      rw [find?_step_of_settles settles, stored] at none
      cases none
    | false =>
      have before : Open key cache.now events := by
        rw [settles] at isOpen
        refine CacheEvent.Open.mono isOpen ?_
        rw [now_step]
        exact Nat.le_add_right _ _
      rcases find?_step_of_not_settles settles with same | ⟨_, lost⟩
      · exact told.gone key (same ▸ none) before
      · have there := (told.isSome_find?_iff key).2 before
        rw [lost] at there
        cases there

/-- A word was spent no more often than it was stored, and less often where the last event that
settles it stored it. -/
def Balanced (word : String) (events : List CacheEvent) : Prop :=
  events.countP (CacheEvent.spends word) +
    ((last? word events).any (CacheEvent.stores word)).toNat ≤
      events.countP (CacheEvent.stores word)

/-- A word that can be spent was stored by the last event that settles it. -/
theorem stores_of_open {now : Nat} (isOpen : Open word now events) :
    (last? word events).any (CacheEvent.stores word) = true := by
  obtain ⟨⟨time, move, succeeded⟩, last, entry, stored, _⟩ := isOpen
  have settles := (List.mem_filter.1 (List.mem_of_getLast? last)).2
  rw [Option.mem_def.1 last]
  cases move with
  | set key value lifetime => exact settles
  | get | delete | spend | flush | advance | release => cases stored

theorem open_of_spends (told : Told cache events) {move : CacheMove}
    (spends : (cache.note move).spends word = true) : Open word cache.now events := by
  cases move with
  | spend other =>
    rw [note, succeeds_spend] at spends
    obtain ⟨there, rfl⟩ : (cache.find? other).isSome = true ∧ other = word := by
      simpa [CacheEvent.spends] using spends
    exact (told.isSome_find?_iff other).1 there
  | set | get | delete | flush | advance | release => cases spends

theorem Balanced.step (balanced : Balanced word events) (told : Told cache events)
    (move : CacheMove) : Balanced word (events ++ [cache.note move]) := by
  unfold Balanced at balanced ⊢
  rw [CacheEvent.last?_concat, List.countP_append, List.countP_append, List.countP_singleton,
    List.countP_singleton]
  cases settles : (cache.note move).settles word with
  | false =>
    obtain ⟨notSpent, notStored⟩ := CacheEvent.not_of_not_settles settles
    simpa [notSpent, notStored] using balanced
  | true =>
    -- the new event counts as the last one, so only a spending has to use up an earlier storing
    rw [if_pos rfl, Option.any_some]
    cases spends : (cache.note move).spends word with
    | false => cases (cache.note move).stores word <;> simp <;> omega
    | true =>
      have before := stores_of_open (open_of_spends told spends)
      rw [before] at balanced
      cases (cache.note move).stores word <;> simp at balanced ⊢ <;> omega

theorem now_play (cache : Cache) (moves : List CacheMove) :
    (cache.play moves).now = cache.now + (moves.map CacheMove.elapsed).sum := by
  induction moves generalizing cache with
  | nil => rfl
  | cons move rest ih =>
    rw [play, List.foldl_cons, ← play, ih, now_step, List.map_cons, List.sum_cons, Nat.add_assoc]

/-- What the events tell and how words are spent and stored stays right during a list of moves. -/
theorem told_play (told : Told cache events) (balanced : Balanced word events)
    (moves : List CacheMove) :
    Told (cache.play moves) (events ++ cache.history cache.now moves) ∧
      Balanced word (events ++ cache.history cache.now moves) := by
  induction moves generalizing cache events with
  | nil =>
    rw [history, List.append_nil]
    exact ⟨told, balanced⟩
  | cons move rest ih =>
    have later := ih (told.step move) (balanced.step told move)
    rw [now_step, List.append_assoc] at later
    exact later

/-- Whatever was done with a cache, spending a word succeeds exactly while the last event that
settles the word stored it with a deadline that is still to come, and else the word is invalid;
and it never succeeds more often than the word is stored. -/
theorem spend_iff_open (moves : List CacheMove) (word : String) :
    let cache := empty.play moves
    let events := empty.history 0 moves
    let now := (moves.map CacheMove.elapsed).sum
    ((cache.spend word).1 = .ok () ↔ Open word now events) ∧
      ((cache.spend word).1 = .error .invalidToken ↔ ¬ Open word now events) ∧
      events.countP (CacheEvent.spends word) ≤ events.countP (CacheEvent.stores word) := by
  intro cache events now
  have start : Told empty [] ∧ Balanced word [] := by
    refine ⟨⟨fun key entry found => ?_, fun key _ isOpen => ?_⟩, Nat.le_refl 0⟩
    · cases found
    · obtain ⟨event, last, _⟩ := isOpen
      cases last
  obtain ⟨told, balanced⟩ := told_play start.1 start.2 moves
  have present : (cache.find? word).isSome = true ↔ Open word now events := by
    have time : cache.now = now := (now_play empty moves).trans (Nat.zero_add _)
    exact time ▸ told.isSome_find?_iff word
  refine ⟨?_, ?_, Nat.le_trans (Nat.le_add_right _ _) balanced⟩
  · rw [spend_eq, ← present]
    cases cache.find? word <;> simp
  · rw [spend_eq, ← present]
    cases cache.find? word <;> simp

/-- At its deadline a word that was stored again is not there any more. -/
example :
    let moves := [.set "w" [] 5, .advance 4, .spend "w", .set "w" [] 5, .advance 5]
    ((empty.play moves).spend "w").1 = .error .invalidToken := rfl

end Cache
end DocStore
