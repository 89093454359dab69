import DocStore.Proofs.Url.QueryPairs
import DocStore.Proofs.Url.Reading
import DocStore.Services

/-!
# Settings of pools in connection strings

Of several values that a connection string gives a parameter the last counts, and a parameter that
it does not name keeps its value (`PoolSettings.taken_foldlM`).
-/

namespace DocStore
namespace Sql
namespace PoolSettings

open Parameter (ofName?)

variable {settings next pool : PoolSettings} {pair : String × String}
  {pairs : List (String × String)}

/-! ## Values of parameters -/

/-- The value of a parameter. -/
def value (settings : PoolSettings) : Parameter → Nat
  | .maxConnections => settings.maxConnections
  | .minConnections => settings.minConnections
  | .connectTimeout => settings.connectTimeout
  | .queryTimeout => settings.queryTimeout

/-- The last value that is given under a name. -/
def lastGiven? (name : String) : List (String × String) → Option String
  | [] => none
  | pair :: rest => (lastGiven? name rest).or (if pair.1 = name then some pair.2 else none)

theorem lastGiven?_append (name : String) (first second : List (String × String)) :
    lastGiven? name (first ++ second) = (lastGiven? name second).or (lastGiven? name first) := by
  induction first with
  | nil => simp [lastGiven?]
  | cons pair rest ih => simp [lastGiven?, ih, Option.or_assoc]

theorem lastGiven?_eq_none_iff {name : String} {pairs : List (String × String)} :
    lastGiven? name pairs = none ↔ name ∉ pairs.map (·.1) := by
  induction pairs with
  | nil => simp [lastGiven?]
  | cons pair rest ih =>
    rw [lastGiven?, Option.or_eq_none_iff, ih, List.map_cons, List.mem_cons, not_or, and_comm]
    refine and_congr_left fun _ => ?_
    by_cases same : pair.1 = name
    · simp [same]
    · simp [same, Ne.symm same]

theorem lastGiven?_filter (keep : String → Bool) (name : String) (pairs : List (String × String)) :
    lastGiven? name (pairs.filter fun pair => keep pair.1) =
      if keep name then lastGiven? name pairs else none := by
  induction pairs with
  | nil => simp [lastGiven?]
  | cons pair rest ih =>
    by_cases same : pair.1 = name
    · cases kept : keep name <;> simp [lastGiven?, ih, same, kept]
    · cases kept : keep pair.1 <;> simp [lastGiven?, ih, same, kept]

/-- Whether settings that were taken from pairs hold what was given last, and what they held
before otherwise. -/
def Taken (pairs : List (String × String)) (before after : PoolSettings) : Prop :=
  ∀ parameter : Parameter,
    match lastGiven? parameter.name pairs with
    | some text =>
      Text.Numeral.readNat parameter.greatest text.toList = .ok (after.value parameter)
    | none => after.value parameter = before.value parameter

/-- Whether a pair gives a parameter what is no value of it. -/
def Unreadable (pair : String × String) : Prop :=
  ∃ parameter failure, ofName? pair.1 = some parameter ∧
    Text.Numeral.readNat parameter.greatest pair.2.toList = .error failure

instance : DecidablePred Unreadable := fun pair =>
  decidable_of_iff (∃ parameter ∈ ofName? pair.1,
    (Text.Numeral.readNat parameter.greatest pair.2.toList).isOk = false) <| by
    refine exists_congr fun parameter => ?_
    cases read : Text.Numeral.readNat parameter.greatest pair.2.toList <;>
      simp [Except.isOk, Except.toBool]

theorem ofName?_name (parameter : Parameter) : ofName? parameter.name = some parameter := by
  cases parameter <;> decide

theorem name_of_ofName? {name : String} {parameter : Parameter}
    (found : ofName? name = some parameter) : parameter.name = name := by
  simpa using List.find?_some found

theorem value_assign (settings : PoolSettings) (number : Nat) (parameter other : Parameter) :
    (settings.assign number parameter).value other =
      if parameter = other then number else settings.value other := by
  cases parameter <;> cases other <;> rfl

theorem serverUrl_assign (settings : PoolSettings) (number : Nat) (parameter : Parameter) :
    (settings.assign number parameter).serverUrl = settings.serverUrl := by
  cases parameter <;> rfl

/-! ## One pair -/

/-- What a pair does to settings. -/
theorem addPair_cases (added : settings.addPair pair = .ok next) :
    (ofName? pair.1 = none ∧ next = settings) ∨
      ∃ parameter number, ofName? pair.1 = some parameter ∧
        Text.Numeral.readNat parameter.greatest pair.2.toList = .ok number ∧
        next = settings.assign number parameter := by
  unfold addPair at added
  split at added
  · cases added
    exact .inl ⟨‹_›, rfl⟩
  · split at added
    · cases added
      exact .inr ⟨_, _, ‹_›, ‹_›, rfl⟩
    · cases added

theorem unreadable_of_addPair {error : StoreError} (failed : settings.addPair pair = .error error) :
    Unreadable pair ∧ error = .invalidUrl "postgres" (pair.1 ++ "=" ++ pair.2) := by
  unfold addPair at failed
  split at failed
  · cases failed
  · split at failed
    · cases failed
    · cases failed
      exact ⟨⟨_, _, ‹_›, ‹_›⟩, rfl⟩

theorem not_unreadable_of_addPair (added : settings.addPair pair = .ok next) :
    ¬ Unreadable pair := by
  rintro ⟨parameter, failure, named, failed⟩
  rcases addPair_cases added with ⟨none, _⟩ | ⟨found, number, named', read, _⟩
  · cases none.symm.trans named
  · cases named.symm.trans named'
    cases failed.symm.trans read

theorem taken_addPair (added : settings.addPair pair = .ok next) :
    Taken [pair] settings next := by
  intro parameter
  rcases addPair_cases added with ⟨none, rfl⟩ | ⟨found, number, named, read, rfl⟩
  · have other : pair.1 ≠ parameter.name := by
      intro same
      rw [same, ofName?_name] at none
      cases none
    simp [lastGiven?, other]
  · have name := name_of_ofName? named
    rw [value_assign]
    by_cases same : found = parameter
    · subst same
      simpa [lastGiven?, name] using read
    · have other : pair.1 ≠ parameter.name := by
        intro equal
        rw [equal, ofName?_name] at named
        exact same (Option.some.inj named).symm
      simp [lastGiven?, other, same]

/-! ## All pairs -/

theorem Taken.cons {middle : PoolSettings} (first : Taken [pair] settings middle)
    (others : Taken pairs middle next) : Taken (pair :: pairs) settings next := by
  intro parameter
  have one := first parameter
  have rest := others parameter
  simp only [lastGiven?, Option.none_or] at one ⊢
  cases given : lastGiven? parameter.name pairs with
  | some text =>
    rw [given] at rest
    exact rest
  | none =>
    rw [given] at rest
    simp only [] at rest
    rw [Option.none_or, rest]
    exact one

/-- Of several values the last counts, and what is not named stays. -/
theorem taken_foldlM (read : pairs.foldlM addPair settings = .ok pool) :
    Taken pairs settings pool ∧ pool.serverUrl = settings.serverUrl := by
  induction pairs generalizing settings with
  | nil =>
    cases read
    exact ⟨fun _ => rfl, rfl⟩
  | cons pair rest ih =>
    rw [List.foldlM_cons] at read
    cases added : settings.addPair pair with
    | error error =>
      rw [added] at read
      cases read
    | ok middle =>
      rw [added] at read
      obtain ⟨others, server⟩ := ih read
      refine ⟨(taken_addPair added).cons others, server.trans ?_⟩
      rcases addPair_cases added with ⟨_, rfl⟩ | ⟨_, _, _, _, rfl⟩
      · rfl
      · exact serverUrl_assign _ _ _

/-- Reading fails at a pair that cannot be read, and names it. -/
theorem exists_unreadable {error : StoreError}
    (failed : pairs.foldlM addPair settings = .error error) :
    ∃ pair ∈ pairs, Unreadable pair ∧ error = .invalidUrl "postgres" (pair.1 ++ "=" ++ pair.2) := by
  induction pairs generalizing settings with
  | nil => cases failed
  | cons pair rest ih =>
    rw [List.foldlM_cons] at failed
    cases added : settings.addPair pair with
    | error first =>
      rw [added] at failed
      cases failed
      exact ⟨pair, List.mem_cons_self, unreadable_of_addPair added⟩
    | ok middle =>
      rw [added] at failed
      obtain ⟨other, among, found⟩ := ih failed
      exact ⟨other, List.mem_cons_of_mem _ among, found⟩

theorem not_unreadable_of_foldlM (read : pairs.foldlM addPair settings = .ok pool) :
    ∀ pair ∈ pairs, ¬ Unreadable pair := by
  induction pairs generalizing settings with
  | nil => simp
  | cons pair rest ih =>
    rw [List.foldlM_cons] at read
    cases added : settings.addPair pair with
    | error error =>
      rw [added] at read
      cases read
    | ok middle =>
      rw [added] at read
      intro other member
      rcases List.mem_cons.1 member with rfl | later
      · exact not_unreadable_of_addPair added
      · exact ih read other later

/-! ## Connection strings -/

variable {url : Url}

/-- Settings hold what the string gives them. -/
theorem taken_ofUrl (read : ofUrl url = .ok pool) :
    ∃ text, Taken url.queryPairs (plain text) pool := by
  obtain ⟨taken, _⟩ := taken_foldlM read
  exact ⟨_, taken⟩

/-- The server is told the string without the parameters. -/
theorem serverUrl_ofUrl (read : ofUrl url = .ok pool) :
    pool.serverUrl = (url.withPairsOrNone
      (url.queryPairs.filter fun pair => !isParameter pair.1)).toText := by
  obtain ⟨_, server⟩ := taken_foldlM read
  exact server

theorem error_ofUrl_iff :
    (∃ error, ofUrl url = .error error) ↔ ∃ pair ∈ url.queryPairs, Unreadable pair := by
  constructor
  · rintro ⟨error, failed⟩
    obtain ⟨pair, among, unreadable, _⟩ := exists_unreadable failed
    exact ⟨pair, among, unreadable⟩
  · rintro ⟨pair, among, unreadable⟩
    cases read : ofUrl url with
    | error error => exact ⟨error, rfl⟩
    | ok pool => exact absurd unreadable (not_unreadable_of_foldlM read pair among)

/-- A settled string goes to the server with the pairs that are no parameters. -/
theorem exists_server (settled : url.Settled) (read : ofUrl url = .ok pool) :
    ∃ server, Url.ofText pool.serverUrl = .ok server ∧
      server.queryPairs = url.queryPairs.filter fun pair => !isParameter pair.1 := by
  refine ⟨_, ?_, Url.queryPairs_withPairsOrNone url _⟩
  rw [serverUrl_ofUrl read]
  exact (settled.withPairsOrNone _).ofText_toText

end PoolSettings
end Sql
end DocStore
