import DocStore.Proofs.Sql.ConnectionString

/-!
# Pools without connections

Settings are refused if a backend of theirs has no connections, but a connection string may set
the number of connections too, and it is the string that counts.  A pool of accepted settings has
a connection exactly if the last number that its string gives is not zero
(`BackendSettings.accepted_pool_open_iff`).
-/

namespace DocStore

/-! ## Accepted settings -/

/-- A connection string that is accepted can be read. -/
theorem exists_of_checkUrl {key text : String} (accepted : checkUrl key text = .ok ()) :
    ∃ url, Url.ofText text = .ok url := by
  unfold checkUrl at accepted
  split at accepted
  · cases accepted
  · split at accepted
    · exact ⟨_, ‹_›⟩
    · cases accepted

/-- What is known of the scheme and the parameters of a text that is read is known of its URL. -/
theorem exists_of_parts {text scheme : String} {pairs : List (String × String)}
    (parts : (Url.ofText text).toOption.map (fun url => (url.scheme, url.queryPairs)) =
      some (scheme, pairs)) :
    ∃ url, Url.ofText text = .ok url ∧ url.scheme = scheme ∧ url.queryPairs = pairs := by
  cases read : Url.ofText text with
  | error failure =>
    rw [read] at parts
    cases parts
  | ok url =>
    rw [read] at parts
    obtain ⟨scheme, pairs⟩ := Prod.mk.inj (Option.some.inj parts)
    exact ⟨url, rfl, scheme, pairs⟩

/-- A backend that is accepted can be found and may have connections. -/
theorem BackendSettings.of_check {settings : BackendSettings} {place : String}
    (accepted : settings.check place = .ok ()) :
    (∃ url, Url.ofText settings.url = .ok url) ∧ settings.maxConnections ≠ 0 := by
  unfold BackendSettings.check at accepted
  cases checked : checkUrl (place ++ ".url") settings.url with
  | error error =>
    rw [checked] at accepted
    cases accepted
  | ok _ =>
    refine ⟨exists_of_checkUrl checked, fun none => ?_⟩
    rw [checked, if_pos none] at accepted
    cases accepted

/-- Where all settings are accepted, those of both backends are. -/
theorem ServerSettings.check_of_mem {settings : ServerSettings}
    (accepted : settings.check = .ok ()) {backend : BackendSettings}
    (member : backend ∈ [settings.storage, settings.permission]) :
    ∃ place, backend.check place = .ok () := by
  unfold ServerSettings.check at accepted
  cases storage : settings.storage.check "storage" with
  | error error =>
    rw [storage] at accepted
    cases accepted
  | ok _ =>
    cases permission : settings.permission.check "permission" with
    | error error =>
      rw [storage, permission] at accepted
      cases accepted
    | ok _ =>
      rw [List.mem_cons, List.mem_singleton] at member
      rcases member with rfl | rfl
      · exact ⟨_, storage⟩
      · exact ⟨_, permission⟩

namespace BackendSettings

open Sql (PoolSettings)
open Sql.PoolSettings

variable {settings : BackendSettings} {url : Url}

/-! ## The number of connections -/

/-- Whether a connection string sets the number of connections to zero: of several values the last
counts. -/
def SetsNoConnections (url : Url) : Prop :=
  ∃ text ∈ lastGiven? Parameter.maxConnections.name url.queryPairs,
    Text.Numeral.SpellsZero text.toList

instance : DecidablePred SetsNoConnections := fun url =>
  inferInstanceAs (Decidable (∃ text ∈ lastGiven? Parameter.maxConnections.name url.queryPairs,
    Text.Numeral.SpellsZero text.toList))

/-- Settings with connections make a pool without them only if the connection string says so. -/
theorem maxConnections_eq_zero_iff (positive : settings.maxConnections ≠ 0) {pool : PoolSettings}
    (opened : PoolSettings.ofUrl (url.appendQueryPairs (settings.addedPairs url)) = .ok pool) :
    pool.maxConnections = 0 ↔ SetsNoConnections url := by
  obtain ⟨_, taken⟩ := taken_ofUrl opened
  rw [queryPairs_joined] at taken
  have one := taken .maxConnections
  rw [lastGiven?_joined, lastGiven?_presetPairs] at one
  unfold SetsNoConnections
  cases given : lastGiven? Parameter.maxConnections.name url.queryPairs with
  | some text =>
    rw [given] at one
    have read : Text.Numeral.readNat Parameter.maxConnections.greatest text.toList =
        .ok pool.maxConnections := one
    constructor
    · intro zero
      rw [zero] at read
      exact ⟨text, rfl, Text.Numeral.readNat_eq_zero_iff.1 read⟩
    · rintro ⟨_, ⟨⟩, zero⟩
      exact Except.ok.inj (read.symm.trans (Text.Numeral.readNat_eq_zero_iff.2 zero))
  | none =>
    -- What is appended is the number of the settings, and that is not zero.
    rw [given, Option.none_or, if_neg Parameter.noConfusion] at one
    simp only [String.toList_ofList] at one
    have read : Text.Numeral.readNat Parameter.maxConnections.greatest
        (Text.Numeral.showNat settings.maxConnections) = .ok pool.maxConnections := one
    constructor
    · intro zero
      rw [zero] at read
      exact absurd (Text.Numeral.spellsZero_showNat_iff.1
        (Text.Numeral.readNat_eq_zero_iff.1 read)) positive
    · rintro ⟨_, ⟨⟩, _⟩

/-- A string whose parameters can be read makes a pool. -/
theorem exists_pool (fits : settings.Fits) {joined : Url} (read : Url.ofText settings.url = .ok url)
    (kept : url.scheme ∈ ["postgres", "postgresql"])
    (reads : Url.ofText settings.fullUrl = .ok joined)
    (readable : ∀ pair ∈ url.queryPairs, ¬Unreadable pair) :
    ∃ pool, PoolSettings.ofUrl joined = .ok pool := by
  rw [ofText_fullUrl read kept] at reads
  cases reads
  cases opened : PoolSettings.ofUrl (url.appendQueryPairs (settings.addedPairs url)) with
  | ok pool => exact ⟨pool, rfl⟩
  | error error =>
    obtain ⟨pair, among, unreadable⟩ := error_ofUrl_iff.1 ⟨error, opened⟩
    rw [queryPairs_joined, List.mem_append] at among
    rcases among with given | added
    · exact absurd unreadable (readable pair given)
    · exact absurd unreadable (fits.readable added)

/-- Each backend of accepted settings can be found.  If it is kept on a server, its connection string
with the settings of the pool can be read, and whenever a pool is made of it, the pool has a
connection exactly if the string of the settings does not set their number to zero. -/
theorem accepted_pool_open_iff {server : ServerSettings} (accepted : server.check = .ok ())
    {backend : BackendSettings} (member : backend ∈ [server.storage, server.permission]) :
    ∃ url, Url.ofText backend.url = .ok url ∧
      (url.scheme ∈ ["postgres", "postgresql"] →
        ∃ joined, Url.ofText backend.fullUrl = .ok joined ∧
          ∀ pool, PoolSettings.ofUrl joined = .ok pool →
            (1 ≤ pool.maxConnections ↔ ¬SetsNoConnections url)) := by
  obtain ⟨_, checked⟩ := ServerSettings.check_of_mem accepted member
  obtain ⟨⟨url, read⟩, positive⟩ := BackendSettings.of_check checked
  refine ⟨url, read, fun kept => ⟨_, ofText_fullUrl read kept, fun pool opened => ?_⟩⟩
  rw [Nat.one_le_iff_ne_zero, ne_eq, maxConnections_eq_zero_iff positive opened]

/-- A string that sets the number first to zero and then, under a name that is percent-encoded, to
two. -/
theorem accepted_pool_open_iff_reset :
    let backend : BackendSettings :=
      ⟨"postgres://u@db/app?max_connections=0&max%5Fconnections=%2B02", 10, 5, 30⟩
    let server : ServerSettings := { ServerSettings.standard with storage := backend }
    server.check = .ok () ∧ backend ∈ [server.storage, server.permission] ∧
      ∃ joined pool, Url.ofText backend.fullUrl = .ok joined ∧
        PoolSettings.ofUrl joined = .ok pool ∧ 1 ≤ pool.maxConnections := by
  intro backend server
  have accepted : server.check = .ok () := by decide +kernel
  have member : backend ∈ [server.storage, server.permission] := List.mem_cons_self
  obtain ⟨url, read, scheme, pairs⟩ : ∃ url, Url.ofText backend.url = .ok url ∧
      url.scheme = "postgres" ∧
      url.queryPairs = [("max_connections", "0"), ("max_connections", "+02")] :=
    exists_of_parts (by decide +kernel)
  obtain ⟨_, same, whenKept⟩ := accepted_pool_open_iff accepted member
  cases Except.ok.inj (read.symm.trans same)
  have kept : url.scheme ∈ ["postgres", "postgresql"] := by
    rw [scheme]
    decide
  have readable : ∀ pair ∈ url.queryPairs, ¬Unreadable pair := by
    rw [pairs]
    decide
  have sets : ¬SetsNoConnections url := by
    rw [SetsNoConnections, pairs]
    decide
  obtain ⟨joined, reads, counts⟩ := whenKept kept
  obtain ⟨pool, opened⟩ := exists_pool ⟨by decide, by decide, by decide⟩ read kept reads readable
  exact ⟨accepted, member, joined, pool, reads, opened, (counts pool opened).2 sets⟩

/-- Accepted settings whose connection string sets the number of connections to zero: the pool has
none. -/
theorem accepted_pool_closed :
    let backend : BackendSettings := ⟨"postgres://u@localhost/db?max_connections=0", 10, 5, 30⟩
    let server : ServerSettings := { ServerSettings.standard with storage := backend }
    server.check = .ok () ∧ ∃ url joined pool, Url.ofText backend.url = .ok url ∧
      url.scheme ∈ ["postgres", "postgresql"] ∧ Url.ofText backend.fullUrl = .ok joined ∧
      PoolSettings.ofUrl joined = .ok pool ∧ ¬1 ≤ pool.maxConnections := by
  intro backend server
  have accepted : server.check = .ok () := by decide +kernel
  obtain ⟨url, read, scheme, pairs⟩ : ∃ url, Url.ofText backend.url = .ok url ∧
      url.scheme = "postgres" ∧ url.queryPairs = [("max_connections", "0")] :=
    exists_of_parts (by decide +kernel)
  have kept : url.scheme ∈ ["postgres", "postgresql"] := by
    rw [scheme]
    decide
  have readable : ∀ pair ∈ url.queryPairs, ¬Unreadable pair := by
    rw [pairs]
    decide
  have sets : SetsNoConnections url := by
    rw [SetsNoConnections, pairs]
    decide
  have reads := ofText_fullUrl read kept
  obtain ⟨pool, opened⟩ := exists_pool ⟨by decide, by decide, by decide⟩ read kept reads readable
  have closed := (maxConnections_eq_zero_iff (by decide) opened).2 sets
  exact ⟨accepted, url, _, pool, read, kept, reads, opened, by omega⟩

end BackendSettings
end DocStore
