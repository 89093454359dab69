import DocStore.Proofs.Dict
import DocStore.Proofs.Sql.PoolSettings
import DocStore.Proofs.Text.Numeral

/-!
# Connection strings with settings of pools

The settings of a backend that are appended to the connection string of a server are found in it
again, unless the string gives others, and what goes to the server is left as it was
(`BackendSettings.fullUrl_read_back`).
-/

namespace DocStore
namespace BackendSettings

open Sql (PoolSettings)
open Sql.PoolSettings

variable {settings : BackendSettings} {url : Url}

/-- Numbers of the sizes that settings have: counts of 32 bits, times of 64. -/
structure Fits (settings : BackendSettings) : Prop where
  maxConnections : settings.maxConnections ≤ Parameter.maxConnections.greatest
  connectTimeout : settings.connectTimeout ≤ Parameter.connectTimeout.greatest
  queryTimeout : settings.queryTimeout ≤ Parameter.queryTimeout.greatest

/-- What a parameter is without a value in the connection string. -/
def preset (settings : BackendSettings) : Parameter → Nat
  | .maxConnections => settings.maxConnections
  | .minConnections => (plain settings.url).minConnections
  | .connectTimeout => settings.connectTimeout
  | .queryTimeout => settings.queryTimeout

/-- The parameters that settings set. -/
def presetPairs (settings : BackendSettings) : List (String × String) :=
  [Parameter.maxConnections, .connectTimeout, .queryTimeout].map fun parameter =>
    (parameter.name, String.ofList (Text.Numeral.showNat (settings.preset parameter)))

/-- The pairs that are appended to a connection string. -/
def addedPairs (settings : BackendSettings) (url : Url) : List (String × String) :=
  settings.presetPairs.filter fun pair => !(url.queryPairs.map (·.1)).contains pair.1

/-! ## The string -/

theorem find?_documents_iff {scheme : String} :
    Registry.documents.entries.find? scheme = some .server ↔
      scheme ∈ ["postgres", "postgresql"] := by
  have entries : Registry.documents.entries.entries =
      [("memory", .memory), ("postgres", .server), ("postgresql", .server)] := by decide
  rw [← Dict.mem_entries_iff, entries]
  simp

theorem fullUrl_of_server (read : Url.ofText settings.url = .ok url)
    (server : url.scheme ∈ ["postgres", "postgresql"]) :
    settings.fullUrl = (url.appendQueryPairs (settings.addedPairs url)).toText := by
  unfold fullUrl
  simp only [read, find?_documents_iff.2 server, if_true]
  rfl

theorem kind_of_server (server : url.scheme ∈ ["postgres", "postgresql"]) :
    Url.Reader.SchemeKind.of url.scheme = .other := by
  have every : ∀ scheme ∈ ["postgres", "postgresql"],
      Url.Reader.SchemeKind.of scheme = .other := by decide
  exact every _ server

/-- The connection string of a server is read as the one that was joined. -/
theorem ofText_fullUrl (read : Url.ofText settings.url = .ok url)
    (server : url.scheme ∈ ["postgres", "postgresql"]) :
    Url.ofText settings.fullUrl = .ok (url.appendQueryPairs (settings.addedPairs url)) := by
  have settled := (Url.settled_of_ofText read (kind_of_server server)).appendQueryPairs
    (settings.addedPairs url)
  rw [fullUrl_of_server read server]
  exact settled.ofText_toText

theorem fullUrl_of_other
    (other : ∀ url, Url.ofText settings.url = .ok url → url.scheme ∉ ["postgres", "postgresql"]) :
    settings.fullUrl = settings.url := by
  unfold fullUrl
  cases read : Url.ofText settings.url with
  | error failure => rfl
  | ok url =>
    simp only []
    rw [if_neg fun server => other url read (find?_documents_iff.1 server)]

/-! ## The pairs -/

theorem lastGiven?_presetPairs (settings : BackendSettings) (parameter : Parameter) :
    lastGiven? parameter.name settings.presetPairs =
      if parameter = .minConnections then none
      else some (String.ofList (Text.Numeral.showNat (settings.preset parameter))) := by
  cases parameter <;> simp [presetPairs, lastGiven?, Parameter.name]

theorem Fits.preset_le (fits : settings.Fits) (parameter : Parameter) :
    settings.preset parameter ≤ parameter.greatest := by
  cases parameter with
  | maxConnections => exact fits.maxConnections
  | minConnections => exact (by decide : 1 ≤ Text.Numeral.max32)
  | connectTimeout => exact fits.connectTimeout
  | queryTimeout => exact fits.queryTimeout

/-- Whatever is appended gives a parameter its value. -/
theorem exists_of_mem_addedPairs {pair : String × String}
    (member : pair ∈ settings.addedPairs url) : ∃ parameter : Parameter, pair =
      (parameter.name, String.ofList (Text.Numeral.showNat (settings.preset parameter))) := by
  obtain ⟨parameter, _, same⟩ := List.mem_map.1 (List.mem_filter.1 member).1
  exact ⟨parameter, same.symm⟩

theorem Fits.readable (fits : settings.Fits) {pair : String × String}
    (member : pair ∈ settings.addedPairs url) : ¬ Unreadable pair := by
  obtain ⟨parameter, rfl⟩ := exists_of_mem_addedPairs member
  rintro ⟨found, failure, named, failed⟩
  cases named.symm.trans (ofName?_name parameter)
  rw [String.toList_ofList, Text.Numeral.readNat_showNat (fits.preset_le parameter)] at failed
  cases failed

/-- What is appended is not sent to the server. -/
theorem filter_addedPairs (settings : BackendSettings) (url : Url) :
    (settings.addedPairs url).filter (fun pair => !isParameter pair.1) = [] := by
  refine List.filter_eq_nil_iff.2 fun pair member => ?_
  obtain ⟨parameter, rfl⟩ := exists_of_mem_addedPairs member
  simp [isParameter, ofName?_name]

theorem queryPairs_joined (settings : BackendSettings) (url : Url) :
    (url.appendQueryPairs (settings.addedPairs url)).queryPairs =
      url.queryPairs ++ settings.addedPairs url :=
  Url.queryPairs_appendQueryPairs _ _

/-- Nothing is left to append. -/
theorem addedPairs_joined (settings : BackendSettings) (url : Url) (text : String) :
    { settings with url := text }.addedPairs
      (url.appendQueryPairs (settings.addedPairs url)) = [] := by
  refine List.filter_eq_nil_iff.2 fun pair member => ?_
  have preset : pair ∈ settings.presetPairs := member
  rw [queryPairs_joined, Bool.not_eq_true, Bool.not_eq_false', List.contains_iff_mem,
    List.map_append, List.mem_append]
  by_cases present : pair.1 ∈ url.queryPairs.map (·.1)
  · exact .inl present
  · refine .inr (List.mem_map.2 ⟨pair, List.mem_filter.2 ⟨preset, ?_⟩, rfl⟩)
    simpa using present

/-- What a joined connection string gives last is what the string gave before, or else what is
appended. -/
theorem lastGiven?_joined (settings : BackendSettings) (url : Url) (name : String) :
    lastGiven? name (url.queryPairs ++ settings.addedPairs url) =
      (lastGiven? name url.queryPairs).or (lastGiven? name settings.presetPairs) := by
  rw [lastGiven?_append, addedPairs, lastGiven?_filter fun name =>
    !(url.queryPairs.map (·.1)).contains name]
  cases given : lastGiven? name url.queryPairs with
  | some text =>
    have present : name ∈ url.queryPairs.map (·.1) := by
      by_contra absent
      cases given.symm.trans (lastGiven?_eq_none_iff.2 absent)
    rw [List.contains_iff_mem.2 present]
    rfl
  | none =>
    have absent : (url.queryPairs.map (·.1)).contains name = false := by
      simpa using lastGiven?_eq_none_iff.1 given
    rw [absent]
    exact Option.or_none

/-- The values that a joined connection string gives. -/
theorem Fits.value_of_taken (fits : settings.Fits) {pool : PoolSettings} {text : String}
    (taken : Taken (url.queryPairs ++ settings.addedPairs url) (plain text) pool)
    (parameter : Parameter) :
    match lastGiven? parameter.name url.queryPairs with
    | some text =>
      Text.Numeral.readNat parameter.greatest text.toList = .ok (pool.value parameter)
    | none => pool.value parameter = settings.preset parameter := by
  have one := taken parameter
  rw [lastGiven?_joined, lastGiven?_presetPairs] at one
  cases given : lastGiven? parameter.name url.queryPairs with
  | some text =>
    rw [given] at one
    exact one
  | none =>
    rw [given] at one
    by_cases unset : parameter = .minConnections
    · subst unset
      exact one
    · have read := Text.Numeral.readNat_showNat (fits.preset_le parameter)
      simp only [if_neg unset, Option.none_or, String.toList_ofList, read] at one
      exact (Except.ok.inj one).symm

/-- The settings of a pool survive the connection string.  For a server, each parameter has the last
value that the string gives it, or else that of the settings; what goes to the server has the other
pairs in order; and reading fails where a parameter of the string cannot be read, with this pair in
the error.  Joining once more changes nothing, and the string of anything but a server is left
alone. -/
theorem fullUrl_read_back (settings : BackendSettings) (fits : settings.Fits) :
    (∀ url, Url.ofText settings.url = .ok url → url.scheme ∈ ["postgres", "postgresql"] →
      ∃ joined, Url.ofText settings.fullUrl = .ok joined ∧
        (∀ pool, PoolSettings.ofUrl joined = .ok pool →
          (∀ parameter : Parameter,
            match lastGiven? parameter.name url.queryPairs with
            | some text =>
              Text.Numeral.readNat parameter.greatest text.toList = .ok (pool.value parameter)
            | none => pool.value parameter = settings.preset parameter) ∧
          ∃ server, Url.ofText pool.serverUrl = .ok server ∧
            server.queryPairs = url.queryPairs.filter fun pair => !isParameter pair.1) ∧
        ((∃ error, PoolSettings.ofUrl joined = .error error) ↔
          ∃ pair ∈ url.queryPairs, Unreadable pair) ∧
        (∀ error, PoolSettings.ofUrl joined = .error error →
          ∃ pair ∈ url.queryPairs, Unreadable pair ∧
            error = .invalidUrl "postgres" (pair.1 ++ "=" ++ pair.2)) ∧
        { settings with url := settings.fullUrl }.fullUrl = settings.fullUrl) ∧
    ((∀ url, Url.ofText settings.url = .ok url → url.scheme ∉ ["postgres", "postgresql"]) →
      settings.fullUrl = settings.url) := by
  refine ⟨fun url read server => ?_, fullUrl_of_other⟩
  have settled := (Url.settled_of_ofText read (kind_of_server server)).appendQueryPairs
    (settings.addedPairs url)
  have pairs := queryPairs_joined settings url
  have full := fullUrl_of_server read server
  have joined := ofText_fullUrl read server
  refine ⟨_, joined, fun pool taken => ⟨?_, ?_⟩, ?_, fun error failed => ?_, ?_⟩
  · obtain ⟨_, values⟩ := taken_ofUrl taken
    rw [pairs] at values
    exact fits.value_of_taken values
  · obtain ⟨rest, reads, others⟩ := exists_server settled taken
    refine ⟨rest, reads, others.trans ?_⟩
    rw [pairs, List.filter_append, filter_addedPairs, List.append_nil]
  · rw [error_ofUrl_iff, pairs]
    constructor
    · rintro ⟨pair, among, unreadable⟩
      rw [List.mem_append] at among
      exact ⟨pair, among.resolve_right fun added => fits.readable added unreadable, unreadable⟩
    · rintro ⟨pair, among, unreadable⟩
      exact ⟨pair, List.mem_append_left _ among, unreadable⟩
  · obtain ⟨pair, among, unreadable, same⟩ := exists_unreadable failed
    rw [pairs, List.mem_append] at among
    exact ⟨pair, among.resolve_right fun added => fits.readable added unreadable, unreadable, same⟩
  · have again : { settings with url := settings.fullUrl }.fullUrl = _ :=
      fullUrl_of_server joined server
    rw [again, addedPairs_joined, Url.appendQueryPairs_nil, full]

/-- A parameter that is given twice, once with a name that is percent-encoded, and numbers that are
as large as they can be. -/
theorem fullUrl_read_back_repeated :
    let settings : BackendSettings :=
      ⟨"postgresql://u@[::1]/db?max_connections=3&p=%26&max%5Fconnections=%2B7",
        2 ^ 32 - 1, 5, 2 ^ 64 - 1⟩
    settings.Fits ∧ ∃ joined pool server, Url.ofText settings.fullUrl = .ok joined ∧
      PoolSettings.ofUrl joined = .ok pool ∧ pool.maxConnections = 7 ∧ pool.minConnections = 1 ∧
      pool.connectTimeout = 5 ∧ pool.queryTimeout = 2 ^ 64 - 1 ∧
      Url.ofText pool.serverUrl = .ok server ∧ server.queryPairs = [("p", "&")] := by
  intro settings
  have fits : settings.Fits := ⟨by decide, by decide, by decide⟩
  refine ⟨fits, ?_⟩
  have parsed : (Url.ofText settings.url).toOption.map
      (fun url => (url.scheme, url.queryPairs)) =
        some ("postgresql", [("max_connections", "3"), ("p", "&"), ("max_connections", "+7")]) := by
    decide +kernel
  cases read : Url.ofText settings.url with
  | error failure =>
    rw [read] at parsed
    cases parsed
  | ok url =>
    rw [read] at parsed
    obtain ⟨scheme, pairs⟩ := Prod.mk.inj (Option.some.inj parsed)
    obtain ⟨joined, reads, taken, fails, _, _⟩ :=
      (fullUrl_read_back settings fits).1 url read (by rw [scheme]; decide)
    cases opened : PoolSettings.ofUrl joined with
    | error error =>
      obtain ⟨pair, among, parameter, failure, named, failed⟩ := fails.1 ⟨error, opened⟩
      have readable : ∀ pair ∈ [("max_connections", "3"), ("p", "&"), ("max_connections", "+7")],
          ∀ parameter ∈ Parameter.ofName? pair.1,
            (Text.Numeral.readNat parameter.greatest pair.2.toList).isOk = true := by
        decide +kernel
      have read := readable pair (pairs ▸ among) parameter named
      rw [failed] at read
      cases read
    | ok pool =>
      obtain ⟨values, server, served, rest⟩ := taken pool opened
      rw [pairs] at values rest
      have last : Text.Numeral.readNat Text.Numeral.max32 "+7".toList =
          .ok (pool.value .maxConnections) := values .maxConnections
      have seven : Text.Numeral.readNat Text.Numeral.max32 "+7".toList = .ok 7 := by decide +kernel
      have least : pool.value .minConnections = 1 := values .minConnections
      have wait : pool.value .connectTimeout = 5 := values .connectTimeout
      have limit : pool.value .queryTimeout = 2 ^ 64 - 1 := values .queryTimeout
      have others : server.queryPairs = [("p", "&")] := rest.trans (by decide +kernel)
      exact ⟨joined, pool, server, reads, opened, Except.ok.inj (last.symm.trans seven), least,
        wait, limit, served, others⟩

end BackendSettings
end DocStore
