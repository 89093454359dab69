import DocStore.Text.FormUrlEncoded
import DocStore.Text.Numeral
import DocStore.Url.Host

/-!
# URLs

A URL is a scheme and a path, with an optional authority, query and fragment.  Texts
are kept the way they are written, with everything percent-encoded that must be.
-/

namespace DocStore

/-- Who is addressed: a host, perhaps with credentials and a port. -/
structure Authority where
  /-- The user name. -/
  username : String
  /-- The password; an empty one is none. -/
  password : String
  /-- The host. -/
  host : Host
  /-- The port, unless it is the scheme's own. -/
  port : Option Nat
  deriving DecidableEq, Inhabited

/-- The path of a URL. -/
inductive UrlPath where
  /-- A path without structure. -/
  | plain (text : String)
  /-- Segments, each behind a slash. -/
  | segments (names : List String)
  deriving DecidableEq, Inhabited

/-- An absolute URL. -/
structure Url where
  /-- The scheme in lower case. -/
  scheme : String
  /-- The authority, for URLs with two slashes behind the scheme. -/
  authority : Option Authority
  /-- The path. -/
  path : UrlPath
  /-- What follows the question mark. -/
  query : Option String
  /-- What follows the number sign. -/
  fragment : Option String
  deriving DecidableEq, Inhabited

namespace Url

/-- Writes the credentials in front of a host. -/
def credentialChars (authority : Authority) : List Char :=
  let password := authority.password.toList
  if authority.username.isEmpty ∧ password.isEmpty then []
  else authority.username.toList ++ (if password.isEmpty then [] else ':' :: password) ++ ['@']

/-- Writes an authority behind its two slashes. -/
def authorityChars (authority : Authority) : List Char :=
  ['/', '/'] ++ credentialChars authority ++ authority.host.chars ++
    match authority.port with
    | some port => ':' :: Text.Numeral.showNat port
    | none => []

/-- Writes a path. -/
def pathChars : UrlPath → List Char
  | .plain text => text.toList
  | .segments names => names.flatMap fun name => '/' :: name.toList

/-- Writes an optional part behind its mark. -/
def partChars (mark : Char) : Option String → List Char
  | some text => mark :: text.toList
  | none => []

/-- What keeps a path that starts with two slashes from reading as an authority. -/
def pathGuard (url : Url) : List Char :=
  match url.authority, pathChars url.path with
  | none, '/' :: '/' :: _ => ['/', '.']
  | _, _ => []

/-- The text of a URL. -/
def toText (url : Url) : String :=
  String.ofList <|
    url.scheme.toList ++ [':'] ++ ((url.authority.map authorityChars).getD []) ++
      pathGuard url ++ pathChars url.path ++ partChars '?' url.query ++
      partChars '#' url.fragment

/-! ## Query pairs -/

/-- The pairs of the query. -/
def queryPairs (url : Url) : List (String × String) :=
  match url.query with
  | some query => Text.FormUrlEncoded.decode query.toList
  | none => []

/-- The same URL with other pairs in its query, which it has even without a pair. -/
def withQueryPairs (url : Url) (pairs : List (String × String)) : Url :=
  { url with query := some (String.ofList (Text.FormUrlEncoded.encode pairs)) }

/-- The same URL with further pairs at the end of its query.  Where there is no pair to
append, the query is still there afterwards. -/
def appendQueryPairs (url : Url) (pairs : List (String × String)) : Url :=
  let before := (url.query.getD "").toList
  let added := Text.FormUrlEncoded.encode pairs
  let joint := if before.isEmpty || added.isEmpty then [] else ['&']
  { url with query := some (String.ofList (before ++ joint ++ added)) }

/-- A path without structure loses the spaces at its end. -/
def withoutTrailingSpaces : UrlPath → UrlPath
  | .plain text =>
    .plain (String.ofList (text.toList.reverse.dropWhile (· = ' ')).reverse)
  | path => path

/-- The same URL without a query.  A path without structure that comes last then
loses the spaces at its end. -/
def withoutQuery (url : Url) : Url :=
  { url with
    query := none
    path := if url.fragment.isNone then withoutTrailingSpaces url.path else url.path }

/-- The same URL with the given pairs, and without a query where there is none. -/
def withPairsOrNone (url : Url) (pairs : List (String × String)) : Url :=
  if pairs.isEmpty then url.withoutQuery else url.withoutQuery.withQueryPairs pairs

end Url
end DocStore
