import DocStore.Url.Basic

/-!
# Reading URLs

Reading follows the rules of the web: blanks around the text and line breaks within
do not count, schemes of the web take backslashes for slashes and always have a
host, dot segments are resolved, and whatever may not stand in a part is
percent-encoded.
-/

namespace DocStore
namespace Url
namespace Reader

/-! ## What is percent-encoded -/

/-- Characters encoded in fragments. -/
def inFragmentSet (c : Char) : Bool :=
  Host.isControlOrWide c || [' ', '"', '<', '>', '\x60'].contains c

/-- Characters encoded in queries. -/
def inQuerySet (c : Char) : Bool :=
  Host.isControlOrWide c || [' ', '"', '#', '<', '>'].contains c

/-- Characters encoded in queries of the web. -/
def inWebQuerySet (c : Char) : Bool := inQuerySet c || c = '\''

/-- Characters encoded in path segments. -/
def inPathSet (c : Char) : Bool :=
  inFragmentSet c || ['#', '?', '\x7b', '\x7d'].contains c

/-- Characters encoded in credentials. -/
def inCredentialSet (c : Char) : Bool :=
  inPathSet c || ['/', ':', ';', '=', '@', '[', '\\', ']', '^', '|'].contains c

/-- The text of characters with those of a set encoded. -/
def encoded (inSet : Char → Bool) (chars : List Char) : String :=
  String.ofList (Text.percentEncode inSet chars)

/-! ## Schemes -/

/-- How a scheme is read. -/
inductive SchemeKind where
  /-- A scheme of the web with its own port. -/
  | web (port : Nat)
  /-- Files, which have a host only sometimes. -/
  | file
  /-- Any other scheme. -/
  | other
  deriving DecidableEq

/-- The kind of a scheme. -/
def SchemeKind.of (scheme : String) : SchemeKind :=
  if scheme = "http" ∨ scheme = "ws" then .web 80
  else if scheme = "https" ∨ scheme = "wss" then .web 443
  else if scheme = "ftp" then .web 21
  else if scheme = "file" then .file
  else .other

/-- Whether backslashes count as slashes. -/
def SchemeKind.isSpecial (kind : SchemeKind) : Bool := kind != .other

/-- Whether a character separates path segments. -/
def SchemeKind.isSlash (kind : SchemeKind) (c : Char) : Bool :=
  c = '/' || (kind.isSpecial && c = '\\')

/-- Whether a character is an ASCII letter. -/
def isLetter (c : Char) : Bool := ('a' ≤ c && c ≤ 'z') || ('A' ≤ c && c ≤ 'Z')

/-- Whether a character is an ASCII digit. -/
def isDigit (c : Char) : Bool := '0' ≤ c && c ≤ '9'

/-- Reads a scheme and the colon behind it. -/
def scheme? (chars : List Char) : Option (String × List Char) :=
  let inScheme := fun c => isLetter c || isDigit c || c = '+' || c = '-' || c = '.'
  match chars.head?, chars.span inScheme with
  | some first, (scheme, ':' :: rest) =>
    if isLetter first then some (String.ofList (scheme.map Char.toLower), rest) else none
  | _, _ => none

/-! ## Authorities -/

/-- Whether a character ends an authority. -/
def endsAuthority (kind : SchemeKind) (c : Char) : Bool :=
  kind.isSlash c || c = '?' || c = '#'

/-- Splits an authority at its last `@`. -/
def splitCredentials : List Char → Option (List Char × List Char)
  | [] => none
  | c :: rest =>
    match splitCredentials rest with
    | some (before, after) => some (c :: before, after)
    | none => if c = '@' then some ([], rest) else none

/-- Reads a user name and a password around the first colon. -/
def credentials (chars : List Char) : String × String :=
  (encoded inCredentialSet (chars.takeWhile (· ≠ ':')),
    encoded inCredentialSet ((chars.dropWhile (· ≠ ':')).drop 1))

/-- Splits a host from what follows it: a colon outside of brackets, a slash, a
question mark or a number sign. -/
def splitHost (kind : SchemeKind) : Bool → List Char → List Char × List Char
  | _, [] => ([], [])
  | inside, c :: rest =>
    if endsAuthority kind c || (c = ':' && !inside) then ([], c :: rest)
    else
      let inside := if c = '[' then true else if c = ']' then false else inside
      let (host, after) := splitHost kind inside rest
      (c :: host, after)

/-- Reads the digits of a port up to something that ends an authority. -/
def portDigits (value : Option Nat) : List Char → Except UrlFailure (Option Nat × List Char)
  | [] => .ok (value, [])
  | c :: rest =>
    if isDigit c then
      let next := value.getD 0 * 10 + (c.toNat - '0'.toNat)
      if next > 65535 then .error .invalidPort else portDigits (some next) rest
    else if ['/', '\\', '?', '#'].contains c then .ok (value, c :: rest)
    else .error .invalidPort

/-- Reads a port behind its colon; the scheme's own port is left out. -/
def port (kind : SchemeKind) : List Char → Except UrlFailure (Option Nat × List Char)
  | ':' :: rest => do
    let (value, rest) ← portDigits none rest
    let ownPort := match kind with
      | .web number => some number
      | _ => none
    .ok (if value = ownPort then none else value, rest)
  | rest => .ok (none, rest)

/-- Reads a host and checks that it may be empty where it is. -/
def host (kind : SchemeKind) (chars : List Char) : Except UrlFailure Host :=
  if kind.isSpecial then
    if chars.isEmpty then .error .emptyHost else Host.ofDomain chars
  else Host.ofName chars

/-- Reads an authority behind its slashes. -/
def authority (kind : SchemeKind) (chars : List Char) :
    Except UrlFailure (Authority × List Char) := do
  let extent := chars.takeWhile fun c => !endsAuthority kind c
  let beyond := chars.dropWhile fun c => !endsAuthority kind c
  let split := splitCredentials extent
  let (username, password) := credentials ((split.map (·.1)).getD [])
  let hostAndPort := (split.map (·.2)).getD extent ++ beyond
  let emptyCredentials := split.any fun found => found.1.isEmpty
  if emptyCredentials ∧ hostAndPort.head?.any (endsAuthority kind) then throw .emptyHost
  let (hostChars, rest) := splitHost kind false hostAndPort
  let host ← host kind hostChars
  if host.isEmpty ∧ rest.head? = some ':' then throw .emptyHost
  let (port, rest) ← port kind rest
  if host.isEmpty ∧ !(username.isEmpty ∧ password.isEmpty) then throw .emptyHost
  return (⟨username, password, host, port⟩, rest)

/-! ## Paths -/

/-- Whether a segment stands for its own place. -/
def isSingleDot (segment : List Char) : Bool :=
  let lower := segment.map Char.toLower
  lower = ['.'] || lower = ['%', '2', 'e']

/-- Whether a segment stands for the place above. -/
def isDoubleDot (segment : List Char) : Bool :=
  let lower := segment.map Char.toLower
  lower = ['.', '.'] || lower = ['%', '2', 'e', '.'] || lower = ['.', '%', '2', 'e'] ||
    lower = ['%', '2', 'e', '%', '2', 'e']

/-- Whether a segment names a drive. -/
def isDrive : List Char → Bool
  | [letter, mark] => isLetter letter && (mark = ':' || mark = '|')
  | _ => false

/-- Whether a segment starts with the name of a drive that a slash of either kind ends. -/
def startsWithDrive (segment : List Char) : Bool :=
  isDrive (segment.take 2) && (segment.drop 2).head?.all (· = '\\')

/-- Whether a character breaks a line or is a tab. -/
def isBreak (c : Char) : Bool := c = '\t' || c = '\n' || c = '\r'

/-- Whether a break sets a drive apart from what a segment goes on with. -/
def breaksBehindDrive (segment : List Char) : Bool :=
  let name := segment.filter (!isBreak ·)
  let behindColon := (segment.dropWhile (· ≠ ':')).drop 1
  isDrive (name.take 2) && name[1]? = some ':' && name.length > 2 &&
    behindColon.head?.any isBreak

/-- How far a path is read. -/
structure Walk where
  /-- The segments that are entered, the last one first. -/
  above : List String
  /-- Whether the path was entered through a drive. -/
  onDrive : Bool

/-- Leaves the last segment; a drive is never left. -/
def Walk.leave (walk : Walk) : Walk :=
  match walk.above with
  | last :: above => if startsWithDrive last.toList then walk else { walk with above }
  | [] => walk

/-- Enters a segment.  Dots enter nothing; the first segment of a file may be a drive,
alone or with a break behind it. -/
def Walk.enter (kind : SchemeKind) (walk : Walk) (segment : List Char) : Walk :=
  let name := segment.filter (!isBreak ·)
  let atStart := kind = .file ∧ walk.above.isEmpty
  if atStart ∧ breaksBehindDrive segment then
    { walk with above := [encoded inPathSet (name.drop 2), String.ofList (name.take 2)] }
  else if isDoubleDot name then walk.leave
  else if isSingleDot name then walk
  else if atStart ∧ isDrive name then ⟨[String.ofList (name.take 1 ++ [':'])], true⟩
  else { walk with above := encoded inPathSet name :: walk.above }

/-- Enters the last segment; behind dots it is an empty one. -/
def Walk.finish (kind : SchemeKind) (walk : Walk) (segment : List Char) : Walk :=
  let name := segment.filter (!isBreak ·)
  let walk' := walk.enter kind segment
  if isSingleDot name || isDoubleDot name then { walk' with above := "" :: walk'.above }
  else walk'

/-- The pieces of a path between its slashes. -/
def rawSegments (kind : SchemeKind) (chars : List Char) : List (List Char) :=
  Text.splitOn '/' (chars.map fun c => if kind.isSlash c then '/' else c)

/-- Enters the segments of a path one by one. -/
def walkThrough (kind : SchemeKind) (walk : Walk) : List (List Char) → Walk
  | [] => walk
  | [segment] => walk.finish kind segment
  | segment :: rest => walkThrough kind (walk.enter kind segment) rest

/-- Drops empty segments in front of another one. -/
def dropLeadingEmpty : List String → List String
  | "" :: next :: rest => dropLeadingEmpty (next :: rest)
  | path => path

/-- Reads the segments of a path after its first slash. -/
def walkPath (kind : SchemeKind) (chars : List Char) : Walk :=
  walkThrough kind ⟨[], false⟩ (rawSegments kind chars)

/-- The path that a walk took; the path of a file does not start with empty segments. -/
def Walk.path (kind : SchemeKind) (walk : Walk) : UrlPath :=
  let names := walk.above.reverse
  .segments (if kind = .file then dropLeadingEmpty names else names)

/-- Whether a character ends a path. -/
def endsPath (c : Char) : Bool := c = '?' || c = '#'

/-- A path without a slash in front. -/
def dropSlash (kind : SchemeKind) (chars : List Char) : List Char :=
  match chars.dropWhile isBreak with
  | [] => []
  | c :: rest => if kind.isSlash c then rest else c :: rest

/-- Reads the path that follows an authority: schemes of the web always have one. -/
def pathAfterAuthority (kind : SchemeKind) (chars : List Char) : UrlPath :=
  if chars.isEmpty ∧ !kind.isSpecial then .segments []
  else (walkPath kind (dropSlash kind chars)).path kind

/-! ## Whole URLs -/

/-- Reads the fragment behind its mark. -/
def fragment? : List Char → Option String
  | '#' :: rest => some (encoded inFragmentSet rest)
  | _ => none

/-- Reads the query behind its mark, up to the fragment. -/
def query? (kind : SchemeKind) : List Char → Option String
  | '?' :: rest =>
    some (encoded (if kind.isSpecial then inWebQuerySet else inQuerySet)
      (rest.takeWhile (· ≠ '#')))
  | _ => none

/-- Splits what ends a path from the path. -/
def splitPath (chars : List Char) : List Char × List Char := chars.span fun c => !endsPath c

/-- Puts a URL together with the query and the fragment that are left to read. -/
def finish (kind : SchemeKind) (scheme : String) (authority : Option Authority) (path : UrlPath)
    (rest : List Char) : Url where
  scheme
  authority
  path
  query := query? kind rest
  fragment := fragment? (rest.dropWhile (· ≠ '#'))

/-- Reads the host of a file URL; the local host is none. -/
def fileHost (chars : List Char) : Except UrlFailure Host :=
  if chars.isEmpty then .ok (.named "")
  else do
    let host ← Host.ofDomain chars
    .ok (if host = .named "localhost" then .named "" else host)

/-- What follows two slashes. -/
def afterSlashes? (kind : SchemeKind) (chars : List Char) : Option (List Char) :=
  match chars.dropWhile isBreak with
  | [] => none
  | a :: rest =>
    match rest.dropWhile isBreak with
    | [] => none
    | b :: rest => if kind.isSlash a && kind.isSlash b then some rest else none

/-- Reads a file URL after its scheme, breaks included.  A host makes way for a drive. -/
def fileUrl (chars : List Char) : Except UrlFailure Url := do
  let (path, rest) := splitPath chars
  let rest := rest.filter (!isBreak ·)
  let (host, walk) ← match afterSlashes? .file path with
    | none => pure (Host.named "", walkPath .file (dropSlash .file path))
    | some beyond =>
      let name := (beyond.takeWhile fun c => !SchemeKind.file.isSlash c).filter (!isBreak ·)
      let after := beyond.dropWhile fun c => !SchemeKind.file.isSlash c
      if isDrive name then pure (Host.named "", walkPath .file beyond)
      else do
        let host ← fileHost name
        pure (host, walkPath .file (if name.isEmpty then after else dropSlash .file after))
  let host := if walk.onDrive then Host.named "" else host
  return finish .file "file" (some ⟨"", "", host, none⟩) (walk.path .file) rest

/-- Reads a URL with an authority, after its slashes. -/
def hierarchicalUrl (kind : SchemeKind) (scheme : String) (chars : List Char) :
    Except UrlFailure Url := do
  let (authority, rest) ← authority kind chars
  let (path, rest) := splitPath rest
  return finish kind scheme (some authority) (pathAfterAuthority kind path) rest

/-- Reads a URL of a scheme outside the web, after its scheme. -/
def otherUrl (scheme : String) (chars : List Char) : Except UrlFailure Url :=
  match chars with
  | '/' :: '/' :: rest => hierarchicalUrl .other scheme rest
  | '/' :: rest =>
    let (path, rest) := splitPath rest
    .ok (finish .other scheme none ((walkPath .other path).path .other) rest)
  | rest =>
    let (path, rest) := splitPath rest
    .ok (finish .other scheme none (.plain (encoded Host.isControlOrWide path)) rest)

/-- Whether a character at an end of the text does not count. -/
def isOuterBlank (c : Char) : Bool := c.toNat ≤ 0x20

/-- A text without blanks at both ends. -/
def trimmed (chars : List Char) : List Char :=
  ((chars.dropWhile isOuterBlank).reverse.dropWhile isOuterBlank).reverse

end Reader

/-- Reads an absolute URL.  Line breaks and tabs within do not count, but for the paths of
files, where one may set a drive apart. -/
def ofText (text : String) : Except UrlFailure Url :=
  let all := Reader.trimmed text.toList
  match Reader.scheme? (all.filter (!Reader.isBreak ·)) with
  | none => .error .relativeWithoutBase
  | some (scheme, rest) =>
    match Reader.SchemeKind.of scheme with
    | .file => Reader.fileUrl ((all.dropWhile (· ≠ ':')).drop 1)
    | .other => Reader.otherUrl scheme rest
    | kind => Reader.hierarchicalUrl kind scheme (rest.dropWhile kind.isSlash)

end Url
end DocStore
