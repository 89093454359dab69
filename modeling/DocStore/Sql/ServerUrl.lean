import DocStore.StoreError
import DocStore.Text.Numeral
import DocStore.Url.Reader

/-!
# Connection strings of servers

A connection string names the server, the user and the database, and carries further
options among the pairs of its query.  What can be wrong with it shows before anything is
sent.  Connections are not encrypted, so a server cannot be asked for that.
-/

namespace DocStore
namespace Sql

/-- What is wrong with a connection string. -/
inductive ServerUrlFault where
  /-- A part spells bytes that are no text. -/
  | notText (fault : Text.Utf8.Fault)
  /-- An option must be a number. -/
  | notNumber (failure : Text.Numeral.Failure)
  /-- An option must be the address of a host. -/
  | notAddress
  /-- There is no such way to encrypt. -/
  | unknownEncryption (name : String)
  /-- Connections are not encrypted. -/
  | encryptionDemanded
  deriving DecidableEq, Repr

namespace ServerUrlFault

/-- The wording of bytes that are no text. -/
def textFault (fault : Text.Utf8.Fault) : String :=
  let shown (n : Nat) := String.ofList (Text.Numeral.showNat n)
  match fault.length with
  | some length =>
    "invalid utf-8 sequence of " ++ shown length ++ " bytes from index " ++ shown fault.index
  | none => "incomplete utf-8 byte sequence from index " ++ shown fault.index

/-- The wording of a fault of an option. -/
def ofOption (cause : String) : String := "error with configuration: " ++ cause

/-- The wording of a fault. -/
def message : ServerUrlFault → String
  | notText fault => ofOption (textFault fault)
  | notNumber failure => ofOption failure.message
  | notAddress => ofOption "invalid IP address syntax"
  | unknownEncryption name =>
    ofOption (ofOption ("unknown value " ++ Text.Quoted.quote name ++ " for \x60ssl_mode\x60"))
  | encryptionDemanded =>
    "error occurred while attempting to establish a TLS connection: " ++
      "TLS upgrade required by connect options but SQLx was built without TLS support enabled"

end ServerUrlFault

namespace ServerUrl

/-- Checks that what percent signs spell is text. -/
def checkText (chars : List Char) : Except ServerUrlFault Unit :=
  match Text.Utf8.fault? (Text.percentDecode chars) with
  | some fault => .error (.notText fault)
  | none => .ok ()

/-- Checks a number that is not too great. -/
def checkNumber (greatest : Nat) (value : String) : Except ServerUrlFault Unit :=
  match Text.Numeral.readNat greatest value.toList with
  | .ok _ => .ok ()
  | .error failure => .error (.notNumber failure)

/-- Checks the address of a host. -/
def checkAddress (value : String) : Except ServerUrlFault Unit :=
  if (Host.ipv4Pieces? value.toList).isSome || (Host.ipv6? value.toList).isSome then .ok ()
  else .error .notAddress

/-- The ways to encrypt, each with whether it insists on that. -/
def encryptions : List (String × Bool) :=
  [("disable", false), ("allow", false), ("prefer", false), ("require", true),
    ("verify-ca", true), ("verify-full", true)]

/-- Reads whether encryption is insisted on. -/
def readEncryption (value : String) : Except ServerUrlFault Bool :=
  match encryptions.lookup (String.ofList (value.toList.map Char.toLower)) with
  | some insists => .ok insists
  | none => .error (.unknownEncryption value)

/-- Takes in an option: whether encryption is insisted on so far and after it. -/
def addOption (insists : Bool) (pair : String × String) : Except ServerUrlFault Bool :=
  let (name, value) := pair
  if name = "sslmode" ∨ name = "ssl-mode" then readEncryption value
  else if name = "statement-cache-capacity" then
    (checkNumber Text.Numeral.max64 value).map fun _ => insists
  else if name = "port" then (checkNumber (1 <<< 16 - 1) value).map fun _ => insists
  else if name = "hostaddr" then (checkAddress value).map fun _ => insists
  else .ok insists

/-- A host that is the path of a file; such a host must be text. -/
def filePath (host : Host) : List Char :=
  if (Text.percentDecode host.chars).head? = some 0x2F then host.chars else []

/-- Checks a connection string. -/
def check (url : Url) : Except ServerUrlFault Unit := do
  if let some authority := url.authority then
    checkText (filePath authority.host)
    checkText authority.username.toList
    checkText authority.password.toList
  checkText ((Url.pathChars url.path).dropWhile (· = '/'))
  if ← url.queryPairs.foldlM addOption false then throw .encryptionDemanded

/-- The error of a connection string. -/
def connectionError (fault : ServerUrlFault) : StoreError := .connection fault.message

end ServerUrl
end Sql
end DocStore
