import DocStore.RequestError
import DocStore.Text.Percent
import DocStore.Text.Split
import DocStore.Text.Utf8
import DocStore.Url.Domain

/-!
# Hosts of URLs

A host is a name or an address.  Schemes of the web have domains, which are folded,
written in ASCII and read as an IPv4 address when their last label is a number; all
other schemes have names that are taken as they are.
-/

namespace DocStore

/-- The host of a URL. -/
inductive Host where
  /-- A domain or another name; it may be empty. -/
  | named (text : String)
  /-- An IPv4 address of 32 bits. -/
  | ipv4 (address : Nat)
  /-- The eight pieces of an IPv6 address. -/
  | ipv6 (pieces : List Nat)
  deriving DecidableEq, Inhabited

namespace Host

/-! ## IPv4 -/

/-- The number that digits of a base make. -/
def numberOf (base : Nat) (digits : List Char) : Option Nat :=
  digits.foldlM
    (fun value c => do
      let d ← Text.hexDigit? c
      if d < base then some (value * base + d) else none)
    0

/-- Reads one part of an address: hexadecimal after `0x`, octal after `0`, and
decimal otherwise. -/
def ipv4Part? : List Char → Option Nat
  | [] => none
  | ['0'] => some 0
  | '0' :: 'x' :: digits => numberOf 16 digits
  | '0' :: 'X' :: digits => numberOf 16 digits
  | '0' :: digits => numberOf 8 digits
  | digits => numberOf 10 digits

/-- Whether a domain counts as an address: its last label, one empty label at the end
apart, is a number. -/
def endsInNumber (labels : List (List Char)) : Bool :=
  let last := match labels.reverse with
    | [] :: label :: _ => some label
    | [] :: [] => none
    | label :: _ => some label
    | [] => none
  match last with
  | none => false
  | some label =>
    (!label.isEmpty && label.all fun c => (Text.hexDigit? c).any (· < 10)) ||
      (ipv4Part? label).isSome

/-- Reads an address of up to four parts; the last part fills what the others leave. -/
def ipv4? (labels : List (List Char)) : Option Nat := do
  let parts := if labels.getLast? = some [] then labels.dropLast else labels
  if parts.length > 4 then none
  else do
    let numbers ← parts.mapM ipv4Part?
    let last ← numbers.getLast?
    let leading := numbers.dropLast
    if last ≥ 1 <<< (8 * (4 - leading.length)) ∨ leading.any (· > 255) then none
    else
      some <| last + (leading.zipIdx.foldl
        (fun sum entry => sum + entry.1 <<< (8 * (3 - entry.2))) 0)

/-! ## IPv6 -/

/-- Reads a piece of one to four hexadecimal digits. -/
def ipv6Piece? (chars : List Char) : Option Nat :=
  if chars.isEmpty ∨ chars.length > 4 then none else numberOf 16 chars

/-- Reads a decimal number up to 255 without zeros in front. -/
def octet? (chars : List Char) : Option Nat := do
  match chars with
  | [] => none
  | '0' :: _ :: _ => none
  | digits =>
    let value ← numberOf 10 digits
    if value ≤ 255 then some value else none

/-- Reads four octets as two pieces. -/
def ipv4Pieces? (chars : List Char) : Option (List Nat) := do
  match ← (Text.splitOn '.' chars).mapM octet? with
  | [a, b, c, d] => some [a * 256 + b, c * 256 + d]
  | _ => none

/-- Reads pieces between colons; the last one may be four octets where allowed. -/
def pieces? (octetsAllowed : Bool) (chars : List Char) : Option (List Nat) :=
  if chars.isEmpty then some []
  else
    let parts := Text.splitOn ':' chars
    let last := parts.getLastD []
    if octetsAllowed ∧ last.contains '.' then do
      let leading ← parts.dropLast.mapM ipv6Piece?
      some (leading ++ (← ipv4Pieces? last))
    else parts.mapM ipv6Piece?

/-- What stands before and after the first two colons in a row. -/
def splitAtGap : List Char → Option (List Char × List Char)
  | ':' :: ':' :: rest => some ([], rest)
  | c :: rest => (splitAtGap rest).map fun found => (c :: found.1, found.2)
  | [] => none

/-- Reads an address: eight pieces, or fewer around a gap of zeros. -/
def ipv6? (chars : List Char) : Option (List Nat) := do
  match splitAtGap chars with
  | none =>
    if chars.isEmpty then none
    else
      let pieces ← pieces? true chars
      if pieces.length = 8 then some pieces else none
  | some (before, after) =>
    let left ← pieces? false before
    let right ← pieces? true after
    let count := left.length + right.length
    if count < 8 then some (left ++ List.replicate (8 - count) 0 ++ right) else none

/-- The start and length of the first of the longest runs of zeros. -/
def longestZeros (pieces : List Nat) : Nat × Nat :=
  (List.range pieces.length).foldl
    (fun best start =>
      let run := ((pieces.drop start).takeWhile (· = 0)).length
      if run > best.2 then (start, run) else best)
    (0, 0)

/-- Writes pieces between colons. -/
def pieceChars (pieces : List Nat) : List Char :=
  Text.join ':' (pieces.map (Nat.toDigits 16))

/-- Writes an address; the longest run of at least two zeros becomes a gap. -/
def ipv6Chars (pieces : List Nat) : List Char :=
  let (start, run) := longestZeros pieces
  if run < 2 then pieceChars pieces
  else pieceChars (pieces.take start) ++ [':', ':'] ++ pieceChars (pieces.drop (start + run))

/-! ## Hosts -/

/-- Reads an address between brackets. -/
def bracketed (chars : List Char) : Except UrlFailure Host :=
  match chars.reverse with
  | ']' :: inner =>
    match ipv6? inner.reverse with
    | some pieces => .ok (.ipv6 pieces)
    | none => .error .invalidIpv6
  | _ => .error .invalidIpv6

/-- Whether a character may not stand in a name of a scheme outside the web. -/
def isForbidden (c : Char) : Bool :=
  c = '\x00' || c = ' ' || ['\t', '\n', '\r', '#', '/', ':', '<', '>', '?', '@', '[', '\\', ']',
    '^', '|'].contains c

/-- Whether a character is a control or lies beyond ASCII. -/
def isControlOrWide (c : Char) : Bool := c.toNat < 0x20 || c.toNat ≥ 0x7F

/-- Reads the name of a scheme outside the web. -/
def ofName : List Char → Except UrlFailure Host
  | '[' :: inner => bracketed inner
  | chars =>
    if chars.any isForbidden then .error .invalidDomainCharacter
    else .ok (.named (String.ofList (Text.percentEncode isControlOrWide chars)))

/-- The ASCII form of a domain, which may be percent-encoded. -/
def domainChars? (chars : List Char) : Option (List Char) := do
  let decoded ← (Text.Utf8.decode (Text.percentDecode chars)).mapM id
  Domain.ascii? decoded

/-- Reads the host of a scheme of the web. -/
def ofDomain : List Char → Except UrlFailure Host
  | '[' :: inner => bracketed inner
  | chars =>
    match domainChars? chars with
    | none => .error .invalidInternationalName
    | some [] => .error .emptyHost
    | some domain =>
      let labels := Text.splitOn '.' domain
      if endsInNumber labels then
        match ipv4? labels with
        | some address => .ok (.ipv4 address)
        | none => .error .invalidIpv4
      else .ok (.named (String.ofList domain))

/-- Writes a host. -/
def chars : Host → List Char
  | named text => text.toList
  | ipv4 address =>
    Text.join '.' ([address >>> 24, address >>> 16 % 256, address >>> 8 % 256,
      address % 256].map (Nat.toDigits 10))
  | ipv6 pieces => '[' :: ipv6Chars pieces ++ [']']

/-- Whether the host is the empty name. -/
def isEmpty : Host → Bool
  | named text => text.isEmpty
  | _ => false

example : ((ofDomain "1.2.0x3".toList).toOption.map chars) = some "1.2.0.3".toList := by
  decide +kernel
example : (ipv6? "1::2:0:0:3".toList).map ipv6Chars = some "1::2:0:0:3".toList := by
  decide +kernel

end Host
end DocStore
