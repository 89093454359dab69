import DocStore.Text.Percent
import DocStore.Text.Split
import DocStore.Text.Utf8

/-!
# Form encoding of pairs

Pairs of names and values as the query of a URL carries them: `name=value` joined
by `&`, a plus sign for a space, and `%XX` for every byte outside the letters,
digits and `*-._`.  Reading is lenient: a percent sign without two hexadecimal
digits stands for itself, and bytes that are no text read as replacement
characters.
-/

namespace DocStore.Text
namespace FormUrlEncoded

/-- The characters that stand for themselves. -/
def isPlain (c : Char) : Bool :=
  ('0' ≤ c && c ≤ '9') || ('A' ≤ c && c ≤ 'Z') || ('a' ≤ c && c ≤ 'z') ||
    c == '*' || c == '-' || c == '.' || c == '_'

/-- Writes one name or value. -/
def encodeComponent (text : String) : List Char :=
  text.toList.flatMap fun c =>
    if isPlain c then [c] else if c = ' ' then ['+'] else (charBytes c).flatMap percentByte

/-- Writes one pair. -/
def encodePair (pair : String × String) : List Char :=
  encodeComponent pair.1 ++ '=' :: encodeComponent pair.2

/-- Writes pairs in order. -/
def encode (pairs : List (String × String)) : List Char :=
  ['&'].intercalate (pairs.map encodePair)

/-- Reads one name or value. -/
def decodeComponent (chars : List Char) : String :=
  Utf8.decodeLossy (percentDecode (chars.map fun c => if c = '+' then ' ' else c))

/-- Reads one piece between `&` signs; without `=` it is a name alone. -/
def decodePair (piece : List Char) : String × String :=
  (decodeComponent (piece.takeWhile (· ≠ '=')),
    decodeComponent ((piece.dropWhile (· ≠ '=')).drop 1))

/-- Reads pairs; empty pieces do not count. -/
def decode (query : List Char) : List (String × String) :=
  ((splitOn '&' query).filter (!·.isEmpty)).map decodePair

example : decode "a=b+c&&d".toList = [("a", "b c"), ("d", "")] := by decide +kernel
example : encode [("a b", "1/2")] = "a+b=1%2F2".toList := by decide +kernel

end FormUrlEncoded
end DocStore.Text
