import DocStore.Text.Unprintable

/-!
# Quoted text in messages

Text between double quotes with short escapes for the quote, the backslash and
four controls, and `\u{…}` for every other unprintable character.
-/

namespace DocStore.Text.Quoted

/-- The lower-case hexadecimal digits of a number. -/
def hexDigits (n : Nat) : List Char :=
  Nat.toDigits 16 n

/-- How one character is spelled between the quotes. -/
def encodeChar (c : Char) : List Char :=
  if c = '"' then ['\\', '"']
  else if c = '\\' then ['\\', '\\']
  else if c = '\n' then ['\\', 'n']
  else if c = '\r' then ['\\', 'r']
  else if c = '\t' then ['\\', 't']
  else if c = '\x00' then ['\\', '0']
  else if Unprintable.isUnprintable c then
    ['\\', 'u', '\x7b'] ++ hexDigits c.toNat ++ ['\x7d']
  else [c]

/-- The text between double quotes. -/
def quote (text : String) : String :=
  String.ofList ('"' :: text.toList.flatMap encodeChar ++ ['"'])

example : quote "a\"b" = "\"a\\\"b\"" := by decide +kernel
example : quote "\x7f" = "\"\\u\x7b7f\x7d\"" := by decide +kernel

end DocStore.Text.Quoted
