import HostFlash.Text.Visible

/-! # Quoted text

The quoted form of a text for messages: double quotes around it, a backslash in front of a quote
or a backslash, short escapes for the common control characters, and the code point in braces
for every other character that does not show on its own.
-/

namespace HostFlash.Text

/-- A character by its code point, as a backslash, `u` and the digits in braces. -/
def escapeCodePoint (c : Char) : List Char :=
  '\\' :: 'u' :: '\x7b' :: (Nat.toDigits 16 c.toNat ++ ['\x7d'])

/-- One character of a quoted text. -/
def escapeChar (c : Char) : List Char :=
  if c = '"' then ['\\', '"']
  else if c = '\\' then ['\\', '\\']
  else if c = '\n' then ['\\', 'n']
  else if c = '\r' then ['\\', 'r']
  else if c = '\t' then ['\\', 't']
  else if c = '\x00' then ['\\', '0']
  else if isVisible c then [c]
  else escapeCodePoint c

/-- The quoted form of a text. -/
def quoted (s : String) : String :=
  String.ofList ('"' :: (s.toList.flatMap escapeChar ++ ['"']))

end HostFlash.Text
