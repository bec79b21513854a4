/-! # Classes of characters

The named classes of characters in the C locale, where only ASCII characters are letters. -/

namespace HostFlash.Text

/-- A character that shows as more than a blank. -/
def isGraphic (c : Char) : Bool := 0x21 ≤ c.toNat && c.toNat ≤ 0x7E

/-- The class with a name. -/
def class? (name : String) : Option (Char → Bool) :=
  match name with
  | "alnum" => some Char.isAlphanum
  | "alpha" => some Char.isAlpha
  | "blank" => some fun c => c = ' ' || c = '\t'
  | "cntrl" => some fun c => c.toNat < 0x20 || c.toNat = 0x7F
  | "digit" => some Char.isDigit
  | "graph" => some isGraphic
  | "lower" => some Char.isLower
  | "print" => some fun c => isGraphic c || c = ' '
  | "punct" => some fun c => isGraphic c && !c.isAlphanum
  | "space" => some fun c => c = ' ' || (9 ≤ c.toNat && c.toNat ≤ 13)
  | "upper" => some Char.isUpper
  | "xdigit" => some fun c =>
      c.isDigit || ('a' ≤ c && c ≤ 'f') || ('A' ≤ c && c ≤ 'F')
  | _ => none

/-- The name of a class at the front of a text of the form `:name:]`, and the rest. -/
def className? (cs : List Char) : Option (String × List Char) :=
  match cs with
  | ':' :: rest =>
      let name := rest.takeWhile Char.isAlpha
      match rest.drop name.length with
      | ':' :: ']' :: rest => some (String.ofList name, rest)
      | _ => none
  | _ => none

/-- Members of a set of characters. -/
inductive Member where
  | range (low high : Char)
  | named (name : String)
deriving Repr, DecidableEq

/-- The character is among the members. -/
def Member.has (c : Char) : Member → Bool
  | range low high => low ≤ c && c ≤ high
  | named name => ((class? name).map (· c)).getD false

end HostFlash.Text
