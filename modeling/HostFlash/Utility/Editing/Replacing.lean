import HostFlash.Text.Class
import HostFlash.Utility.Editing.Syntax

/-! # Replacing matches

What the matches of a pattern in a text are replaced by, and how a text is listed so that all of its
characters can be told.
-/

namespace HostFlash.Utility.Editing

namespace Casing

/-- A letter in a casing. -/
def apply (casing : Casing) (c : Char) : Char :=
  match casing with
  | kept => c
  | upper => c.toUpper
  | lower => c.toLower

end Casing

/-- The text of a group of a match. -/
def groupText (m : Text.Regex.Matching) (groups : Text.Regex.Groups) (number : Nat) :
    List Char :=
  match groups.find? (·.1 = number) with
  | some (_, start, stop) => (m.text.extract start stop).toList
  | none => []

/-- Letters in a casing, of which the first may be in another one. -/
def recased (casing : Casing) (next : Option Casing) : List Char → List Char × Option Casing
  | [] => ([], next)
  | c :: cs =>
      ((match next with | some first => first.apply c | none => casing.apply c) ::
        cs.map casing.apply, none)

/-- What a match is replaced by. -/
def replacementText (m : Text.Regex.Matching) (groups : Text.Regex.Groups) :
    Casing → Option Casing → List Part → List Char
  | _, _, [] => []
  | casing, next, .char c :: parts =>
      let (cs, next) := recased casing next [c]
      cs ++ replacementText m groups casing next parts
  | casing, next, .group n :: parts =>
      let (cs, next) := recased casing next (groupText m groups n)
      cs ++ replacementText m groups casing next parts
  | _, _, .casing casing :: parts => replacementText m groups casing none parts
  | casing, _, .next next :: parts => replacementText m groups casing (some next) parts

/-- How far the replacing of matches is. -/
structure Replacing where
  /-- What was written, in reverse. -/
  written : List Char
  found : Nat
  /-- Where the match before this one ended. -/
  last : Option Nat
  changed : Bool

/-- Replaces matches from a place on. The fuel is a bound on the number of places. -/
def replaceFrom (s : Substitution) (r : Text.Regex) (m : Text.Regex.Matching) :
    Nat → Nat → Replacing → Replacing
  | 0, _, p => p
  | fuel + 1, start, p =>
      let copy (low high : Nat) (p : Replacing) : Replacing :=
        { p with written := (m.text.extract low high).toList.reverse ++ p.written }
      if start > m.text.size then p
      else
        match r.find? m start with
        | none => copy start m.text.size p
        | some (i, j) =>
            let p := copy start i p
            let proceed (p : Replacing) : Replacing :=
              if i = j then
                replaceFrom s r m fuel (j + 1) { copy j (j + 1) p with last := none }
              else replaceFrom s r m fuel j { p with last := some j }
            if i = j && p.last = some i then proceed p
            else
              let p := { p with found := p.found + 1 }
              if p.found < s.first then proceed (copy i j p)
              else
                let groups := (0, i, j) :: r.groupsOf m i j
                let text := replacementText m groups .kept none s.replacement
                let p := { p with written := text.reverse ++ p.written, changed := true }
                if s.all then proceed p else copy j m.text.size p

/-- Replaces matches in a text, and gives the answer whether there were any. -/
def Substitution.apply (s : Substitution) (p : Pattern) (text : String) : String × Bool :=
  let m : Text.Regex.Matching := ⟨text.toList.toArray, p.folded, p.manyLines⟩
  let result := replaceFrom s p.regex m (m.text.size + 2) 0 ⟨[], 0, none, false⟩
  (String.ofList result.written.reverse, result.changed)

/-- A text fits a pattern. -/
def Pattern.fits (p : Pattern) (text : String) : Bool :=
  (p.regex.find? ⟨text.toList.toArray, p.folded, p.manyLines⟩ 0).isSome

/-- Three octal digits. -/
def octal (n : Nat) : String :=
  let digit (k : Nat) : Char := Char.ofNat (48 + k % 8)
  String.ofList [digit (n / 64), digit (n / 8), digit n]

/-- A character as it is listed. -/
def listed (c : Char) : String :=
  match c with
  | '\\' => "\\\\"
  | '\x07' => "\\a"
  | '\x08' => "\\b"
  | '\x0c' => "\\f"
  | '\n' => "\\n"
  | '\r' => "\\r"
  | '\t' => "\\t"
  | '\x0b' => "\\v"
  | c => if Text.isGraphic c || c = ' ' then String.singleton c else "\\" ++ octal c.toNat

/-- A text as it is listed, in lines of a width at most. A width of nothing stands for any width. -/
def listing (width : Nat) (text : String) : String :=
  let (lines, _) := text.toList.foldl (fun (read, used) c =>
    let piece := listed c
    if width > 0 && used + piece.length > width - 1 then (read ++ "\\\n" ++ piece, piece.length)
    else (read ++ piece, used + piece.length)) ("", 0)
  lines ++ "$"

end HostFlash.Utility.Editing
