import HostFlash.Text.Class

/-! # Patterns

The patterns that texts and the names of files are compared with: a star for any text, a question
mark for any character, and brackets for one character of a set.
-/

namespace HostFlash.Shell

/-- A piece of a pattern. -/
inductive Glob where
  | char (c : Char)
  | anyChar
  | anyText
  | oneOf (negated : Bool) (members : List Text.Member)
deriving Repr, DecidableEq

/-- A character with a mark on it if it is quoted. -/
abbrev Marked := Char × Bool

namespace Glob

/-- The members in brackets up to the closing one, which is not the first character, and the rest.
The fuel is a bound on the characters. -/
def members : Nat → Bool → List Marked → Option (List Text.Member × List Marked)
  | 0, _, _ => none
  | _ + 1, _, [] => none
  | fuel + 1, first, (c, quoted) :: rest =>
      if c = ']' && !quoted && !first then some ([], rest)
      else
        let single : Option (List Text.Member × List Marked) :=
          match rest with
          | ('-', false) :: (d, q) :: behind =>
              if d = ']' && !q then
                (members fuel false rest).map fun (ms, rest) => (.range c c :: ms, rest)
              else (members fuel false behind).map fun (ms, rest) => (.range c d :: ms, rest)
          | rest => (members fuel false rest).map fun (ms, rest) => (.range c c :: ms, rest)
        if c = '[' && !quoted then
          match Text.className? (rest.map (·.1)) with
          | some (name, after) =>
              (members fuel false (rest.drop (rest.length - after.length))).map
                fun (ms, rest) => (.named name :: ms, rest)
          | none => single
        else single

/-- The pattern that characters spell. Quoted characters stand for themselves. The fuel is a bound
on their number. -/
def ofChars : Nat → List Marked → List Glob
  | 0, _ => []
  | _ + 1, [] => []
  | fuel + 1, (c, true) :: rest => char c :: ofChars fuel rest
  | fuel + 1, ('*', false) :: rest => anyText :: ofChars fuel rest
  | fuel + 1, ('?', false) :: rest => anyChar :: ofChars fuel rest
  | fuel + 1, ('[', false) :: rest =>
      let (negated, inner) :=
        match rest with
        | ('!', false) :: inner => (true, inner)
        | _ => (false, rest)
      match members (inner.length + 1) true inner with
      | some (ms, behind) => oneOf negated ms :: ofChars fuel behind
      | none => char '[' :: ofChars fuel rest
  | fuel + 1, (c, false) :: rest => char c :: ofChars fuel rest

/-- The pattern that characters spell. -/
def ofMarked (cs : List Marked) : List Glob := ofChars (cs.length + 1) cs

/-- A piece of a pattern other than a star stands for the character. -/
def accepts : Glob → Char → Bool
  | char a, c => a == c
  | anyChar, _ => true
  | anyText, _ => true
  | oneOf negated ms, c => ms.any (·.has c) != negated

/-- The pattern stands for the whole text. -/
def isMatch : List Glob → List Char → Bool
  | [], cs => cs.isEmpty
  | anyText :: pattern, [] => isMatch pattern []
  | anyText :: pattern, c :: cs => isMatch pattern (c :: cs) || isMatch (anyText :: pattern) cs
  | g :: pattern, c :: cs => g.accepts c && isMatch pattern cs
  | _ :: _, [] => false
termination_by pattern cs => pattern.length + cs.length

/-- A pattern that stands for one text only. -/
def literal? (pattern : List Glob) : Option String :=
  (pattern.mapM fun | char c => some c | _ => none).map String.ofList

/-- The text without a match at its front: the longest or the shortest one. -/
def dropFront (longest : Bool) (pattern : List Glob) (cs : List Char) : List Char :=
  let cuts := List.range (cs.length + 1)
  match (if longest then cuts.reverse else cuts).find? fun n => isMatch pattern (cs.take n) with
  | some n => cs.drop n
  | none => cs

/-- The text without a match at its back: the longest or the shortest one. -/
def dropBack (longest : Bool) (pattern : List Glob) (cs : List Char) : List Char :=
  let cuts := List.range (cs.length + 1)
  match (if longest then cuts else cuts.reverse).find? fun n => isMatch pattern (cs.drop n) with
  | some n => cs.take n
  | none => cs

end Glob

end HostFlash.Shell
