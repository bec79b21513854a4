import HostFlash.Shell.Pattern
import HostFlash.Shell.Session

/-! # Expanded words

What the parts of a word expand to, and how that is read: as fields, as one text, or as a
pattern. Only values that are not quoted fall into several fields, at the separators of the
session: separators that are blanks count once however many stand together, and any other
separator ends a field, even an empty one.
-/

namespace HostFlash.Shell

/-- Where an expanded text comes from. -/
inductive Origin where
  | quoted
  | script
  | value
deriving Repr, DecidableEq

/-- A piece of an expanded word: a text, or the gap between two arguments. -/
inductive Piece where
  | text (value : String) (origin : Origin)
  | gap
deriving Repr, DecidableEq

/-- A field: its texts with a mark on those that are quoted, in order. -/
abbrev Field := List (String × Bool)

namespace Piece

/-- Fields, newest first, and the field that is being read, if one has begun, also newest first.
`closed` says that a blank has just ended a field. -/
structure Reader where
  done : List Field
  current : Option Field
  closed : Bool
deriving Repr, DecidableEq

namespace Reader

/-- Ends the field that is being read. -/
def flush (r : Reader) : Reader :=
  match r.current with
  | some field => { r with done := field.reverse :: r.done, current := none }
  | none => r

/-- Reads a text of a field. -/
def push (r : Reader) (text : String) (quoted : Bool) : Reader :=
  { r with current := some ((text, quoted) :: r.current.getD []), closed := false }

/-- Reads a value that may hold separators. -/
def split (separators : List Char) : Nat → Reader → List Char → Reader
  | 0, r, _ => r
  | _ + 1, r, [] => r
  | fuel + 1, r, c :: rest =>
      if separators.contains c then
        if c = ' ' || c = '\t' || c = '\n' then
          let r := if r.current.isSome then { r.flush with closed := true } else r
          split separators fuel r rest
        else
          let r :=
            if r.current.isSome then r.flush
            else if r.closed then r
            else { r with done := [] :: r.done }
          split separators fuel { r with closed := false } rest
      else
        let word := (c :: rest).takeWhile fun c => !separators.contains c
        split separators fuel (r.push (String.ofList word) false)
          ((c :: rest).drop word.length)

/-- Reads a piece. -/
def feed (separators : List Char) (r : Reader) : Piece → Reader
  | .gap => { r.flush with closed := false }
  | .text value .value =>
      let cs := value.toList
      if cs.isEmpty then r
      else if cs.any separators.contains then split separators (cs.length + 1) r cs
      else r.push value false
  | .text value .script => if value = "" then r else r.push value false
  | .text value .quoted => r.push value true

end Reader

/-- The fields of an expanded word. -/
def fields (separators : List Char) (pieces : List Piece) : List Field :=
  (pieces.foldl (Reader.feed separators) ⟨[], none, false⟩).flush.done.reverse

/-- An expanded word as one text, with the arguments joined by a separator. -/
def joined (separator : String) (pieces : List Piece) : String :=
  pieces.foldl (fun s piece =>
    match piece with
    | .text value _ => s ++ value
    | .gap => s ++ separator) ""

/-- A value as characters of a pattern, in which a backslash quotes the next one. -/
def markValue : List Char → List Marked
  | '\\' :: c :: rest => (c, true) :: markValue rest
  | c :: rest => (c, false) :: markValue rest
  | [] => []

/-- An expanded word as characters of a pattern. -/
def marked (separator : String) (pieces : List Piece) : List Marked :=
  pieces.flatMap fun
    | .text value .quoted => value.toList.map fun c => (c, true)
    | .text value .script => value.toList.map fun c => (c, false)
    | .text value .value => markValue value.toList
    | .gap => separator.toList.map fun c => (c, true)

/-- An expanded word as a pattern. -/
def pattern (separator : String) (pieces : List Piece) : List Glob :=
  Glob.ofMarked (marked separator pieces)

end Piece

namespace Field

/-- The text of a field. -/
def text (f : Field) : String := f.foldl (fun s part => s ++ part.1) ""

/-- The field may stand for the names of files. -/
def isPattern (f : Field) : Bool :=
  f.any fun (value, quoted) => !quoted && value.toList.any fun c => c = '*' || c = '?' || c = '['

/-- The characters of a field. -/
def marked (f : Field) : List Marked :=
  f.flatMap fun (value, quoted) => value.toList.map fun c => (c, quoted)

/-- The characters between the slashes. -/
def pieces (cs : List Marked) : List (List Marked) :=
  cs.foldr (fun c pieces =>
    match pieces with
    | [] => [[c]]
    | p :: rest => if c.1 = '/' then [] :: p :: rest else (c :: p) :: rest) [[]]

end Field

/-- The text between arguments that are joined. -/
def joint (s : Session) : String :=
  match s.valueOf? "IFS" with
  | none => " "
  | some value =>
      match value.toList with
      | [] => ""
      | c :: _ => String.singleton c

/-- The pieces of all arguments, one field for each. -/
def argumentPieces (origin : Origin) (args : List String) : List Piece :=
  (args.map fun a => Piece.text a origin).intersperse .gap

/-- The value is missing: unset, or with `emptyToo` empty. -/
def isMissing (emptyToo : Bool) (value : Option String) : Bool :=
  match value with
  | none => true
  | some value => emptyToo && value = ""

/-- A directory that a tilde stands for, for a name behind it. -/
def homeOf? (s : Session) (name : String) : Option String :=
  match name with
  | "" => s.valueOf? "HOME"
  | "root" => some "/root"
  | _ => none

/-- A word with the directory in place of a tilde at its front. Within an assignment the tilde may
stand behind a colon too, and a colon ends its name. -/
def withHome (s : Session) (inAssignment : Bool) (word : Word) : Word :=
  match word with
  | .text value false :: rest =>
      let expand (last : Bool) (piece : List Char) : Word :=
        match piece with
        | '~' :: cs =>
            let name := cs.takeWhile (· ≠ '/')
            let after := cs.drop name.length
            if after = [] && last && !rest.isEmpty then [.text (String.ofList piece) false]
            else
              match homeOf? s (String.ofList name) with
              | some home =>
                  if after = [] then [.text home true]
                  else [.text home true, .text (String.ofList after) false]
              | none => [.text (String.ofList piece) false]
        | _ => [.text (String.ofList piece) false]
      let pieces := if inAssignment then Text.splitOn ':' value.toList else [value.toList]
      if !value.toList.contains '~' then word
      else
        let count := pieces.length
        let expanded := (pieces.zipIdx.map fun (p, i) => expand (i + 1 = count) p).intersperse
          [.text ":" false]
        expanded.flatten ++ rest
  | _ => word

end HostFlash.Shell
