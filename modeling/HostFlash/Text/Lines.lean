/-! # Splitting text

`splitOn` cuts a text at every separator, so that the pieces joined by the separator give the
text back. `lines` is the reading of a text as lines: a line ends at a line feed, or at a
carriage return and a line feed, and the ending of the last line is optional.
-/

namespace HostFlash.Text

/-- One character more in front of pieces that are already split. -/
def splitStep (separator c : Char) : List (List Char) → List (List Char)
  | [] => if c = separator then [[], []] else [[c]]
  | piece :: pieces => if c = separator then [] :: piece :: pieces else (c :: piece) :: pieces

/-- The pieces between the separators; a text with `n` separators has `n + 1` pieces. -/
def splitOn (separator : Char) (cs : List Char) : List (List Char) :=
  cs.foldr (splitStep separator) [[]]

@[simp] theorem splitOn_nil (separator : Char) : splitOn separator [] = [[]] := rfl

@[simp] theorem splitOn_cons (separator c : Char) (cs : List Char) :
    splitOn separator (c :: cs) = splitStep separator c (splitOn separator cs) := rfl

/-- Splitting always gives at least one piece. -/
theorem splitOn_ne_nil (separator : Char) (cs : List Char) : splitOn separator cs ≠ [] := by
  induction cs with
  | nil => simp
  | cons c cs _ =>
      rw [splitOn_cons]
      cases splitOn separator cs <;> simp only [splitStep] <;> split <;> simp

/-- The text before the first separator and the text after it, if there is a separator. -/
def cutAt? (separator : Char) (cs : List Char) : Option (List Char × List Char) :=
  match cs.dropWhile (· ≠ separator) with
  | [] => none
  | _ :: rest => some (cs.takeWhile (· ≠ separator), rest)

/-- A line without the carriage return in front of its line feed. -/
def dropReturn (line : List Char) : List Char :=
  if line.getLast? = some '\r' then line.dropLast else line

/-- The lines of a text. A line that no line feed ends keeps its carriage return. -/
def lines (cs : List Char) : List (List Char) :=
  let pieces := splitOn '\n' cs
  let final := pieces.getLast?.getD []
  pieces.dropLast.map dropReturn ++ (if final = [] then [] else [final])

end HostFlash.Text
