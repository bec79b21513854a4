import HostFlash.Shell.Expansion

/-! # Names of files in place of patterns

The paths that a field with a pattern stands for: name by name, each directory is searched for the
names that its part of the pattern stands for. A field that no path fits stays as it is.
-/

namespace HostFlash.Shell

namespace Field

/-- The names in a directory that a pattern stands for. Names that begin with a dot need a pattern
that does. -/
def namesIn (directory : String) (pattern : List Glob) : Run (List String) := do
  match ← Run.ask (.list (if directory = "" then "." else directory)) with
  | .error _ => pure []
  | .ok names =>
      let dotted := pattern.head? = some (.char '.')
      let names := if dotted then "." :: ".." :: names else names
      pure (names.filter fun name =>
        (dotted || name.toList.head? ≠ some '.') && Glob.isMatch pattern name.toList)

/-- The text of marked characters. -/
def plain (cs : List Marked) : String := String.ofList (cs.map (·.1))

/-- The paths that begin with `front` and go on as the pieces say. -/
def pathsFrom (front : String) : List (List Marked) → Run (List String)
  | [] => pure [front]
  | piece :: rest => do
      let separator := if rest = [] then "" else "/"
      let pattern := Glob.ofMarked piece
      match Glob.literal? pattern with
      | some _ =>
          let path := front ++ plain piece ++ separator
          if rest = [] then
            match ← Run.ask (.inspect path false) with
            | .ok _ => pure [path]
            | .error _ => pure []
          else pathsFrom path rest
      | none => do
          let names ← namesIn front pattern
          let found ← names.mapM fun name => pathsFrom (front ++ name ++ separator) rest
          pure found.flatten

/-- The paths that a field stands for. -/
def paths (f : Field) : Run (List String) := do
  if !f.isPattern || (← get).has .plainPatterns then pure [f.text]
  else
    let pieces := pieces f.marked
    if pieces.all fun p => (Glob.literal? (Glob.ofMarked p)).isSome then pure [f.text]
    else
      match ← pathsFrom "" pieces with
      | [] => pure [f.text]
      | found => pure found.mergeSort

end Field

end HostFlash.Shell
