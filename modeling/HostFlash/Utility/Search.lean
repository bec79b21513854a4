import HostFlash.Text.Lines
import HostFlash.Text.Regex
import HostFlash.Utility.Files

/-! # Programs that look for patterns

The program that prints the lines of its input that fit a pattern. `Search` says what is looked
for, and `Report` what is said about what was found.
-/

namespace HostFlash.Utility

open Tool

/-- What is looked for in lines. -/
structure Search where
  patterns : List Text.Regex
  folded : Bool
  /-- A match must be a word, or more than one. -/
  words : Bool
  /-- A match must be the whole line. -/
  whole : Bool
  /-- The lines without a match are wanted. -/
  inverted : Bool

namespace Search

/-- A match from one place to another is wanted. -/
def isWanted (s : Search) (m : Text.Regex.Matching) (i j : Nat) : Bool :=
  (!s.whole || (i = 0 && j = m.text.size)) &&
    (!s.words || (!Text.Regex.isWordBefore m i && !Text.Regex.isWordAt m j))

/-- The longest match at a place. -/
def matchAt (s : Search) (m : Text.Regex.Matching) (i : Nat) : Option Nat :=
  (s.patterns.filterMap fun r => Text.Regex.matchWhere m (s.isWanted m i) r i).max?

/-- The first match from a place on. The fuel is a bound on the number of places. -/
def find (s : Search) (m : Text.Regex.Matching) : Nat → Nat → Option (Nat × Nat)
  | 0, _ => none
  | fuel + 1, i =>
      match s.matchAt m i with
      | some j => some (i, j)
      | none => if i < m.text.size && !s.whole then s.find m fuel (i + 1) else none

/-- A line as it is matched. -/
def matching (s : Search) (line : String) : Text.Regex.Matching :=
  ⟨line.toList.toArray, s.folded, false⟩

/-- A line is wanted. -/
def selects (s : Search) (line : String) : Bool :=
  let m := s.matching line
  (s.find m (m.text.size + 1) 0).isSome != s.inverted

/-- The matches in a line that are not empty, by their places. The fuel is a bound on the number of
places. -/
def matchesFrom (s : Search) (m : Text.Regex.Matching) : Nat → Nat → List (Nat × Nat)
  | 0, _ => []
  | fuel + 1, i =>
      match s.find m (m.text.size + 1) i with
      | none => []
      | some (i, j) =>
          if j ≤ i then if i < m.text.size then s.matchesFrom m fuel (i + 1) else []
          else (i, j) :: s.matchesFrom m fuel j

/-- The matches in a line that are not empty. -/
def matchesIn (s : Search) (line : String) : List (Nat × Nat) :=
  let m := s.matching line
  s.matchesFrom m (m.text.size + 1) 0

end Search

/-- What is said about a file besides its lines. -/
inductive Summary where
  | count
  | withMatch
  | withoutMatch
deriving Repr, DecidableEq

/-- What is said about what was found. -/
structure Report where
  quiet : Bool
  silent : Bool
  summary : Option Summary
  onlyMatches : Bool
  names : Bool
  /-- Files in directories come with their names. -/
  namesBelow : Bool
  numbers : Bool
  offsets : Bool
  /-- How many lines in front of and behind a line belong to it. -/
  before : Nat
  after : Nat
  /-- Groups of lines are set apart from each other. -/
  apart : Bool
  most : Option Nat
  /-- Files are read as text, whatever is in them. -/
  asText : Bool
  /-- What stands behind a name. -/
  nameEnd : String

/-- How far the search in a file is. -/
structure Progress where
  number : Nat
  offset : Nat
  found : Nat
  /-- Lines that were not printed, the last one first, with their numbers and offsets. -/
  passed : List (Nat × Nat × String)
  /-- How many lines are still to be printed behind one that was found. -/
  trailing : Nat
  printed : Option Nat
  /-- Something was printed at all. -/
  any : Bool
  isBinary : Bool

/-- What stands in front of a line. -/
def lead (r : Report) (name : String) (number offset : Nat) (mark : String) : String :=
  (if r.names then name ++ (if r.nameEnd = "" then mark else r.nameEnd) else "") ++
  (if r.numbers then toString number ++ mark else "") ++
  (if r.offsets then toString offset ++ mark else "")

/-- Prints a line, set apart from the lines that it does not follow. -/
def printLine (r : Report) (name mark : String) (p : Progress) (number offset : Nat)
    (text : String) : Tool Progress := do
  if r.apart && p.any && p.printed ≠ some (number - 1) then writeLine "--"
  writeLine (lead r name number offset mark ++ text)
  pure { p with any := true, printed := some number }

/-- Prints what is found in a line. -/
def printFound (s : Search) (r : Report) (name : String) (p : Progress) (line : String) :
    Tool Progress := do
  let p ← p.passed.reverse.foldlM (fun p (number, offset, text) =>
    printLine r name "-" p number offset text) p
  let p := { p with passed := [], trailing := r.after }
  if !r.onlyMatches then printLine r name ":" p p.number p.offset line
  else if s.inverted then pure p
  else
    if r.apart && p.any && p.printed ≠ some (p.number - 1) then writeLine "--"
    (s.matchesIn line).forM fun (i, j) =>
      writeLine (lead r name p.number (p.offset + i) ":" ++
        String.ofList ((line.toList.take j).drop i))
    pure { p with any := true, printed := some p.number }

/-- Looks at a line, and gives the answer whether more are wanted. -/
def searchLine (s : Search) (r : Report) (name : String) (p : Progress) (line : String) :
    Tool (Progress × Bool) := do
  let full := r.most.any (· ≤ p.found)
  let isBinary := p.isBinary || (!r.asText && line.toList.contains '\x00')
  let p := { p with number := p.number + 1, isBinary := isBinary }
  let next (p : Progress) : Progress := { p with offset := p.offset + line.length + 1 }
  let prints := !r.quiet && r.summary.isNone
  if !full && s.selects line then do
    let p := { p with found := p.found + 1 }
    if r.quiet then exit 0
    else if prints then
      if p.isBinary then
        warn (name ++ ": binary file matches")
        pure (p, false)
      else do
        let p ← printFound s r name p line
        pure (next p, r.most.all (p.found < ·) || r.after > 0)
    else pure (next p, r.summary = some .count && r.most.all (p.found < ·))
  else if p.trailing > 0 && prints && !p.isBinary then do
    let p ← if r.onlyMatches then pure p else printLine r name "-" p p.number p.offset line
    pure (next { p with trailing := p.trailing - 1 }, !full || p.trailing > 1)
  else
    let passed := ((p.number, p.offset, line) :: p.passed).take r.before
    pure (next { p with passed := if prints && !r.onlyMatches then passed else [] }, !full)

/-- Complains about a file that cannot be read, unless that is not wanted. -/
def cannotSearch (r : Report) (path : String) (e : IoError) : Tool Unit := do
  if r.silent then modify fun s => { s with status := s.failure } else complainOf path e

/-- Looks through an open file, and says what there is to say about it. The answer holds the number
of lines that were found, and whether anything was printed so far. -/
def searchOpen (s : Search) (r : Report) (path name : String) (number : Nat) (any : Bool) :
    Tool (Nat × Bool) := do
  if r.most = some 0 then pure (0, any)
  else
    match ← foldLines number (fun p line _ => searchLine s r name p line)
        ⟨0, 0, 0, [], 0, none, any, false⟩ with
    | .error e => do
        cannotSearch r path e
        pure (0, any)
    | .ok (p, _) => do
        match r.summary with
        | some .count =>
            writeLine ((if r.names then name ++ (if r.nameEnd = "" then ":" else r.nameEnd)
              else "") ++ toString p.found)
        | some .withMatch =>
            if p.found > 0 then write (name ++ (if r.nameEnd = "" then "\n" else r.nameEnd))
        | some .withoutMatch =>
            if p.found = 0 then write (name ++ (if r.nameEnd = "" then "\n" else r.nameEnd))
        | none => pure ()
        pure (p.found, p.any)

/-- Looks through a file, or through all that is in a directory. The fuel is a bound on the depth.
The state holds whether anything was found, and whether anything was printed. -/
def searchPath (s : Search) (r : Report) (recursive : Bool) :
    Nat → String → Bool → Bool × Bool → Tool (Bool × Bool)
  | 0, _, _, state => pure state
  | fuel + 1, path, isOperand, (found, any) => do
      let info ← if path = "-" then pure none else infoOf? isOperand path
      match info with
      | some ⟨_, .directory, _, _⟩ =>
          if recursive then
            match ← ask (.list path) with
            | .error e => do
                cannotSearch r path e
                pure (found, any)
            | .ok names =>
                names.foldlM (fun state name =>
                  searchPath s { r with names := r.namesBelow } recursive fuel
                    (below path name) false state)
                  (found, any)
          else do
            cannotSearch r path .isDirectory
            pure (found, any)
      | some ⟨_, .link, _, _⟩ => pure (found, any)
      | _ =>
          match ← openInput path with
          | .error e => do
              cannotSearch r path e
              pure (found, any)
          | .ok number => do
              let name := if path = "-" then "(standard input)" else path
              let (count, any) ← searchOpen s r path name number any
              closeInput number
              pure (found || count > 0, any)

/-! ## The arguments -/

/-- The digits that are options. -/
def contextDigits : List Char := ['0', '1', '2', '3', '4', '5', '6', '7', '8', '9']

/-- The options. -/
def searchOptions : List OptionSpec :=
  [.flag 'E' "extended-regexp", .flag 'F' "fixed-strings", .flag 'G' "basic-regexp",
   .flag 'P' "perl-regexp", .value 'e' "regexp", .value 'f' "file", .flag 'i' "ignore-case",
   .longFlag '!' "no-ignore-case", .flag 'y' "", .flag 'w' "word-regexp",
   .flag 'x' "line-regexp", .flag 's' "no-messages", .flag 'v' "invert-match",
   .value 'm' "max-count", .flag 'b' "byte-offset", .flag 'n' "line-number",
   .longFlag '%' "line-buffered", .flag 'H' "with-filename", .flag 'h' "no-filename",
   .flag 'o' "only-matching", .flag 'q' "quiet", .longFlag 'q' "silent", .flag 'a' "text",
   .flag 'I' "", .flag 'r' "recursive", .flag 'R' "dereference-recursive",
   .flag 'L' "files-without-match", .flag 'l' "files-with-matches", .flag 'c' "count",
   .flag 'T' "initial-tab", .flag 'U' "binary", .flag 'u' "unix-byte-offsets", .flag 'Z' "null",
   .flag 'z' "null-data",
   .value 'A' "after-context", .value 'B' "before-context", .value 'C' "context",
   ⟨'#', "color", .perhaps, false⟩, ⟨'#', "colour", .perhaps, false⟩] ++
  contextDigits.map (.flag · "")

/-- What stands behind complaints about the arguments. -/
def searchUsage (name : String) : String :=
  "Usage: " ++ name ++ " [OPTION]... PATTERNS [FILE]...\nTry '" ++ name ++
    " --help' for more information.\n"

/-- Says how the program is used and ends. -/
def searchMisused {α : Type} (message : Option String) : Tool α := do
  match message with
  | some message => complain message
  | none => pure ()
  say (searchUsage (← get).name)
  exit 2

/-- What is wrong with a number of lines. -/
def badContext (text : String) : String := text ++ ": invalid context length argument"

/-- A number that an option was given. -/
def countArgument (a : Arguments) (key : Char) (refusal : String → String) :
    Tool (Option Nat) := do
  match a.value? key with
  | none => pure none
  | some text =>
      if text ≠ "" && text.toList.all Char.isDigit then
        pure (some (Nat.ofDigitChars 10 text.toList 0))
      else fail (refusal text)

/-- How many lines around a line belong to it: the number of the option, or the digits that stand
together last. -/
def contextOf (a : Arguments) : Tool (Option Nat) := do
  match a.lastOf? ('C' :: contextDigits) with
  | none => pure none
  | some 'C' => countArgument a 'C' badContext
  | some _ =>
      let digits := (a.options.map (·.1)).reverse.dropWhile (!contextDigits.contains ·)
        |>.takeWhile contextDigits.contains
      pure (some (Nat.ofDigitChars 10 digits.reverse 0))

/-- The patterns that the arguments give, and the files. -/
def patternsOf (a : Arguments) : Tool (List String × List String) := do
  let given ← a.options.foldlM (fun given (key, value) => do
    let text := value.getD ""
    if key = 'e' then pure (given ++ [text])
    else if key = 'f' then
      match ← readFile text with
      | .error e => fail (text ++ ": " ++ e.reason)
      | .ok content =>
          let (lines, last) := cutLines content
          pure (given ++ lines ++ (if last = "" then [] else [last]))
    else pure given) []
  let lines (texts : List String) : List String :=
    texts.flatMap fun text => (Text.splitOn '\n' text.toList).map String.ofList
  if a.has 'e' || a.has 'f' then pure (lines given, a.operands)
  else
    match a.operands with
    | [] => searchMisused none
    | pattern :: files => pure (lines [pattern], files)

/-- A pattern as the arguments want it to be read. -/
def readPattern (kind : Char) (text : String) : Tool Text.Regex := do
  if kind = 'F' then pure (Text.Regex.literal text)
  else
    match text.toList with
    | '[' :: ':' :: cs =>
        if cs.length ≥ 2 && cs.drop (cs.length - 2) = [':', ']'] then
          fail "character class syntax is [[:space:]], not [:space:]"
    | _ => pure ()
    match Text.Regex.read? ⟨kind = 'E' || kind = 'P', true⟩ text with
    | .ok r => pure r
    | .error message => fail message

/-- Looks for patterns that are written in a way, unless the options say another. -/
def searchTool (kind : Char) : Tool Unit := do
  modify fun s => { s with failure := 2 }
  let a ←
    match Arguments.read searchOptions true (← get).args with
    | .ok a => pure a
    | .error message => searchMisused (some message)
  let around ← contextOf a
  let before ← countArgument a 'B' badContext
  let after ← countArgument a 'A' badContext
  let most ← countArgument a 'm' fun _ => "invalid max count"
  let kinds := (a.options.map (·.1)).filter ['E', 'F', 'G', 'P'].contains
  if kinds.eraseDups.length > 1 then fail "conflicting matchers specified"
  let kind := kinds.headD kind
  let (texts, files) ← patternsOf a
  let patterns ← texts.mapM (readPattern kind)
  let recursive := a.has 'r' || a.has 'R'
  let s : Search :=
    { patterns := patterns, words := a.has 'w', whole := a.has 'x', inverted := a.has 'v',
      folded := [some 'i', some 'y'].contains (a.lastOf? ['i', 'y', '!']) }
  let summary : Option Summary :=
    match a.lastOf? ['l', 'L'] with
    | some 'l' => some .withMatch
    | some _ => some .withoutMatch
    | none => if a.has 'c' then some .count else none
  let names :=
    match a.lastOf? ['H', 'h'] with
    | some key => key = 'H'
    | none => files.length > 1
  let r : Report :=
    { quiet := a.has 'q', silent := a.has 's', summary := summary, onlyMatches := a.has 'o',
      names := names, namesBelow := a.lastOf? ['H', 'h'] ≠ some 'h', numbers := a.has 'n',
      offsets := a.has 'b',
      before := if a.has 'o' then 0 else (before.or around).getD 0,
      after := if a.has 'o' then 0 else (after.or around).getD 0,
      apart := before.isSome || after.isSome || around.isSome,
      most := most, asText := a.has 'a', nameEnd := if a.has 'Z' then "\x00" else "" }
  let look (r : Report) (isOperand : Bool) (state : Bool × Bool) (path : String) :
      Tool (Bool × Bool) :=
    searchPath s r recursive deepest path isOperand state
  let (found, _) ←
    match files, recursive with
    | [], false => look r true (false, false) "-"
    | [], true =>
        match ← ask (.list ".") with
        | .ok names => names.foldlM (look { r with names := r.namesBelow } false) (false, false)
        | .error e => do
            cannotSearch r "." e
            pure (false, false)
    | files, _ => files.foldlM (look r true) (false, false)
  if (← get).status = 0 && !found then modify fun d => { d with status := 1 }

end HostFlash.Utility
