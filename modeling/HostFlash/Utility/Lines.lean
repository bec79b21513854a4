import HostFlash.Shell.Number
import HostFlash.Text.Class
import HostFlash.Text.Column
import HostFlash.Text.Lines
import HostFlash.Utility.Sorting
import HostFlash.Utility.Streams

/-! # Programs that work on lines

The programs that count, cut, join and compare the lines of their input.
-/

namespace HostFlash.Utility

open Tool

/-- The lines of a text, the last one also without an end. -/
def linesOf (text : String) : List String :=
  let (lines, last) := cutLines text
  if last = "" then lines else lines ++ [last]

/-- The contents of files, one after the other, with a complaint about each that cannot be read. -/
def contentsOf (paths : List String) : Tool (List (String × String)) := do
  let found ← (if paths = [] then ["-"] else paths).mapM fun path => do
    match ← readFile path with
    | .ok text => pure [(path, text)]
    | .error e => do
        complainOf path e
        pure []
  pure found.flatten

/-! ## Counting -/

/-- What is counted in a file. -/
structure Counts where
  lines : Nat
  words : Nat
  bytes : Nat
  longest : Nat
deriving Repr, DecidableEq

namespace Counts

/-- The counts of files together. -/
def add (a b : Counts) : Counts :=
  ⟨a.lines + b.lines, a.words + b.words, a.bytes + b.bytes, max a.longest b.longest⟩

/-- The width of a line on a screen. -/
def lineWidth (line : String) : Nat :=
  line.toList.foldl (fun n c =>
    if c = '\t' then n + 8 - n % 8 else if Text.isGraphic c || c = ' ' then n + 1 else n) 0

/-- The number of words in a text. -/
def wordCount (text : String) : Nat :=
  (text.toList.foldl (fun (count, inside) c =>
    if Shell.isSpace c then (count, false)
    else if inside then (count, true) else (count + 1, true)) (0, false)).1

/-- The counts of a text. -/
def ofText (text : String) : Counts where
  lines := text.toList.countP (· = '\n')
  words := wordCount text
  bytes := text.length
  longest := ((linesOf text).map lineWidth).foldl max 0

end Counts

/-- The width of counts, which depends on the sizes of the files. -/
def countWidth (paths : List String) (kinds : Nat) : Tool Nat := do
  if paths.length = 1 && kinds = 1 then pure 1
  else
    let infos ← paths.mapM fun path => do
      if path = "-" then ask (.inspectOpen 0) else ask (.inspect path true)
    let known := infos.filterMap fun | .ok info => some info | .error _ => none
    let least := if known.all (·.kind == .regular) then 1 else 7
    let total := ((known.filter (·.kind == .regular)).map (·.size)).foldl (· + ·) 0
    pure (max least (toString total).length)

/-- Counts lines, words and bytes. -/
def wcTool : Tool Unit := do
  let a ← arguments [.flag 'c' "bytes", .flag 'm' "chars", .flag 'l' "lines",
    .flag 'L' "max-line-length", .flag 'w' "words"] true
  let isDefault := a.options = []
  let kinds : List (Counts → Nat) :=
    (if isDefault || a.has 'l' then [Counts.lines] else []) ++
    (if isDefault || a.has 'w' then [Counts.words] else []) ++
    (if a.has 'm' then [Counts.bytes] else []) ++
    (if isDefault || a.has 'c' then [Counts.bytes] else []) ++
    (if a.has 'L' then [Counts.longest] else [])
  let paths := if a.operands = [] then ["-"] else a.operands
  let width ← countWidth paths kinds.length
  let report (counts : Counts) (name : String) : Tool Unit :=
    writeLine (" ".intercalate (kinds.map fun kind => Text.padLeft width (toString (kind counts)))
      ++ (if name = "" then "" else " " ++ name))
  let total ← paths.foldlM (fun total path => do
    match ← openInput path with
    | .error e => do
        complainOf path e
        pure total
    | .ok number => do
        let content ← routine (Routine.readAll number)
        closeInput number
        let text ←
          match content with
          | .ok bytes => pure (Text.Octets.ofBytes bytes)
          | .error e => do
              complainOf path e
              pure ""
        let counts := Counts.ofText text
        report counts (if a.operands = [] then "" else path)
        pure (total.add counts)) ⟨0, 0, 0, 0⟩
  if paths.length > 1 then report total "total"

/-! ## Cutting -/

/-- What is wrong with a list of ranges. -/
inductive RangeFault where
  | invalidValue (text : String)
  | invalidRange
  | noEndpoint
  | zero
  | decreasing
deriving Repr, DecidableEq

/-- What a fault of a list of ranges is, in words, for a list of fields or of characters. -/
def RangeFault.message (ofFields : Bool) : RangeFault → String
  | .invalidValue text =>
      (if ofFields then "invalid field value " else "invalid byte/character position ") ++
        quoted text
  | .invalidRange =>
      if ofFields then "invalid field range" else "invalid byte or character range"
  | .noEndpoint => "invalid range with no endpoint: -"
  | .zero =>
      if ofFields then "fields are numbered from 1"
      else "byte/character positions are numbered from 1"
  | .decreasing => "invalid decreasing range"

/-- The range that a piece of a list stands for, of which the upper end may be open. The text is
what the piece and the rest of the list are. -/
def rangeOf (piece text : List Char) : Except RangeFault (Nat × Option Nat) :=
  let number (cs : List Char) : Nat := Nat.ofDigitChars 10 cs 0
  let isPart (c : Char) : Bool := c.isDigit || c = '-'
  let sound := piece.takeWhile isPart
  let strange : Except RangeFault (Nat × Option Nat) :=
    .error (.invalidValue (String.ofList (text.drop sound.length)))
  let isStrange := sound.length ≠ piece.length
  match Text.cutAt? '-' sound with
  | none =>
      if isStrange then strange
      else if number piece = 0 then .error .zero
      else .ok (number piece, some (number piece))
  | some (low, high) =>
      if low ≠ [] && number low = 0 then .error .zero
      else if high.contains '-' then .error .invalidRange
      else if isStrange then strange
      else
        match low, high with
        | [], [] => .error .noEndpoint
        | low, [] => .ok (number low, none)
        | low, high =>
            let low := if low = [] then 1 else number low
            if number high < low then .error .decreasing else .ok (low, some (number high))

/-- The ranges of a list. -/
def rangesOf (text : String) : Except RangeFault (List (Nat × Option Nat)) :=
  let isMark (c : Char) : Bool := c = ',' || c = ' ' || c = '\t'
  let rec go : Nat → List Char → Except RangeFault (List (Nat × Option Nat))
    | 0, _ => .ok []
    | fuel + 1, cs => do
        let piece := cs.takeWhile (!isMark ·)
        let range ← rangeOf piece cs
        match cs.drop piece.length with
        | [] => pure [range]
        | _ :: rest => return range :: (← go fuel rest)
  go (text.length + 1) text.toList

/-- A number is in one of the ranges. -/
def inRanges (ranges : List (Nat × Option Nat)) (n : Nat) : Bool :=
  ranges.any fun (low, high) => low ≤ n && (high.map fun h => decide (n ≤ h)).getD true

/-- Cuts parts out of lines. -/
def cutTool : Tool Unit := do
  let a ← arguments [.value 'b' "bytes", .value 'c' "characters", .value 'd' "delimiter",
    .value 'f' "fields", .flag 'n' "", .flag 's' "only-delimited",
    .longFlag '1' "complement", .longValue '2' "output-delimiter",
    .flag 'z' "zero-terminated"] true
  let lists := a.options.filter fun o => ['b', 'c', 'f'].contains o.1
  match lists with
  | [] => misused "you must specify a list of bytes, characters, or fields"
  | _ :: _ :: _ => misused "only one list may be specified"
  | [(key, list)] => do
      let ofFields := key = 'f'
      if !ofFields && (a.value? 'd').isSome then
        misused "an input delimiter may be specified only when operating on fields"
      if !ofFields && a.has 's' then
        misused "suppressing non-delimited lines makes sense\n\tonly when operating on fields"
      let text := list.getD ""
      let ranges ←
        match rangesOf text with
        | .ok ranges => pure ranges
        | .error fault => misused (fault.message ofFields)
      let delimiter := (a.value? 'd').getD "\t"
      if delimiter.length > 1 then misused "the delimiter must be a single character"
      let separator := delimiter.toList.headD '\x00'
      let chosen (n : Nat) : Bool := inRanges ranges n != a.has '1'
      let pick {α : Type} (xs : List α) : List α :=
        (xs.zipIdx.filter fun (_, i) => chosen (i + 1)).map (·.1)
      eachInputLine a.operands fun line _ => do
        if ofFields then
          let fields := Text.splitOn separator line.toList
          if fields.length = 1 then (if a.has 's' then pure () else writeLine line)
          else
            writeLine (((a.value? '2').getD (String.singleton separator)).intercalate
              ((pick fields).map String.ofList))
        else writeLine (String.ofList (pick line.toList))
        pure true

/-! ## Repeated lines -/

/-- Writes repeated lines once. -/
def uniqTool : Tool Unit := do
  let a ← arguments [.flag 'c' "count", .flag 'd' "repeated", .flag 'D' "",
    .value 'f' "skip-fields", .flag 'i' "ignore-case", .value 's' "skip-chars",
    .flag 'u' "unique", .value 'w' "check-chars", .flag 'z' "zero-terminated"] true
  if a.has 'D' && a.has 'c' then
    misused "printing all duplicated lines and repeat counts is meaningless"
  let number (key : Char) (subject : String) : Tool (Option Nat) := do
    match a.value? key with
    | none => pure none
    | some text =>
        if text ≠ "" && text.toList.all Char.isDigit then
          pure (some (Nat.ofDigitChars 10 text.toList 0))
        else fail (text ++ ": invalid number of " ++ subject)
  let fields ← number 'f' "fields to skip"
  let chars ← number 's' "bytes to skip"
  let width ← number 'w' "bytes to compare"
  let key (line : String) : String :=
    let rec skipFields : Nat → List Char → List Char
      | 0, cs => cs
      | n + 1, cs =>
          let isGap (c : Char) : Bool := c = ' ' || c = '\t'
          skipFields n ((cs.dropWhile isGap).dropWhile (!isGap ·))
    let cs := (skipFields (fields.getD 0) line.toList).drop (chars.getD 0)
    let cs := match width with
      | some n => cs.take n
      | none => cs
    String.ofList (if a.has 'i' then cs.map Char.toUpper else cs)
  let (input, output) ←
    match a.operands with
    | [] => pure ("-", none)
    | [input] => pure (input, none)
    | [input, output] => pure (input, some output)
    | _ => misused ("extra operand " ++ quoted (a.operands.getD 2 ""))
  match ← openInput input with
  | .error e => fail (input ++ ": " ++ e.reason)
  | .ok number => do
      match output with
      | none => pure ()
      | some path =>
          match ← ask (.openFile path .writer 0) with
          | .error e => fail (path ++ ": " ++ e.reason)
          | .ok number =>
              let _ ← ask (.copy number 1)
      let unpaired := !a.has 'D' && !a.has 'd'
      -- Writes the first line of those that are the same, of which there are so many.
      let report (line : String) (n : Nat) : Tool Unit := do
        if (if n = 1 then unpaired else !a.has 'u') then
          writeLine ((if a.has 'c' then Text.padLeft 7 (toString n) ++ " " else "") ++ line)
      let step (last : Option (String × Nat)) (line : String) (_ : Bool) :
          Tool (Option (String × Nat) × Bool) := do
        match last with
        | none => pure (some (line, 1), true)
        | some (first, n) =>
            if key first = key line then
              if a.has 'D' then
                if n = 1 then writeLine first
                writeLine line
              pure (some (first, n + 1), true)
            else
              if !a.has 'D' then report first n
              pure (some (line, 1), true)
      match ← foldLines number step none with
      | .error e => fail (if input = "-" then "error reading '-': " ++ e.reason
          else input ++ ": read error: " ++ e.reason)
      | .ok (some (first, n), _) => if !a.has 'D' then report first n
      | .ok (none, _) => pure ()

/-! ## Turning around and joining -/

/-- Writes the lines of files in reverse. -/
def tacTool : Tool Unit := do
  let a ← arguments [.flag 'b' "before", .flag 'r' "regex", .value 's' "separator"] true
  (if a.operands = [] then ["-"] else a.operands).forM fun path => do
    match ← openInput path with
    | .error e =>
        complain ("failed to open " ++ quoted path ++ " for reading: " ++ e.reason)
    | .ok number => do
        match ← routine (Routine.readAll number) with
        | .error e => complain (path ++ ": read error: " ++ e.reason)
        | .ok bytes => do
            let (lines, last) := cutLines (Text.Octets.ofBytes bytes)
            let pieces := lines.map (· ++ "\n") ++ (if last = "" then [] else [last])
            pieces.reverse.forM write
        closeInput number

/-- Writes the characters of lines in reverse. -/
def revTool : Tool Unit := do
  let a ← arguments [] true
  eachInputLine a.operands fun line ended => do
    write (String.ofList line.toList.reverse ++ (if ended then "\n" else ""))
    pure true

/-- Numbers lines. -/
def nlTool : Tool Unit := do
  let a ← arguments [.value 'b' "body-numbering", .value 'w' "number-width",
    .value 's' "number-separator", .value 'v' "starting-line-number", .value 'i' "line-increment",
    .value 'n' "number-format"] true
  let number (key : Char) (standard : Nat) : Nat :=
    ((a.value? key).bind (·.toNat?)).getD standard
  let width := number 'w' 6
  let separator := (a.value? 's').getD "\t"
  let every := a.value? 'b' = some "a"
  let never := a.value? 'b' = some "n"
  let shown (n : Nat) : String :=
    let digits := toString n
    match a.value? 'n' with
    | some "ln" => digits ++ String.ofList (List.replicate (width - digits.length) ' ')
    | some "rz" => String.ofList (List.replicate (width - digits.length) '0') ++ digits
    | _ => Text.padLeft width digits
  let _ ← foldInputLines a.operands (fun n line _ => do
    if (line = "" && !every) || never then
      writeLine (String.ofList (List.replicate (width + separator.length) ' ') ++ line)
      pure (n, true)
    else
      writeLine (shown n ++ separator ++ line)
      pure (n + number 'i' 1, true)) (number 'v' 1)

/-- Breaks lines that are too long. -/
def foldTool : Tool Unit := do
  let a ← arguments [.flag 'b' "bytes", .flag 's' "spaces", .value 'w' "width"] true
  let width := max 1 (((a.value? 'w').bind (·.toNat?)).getD 80)
  let rec pieces : Nat → List Char → List (List Char)
    | 0, cs => [cs]
    | fuel + 1, cs =>
        if cs.length ≤ width then [cs]
        else
          let piece := cs.take width
          let kept := (piece.reverse.dropWhile (· ≠ ' ')).reverse
          let piece := if a.has 's' && kept ≠ [] then kept else piece
          piece :: pieces fuel (cs.drop piece.length)
  eachInputLine a.operands fun line ended => do
    let parts := pieces (line.length + 1) line.toList
    write ("\n".intercalate (parts.map String.ofList) ++ (if ended then "\n" else ""))
    pure true

/-- Joins texts with separators that are used one after the other. -/
def joinWith (separators : List String) : List String → String
  | [] => ""
  | first :: rest =>
      let count := max separators.length 1
      rest.zipIdx.foldl
        (fun text (next, i) => text ++ (separators.getD (i % count) "") ++ next) first

/-- The separators that a list of characters stands for. -/
def separatorsOf : List Char → List String
  | [] => []
  | '\\' :: c :: rest =>
      (match c with
        | 'n' => "\n"
        | 't' => "\t"
        | '0' => ""
        | c => String.singleton c) :: separatorsOf rest
  | c :: rest => String.singleton c :: separatorsOf rest

/-- Joins the lines of files. -/
def pasteTool : Tool Unit := do
  let a ← arguments [.value 'd' "delimiters", .flag 's' "serial", .flag 'z' "zero-terminated"] true
  let separators := separatorsOf ((a.value? 'd').getD "\t").toList
  let texts ← contentsOf a.operands
  let files := texts.map fun (_, text) => linesOf text
  if a.has 's' then files.forM fun lines => writeLine (joinWith separators lines)
  else
    let height := (files.map (·.length)).foldl max 0
    (List.range height).forM fun i =>
      writeLine (joinWith separators (files.map fun lines => lines.getD i ""))

/-- Writes the lines that two sorted files have alone and together. The fuel is a bound on the
number of lines. -/
def commLines (shown : Char → Bool) : Nat → List String → List String → List String
  | 0, _, _ => []
  | fuel + 1, xs, ys =>
      let second := if shown '1' then "\t" else ""
      let third := second ++ (if shown '2' then "\t" else "")
      let line (column : Char) (front text : String) : List String :=
        if shown column then [front ++ text ++ "\n"] else []
      match xs, ys with
      | [], [] => []
      | x :: xs, [] => line '1' "" x ++ commLines shown fuel xs []
      | [], y :: ys => line '2' second y ++ commLines shown fuel [] ys
      | x :: xs, y :: ys =>
          match SortKey.compareChars x.toList y.toList with
          | .eq => line '3' third x ++ commLines shown fuel xs ys
          | .lt => line '1' "" x ++ commLines shown fuel xs (y :: ys)
          | .gt => line '2' second y ++ commLines shown fuel (x :: xs) ys

/-- Compares sorted files line by line. -/
def commTool : Tool Unit := do
  let a ← arguments [.flag '1' "", .flag '2' "", .flag '3' ""] true
  match a.operands with
  | [] => misused "missing operand"
  | [only] => misused ("missing operand after " ++ quoted only)
  | [first, second] => do
      match ← readFile first, ← readFile second with
      | .error e, _ => fail (first ++ ": " ++ e.reason)
      | _, .error e => fail (second ++ ": " ++ e.reason)
      | .ok x, .ok y =>
          let xs := linesOf x
          let ys := linesOf y
          (commLines (!a.has ·) (xs.length + ys.length + 1) xs ys).forM write
  | _ => misused ("extra operand " ++ quoted (a.operands.getD 2 ""))

/-- Compares files byte by byte. -/
def cmpTool : Tool Unit := do
  modify fun s => { s with failure := 2 }
  let a ← arguments [.flag 'l' "verbose", .flag 's' "quiet", .longFlag 's' "silent",
    .flag 'b' "print-bytes"] true
  let silent := a.has 's'
  let differ : Tool Unit := exit 1
  match a.operands with
  | [] => misused ("missing operand after " ++ quoted (← get).name)
  | first :: rest => do
      let second := rest.headD "-"
      let content (path : String) : Tool String := do
        match ← readFile path with
        | .ok text => pure text
        | .error e => if silent then exit 2 else fail (path ++ ": " ++ e.reason)
      let x ← content first
      let y ← content second
      let pairs := (x.toList.zip y.toList).zipIdx
      let ended : Tool Unit := do
        if x.length = y.length then pure ()
        else if silent then differ
        else do
          let (short, size) := if x.length < y.length then (first, x.length) else (second, y.length)
          let lines := (x.toList.take size).countP (· = '\n')
          modify fun s => { s with failure := 1 }
          if size = 0 then fail ("EOF on " ++ short ++ " which is empty")
          else if a.has 'l' then fail ("EOF on " ++ short ++ " after byte " ++ toString size)
          else
            let inLine := (x.toList.take size).getLast? ≠ some '\n'
            fail ("EOF on " ++ short ++ " after byte " ++ toString size ++ ", " ++
              (if inLine then "in " else "") ++ "line " ++
              toString (if inLine then lines + 1 else lines))
      if a.has 'l' then
        let octal (c : Char) : String := Text.padLeft 3 (String.ofList (Nat.toDigits 8 c.toNat))
        let found := pairs.filter fun ((p, q), _) => p ≠ q
        let width := (toString (min x.length y.length)).length
        found.forM fun ((p, q), i) =>
          writeLine (Text.padLeft width (toString (i + 1)) ++ " " ++ octal p ++ " " ++ octal q)
        ended
        if found ≠ [] then differ
      else
        match pairs.find? fun ((p, q), _) => p ≠ q with
        | some (_, i) => do
            if !silent then
              let line := ((x.toList.take i).countP (· = '\n')) + 1
              writeLine (first ++ " " ++ second ++ " differ: char " ++ toString (i + 1) ++
                ", line " ++ toString line)
            differ
        | none => ended

end HostFlash.Utility
