import HostFlash.Utility.Tool

/-! # Programs that copy

The programs that copy their input, or its begin or its end.
-/

namespace HostFlash.Utility

open Tool

/-! ## Whole files -/

/-- The marks that show what cannot be seen. -/
structure Showing where
  numbers : Bool
  numbersOfText : Bool
  ends : Bool
  squeezed : Bool
  tabs : Bool
  marks : Bool
deriving Repr, DecidableEq

/-- A character that cannot be seen, in marks. -/
def visibleChar (s : Showing) (c : Char) : String :=
  let n := c.toNat
  if c = '\t' then (if s.tabs then "^I" else "\t")
  else if !s.marks then String.singleton c
  else
    let low (n : Nat) : String :=
      if n < 32 then "^" ++ String.singleton (Char.ofNat (n + 64))
      else if n = 127 then "^?" else String.singleton (Char.ofNat n)
    if n ≥ 128 then "M-" ++ low (n - 128) else low n

/-- What is kept between lines that are shown: the number of the last line, how many lines in a row
were empty, and whether a line was begun in the file before and goes on. -/
structure Shown where
  number : Nat
  empty : Nat
  begun : Bool

/-- Shows a line, with the end if it was there. -/
def showLine (s : Showing) (shown : Shown) (line : String) (ended : Bool) : String × Shown :=
  let isEmpty := line = "" && ended && !shown.begun
  let empty := if isEmpty then shown.empty + 1 else 0
  if s.squeezed && empty > 1 then ("", { shown with empty := empty })
  else
    let counts :=
      (s.numbersOfText && !isEmpty || s.numbers && !s.numbersOfText) && !shown.begun
    let number := if counts then shown.number + 1 else shown.number
    let digits := toString number
    let front :=
      if counts then String.ofList (List.replicate (6 - digits.length) ' ') ++ digits ++ "\t"
      else ""
    let body := String.join (line.toList.map (visibleChar s))
    (front ++ body ++ (if ended then (if s.ends then "$\n" else "\n") else ""),
      ⟨number, empty, !ended⟩)

/-- Copies an open file to the output as it is. -/
def copyBlocks (number : Nat) : Tool (Except IoError Unit) :=
  eachBlock number fun text => do
    match ← routine (Routine.put 1 (Text.Octets.toBytes text)) with
    | .ok () => pure true
    | .error e => fail ("write error: " ++ e.reason)

/-- The open file is the one that is written, so that a copy would never end. -/
def isOutput (number : Nat) : Tool Bool := do
  match ← ask (.inspectOpen number), ← ask (.inspectOpen 1) with
  | .ok a, .ok b =>
      pure (a.kind = .regular && b.kind = .regular && a.location = b.location && a.size ≠ 0)
  | _, _ => pure false

/-- Copies files. -/
def catTool : Tool Unit := do
  let a ← arguments [.flag 'A' "show-all", .flag 'b' "number-nonblank", .flag 'e' "",
    .flag 'E' "show-ends", .flag 'n' "number", .flag 's' "squeeze-blank", .flag 't' "",
    .flag 'T' "show-tabs", .flag 'u' "", .flag 'v' "show-nonprinting"] true
  let s : Showing :=
    { numbers := a.has 'n' || a.has 'b', numbersOfText := a.has 'b',
      ends := a.has 'A' || a.has 'e' || a.has 'E', squeezed := a.has 's',
      tabs := a.has 'A' || a.has 't' || a.has 'T',
      marks := a.has 'A' || a.has 'e' || a.has 't' || a.has 'v' }
  let isPlain := s = ⟨false, false, false, false, false, false⟩
  let rec go : List String → Shown → Tool Unit
    | [], _ => pure ()
    | path :: rest, shown => do
        match ← openInput path with
        | .error e => do
            complainOf path e
            go rest shown
        | .ok number => do
            if ← isOutput number then
              complain (path ++ ": input file is output file")
              closeInput number
              go rest shown
            else if isPlain then
              match ← copyBlocks number with
              | .ok () => pure ()
              | .error e => complainOf path e
              closeInput number
              go rest shown
            else
              let r ← foldLines number (fun shown line ended => do
                let (text, shown) := showLine s shown line ended
                write text
                pure (shown, true)) shown
              closeInput number
              match r with
              | .error e => do
                  complainOf path e
                  go rest shown
              | .ok (shown, _) => go rest shown
  match ← ask (.inspectOpen 1) with
  | .ok _ => pure ()
  | .error e => Tool.fail ("standard output: " ++ e.reason)
  go (if a.operands = [] then ["-"] else a.operands) ⟨0, 0, false⟩

/-! ## Begins and ends -/

/-- The factor of a suffix of a number. -/
def suffixFactor? (suffix : String) : Option Nat :=
  match suffix with
  | "" => some 1
  | "b" => some 512
  | "kB" | "KB" => some 1000
  | "k" | "K" | "KiB" => some 1024
  | "MB" => some 1000000
  | "m" | "M" | "MiB" => some 1048576
  | "GB" => some 1000000000
  | "g" | "G" | "GiB" => some 1073741824
  | _ => none

/-- A number with a suffix. -/
def sizeOf? (text : String) : Option Nat :=
  let digits := text.toList.takeWhile Char.isDigit
  if digits = [] then none
  else
    (suffixFactor? (String.ofList (text.toList.drop digits.length))).map
      (Nat.ofDigitChars 10 digits 0 * ·)

/-- Which part of a file is copied. -/
structure Extent where
  /-- Bytes are counted, and otherwise lines. -/
  bytes : Bool
  /-- All but so many, counted from the other end. -/
  without : Bool
  count : Nat
deriving Repr, DecidableEq

/-- The title of a file between others. -/
def titleLine (first : Bool) (path : String) : String :=
  (if first then "" else "\n") ++ "==> " ++ (if path = "-" then "standard input" else path) ++
    " <==\n"

/-- The text without its last lines. -/
def dropLastLines (count : Nat) (text : String) : String :=
  let (lines, last) := cutLines text
  let all := lines.map (· ++ "\n") ++ (if last = "" then [] else [last])
  String.join (all.take (all.length - count))

/-- The last lines of a text. -/
def takeLastLines (count : Nat) (text : String) : String :=
  let (lines, last) := cutLines text
  let all := lines.map (· ++ "\n") ++ (if last = "" then [] else [last])
  String.join (all.drop (all.length - count))

/-- Copies the first lines of an open file, and goes back to where they end. -/
def copyLines (number : Nat) : Nat → Nat → Tool (Except IoError Unit)
  | 0, _ => pure (.ok ())
  | _, 0 => pure (.ok ())
  | fuel + 1, count => do
      match ← ask (.read number 8192) with
      | .error e => pure (.error e)
      | .ok [] => pure (.ok ())
      | .ok bytes => do
          let (lines, left) := cutLines (Text.Octets.ofBytes bytes)
          if lines.length ≥ count then
            let kept := String.join ((lines.take count).map (· ++ "\n"))
            write kept
            let _ ← ask (.unread number (bytes.length - kept.length))
            pure (.ok ())
          else
            write (String.join (lines.map (· ++ "\n")) ++ left)
            copyLines number fuel (count - lines.length)

/-- Copies the first bytes of an open file. -/
def copyBytes (number : Nat) : Nat → Nat → Tool (Except IoError Unit)
  | 0, _ => pure (.ok ())
  | _, 0 => pure (.ok ())
  | fuel + 1, count => do
      match ← ask (.read number (min count 8192)) with
      | .error e => pure (.error e)
      | .ok [] => pure (.ok ())
      | .ok bytes => do
          write (Text.Octets.ofBytes bytes)
          copyBytes number fuel (count - bytes.length)

/-- Copies the begin of an open file. -/
def copyBegin (extent : Extent) (number : Nat) : Tool (Except IoError Unit) := do
  if extent.without then
    match ← routine (Routine.readAll number) with
    | .error e => pure (.error e)
    | .ok bytes => do
        let text := Text.Octets.ofBytes bytes
        write (if extent.bytes then
          String.ofList (text.toList.take (text.length - extent.count))
          else dropLastLines extent.count text)
        pure (.ok ())
  else if extent.bytes then copyBytes number Routine.always extent.count
  else copyLines number Routine.always extent.count

/-- Copies the end of an open file. With `without` it begins at the line or the byte of the
number. -/
def copyEnd (extent : Extent) (number : Nat) : Tool (Except IoError Unit) := do
  match ← routine (Routine.readAll number) with
  | .error e => pure (.error e)
  | .ok bytes => do
      let text := Text.Octets.ofBytes bytes
      let size := text.length
      let part :=
        if extent.bytes then
          String.ofList (text.toList.drop
            (if extent.without then extent.count - 1 else size - extent.count))
        else if extent.without then
          let (lines, last) := cutLines text
          String.join ((lines.map (· ++ "\n") ++ [last]).drop (extent.count - 1))
        else takeLastLines extent.count text
      write part
      pure (.ok ())

/-- Copies parts of files, with titles if there are several. -/
def copyParts (copy : Nat → Tool (Except IoError Unit)) (titles : Bool) :
    List String → Bool → Tool Unit
  | [], _ => pure ()
  | path :: rest, first => do
      match ← openInput path with
      | .error e => do
          complain ("cannot open " ++ quoted path ++ " for reading: " ++ e.reason)
          copyParts copy titles rest first
      | .ok number => do
          if titles then write (titleLine first path)
          match ← copy number with
          | .ok () => pure ()
          | .error e => do
              flush
              complain ("error reading " ++ quoted (if path = "-" then "standard input" else path)
                ++ ": " ++ e.reason)
          closeInput number
          copyParts copy titles rest false

/-- The part that an option asks for. A sign that is `sign` turns it around. -/
def extentOf (bytes : Bool) (sign : Char) (text : String) : Tool Extent := do
  let (without, digits) :=
    match text.toList with
    | c :: cs =>
        if c = sign then (true, String.ofList cs)
        else if c = '-' || c = '+' then (false, String.ofList cs) else (false, text)
    | [] => (false, "")
  match sizeOf? digits with
  | some count => pure ⟨bytes, without, count⟩
  | none =>
      fail ("invalid number of " ++ (if bytes then "bytes" else "lines") ++ ": " ++ quoted text)

/-- The first argument as an option for a number, if it is one. -/
def numberOption (args : List String) : List String :=
  match args with
  | a :: rest =>
      match a.toList with
      | '-' :: c :: cs =>
          let digits := (c :: cs).takeWhile Char.isDigit
          if digits = [] then args
          else
            let letters := (c :: cs).drop digits.length
            let counts := if letters.contains 'c' then "-c" else "-n"
            let others := letters.filter fun c => c = 'q' || c = 'v'
            [counts, String.ofList digits] ++
              others.map (fun c => "-" ++ String.singleton c) ++ rest
      | _ => args
  | [] => []

/-- Copies the begins or the ends of files. -/
def copyTool (copy : Extent → Nat → Tool (Except IoError Unit)) (sign : Char) : Tool Unit := do
  modify fun s => { s with args := numberOption s.args }
  let a ← arguments [.value 'n' "lines", .value 'c' "bytes", .flag 'q' "quiet",
    .longFlag 'q' "silent", .flag 'v' "verbose", .flag 'z' "zero-terminated"] true
  let extent ←
    match a.lastOf? ['n', 'c'] with
    | some key => extentOf (key = 'c') sign ((a.value? key).getD "")
    | none => pure ⟨false, false, 10⟩
  let titles :=
    match a.lastOf? ['q', 'v'] with
    | some 'q' => false
    | some _ => true
    | none => a.operands.length > 1
  copyParts (copy extent) titles (if a.operands = [] then ["-"] else a.operands) true

/-- Copies the begins of files. -/
def headTool : Tool Unit := copyTool copyBegin '-'

/-- Copies the ends of files. -/
def tailTool : Tool Unit := do
  modify fun s =>
    match s.args with
    | a :: rest =>
        match a.toList with
        | '+' :: cs =>
            if cs ≠ [] && cs.all Char.isDigit then { s with args := "-n" :: a :: rest } else s
        | _ => s
    | [] => s
  copyTool copyEnd '+'

/-- Copies the input to files and to the output. -/
def teeTool : Tool Unit := do
  let a ← arguments [.flag 'a' "append", .flag 'i' "ignore-interrupts"] true
  let start : List (String × Nat) ←
    match ← ask (.inspectOpen 1) with
    | .ok _ => pure [("'standard output'", 1)]
    | .error e => do
        complainOf "'standard output'" e
        pure []
  let outputs ← a.operands.foldlM (fun outputs path => do
    match ← ask (.openFile path (if a.has 'a' then .appender else .writer) 3) with
    | .ok number => pure ((path, number) :: outputs)
    | .error e => do
        complainOf path e
        pure outputs) start
  let copy (outputs : List (String × Nat)) (text : String) :
      Tool (List (String × Nat) × Bool) := do
    let left ← outputs.filterM fun (name, number) => do
      match ← routine (Routine.put number (Text.Octets.toBytes text)) with
      | .ok () => pure true
      | .error e => do
          complainOf name e
          pure false
    pure (left, !left.isEmpty)
  let r ← foldBlocks 0 copy Routine.always outputs.reverse
  match r with
  | .ok _ => pure ()
  | .error e => complain ("read error: " ++ e.reason)

end HostFlash.Utility
