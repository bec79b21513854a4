import HostFlash.Utility.Streams

/-! # Programs that copy blocks

The programs that copy a file in blocks of a size, from a place in one file to a place in another,
and that cut files to a size.
-/

namespace HostFlash.Utility

open Tool

/-- What is done with the blocks that are read. -/
inductive Conversion where
  | lower
  | upper
  /-- Each block is filled up with zeros. -/
  | fill
  | swap
  | keep
  | insist
  | excluding
  | existing
  | nothing
deriving Repr, DecidableEq

/-- How a file is copied in blocks. -/
structure BlockCopy where
  input : Option String
  output : Option String
  readSize : Nat
  writeSize : Nat
  /-- Blocks are written as they are read. -/
  same : Bool
  count : Option Nat
  skip : Nat
  seek : Nat
  countsBytes : Bool
  skipsBytes : Bool
  seeksBytes : Bool
  wholeBlocks : Bool
  appends : Bool
  conversions : List Conversion
  /-- Nothing is said at the end, or not all. -/
  silent : Bool
  terse : Bool

namespace BlockCopy

/-- The names of the conversions. -/
def conversion? (name : String) : Option Conversion :=
  match name with
  | "lcase" => some .lower
  | "ucase" => some .upper
  | "sync" => some .fill
  | "swab" => some .swap
  | "notrunc" => some .keep
  | "noerror" => some .insist
  | "excl" => some .excluding
  | "nocreat" => some .existing
  | "fsync" | "fdatasync" | "sparse" => some .nothing
  | _ => none

/-- A number that may have the letter for single bytes or for words behind it. -/
def factor? (cs : List Char) : Option Nat :=
  match cs.reverse with
  | 'c' :: rest => sizeOf? (String.ofList rest.reverse)
  | 'w' :: rest => (sizeOf? (String.ofList rest.reverse)).map (2 * ·)
  | _ => sizeOf? (String.ofList cs)

/-- A number whose factors stand between the letters `x`. -/
def product? (text : String) : Option Nat :=
  ((Text.splitOn 'x' text.toList).mapM factor?).map fun factors => factors.foldl (· * ·) 1

/-- A number of blocks, or of bytes with a letter for them behind it. -/
def blocks? (text : String) : Option (Nat × Bool) :=
  match text.toList.reverse with
  | 'B' :: rest =>
      match product? (String.ofList rest.reverse) with
      | some n => some (n, true)
      | none => (product? text).map (·, false)
  | _ => (product? text).map (·, false)

/-- Takes in an operand. -/
def operand (c : BlockCopy) (text : String) : Except (String × Bool) BlockCopy :=
  match Text.cutAt? '=' text.toList with
  | none => .error ("unrecognized operand " ++ quoted text, true)
  | some (key, value) =>
      let value := String.ofList value
      let bad : String × Bool := ("invalid number: " ++ quoted value, false)
      let size : Except (String × Bool) Nat :=
        match product? value with
        | some 0 | none => .error bad
        | some n => .ok n
      let number : Except (String × Bool) (Nat × Bool) :=
        match blocks? value with
        | some n => .ok n
        | none => .error bad
      let names := (Text.splitOn ',' value.toList).map String.ofList
      let flags (known : List String) (what : String) : Except (String × Bool) Unit :=
        match names.find? (!known.contains ·) with
        | some name => .error ("invalid " ++ what ++ ": " ++ quoted name, true)
        | none => .ok ()
      match String.ofList key with
      | "if" => .ok { c with input := some value }
      | "of" => .ok { c with output := some value }
      | "bs" => size.map fun n => { c with readSize := n, writeSize := n, same := true }
      | "ibs" => size.map fun n => { c with readSize := n }
      | "obs" => size.map fun n => { c with writeSize := n }
      | "cbs" => size.map fun _ => c
      | "count" => number.map fun (n, bytes) =>
          { c with count := some n, countsBytes := c.countsBytes || bytes }
      | "skip" | "iseek" => number.map fun (n, bytes) =>
          { c with skip := n, skipsBytes := c.skipsBytes || bytes }
      | "seek" | "oseek" => number.map fun (n, bytes) =>
          { c with seek := n, seeksBytes := c.seeksBytes || bytes }
      | "conv" => do
          let read ← names.mapM fun name =>
            match conversion? name with
            | some r => .ok r
            | none => .error ("invalid conversion: " ++ quoted name, true)
          .ok { c with conversions := c.conversions ++ read }
      | "status" =>
          match value with
          | "none" => .ok { c with silent := true }
          | "noxfer" => .ok { c with terse := true }
          | "progress" => .ok c
          | _ => .error ("invalid status level: " ++ quoted value, true)
      | "iflag" => do
          flags ["fullblock", "count_bytes", "skip_bytes", "direct", "sync", "dsync", "nonblock",
            "nofollow", "noatime", "nocache", "noctty", "directory"] "input flag"
          .ok { c with
            wholeBlocks := c.wholeBlocks || names.contains "fullblock",
            countsBytes := c.countsBytes || names.contains "count_bytes",
            skipsBytes := c.skipsBytes || names.contains "skip_bytes" }
      | "oflag" => do
          flags ["append", "seek_bytes", "direct", "sync", "dsync", "nonblock", "nofollow",
            "noatime", "nocache", "noctty", "directory"] "output flag"
          .ok { c with
            appends := c.appends || names.contains "append",
            seeksBytes := c.seeksBytes || names.contains "seek_bytes" }
      | _ => .error ("unrecognized operand " ++ quoted text, true)

/-- Bytes with each two of them exchanged. -/
def swapped : List UInt8 → List UInt8
  | a :: b :: rest => b :: a :: swapped rest
  | rest => rest

/-- A block as it is written. -/
def converted (c : BlockCopy) (bytes : List UInt8) : List UInt8 :=
  let bytes :=
    if c.conversions.contains .fill then
      bytes ++ List.replicate (c.readSize - bytes.length) 0
    else bytes
  let bytes := if c.conversions.contains .swap then swapped bytes else bytes
  let cased (change : Char → Char) : List UInt8 :=
    bytes.map fun b => UInt8.ofNat (change (Char.ofNat b.toNat)).toNat
  if c.conversions.contains .lower then cased Char.toLower
  else if c.conversions.contains .upper then cased Char.toUpper
  else bytes

end BlockCopy

/-- How far blocks were copied. -/
structure BlockProgress where
  readWhole : Nat
  readPart : Nat
  writtenWhole : Nat
  writtenPart : Nat
  bytes : Nat
  /-- What was read and is less than a block to write. -/
  pending : List UInt8

/-- Reads a block, and with `complete` as often as it takes. The fuel is a bound on the number of
times. -/
def readBlock (number size : Nat) (complete : Bool) :
    Nat → List UInt8 → Tool (Except IoError (List UInt8))
  | 0, read => pure (.ok read)
  | fuel + 1, read => do
      match ← ask (.read number (size - read.length)) with
      | .error e => pure (.error e)
      | .ok [] => pure (.ok read)
      | .ok bytes =>
          let read := read ++ bytes
          if complete && read.length < size then readBlock number size complete fuel read
          else pure (.ok read)

/-- Writes a block. -/
def writeBlock (c : BlockCopy) (output : Nat) (bytes : List UInt8) (p : BlockProgress) :
    Tool BlockProgress := do
  match ← routine (Routine.put output bytes) with
  | .error e => fail ("error writing " ++ quoted (c.output.getD "standard output") ++ ": " ++
      e.reason)
  | .ok () =>
      let whole := bytes.length = c.writeSize
      pure { p with
        writtenWhole := p.writtenWhole + (if whole then 1 else 0)
        writtenPart := p.writtenPart + (if whole then 0 else 1)
        bytes := p.bytes + bytes.length }

/-- Writes whole blocks of what is pending. The fuel is a bound on their number. -/
def writePending (c : BlockCopy) (output : Nat) : Nat → BlockProgress → Tool BlockProgress
  | 0, p => pure p
  | fuel + 1, p => do
      if p.pending.length < c.writeSize then pure p
      else
        let block := p.pending.take c.writeSize
        writePending c output fuel
          (← writeBlock c output block { p with pending := p.pending.drop c.writeSize })

/-- Copies blocks. The fuel is a bound on their number. -/
def transfer (c : BlockCopy) (input output : Nat) : Nat → BlockProgress → Tool BlockProgress
  | 0, p => pure p
  | fuel + 1, p => do
      let done := p.readWhole + p.readPart
      let readSoFar := p.readWhole * c.readSize
      let size : Nat :=
        match c.count with
        | none => c.readSize
        | some n =>
            if c.countsBytes then min c.readSize (n - readSoFar)
            else if done < n then c.readSize else 0
      if size = 0 || (c.countsBytes && p.readPart > 0 && c.count.isSome) then pure p
      else
        match ← readBlock input size c.wholeBlocks Routine.always [] with
        | .error e => do
            complain
              ("error reading " ++ quoted (c.input.getD "standard input") ++ ": " ++ e.reason)
            pure p
        | .ok [] => pure p
        | .ok bytes => do
            let whole := bytes.length = c.readSize
            let p := { p with
              readWhole := p.readWhole + (if whole then 1 else 0)
              readPart := p.readPart + (if whole then 0 else 1) }
            let block := c.converted bytes
            let p ←
              if c.same then writeBlock c output block p
              else
                let p := { p with pending := p.pending ++ block }
                writePending c output (p.pending.length + 1) p
            transfer c input output fuel p

/-- Passes over bytes of the input. The fuel is a bound on the number of reads. -/
def skipInput (number : Nat) : Nat → Nat → Tool Bool
  | 0, _ => pure true
  | _ + 1, 0 => pure true
  | fuel + 1, left => do
      match ← ask (.read number (min left Routine.blockSize)) with
      | .ok [] | .error _ => pure false
      | .ok bytes => skipInput number fuel (left - bytes.length)

/-- Copies a file in blocks. -/
def ddTool : Tool Unit := do
  let a ← arguments [] true
  let start : BlockCopy :=
    ⟨none, none, 512, 512, false, none, 0, 0, false, false, false, false, false, [], false, false⟩
  let c ← a.operands.foldlM (fun (c : BlockCopy) text => do
    match c.operand text with
    | .ok c => pure c
    | .error (message, true) => misused message
    | .error (message, false) => fail message) start
  let input ←
    match c.input with
    | none => pure 0
    | some path =>
        match ← ask (.openFile path .reader 3) with
        | .ok number => pure number
        | .error e => fail ("failed to open " ++ quoted path ++ ": " ++ e.reason)
  let seek := if c.seeksBytes then c.seek else c.seek * c.writeSize
  let keeps := c.conversions.contains .keep || seek > 0
  let output ←
    match c.output with
    | none => pure 1
    | some path =>
        let access : Access :=
          { Access.patcher with
            emptying := !keeps
            creating := !c.conversions.contains .existing
            excluding := c.conversions.contains .excluding
            appending := c.appends }
        match ← ask (.openFile path access 3) with
        | .ok number => pure number
        | .error e => fail ("failed to open " ++ quoted path ++ ": " ++ e.reason)
  if seek > 0 then
    if c.output.isSome && !c.conversions.contains .keep then
      let _ ← ask (.truncate output seek)
    let _ ← ask (.seek output seek)
  let skipped := if c.skipsBytes then c.skip else c.skip * c.readSize
  if !(← skipInput input Routine.always skipped) then
    warn (c.input.getD "standard input" ++ ": cannot skip to specified offset")
  let p ← transfer c input output Routine.always ⟨0, 0, 0, 0, 0, []⟩
  let p ← if p.pending = [] then pure p else writeBlock c output p.pending p
  if !c.silent then
    say (toString p.readWhole ++ "+" ++ toString p.readPart ++ " records in\n" ++
      toString p.writtenWhole ++ "+" ++ toString p.writtenPart ++ " records out\n")
    if !c.terse then
      say (toString p.bytes ++ (if p.bytes = 1 then " byte" else " bytes") ++
        " copied, 0.0001 s, " ++ toString (p.bytes * 10) ++ " kB/s\n")

/-! ## Sizes -/

/-- The size that a file gets, from the one that it has. -/
def changedSize? (text : String) (old : Nat) : Option Nat :=
  let number (cs : List Char) : Option Nat := sizeOf? (String.ofList cs)
  match text.toList with
  | '+' :: cs => (number cs).map (old + ·)
  | '-' :: cs => (number cs).map (old - ·)
  | '<' :: cs => (number cs).map (min old)
  | '>' :: cs => (number cs).map (max old)
  | '/' :: cs => (number cs).bind fun n => if n = 0 then none else some (old / n * n)
  | '%' :: cs => (number cs).bind fun n =>
      if n = 0 then none else some ((old + n - 1) / n * n)
  | cs => number cs

/-- Cuts files to a size. -/
def truncateTool : Tool Unit := do
  let a ← arguments [.flag 'c' "no-create", .flag 'o' "io-blocks", .value 'r' "reference",
    .value 's' "size"] true
  if !a.has 's' && !a.has 'r' then misused "you must specify either '--size' or '--reference'"
  match a.value? 's' with
  | some text =>
      if (changedSize? text 0).isNone then fail ("Invalid number: " ++ quoted text)
  | none => pure ()
  if a.operands = [] then misused "missing file operand"
  let reference ←
    match a.value? 'r' with
    | none => pure none
    | some path =>
        match ← ask (.inspect path true) with
        | .ok info => pure (some info.size)
        | .error e => fail ("cannot stat " ++ quoted path ++ ": " ++ e.reason)
  a.operands.forM fun path => do
    match ← ask (.openFile path { Access.patcher with creating := !a.has 'c' } 0) with
    | .error e =>
        if a.has 'c' && e = .noEntry then pure ()
        else complain ("cannot open " ++ quoted path ++ " for writing: " ++ e.reason)
    | .ok number => do
        match ← ask (.inspectOpen number) with
        | .error _ => pure ()
        | .ok info =>
            let old := reference.getD info.size
            let size :=
              match a.value? 's' with
              | some text => (changedSize? text old).getD old
              | none => old
            match ← ask (.truncate number size) with
            | .ok () => pure ()
            | .error e =>
                complain ("failed to truncate " ++ quoted path ++ " at " ++ toString size ++
                  " bytes: " ++ e.reason)
        let _ ← ask (.close number)

end HostFlash.Utility
