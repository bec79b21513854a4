import HostFlash.Shell.Number
import HostFlash.Text.Class
import HostFlash.Text.Lines
import HostFlash.Text.Real
import HostFlash.Utility.Tool

/-! # Sorting

The program that sorts lines. Lines are compared by their keys, which are parts of them: as texts,
as numbers, as versions, or as months. Lines with the same keys come in the order of the whole
lines, or stay as they were.
-/

namespace HostFlash.Utility

open Tool

/-- How keys are compared. -/
structure KeyOrder where
  /-- As whole numbers and decimal fractions. -/
  numeric : Bool
  /-- As numbers with an exponent, behind all that is none. -/
  scientific : Bool
  /-- As numbers with a unit. -/
  human : Bool
  /-- As the names of months, behind all that is none. -/
  months : Bool
  version : Bool
  folded : Bool
  dictionary : Bool
  blanks : Bool
  reversed : Bool
deriving Repr, DecidableEq

/-- A part of a line that is compared. The places count from one, and a last place of zero is the
end of the field. -/
structure SortKey where
  firstField : Nat
  firstChar : Nat
  last : Option (Nat × Nat)
  ordering : KeyOrder
deriving Repr, DecidableEq

namespace SortKey

/-- The fields of a line with the separators in front of them. -/
def fieldStarts (separator : Option Char) (line : List Char) : List (List Char) :=
  match separator with
  | some c => Text.splitOn c line
  | none =>
      let isGap (c : Char) : Bool := c = ' ' || c = '\t'
      let rec go : Nat → List Char → List (List Char)
        | 0, _ => []
        | _ + 1, [] => []
        | fuel + 1, cs =>
            let gap := cs.takeWhile isGap
            let word := (cs.drop gap.length).takeWhile (!isGap ·)
            (gap ++ word) :: go fuel (cs.drop (gap.length + word.length))
      go (line.length + 1) line

/-- The part of a line that a key stands for. -/
def part (k : SortKey) (separator : Option Char) (line : String) : List Char :=
  let fields := fieldStarts separator line.toList
  let joint := separator.toList
  let skip (cs : List Char) : List Char :=
    if k.ordering.blanks then cs.dropWhile fun c => c = ' ' || c = '\t' else cs
  match fields.drop (k.firstField - 1) with
  | [] => []
  | first :: rest =>
      let lead := first.length - (skip first).length
      let offset := lead + (k.firstChar - 1)
      match k.last with
      | none => ((first :: rest).intersperse joint).flatten.drop offset
      | some (field, char) =>
          if field < k.firstField then []
          else
            let between := (first :: rest).take (field - k.firstField)
            let final := ((first :: rest).drop (field - k.firstField)).head?.getD []
            let final := if char = 0 then final else
              final.take ((final.length - (skip final).length) + char)
            (((between ++ [final]).intersperse joint).flatten).drop offset

/-- The number at the front of a key. -/
def number (cs : List Char) : Text.Quotient × List Char :=
  let cs := cs.dropWhile Shell.isSpace
  let (negative, cs) := match cs with
    | '-' :: rest => (true, rest)
    | rest => (false, rest)
  let whole := cs.takeWhile Char.isDigit
  let rest := cs.drop whole.length
  let (fraction, rest) := match rest with
    | '.' :: rest =>
        let digits := rest.takeWhile Char.isDigit
        (digits, rest.drop digits.length)
    | rest => ([], rest)
  (⟨negative, Nat.ofDigitChars 10 (whole ++ fraction) 0, Nat.pow 10 fraction.length⟩, rest)

/-- Compares numbers. -/
def compareNumbers (a b : Text.Quotient) : Ordering :=
  let value (q : Text.Quotient) (other : Nat) : Int :=
    if q.negative then -((q.top * other : Nat) : Int) else ((q.top * other : Nat) : Int)
  compare (value a b.bottom) (value b a.bottom)

/-- The size of the unit behind a number. -/
def unitRank (rest : List Char) : Nat :=
  match rest with
  | c :: _ =>
      let units := ['K', 'M', 'G', 'T', 'P', 'E', 'Z', 'Y']
      ((units.findIdx? (· = c.toUpper)).map (· + 1)).getD 0
  | [] => 0

/-- The number with an exponent at the front of a key. -/
def scientificNumber? (cs : List Char) : Option Text.Quotient :=
  let cs := cs.dropWhile Shell.isSpace
  let cs := if cs.head? = some '+' then cs.tail else cs
  let (q, rest) := number cs
  let isNumber :=
    match if cs.head? = some '-' then cs.tail else cs with
    | '.' :: c :: _ => c.isDigit
    | c :: _ => c.isDigit
    | [] => false
  if !isNumber then none
  else
    match rest with
    | e :: exponent =>
        if e = 'e' || e = 'E' then
          let (negative, digits) := match exponent with
            | '-' :: digits => (true, digits)
            | '+' :: digits => (false, digits)
            | digits => (false, digits)
          let n := min 5000 (Nat.ofDigitChars 10 (digits.takeWhile Char.isDigit) 0)
          some (if negative then { q with bottom := q.bottom * Nat.pow 10 n }
            else { q with top := q.top * Nat.pow 10 n })
        else some q
    | [] => some q

/-- The number of the month at the front of a key, or zero. -/
def monthNumber (cs : List Char) : Nat :=
  let name := String.ofList (((cs.dropWhile Shell.isSpace).take 3).map Char.toUpper)
  let months :=
    ["JAN", "FEB", "MAR", "APR", "MAY", "JUN", "JUL", "AUG", "SEP", "OCT", "NOV", "DEC"]
  ((months.idxOf? name).map (· + 1)).getD 0

/-- Compares characters one by one. -/
def compareChars : List Char → List Char → Ordering
  | [], [] => .eq
  | [], _ => .lt
  | _, [] => .gt
  | a :: as, b :: bs => if a = b then compareChars as bs else compare a.toNat b.toNat

/-- Compares texts in which numbers count as such. The fuel is a bound on the characters. -/
def compareVersions : Nat → List Char → List Char → Ordering
  | 0, _, _ => .eq
  | fuel + 1, a, b =>
      let wordA := a.takeWhile (!·.isDigit)
      let wordB := b.takeWhile (!·.isDigit)
      match compareChars wordA wordB with
      | .eq =>
          let a := a.drop wordA.length
          let b := b.drop wordB.length
          if a = [] && b = [] then .eq
          else
            let digitsA := a.takeWhile Char.isDigit
            let digitsB := b.takeWhile Char.isDigit
            match compare (Nat.ofDigitChars 10 digitsA 0) (Nat.ofDigitChars 10 digitsB 0) with
            | .eq => compareVersions fuel (a.drop digitsA.length) (b.drop digitsB.length)
            | o => o
      | o => o

/-- Compares keys without regard to their direction. -/
def compareKeys (o : KeyOrder) (a b : List Char) : Ordering :=
  if o.numeric then compareNumbers (number a).1 (number b).1
  else if o.scientific then
    match scientificNumber? a, scientificNumber? b with
    | some x, some y => compareNumbers x y
    | some _, none => .gt
    | none, some _ => .lt
    | none, none => .eq
  else if o.months then compare (monthNumber a) (monthNumber b)
  else if o.human then
    let (x, restX) := number a
    let (y, restY) := number b
    let sign (q : Text.Quotient) : Int := if q.top = 0 then 0 else if q.negative then -1 else 1
    match compare (sign x * (unitRank restX + 1)) (sign y * (unitRank restY + 1)) with
    | .eq => compareNumbers x y
    | other => other
  else if o.version then compareVersions (a.length + b.length + 1) a b
  else
    let clean (cs : List Char) : List Char :=
      let cs := if o.dictionary then cs.filter fun c => c.isAlphanum || c = ' ' || c = '\t' else cs
      if o.folded then cs.map Char.toUpper else cs
    compareChars (clean a) (clean b)

end SortKey

/-- The letters of an ordering. -/
def KeyOrder.ofLetters (letters : List Char) : KeyOrder :=
  { numeric := letters.contains 'n', scientific := letters.contains 'g',
    human := letters.contains 'h', months := letters.contains 'M',
    version := letters.contains 'V', folded := letters.contains 'f',
    dictionary := letters.contains 'd', blanks := letters.contains 'b',
    reversed := letters.contains 'r' }

/-- A place in a key as it is written: a field, a character in it, and the letters of an ordering.
The text is the key. -/
def keyPlace (text : String) (subject : String) (cs : List Char) :
    Except String (Nat × Option Nat × List Char × List Char) := do
  let count (subject : String) (cs : List Char) : Except String (Nat × List Char) :=
    let digits := cs.takeWhile Char.isDigit
    if digits = [] then
      .error (subject ++ ": invalid count at start of " ++ quoted (String.ofList cs))
    else .ok (Nat.ofDigitChars 10 digits 0, cs.drop digits.length)
  let (field, rest) ← count subject cs
  if field = 0 then
    .error ("field number is zero: invalid field specification " ++ quoted text)
  let (char, rest) ←
    match rest with
    | '.' :: rest => (count "invalid number after '.'" rest).map fun (n, rest) => (some n, rest)
    | rest => pure (none, rest)
  let isLetter (c : Char) : Bool :=
    ['b', 'd', 'f', 'g', 'h', 'i', 'M', 'n', 'R', 'r', 'V'].contains c
  let letters := rest.takeWhile isLetter
  pure (field, char, letters, rest.drop letters.length)

/-- A key as it is written, with the ordering for keys that have none of their own. -/
def sortKeyOf (general : KeyOrder) (text : String) : Except String SortKey := do
  let (field, char, letters, rest) ← keyPlace text "invalid number at field start" text.toList
  if char = some 0 then
    .error ("character offset is zero: invalid field specification " ++ quoted text)
  let (last, more, rest) : Option (Nat × Nat) × List Char × List Char ←
    match rest with
    | ',' :: rest => do
        let (field, char, more, rest) ← keyPlace text "invalid number after ','" rest
        pure (some (field, char.getD 0), more, rest)
    | rest => pure (none, [], rest)
  if rest ≠ [] then
    .error ("stray character in field spec: invalid field specification " ++ quoted text)
  let letters := letters ++ more
  pure ⟨field, char.getD 1, last, if letters = [] then general else KeyOrder.ofLetters letters⟩

/-- The order of lines. -/
structure LineOrder where
  keys : List SortKey
  separator : Option Char
  /-- Lines with the same keys are in the same place. -/
  keysOnly : Bool
  reversed : Bool

namespace LineOrder

/-- Compares lines by their keys. -/
def compareKeys (o : LineOrder) (a b : String) : Ordering :=
  (o.keys.map fun k =>
    let r := SortKey.compareKeys k.ordering (k.part o.separator a) (k.part o.separator b)
    if k.ordering.reversed then r.swap else r).foldl Ordering.then .eq

/-- Compares lines. -/
def compareLines (o : LineOrder) (a b : String) : Ordering :=
  match o.compareKeys a b with
  | .eq =>
      if o.keysOnly then .eq
      else
        let r := SortKey.compareChars a.toList b.toList
        if o.reversed then r.swap else r
  | r => r

end LineOrder

/-- Sorts lines. -/
def sortTool : Tool Unit := do
  modify fun s => { s with failure := 2 }
  let a ← arguments [.flag 'b' "ignore-leading-blanks", .flag 'd' "dictionary-order",
    .flag 'f' "ignore-case", .flag 'g' "general-numeric-sort", .flag 'h' "human-numeric-sort",
    .flag 'i' "ignore-nonprinting", .flag 'M' "month-sort", .flag 'n' "numeric-sort",
    .flag 'R' "random-sort", .flag 'r' "reverse", .flag 'V' "version-sort", .value 'k' "key",
    .value 't' "field-separator", .flag 'u' "unique", .flag 'c' "check", .flag 'C' "",
    .flag 'm' "merge", .value 'o' "output", .flag 's' "stable", .flag 'z' "zero-terminated",
    .value 'S' "buffer-size", .value 'T' "temporary-directory"] true
  let general := KeyOrder.ofLetters (a.options.map (·.1))
  let separator ←
    match a.value? 't' with
    | none => pure none
    | some text =>
        match text.toList with
        | [c] => pure (some c)
        | ['\\', '0'] => pure (some '\x00')
        | [] => fail "empty tab"
        | _ => fail ("multi-character tab " ++ quoted text)
  let texts := a.options.filterMap fun (key, value) => if key = 'k' then value else none
  let keys ← texts.mapM fun text => do
    match sortKeyOf general text with
    | .ok key => pure key
    | .error message => fail message
  let order : LineOrder :=
    { keys := if keys = [] then [⟨1, 1, none, general⟩] else keys, separator := separator,
      keysOnly := a.has 's' || a.has 'u', reversed := general.reversed }
  let paths := if a.operands = [] then ["-"] else a.operands
  let texts ← paths.mapM fun path => do
    match ← openInput path with
    | .error e => fail ("cannot read: " ++ path ++ ": " ++ e.reason)
    | .ok number => do
        match ← routine (Routine.readAll number) with
        | .error e => fail ("read failed: " ++ path ++ ": " ++ e.reason)
        | .ok bytes => do
            closeInput number
            pure (Text.Octets.ofBytes bytes)
  let ending := if a.has 'z' then '\x00' else '\n'
  let files := texts.map fun text =>
    let pieces := Text.splitOn ending text.toList
    (if pieces.getLast? = some [] then pieces.dropLast else pieces).map String.ofList
  if a.has 'c' || a.has 'C' then
    let rec check : Nat → List String → Tool Unit
      | n, x :: y :: rest => do
          let isWrong :=
            match order.compareLines x y with
            | .gt => true
            | .eq => a.has 'u'
            | .lt => false
          if isWrong then
            if a.has 'C' then exit 1
            else do
              modify fun s => { s with failure := 1 }
              fail (paths.headD "" ++ ":" ++ toString (n + 1) ++ ": disorder: " ++ y)
          else check (n + 1) (y :: rest)
      | _, _ => pure ()
    check 1 files.flatten
  else
    let isOrdered (x y : String) : Bool := order.compareLines x y ≠ .gt
    let sorted :=
      if a.has 'm' then files.foldl (fun lines more => lines.merge more isOrdered) []
      else files.flatten.mergeSort isOrdered
    let kept :=
      if a.has 'u' then
        sorted.foldr (fun line rest =>
          match rest with
          | next :: more =>
              if order.compareKeys line next = .eq then line :: more else line :: rest
          | [] => [line]) []
      else sorted
    let text := String.join (kept.map fun line => line ++ String.singleton ending)
    match a.value? 'o' with
    | none => write text
    | some path =>
        match ← ask (.openFile path .writer 0) with
        | .error e => fail ("open failed: " ++ path ++ ": " ++ e.reason)
        | .ok number =>
            let _ ← routine (Routine.put number (Text.Octets.toBytes text))

end HostFlash.Utility
