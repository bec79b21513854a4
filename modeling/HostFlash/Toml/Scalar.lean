import HostFlash.Toml.Value

/-! # Strings, numbers and dates of a settings document

Readers for the values that hold no other values. Each takes the characters that are left and
gives what it read with the rest, or none if the characters are no such value.
-/

namespace HostFlash.Toml

/-- A reader. -/
abbrev Reader (α : Type) := List Char → Option (α × List Char)

/-- A space or a tab. -/
def isGap (c : Char) : Bool := c = ' ' || c = '\t'

/-- Skips spaces and tabs. -/
def skipGaps (cs : List Char) : List Char := cs.dropWhile isGap

/-- A character that may stand in comments and literal strings. -/
def isPlain (c : Char) : Bool :=
  c = '\t' || (0x20 ≤ c.toNat && c.toNat ≤ 0x7E) || 0x80 ≤ c.toNat

/-- The rest behind a line end. -/
def newline? : List Char → Option (List Char)
  | '\n' :: rest => some rest
  | '\r' :: '\n' :: rest => some rest
  | _ => none

/-- Skips a comment up to the end of its line. -/
def skipComment : List Char → List Char
  | '#' :: rest => rest.dropWhile isPlain
  | rest => rest

/-- The value of hexadecimal digits of either case. -/
def hexValue? (cs : List Char) : Option Nat :=
  cs.foldlM (fun n c =>
    if c.isDigit then some (n * 16 + (c.toNat - '0'.toNat))
    else if 'a' ≤ c && c ≤ 'f' then some (n * 16 + (c.toNat - 'a'.toNat + 10))
    else if 'A' ≤ c && c ≤ 'F' then some (n * 16 + (c.toNat - 'A'.toNat + 10))
    else none) 0

/-- The character of a number of hexadecimal digits. -/
def codePoint (width : Nat) : Reader Char := fun cs =>
  if (cs.take width).length = width then
    (hexValue? (cs.take width)).bind fun n =>
      if n.isValidChar then some (Char.ofNat n, cs.drop width) else none
  else none

/-- What stands behind the backslash of an escape. -/
def escaped : Reader Char
  | 'b' :: rest => some ('\x08', rest)
  | 'f' :: rest => some ('\x0c', rest)
  | 'n' :: rest => some ('\n', rest)
  | 'r' :: rest => some ('\r', rest)
  | 't' :: rest => some ('\t', rest)
  | '"' :: rest => some ('"', rest)
  | '\\' :: rest => some ('\\', rest)
  | 'u' :: rest => codePoint 4 rest
  | 'U' :: rest => codePoint 8 rest
  | _ => none

/-- One character in front of what a reader gives. -/
def consTo (c : Char) (tail : Option (List Char × List Char)) : Option (List Char × List Char) :=
  tail.map fun (cs, rest) => (c :: cs, rest)

/-- A string in double quotes, behind its first quote. The fuel is a bound on the characters. -/
def basicString : Nat → Reader (List Char)
  | 0, _ => none
  | _ + 1, '"' :: rest => some ([], rest)
  | fuel + 1, '\\' :: rest =>
      (escaped rest).bind fun (c, rest) => consTo c (basicString fuel rest)
  | fuel + 1, c :: rest => if isPlain c then consTo c (basicString fuel rest) else none
  | _ + 1, [] => none

/-- A string in single quotes, behind its first quote. -/
def literalString : Reader (List Char) := fun cs =>
  match cs.dropWhile fun c => isPlain c && c ≠ '\'' with
  | '\'' :: rest => some (cs.takeWhile fun c => isPlain c && c ≠ '\'', rest)
  | _ => none

/-- The quotes that close a string of several lines. Up to two more in front of them belong to the
string. -/
def closingQuotes? (quote : Char) (cs : List Char) : Option (List Char × List Char) :=
  let run := cs.takeWhile (· = quote)
  if run.length < 3 then none
  else
    let taken := min run.length 5
    some (List.replicate (taken - 3) quote, cs.drop taken)

/-- Skips the line end and the blanks that an escaped line end takes away. -/
def skipBlankLines : List Char → List Char
  | '\r' :: '\n' :: rest => skipBlankLines rest
  | c :: rest => if isGap c || c = '\n' then skipBlankLines rest else c :: rest
  | [] => []

/-- A string of several lines behind its quotes. With `escapes` a backslash is one. -/
def longString (quote : Char) (escapes : Bool) : Nat → Reader (List Char)
  | 0, _ => none
  | _ + 1, [] => none
  | fuel + 1, c :: rest =>
      if c = quote then
        match closingQuotes? quote (c :: rest) with
        | some (cs, rest) => some (cs, rest)
        | none => consTo c (longString quote escapes fuel rest)
      else if c = '\\' && escapes then
        match newline? (skipGaps rest) with
        | some rest => longString quote escapes fuel (skipBlankLines rest)
        | none => (escaped rest).bind fun (e, rest) => consTo e (longString quote escapes fuel rest)
      else
        match newline? (c :: rest) with
        | some rest => consTo '\n' (longString quote escapes fuel rest)
        | none => if isPlain c then consTo c (longString quote escapes fuel rest) else none

/-- Skips the line end right behind the quotes of a string of several lines. -/
def dropFirstNewline (cs : List Char) : List Char := (newline? cs).getD cs

/-- A string of any kind. The fuel is a bound on the characters. -/
def string (fuel : Nat) : Reader (List Char)
  | '"' :: '"' :: '"' :: rest => longString '"' true fuel (dropFirstNewline rest)
  | '\'' :: '\'' :: '\'' :: rest => longString '\'' false fuel (dropFirstNewline rest)
  | '"' :: rest => basicString fuel rest
  | '\'' :: rest => literalString rest
  | _ => none

/-- Digits, with single underscores between them, which are left out. -/
def digitRun (isDigit : Char → Bool) : Reader (List Char)
  | c :: '_' :: d :: rest =>
      if isDigit c then
        if isDigit d then consTo c (digitRun isDigit (d :: rest)) else some ([c], '_' :: d :: rest)
      else none
  | c :: rest =>
      if isDigit c then
        match digitRun isDigit rest with
        | some (ds, rest) => some (c :: ds, rest)
        | none => some ([c], rest)
      else none
  | [] => none

/-- A decimal number without a zero in front of other digits. -/
def decimalDigits : Reader (List Char)
  | '0' :: rest => some (['0'], rest)
  | cs => digitRun Char.isDigit cs

/-- A sign and the rest. -/
def sign : List Char → List Char × List Char
  | '+' :: rest => ([], rest)
  | '-' :: rest => (['-'], rest)
  | rest => ([], rest)

/-- A number that fits into 64 bits. -/
def fitted (n : Int) : Option Value :=
  if Int64.minValue.toInt ≤ n && n ≤ Int64.maxValue.toInt then some (.integer n) else none

/-- Digits without the zeros in front of them. -/
def significant (ds : List Char) : List Char := ds.dropWhile (· = '0')

/-- An integer: decimal with a sign, or in one of three other bases. One of more than 64 digits does
not fit, whatever they are. -/
def integer : Reader Value := fun cs =>
  let number (base : Nat) (ds : List Char) : Option Nat :=
    let ds := significant ds
    if ds.length > 64 then none else hexDigits base ds
  let inBase (base : Nat) (isDigit : Char → Bool) : Reader Value := fun cs =>
    (digitRun isDigit cs).bind fun (ds, rest) =>
      (number base ds).bind fun n => (fitted n).map fun v => (v, rest)
  match cs with
  | '0' :: 'x' :: rest => inBase 16 (fun c => (hexValue? [c]).isSome) rest
  | '0' :: 'o' :: rest => inBase 8 (fun c => '0' ≤ c && c ≤ '7') rest
  | '0' :: 'b' :: rest => inBase 2 (fun c => c = '0' || c = '1') rest
  | cs =>
      let (minus, rest) := sign cs
      (decimalDigits rest).bind fun (ds, rest) =>
        (number 10 ds).bind fun n =>
          (fitted (if minus = [] then n else -n)).map fun v => (v, rest)
where
  /-- The value of digits in a base up to 16. -/
  hexDigits (base : Nat) (ds : List Char) : Option Nat :=
    ds.foldlM (fun n c => (hexValue? [c]).map fun d => n * base + d) 0

/-- The decimal `digits · 10 ^ exponent` is beyond the floats: nearer to `2 ^ 1024` than to the
greatest float, or as near to it. That bound is a whole number, so that the digits behind the point
do not count. -/
def isHuge (digits : List Char) (exponent : Int) : Bool :=
  let ds := significant digits
  let places := exponent + ds.length
  if ds = [] then false
  else if places > 400 then true
  else if places < 300 then false
  else
    let whole := (ds ++ List.replicate exponent.toNat '0').take places.toNat
    (Nat.pow 2 54 - 1) * Nat.pow 2 970 ≤ Nat.ofDigitChars 10 whole 0

/-- The value of the digits of an exponent. No text is long enough to make up for an exponent of
more than 18 digits, so that one of them stands for all others. -/
def exponentOf (ds : List Char) : Nat :=
  let ds := significant ds
  if ds.length > 18 then Nat.pow 10 18 else Nat.ofDigitChars 10 ds 0

/-- A float: a decimal number with a fraction, an exponent or both, or the name of one that is no
number. A positive number beyond the floats is refused. -/
def float : Reader Value := fun cs =>
  let (minus, behindSign) := sign cs
  match behindSign with
  | 'i' :: 'n' :: 'f' :: rest => some (.float (String.ofList (minus ++ ['i', 'n', 'f'])), rest)
  | 'n' :: 'a' :: 'n' :: rest => some (.float (String.ofList (minus ++ ['n', 'a', 'n'])), rest)
  | _ =>
      (decimalDigits behindSign).bind fun (whole, behindWhole) =>
        (fraction behindWhole).bind fun (decimals, behindFraction) =>
          (exponent behindFraction).bind fun (minusExponent, exponentDigits, rest) =>
            if decimals = [] && exponentDigits = [] then none
            else
              let power : Int := exponentOf exponentDigits
              let power := if minusExponent then -power else power
              if minus = [] && isHuge (whole ++ decimals) (power - decimals.length) then none
              else
                let written := cs.take (cs.length - rest.length)
                some (.float (String.ofList (written.filter (· ≠ '_'))), rest)
where
  /-- The digits behind a point, or none without a point. -/
  fraction : Reader (List Char)
    | '.' :: rest => digitRun Char.isDigit rest
    | rest => some ([], rest)
  /-- The sign and the digits of an exponent, or none without one. -/
  exponent : List Char → Option (Bool × List Char × List Char)
    | c :: rest =>
        if c = 'e' || c = 'E' then
          let (minus, rest) := sign rest
          (digitRun Char.isDigit rest).map fun (ds, rest) => (minus ≠ [], ds, rest)
        else some (false, [], c :: rest)
    | [] => some (false, [], [])

/-- A number of exactly so many digits between two bounds. -/
def fixedNumber (width low high : Nat) : Reader Nat := fun cs =>
  let ds := cs.take width
  let n := Nat.ofDigitChars 10 ds 0
  if ds.length = width && ds.all Char.isDigit && low ≤ n && n ≤ high then
    some (n, cs.drop width)
  else none

/-- The rest behind a character that must come next. -/
def expect (c : Char) : List Char → Option (List Char)
  | d :: rest => if d = c then some rest else none
  | [] => none

/-- The days of a month. -/
def daysIn (year month : Nat) : Nat :=
  if month = 2 then
    if year % 4 = 0 && (year % 100 ≠ 0 || year % 400 = 0) then 29 else 28
  else if [4, 6, 9, 11].contains month then 30
  else 31

/-- The rest behind a date. -/
def skipDate (cs : List Char) : Option (List Char) := do
  let (year, cs) ← fixedNumber 4 0 9999 cs
  let cs ← expect '-' cs
  let (month, cs) ← fixedNumber 2 1 12 cs
  let cs ← expect '-' cs
  let (_, cs) ← fixedNumber 2 1 (daysIn year month) cs
  pure cs

/-- The rest behind hours and minutes. -/
def skipMinutes (cs : List Char) : Option (List Char) := do
  let (_, cs) ← fixedNumber 2 0 23 cs
  let cs ← expect ':' cs
  let (_, cs) ← fixedNumber 2 0 59 cs
  pure cs

/-- The rest behind a time of day. A minute may have a leap second. -/
def skipTime (cs : List Char) : Option (List Char) := do
  let cs ← skipMinutes cs
  let cs ← expect ':' cs
  let (_, cs) ← fixedNumber 2 0 60 cs
  match cs with
  | '.' :: c :: rest => if c.isDigit then pure (rest.dropWhile Char.isDigit) else none
  | ['.'] => none
  | cs => pure cs

/-- The rest behind an offset from universal time, if one comes next. -/
def skipOffset : List Char → Option (List Char)
  | c :: rest =>
      if c = 'Z' || c = 'z' then some rest
      else if c = '+' || c = '-' then skipMinutes rest
      else some (c :: rest)
  | [] => some []

/-- A date, a time of day, or both, with an offset behind both. -/
def date : Reader Value := fun cs =>
  let rest? :=
    match skipDate cs with
    | some (c :: rest) =>
        if c = 'T' || c = 't' || c = ' ' then
          match skipTime rest with
          | some rest => skipOffset rest
          | none => some (c :: rest)
        else some (c :: rest)
    | some [] => some []
    | none => skipTime cs
  rest?.map fun rest => (.date (String.ofList (cs.take (cs.length - rest.length))), rest)

/-- A character that may stand in a value that is no string and holds no other values. -/
def isValueChar (c : Char) : Bool :=
  c.isAlphanum || ['+', '-', '_', '.', ':', ' '].contains c

/-- A value that begins with a sign, a digit or a letter. What cannot be a part of it is not looked
at. -/
def plainValue : Reader Value := fun cs =>
  let word := cs.takeWhile isValueChar
  let read : Option (Value × List Char) :=
    match word with
    | 't' :: 'r' :: 'u' :: 'e' :: rest => some (.boolean true, rest)
    | 'f' :: 'a' :: 'l' :: 's' :: 'e' :: rest => some (.boolean false, rest)
    | word => ((date word).orElse fun _ => float word).orElse fun _ => integer word
  read.map fun (v, rest) => (v, rest ++ cs.drop word.length)

end HostFlash.Toml
