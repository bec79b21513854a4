import HostFlash.Utility.Printf
import HostFlash.Utility.Rules.Syntax

/-! # Values

The values of a program of rules. A value is a number, a text, or a text that came from outside;
the last counts as a number where it looks like one. Numbers have 53 binary digits. They are read
and written in decimal exactly, through quotients.
-/

namespace HostFlash.Utility.Rules

/-- A value. -/
inductive Value where
  | unset
  | number (x : Float)
  | text (s : String)
  /-- A text from outside. -/
  | input (s : String)
deriving Repr

/-! ## Numbers -/

/-- What a finite number is exactly. -/
def quotientOf (x : Float) : Text.Quotient :=
  let bits := x.toBits.toNat
  let negative : Bool := bits ≥ 9223372036854775808
  let exponent := bits / 4503599627370496 % 2048
  let fraction := bits % 4503599627370496
  let m := if exponent = 0 then fraction else fraction + 4503599627370496
  let e := max exponent 1
  if e ≥ 1075 then ⟨negative, m <<< (e - 1075), 1⟩ else ⟨negative, m, 1 <<< (1075 - e)⟩

/-- A number without its fraction. -/
def wholePart (x : Float) : Int :=
  if !x.isFinite then 0
  else
    let q := quotientOf x
    let n : Int := q.top / q.bottom
    if q.negative then -n else n

/-- The largest number of 64 digits in base two. -/
def largestWord : Int := 18446744073709551615

/-- The whole number that a number is, unless it is too large. -/
def whole? (x : Float) : Option Int :=
  if !x.isFinite then none
  else
    let q := quotientOf x
    let n := wholePart x
    if q.top % q.bottom = 0 && -9223372036854775808 ≤ n && n ≤ largestWord + 1 then
      some (min n largestWord)
    else none

/-- What is left of a number when another one is taken away as often as can be. -/
def leftOver (x y : Float) : Float :=
  if y == 0 || !x.isFinite || y.isNaN then 0.0 / 0.0
  else if y.isInf then x
  else
    let a := quotientOf x
    let b := quotientOf y
    let n := (a.top * b.bottom) % (b.top * a.bottom)
    let shift := n.log2 - 60
    let places : Int := (a.bottom * b.bottom).log2
    let r := Float.scaleB (Float.ofNat (n >>> shift)) ((shift : Int) - places)
    if a.negative then -r else r

/-- What an operator makes of two numbers. -/
def Operator.apply (o : Operator) (x y : Float) : Float :=
  match o with
  | .add => x + y
  | .subtract => x - y
  | .multiply => x * y
  | .divide => x / y
  | .remainder => leftOver x y
  | .power => Float.pow x y

/-- A blank in front of a number or behind it. -/
def isBlank (c : Char) : Bool := ['\t', '\n', '\x0b', '\x0c', '\r', ' '].contains c

/-- The value of a digit in base sixteen. -/
def hexDigit? (c : Char) : Option Nat :=
  if c.isDigit then some (c.toNat - '0'.toNat)
  else
    let d := c.toLower
    if 'a' ≤ d && d ≤ 'f' then some (d.toNat - 'a'.toNat + 10) else none

/-- The number without a sign at the front of a text. -/
def readUnsigned (cs : List Char) : Option (Float × List Char) :=
  let word := String.ofList ((cs.take 3).map Char.toLower)
  if word = "inf" then some (1.0 / 0.0, cs.drop 3)
  else if word = "nan" then some (0.0 / 0.0, cs.drop 3)
  else
    let hex := (cs.drop 2).takeWhile fun c => (hexDigit? c).isSome
    if word.startsWith "0x" && hex ≠ [] then
      let n := hex.foldl (fun n c => n * 16 + (hexDigit? c).getD 0) 0
      some (Float.ofNat n, cs.drop (2 + hex.length))
    else
      let front := cs.takeWhile Char.isDigit
      let behind := cs.drop front.length
      let fraction := if behind.head? = some '.' then behind.tail.takeWhile Char.isDigit else []
      if front = [] && fraction = [] then none
      else
        let rest :=
          if behind.head? = some '.' then behind.drop (fraction.length + 1) else behind
        let (down, digits) :=
          match rest with
          | e :: '-' :: digits => (true, if e = 'e' || e = 'E' then digits else [])
          | e :: '+' :: digits => (false, if e = 'e' || e = 'E' then digits else [])
          | e :: digits => (false, if e = 'e' || e = 'E' then digits else [])
          | [] => (false, [])
        let power := digits.takeWhile Char.isDigit
        let rest := if power = [] then rest else digits.drop power.length
        let n := min (Nat.ofDigitChars 10 power 0) 5000
        let exponent : Int := (if down then -(n : Int) else n) - fraction.length
        let m := Nat.ofDigitChars 10 (front ++ fraction) 0
        some (Float.ofScientific m (exponent < 0) exponent.natAbs, rest)

/-- The number at the front of a text, behind blanks, and the rest. -/
def readNumber (cs : List Char) : Option (Float × List Char) :=
  match cs.dropWhile isBlank with
  | '-' :: rest => (readUnsigned rest).map fun (x, rest) => (-x, rest)
  | '+' :: rest => readUnsigned rest
  | rest => readUnsigned rest

/-- The number that a text from outside is. -/
def inputNumber? (s : String) : Option Float :=
  match readNumber s.toList with
  | some (x, rest) => if rest.all isBlank then some x else none
  | none => none

namespace Value

/-- The number that a value counts as in a calculation. -/
def toNumber : Value → Float
  | .unset => 0
  | .number x => x
  | .text s | .input s => ((readNumber s.toList).map (·.1)).getD 0

/-- The number that a value is where it is compared. -/
def number? : Value → Option Float
  | .unset => some 0
  | .number x => some x
  | .text _ => none
  | .input s => inputNumber? s

/-- Whether a value counts as true. -/
def holds (v : Value) : Bool :=
  match v with
  | .unset => false
  | .number x => x != 0
  | .text s => s ≠ ""
  | .input s =>
      match inputNumber? s with
      | some x => x != 0
      | none => s ≠ ""

/-- The number of whether something is so. -/
def ofBool (b : Bool) : Value := .number (if b then 1 else 0)

/-- A whole number. -/
def ofInt (n : Int) : Value := .number (Float.ofInt n)

end Value

/-! ## Formats -/

/-- The text of a number that is not finite. -/
def oddNumber (x : Float) : String := if x.isNaN then "-nan" else if x < 0 then "-inf" else "inf"

/-- A number written by a directive. -/
def writeNumber (d : Directive) (x : Float) : String :=
  let exact := wholePart x
  match d.letter with
  | 'd' | 'i' =>
      d.signed (if x ≥ 18446744073709551616 then largestWord
        else if x ≤ -9223372036854775808 then -9223372036854775807 else exact)
  | 'o' | 'x' | 'X' | 'u' =>
      d.unsigned (if x ≥ 18446744073709551616 then largestWord else exact)
  | _ =>
      if x.isFinite then d.real (quotientOf x)
      else
        let text := oddNumber x
        d.pad (if d.letter.isUpper then text.toUpper else text)

/-- A count in a directive: digits, or a star for the next value. -/
def directiveCount (cs : List Char) (values : List Value) :
    Option Int × List Char × List Value :=
  match cs, values with
  | '*' :: rest, v :: values => (some (wholePart v.toNumber), rest, values)
  | '*' :: rest, [] => (none, rest, [])
  | cs, values =>
      let digits := cs.takeWhile Char.isDigit
      (if digits = [] then none else some (Nat.ofDigitChars 10 digits 0 : Nat),
        cs.drop digits.length, values)

/-- The directive behind a percent sign, with the rest of the format and of the values. -/
def readDirective (cs : List Char) (values : List Value) :
    Directive × List Char × List Value :=
  let isFlag (c : Char) : Bool := ['-', '+', ' ', '#', '0'].contains c
  let flags := cs.takeWhile isFlag
  let (width, cs, values) := directiveCount (cs.drop flags.length) values
  let (precision, cs, values) : Option Nat × List Char × List Value :=
    match cs with
    | '.' :: cs =>
        let (n, cs, values) := directiveCount cs values
        (some (n.getD 0).toNat, cs, values)
    | cs => (none, cs, values)
  let cs := cs.dropWhile fun c => ['h', 'l', 'L', 'q', 'j', 'z', 't'].contains c
  let width := width.getD 0
  (⟨if width < 0 then '-' :: flags else flags, width.natAbs, precision, cs.head?.getD '\x00'⟩,
    cs.tail, values)

mutual

/-- A value as text: a whole number in digits, any other number in a format. The fuel is a bound on
the characters of formats. -/
def Value.toTextWith : Nat → (format : String) → Value → String
  | _, _, .unset => ""
  | _, _, .text s | _, _, .input s => s
  | 0, _, .number _ => ""
  | fuel + 1, format, .number x =>
      match whole? x with
      | some n => toString n
      | none =>
          if x.isFinite then (formatValues fuel "%.6g" format.toList [.number x]).1
          else oddNumber x

/-- Values in a format, up to where there are too few of them, and whether there were enough.
Numbers that stand for texts are written in a format of their own. -/
def formatValues : Nat → (numbers : String) → List Char → List Value → String × Bool
  | 0, _, _, _ => ("", true)
  | _ + 1, _, [], _ => ("", true)
  | fuel + 1, numbers, '%' :: '%' :: rest, values =>
      let (more, enough) := formatValues fuel numbers rest values
      ("%" ++ more, enough)
  | fuel + 1, numbers, '%' :: rest, values =>
      let (d, rest, values) := readDirective rest values
      match values with
      | [] => ("", false)
      | v :: values =>
          let text :=
            match d.letter with
            | 's' => d.text (Value.toTextWith fuel numbers v)
            | 'c' =>
                match v.number? with
                | some x => d.pad (String.singleton (Char.ofNat (wholePart x % 256).toNat))
                | none =>
                    let c := (Value.toTextWith fuel numbers v).toList.headD '\x00'
                    d.pad (String.singleton c)
            | _ => writeNumber d v.toNumber
          let (more, enough) := formatValues fuel numbers rest values
          (text ++ more, enough)
  | fuel + 1, numbers, c :: rest, values =>
      let (more, enough) := formatValues fuel numbers rest values
      (String.singleton c ++ more, enough)

end

/-- Values in a format, and whether there were enough of them. -/
def formatAllValues (numbers format : String) (values : List Value) : String × Bool :=
  formatValues (2 * format.length + 2 * numbers.length + 20) numbers format.toList values

/-- A value as text. -/
def Value.toText (format : String) (v : Value) : String :=
  Value.toTextWith (2 * format.length + 40) format v

/-! ## Comparison -/

/-- How a relation answers to an order. -/
def Relation.ofOrdering (r : Relation) (o : Ordering) : Bool :=
  match r with
  | .less => o = .lt
  | .atMost => o ≠ .gt
  | .equal => o = .eq
  | .unequal => o ≠ .eq
  | .greater => o = .gt
  | .atLeast => o ≠ .lt

/-- Compares values: as numbers if both are, and as texts otherwise. -/
def Relation.between (r : Relation) (format : String) (a b : Value) : Bool :=
  let asNumbers : Option (Float × Float) :=
    match a, b with
    | .unset, .text _ | .text _, .unset => none
    | a, b =>
        match a.number?, b.number? with
        | some x, some y => some (x, y)
        | _, _ => none
  match asNumbers with
  | some (x, y) =>
      r.ofOrdering (if x < y then .lt else if x == y then .eq else .gt)
  | none =>
      let s := a.toText format
      let t := b.toText format
      r.ofOrdering (if s < t then .lt else if s = t then .eq else .gt)

end HostFlash.Utility.Rules
