import HostFlash.Text.Real
import HostFlash.Utility.Escape

/-! # Formats

Writing arguments in a format: directives that begin with a percent sign are replaced by the
arguments in order, and the format is used again as long as arguments are left. Texts are byte
texts. The shell and the machine differ in which numbers they take and in what they complain of.
-/

namespace HostFlash.Utility

/-- A directive: the marks behind the percent sign, the width, the precision, and the letter. -/
structure Directive where
  flags : List Char
  width : Nat
  precision : Option Nat
  letter : Char
deriving Repr, DecidableEq

/-- What a format has come to: what is written, newest first, the complaints, newest first, the
arguments that are left, and whether one was asked for. -/
structure Printed where
  texts : List String
  complaints : List String
  left : List String
  asked : Bool
  failed : Bool
  /-- The format ends here, with the complaint about it if there is one. -/
  stopped : Option (Option String)
deriving Repr, DecidableEq

namespace Directive

variable (d : Directive)

/-- The directive has a mark. -/
def has (flag : Char) : Bool := d.flags.contains flag

/-- A text in the width of a directive. -/
def pad (text : String) : String :=
  let blanks := String.ofList (List.replicate (d.width - text.length) ' ')
  if d.has '-' then text ++ blanks else blanks ++ text

/-- A number in the width of a directive, with its sign or its base in front of the zeros. -/
def padNumber (front digits : String) (zeros : Bool) : String :=
  if zeros && d.has '0' && !d.has '-' then
    front ++ String.ofList (List.replicate (d.width - front.length - digits.length) '0') ++ digits
  else d.pad (front ++ digits)

/-- A text cut to the precision and padded. -/
def text (s : String) : String :=
  d.pad (match d.precision with
    | some n => String.ofList (s.toList.take n)
    | none => s)

/-- The sign in front of a number. -/
def sign (negative : Bool) : String :=
  if negative then "-" else if d.has '+' then "+" else if d.has ' ' then " " else ""

/-- Digits with zeros in front up to the precision. A zero has no digits at precision zero. -/
def withPrecision (digits : String) : String :=
  match d.precision with
  | none => digits
  | some n =>
      if n = 0 && digits = "0" then ""
      else String.ofList (List.replicate (n - digits.length) '0') ++ digits

/-- A whole number with a sign. -/
def signed (n : Int) : String :=
  d.padNumber (d.sign (n < 0)) (d.withPrecision (toString n.natAbs)) d.precision.isNone

/-- A whole number without a sign, in the base of its letter. Negative numbers are those of 64
bits. -/
def unsigned (n : Int) : String :=
  let n := (n % 18446744073709551616).toNat
  match d.letter with
  | 'o' =>
      let digits := d.withPrecision (String.ofList (Nat.toDigits 8 n))
      let digits := if d.has '#' && digits.toList.head? ≠ some '0' then "0" ++ digits else digits
      d.padNumber "" digits d.precision.isNone
  | 'x' =>
      d.padNumber (if d.has '#' && n ≠ 0 then "0x" else "")
        (d.withPrecision (String.ofList (Nat.toDigits 16 n))) d.precision.isNone
  | 'X' =>
      d.padNumber (if d.has '#' && n ≠ 0 then "0X" else "")
        (d.withPrecision (String.ofList (Nat.toDigits 16 n)).toUpper) d.precision.isNone
  | _ => d.padNumber "" (d.withPrecision (toString n)) d.precision.isNone

/-- A number with a fraction. -/
def real (q : Text.Quotient) : String :=
  let places := d.precision.getD 6
  let digits :=
    match d.letter.toLower with
    | 'f' => q.fixed places
    | 'e' => q.scientific places
    | _ => q.general places (d.has '#')
  d.padNumber (d.sign q.negative) (if d.letter.isUpper then digits.toUpper else digits) true

end Directive

/-- Takes an argument. -/
def takeArgument (p : Printed) : Option String × Printed :=
  match p.left with
  | a :: rest => (some a, { p with left := rest, asked := true })
  | [] => (none, { p with asked := true })

/-- A complaint about an argument. -/
def Printed.complain (p : Printed) (message : String) : Printed :=
  { p with complaints := message :: p.complaints, failed := true }

/-- What is written goes on. -/
def Printed.write (p : Printed) (text : String) : Printed := { p with texts := text :: p.texts }

/-- The complaint about an argument that is not a number, or not only one. -/
def conversionComplaint (reading : Reading) (arg : String) (found : Bool) : String :=
  match reading with
  | .shell => arg ++ (if found then ": not completely converted" else ": expected numeric value")
  | .machine =>
      "'" ++ arg ++ "'" ++
        (if found then ": value not completely converted" else ": expected a numeric value")

/-- The complaint about a number that is too large. -/
def rangeComplaint (reading : Reading) (arg : String) : String :=
  match reading with
  | .shell => arg ++ ": Numerical result out of range"
  | .machine => "'" ++ arg ++ "': Numerical result out of range"

/-- Takes an argument as a whole number within bounds. A quote stands for the code of the character
behind it. -/
def takeInteger (reading : Reading) (low high : Int) (p : Printed) : Int × Printed :=
  match takeArgument p with
  | (none, p) => (0, p)
  | (some arg, p) =>
      match arg.toList with
      | quote :: rest =>
          if (quote = '"' || quote = '\x27') && (reading = .shell || !rest.isEmpty) then
            (((rest.head?.map Char.toNat).getD 0 : Nat), p)
          else
            let n := Shell.numeral true arg.toList
            let value := max low (min high n.value)
            if n.rest ≠ [] then
              (value, p.complain (conversionComplaint reading arg n.found))
            else if value ≠ n.value && !(low = 0 && -high ≤ n.value && n.value < 0) then
              (value, p.complain (rangeComplaint reading arg))
            else (if low = 0 then n.value else value, p)
      | [] => (0, p)

/-- Takes an argument as a number with a fraction, rounded to so many binary digits. -/
def takeReal (reading : Reading) (p : Printed) : Text.Quotient × Printed :=
  let zero : Text.Quotient := ⟨false, 0, 1⟩
  match takeArgument p with
  | (none, p) => (zero, p)
  | (some arg, p) =>
      let bits := match reading with
        | .shell => 53
        | .machine => 64
      let cs := arg.toList.dropWhile Shell.isSpace
      match cs with
      | '"' :: c :: _ | '\x27' :: c :: _ => (⟨false, c.toNat, 1⟩, p)
      | cs =>
          match Text.Quotient.read? cs with
          | some (q, []) => (q.toBits bits, p)
          | some (q, _) => (q.toBits bits, p.complain (conversionComplaint reading arg true))
          | none =>
              if arg = "" then (zero, p)
              else (zero, p.complain (conversionComplaint reading arg false))

/-- Reads a number of a width or a precision, which may be an argument. -/
def takeCount (reading : Reading) (cs : List Char) (p : Printed) :
    Option Int × List Char × Printed :=
  match cs with
  | '*' :: rest =>
      let (n, p) := takeInteger reading (-2147483648) 2147483647 p
      (some n, rest, p)
  | cs =>
      let digits := cs.takeWhile Char.isDigit
      (if digits = [] then none else some (Nat.ofDigitChars 10 digits 0), cs.drop digits.length, p)

/-- Reads a directive behind its percent sign. -/
def directive (reading : Reading) (cs : List Char) (p : Printed) :
    Directive × List Char × Printed :=
  let flags := cs.takeWhile fun c => c = '#' || c = '-' || c = '+' || c = ' ' || c = '0'
  let (width, rest, p) := takeCount reading (cs.drop flags.length) p
  let (precision, rest, p) :=
    match rest with
    | '.' :: rest =>
        let (n, rest, p) := takeCount reading rest p
        let precision : Option Nat :=
          match n with
          | none => some 0
          | some n => if n < 0 then none else some n.toNat
        (precision, rest, p)
    | rest => (none, rest, p)
  let rest :=
    match reading with
    | .shell => rest
    | .machine => rest.dropWhile fun c => ['h', 'l', 'L', 'j', 't', 'z'].contains c
  let w := width.getD 0
  let flags := if w < 0 then '-' :: flags else flags
  (⟨flags, w.natAbs, precision, rest.head?.getD '\x00'⟩, rest, p)

/-- Writes a directive with its argument. -/
def fill (reading : Reading) (d : Directive) (p : Printed) : Option Printed :=
  match d.letter with
  | 's' =>
      let (arg, p) := takeArgument p
      some (p.write (d.text (arg.getD "")))
  | 'b' =>
      let (arg, p) := takeArgument p
      let (text, ended) := unescaped reading (arg.getD "")
      let p := p.write (d.text text)
      some (if ended then { p with stopped := some none } else p)
  | 'c' =>
      let (arg, p) := takeArgument p
      some (p.write (d.pad (String.singleton ((arg.bind (·.toList.head?)).getD '\x00'))))
  | 'd' | 'i' =>
      let (n, p) := takeInteger reading Shell.smallest Shell.largest p
      some (p.write (d.signed n))
  | 'o' | 'u' | 'x' | 'X' =>
      let (n, p) := takeInteger reading 0 18446744073709551615 p
      some (p.write (d.unsigned n))
  | 'e' | 'E' | 'f' | 'F' | 'g' | 'G' =>
      let (q, p) := takeReal reading p
      some (p.write (d.real q))
  | _ => none

/-- One pass over a format. The fuel is a bound on its characters. -/
def formatOnce (reading : Reading) : Nat → List Char → Printed → Printed
  | 0, _, p => p
  | _ + 1, [], p => p
  | fuel + 1, '\\' :: rest, p =>
      if reading = .machine && rest.head? = some 'c' then { p with stopped := some none }
      else
        let (cs, rest) := escape reading false rest
        formatOnce reading fuel rest (p.write (String.ofList cs))
  | fuel + 1, '%' :: '%' :: rest, p => formatOnce reading fuel rest (p.write "%")
  | fuel + 1, '%' :: rest, p =>
      let (d, rest', p) := directive reading rest p
      match fill reading d p with
      | some p =>
          if p.stopped.isSome then p else formatOnce reading fuel (rest'.drop 1) p
      | none =>
          let read := String.ofList ('%' :: rest.take (rest.length - rest'.length + 1))
          let complaint :=
            match reading with
            | .shell =>
                if rest' = [] then "missing format character" else read ++ ": invalid directive"
            | .machine => read ++ ": invalid conversion specification"
          { p with stopped := some (some complaint) }
  | fuel + 1, c :: rest, p =>
      let plain := (c :: rest).takeWhile fun c => c ≠ '\\' && c ≠ '%'
      formatOnce reading fuel ((c :: rest).drop plain.length) (p.write (String.ofList plain))

/-- Passes over a format as long as it takes arguments. The fuel is a bound on their number. -/
def formatAll (reading : Reading) : Nat → List Char → Printed → Printed
  | 0, _, p => p
  | fuel + 1, template, p =>
      let before := p.left.length
      let p := formatOnce reading (template.length + 1) template { p with asked := false }
      if p.stopped.isSome || p.left.isEmpty || p.left.length = before then p
      else formatAll reading fuel template p

/-- Writes arguments in a format. -/
def format (reading : Reading) (template : String) (args : List String) : Printed :=
  formatAll reading (args.length + 1) template.toList ⟨[], [], args, false, false, none⟩

/-- What a format wrote. -/
def Printed.output (p : Printed) : String := String.join p.texts.reverse

end HostFlash.Utility
