/-! # Numbers in texts

Reading the numbers that programs are given as text. A number may have blanks and a sign in front
of it; where the base is open, `0x` begins a hexadecimal number and `0` an octal one.
-/

namespace HostFlash.Shell

/-- The blanks of the C locale. -/
def isSpace (c : Char) : Bool :=
  c = ' ' || (9 ≤ c.toNat && c.toNat ≤ 13)

/-- The value of a digit in a base up to 36. -/
def digitValue? (base : Nat) (c : Char) : Option Nat :=
  let value? :=
    if c.isDigit then some (c.toNat - 48)
    else if c.isLower then some (c.toNat - 87)
    else if c.isUpper then some (c.toNat - 55)
    else none
  value?.bind fun v => if v < base then some v else none

/-- The digits at the front of a text, with their value and their number. -/
def leadingDigits (base : Nat) : List Char → Nat × Nat × List Char
  | cs =>
      let digits := cs.takeWhile fun c => (digitValue? base c).isSome
      (digits.foldl (fun n c => n * base + (digitValue? base c).getD 0) 0, digits.length,
        cs.drop digits.length)

/-- A number read from the front of a text. -/
structure Numeral where
  value : Int
  /-- There was a number at all. -/
  found : Bool
  rest : List Char
deriving Repr, DecidableEq

/-- The number without its sign, in base ten or, with `open`, in the base that its front names. -/
def unsignedNumeral (anyBase : Bool) (cs : List Char) : Nat × Bool × List Char :=
  let decimal :=
    let (value, count, rest) := leadingDigits 10 cs
    (value, count ≠ 0, rest)
  if !anyBase then decimal
  else
    match cs with
    | '0' :: x :: rest =>
        if x = 'x' || x = 'X' then
          let (value, count, rest') := leadingDigits 16 rest
          if count = 0 then (0, true, x :: rest) else (value, true, rest')
        else
          let (value, _, rest) := leadingDigits 8 ('0' :: x :: rest)
          (value, true, rest)
    | _ => decimal

/-- Reads a number from the front of a text. -/
def numeral (anyBase : Bool) (cs : List Char) : Numeral :=
  let start := cs.dropWhile isSpace
  let (negative, digits) :=
    match start with
    | '-' :: rest => (true, rest)
    | '+' :: rest => (false, rest)
    | rest => (false, rest)
  let (value, found, rest) := unsignedNumeral anyBase digits
  if found then ⟨if negative then -(value : Int) else value, true, rest⟩ else ⟨0, false, cs⟩

/-- The largest and the smallest number of 64 bits. -/
def largest : Int := 9223372036854775807

@[inherit_doc largest]
def smallest : Int := -9223372036854775808

/-- A number moved into the range of 64 bits. -/
def clamped (n : Int) : Int := max smallest (min largest n)

/-- The whole text is a decimal number of 64 bits, with blanks around it. -/
def decimal? (s : String) : Option Int :=
  let n := numeral false s.toList
  if n.found && n.rest.all isSpace && n.value = clamped n.value then some n.value else none

end HostFlash.Shell
