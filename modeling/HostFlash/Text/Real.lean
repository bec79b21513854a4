/-! # Binary numbers in decimal

Numbers with a fraction as programs see them: a decimal text is rounded to a number of binary
digits, and a binary number is written with a number of decimal digits. Both round to the nearest,
and of two that are as near to the even one. All steps are exact, on quotients of whole numbers.
-/

namespace HostFlash.Text

/-- A quotient of whole numbers with a sign. -/
structure Quotient where
  negative : Bool
  top : Nat
  bottom : Nat
deriving Repr, DecidableEq

namespace Quotient

/-- A quotient rounded to a whole number. -/
def roundDiv (top bottom : Nat) : Nat :=
  let whole := top / bottom
  let twice := 2 * (top % bottom)
  if bottom < twice || (twice = bottom && whole % 2 = 1) then whole + 1 else whole

/-- A quotient rounded to so many binary digits. -/
def toBits (bits : Nat) (q : Quotient) : Quotient :=
  if q.top = 0 || q.bottom = 0 then { q with top := 0, bottom := 1 }
  else
    let size := Nat.log2 q.top
    let below := Nat.log2 q.bottom + bits
    if below ≤ size then
      let wide := roundDiv q.top (q.bottom <<< (size - below))
      let shift := if wide.log2 ≥ bits then size - below + 1 else size - below
      { q with top := roundDiv q.top (q.bottom <<< shift) <<< shift, bottom := 1 }
    else
      let shift := below - size
      let rounded := roundDiv (q.top <<< shift) q.bottom
      if rounded.log2 ≥ bits then
        { q with
          top := roundDiv (q.top <<< (shift - 1)) q.bottom
          bottom := 1 <<< (shift - 1) }
      else { q with top := rounded, bottom := 1 <<< shift }

/-- The digits of a quotient with so many places behind the point. -/
def fixed (places : Nat) (q : Quotient) : String :=
  let n := roundDiv (q.top * Nat.pow 10 places) q.bottom
  let digits := Nat.toDigits 10 n
  let digits := List.replicate (places + 1 - digits.length) '0' ++ digits
  let whole := String.ofList (digits.take (digits.length - places))
  if places = 0 then whole
  else whole ++ "." ++ String.ofList (digits.drop (digits.length - places))

/-- The power of ten that a quotient above zero begins with, looked for from `low` on. -/
def exponentFrom (q : Quotient) : Nat → Int → Int
  | 0, low => low
  | fuel + 1, low =>
      let isBelow : Bool :=
        let next := low + 1
        if next ≥ 0 then q.top < q.bottom * Nat.pow 10 next.toNat
        else q.top * Nat.pow 10 (-next).toNat < q.bottom
      if isBelow then low else exponentFrom q fuel (low + 1)

/-- The power of ten that a quotient above zero begins with. -/
def exponent (q : Quotient) : Int :=
  let top := (Nat.toDigits 10 q.top).length
  let bottom := (Nat.toDigits 10 q.bottom).length
  exponentFrom q 3 ((top : Int) - bottom - 1)

/-- A quotient divided by a power of ten. -/
def scaled (q : Quotient) (power : Int) : Quotient :=
  if power ≥ 0 then { q with bottom := q.bottom * Nat.pow 10 power.toNat }
  else { q with top := q.top * Nat.pow 10 (-power).toNat }

/-- The digits and the power of ten of a quotient, with so many places behind the point. -/
def significand (places : Nat) (q : Quotient) : String × Int :=
  if q.top = 0 then (q.fixed places, 0)
  else
    let e := q.exponent
    let text := (q.scaled e).fixed places
    if text.toList.take 2 = ['1', '0'] then ((q.scaled (e + 1)).fixed places, e + 1) else (text, e)

/-- A power of ten in a number. -/
def powerText (e : Int) : String :=
  let digits := Nat.toDigits 10 e.natAbs
  (if e < 0 then "e-" else "e+") ++
    String.ofList (List.replicate (2 - digits.length) '0' ++ digits)

/-- The digits of a quotient with a power of ten. -/
def scientific (places : Nat) (q : Quotient) : String :=
  let (digits, e) := q.significand places
  digits ++ powerText e

/-- Digits without the zeros at the end of their fraction. -/
def withoutZeros (digits : String) : String :=
  if digits.toList.contains '.' then
    let kept := digits.toList.reverse.dropWhile (· = '0')
    String.ofList (if kept.head? = some '.' then kept.tail else kept).reverse
  else digits

/-- The digits of a quotient with so many of them that count, in the shorter of both forms. -/
def general (digits : Nat) (keepZeros : Bool) (q : Quotient) : String :=
  let count := max digits 1
  let (text, e) := q.significand (count - 1)
  let trim (s : String) : String := if keepZeros then s else withoutZeros s
  if e < -4 || e ≥ count then trim text ++ powerText e
  else trim (q.fixed (((count : Int) - 1 - e).toNat))

/-- The number at the front of a text, with a power of ten if there is one, and the rest. -/
def read? (cs : List Char) : Option (Quotient × List Char) :=
  let (negative, cs) :=
    match cs with
    | '-' :: rest => (true, rest)
    | '+' :: rest => (false, rest)
    | rest => (false, rest)
  let whole := cs.takeWhile Char.isDigit
  let behind := cs.drop whole.length
  let (fraction, behind) :=
    match behind with
    | '.' :: rest =>
        let digits := rest.takeWhile Char.isDigit
        if whole = [] && digits = [] then ([], behind)
        else (digits, rest.drop digits.length)
    | rest => ([], rest)
  if whole = [] && fraction = [] then none
  else
    let digits := Nat.ofDigitChars 10 (whole ++ fraction) 0
    let q : Quotient := ⟨negative, digits, Nat.pow 10 fraction.length⟩
    match behind with
    | e :: rest =>
        if e = 'e' || e = 'E' then
          let (down, power) :=
            match rest with
            | '-' :: rest => (true, rest)
            | '+' :: rest => (false, rest)
            | rest => (false, rest)
          let digits := power.takeWhile Char.isDigit
          if digits = [] then some (q, behind)
          else
            let n := min (Nat.ofDigitChars 10 digits 0) 5000
            some (q.scaled (if down then n else -(n : Int)), power.drop digits.length)
        else some (q, behind)
    | [] => some (q, [])

end Quotient

end HostFlash.Text
