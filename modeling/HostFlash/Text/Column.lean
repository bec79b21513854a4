/-! # Columns and digits

Padding of a text to a column width, counted in characters, and numbers in a fixed number of
digits. A text or number that is already wider is left as it is.
-/

namespace HostFlash.Text

/-- The text with spaces behind it up to the width. -/
def padRight (width : Nat) (s : String) : String :=
  s ++ String.ofList (List.replicate (width - s.toList.length) ' ')

/-- The text with spaces in front of it up to the width. -/
def padLeft (width : Nat) (s : String) : String :=
  String.ofList (List.replicate (width - s.toList.length) ' ') ++ s

/-- The digits of a number in a base up to 16, with zeros in front up to the width. -/
def digits (base width n : Nat) : String :=
  let ds := Nat.toDigits base n
  String.ofList (List.replicate (width - ds.length) '0' ++ ds)

end HostFlash.Text
