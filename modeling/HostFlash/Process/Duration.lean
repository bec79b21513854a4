import HostFlash.Text.Column

/-! # Durations

Spans of time in nanoseconds, and their text in log lines: a number of the largest unit that is
not above the span, with the fraction in as few digits as it needs.
-/

namespace HostFlash

/-- A span of time. -/
structure Duration where
  nanoseconds : Nat
deriving Repr, DecidableEq

namespace Duration

/-- The span of whole milliseconds. -/
def ofMilliseconds (n : Nat) : Duration := ⟨n * 1000000⟩

/-- The span of whole seconds. -/
def ofSeconds (n : Nat) : Duration := ⟨n * 1000000000⟩

/-- The whole milliseconds in a span. -/
def milliseconds (d : Duration) : Nat := d.nanoseconds / 1000000

/-- The whole seconds in a span. -/
def seconds (d : Duration) : Nat := d.nanoseconds / 1000000000

instance : LE Duration := ⟨fun a b => a.nanoseconds ≤ b.nanoseconds⟩
instance : LT Duration := ⟨fun a b => a.nanoseconds < b.nanoseconds⟩
instance (a b : Duration) : Decidable (a ≤ b) :=
  inferInstanceAs (Decidable (a.nanoseconds ≤ b.nanoseconds))
instance (a b : Duration) : Decidable (a < b) :=
  inferInstanceAs (Decidable (a.nanoseconds < b.nanoseconds))
instance : Add Duration := ⟨fun a b => ⟨a.nanoseconds + b.nanoseconds⟩⟩

theorem le_def {a b : Duration} : a ≤ b ↔ a.nanoseconds ≤ b.nanoseconds := Iff.rfl

/-- A span repeated. -/
def times (n : Nat) (d : Duration) : Duration := ⟨n * d.nanoseconds⟩

/-- Digits behind a point, without the zeros at their end, and no point without digits. -/
def fraction (width n : Nat) : String :=
  let ds := ((Text.digits 10 width n).toList.reverse.dropWhile (· = '0')).reverse
  if ds = [] then "" else String.ofList ('.' :: ds)

/-- A span as a number of units of `10 ^ power` nanoseconds. -/
def inUnit (unit : String) (power : Nat) (d : Duration) : String :=
  let size := Nat.pow 10 power
  toString (d.nanoseconds / size) ++
    (if power = 0 then "" else fraction power (d.nanoseconds % size)) ++ unit

/-- The text of a span. -/
def text (d : Duration) : String :=
  if d.nanoseconds ≥ 1000000000 then d.inUnit "s" 9
  else if d.nanoseconds ≥ 1000000 then d.inUnit "ms" 6
  else if d.nanoseconds ≥ 1000 then d.inUnit "µs" 3
  else d.inUnit "ns" 0

end Duration

end HostFlash
