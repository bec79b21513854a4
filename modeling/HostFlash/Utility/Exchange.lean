import HostFlash.Text.Class
import HostFlash.Utility.Escape
import HostFlash.Utility.Tool

/-! # Replacing characters

The program that replaces or deletes characters of its input. Sets of characters are written as
lists with ranges, named classes and repetitions.
-/

namespace HostFlash.Utility

/-- A member of a set of characters as it is written. -/
inductive Listed where
  | char (c : Char)
  | range (low high : Char)
  | named (name : String)
  /-- The same character again and again, or as often as there is room for. -/
  | repeated (c : Char) (count : Option Nat)
deriving Repr, DecidableEq

namespace Listed

/-- All bytes as characters. -/
def everything : List Char := (List.range 256).map Char.ofNat

/-- A character as it is written, perhaps with a backslash, and the rest. -/
def readChar : List Char → Option (Char × List Char)
  | [] => none
  | '\\' :: [] => some ('\\', [])
  | '\\' :: c :: rest =>
      match letterEscape? c with
      | some e => some (if c = 'e' then 'e' else e, rest)
      | none =>
          if (Shell.digitValue? 8 c).isSome then
            let (value, _, rest) := someDigits 8 3 (c :: rest)
            some (byteChar value, rest)
          else some (c, rest)
  | c :: rest => some (c, rest)

/-- A repetition at the front of a text, behind its opening bracket. -/
def readRepetition (cs : List Char) : Option (Listed × List Char) :=
  match readChar cs with
  | some (c, '*' :: rest) =>
      let digits := rest.takeWhile Char.isDigit
      match rest.drop digits.length with
      | ']' :: rest =>
          let base := if digits.head? = some '0' then 8 else 10
          let count := Nat.ofDigitChars base digits 0
          some (.repeated c (if count = 0 then none else some count), rest)
      | _ => none
  | _ => none

/-- The members of a set. The fuel is a bound on the characters. -/
def readAll : Nat → List Char → Except String (List Listed)
  | 0, _ => .ok []
  | _ + 1, [] => .ok []
  | fuel + 1, c :: cs =>
      let plain : Except String (List Listed) :=
        match readChar (c :: cs) with
        | none => .ok []
        | some (low, '-' :: d :: rest) =>
            match readChar (d :: rest) with
            | none => .ok []
            | some (high, rest) =>
                if high < low then
                  .error ("range-endpoints of '" ++ String.ofList [low, '-', high] ++
                    "' are in reverse collating sequence order")
                else (readAll fuel rest).map (.range low high :: ·)
        | some (a, rest) => (readAll fuel rest).map (.char a :: ·)
      if c = '[' then
        match Text.className? cs with
        | some (name, rest) =>
            if (Text.class? name).isNone then .error ("invalid character class '" ++ name ++ "'")
            else (readAll fuel rest).map (.named name :: ·)
        | none =>
            match cs with
            | '=' :: a :: '=' :: ']' :: rest => (readAll fuel rest).map (.char a :: ·)
            | _ =>
                match readRepetition cs with
                | some (member, rest) => (readAll fuel rest).map (member :: ·)
                | none => plain
      else plain

/-- The members of a set. -/
def read (text : String) : Except String (List Listed) :=
  readAll (text.length + 1) text.toList

/-- The characters of a member, with so many in place of a repetition without end. -/
def chars (fill : Nat) : Listed → List Char
  | char c => [c]
  | range low high =>
      (List.range (high.toNat + 1 - low.toNat)).map fun n => Char.ofNat (low.toNat + n)
  | named name => everything.filter fun c => ((Text.class? name).map (· c)).getD false
  | repeated c count => List.replicate (count.getD fill) c

/-- The characters of a set, which is filled up to a length. -/
def expand (length : Nat) (members : List Listed) : List Char :=
  let fixed := (members.map fun m => (m.chars 0).length).foldl (· + ·) 0
  members.flatMap (·.chars (length - fixed))

end Listed

/-- What is done with each character. -/
structure Exchange where
  deleted : Char → Bool
  replaced : Char → Char
  squeezed : Char → Bool

namespace Exchange

/-- The text with its characters deleted, replaced and squeezed, newest first, behind a last
character. -/
def run (t : Exchange) : List Char → Option Char → List Char → List Char × Option Char
  | [], last, written => (written, last)
  | c :: cs, last, written =>
      if t.deleted c then run t cs last written
      else
        let c := t.replaced c
        if last = some c && t.squeezed c then run t cs last written
        else run t cs (some c) (c :: written)

/-- A function from a table of pairs, of which later ones count. -/
def ofPairs (pairs : List (Char × Char)) : Char → Char :=
  let table := pairs.foldl (fun table (a, b) => table.set! a.toNat b)
    (Array.ofFn fun i : Fin 256 => Char.ofNat i)
  fun c => table.getD c.toNat c

/-- Membership from a table. -/
def ofSet (cs : List Char) : Char → Bool :=
  let table := cs.foldl (fun table c => table.set! c.toNat true) (Array.replicate 256 false)
  fun c => table.getD c.toNat false

/-- A set filled up with its last character to a length. -/
def padded (length : Nat) (cs : List Char) : List Char :=
  match cs.getLast? with
  | some last => cs ++ List.replicate (length - cs.length) last
  | none => cs

end Exchange

open Tool

/-- Replaces or deletes characters. -/
def trTool : Tool Unit := do
  let a ← arguments [.flag 'c' "complement", .flag 'C' "", .flag 'd' "delete",
    .flag 's' "squeeze-repeats", .flag 't' "truncate-set1"] false
  let deleting := a.has 'd'
  let squeezing := a.has 's'
  let count := a.operands.length
  let least := if deleting == squeezing then 2 else 1
  let most := if deleting && !squeezing then 1 else 2
  let hint (text : String) : Tool Unit := say (text ++ "\n")
  let refuse (message extra : String) : Tool Unit := do
    complain message
    if extra ≠ "" then hint extra
    hint ("Try '" ++ (← get).name ++ " --help' for more information.")
    exit 1
  if count < least then
    if count = 0 then misused "missing operand"
    else
      refuse ("missing operand after " ++ quoted (a.operands.getLast?.getD ""))
        (if squeezing then
          "Two strings must be given when both deleting and squeezing repeats."
        else "Two strings must be given when translating.")
  if count > most then
    refuse ("extra operand " ++ quoted (a.operands.getD most ""))
      (if count = 2 then
        "Only one string may be given when deleting without squeezing repeats."
      else "")
  let members (text : String) : Tool (List Listed) := do
    match Listed.read text with
    | .ok m => pure m
    | .error message => fail message
  let first ← members (a.operands.getD 0 "")
  let second ← members (a.operands.getD 1 "")
  let one := Listed.expand 0 first
  let complemented := a.has 'c' || a.has 'C'
  let one := if complemented then
      let isMember := Exchange.ofSet one
      Listed.everything.filter (!isMember ·)
    else one
  let exchanging := count = 2 && !deleting
  let two := Listed.expand one.length second
  if exchanging && two = [] && !a.has 't' then
    fail "when not truncating set1, string2 must be non-empty"
  let pairs :=
    if a.has 't' then one.zip two else one.zip (Exchange.padded one.length two)
  let t : Exchange :=
    { deleted := if deleting then Exchange.ofSet one else fun _ => false
      replaced := if exchanging then Exchange.ofPairs pairs else id
      squeezed := if squeezing then Exchange.ofSet (if count = 2 then two else one)
        else fun _ => false }
  let rec go : Nat → Option Char → Tool Unit
    | 0, _ => pure ()
    | fuel + 1, last => do
        match ← ask (.read 0 Routine.blockSize) with
        | .error e => fail ("read error: " ++ e.reason)
        | .ok [] => pure ()
        | .ok bytes => do
            let (written, last) := t.run (Text.Octets.ofBytes bytes).toList last []
            write (String.ofList written.reverse)
            go fuel last
  go Routine.always none

end HostFlash.Utility
