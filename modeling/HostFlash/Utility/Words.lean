import HostFlash.Host.FileSystem
import HostFlash.Text.Real
import HostFlash.Utility.Printf
import HostFlash.Utility.Test
import HostFlash.Utility.Tool

/-! # Programs that write words

The programs that write their arguments, count, take paths apart, test conditions, or let time
pass.
-/

namespace HostFlash.Utility

open Tool

/-- Writes arguments. -/
def echoTool : Tool Unit := do write (echo false true (← get).args)

/-- Writes arguments in a format. -/
def printfTool : Tool Unit := do
  let args := (← get).args
  match if args.head? = some "--" then args.tail else args with
  | [] => misused "missing operand"
  | template :: args => do
      let p := format .machine template args
      p.complaints.reverse.forM complain
      match p.stopped with
      | some (some message) => do
          complain message
          write p.output
          exit 1
      | _ => do
          if p.left ≠ [] && p.stopped.isNone && p.left.length = args.length then
            let first := quoted (p.left.headD "")
            let before := (← get).status
            complain ("warning: ignoring excess arguments, starting with " ++ first)
            modify fun s => { s with status := before }
          write p.output
          if p.failed then exit 1

/-- Writes a line again and again. -/
def yesTool : Tool Unit := do
  let args := (← get).args
  let line := (if args = [] then "y" else " ".intercalate args) ++ "\n"
  let count := max 1 (8192 / line.length)
  let block := Text.Octets.toBytes (String.join (List.replicate count line))
  let rec go : Nat → Tool Unit
    | 0 => pure ()
    | fuel + 1 => do
        match ← routine (Routine.put 1 block) with
        | .ok () => go fuel
        | .error e => fail ("standard output: " ++ e.reason)
  go Routine.always

/-- Tests a condition. -/
def testTool (bracket : Bool) : Tool Unit := do
  modify fun s => { s with failure := 2 }
  let args := (← get).args
  if bracket && args.getLast? ≠ some "]" then fail "missing ']'"
  match ← routine (Condition.counted (if bracket then args.dropLast else args)) with
  | .ok value => exit (if value then 0 else 1)
  | .error message => fail message

/-! ## Paths -/

/-- The last name of a path. -/
def baseName (path : String) : String :=
  let path := Path.trimmed path
  if path = "/" then path
  else String.ofList (path.toList.reverse.takeWhile (· ≠ '/')).reverse

/-- A path without its last name. -/
def dirName (path : String) : String :=
  let cs := (Path.trimmed path).toList
  let front := (cs.reverse.dropWhile (· ≠ '/')).reverse
  if front = [] then "." else Path.trimmed (String.ofList front)

/-- A name without an ending, unless that is all of it. -/
def withoutEnding (name ending : String) : String :=
  if name ≠ ending && ending.toList.isSuffixOf name.toList then
    String.ofList (name.toList.take (name.length - ending.length))
  else name

/-- Writes the last names of paths. -/
def basenameTool : Tool Unit := do
  let a ← arguments [.flag 'a' "multiple", .value 's' "suffix", .flag 'z' "zero"] false
  let finish := if a.has 'z' then "\x00" else "\n"
  let suffix := (a.value? 's').getD ""
  match a.operands with
  | [] => misused "missing operand"
  | names =>
      if a.has 'a' || a.has 's' then
        names.forM fun name => write (withoutEnding (baseName name) suffix ++ finish)
      else
        match names with
        | [name] => write (baseName name ++ finish)
        | [name, ending] => write (withoutEnding (baseName name) ending ++ finish)
        | _ => misused ("extra operand " ++ quoted (names.getD 2 ""))

/-- Writes paths without their last names. -/
def dirnameTool : Tool Unit := do
  let a ← arguments [.flag 'z' "zero"] true
  if a.operands = [] then misused "missing operand"
  a.operands.forM fun path => write (dirName path ++ (if a.has 'z' then "\x00" else "\n"))

/-- Writes the directory. -/
def pwdTool : Tool Unit := do
  let a ← arguments [.flag 'L' "logical", .flag 'P' "physical"] true
  if a.operands ≠ [] then
    let before := (← get).status
    complain "ignoring non-option arguments"
    modify fun s => { s with status := before }
  let now ← ask .directory
  let logical := (a.lastOf? ['L', 'P'] = some 'L')
  let given := ((← get).environment.lookup "PWD").getD now
  let same : Bool ←
    if logical && Path.isAbsolute given then
      match ← ask (.inspect given true), ← ask (.inspect "." true) with
      | .ok x, .ok y => pure (x.location = y.location)
      | _, _ => pure false
    else pure false
  writeLine (if same then given else now)

/-! ## Numbers -/

/-- How many places a number has behind its point. -/
def placesOf (text : String) : Nat :=
  match Text.cutAt? '.' text.toList with
  | some (_, behind) => (behind.takeWhile Char.isDigit).length
  | none => 0

/-- A number in steps of a power of ten. -/
def scaledNumber (places : Nat) (q : Text.Quotient) : Int :=
  let n := Text.Quotient.roundDiv (q.top * Nat.pow 10 places) q.bottom
  if q.negative then -(n : Int) else n

/-- The text of a number in steps of a power of ten, with zeros in front up to a width. -/
def stepText (places width : Nat) (n : Int) : String :=
  let digits := Text.Quotient.fixed places ⟨false, n.natAbs, Nat.pow 10 places⟩
  let sign := if n < 0 then "-" else ""
  let zeros := width - sign.length - digits.length
  sign ++ String.ofList (List.replicate zeros '0') ++ digits

/-- Writes the numbers from a first one on, in steps, up to a last one. The fuel is a bound on
their number. -/
def countUp (text : Int → String) (separator : String) (step last : Int) :
    Nat → Int → Bool → Tool Unit
  | 0, _, _ => pure ()
  | fuel + 1, n, first => do
      if (step > 0 && n > last) || (step < 0 && n < last) then
        if first then pure () else write "\n"
      else
        write ((if first then "" else separator) ++ text n)
        countUp text separator step last fuel (n + step) false

/-- An argument of the program that counts. -/
def seqNumber (text : String) : Tool Text.Quotient := do
  match Text.Quotient.read? (text.toList.dropWhile (· = ' ')) with
  | some (q, []) => pure q
  | _ => misused ("invalid floating point argument: " ++ quoted text)

/-- Counts. -/
def seqTool : Tool Unit := do
  let specs : List OptionSpec :=
    [.value 'f' "format", .value 's' "separator", .flag 'w' "equal-width"]
  let isNegative (arg : String) : Bool :=
    match arg.toList with
    | '-' :: c :: _ => c.isDigit || c = '.'
    | _ => false
  let args := (← get).args
  -- A number below zero ends the options.
  let front := args.takeWhile fun a => !isNegative a
  modify fun s =>
    { s with args := if front.length < args.length then front ++ "--" :: args.drop front.length
        else args }
  let a ← arguments specs false
  let operands := a.operands.filter (· ≠ "--")
  let (first, step, last) ←
    match operands with
    | [] => misused "missing operand"
    | [last] => pure ("1", "1", last)
    | [first, last] => pure (first, "1", last)
    | [first, step, last] => pure (first, step, last)
    | _ => misused ("extra operand " ++ quoted (operands.getD 3 ""))
  let p := max (placesOf first) (placesOf step)
  let steps := max p (placesOf last)
  let start := scaledNumber steps (← seqNumber first)
  let increment := scaledNumber steps (← seqNumber step)
  let stop := scaledNumber steps (← seqNumber last)
  if increment = 0 then misused ("invalid Zero increment value: " ++ quoted step)
  let shown (n : Int) : Int := n / (Nat.pow 10 (steps - p) : Nat)
  let width :=
    if a.has 'w' then
      max (stepText p 0 (shown start)).length (stepText p 0 (shown stop)).length
    else 0
  let text (n : Int) : String :=
    match a.value? 'f' with
    | some template => (format .machine template [stepText p 0 (shown n)]).output
    | none => stepText p width (shown n)
  countUp text ((a.value? 's').getD "\n") increment stop Routine.always start true

/-! ## Time -/

/-- The nanoseconds of a time with a unit behind it. -/
def spanOf? (text : String) : Option Nat :=
  match Text.Quotient.read? text.toList with
  | some (q, rest) =>
      let unit? : Option Nat :=
        match rest with
        | [] | ['s'] => some 1
        | ['m'] => some 60
        | ['h'] => some 3600
        | ['d'] => some 86400
        | _ => none
      if q.negative && q.top ≠ 0 then none
      else unit?.map fun unit => (q.top * unit * 1000000000 + (q.bottom - 1)) / q.bottom
  | none =>
      if ["inf", "infinity", "INF", "Inf"].contains text then some 1000000000000000000000 else none

/-- Lets time pass. -/
def sleepTool : Tool Unit := do
  let a ← arguments [] true
  if a.operands = [] then misused "missing operand"
  let bad := a.operands.filter fun text => (spanOf? text).isNone
  bad.dropLast.forM fun text => complain ("invalid time interval " ++ quoted text)
  match bad.getLast? with
  | some text => misused ("invalid time interval " ++ quoted text)
  | none => pure ()
  let total := (a.operands.map fun text => (spanOf? text).getD 0).foldl (· + ·) 0
  ask (.sleep ⟨total⟩)

end HostFlash.Utility
