import HostFlash.Text.Regex
import HostFlash.Utility.Tool

/-! # Expressions

The program that works out an expression whose parts are its arguments. Values are texts, and those
that are whole numbers can be reckoned with. An operation whose result is not wanted is read but
not carried out.
-/

namespace HostFlash.Utility.Expression

/-- Something that reads an expression: what is left of the arguments, and the last one that was
read. -/
abbrev Reader := StateT (List String × String) (Except String)

/-- The number that a text is. -/
def number? (text : String) : Option Int :=
  match text.toList with
  | '-' :: cs =>
      if cs ≠ [] && cs.all Char.isDigit then some (-(Nat.ofDigitChars 10 cs 0 : Int)) else none
  | cs => if cs ≠ [] && cs.all Char.isDigit then some (Nat.ofDigitChars 10 cs 0) else none

/-- A text that counts as nothing. -/
def isNull (text : String) : Bool :=
  text = "" ||
    match text.toList with
    | '-' :: cs => cs ≠ [] && cs.all (· = '0')
    | cs => cs.all (· = '0')

/-- The text for the answer to a question. -/
def truth (b : Bool) : String := if b then "1" else "0"

/-- The first part of a text that a pattern stands for, or the size of what it stands for. -/
def compare (text pattern : String) : Except String String := do
  let r ← Text.Regex.read? ⟨false, true⟩ pattern
  let m : Text.Regex.Matching := ⟨text.toList.toArray, false, false⟩
  let hasGroups := r.groupCount ≠ 0
  match r.matchAt m 0 with
  | none => pure (if hasGroups then "" else "0")
  | some stop =>
      if hasGroups then
        match (r.groupsOf m 0 stop).find? (·.1 = 1) with
        | some (_, low, high) => pure (String.ofList (m.text.extract low high).toList)
        | none => pure ""
      else pure (toString stop)

/-- Two numbers reckoned together. -/
def reckon (operator left right : String) : Except String String :=
  match number? left, number? right with
  | some a, some b =>
      if operator = "+" then .ok (toString (a + b))
      else if operator = "-" then .ok (toString (a - b))
      else if operator = "*" then .ok (toString (a * b))
      else if b = 0 then .error "division by zero"
      else if operator = "/" then .ok (toString (Int.tdiv a b))
      else .ok (toString (Int.tmod a b))
  | _, _ => .error "non-integer argument"

/-- How an order compares two values, of which numbers are compared as such. -/
def holds (operator left right : String) : Bool :=
  let order : Ordering :=
    match number? left, number? right with
    | some a, some b => Ord.compare a b
    | _, _ => Ord.compare left right
  match operator with
  | "<" => order = .lt
  | "<=" => order ≠ .gt
  | "=" | "==" => order = .eq
  | "!=" => order ≠ .eq
  | ">=" => order ≠ .lt
  | _ => order = .gt

namespace Reader

/-- The next argument, if it is one of these, is read. -/
def oneOf? (words : List String) : Reader (Option String) := do
  match (← get).1 with
  | word :: rest =>
      if words.contains word then
        set (rest, word)
        pure (some word)
      else pure none
  | [] => pure none

/-- Refuses an expression that is not well formed. -/
def refuse {α : Type} (message : String) : Reader α := throw ("syntax error: " ++ message)

/-- Reads any argument. -/
def take : Reader String := do
  match ← get with
  | ([], last) => refuse ("missing argument after '" ++ last ++ "'")
  | (word :: rest, _) => do
      set (rest, word)
      pure word

/-- Carries out an operation whose result is wanted. -/
def carry (wanted : Bool) (value : Except String String) : Reader String :=
  if wanted then
    match value with
    | .ok v => pure v
    | .error e => throw e
  else pure ""

/-- The operators from the weakest ones on, but for those that put conditions together. -/
def levels : List (List String) :=
  [["<", "<=", "=", "==", "!=", ">=", ">"], ["+", "-"], ["*", "/", "%"], [":"]]

/-- What an operator makes of two values. -/
def operate (operator left right : String) : Except String String :=
  if operator = ":" then compare left right
  else if ["+", "-", "*", "/", "%"].contains operator then reckon operator left right
  else .ok (truth (holds operator left right))

mutual

/-- Reads a choice. The fuel is a bound on the arguments. -/
def choice : Nat → Bool → Reader String
  | 0, _ => pure ""
  | fuel + 1, wanted => do moreChoice fuel wanted (← condition fuel wanted)

/-- Reads what else there is to choose. -/
def moreChoice : Nat → Bool → String → Reader String
  | 0, _, left => pure left
  | fuel + 1, wanted, left => do
      match ← oneOf? ["|"] with
      | none => pure left
      | some _ => do
          let right ← condition fuel (wanted && isNull left)
          moreChoice fuel wanted
            (if !isNull left then left else if isNull right then "0" else right)

/-- Reads a condition. -/
def condition : Nat → Bool → Reader String
  | 0, _ => pure ""
  | fuel + 1, wanted => do moreCondition fuel wanted (← operation fuel levels wanted)

/-- Reads what else has to hold. -/
def moreCondition : Nat → Bool → String → Reader String
  | 0, _, left => pure left
  | fuel + 1, wanted, left => do
      match ← oneOf? ["&"] with
      | none => pure left
      | some _ => do
          let right ← operation fuel levels (wanted && !isNull left)
          moreCondition fuel wanted (if isNull left || isNull right then "0" else left)

/-- Reads operations of a level. -/
def operation : Nat → List (List String) → Bool → Reader String
  | 0, _, _ => pure ""
  | fuel + 1, [], wanted => special fuel wanted
  | fuel + 1, operators :: stronger, wanted => do
      moreOperation fuel operators stronger wanted (← operation fuel stronger wanted)

/-- Reads further operations of a level. -/
def moreOperation : Nat → List String → List (List String) → Bool → String → Reader String
  | 0, _, _, _, left => pure left
  | fuel + 1, operators, stronger, wanted, left => do
      match ← oneOf? operators with
      | none => pure left
      | some operator => do
          let right ← operation fuel stronger wanted
          moreOperation fuel operators stronger wanted
            (← carry wanted (operate operator left right))

/-- Reads an operation with a name. -/
def special : Nat → Bool → Reader String
  | 0, _ => pure ""
  | fuel + 1, wanted => do
      match ← oneOf? ["+", "length", "match", "index", "substr"] with
      | some "+" => take
      | some "length" => do pure (toString (← special fuel wanted).length)
      | some "match" => do
          let left ← special fuel wanted
          let right ← special fuel wanted
          carry wanted (compare left right)
      | some "index" => do
          let left ← special fuel wanted
          let right ← special fuel wanted
          pure (toString (((left.toList.findIdx? right.toList.contains).map (· + 1)).getD 0))
      | some "substr" => do
          let text ← special fuel wanted
          let start ← special fuel wanted
          let size ← special fuel wanted
          match number? start, number? size with
          | some (.ofNat (n + 1)), some (.ofNat k) =>
              pure (String.ofList ((text.toList.drop n).take k))
          | _, _ => pure ""
      | _ => single fuel wanted

/-- Reads a value, or an expression in parentheses. -/
def single : Nat → Bool → Reader String
  | 0, _ => pure ""
  | fuel + 1, wanted => do
      match ← oneOf? ["(", ")"] with
      | some "(" => do
          let inner ← choice fuel wanted
          match ← oneOf? [")"], ← get with
          | some _, _ => pure inner
          | none, ([], last) => refuse ("expecting ')' after '" ++ last ++ "'")
          | none, (word :: _, _) => refuse ("expecting ')' instead of '" ++ word ++ "'")
      | some _ => refuse "unexpected ')'"
      | none => take

end

end Reader

/-- The value of an expression. -/
def value (args : List String) : Except String String :=
  match (Reader.choice (12 * args.length + 20) true).run (args, "") with
  | .error e => .error e
  | .ok (_, word :: _, _) => .error ("syntax error: unexpected argument '" ++ word ++ "'")
  | .ok (v, [], _) => .ok v

end HostFlash.Utility.Expression

namespace HostFlash.Utility

/-- Works out an expression. -/
def exprTool : Tool Unit := do
  modify fun s => { s with failure := 2 }
  let args := (← get).args
  match if args.head? = some "--" then args.tail else args with
  | [] => Tool.misused "missing operand"
  | args =>
      match Expression.value args with
      | .error message => Tool.fail message
      | .ok v => do
          modify fun s => { s with failure := 3 }
          Tool.writeLine v
          Tool.flush
          if Expression.isNull v then Tool.exit 1

end HostFlash.Utility
