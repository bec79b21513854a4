import HostFlash.Shell.Number

/-! # Arithmetic

The value of an arithmetic expression, in numbers of 64 bits that wrap around. Operators bind as
they do in C. Variables are looked up through a function, and the values that an expression gives
to variables come out in the order in which it gives them, newest first.
-/

namespace HostFlash.Shell.Arithmetic

/-- What an expression falls into. -/
inductive Mark where
  | number (value : Int64)
  | name (name : String)
  | operator (text : String)
  | bad
deriving Repr, DecidableEq

/-- The operators, longer ones before their beginnings. -/
def operators : List String :=
  ["<<=", ">>=", "==", "!=", "<=", ">=", "&&", "||", "<<", ">>", "+=", "-=", "*=", "/=", "%=",
   "&=", "^=", "|=", "(", ")", "+", "-", "*", "/", "%", "<", ">", "&", "^", "|", "!", "~", "?",
   ":", "="]

/-- The first operator at the front of a text. -/
def operator? (cs : List Char) : Option (String × List Char) :=
  operators.findSome? fun o =>
    if o.toList.isPrefixOf cs then some (o, cs.drop o.length) else none

/-- The marks of an expression. The fuel is a bound on its characters. -/
def marks : Nat → List Char → List Mark
  | 0, _ => []
  | _ + 1, [] => []
  | fuel + 1, c :: rest =>
      if c = ' ' || c = '\t' || c = '\n' then marks fuel rest
      else if c.isDigit then
        let (value, _, rest) := unsignedNumeral true (c :: rest)
        .number (Int64.ofInt (clamped value)) :: marks fuel rest
      else if c.isAlpha || c = '_' then
        let tail := rest.takeWhile fun c => c.isAlphanum || c = '_'
        .name (String.ofList (c :: tail)) :: marks fuel (rest.drop tail.length)
      else
        match operator? (c :: rest) with
        | some (o, rest) => .operator o :: marks fuel rest
        | none => [.bad]

/-- Why an expression has no value. -/
inductive Failure where
  | malformed (message : String)
  | notNumber (text : String)
deriving Repr, DecidableEq

/-- An expression that is being read: the marks that are left, and the values given so far. -/
structure Reader where
  left : List Mark
  given : List (String × Int64)

/-- Something that reads an expression. -/
abbrev Read := StateT Reader (Except Failure)

/-- The expression cannot be read. -/
def fail {α : Type} (message : String) : Read α := throw (.malformed message)

/-- The next mark, which stays. -/
def peek? : Read (Option Mark) := do pure (← get).left.head?

/-- Goes over the next mark. -/
def advance : Read Unit := modify fun r => { r with left := r.left.tail }

/-- Takes the next mark if it is this operator. -/
def accept (o : String) : Read Bool := do
  if (← peek?) = some (.operator o) then
    advance
    pure true
  else pure false

/-- The value of a variable. -/
def valueOf (lookup : String → Option String) (name : String) : Read Int64 := do
  match (← get).given.lookup name with
  | some value => pure value
  | none =>
      let text := (lookup name).getD ""
      let n := numeral true text.toList
      if n.rest.all isSpace && n.value = clamped n.value then pure (Int64.ofInt n.value)
      else throw (.notNumber text)

/-- Truth as a number. -/
def ofBool (b : Bool) : Int64 := if b then 1 else 0

/-- How tightly an operator binds its two sides. -/
def strength? (o : String) : Option Nat :=
  match o with
  | "*" | "/" | "%" => some 8
  | "+" | "-" => some 7
  | "<<" | ">>" => some 6
  | "<" | "<=" | ">" | ">=" => some 5
  | "==" | "!=" => some 4
  | "&" => some 3
  | "^" => some 2
  | "|" => some 1
  | _ => none

/-- The value of an operator between two values. -/
def combine (o : String) (a b : Int64) : Read Int64 :=
  match o with
  | "*" => pure (a * b)
  | "/" => if b = 0 then fail "division by zero" else pure (a / b)
  | "%" => if b = 0 then fail "division by zero" else pure (a % b)
  | "+" => pure (a + b)
  | "-" => pure (a - b)
  | "<<" => pure (a <<< b)
  | ">>" => pure (a >>> b)
  | "<" => pure (ofBool (a < b))
  | "<=" => pure (ofBool (a ≤ b))
  | ">" => pure (ofBool (b < a))
  | ">=" => pure (ofBool (b ≤ a))
  | "==" => pure (ofBool (a = b))
  | "!=" => pure (ofBool (a ≠ b))
  | "&" => pure (a &&& b)
  | "^" => pure (a ^^^ b)
  | _ => pure (a ||| b)

/-- The operator that an assignment applies first, if the operator is an assignment. -/
def assignment? (o : String) : Option String :=
  if ["=", "+=", "-=", "*=", "/=", "%=", "&=", "^=", "|=", "<<=", ">>="].contains o then
    some (String.ofList o.toList.dropLast)
  else none

mutual

/-- Reads an assignment or a choice. With `idle` nothing is looked up or assigned. -/
def assignment (lookup : String → Option String) : Nat → Bool → Read Int64
  | 0, _ => fail "expecting primary"
  | fuel + 1, idle => do
      match (← get).left with
      | .name name :: .operator o :: _ =>
          match assignment? o with
          | some o => do
              advance
              advance
              let value ← assignment lookup fuel idle
              if idle then pure value
              else
                let value ←
                  if o = "" then pure value
                  else do combine o (← valueOf lookup name) value
                modify fun r => { r with given := (name, value) :: r.given }
                pure value
          | none => choice lookup fuel idle
      | _ => choice lookup fuel idle

/-- Reads a choice between two values. -/
def choice (lookup : String → Option String) : Nat → Bool → Read Int64
  | 0, _ => fail "expecting primary"
  | fuel + 1, idle => do
      let a ← disjunction lookup fuel idle
      if ← accept "?" then
        let b ← assignment lookup fuel (idle || a = 0)
        if !(← accept ":") then fail "expecting ':'"
        let c ← choice lookup fuel (idle || a ≠ 0)
        pure (if a ≠ 0 then b else c)
      else pure a

/-- Reads values that are joined by "or". -/
def disjunction (lookup : String → Option String) : Nat → Bool → Read Int64
  | 0, _ => fail "expecting primary"
  | fuel + 1, idle => do
      let a ← conjunction lookup fuel idle
      if ← accept "||" then
        let b ← disjunction lookup fuel (idle || a ≠ 0)
        pure (ofBool (a ≠ 0 || b ≠ 0))
      else pure a

/-- Reads values that are joined by "and". -/
def conjunction (lookup : String → Option String) : Nat → Bool → Read Int64
  | 0, _ => fail "expecting primary"
  | fuel + 1, idle => do
      let a ← binary lookup fuel idle 1
      if ← accept "&&" then
        let b ← conjunction lookup fuel (idle || a = 0)
        pure (ofBool (a ≠ 0 && b ≠ 0))
      else pure a

/-- Reads values that are joined by operators of a strength at least. -/
def binary (lookup : String → Option String) : Nat → Bool → Nat → Read Int64
  | 0, _, _ => fail "expecting primary"
  | fuel + 1, idle, least => do
      let a ← primary lookup fuel idle
      binaryRest lookup fuel idle least a

/-- Reads on behind the left side of operators of a strength at least. -/
def binaryRest (lookup : String → Option String) : Nat → Bool → Nat → Int64 → Read Int64
  | 0, _, _, _ => fail "expecting primary"
  | fuel + 1, idle, least, a => do
      match ← peek? with
      | some (.operator o) =>
          match strength? o with
          | some strength =>
              if strength < least then pure a
              else
                advance
                let b ← binary lookup fuel idle (strength + 1)
                let value ← if idle then pure b else combine o a b
                binaryRest lookup fuel idle least value
          | none => pure a
      | _ => pure a

/-- Reads a value with the signs in front of it. -/
def primary (lookup : String → Option String) : Nat → Bool → Read Int64
  | 0, _ => fail "expecting primary"
  | fuel + 1, idle => do
      match ← peek? with
      | some (.number value) => do
          advance
          pure value
      | some (.name name) => do
          advance
          if idle then pure 0 else valueOf lookup name
      | some (.operator "(") => do
          advance
          let value ← assignment lookup fuel idle
          if !(← accept ")") then fail "expecting ')'"
          pure value
      | some (.operator "+") => do
          advance
          primary lookup fuel idle
      | some (.operator "-") => do
          advance
          pure (-(← primary lookup fuel idle))
      | some (.operator "!") => do
          advance
          pure (ofBool ((← primary lookup fuel idle) = 0))
      | some (.operator "~") => do
          advance
          pure (~~~(← primary lookup fuel idle))
      | _ => fail "expecting primary"

end

/-- The value of an expression, with the values that it gives to variables. -/
def evaluate (lookup : String → Option String) (text : String) :
    Except Failure (Int64 × List (String × Int64)) :=
  let all := marks (text.length + 1) text.toList
  match assignment lookup (10 * all.length + 20) false ⟨all, []⟩ with
  | .error e => .error e
  | .ok (value, r) =>
      if r.left.isEmpty then .ok (value, r.given) else .error (.malformed "expecting EOF")

end HostFlash.Shell.Arithmetic
