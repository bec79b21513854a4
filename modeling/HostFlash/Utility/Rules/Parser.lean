import HostFlash.Utility.Rules.Token

/-! # Reading programs of rules

A program is read from its tokens. Each level of expressions has a function of its own, from the
loosest one to the operands. The fuel of the mutual functions is a bound on the nesting.
-/

namespace HostFlash.Utility.Rules

/-- What a statement is a part of. -/
inductive Region where
  /-- The action for records. -/
  | rule
  /-- The action before or behind all records. -/
  | edge
  | function
deriving Repr, DecidableEq

/-- A call of a function: its name, its line and the number of its arguments. -/
structure Calling where
  name : String
  line : Nat
  count : Nat
deriving Repr, DecidableEq

/-- What is left to read, and the functions that were called so far. -/
structure Scanner where
  tokens : List (Token × Nat)
  line : Nat
  /-- The line behind the end. -/
  lastLine : Nat
  called : List Calling
  region : Region
  /-- The number of loops around. -/
  loops : Nat

/-- Something that reads a part of a program. -/
abbrev Scan := StateT Scanner (Except Fault)

/-- Which operators an expression does not have where it stands. -/
structure Place where
  noGreater : Bool
  noIn : Bool
deriving Repr, DecidableEq

namespace Scan

/-- The next token. -/
def peek : Scan (Option Token) := do return (← get).tokens.head?.map (·.1)

/-- The token behind the next one. -/
def peekSecond : Scan (Option Token) := do return ((← get).tokens[1]?).map (·.1)

/-- Goes over a token. -/
def advance : Scan Unit :=
  modify fun s =>
    match s.tokens with
    | (_, line) :: rest => { s with tokens := rest, line := line }
    | [] => s

/-- Refuses the next token. -/
def refuse {α : Type} : Scan α := do
  let s ← get
  match s.tokens with
  | (t, line) :: _ => throw ⟨line, "syntax error at or near " ++ t.shown⟩
  | [] => throw ⟨s.lastLine, "missing \x7d near end of file"⟩

/-- Refuses what was read, for a reason. -/
def complain {α : Type} (message : String) : Scan α := do throw ⟨(← get).line, message⟩

/-- The next token is this mark. -/
def isAt (m : String) : Scan Bool := do
  match ← peek with
  | some t => pure (t.isMark m)
  | none => pure false

/-- The next token is this keyword. -/
def isAtWord (k : String) : Scan Bool := do
  match ← peek with
  | some t => pure (t.isKeyword k)
  | none => pure false

/-- Goes over a mark if it comes next, and gives the answer whether it did. -/
def take (m : String) : Scan Bool := do
  if ← isAt m then
    advance
    pure true
  else pure false

/-- Goes over a mark that must come next. -/
def expect (m : String) : Scan Unit := do
  if !(← take m) then refuse

/-- Goes over a keyword if it comes next, and gives the answer whether it did. -/
def takeWord (k : String) : Scan Bool := do
  if ← isAtWord k then
    advance
    pure true
  else pure false

/-- Goes over the ends of lines, and over semicolons if they count as such. -/
def skip (semicolons : Bool) : Scan Unit :=
  modify fun s =>
    let isSkipped (t : Token × Nat) : Bool :=
      match t.1 with
      | .lineEnd => true
      | t => semicolons && t.isMark ";"
    { s with tokens := s.tokens.dropWhile isSkipped }

/-- Goes over the ends of lines. -/
def skipLines : Scan Unit := skip false

end Scan

namespace Expr

/-- The expression can be set. -/
def isTarget : Expr → Bool
  | name _ | element .. | field _ => true
  | _ => false

end Expr

namespace Token

/-- An operand of a concatenation may begin with the token. -/
def startsOperand : Token → Bool
  | number _ | text _ | regex _ | name _ | callee _ | builtin _ => true
  | mark s => ["$", "(", "++", "--"].contains s
  | _ => false

/-- The operator between numbers that a mark is. -/
def operator? : Token → Option Operator
  | mark "+" => some .add
  | mark "-" => some .subtract
  | mark "*" => some .multiply
  | mark "/" => some .divide
  | mark "%" => some .remainder
  | _ => none

/-- The relation that a mark is. -/
def relation? : Token → Option Relation
  | mark "<" => some .less
  | mark "<=" => some .atMost
  | mark "==" => some .equal
  | mark "!=" => some .unequal
  | mark ">" => some .greater
  | mark ">=" => some .atLeast
  | _ => none

/-- The way to set that a mark is. -/
def assignment? : Token → Option (Option Operator)
  | mark "=" => some none
  | mark "+=" => some (some .add)
  | mark "-=" => some (some .subtract)
  | mark "*=" => some (some .multiply)
  | mark "/=" => some (some .divide)
  | mark "%=" => some (some .remainder)
  | mark "^=" => some (some .power)
  | _ => none

/-- The function takes so many values. -/
def takes (function : String) (count : Nat) : Bool :=
  match function with
  | "length" | "srand" | "fflush" => count ≤ 1
  | "substr" => count = 2 || count = 3
  | "split" | "sub" | "gsub" => count = 2 || count = 3
  | "index" | "match" | "atan2" => count = 2
  | "sprintf" => count ≥ 1
  | "rand" => count = 0
  | _ => count = 1

end Token

namespace Parser

open Scan

/-- Refuses a text that is no regular expression where one must stand. -/
def checkRegex (e : Expr) : Scan Unit := do
  match e with
  | .text source =>
      match regexOf source with
      | .ok _ => pure ()
      | .error reason => complain (regexFault reason source)
  | _ => pure ()

/-- An expression where a regular expression must stand: a text is one that was written so. -/
def constantRegex (e : Expr) : Expr :=
  match e with
  | .text source =>
      match regexOf source with
      | .ok r => .regex r
      | .error _ => e
  | e => e

/-- The call of a function that there is without a program. -/
def builtinCall (name : String) (args : List Expr) : Scan Expr := do
  match name, args with
  | "sub", pattern :: rest | "gsub", pattern :: rest => do
      checkRegex pattern
      pure (.builtin name (constantRegex pattern :: rest))
  | "match", [subject, pattern] => do
      checkRegex pattern
      pure (.builtin name [subject, constantRegex pattern])
  | name, args => pure (.builtin name args)

/-- Reads operands with operators between them. -/
def chain (operand : Scan Expr) (join? : Scan (Option (Expr → Expr → Expr))) :
    Nat → Expr → Scan Expr
  | 0, left => pure left
  | fuel + 1, left => do
      match ← join? with
      | none => pure left
      | some join => do
          let right ← operand
          chain operand join? fuel (join left right)

/-- Takes a mark with what it makes of two operands. Lines may end behind it. -/
def joinedBy (m : String) (join : Expr → Expr → Expr) : Scan (Option (Expr → Expr → Expr)) := do
  if ← take m then
    skipLines
    pure (some join)
  else pure none

/-- Takes one of some operators between numbers. -/
def operatorOf (allowed : List Operator) : Scan (Option (Expr → Expr → Expr)) := do
  match (← peek).bind Token.operator? with
  | some o =>
      if allowed.contains o then
        advance
        pure (some (.binary o))
      else pure none
  | none => pure none

mutual

/-- Reads an expression. -/
def expression : Nat → Place → Scan Expr
  | 0, _ => refuse
  | fuel + 1, p => do
      let first ← disjunction fuel p
      let left ←
        if ← take "?" then do
          let yes ← expression fuel p
          expect ":"
          let no ← expression fuel p
          pure (.conditional first yes no)
        else pure first
      match (← peek).bind Token.assignment? with
      | some operator =>
          if left.isTarget then do
            advance
            pure (.assign operator left (← expression fuel p))
          else pure left
      | none => pure left

/-- Reads conditions of which one must hold. -/
def disjunction : Nat → Place → Scan Expr
  | 0, _ => refuse
  | fuel + 1, p => do
      chain (conjunction fuel p) (joinedBy "||" .either) fuel (← conjunction fuel p)

/-- Reads conditions of which all must hold. -/
def conjunction : Nat → Place → Scan Expr
  | 0, _ => refuse
  | fuel + 1, p => do
      chain (membership fuel p) (joinedBy "&&" .both) fuel (← membership fuel p)

/-- Reads whether arrays have keys. -/
def membership : Nat → Place → Scan Expr
  | 0, _ => refuse
  | fuel + 1, p => do memberships p fuel (← fitting fuel p)

/-- Reads whether arrays have the key that was read. -/
def memberships : Place → Nat → Expr → Scan Expr
  | _, 0, left => pure left
  | p, fuel + 1, left => do
      if !p.noIn && (← takeWord "in") then
        match ← peek with
        | some (.name array) => do
            advance
            memberships p fuel (.member [left] array)
        | _ => refuse
      else pure left

/-- Reads whether texts fit regular expressions. -/
def fitting : Nat → Place → Scan Expr
  | 0, _ => refuse
  | fuel + 1, p => do
      let join? : Scan (Option (Expr → Expr → Expr)) := do
        if ← take "~" then pure (some fun e r => .fits true e (constantRegex r))
        else if ← take "!~" then pure (some fun e r => .fits false e (constantRegex r))
        else pure none
      chain (comparison fuel p) join? fuel (← comparison fuel p)

/-- Reads comparisons. -/
def comparison : Nat → Place → Scan Expr
  | 0, _ => refuse
  | fuel + 1, p => do
      let join? : Scan (Option (Expr → Expr → Expr)) := do
        match (← peek).bind Token.relation? with
        | some r =>
            if p.noGreater && r = .greater then pure none
            else do
              advance
              pure (some (.compare r))
        | none => pure none
      chain (concatenation fuel) join? fuel (← concatenation fuel)

/-- Reads texts that are put together. -/
def concatenation : Nat → Scan Expr
  | 0 => refuse
  | fuel + 1 => do
      let join? : Scan (Option (Expr → Expr → Expr)) := do
        match ← peek with
        | some t => pure (if t.startsOperand then some .concat else none)
        | none => pure none
      chain (sum fuel) join? fuel (← sum fuel)

/-- Reads sums. -/
def sum : Nat → Scan Expr
  | 0 => refuse
  | fuel + 1 => do
      chain (product fuel) (operatorOf [.add, .subtract]) fuel (← product fuel)

/-- Reads products. -/
def product : Nat → Scan Expr
  | 0 => refuse
  | fuel + 1 => do
      chain (signed fuel) (operatorOf [.multiply, .divide, .remainder]) fuel (← signed fuel)

/-- Reads an operand with a sign. -/
def signed : Nat → Scan Expr
  | 0 => refuse
  | fuel + 1 => do
      if ← take "!" then pure (.negation (← signed fuel))
      else if ← take "-" then pure (.minus (← signed fuel))
      else if ← take "+" then pure (.plus (← signed fuel))
      else powered fuel

/-- Reads powers. -/
def powered : Nat → Scan Expr
  | 0 => refuse
  | fuel + 1 => do
      let base ← counted fuel
      if ← take "^" then
        let exponent ←
          if ← take "-" then pure (.minus (← powered fuel)) else powered fuel
        pure (.binary .power base exponent)
      else pure base

/-- Reads an operand that is counted afterwards, or that gives the name of a command whose output is
read. -/
def counted : Nat → Scan Expr
  | 0 => refuse
  | fuel + 1 => do
      let e ← operand fuel
      let e ←
        if e.isTarget then
          if ← take "++" then pure (.count true false e)
          else if ← take "--" then pure (.count false false e)
          else pure e
        else pure e
      outputs fuel e

/-- Reads how the output of a command is read. -/
def outputs : Nat → Expr → Scan Expr
  | 0, e => pure e
  | fuel + 1, e => do
      if (← isAt "|") && ((← peekSecond).map (·.isKeyword "getline")).getD false then
        advance
        advance
        outputs fuel (.getRecord (← target? fuel) .command (some e))
      else pure e

/-- Reads what a record is read into, if there is something. -/
def target? : Nat → Scan (Option Expr)
  | 0 => pure none
  | fuel + 1 => do
      match ← peek with
      | some (.name _) => return some (← operand fuel)
      | some (.mark "$") => return some (← operand fuel)
      | _ => pure none

/-- Reads expressions with commas between them. -/
def expressions : Nat → Place → Scan (List Expr)
  | 0, _ => refuse
  | fuel + 1, p => do
      let first ← expression fuel p
      if ← take "," then
        skipLines
        return first :: (← expressions fuel p)
      else pure [first]

/-- Reads the arguments of a function behind the parenthesis. -/
def callArguments : Nat → Scan (List Expr)
  | 0 => refuse
  | fuel + 1 => do
      skipLines
      if ← take ")" then pure []
      else do
        let args ← expressions fuel ⟨false, false⟩
        skipLines
        expect ")"
        pure args

/-- Reads what is counted. -/
def counter : Nat → Scan Expr
  | 0 => refuse
  | fuel + 1 => do
      match ← peek with
      | some (.name _) | some (.mark "$") | some (.mark "(") => do
          let e ← operand fuel
          if e.isTarget then pure e else refuse
      | _ => refuse

/-- Reads an operand. -/
def operand : Nat → Scan Expr
  | 0 => refuse
  | fuel + 1 => do
      match ← peek with
      | some (.number x) => do
          advance
          pure (.number x)
      | some (.text s) => do
          advance
          pure (.text s)
      | some (.regex source) => do
          advance
          match regexOf source with
          | .ok r => pure (.regex r)
          | .error e => complain (regexFault e source)
      | some (.name name) => do
          advance
          if ← take "[" then do
            let keys ← expressions fuel ⟨false, false⟩
            expect "]"
            pure (.element name keys)
          else pure (.name name)
      | some (.callee name) => do
          advance
          expect "("
          let line := (← get).line
          let args ← callArguments fuel
          modify fun s => { s with called := ⟨name, line, args.length⟩ :: s.called }
          pure (.call name args)
      | some (.builtin name) => do
          advance
          if ← take "(" then
            let args ← callArguments fuel
            if Token.takes name args.length then builtinCall name args
            else complain ("wrong number of arguments in call to " ++ name)
          else if name = "length" then pure (.builtin name [])
          else refuse
      | some (.keyword "getline") => do
          advance
          let target ← target? fuel
          if ← take "<" then
            let source ← operand fuel
            pure (.getRecord target .file (some source))
          else pure (.getRecord target .input none)
      | some (.mark "$") => do
          advance
          if ← take "++" then pure (.field (.count true true (← operand fuel)))
          else if ← take "--" then pure (.field (.count false true (← operand fuel)))
          else if ← take "-" then pure (.field (.minus (← operand fuel)))
          else pure (.field (← operand fuel))
      | some (.mark "++") => do
          advance
          pure (.count true true (← counter fuel))
      | some (.mark "--") => do
          advance
          pure (.count false true (← counter fuel))
      | some (.mark "(") => do
          advance
          skipLines
          let es ← expressions fuel ⟨false, false⟩
          skipLines
          expect ")"
          match es with
          | [e] => pure (.group e)
          | es =>
              if ← takeWord "in" then
                match ← peek with
                | some (.name array) => do
                    advance
                    pure (.member es array)
                | _ => refuse
              else refuse
      | _ => refuse

end

/-- Reads values in parentheses that are all that is printed. -/
def groupedValues (fuel : Nat) : Scan (List Expr) := do
  expect "("
  skipLines
  let es ← expressions fuel ⟨false, false⟩
  skipLines
  expect ")"
  match ← peek with
  | none => pure es
  | some .lineEnd => pure es
  | some (.mark m) => if [";", "\x7d", ">", ">>", "|"].contains m then pure es else refuse
  | _ => refuse

/-- Reads what is printed. -/
def printed (fuel : Nat) : Scan (List Expr) := do
  let isDone : Bool ←
    match ← peek with
    | none => pure true
    | some .lineEnd => pure true
    | some (.mark m) => pure ([";", "\x7d", ">", ">>", "|"].contains m)
    | _ => pure false
  if isDone then pure []
  else
    let s ← get
    match (groupedValues fuel).run s with
    | .ok (es, s) => do
        set s
        pure es
    | .error _ => expressions fuel ⟨true, false⟩

/-- Reads where output goes. -/
def outlet (fuel : Nat) : Scan Outlet := do
  let anywhere : Place := ⟨false, false⟩
  if ← take ">" then return .file (← expression fuel anywhere) false
  else if ← take ">>" then return .file (← expression fuel anywhere) true
  else if ← take "|" then return .command (← expression fuel anywhere)
  else pure .standard

/-- Reads a statement that holds no others. -/
def simple (fuel : Nat) (p : Place) : Scan Stmt := do
  if ← takeWord "print" then
    let values ← printed fuel
    pure (.print values (← outlet fuel))
  else if ← takeWord "printf" then
    let values ← printed fuel
    if values.isEmpty then complain "no arguments in call to printf"
    pure (.format values (← outlet fuel))
  else if ← takeWord "delete" then
    match ← peek with
    | some (.name array) => do
        advance
        if ← take "[" then do
          let keys ← expressions fuel ⟨false, false⟩
          expect "]"
          pure (.delete array (some keys))
        else pure (.delete array none)
    | _ => refuse
  else return .value (← expression fuel p)

/-- Reads the end of a statement. -/
def statementEnd : Scan Unit := do
  match ← peek with
  | none => pure ()
  | some .lineEnd => skipLines
  | some t =>
      if t.isMark ";" then
        advance
        skipLines
      else if t.isMark "\x7d" then pure ()
      else refuse

/-- Reads a value that may be missing, and the end of the statement. -/
def valueAndEnd (fuel : Nat) : Scan (Option Expr) := do
  let isDone : Bool ←
    match ← peek with
    | none | some .lineEnd => pure true
    | some t => pure (t.isMark ";" || t.isMark "\x7d")
  let value ← if isDone then pure none else some <$> expression fuel ⟨false, false⟩
  statementEnd
  pure value

/-- Reads a condition in parentheses. -/
def condition (fuel : Nat) : Scan Expr := do
  expect "("
  let e ← expression fuel ⟨false, false⟩
  expect ")"
  pure e

/-- Reads the body of a loop. -/
def inLoop {α : Type} (body : Scan α) : Scan α := do
  modify fun s => { s with loops := s.loops + 1 }
  let a ← body
  modify fun s => { s with loops := s.loops - 1 }
  pure a

/-- Reads the end of a statement that leaves what it is in, where that can be done. -/
def leaving (possible : Scanner → Bool) (fault : String) (s : Stmt) : Scan Stmt := do
  if possible (← get) then
    statementEnd
    pure s
  else complain fault

mutual

/-- Reads a statement. -/
def statement : Nat → Scan Stmt
  | 0 => refuse
  | fuel + 1 => do
      if ← take "\x7b" then do
        let body ← statements fuel
        pure (.block body)
      else if ← take ";" then do
        skipLines
        pure (.block [])
      else if ← takeWord "if" then do
        let c ← condition fuel
        skipLines
        let yes ← statement fuel
        skipLines
        if ← takeWord "else" then do
          skipLines
          pure (.choose c yes (some (← statement fuel)))
        else pure (.choose c yes none)
      else if ← takeWord "while" then do
        let c ← condition fuel
        if ← take ";" then pure (.loop false c none (.block []))
        else do
          skipLines
          pure (.loop false c none (← inLoop (statement fuel)))
      else if ← takeWord "do" then do
        skipLines
        let body ← inLoop (statement fuel)
        skip true
        if !(← takeWord "while") then refuse
        let c ← condition fuel
        statementEnd
        pure (.loop true c none body)
      else if ← takeWord "for" then do
        expect "("
        forLoop fuel
      else if ← takeWord "break" then
        leaving (·.loops > 0) "break statement outside of loop" .leave
      else if ← takeWord "continue" then
        leaving (·.loops > 0) "continue statement outside of loop" .again
      else if ← takeWord "next" then
        leaving (·.region = .rule) "improper use of next" .next
      else if ← takeWord "nextfile" then
        leaving (·.region = .rule) "improper use of nextfile" .nextFile
      else if ← takeWord "exit" then return .exit (← valueAndEnd fuel)
      else if ← takeWord "return" then
        if (← get).region = .function then return .giveBack (← valueAndEnd fuel)
        else complain "return outside function body"
      else do
        let s ← simple fuel ⟨false, false⟩
        statementEnd
        pure s

/-- Reads a loop behind its parenthesis. -/
def forLoop : Nat → Scan Stmt
  | 0 => refuse
  | fuel + 1 => do
      match (← get).tokens with
      | (.name name, _) :: (.keyword "in", _) :: (.name array, _) :: (.mark ")", _) :: rest => do
          modify fun s => { s with tokens := rest }
          skipLines
          pure (.each name array (← inLoop (statement fuel)))
      | _ => do
          let first ← if ← isAt ";" then pure none else some <$> simple fuel ⟨false, true⟩
          expect ";"
          skipLines
          let c ←
            if ← isAt ";" then pure (.number 1) else expression fuel ⟨false, false⟩
          expect ";"
          skipLines
          let step ←
            if ← isAt ")" then pure none else some <$> simple fuel ⟨false, false⟩
          expect ")"
          let body ←
            if ← take ";" then pure (.block [])
            else do
              skipLines
              inLoop (statement fuel)
          pure (.block (first.toList ++ [.loop false c step body]))

/-- Reads statements up to the closing brace. -/
def statements : Nat → Scan (List Stmt)
  | 0 => refuse
  | fuel + 1 => do
      skip true
      if ← take "\x7d" then pure []
      else do
        let first ← statement fuel
        return first :: (← statements fuel)

end

/-- Reads an action behind its brace. -/
def action (fuel : Nat) (region : Region) : Scan Stmt := do
  modify fun s => { s with region := region }
  return .block (← statements fuel)

/-- Reads the names of parameters. The fuel is a bound on their number. -/
def parameters : Nat → Scan (List String)
  | 0 => refuse
  | fuel + 1 => do
      match ← peek with
      | some (.name name) => do
          advance
          if ← take "," then
            skipLines
            return name :: (← parameters fuel)
          else do
            expect ")"
            pure [name]
      | _ => do
          expect ")"
          pure []

/-- Reads rules and functions. -/
def items (fuel : Nat) : Nat → Program → Scan Program
  | 0, p => pure p
  | count + 1, p => do
      skipLines
      match ← peek with
      | none => pure p
      | some t => do
          if t.isKeyword "function" then
            advance
            match ← peek with
            | some (.name name) | some (.callee name) => do
                advance
                expect "("
                let names ← parameters fuel
                skipLines
                expect "\x7b"
                let f : Function := ⟨name, names, ← action fuel .function⟩
                let _ ← take ";"
                items fuel count { p with functions := p.functions ++ [f] }
            | _ => refuse
          else
            let pattern : Pattern ←
              if ← takeWord "BEGIN" then pure .start
              else if ← takeWord "END" then pure .finish
              else if t.isMark "\x7b" then pure .always
              else do
                let first ← expression fuel ⟨false, false⟩
                if ← take "," then do
                  skipLines
                  pure (.range first (← expression fuel ⟨false, false⟩))
                else pure (.holds first)
            let region : Region :=
              match pattern with
              | .start | .finish => .edge
              | _ => .rule
            let body : Option Stmt ←
              if ← take "\x7b" then some <$> action fuel region
              else
                match pattern with
                | .start | .finish => refuse
                | _ => pure none
            let _ ← take ";"
            items fuel count { p with rules := p.rules ++ [⟨pattern, body⟩] }

end Parser

namespace Program

/-- What is wrong with a call. -/
def callFault? (p : Program) (lastLine : Nat) (c : Calling) : Option Fault :=
  match p.function? c.name with
  | none => some ⟨lastLine, "function " ++ c.name ++ " never defined"⟩
  | some f =>
      if c.count > f.parameters.length then
        some ⟨c.line, "too many arguments in call to " ++ c.name⟩
      else none

/-- The program of a text. -/
def ofText (text : String) : Except Fault Program := do
  let tokens ← Token.tokens (text.length + 1) 1 false text.toList
  let fuel := 20 * tokens.length + 200
  let lastLine := text.toList.count '\n' + 2
  let (p, s) ← (Parser.items fuel (tokens.length + 1) ⟨[], []⟩).run
    ⟨tokens, 1, lastLine, [], .rule, 0⟩
  match s.called.reverse.findSome? (p.callFault? lastLine) with
  | some fault => .error fault
  | none => pure p

end Program

end HostFlash.Utility.Rules
