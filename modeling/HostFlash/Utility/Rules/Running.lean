import HostFlash.Utility.Rules.Records

/-! # Running programs of rules

Expressions are evaluated and statements are carried out. The fuel of the mutual functions is a
bound on the nesting of what is done and on how often loops go round.
-/

namespace HostFlash.Utility.Rules.Act

/-! ## What can be set -/

/-- What can be set. -/
inductive Target where
  | named (name : String)
  | element (place : Nat) (key : String)
  | field (n : Nat)

namespace Target

/-- The value of what can be set. -/
def value : Target → Act Value
  | named name => valueOf name
  | element place key => elementAt place key
  | field n => fieldValue n

/-- Sets what can be set. -/
def put (t : Target) (v : Value) : Act Unit :=
  match t with
  | named name => setVariable name v
  | element place key => changeTable place (·.put key v)
  | field n => setField n v

end Target

/-! ## Functions of values -/

/-- A part of a text, from a character on that is counted from one. A place in front of the text
makes the part longer. -/
def part (text : String) (start : Int) (length : Option Int) : String :=
  let missing : Int := if start < 1 then start else 0
  let rest := text.toList.drop (start - 1).toNat
  String.ofList (match length with
    | none => rest
    | some n => rest.take (n - missing).toNat)

/-- Where a text is in another one, counted from one, or zero. -/
def placeOf (text wanted : List Char) : Nat → Nat
  | n =>
      match text with
      | [] => 0
      | _ :: rest => if wanted.isPrefixOf text then n else placeOf rest wanted (n + 1)

/-- What a text is replaced by: a sign stands for the text itself unless it is escaped. The fuel is
a bound on the characters. -/
def replacementFor (matched : List Char) : Nat → List Char → List Char
  | 0, _ | _, [] => []
  | fuel + 1, '&' :: rest => matched ++ replacementFor matched fuel rest
  | fuel + 1, '\\' :: rest =>
      let count := 1 + (rest.takeWhile (· = '\\')).length
      match rest.drop (count - 1) with
      | '&' :: behind =>
          List.replicate (count / 2) '\\' ++ (if count % 2 = 1 then ['&'] else matched) ++
            replacementFor matched fuel behind
      | behind => List.replicate count '\\' ++ replacementFor matched fuel behind
  | fuel + 1, c :: rest => c :: replacementFor matched fuel rest

/-- A text with the first match from a place on, or all of them, replaced, in pieces, and how many
there were. There is no empty match right behind another one. The fuel is a bound on the
characters. -/
def replaceFrom (m : Text.Regex.Matching) (r : Text.Regex) (all : Bool) (filler : List Char) :
    Nat → (start : Nat) → (behindMatch : Bool) → List (List Char) × Nat
  | 0, _, _ => ([], 0)
  | fuel + 1, start, behindMatch =>
      let piece (i j : Nat) : List Char := (m.text.extract i j).toList
      match Text.Regex.find? m r start with
      | none => ([piece start m.text.size], 0)
      | some (a, b) =>
          if a = b && a = start && behindMatch then
            if start < m.text.size then
              let (rest, count) := replaceFrom m r all filler fuel (start + 1) false
              (piece start (start + 1) :: rest, count)
            else ([], 0)
          else
            let front := [piece start a, replacementFor (piece a b) (filler.length + 1) filler]
            if !all then (front ++ [piece b m.text.size], 1)
            else if a < b then
              let (rest, count) := replaceFrom m r all filler fuel b true
              (front ++ rest, count + 1)
            else if a < m.text.size then
              let (rest, count) := replaceFrom m r all filler fuel (a + 1) false
              (front ++ [piece a (a + 1)] ++ rest, count + 1)
            else (front, 1)

/-- A text in which a regular expression is replaced, and how often it was. -/
def replaceIn (r : Text.Regex) (all : Bool) (filler text : String) : String × Nat :=
  let m : Text.Regex.Matching := ⟨text.toList.toArray, false, false⟩
  let (pieces, count) := replaceFrom m r all filler.toList (text.length + 2) 0 false
  (String.ofList pieces.flatten, count)

/-- Where a regular expression fits a text. -/
def findIn (r : Text.Regex) (text : String) : Option (Nat × Nat) :=
  Text.Regex.find? ⟨text.toList.toArray, false, false⟩ r 0

/-- The regular expression that a value stands for. -/
def regexValue (v : Value) : Act Text.Regex := do
  let source ← textOf v
  match regexOf source with
  | .ok r => pure r
  | .error e => runFault (regexFault e source)

/-- The number behind a random one. -/
def nextRandom (n : Nat) : Nat :=
  (n * 6364136223846793005 + 1442695040888963407) % 18446744073709551616

/-- Begins random numbers anew. The value is what they began with before. -/
def reseed (v : Value) : Act Value := do
  let s ← get
  let start := (wholePart v.toNumber).natAbs
  set { s with seed := v, random := nextRandom (nextRandom start) }
  pure s.seed

/-- A random number. -/
def randomNumber : Act Value := do
  let s ← get
  let n := nextRandom s.random
  set { s with random := n }
  pure (.number (Float.ofNat (n / 2048) / Float.ofNat 9007199254740992))

/-- Values in a format. -/
def formatted (function : String) (values : List Value) : Act String := do
  match values with
  | [] => pure ""
  | format :: values => do
      let format ← textOf format
      match formatAllValues (← numberFormat) format values with
      | (text, true) => pure text
      | (text, false) => do
          if function = "printf" then writeStandard text
          runFault ("not enough arguments passed to " ++ function ++ "(\"" ++ format ++ "\")")

/-- What a function makes of values. -/
def builtinValue (name : String) (values : List Value) : Act Value := do
  let first := values.headD .unset
  let second := values.tail.headD .unset
  let x := first.toNumber
  match name with
  | "length" => return .ofInt (← textOf first).length
  | "substr" => do
      let length := values.tail.tail.head?.map fun v => wholePart v.toNumber
      return .text (part (← textOf first) (wholePart second.toNumber) length)
  | "index" => do
      let text := (← textOf first).toList
      let wanted := (← textOf second).toList
      return .ofInt (placeOf text wanted 1)
  | "sprintf" => return .text (← formatted name values)
  | "sin" => pure (.number (Float.sin x))
  | "cos" => pure (.number (Float.cos x))
  | "atan2" => pure (.number (Float.atan2 x second.toNumber))
  | "exp" => pure (.number (Float.exp x))
  | "log" => pure (.number (Float.log x))
  | "sqrt" => pure (.number (Float.sqrt x))
  | "int" =>
      pure (.number (if x.isFinite then (if x < 0 then Float.ceil x else Float.floor x) else x))
  | "rand" => randomNumber
  | "srand" => reseed (if values.isEmpty then .number 1700000000 else first)
  | "tolower" => return .text (← textOf first).toLower
  | "toupper" => return .text (← textOf first).toUpper
  | "system" => return .ofInt (← runCommand (← textOf first))
  | "close" => return .ofInt (← close (← textOf first))
  | "fflush" =>
      if values.isEmpty then
        flushAll
        pure (.number 0)
      else return .ofInt (if ← flushNamed (← textOf first) then 0 else -1)
  | _ => pure .unset

/-- Makes an array of texts, with keys that count from one. -/
def fillTable (place : Nat) (texts : List String) : Act Value := do
  let entries := texts.zipIdx 1
  changeTable place fun _ =>
    entries.foldl (fun t (text, n) => t.put (toString n) (.input text)) .empty
  pure (.ofInt texts.length)

/-- A value as it is printed. -/
def printedText (v : Value) : Act String := do
  match v with
  | .number _ => return v.toText (← setting "OFMT")
  | v => textOf v

/-! ## Leaving -/

/-- Does something, and gives the reason why it was left. -/
def attempt (m : Act Unit) : Act (Option Halt) :=
  tryCatch (do
    m
    pure none) fun h => pure (some h)

/-- Goes once round a loop. The answer is whether to go on. -/
def inLoop (m : Act Unit) : Act Bool := do
  match ← attempt m with
  | none | some .again => pure true
  | some .leave => pure false
  | some h => throw h

/-- How many variables the functions that run can have together. -/
def mostVariables : Nat := 1006

/-- Does something with variables of its own. -/
def inFrame (vars : List (String × Slot)) (m : Act Unit) : Act Value := do
  let depth := (← get).frames.size
  let used := (← get).frames.foldl (fun n frame => n + max 1 frame.length) vars.length
  if used > mostVariables then fatal "program limit exceeded: eval stack size=1024"
  modify fun s => { s with frames := s.frames.push vars }
  let h ← attempt m
  modify fun s => { s with frames := s.frames.extract 0 depth }
  match h with
  | none => pure .unset
  | some (.back v) => pure v
  | some h => throw h

/-- Puts a record where it belongs. -/
def receive (target : Option Target) (text : String) : Act Unit :=
  match target with
  | some t => t.put (.input text)
  | none => setRecord text

/-! ## Expressions and statements -/

mutual

/-- The value of an expression. -/
def eval : Nat → Expr → Act Value
  | 0, _ => pure .unset
  | _ + 1, .number x => pure (.number x)
  | _ + 1, .text s => pure (.text s)
  | _ + 1, .regex r => return .ofBool (findIn r (← get).record).isSome
  | _ + 1, .name name => valueOf name
  | fuel + 1, .element array keys => do
      let key ← keyOf fuel keys
      elementAt (← tableOf array) key
  | fuel + 1, .field number => do fieldValue (← fieldNumber (← eval fuel number))
  | fuel + 1, .group e => eval fuel e
  | fuel + 1, .conditional c yes no => do
      if (← eval fuel c).holds then eval fuel yes else eval fuel no
  | fuel + 1, .either a b => do
      if (← eval fuel a).holds then pure (.ofBool true)
      else return .ofBool (← eval fuel b).holds
  | fuel + 1, .both a b => do
      if (← eval fuel a).holds then return .ofBool (← eval fuel b).holds
      else pure (.ofBool false)
  | fuel + 1, .negation e => return .ofBool (!(← eval fuel e).holds)
  | fuel + 1, .minus e => return .number (-(← eval fuel e).toNumber)
  | fuel + 1, .plus e => return .number (← eval fuel e).toNumber
  | fuel + 1, .member keys array => do
      let key ← keyOf fuel keys
      return .ofBool ((← table (← tableOf array)).entries.contains key)
  | fuel + 1, .fits positive subject pattern => do
      let text ← textOf (← eval fuel subject)
      let r ← patternOf fuel pattern
      pure (.ofBool ((findIn r text).isSome == positive))
  | fuel + 1, .compare relation a b => do
      let a ← eval fuel a
      let b ← eval fuel b
      return .ofBool (relation.between (← numberFormat) a b)
  | fuel + 1, .concat a b => do
      let s ← textOf (← eval fuel a)
      let t ← textOf (← eval fuel b)
      pure (.text (s ++ t))
  | fuel + 1, .binary operator a b => do
      let x := (← eval fuel a).toNumber
      let y := (← eval fuel b).toNumber
      pure (.number (operator.apply x y))
  | fuel + 1, .assign operator target value => do
      let t ← targetOf fuel target
      let v ← eval fuel value
      let v ←
        match operator with
        | none => pure v
        | some o => (fun old => .number (o.apply old.toNumber v.toNumber)) <$> t.value
      t.put v
      pure v
  | fuel + 1, .count up isNew target => do
      let t ← targetOf fuel target
      let old := (← t.value).toNumber
      let new := if up then old + 1 else old - 1
      t.put (.number new)
      pure (.number (if isNew then new else old))
  | fuel + 1, .call name args => do
      match (← get).program.function? name with
      | none => pure .unset
      | some f => do
          tick
          let slots ← args.mapM (slotFor fuel)
          let missing := List.replicate (f.parameters.length - slots.length) Slot.unset
          inFrame (f.parameters.zip (slots ++ missing)) (exec fuel f.body)
  | fuel + 1, .builtin name args => call fuel name args
  | fuel + 1, .getRecord target origin source => do
      let t ← target.mapM (targetOf fuel)
      match origin, source with
      | .input, _ | _, none => do
          match ← nextRecord with
          | none => pure (.number 0)
          | some text => do
              receive t text
              pure (.number 1)
      | origin, some source => do
          let name ← textOf (← eval fuel source)
          match ← fetch name (origin = .command) with
          | .unopened => pure (.number (-1))
          | .nothing => pure (.number 0)
          | .record text => do
              receive t text
              pure (.number 1)

/-- The key of an element. -/
def keyOf : Nat → List Expr → Act String
  | 0, _ => pure ""
  | fuel + 1, [e] => do textOf (← eval fuel e)
  | fuel + 1, keys => do
      let texts ← keys.mapM fun e => do textOf (← eval fuel e)
      return (← setting "SUBSEP").intercalate texts

/-- What an expression that can be set stands for. -/
def targetOf : Nat → Expr → Act Target
  | fuel + 1, .element array keys => do
      let key ← keyOf fuel keys
      return .element (← tableOf array) key
  | fuel + 1, .field number => do return .field (← fieldNumber (← eval fuel number))
  | fuel + 1, .group e => targetOf fuel e
  | _, .name name => pure (.named name)
  | _, _ => pure (.field 0)

/-- The regular expression that an expression stands for. -/
def patternOf : Nat → Expr → Act Text.Regex
  | 0, _ => pure (Text.Regex.literal "")
  | _ + 1, .regex r => pure r
  | fuel + 1, e => do regexValue (← eval fuel e)

/-- What a parameter stands for when it is given an expression. -/
def slotFor : Nat → Expr → Act Slot
  | 0, _ => pure .unset
  | fuel + 1, .name name => do
      let frame ← frameOf name
      match ← slotIn frame name with
      | .array place => pure (.array place)
      | .scalar v => pure (.scalar v)
      | _ =>
          if name = "NF" then return .scalar (← eval fuel (.name name))
          else pure (.link frame name)
  | fuel + 1, e => do return .scalar (← eval fuel e)

/-- The value of a function that there is without a program. -/
def call : Nat → String → List Expr → Act Value
  | 0, _, _ => pure .unset
  | fuel + 1, name, args => do
      match name, args with
      | "length", [] => return .ofInt (← get).record.length
      | "length", [.name array] => do
          match ← slotOf array with
          | .array place => return .ofInt (← table place).entries.size
          | _ => builtinValue name [← eval fuel (.name array)]
      | "split", subject :: .name array :: more => do
          let text ← textOf (← eval fuel subject)
          let pieces ←
            match more with
            | [] => do cutAt (← setting "FS") text
            | [.regex r] => pure (cutAtRegex r text)
            | e :: _ => do cutAt (← textOf (← eval fuel e)) text
          fillTable (← tableOf array) pieces
      | "match", [subject, pattern] => do
          let text ← textOf (← eval fuel subject)
          let (start, length) : Int × Int :=
            match findIn (← patternOf fuel pattern) text with
            | some (a, b) => (a + 1, b - a)
            | none => (0, -1)
          setSlotIn none "RSTART" (.scalar (.ofInt start))
          setSlotIn none "RLENGTH" (.scalar (.ofInt length))
          pure (.ofInt start)
      | "sub", pattern :: filler :: more | "gsub", pattern :: filler :: more => do
          let r ← patternOf fuel pattern
          let filler ← textOf (← eval fuel filler)
          let t ← targetOf fuel (more.headD (.field (.number 0)))
          let (text, count) := replaceIn r (name = "gsub") filler (← textOf (← t.value))
          if count > 0 then t.put (.text text)
          pure (.ofInt count)
      | _, args => do builtinValue name (← args.mapM (eval fuel))

/-- Where a text is written. -/
def writeOut : Nat → Outlet → String → Act Unit
  | 0, _, _ => pure ()
  | _ + 1, .standard, text => writeStandard text
  | fuel + 1, .file path appending, text => do
      writeTo (← textOf (← eval fuel path)) false appending text
  | fuel + 1, .command command, text => do
      writeTo (← textOf (← eval fuel command)) true false text

/-- Carries out a statement. -/
def exec : Nat → Stmt → Act Unit
  | 0, _ => pure ()
  | fuel + 1, .block body => body.forM (exec fuel)
  | fuel + 1, .value e => do
      let _ ← eval fuel e
  | fuel + 1, .print values outlet => do
      let texts ←
        if values.isEmpty then pure [(← get).record]
        else values.mapM fun e => do printedText (← eval fuel e)
      let text := (← setting "OFS").intercalate texts ++ (← setting "ORS")
      writeOut fuel outlet text
  | fuel + 1, .format values outlet => do
      let values ← values.mapM (eval fuel)
      writeOut fuel outlet (← formatted "printf" values)
  | fuel + 1, .choose c yes no => do
      if (← eval fuel c).holds then exec fuel yes
      else
        match no with
        | some s => exec fuel s
        | none => pure ()
  | fuel + 1, .loop late c step body => goRound fuel late c step body
  | fuel + 1, .each name array body => do
      let keys := (← table (← tableOf array)).keys
      forKeys fuel name body keys
  | _ + 1, .next => throw .next
  | _ + 1, .nextFile => throw .nextFile
  | _ + 1, .leave => throw .leave
  | _ + 1, .again => throw .again
  | fuel + 1, .exit status => do
      match status with
      | some e => do
          let n := wholePart (← eval fuel e).toNumber
          modify fun s => { s with status := (n % 256).toNat }
      | none => pure ()
      throw .exit
  | fuel + 1, .giveBack value => do
      match value with
      | some e => throw (.back (← eval fuel e))
      | none => throw (.back .unset)
  | fuel + 1, .delete array keys => do
      let place ← tableOf array
      match keys with
      | none => changeTable place fun _ => .empty
      | some keys => do
          let key ← keyOf fuel keys
          changeTable place fun t => { t with entries := t.entries.erase key }

/-- Goes round a loop as long as its condition holds. -/
def goRound : Nat → Bool → Expr → Option Stmt → Stmt → Act Unit
  | 0, _, _, _, _ => pure ()
  | fuel + 1, late, c, step, body => do
      tick
      let goes ← if late then pure true else Value.holds <$> eval fuel c
      if goes then
        if ← inLoop (exec fuel body) then
          match step with
          | some s => exec fuel s
          | none => pure ()
          goRound fuel false c step body

/-- Does something for each of some keys. -/
def forKeys : Nat → String → Stmt → List String → Act Unit
  | 0, _, _, _ | _, _, _, [] => pure ()
  | fuel + 1, name, body, key :: rest => do
      tick
      setVariable name (.input key)
      if ← inLoop (exec fuel body) then forKeys fuel name body rest

end

/-! ## Rules -/

/-- The condition holds. -/
def isMet (c : Expr) : Act Bool := return (← eval Routine.always c).holds

/-- The rule of a number is for the record. -/
def isChosen (n : Nat) (p : Pattern) : Act Bool := do
  let enter (inside : Bool) : Act Unit :=
    modify fun s => { s with within := s.within.set! n inside }
  match p with
  | .start | .finish => pure false
  | .always => pure true
  | .holds c => isMet c
  | .range first last => do
      if (← get).within.getD n false then
        if ← isMet last then enter false
        pure true
      else if ← isMet first then do
        enter (!(← isMet last))
        pure true
      else pure false

/-- Does what a rule says. -/
def perform (rule : Rule) : Act Unit :=
  match rule.action with
  | some s => exec Routine.always s
  | none => exec Routine.always (.print [] .standard)

/-- Does what the rules for the record say. -/
def performChosen : List (Rule × Nat) → Act Unit
  | [] => pure ()
  | (rule, n) :: rest => do
      if ← isChosen n rule.pattern then perform rule
      performChosen rest

/-- Works through the records. The fuel is a bound on their number. -/
def eachRecord (rules : List (Rule × Nat)) : Nat → Act Unit
  | 0 => pure ()
  | fuel + 1 => do
      match ← nextRecord with
      | none => pure ()
      | some text => do
          tick
          setRecord text
          match ← attempt (performChosen rules) with
          | none | some .next => pure ()
          | some .nextFile => leaveFile
          | some h => throw h
          eachRecord rules fuel

/-- The rules for the start, or for the end. -/
def performAt (atStart : Bool) (rules : List Rule) : Act Unit :=
  rules.forM fun rule =>
    match rule.pattern with
    | .start => if atStart then perform rule else pure ()
    | .finish => if atStart then pure () else perform rule
    | _ => pure ()

/-- Runs a program. -/
def runProgram : Act Unit := do
  let rules := (← get).program.rules
  let h ← attempt do
    performAt true rules
    if rules.any fun rule => !rule.pattern.isStart then
      eachRecord rules.zipIdx Routine.always
  match h with
  | some .stop => pure ()
  | _ => do
      let _ ← attempt (performAt false rules)
  let _ ← attempt closeAll

end HostFlash.Utility.Rules.Act
