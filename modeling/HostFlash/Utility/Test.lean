import HostFlash.Process.Activity
import HostFlash.Shell.Number

/-! # Conditions

The conditions that the words of a test spell: comparisons of texts and numbers, questions about
files, and what "not", "and", "or" and parentheses make of them. How words are read depends on how
many there are, and differs between the shell and the machine in the odd cases.
-/

namespace HostFlash.Utility.Condition

/-- What a test comes to, or the complaint about its words. -/
abbrev Exam := StateT (List String) (ExceptT String Routine)

/-- Makes a request. -/
def ask (r : Request) : Exam r.Answer := fun left => fun k =>
  .request r fun answer => k (.ok (answer, left))

/-- The words are none of a test. -/
def refuse {α : Type} (message : String) : Exam α := throw message

/-- An operator between two words. -/
def binaryOperators : List String :=
  ["=", "!=", "<", ">", "-eq", "-ne", "-ge", "-gt", "-le", "-lt", "-nt", "-ot", "-ef"]

/-- An operator in front of a word. -/
def unaryOperators : List String :=
  ["-r", "-w", "-x", "-e", "-f", "-d", "-c", "-b", "-p", "-u", "-g", "-k", "-s", "-t", "-z", "-n",
   "-h", "-O", "-G", "-L", "-S"]

/-- What is known of the file at a path, if there is one. -/
def infoOf? (path : String) (follow : Bool) : Exam (Option FileInfo) := do
  match ← ask (.inspect path follow) with
  | .ok info => pure (some info)
  | .error _ => pure none

/-- The answer to a question about a file. -/
def fileQuestion (operator path : String) : Exam Bool := do
  let info? ← infoOf? path (operator ≠ "-h" && operator ≠ "-L")
  match info? with
  | none => pure false
  | some info =>
      match operator with
      | "-x" => pure info.executable
      | "-f" => pure (info.kind = .regular)
      | "-d" => pure (info.kind = .directory)
      | "-c" => pure (info.kind = .device)
      | "-p" => pure (info.kind = .pipe)
      | "-s" => pure (info.size ≠ 0)
      | "-h" | "-L" => pure (info.kind = .link)
      | "-b" | "-u" | "-g" | "-S" => pure false
      | "-k" => pure (info.location = ["tmp"])
      | _ => pure true

/-- The number that a word spells. -/
def numberOf (reading : String → Option Int) (complaint : String → String) (word : String) :
    Exam Int :=
  match reading word with
  | some n => pure n
  | none => refuse (complaint word)

/-- The value of an operator between two words. A file that is not there may count as older than
one that is. -/
def compare (number : String → Exam Int) (missingIsOld : Bool) (left operator right : String) :
    Exam Bool := do
  match operator with
  | "=" | "==" => pure (left == right)
  | "!=" => pure (left != right)
  | "<" => pure (left < right)
  | ">" => pure (right < left)
  | "-nt" | "-ot" | "-ef" =>
      let a ← infoOf? left true
      let b ← infoOf? right true
      match operator, a, b with
      | "-nt", some _, none => pure missingIsOld
      | "-ot", none, some _ => pure missingIsOld
      | "-ef", some a, some b => pure (a.location = b.location)
      | _, _, _ => pure false
  | operator =>
      let a ← number left
      let b ← number right
      match operator with
      | "-eq" => pure (a = b)
      | "-ne" => pure (a ≠ b)
      | "-ge" => pure (b ≤ a)
      | "-gt" => pure (b < a)
      | "-le" => pure (a ≤ b)
      | _ => pure (a < b)

/-! ## The shell -/

namespace Spoken

/-- What a word is where a test may begin. -/
inductive Mark where
  | operand
  | unary (operator : String)
  | binary (operator : String)
  | negation
  | conjunction
  | disjunction
  | opening
  | closing
  | finish
deriving Repr, DecidableEq

/-- What the word at the front is. An operator in front of a word stands for itself where no word
follows, or where the next word is an operator between two. -/
def mark : List String → Mark
  | [] => .finish
  | word :: rest =>
      if word = "!" then .negation
      else if word = "-a" then .conjunction
      else if word = "-o" then .disjunction
      else if word = "(" then (if rest = [] then .operand else .opening)
      else if word = ")" then .closing
      else if binaryOperators.contains word then .binary word
      else if unaryOperators.contains word then
        match rest with
        | [] => .operand
        | [_] => .unary word
        | next :: _ => if binaryOperators.contains next then .operand else .unary word
      else .operand

/-- The number that a word spells. -/
def number (word : String) : Exam Int :=
  numberOf Shell.decimal? ("Illegal number: " ++ ·) word

/-- Goes over words. -/
def advance (count : Nat) : Exam Unit := modify (·.drop count)

mutual

/-- Reads conditions that are joined by "or", the first of which begins at a mark. -/
def disjunction : Nat → Mark → Exam Bool
  | 0, _ => pure false
  | fuel + 1, m => do
      let value ← conjunction fuel m
      let left ← get
      if mark (left.drop 1) = .disjunction then
        advance 2
        let next ← disjunction fuel (mark (← get))
        pure (value || next)
      else pure value

/-- Reads conditions that are joined by "and". -/
def conjunction : Nat → Mark → Exam Bool
  | 0, _ => pure false
  | fuel + 1, m => do
      let value ← negation fuel m
      let left ← get
      if mark (left.drop 1) = .conjunction then
        advance 2
        let next ← conjunction fuel (mark (← get))
        pure (value && next)
      else pure value

/-- Reads a condition with the negations in front of it. -/
def negation : Nat → Mark → Exam Bool
  | 0, _ => pure false
  | fuel + 1, m => do
      if m = .negation then
        let next := mark ((← get).drop 1)
        if next ≠ .finish then advance 1
        let value ← negation fuel next
        pure !value
      else primary fuel m

/-- Reads a single condition. Its last word stays. -/
def primary : Nat → Mark → Exam Bool
  | 0, _ => pure false
  | fuel + 1, m => do
      match m with
      | .finish => pure false
      | .opening =>
          advance 1
          let next := mark (← get)
          if next = .closing then pure false
          else
            let value ← disjunction fuel next
            advance 1
            if mark (← get) = .closing then pure value else refuse "closing paren expected"
      | .unary operator =>
          advance 1
          match ← get with
          | [] => refuse (operator ++ ": argument expected")
          | word :: _ =>
              match operator with
              | "-z" => pure (word = "")
              | "-n" => pure (word ≠ "")
              | "-t" => do
                  let _ ← number word
                  pure false
              | operator => fileQuestion operator word
      | _ =>
          match ← get with
          | word :: rest =>
              match mark rest with
              | .binary operator =>
                  match rest with
                  | _ :: right :: _ =>
                      advance 2
                      compare number false word operator right
                  | _ => refuse (operator ++ ": argument expected")
              | _ => pure (word ≠ "")
          | [] => pure false

end

/-- Reads the words of a test from the mark of the first one on. -/
def whole (negated : Bool) (m : Mark) : Exam Bool := do
  let value ← disjunction (4 * (← get).length + 8) m
  match ← get with
  | word :: _ :: _ =>
      refuse ((if word = "" then "" else word ++ ": ") ++ "unexpected operator")
  | _ => pure (value != negated)

/-- Reads the words of a test. With three or four words, parentheses around them and a negation in
front of them come before everything but an operator between two words. -/
def read : Nat → Bool → Exam Bool
  | 0, negated => do whole negated (mark (← get))
  | fuel + 1, negated => do
      let words ← get
      let count := words.length
      if words = [] then pure negated
      else if count = 3 && binaryOperators.contains (words.getD 1 "") then whole negated .operand
      else if count = 3 || count = 4 then
        if words.head? = some "(" && words.getLast? = some ")" then
          set (words.drop 1).dropLast
          read fuel negated
        else if words.head? = some "!" then
          set (words.drop 1)
          read fuel true
        else whole negated (mark words)
      else whole negated (mark words)

end Spoken

/-- A condition as the shell reads it. -/
def spoken (words : List String) : Routine (Except String Bool) := do
  match ← (Spoken.read 4 false).run words with
  | .ok (value, _) => pure (.ok value)
  | .error message => pure (.error message)

/-! ## The machine -/

namespace Counted

/-- The number that a word spells. -/
def number (word : String) : Exam Int :=
  numberOf (fun word =>
      let n := Shell.numeral false word.toList
      if n.found && n.rest.all (fun c => c = ' ' || c = '\t') then some n.value else none)
    (fun word => "invalid integer '" ++ word ++ "'") word

/-- The word is an operator between two words. -/
def isBinary (word : String) : Bool := word = "==" || binaryOperators.contains word

/-- The word is written like an operator in front of a word. -/
def isMarked (word : String) : Bool := word.length = 2 && word.toList.head? = some '-'

/-- A word is missing behind the last one. -/
def beyond {α : Type} (last : String) : Exam α := refuse ("missing argument after '" ++ last ++ "'")

/-- Takes one word. -/
def single : Exam Bool := do
  let words ← get
  set (words.drop 1)
  pure (words.head?.getD "" ≠ "")

/-- Takes two words with an operator between them. -/
def between : Exam Bool := do
  match ← get with
  | left :: operator :: right :: rest =>
      set rest
      compare number true left operator right
  | _ => pure false

/-- Takes an operator and the word behind it. -/
def unary (last : String) : Exam Bool := do
  match ← get with
  | operator :: rest =>
      if !unaryOperators.contains operator then
        refuse ("'" ++ operator ++ "': unary operator expected")
      else
        match rest with
        | [] => beyond last
        | word :: rest =>
            set rest
            match operator with
            | "-z" => pure (word = "")
            | "-n" => pure (word ≠ "")
            | "-t" => do
                let _ ← number word
                pure false
            | operator => fileQuestion operator word
  | [] => beyond last

mutual

/-- Reads so many words as a test. -/
def counted (last : String) : Nat → Nat → Exam Bool
  | 0, _ => pure false
  | fuel + 1, count => do
      let words ← get
      let first := words.head?.getD ""
      let second := words.getD 1 ""
      let skip : Exam Unit := modify (·.drop 1)
      match count with
      | 1 => single
      | 2 =>
          if first = "!" then
            skip
            pure !(← single)
          else if isMarked first then unary last
          else beyond last
      | 3 =>
          if isBinary second then between
          else if first = "!" then
            skip
            pure !(← counted last fuel 2)
          else if first = "(" && words.getD 2 "" = ")" then
            skip
            let value ← single
            skip
            pure value
          else if second = "-a" || second = "-o" then disjunction last fuel
          else refuse ("'" ++ second ++ "': binary operator expected")
      | 4 =>
          if first = "!" then
            skip
            pure !(← counted last fuel 3)
          else if first = "(" && words.getD 3 "" = ")" then
            skip
            let value ← counted last fuel 2
            skip
            pure value
          else disjunction last fuel
      | _ => disjunction last fuel

/-- Reads conditions that are joined by "or". -/
def disjunction (last : String) : Nat → Exam Bool
  | 0 => pure false
  | fuel + 1 => do
      let value ← conjunction last fuel
      match ← get with
      | "-o" :: rest =>
          set rest
          let next ← disjunction last fuel
          pure (value || next)
      | _ => pure value

/-- Reads conditions that are joined by "and". -/
def conjunction (last : String) : Nat → Exam Bool
  | 0 => pure false
  | fuel + 1 => do
      let value ← term last fuel
      match ← get with
      | "-a" :: rest =>
          set rest
          let next ← conjunction last fuel
          pure (value && next)
      | _ => pure value

/-- Reads a single condition with the negations in front of it. -/
def term (last : String) : Nat → Exam Bool
  | 0 => pure false
  | fuel + 1 => do
      match ← get with
      | [] => beyond last
      | "!" :: rest =>
          set rest
          pure !(← term last fuel)
      | "(" :: rest =>
          if rest = [] then beyond last
          else
            set rest
            let inner := 1 + ((rest.drop 1).takeWhile (· ≠ ")")).length
            let value ← counted last fuel (if inner > 4 then rest.length else inner)
            match ← get with
            | ")" :: rest =>
                set rest
                pure value
            | found :: _ => refuse ("')' expected, found '" ++ found ++ "'")
            | [] => refuse "')' expected"
      | word :: rest =>
          match rest with
          | operator :: _ :: _ =>
              if isBinary operator then between
              else if isMarked word then unary last
              else single
          | _ => if isMarked word then unary last else single

end

/-- Reads all words as a test. -/
def all : Exam Bool := do
  let words ← get
  if words = [] then pure false
  else
    let last := words.getLast?.getD ""
    let value ← counted last (6 * words.length + 8) words.length
    match ← get with
    | extra :: _ => refuse ("extra argument '" ++ extra ++ "'")
    | [] => pure value

end Counted

/-- A condition as the machine reads it. -/
def counted (words : List String) : Routine (Except String Bool) := do
  match ← Counted.all.run words with
  | .ok (value, _) => pure (.ok value)
  | .error message => pure (.error message)

end HostFlash.Utility.Condition
