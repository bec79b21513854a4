import HostFlash.Text.Class

/-! # Regular expressions

Patterns for texts in their basic and their extended form, and the longest match of a pattern at a
place. `ends` gives all places where matches end that begin at one of several places; `trace` finds
the parts of a match that belong to the groups of the pattern. Of the matches that begin at a place
the longest counts, and the first place with a match counts.
-/

namespace HostFlash.Text

/-- A regular expression. -/
inductive Regex where
  | empty
  | char (c : Char)
  | any
  | oneOf (negated : Bool) (members : List Member)
  | lineStart
  | lineEnd
  | wordStart
  | wordEnd
  /-- A place between a word and something else, or with `inverted` any other place. -/
  | wordEdge (inverted : Bool)
  | seq (first second : Regex)
  | alt (first second : Regex)
  | group (number : Nat) (body : Regex)
  | loop (body : Regex) (least : Nat) (most : Option Nat)
  /-- The text of a group once more. -/
  | back (number : Nat)
deriving Repr

namespace Regex

/-- How texts are matched. -/
structure Matching where
  text : Array Char
  /-- Upper and lower case are the same. -/
  folded : Bool
  /-- Lines begin and end also inside of the text. -/
  manyLines : Bool

variable (m : Matching)

/-- A character of words. -/
def isWordChar (c : Char) : Bool := c.isAlphanum || c = '_'

/-- There is a character of a word at a place. -/
def isWordAt (i : Nat) : Bool := ((m.text[i]?).map isWordChar).getD false

/-- There is a character of a word in front of a place. -/
def isWordBefore (i : Nat) : Bool := i ≠ 0 && isWordAt m (i - 1)

/-- A line begins at a place. -/
def startsLine (i : Nat) : Bool := i = 0 || (m.manyLines && m.text[i - 1]? == some '\n')

/-- A line ends at a place. -/
def endsLine (i : Nat) : Bool := i = m.text.size || (m.manyLines && m.text[i]? == some '\n')

/-- Characters are the same. -/
def isSame (a b : Char) : Bool := a == b || (m.folded && a.toLower == b.toLower)

/-- A character is in a set. -/
def isIn (negated : Bool) (members : List Member) (c : Char) : Bool :=
  let inside := members.any (·.has c) ||
    (m.folded && members.any fun x => x.has c.toLower || x.has c.toUpper)
  inside != negated

/-- A pattern for one character or for a place: whether it fits, and how long it is. -/
def single (i : Nat) : Regex → Option Nat
  | empty => some 0
  | char c => if ((m.text[i]?).map (isSame m c)).getD false then some 1 else none
  | any => if i < m.text.size then some 1 else none
  | oneOf negated members =>
      if ((m.text[i]?).map (isIn m negated members)).getD false then some 1 else none
  | lineStart => if startsLine m i then some 0 else none
  | lineEnd => if endsLine m i then some 0 else none
  | wordStart => if !isWordBefore m i && isWordAt m i then some 0 else none
  | wordEnd => if isWordBefore m i && !isWordAt m i then some 0 else none
  | wordEdge inverted =>
      if (isWordBefore m i != isWordAt m i) != inverted then some 0 else none
  | _ => none

/-- Places in order, put together. -/
def merge : Nat → List Nat → List Nat → List Nat
  | 0, xs, _ => xs
  | _ + 1, [], ys => ys
  | _ + 1, xs, [] => xs
  | fuel + 1, x :: xs, y :: ys =>
      if x < y then x :: merge fuel xs (y :: ys)
      else if y < x then y :: merge fuel (x :: xs) ys
      else x :: merge fuel xs ys

/-- Places in order, put together. -/
def union (xs ys : List Nat) : List Nat := merge (xs.length + ys.length + 1) xs ys

/-- The places that are reached from others in any number of steps. The fuel is a bound on the
number of places. -/
def closure (step : List Nat → List Nat) : Nat → List Nat → List Nat → List Nat
  | 0, all, _ => all
  | fuel + 1, all, fresh =>
      let next := (step fresh).filter fun i => !all.contains i
      if next.isEmpty then all else closure step fuel (union all next) next

/-- The places that are reached in at most so many steps. -/
def within (step : List Nat → List Nat) : Nat → List Nat → List Nat
  | 0, all => all
  | n + 1, all =>
      let next := union all (step all)
      if next.length = all.length then all else within step n next

/-- Steps taken so many times. -/
def times (step : List Nat → List Nat) : Nat → List Nat → List Nat
  | 0, places => places
  | n + 1, places => if places.isEmpty then [] else times step n (step places)

/-- The places where matches end that begin at one of several places. -/
def ends : Regex → List Nat → List Nat
  | seq a b, places => ends b (ends a places)
  | alt a b, places => union (ends a places) (ends b places)
  | group _ r, places => ends r places
  | loop r least most, places =>
      let start := times (ends r) least places
      match most with
      | none => closure (ends r) (m.text.size + 1) start start
      | some most => within (ends r) (most - least) start
  | r, places => places.filterMap fun i => (single m i r).map (i + ·)

/-- Where the groups of a pattern begin and end in a match. -/
abbrev Groups := List (Nat × Nat × Nat)

/-- Goes through a loop as often as it can be, and less often if nothing else fits. The fuel is a
bound on the number of rounds that get on. -/
def iterate {α : Type} (step : Nat → Groups → (Nat → Groups → Option α) → Option α)
    (next : Nat → Groups → Option α) : Nat → Nat → Option Nat → Nat → Groups → Option α
  | 0, _, _, i, g => next i g
  | fuel + 1, least, most, i, g =>
      let further : Option α :=
        if most = some 0 then none
        else step i g fun j g =>
          if j = i then none
          else iterate step next fuel (least - 1) (most.map (· - 1)) j g
      match further with
      | some found => some found
      | none => if least = 0 then next i g else step i g next

/-- The text that a group stands for comes once more. -/
def again (from' until' i : Nat) : Bool :=
  (List.range (until' - from')).all fun k =>
    match m.text[from' + k]?, m.text[i + k]? with
    | some a, some b => isSame m a b
    | _, _ => false

/-- Matches a pattern from a place on, and goes on behind it. -/
def trace {α : Type} : Regex → Nat → Groups → (Nat → Groups → Option α) → Option α
  | seq a b, i, g, next => trace a i g fun j g => trace b j g next
  | alt a b, i, g, next =>
      match trace a i g next with
      | some found => some found
      | none => trace b i g next
  | group n r, i, g, next =>
      trace r i g fun j g => next j ((n, i, j) :: g.filter (·.1 ≠ n))
  | loop r least most, i, g, next =>
      iterate (trace r) next (m.text.size + least + 1) least most i g
  | back n, i, g, next =>
      match g.find? (·.1 = n) with
      | some (_, from', until') =>
          if again m from' until' i then next (i + (until' - from')) g else none
      | none => none
  | r, i, g, next => (single m i r).bind fun n => next (i + n) g

/-- The pattern asks for the text of a group. -/
def hasBack : Regex → Bool
  | seq a b | alt a b => a.hasBack || b.hasBack
  | group _ r | loop r _ _ => r.hasBack
  | back _ => true
  | _ => false

/-- The number of groups. -/
def groupCount : Regex → Nat
  | seq a b | alt a b => max a.groupCount b.groupCount
  | group n r => max n r.groupCount
  | loop r _ _ => r.groupCount
  | _ => 0

/-- The end of the longest match at a place of those that end well. -/
def matchWhere (good : Nat → Bool) (r : Regex) (i : Nat) : Option Nat :=
  if r.hasBack then trace m r i [] fun j _ => if good j then some j else none
  else ((ends m r [i]).filter good).getLast?

/-- The end of the longest match at a place. -/
def matchAt (r : Regex) (i : Nat) : Option Nat := matchWhere m (fun _ => true) r i

/-- The first match from a place on, with its begin and its end. The fuel is a bound on the number
of places. -/
def find (r : Regex) : Nat → Nat → Option (Nat × Nat)
  | 0, _ => none
  | fuel + 1, i =>
      match matchAt m r i with
      | some j => some (i, j)
      | none => if i < m.text.size then find r fuel (i + 1) else none

/-- The first match from a place on. -/
def find? (r : Regex) (i : Nat) : Option (Nat × Nat) := find m r (m.text.size + 1) i

/-- The groups of a match that begins and ends at these places. -/
def groupsOf (r : Regex) (i j : Nat) : Groups :=
  (trace m r i [] fun k g => if k = j then some g else none).getD []

/-! ## Reading -/

/-- How patterns are written. -/
structure Dialect where
  /-- Parentheses, braces and bars have their meaning without a backslash. -/
  extended : Bool
  /-- A repetition of nothing, or of a repetition, and a parenthesis that closes nothing are not
  refused. -/
  lenient : Bool
deriving Repr, DecidableEq

/-- What a pattern is read with. -/
structure Reading where
  dialect : Dialect
  rest : List Char
  groups : Nat
  depth : Nat

/-- Something that reads a pattern. -/
abbrev Read := StateT Reading (Except String)

/-- The pattern is read in the extended form. -/
def Reading.extended (s : Reading) : Bool := s.dialect.extended

/-- The members in brackets, of which the first may be the closing one. The fuel is a bound on the
characters. -/
def members : Nat → Bool → List Char → Except String (List Member × List Char)
  | 0, _, _ => .error "Unmatched [, [^, [:, [., or [="
  | _ + 1, _, [] => .error "Unmatched [, [^, [:, [., or [="
  | fuel + 1, first, c :: rest =>
      if c = ']' && !first then .ok ([], rest)
      else
        let single : Except String (List Member × List Char) :=
          match rest with
          | '-' :: d :: behind =>
              if d = ']' then
                (members fuel false rest).map fun (ms, rest) => (.range c c :: ms, rest)
              else if d < c then .error "Invalid range end"
              else (members fuel false behind).map fun (ms, rest) => (.range c d :: ms, rest)
          | rest => (members fuel false rest).map fun (ms, rest) => (.range c c :: ms, rest)
        if c = '[' then
          match className? rest with
          | some (name, behind) =>
              if (class? name).isNone then .error "Invalid character class name"
              else (members fuel false behind).map fun (ms, rest) => (.named name :: ms, rest)
          | none =>
              match rest with
              | '=' :: a :: '=' :: ']' :: behind | '.' :: a :: '.' :: ']' :: behind =>
                  (members fuel false behind).map fun (ms, rest) => (.range a a :: ms, rest)
              | _ => single
        else single

/-- A set behind its opening bracket. -/
def bracket (cs : List Char) : Except String (Regex × List Char) := do
  if cs = [] then throw "Invalid regular expression"
  let (negated, inner) := match cs with
    | '^' :: inner => (true, inner)
    | inner => (false, inner)
  (members (inner.length + 1) true inner).map fun (ms, rest) => (oneOf negated ms, rest)

/-- The numbers of an interval behind its opening brace, with the rest behind its end. -/
def interval? (close cs : List Char) : Option (Nat × Option Nat × List Char) :=
  let low := cs.takeWhile Char.isDigit
  let rest := cs.drop low.length
  let number (digits : List Char) : Nat := Nat.ofDigitChars 10 digits 0
  let finish (least : Nat) (most : Option Nat) (rest : List Char) :
      Option (Nat × Option Nat × List Char) :=
    if close.isPrefixOf rest then some (least, most, rest.drop close.length) else none
  match rest with
  | ',' :: rest =>
      let high := rest.takeWhile Char.isDigit
      finish (number low) (if high = [] then none else some (number high)) (rest.drop high.length)
  | rest => if low = [] then none else finish (number low) (some (number low)) rest

/-- Sets what is left of a pattern. -/
def leave (rest : List Char) : Read Unit := modify fun s => { s with rest := rest }

/-- What is wrong with an interval, of which this is left behind the brace. -/
def intervalFault (rest : List Char) : String :=
  if rest.contains '\x7d' then "Invalid content of \\\x7b\\\x7d" else "Unmatched \\\x7b"

/-- The repetition at the front of a text, with what is left behind it. -/
def repetition? (d : Dialect) :
    List Char → Except String (Option (Nat × Option Nat × List Char))
  | '*' :: rest => .ok (some (0, none, rest))
  | '+' :: rest => .ok (if d.extended then some (1, none, rest) else none)
  | '?' :: rest => .ok (if d.extended then some (0, some 1, rest) else none)
  | '\x7b' :: rest =>
      if !d.extended then .ok none
      else
        match interval? ['\x7d'] rest with
        | some found => .ok (some found)
        | none => if d.lenient then .ok none else .error (intervalFault rest)
  | '\\' :: c :: rest =>
      if d.extended then .ok none
      else if c = '+' then .ok (some (1, none, rest))
      else if c = '?' then .ok (some (0, some 1, rest))
      else if c = '\x7b' then
        match interval? ['\\', '\x7d'] rest with
        | some found => .ok (some found)
        | none => .error (intervalFault rest)
      else .ok none
  | _ => .ok none

/-- The refusal of a repetition that has nothing to repeat. -/
def nothingRepeated : String := "Invalid preceding regular expression"

/-- A repetition begins here that must not stand behind another one. -/
def startsAgain (d : Dialect) (rest : List Char) : Bool :=
  !d.extended && !d.lenient &&
    match rest with
    | '*' :: _ | '\\' :: '\x7b' :: _ => true
    | _ => false

/-- The greatest number of repetitions. -/
def mostRepetitions : Nat := 32767

/-- The repetitions behind a part of a pattern. The fuel is a bound on the characters. -/
def repetitions : Nat → Regex → Read Regex
  | 0, r => pure r
  | fuel + 1, r => do
      let s ← get
      match repetition? s.dialect s.rest with
      | .error e => throw e
      | .ok none => pure r
      | .ok (some (least, most, rest)) => do
          if most.any (· < least) then throw "Invalid content of \\\x7b\\\x7d"
          if max least (most.getD 0) > mostRepetitions then throw "Regular expression too big"
          if startsAgain s.dialect rest then throw nothingRepeated
          leave rest
          repetitions fuel (loop r least most)

/-- What a letter behind a backslash stands for besides itself. -/
def escaped? (c : Char) : Option Regex :=
  match c with
  | 'w' => some (oneOf false [.named "alnum", .range '_' '_'])
  | 'W' => some (oneOf true [.named "alnum", .range '_' '_'])
  | 's' => some (oneOf false [.named "space"])
  | 'S' => some (oneOf true [.named "space"])
  | '<' => some wordStart
  | '>' => some wordEnd
  | 'b' => some (wordEdge false)
  | 'B' => some (wordEdge true)
  | '\x60' => some lineStart
  | '\'' => some lineEnd
  | 'n' => some (char '\n')
  | 't' => some (char '\t')
  | _ => none

/-- The pattern ends here, or a part of it does. -/
def atEnd (s : Reading) : Bool :=
  match s.extended, s.rest with
  | _, [] => true
  | true, '|' :: _ => true
  | true, ')' :: _ => s.depth ≠ 0 || !s.dialect.lenient
  | false, '\\' :: '|' :: _ => true
  | false, '\\' :: ')' :: _ => true
  | _, _ => false

mutual

/-- Reads a choice between patterns. -/
def choice : Nat → Read Regex
  | 0 => throw "Regular expression too big"
  | fuel + 1 => do
      let first ← sequence fuel true empty
      let s ← get
      match s.extended, s.rest with
      | true, '|' :: rest | false, '\\' :: '|' :: rest => do
          leave rest
          pure (alt first (← choice fuel))
      | _, _ => pure first

/-- Reads parts of a pattern behind others. -/
def sequence : Nat → Bool → Regex → Read Regex
  | 0, _, _ => throw "Regular expression too big"
  | fuel + 1, first, before => do
      if atEnd (← get) then pure before
      else
        let (part, isPlace) ← atom fuel first
        let part ← if isPlace && first then pure part else
          repetitions ((← get).rest.length + 1) part
        let whole := match before with
          | empty => part
          | before => seq before part
        sequence fuel (first && isPlace && !(← get).extended) whole

/-- Reads one part of a pattern, with the answer whether it is the begin of a line. -/
def atom : Nat → Bool → Read (Regex × Bool)
  | 0, _ => throw "Regular expression too big"
  | fuel + 1, first => do
      let s ← get
      let open' (rest : List Char) : Read (Regex × Bool) := do
        let number := s.groups + 1
        set { s with rest := rest, groups := number, depth := s.depth + 1 }
        let inner ← choice fuel
        let now ← get
        match s.extended, now.rest with
        | true, ')' :: rest | false, '\\' :: ')' :: rest => do
            set { now with rest := rest, depth := s.depth }
            pure (group number inner, false)
        | _, _ => throw "Unmatched ( or \\("
      match s.extended, s.rest with
      | _, [] => pure (empty, false)
      | _, '[' :: rest =>
          match bracket rest with
          | .error e => throw e
          | .ok (r, rest) => do
              leave rest
              pure (r, false)
      | _, '.' :: rest => do
          leave rest
          pure (any, false)
      | true, '(' :: rest => open' rest
      | false, '\\' :: '(' :: rest => open' rest
      | false, '\\' :: ')' :: _ => throw "Unmatched ) or \\)"
      | true, '*' :: rest | true, '+' :: rest | true, '?' :: rest => do
          if !s.dialect.lenient then throw nothingRepeated
          leave rest
          pure (empty, true)
      | true, '\x7b' :: rest => do
          if !s.dialect.lenient then throw nothingRepeated
          leave rest
          pure (if (interval? ['\x7d'] rest).isSome then (empty, true) else (char '\x7b', false))
      | extended, '^' :: rest => do
          leave rest
          if extended || first then pure (lineStart, true) else pure (char '^', false)
      | true, '$' :: rest => do
          leave rest
          pure (lineEnd, false)
      | false, '$' :: rest => do
          leave rest
          if atEnd (← get) then pure (lineEnd, false) else pure (char '$', false)
      | _, '\\' :: [] => throw "Trailing backslash"
      | _, '\\' :: c :: rest => do
          if c = '\x7b' && !s.extended && !s.dialect.lenient then throw nothingRepeated
          leave rest
          if c.isDigit && c ≠ '0' then
            let number := c.toNat - 48
            if number > s.groups then throw "Invalid back reference"
            pure (back number, false)
          else pure ((escaped? c).getD (char c), false)
      | _, c :: rest => do
          leave rest
          pure (char c, false)

end

/-- Reads a pattern. -/
def read? (d : Dialect) (text : String) : Except String Regex :=
  match (choice (10 * text.length + 20)).run ⟨d, text.toList, 0, 0⟩ with
  | .error e => .error e
  | .ok (r, s) => if s.rest = [] then .ok r else .error "Unmatched ) or \\)"

/-- The pattern that a text fits only as it is. -/
def literal (text : String) : Regex :=
  text.toList.foldr (fun c r => match r with
    | empty => char c
    | r => seq (char c) r) empty

end Regex

end HostFlash.Text
