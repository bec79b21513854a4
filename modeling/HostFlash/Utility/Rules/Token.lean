import HostFlash.Utility.Escape
import HostFlash.Utility.Rules.Value

/-! # The words of a program of rules

The text of a program is cut into tokens. A slash begins a regular expression where no value stands
in front of it.
-/

namespace HostFlash.Utility.Rules

/-- What is wrong with a program, and the line that it is wrong in. -/
structure Fault where
  line : Nat
  message : String
deriving Repr, DecidableEq

/-- What is said about a fault. -/
def Fault.text (f : Fault) : String :=
  (if f.message.startsWith "unexpected" then "" else "line ") ++ toString f.line ++ ": " ++
    f.message

/-- A token. -/
inductive Token where
  | number (x : Float)
  | text (s : String)
  /-- A regular expression as it is written. -/
  | regex (source : String)
  | name (s : String)
  /-- A name with a parenthesis right behind it. -/
  | callee (s : String)
  | builtin (s : String)
  | keyword (s : String)
  | mark (s : String)
  | lineEnd
deriving Repr

namespace Token

/-- The token is this mark. -/
def isMark (t : Token) (s : String) : Bool :=
  match t with
  | .mark m => m = s
  | _ => false

/-- The token is this keyword. -/
def isKeyword (t : Token) (s : String) : Bool :=
  match t with
  | .keyword k => k = s
  | _ => false

/-- How a token is shown. -/
def shown : Token → String
  | number x => Value.toText "%.6g" (.number x)
  | text s => s
  | regex s => "/" ++ s ++ "/"
  | name s | callee s | builtin s | keyword s | mark s => s
  | lineEnd => "end of line"

/-- A value may end in the token, so that a slash behind it divides. -/
def endsValue : Token → Bool
  | number _ | text _ | name _ | builtin _ | regex _ => true
  | mark s => [")", "]", "++", "--"].contains s
  | _ => false

/-- The words that are no names. -/
def keywords : List String :=
  ["BEGIN", "END", "function", "if", "else", "while", "for", "do", "break", "continue",
   "next", "nextfile", "exit", "return", "delete", "in", "getline", "print", "printf"]

/-- The functions that there are. -/
def builtins : List String :=
  ["length", "substr", "index", "split", "sub", "gsub", "match", "sprintf", "sin", "cos", "atan2",
   "exp", "log", "sqrt", "int", "rand", "srand", "tolower", "toupper", "system", "close", "fflush"]

/-- The marks, longer ones first. -/
def marks : List String :=
  ["&&", "||", "!~", "==", "<=", ">=", "!=", "++", "--", "+=", "-=", "*=", "/=", "%=", "^=", ">>",
   "\x7b", "\x7d", "(", ")", "[", "]", ";", ",", "+", "-", "*", "/", "%", "^", "!", ">", "<", "|",
   "?", ":", "~", "$", "="]

/-- The character that an escape in a text stands for, and the rest. A backslash that escapes
nothing stays. -/
def textEscape : List Char → List Char × List Char
  | [] => (['\\'], [])
  | c :: rest =>
      match if c = 'e' then none else letterEscape? c with
      | some d => ([d], rest)
      | none =>
          if c = '"' || c = '\\' then ([c], rest)
          else if c = 'x' && (rest.head?.bind hexDigit?).isSome then
            let digits := (rest.take 2).takeWhile fun d => (hexDigit? d).isSome
            let n := digits.foldl (fun n d => n * 16 + (hexDigit? d).getD 0) 0
            ([byteChar n], rest.drop digits.length)
          else if '0' ≤ c && c ≤ '7' then
            let digits := ((c :: rest).take 3).takeWhile fun d => '0' ≤ d && d ≤ '7'
            ([byteChar (Nat.ofDigitChars 8 digits 0)], (c :: rest).drop digits.length)
          else (['\\', c], rest)

/-- A text behind its first quote, and the rest. The fuel is a bound on the characters. -/
def readText : Nat → List Char → Option (List Char × List Char)
  | 0, _ | _, [] => none
  | _ + 1, '"' :: rest => some ([], rest)
  | _ + 1, '\n' :: _ => none
  | fuel + 1, '\\' :: '\n' :: rest => readText fuel rest
  | fuel + 1, '\\' :: rest =>
      let (cs, rest) := textEscape rest
      (readText fuel rest).map fun (more, rest) => (cs ++ more, rest)
  | fuel + 1, c :: rest => (readText fuel rest).map fun (more, rest) => (c :: more, rest)

/-- A text with its escapes taken for what they stand for. The fuel is a bound on the
characters. -/
def unescape : Nat → List Char → List Char
  | 0, _ | _, [] => []
  | fuel + 1, '\\' :: rest =>
      let (cs, rest) := textEscape rest
      cs ++ unescape fuel rest
  | fuel + 1, c :: rest => c :: unescape fuel rest

/-- A regular expression behind its first slash, and the rest. -/
def readRegex : List Char → Option (List Char × List Char)
  | [] | '\n' :: _ => none
  | '/' :: rest => some ([], rest)
  | '\\' :: '/' :: rest => (readRegex rest).map fun (more, rest) => ('/' :: more, rest)
  | '\\' :: c :: rest => (readRegex rest).map fun (more, rest) => ('\\' :: c :: more, rest)
  | c :: rest => (readRegex rest).map fun (more, rest) => (c :: more, rest)

/-- A character of names. -/
def isNameChar (c : Char) : Bool := c.isAlphanum || c = '_'

/-- The token of a word. -/
def ofWord (word : String) (rest : List Char) : Token :=
  if keywords.contains word then .keyword word
  else if builtins.contains word then .builtin word
  else if rest.head? = some '(' then .callee word
  else .name word

/-- The tokens of a text, each with its line. A slash divides behind a value. The fuel is a bound on
the characters. -/
def tokens : Nat → (line : Nat) → (behindValue : Bool) → List Char →
    Except Fault (List (Token × Nat))
  | 0, _, _, _ | _, _, _, [] => .ok []
  | fuel + 1, line, behindValue, c :: rest =>
      let put (t : Token) (rest : List Char) : Except Fault (List (Token × Nat)) :=
        (tokens fuel line t.endsValue rest).map ((t, line) :: ·)
      if c = ' ' || c = '\t' || c = '\r' then tokens fuel line behindValue rest
      else if c = '\n' then
        (tokens fuel (line + 1) false rest).map ((.lineEnd, line) :: ·)
      else if c = '\\' && rest.head? = some '\n' then
        tokens fuel (line + 1) behindValue rest.tail
      else if c = '#' then tokens fuel line behindValue (rest.dropWhile (· ≠ '\n'))
      else if c = '"' then
        match readText (rest.length + 1) rest with
        | some (cs, rest) => put (.text (String.ofList cs)) rest
        | none =>
            .error ⟨line, "runaway string constant \"" ++ String.ofList (rest.take 10) ++ " ..."⟩
      else if c.isDigit || (c = '.' && (rest.head?.map Char.isDigit).getD false) then
        -- A number in a program has base ten.
        let digits := (c :: rest).takeWhile Char.isDigit
        if digits = ['0'] && (rest.head? = some 'x' || rest.head? = some 'X') then
          put (.number 0) rest
        else
          match readUnsigned (c :: rest) with
          | some (x, rest) => put (.number x) rest
          | none => .error ⟨line, "syntax error at or near " ++ String.singleton c⟩
      else if c.isAlpha || c = '_' then
        let word := (c :: rest).takeWhile isNameChar
        let rest := (c :: rest).drop word.length
        put (ofWord (String.ofList word) rest) rest
      else if c = '/' && !behindValue then
        match readRegex rest with
        | some (cs, rest) => put (.regex (String.ofList cs)) rest
        | none =>
            .error ⟨line, "runaway regular expression /" ++ String.ofList (rest.take 10) ++ " ..."⟩
      else
        match marks.find? fun m => m.toList.isPrefixOf (c :: rest) with
        | some m => put (.mark m) ((c :: rest).drop m.length)
        | none => .error ⟨line, "unexpected character '" ++ String.singleton c ++ "'"⟩

end Token

/-! ## Regular expressions -/

/-- The character that an escape in a regular expression stands for, and the rest. -/
def regexEscape : List Char → Char × List Char
  | [] => ('\\', [])
  | c :: rest =>
      match if c = 'e' then none else letterEscape? c with
      | some d => (d, rest)
      | none =>
          if '0' ≤ c && c ≤ '7' then
            let digits := ((c :: rest).take 3).takeWhile fun d => '0' ≤ d && d ≤ '7'
            (byteChar (Nat.ofDigitChars 8 digits 0), (c :: rest).drop digits.length)
          else (c, rest)

/-- The members of a bracket, of which those that were escaped are apart, and the rest. The fuel is
a bound on the characters. -/
def bracketBody : Nat → List Char → Option (List Char × List Char × List Char)
  | 0, _ | _, [] => none
  | _ + 1, ']' :: rest => some ([], [], rest)
  | fuel + 1, '[' :: ':' :: rest =>
      let name := rest.takeWhile fun c => c ≠ ':' && c ≠ ']'
      match rest.drop name.length with
      | ':' :: ']' :: behind =>
          (bracketBody fuel behind).map fun (plain, apart, rest) =>
            ('[' :: ':' :: name ++ [':', ']'] ++ plain, apart, rest)
      | _ =>
          (bracketBody fuel (':' :: rest)).map fun (plain, apart, rest) =>
            ('[' :: plain, apart, rest)
  | fuel + 1, '\\' :: rest =>
      let (c, rest) := regexEscape rest
      (bracketBody fuel rest).map fun (plain, apart, rest) =>
        if [']', '-', '^', '['].contains c then (plain, c :: apart, rest)
        else (c :: plain, apart, rest)
  | fuel + 1, c :: rest =>
      (bracketBody fuel rest).map fun (plain, apart, rest) => (c :: plain, apart, rest)

/-- A bracket in which no escapes are left. -/
def plainBracket (negated : Bool) (plain apart : List Char) : List Char :=
  let first := if apart.contains ']' then [']'] else []
  let last := apart.filter (· ≠ ']')
  let last := last.filter (· ≠ '-') ++ last.filter (· = '-')
  '[' :: (if negated then ['^'] else []) ++ first ++ plain ++ last ++ [']']

/-- The interval behind its brace, with its brace at the end, and the rest. -/
def intervalBody (cs : List Char) : Option (List Char × List Char) :=
  let body := cs.takeWhile fun c => c.isDigit || c = ','
  match cs.drop body.length with
  | '\x7d' :: rest =>
      if body ≠ [] && body ≠ [','] && body.count ',' ≤ 1 then some (body ++ ['\x7d'], rest)
      else none
  | _ => none

/-- What stands in front of a part of a regular expression. -/
inductive Behind where
  | nothing
  | lineStart
  | operand
deriving Repr, DecidableEq

/-- What is wrong with an operator behind something. -/
def Behind.fault? : Behind → Option String
  | nothing => some "missing operand"
  | lineStart => some "syntax error ^* or ^+"
  | operand => none

/-- A regular expression in which only characters that mean something are escaped, or what is wrong
with it. The depth is that of parentheses, and the fuel is a bound on the characters. -/
def plainRegex : Nat → (depth : Nat) → Behind → List Char → Except String (List Char)
  | 0, _, _, _ => .ok []
  | _ + 1, depth, behind, [] =>
      if depth > 0 then .error "missing ')'"
      else if behind = .nothing then .error "missing operand"
      else .ok []
  | fuel + 1, depth, behind, c :: rest =>
      let operand (cs rest : List Char) : Except String (List Char) :=
        (plainRegex fuel depth .operand rest).map (cs ++ ·)
      match c with
      | '\\' =>
          let (c, rest) := regexEscape rest
          if "\\.[]()\x7b\x7d*+?^$|".toList.contains c then operand ['\\', c] rest
          else operand [c] rest
      | '[' =>
          let negated := rest.head? = some '^'
          let body := if negated then rest.tail else rest
          let (first, body) := match body with
            | ']' :: body => ([']'], body)
            | body => ([], body)
          match bracketBody (body.length + 1) body with
          | some (plain, apart, rest) => operand (plainBracket negated plain (first ++ apart)) rest
          | none => .error "bad class -- [], [^] or ["
      | '(' => (plainRegex fuel (depth + 1) .nothing rest).map ('(' :: ·)
      | ')' =>
          if depth = 0 then operand ['\\', ')'] rest
          else if behind = .nothing then .error "missing operand"
          else (plainRegex fuel (depth - 1) .operand rest).map (')' :: ·)
      | '|' =>
          if behind = .nothing then .error "missing operand"
          else (plainRegex fuel depth .nothing rest).map ('|' :: ·)
      | '^' => (plainRegex fuel depth .lineStart rest).map ('^' :: ·)
      | '\x7b' =>
          match intervalBody rest with
          | some (body, rest) =>
              match behind.fault? with
              | some fault => .error fault
              | none => operand ('\x7b' :: body) rest
          | none => operand ['\\', '\x7b'] rest
      | c =>
          if c = '*' || c = '+' || c = '?' then
            match behind.fault? with
            | some fault => .error fault
            | none => operand [c] rest
          else operand [c] rest

/-- What is said about a text that is no regular expression. -/
def regexFault (reason source : String) : String :=
  "regular expression compile failed (" ++ reason ++ ")\n" ++ source

/-- The regular expression of a text. -/
def regexOf (source : String) : Except String Text.Regex := do
  let plain ←
    if source = "" then pure []
    else plainRegex (source.length + 1) 0 .nothing source.toList
  match Text.Regex.read? ⟨true, true⟩ (String.ofList plain) with
  | .ok r => pure r
  | .error _ => throw "missing operand"

end HostFlash.Utility.Rules
