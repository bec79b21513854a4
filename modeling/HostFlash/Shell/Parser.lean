import HostFlash.Shell.Source

/-! # Reading scripts

The commands that the text of a script stands for. A script is read line by line, so that what
stands above a mistake has run before the mistake is met; `nextCommand` reads as many lines as the
next command needs. The fuel of the mutual functions is a bound on their nesting.
-/

namespace HostFlash.Shell

/-- What a word is read within, which says what ends it and what its characters mean. -/
inductive Within where
  | script
  | braces
  | quotes
  | quotedBraces
  | document
  | arithmetic
deriving Repr, DecidableEq

/-- Quotes around a word keep most of its characters from meaning anything. -/
def Within.isQuoted : Within → Bool
  | .script | .braces => false
  | _ => true

/-- A character that ends a word outside of quotes. -/
def endsWord (c : Char) : Bool :=
  c = ' ' || c = '\t' || c = '\n' || c = ';' || c = '&' || c = '|' || c = '<' || c = '>' ||
    c = '(' || c = ')'

/-- The name of a parameter that is a single mark. -/
def isSpecial (c : Char) : Bool :=
  c = '@' || c = '*' || c = '#' || c = '?' || c = '$' || c = '!' || c = '-'

/-- One character more behind parts that are held newest first. -/
def pushChar (c : Char) (quoted : Bool) : List Part → List Part
  | .text value q :: rest =>
      if q = quoted then .text (value.push c) q :: rest
      else .text (String.singleton c) quoted :: .text value q :: rest
  | parts => .text (String.singleton c) quoted :: parts

/-- The text of a word without its quotes, and whether there were any. -/
def withoutQuotes (word : Word) : String × Bool :=
  (String.join (word.map fun | .text value _ => value | _ => ""),
    word.any fun | .text _ quoted => quoted | _ => false)

/-- The words that end a list of commands. -/
def endsList : Token → Bool
  | .finish => true
  | .operator text => text = ")" || text = ";;"
  | .reserved name =>
      ["do", "done", "elif", "else", "esac", "fi", "then", "\x7d"].contains name
  | _ => false

/-- The commands that belong to the language itself, whose names no function can have. -/
def specialCommands : List String :=
  [".", ":", "break", "continue", "eval", "exec", "exit", "export", "readonly", "return", "set",
   "shift", "times", "trap", "unset"]

/-- What a token is read with: whether line ends are passed over, and whether reserved words and
aliases are looked for. -/
structure Looking where
  newlines : Bool
  reserved : Bool
  aliases : Bool
deriving Repr, DecidableEq

namespace Looking

/-- For a token where a command may begin, on this line or below. -/
def command : Looking := ⟨true, true, true⟩

/-- For a token where a command may begin on this line. -/
def commandHere : Looking := ⟨false, true, true⟩

/-- For any token. -/
def plain : Looking := ⟨false, false, false⟩

end Looking

/-- What a list of commands is read for. -/
inductive ListKind where
  /-- One line of a script. -/
  | line
  /-- The body of a command. -/
  | body
  /-- A body that may be empty. -/
  | optional
deriving Repr, DecidableEq

/-- Two commands one after the other. -/
def inSequence : Option Command → Command → Command
  | none, c => c
  | some a, c => .sequence a c

/-- The last token that was read is none that may stand there. -/
def unexpected {α : Type} (t : Token) : Scan α := Scan.fail (t.text ++ " unexpected")

/-- The last token that was read is not the one that must stand there. -/
def unexpectedFor {α : Type} (t : Token) (expected : String) : Scan α :=
  Scan.fail (t.text ++ " unexpected (expecting \"" ++ expected ++ "\")")

/-- Gives a token back. -/
def pushToken (t : Token) : Scan Unit := modify fun s => { s with pushed := some t }

/-- Goes over blanks. -/
def skipBlanks : Nat → Scan Unit
  | 0 => pure ()
  | fuel + 1 => do
      match ← Scan.peek? with
      | some c =>
          if c = ' ' || c = '\t' then
            let _ ← Scan.next?
            skipBlanks fuel
          else pure ()
      | none => pure ()

/-- The rest of a redirection behind its first mark. -/
def redirection (descriptor? : Option Nat) (mark : Char) : Scan Token := do
  if mark = '>' then
    let n := descriptor?.getD 1
    if ← Scan.accept '>' then pure (.redirect n .append)
    else if ← Scan.accept '|' then pure (.redirect n .overwrite)
    else if ← Scan.accept '&' then pure (.redirect n .duplicate)
    else pure (.redirect n .output)
  else
    let n := descriptor?.getD 0
    if ← Scan.accept '<' then pure (.document n (← Scan.accept '-'))
    else if ← Scan.accept '&' then pure (.redirect n .duplicate)
    else if ← Scan.accept '>' then pure (.redirect n .both)
    else pure (.redirect n .input)

/-- Sets the body of a document. -/
def setDocument (number : Nat) (body : Word) : Scan Unit :=
  modify fun s => { s with documents := s.documents.modify number fun _ => ⟨body⟩ }

/-- The text of an alias that a word stands for, unless it is being replaced already. -/
def alias? (name : String) : Scan (Option String) := do
  let s ← get
  if s.aliases.isEmpty then pure none
  else
    let left := s.rest.length
    let replacing := s.replacing.filter fun r => left > r.2
    if replacing.any (·.1 = name) then pure none
    else
      match s.aliases.lookup name with
      | none => pure none
      | some text =>
          set { s with replacing := (name, left) :: replacing }
          pure (some text)

mutual

/-- Reads the parts of a word up to its end, which is taken if it belongs to the word. The parts
read so far are held newest first, and `depth` counts the open parentheses of arithmetic. -/
def wordParts : Nat → Within → Nat → List Part → Scan (List Part)
  | 0, _, _, _ => Scan.fail "word too long"
  | fuel + 1, within, depth, parts => do
      Scan.skipContinuations
      let quoted := within.isQuoted
      match (← get).rest with
      | [] =>
          match within with
          | .script | .document => pure parts.reverse
          | .quotes => Scan.fail "Unterminated quoted string"
          | .arithmetic => Scan.fail "Missing '))'"
          | .braces | .quotedBraces => Scan.fail "Missing '\x7d'"
      | c :: _ =>
          if within = .script && endsWord c then pure parts.reverse
          else
            let _ ← Scan.next?
            match c with
            | '\\' =>
                match ← Scan.next? with
                | none => wordParts fuel within depth (pushChar '\\' true parts)
                | some e =>
                    let isEscape :=
                      !quoted || e = '\\' || e = '\x60' || e = '$' ||
                        (e = '"' && within ≠ .document) || (e = '\x7d' && within = .quotedBraces)
                    let parts := if isEscape then parts else pushChar '\\' true parts
                    wordParts fuel within depth (pushChar e true parts)
            | '\x27' =>
                if quoted then wordParts fuel within depth (pushChar c true parts)
                else
                  let text ← Scan.singleQuoted ((← get).rest.length + 1) []
                  wordParts fuel within depth (.text text true :: parts)
            | '"' =>
                match within with
                | .quotes => pure parts.reverse
                | .document | .arithmetic =>
                    wordParts fuel within depth (pushChar c true parts)
                | _ =>
                    let inner ← wordParts fuel .quotes 0 []
                    let inner :=
                      match inner with
                      | [.text ..] | [.parameter "@" .plain _] => inner
                      | _ => .text "" true :: inner
                    wordParts fuel within depth (inner.reverse ++ parts)
            | '\x60' =>
                let text ← Scan.backQuoted (within = .quotes || within = .quotedBraces)
                  ((← get).rest.length + 1) []
                let outer ← get
                set { outer with rest := text.toList, pushed := none, awaited := [] }
                let body ← commandList fuel .optional true none
                let t ← token fuel .plain
                match t with
                | .finish => pure ()
                | t => unexpectedFor t "end of file"
                modify fun s =>
                  { outer with documents := s.documents }
                wordParts fuel within depth (.command (body.getD .nothing) quoted :: parts)
            | '$' =>
                match ← dollar fuel quoted with
                | some part => wordParts fuel within depth (part :: parts)
                | none => wordParts fuel within depth (pushChar '$' quoted parts)
            | '\x7d' =>
                if within = .braces || within = .quotedBraces then pure parts.reverse
                else wordParts fuel within depth (pushChar c quoted parts)
            | '(' =>
                let depth := if within = .arithmetic then depth + 1 else depth
                wordParts fuel within depth (pushChar c quoted parts)
            | ')' =>
                if within = .arithmetic && depth = 0 then
                  if ← Scan.accept ')' then pure parts.reverse
                  else wordParts fuel within depth (pushChar c quoted parts)
                else wordParts fuel within (depth - 1) (pushChar c quoted parts)
            | c => wordParts fuel within depth (pushChar c quoted parts)

/-- Reads what a dollar sign begins, if anything. -/
def dollar : Nat → Bool → Scan (Option Part)
  | 0, _ => Scan.fail "word too long"
  | fuel + 1, quoted => do
      match ← Scan.peek? with
      | none => pure none
      | some c =>
          if c = '(' then
            let _ ← Scan.next?
            if ← Scan.accept '(' then
              pure (some (.arithmetic (← wordParts fuel .arithmetic 0 []) quoted))
            else
              let saved := (← get).pushed
              modify fun s => { s with pushed := none }
              let body ← commandList fuel .optional true none
              let t ← token fuel .plain
              match t with
              | .operator ")" => pure ()
              | t => unexpectedFor t ")"
              modify fun s => { s with pushed := saved }
              pure (some (.command (body.getD .nothing) quoted))
          else if c = '\x7b' then
            let _ ← Scan.next?
            pure (some (← braced fuel quoted))
          else
            let length := (← get).rest.length + 1
            if isNameStart c then
              let name ← Scan.takeWhile isNameChar length []
              pure (some (.parameter (String.ofList name) .plain quoted))
            else if c.isDigit || isSpecial c then
              let _ ← Scan.next?
              pure (some (.parameter (String.singleton c) .plain quoted))
            else pure none

/-- Reads a parameter in braces behind the opening brace. -/
def braced : Nat → Bool → Scan Part
  | 0, _ => Scan.fail "word too long"
  | fuel + 1, quoted => do
      let length := (← get).rest.length + 1
      let bad : Scan Part := do
        let _ ← wordParts fuel (if quoted then .quotedBraces else .braces) 0 []
        pure (.parameter "" .bad quoted)
      match ← Scan.peek? with
      | none => Scan.fail "Missing '\x7d'"
      | some c =>
          if isNameStart c then
            let name ← Scan.takeWhile isNameChar length []
            modified fuel (String.ofList name) quoted
          else if c.isDigit then
            let name ← Scan.takeWhile Char.isDigit length []
            modified fuel (String.ofList name) quoted
          else if c = '#' then
            let _ ← Scan.next?
            match ← Scan.peek? with
            | none => Scan.fail "Missing '\x7d'"
            | some d =>
                if isNameChar d then
                  let name ← Scan.takeWhile (if d.isDigit then Char.isDigit else isNameChar)
                    length []
                  if ← Scan.accept '\x7d' then
                    pure (.parameter (String.ofList name) .length quoted)
                  else bad
                else if d = '\x7d' then modified fuel "#" quoted
                else
                  let _ ← Scan.next?
                  if (← Scan.peek?) = some '\x7d' then
                    if isSpecial d then
                      let _ ← Scan.next?
                      pure (.parameter (String.singleton d) .length quoted)
                    else bad
                  else do
                    Scan.putBack [d]
                    modified fuel "#" quoted
          else if isSpecial c then
            let _ ← Scan.next?
            modified fuel (String.singleton c) quoted
          else bad

/-- Reads what is done with a parameter, up to the closing brace. -/
def modified : Nat → String → Bool → Scan Part
  | 0, _, _ => Scan.fail "word too long"
  | fuel + 1, name, quoted => do
      let within : Within := if quoted then .quotedBraces else .braces
      let bad : Scan Part := do
        let _ ← wordParts fuel within 0 []
        pure (.parameter "" .bad quoted)
      let choose (emptyToo : Bool) (mark : Char) : Scan Part := do
        let modifier? : Option (Word → Modifier) :=
          match mark with
          | '-' => some (.orElse emptyToo)
          | '=' => some (.orAssign emptyToo)
          | '?' => some (.orFail emptyToo)
          | '+' => some (.ifSet emptyToo)
          | _ => none
        match modifier? with
        | none => bad
        | some modifier =>
            let _ ← Scan.next?
            pure (.parameter name (modifier (← wordParts fuel within 0 [])) quoted)
      match ← Scan.peek? with
      | none => Scan.fail "Missing '\x7d'"
      | some '\x7d' =>
          let _ ← Scan.next?
          pure (.parameter name .plain quoted)
      | some ':' =>
          let _ ← Scan.next?
          match ← Scan.peek? with
          | none => Scan.fail "Missing '\x7d'"
          | some mark => choose true mark
      | some '%' =>
          let _ ← Scan.next?
          let which : Trim := if ← Scan.accept '%' then .longBack else .shortBack
          pure (.parameter name (.trim which (← wordParts fuel .braces 0 [])) quoted)
      | some '#' =>
          let _ ← Scan.next?
          let which : Trim := if ← Scan.accept '#' then .longFront else .shortFront
          pure (.parameter name (.trim which (← wordParts fuel .braces 0 [])) quoted)
      | some mark => choose false mark

/-- Reads the documents that begin below the line. -/
def readDocuments : Nat → Scan Unit
  | 0 => Scan.fail "word too long"
  | fuel + 1 => do
      match (← get).awaited with
      | [] => pure ()
      | a :: more => do
          modify fun s => { s with awaited := more }
          let lines ← Scan.documentLines a ((← get).rest.length + 1) []
          let text := lines.reverse.flatten
          if a.expanding then
            let outer ← get
            set { outer with rest := text, pushed := none, awaited := [] }
            let parts ← wordParts fuel .document 0 []
            modify fun s => { outer with documents := s.documents }
            setDocument a.number parts
          else setDocument a.number [.text (String.ofList text) true]
          readDocuments fuel

/-- Reads the next token from the text. -/
def scanToken : Nat → Scan Token
  | 0 => Scan.fail "word too long"
  | fuel + 1 => do
      skipBlanks ((← get).rest.length + 1)
      match ← Scan.peek? with
      | none => pure .finish
      | some c =>
          match c with
          | '\n' =>
              let _ ← Scan.next?
              readDocuments fuel
              pure .newline
          | '#' =>
              Scan.skipComment
              scanToken fuel
          | '&' =>
              let _ ← Scan.next?
              if ← Scan.accept '&' then pure (.operator "&&") else pure (.operator "&")
          | '|' =>
              let _ ← Scan.next?
              if ← Scan.accept '|' then pure (.operator "||") else pure (.operator "|")
          | ';' =>
              let _ ← Scan.next?
              if ← Scan.accept ';' then pure (.operator ";;") else pure (.operator ";")
          | '(' =>
              let _ ← Scan.next?
              pure (.operator "(")
          | ')' =>
              let _ ← Scan.next?
              pure (.operator ")")
          | '<' | '>' =>
              let _ ← Scan.next?
              redirection none c
          | c => do
              let parts ← wordParts fuel .script 0 []
              match (← get).rest.head?, parts with
              | some mark, [.text value false] =>
                  if (mark = '<' || mark = '>') && c.isDigit && value = String.singleton c then
                    let _ ← Scan.next?
                    redirection (some (c.toNat - 48)) mark
                  else pure (.word parts)
              | _, parts => pure (.word parts)

/-- Reads the next token. -/
def token : Nat → Looking → Scan Token
  | 0, _ => Scan.fail "word too long"
  | fuel + 1, looking => do
      let s ← get
      let t ←
        match s.pushed with
        | some t => do
            set { s with pushed := none }
            pure t
        | none => scanToken fuel
      match t with
      | .newline => if looking.newlines then token fuel looking else pure t
      | .word [.text value false] =>
          if looking.reserved && reservedWords.contains value then pure (.reserved value)
          else if looking.aliases then
            match ← alias? value with
            | some text =>
                Scan.putBack text.toList
                token fuel looking
            | none => pure t
          else pure t
      | t => pure t

/-- Reads commands up to the end of a list, behind those that were read already. With `mayEnd` the
list may end here. -/
def commandList : Nat → ListKind → Bool → Option Command → Scan (Option Command)
  | 0, _, _, _ => Scan.fail "word too long"
  | fuel + 1, kind, mayEnd, read => do
      let line := kind = .line
      let t ← token fuel ⟨!line, true, true⟩
      match t with
      | .newline => pure (some (read.getD .nothing))
      | .finish =>
          pushToken t
          pure read
      | t =>
          pushToken t
          if !line && mayEnd && endsList t then pure read
          else
            let first := (← get).line
            let command ← andOr fuel
            let t ← token fuel .plain
            let command :=
              match t with
              | .operator "&" => .background first command
              | _ => command
            let read := some (inSequence read command)
            match t with
            | .newline | .finish =>
                pushToken t
                commandList fuel kind true read
            | .operator "&" | .operator ";" => commandList fuel kind true read
            | t =>
                if line then unexpected t
                else
                  pushToken t
                  pure read

/-- Reads the body of a command. -/
def body : Nat → Scan Command
  | 0 => Scan.fail "word too long"
  | fuel + 1 => do pure ((← commandList fuel .body false none).getD .nothing)

/-- Reads pipelines that are joined by conditions. -/
def andOr : Nat → Scan Command
  | 0 => Scan.fail "word too long"
  | fuel + 1 => do
      let first ← pipeline fuel .commandHere
      andOrRest fuel first

/-- Reads further pipelines that are joined by conditions. -/
def andOrRest : Nat → Command → Scan Command
  | 0, _ => Scan.fail "word too long"
  | fuel + 1, first => do
      let t ← token fuel .plain
      match t with
      | .operator "&&" => do
          let second ← pipeline fuel .command
          andOrRest fuel (.andThen first second)
      | .operator "||" => do
          let second ← pipeline fuel .command
          andOrRest fuel (.orElse first second)
      | t => do
          pushToken t
          pure first

/-- Reads a pipeline. -/
def pipeline : Nat → Looking → Scan Command
  | 0, _ => Scan.fail "word too long"
  | fuel + 1, looking => do
      let t ← token fuel looking
      let negated := t matches .reserved "!"
      if !negated then pushToken t
      let first ← command fuel .commandHere
      let members ← pipelineRest fuel [first]
      let whole :=
        match members with
        | [only] => only
        | members => .pipeline members
      pure (if negated then .negated whole else whole)

/-- Reads further members of a pipeline, whose members are held newest first. -/
def pipelineRest : Nat → List Command → Scan (List Command)
  | 0, _ => Scan.fail "word too long"
  | fuel + 1, members => do
      let t ← token fuel .plain
      match t with
      | .operator "|" => do
          let next ← command fuel .command
          pipelineRest fuel (next :: members)
      | t => do
          pushToken t
          pure members.reverse

/-- Reads a reserved word that must stand here. -/
def expect : Nat → String → Scan Unit
  | 0, _ => Scan.fail "word too long"
  | fuel + 1, name => do
      let t ← token fuel .commandHere
      match t with
      | .reserved found => if found = name then pure () else unexpectedFor t name
      | .operator found => if found = name then pure () else unexpectedFor t name
      | t => unexpectedFor t name

/-- Reads a command. -/
def command : Nat → Looking → Scan Command
  | 0, _ => Scan.fail "word too long"
  | fuel + 1, looking => do
      let t ← token fuel looking
      let line := (← get).line
      match t with
      | .reserved "if" => do
          let c ← branches fuel
          redirected fuel line c
      | .reserved "while" => do
          let condition ← body fuel
          expect fuel "do"
          let inner ← body fuel
          expect fuel "done"
          redirected fuel line (.loop true condition inner)
      | .reserved "until" => do
          let condition ← body fuel
          expect fuel "do"
          let inner ← body fuel
          expect fuel "done"
          redirected fuel line (.loop false condition inner)
      | .reserved "for" => do
          match ← token fuel .plain with
          | .word [.text name false] =>
              if !isName name then Scan.fail "Bad for loop variable"
              else
                let t ← token fuel .command
                let words ←
                  match t with
                  | .reserved "in" => do
                      let words ← eachWords fuel []
                      pure (some words)
                  | .operator ";" => pure none
                  | t => do
                      pushToken t
                      pure none
                match ← token fuel .command with
                | .reserved "do" => pure ()
                | t => unexpectedFor t "do"
                let inner ← body fuel
                expect fuel "done"
                redirected fuel line (.each line name words inner)
          | _ => Scan.fail "Bad for loop variable"
      | .reserved "case" => do
          match ← token fuel .plain with
          | .word subject => do
              match ← token fuel .command with
              | .reserved "in" => pure ()
              | t => unexpectedFor t "in"
              let found ← arms fuel []
              redirected fuel line (.select line subject found)
          | t => Scan.fail (t.text ++ " unexpected (expecting word)")
      | .operator "(" => do
          let inner ← body fuel
          expect fuel ")"
          redirected fuel line (.subshell line inner)
      | .reserved "\x7b" => do
          let inner ← body fuel
          expect fuel "\x7d"
          redirected fuel line inner
      | .word _ | .redirect .. | .document .. => do
          pushToken t
          simple fuel line true [] [] []
      | t => unexpected t

/-- Reads a branch behind its first word. -/
def branches : Nat → Scan Command
  | 0 => Scan.fail "word too long"
  | fuel + 1 => do
      let condition ← body fuel
      expect fuel "then"
      let yes ← body fuel
      let t ← token fuel .commandHere
      match t with
      | .reserved "elif" => do pure (.branch condition yes (← branches fuel))
      | .reserved "else" => do
          let no ← body fuel
          expect fuel "fi"
          pure (.branch condition yes no)
      | .reserved "fi" => pure (.branch condition yes .nothing)
      | t => unexpectedFor t "fi"

/-- Reads the words of a loop, which are held newest first. -/
def eachWords : Nat → List Word → Scan (List Word)
  | 0, _ => Scan.fail "word too long"
  | fuel + 1, words => do
      let t ← token fuel .plain
      match t with
      | .word w => eachWords fuel (w :: words)
      | .newline | .operator ";" => pure words.reverse
      | t => unexpected t

/-- Reads the arms of a selection, which are held newest first. -/
def arms : Nat → List (List Word × Command) → Scan (List (List Word × Command))
  | 0, _ => Scan.fail "word too long"
  | fuel + 1, read => do
      let t ← token fuel ⟨true, true, false⟩
      match t with
      | .reserved "esac" => pure read.reverse
      | t => do
          let first ←
            match t with
            | .operator "(" => token fuel .plain
            | t => pure t
          let patterns ← patternList fuel first []
          let inner ← commandList fuel .optional true none
          let read := (patterns, inner.getD .nothing) :: read
          let t ← token fuel ⟨true, true, false⟩
          match t with
          | .reserved "esac" => pure read.reverse
          | .operator ";;" => arms fuel read
          | t => unexpectedFor t ";;"

/-- Reads the patterns of an arm up to the closing parenthesis, from the first token on. -/
def patternList : Nat → Token → List Word → Scan (List Word)
  | 0, _, _ => Scan.fail "word too long"
  | fuel + 1, t, patterns => do
      let word : Word ←
        match t with
        | .word w => pure w
        | .reserved name => pure [.text name false]
        | t => unexpectedFor t ")"
      let t ← token fuel .plain
      match t with
      | .operator "|" => do
          let next ← token fuel .plain
          patternList fuel next (word :: patterns)
      | .operator ")" => pure (word :: patterns).reverse
      | t => unexpectedFor t ")"

/-- Reads the target of a redirection. -/
def target : Nat → Token → Scan Redirect
  | 0, _ => Scan.fail "word too long"
  | fuel + 1, r => do
      let t ← token fuel .plain
      match r, t with
      | .redirect descriptor direction, .word w => pure (.mk descriptor direction w)
      | .document descriptor withoutTabs, .word w => do
          let (delimiter, quoted) := withoutQuotes w
          let number := (← get).documents.size
          modify fun s =>
            { s with
              documents := s.documents.push ⟨[]⟩
              awaited := s.awaited ++ [⟨number, delimiter, !quoted, withoutTabs⟩] }
          pure (.mk descriptor (.document number) [])
      | _, t => unexpected t

/-- Reads the redirections behind a command that is not a simple one. -/
def redirected : Nat → Nat → Command → Scan Command
  | 0, _, _ => Scan.fail "word too long"
  | fuel + 1, line, c => do
      let redirects ← redirections fuel []
      if redirects.isEmpty then pure c else pure (.redirected line c redirects)

/-- Reads redirections, which are held newest first. -/
def redirections : Nat → List Redirect → Scan (List Redirect)
  | 0, _ => Scan.fail "word too long"
  | fuel + 1, read => do
      let t ← token fuel .commandHere
      match t with
      | .redirect .. | .document .. => do
          let r ← target fuel t
          redirections fuel (r :: read)
      | t => do
          pushToken t
          pure read.reverse

/-- Reads a simple command or a definition. Assignments, words and redirections are held newest
first, and `leading` says that no word has been read yet. -/
def simple : Nat → Nat → Bool → List (String × Word) → List Word → List Redirect → Scan Command
  | 0, _, _, _, _, _ => Scan.fail "word too long"
  | fuel + 1, line, leading, assignments, words, redirects => do
      let t ← token fuel ⟨false, false, leading⟩
      match t with
      | .word w =>
          match leading, Word.assignment? w with
          | true, some a => simple fuel line true (a :: assignments) words redirects
          | _, _ => simple fuel line false assignments (w :: words) redirects
      | .redirect .. | .document .. => do
          let r ← target fuel t
          simple fuel line leading assignments words (r :: redirects)
      | .operator "(" =>
          match words, assignments, redirects with
          | [w], [], [] => do
              match ← token fuel .plain with
              | .operator ")" => pure ()
              | t => unexpectedFor t ")"
              match Word.bare? w with
              | some name =>
                  if isName name && !specialCommands.contains name then do
                    pure (.define name (← command fuel .command))
                  else Scan.fail "Bad function name"
              | none => Scan.fail "Bad function name"
          | _, _, _ => unexpected t
      | t => do
          pushToken t
          pure (.simple line assignments.reverse words.reverse redirects.reverse)

end

/-- Reads as many lines of a script as its next command needs. At the end of the script there is
none. -/
def nextCommand (s : Source) : Except SyntaxError (Option Command × Source) :=
  commandList (20 * s.rest.length + 1000) .line false none s

end HostFlash.Shell
