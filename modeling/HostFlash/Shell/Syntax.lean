/-! # The language of scripts

The commands of the shell language that the scripts of a machine are written in, and the words
that commands are made of. A word is a list of parts that are expanded one by one when its command
runs. All texts are byte texts.
-/

namespace HostFlash.Shell

/-- What a redirection does. -/
inductive Direction where
  | input
  | output
  /-- Output to a file that is written even where files are kept. -/
  | overwrite
  | append
  | both
  | duplicate
  /-- The text below the command is read; it is found by its number. -/
  | document (number : Nat)
deriving Repr, DecidableEq

/-- Which match of a pattern is cut off. -/
inductive Trim where
  | shortFront
  | longFront
  | shortBack
  | longBack
deriving Repr, DecidableEq

mutual

/-- A part of a word. Quoted parts are neither split into fields nor read as patterns. -/
inductive Part where
  | text (value : String) (quoted : Bool)
  | parameter (name : String) (modifier : Modifier) (quoted : Bool)
  | command (body : Command) (quoted : Bool)
  | arithmetic (expression : List Part) (quoted : Bool)

/-- What is done with the value of a parameter. With `emptyToo`, an empty value counts as none. -/
inductive Modifier where
  | plain
  | length
  /-- The argument stands in for a value. -/
  | orElse (emptyToo : Bool) (argument : List Part)
  /-- The argument becomes the value. -/
  | orAssign (emptyToo : Bool) (argument : List Part)
  /-- The argument is the complaint about a missing value. -/
  | orFail (emptyToo : Bool) (argument : List Part)
  /-- The argument stands in for a value that is there. -/
  | ifSet (emptyToo : Bool) (argument : List Part)
  /-- A match of the argument is cut off. -/
  | trim (which : Trim) (pattern : List Part)
  /-- Nothing that the language knows. -/
  | bad

/-- A redirection of a descriptor. -/
inductive Redirect where
  | mk (descriptor : Nat) (direction : Direction) (target : List Part)

/-- A command, with the line that it stands on where it matters. -/
inductive Command where
  | nothing
  | simple (line : Nat) (assignments : List (String × List Part)) (words : List (List Part))
      (redirects : List Redirect)
  | redirected (line : Nat) (body : Command) (redirects : List Redirect)
  | negated (body : Command)
  | pipeline (members : List Command)
  | background (line : Nat) (body : Command)
  | andThen (first second : Command)
  | orElse (first second : Command)
  | sequence (first second : Command)
  | branch (condition yes no : Command)
  /-- Runs the body as long as the condition ends in success, or in failure. -/
  | loop (success : Bool) (condition body : Command)
  /-- Runs the body for each field of the words, or for each argument of the script. -/
  | each (line : Nat) (name : String) (words : Option (List (List Part))) (body : Command)
  | select (line : Nat) (subject : List Part) (arms : List (List (List Part) × Command))
  | subshell (line : Nat) (body : Command)
  | define (name : String) (body : Command)

end

/-- A word. -/
abbrev Word := List Part

/-- The text below a command that is its input. -/
structure Document where
  body : Word

/-- The names that mean more than a command where a command may begin. -/
def reservedWords : List String :=
  ["!", "case", "do", "done", "elif", "else", "esac", "fi", "for", "if", "in", "then", "until",
   "while", "\x7b", "\x7d"]

/-- What the text of a script falls into. -/
inductive Token where
  | word (parts : Word)
  | reserved (name : String)
  | redirect (descriptor : Nat) (direction : Direction)
  /-- The begin of a document below the command, with or without the tabs in front of its lines. -/
  | document (descriptor : Nat) (withoutTabs : Bool)
  | operator (text : String)
  | newline
  | finish

/-- A letter that a name may begin with. -/
def isNameStart (c : Char) : Bool := c.isAlpha || c = '_'

/-- A character that a name may go on with. -/
def isNameChar (c : Char) : Bool := c.isAlphanum || c = '_'

/-- The text is a name. -/
def isName (s : String) : Bool :=
  match s.toList with
  | c :: cs => isNameStart c && cs.all isNameChar
  | [] => false

/-- The word is this text, without quotes or expansions. -/
def Word.bare? : Word → Option String
  | [.text value false] => some value
  | _ => none

/-- The name and the value in a word of the form `name=value`. -/
def Word.assignment? : Word → Option (String × Word)
  | .text value false :: rest =>
      let name := value.toList.takeWhile (· ≠ '=')
      match value.toList.drop name.length with
      | '=' :: after =>
          let name := String.ofList name
          if isName name then
            some (name, if after = [] then rest else .text (String.ofList after) false :: rest)
          else none
      | _ => none
  | _ => none

end HostFlash.Shell
