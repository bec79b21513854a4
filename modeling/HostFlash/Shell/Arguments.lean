import HostFlash.Shell.Session

/-! # Arguments of the shell's commands

Reading the options and the numbers among the arguments of a command, and writing a value in
quotes so that it reads back as it is.
-/

namespace HostFlash.Shell

namespace Run

/-- The letters of an argument that is a group of options. -/
def optionGroup? (arg : String) : Option (List Char) :=
  match arg.toList with
  | '-' :: c :: cs => some (c :: cs)
  | _ => none

/-- The option with a letter, and whether it takes an argument. -/
def optionOf? (allowed : List Char) (letter : Char) : Option Bool :=
  match allowed with
  | [] => none
  | c :: rest =>
      if c = letter && c ≠ ':' then some (rest.head? = some ':') else optionOf? rest letter

/-- Reads the options in a group, with the arguments behind it. -/
def readGroup (allowed : List Char) : List Char → List String →
    Run (List (Char × String) × List String)
  | [], args => pure ([], args)
  | c :: cs, args => do
      match optionOf? allowed c with
      | none => fail ("Illegal option -" ++ String.singleton c)
      | some false => do
          let (read, args) ← readGroup allowed cs args
          pure ((c, "") :: read, args)
      | some true =>
          match cs, args with
          | _ :: _, args => pure ([(c, String.ofList cs)], args)
          | [], a :: args => pure ([(c, a)], args)
          | [], [] => fail ("No arg for -" ++ String.singleton c ++ " option")

/-- Reads the options at the front of arguments, each with its own argument or an empty one. The
fuel is a bound on the number of arguments. -/
def readOptions (allowed : List Char) : Nat → List String →
    Run (List (Char × String) × List String)
  | 0, args => pure ([], args)
  | fuel + 1, args => do
      match args with
      | [] => pure ([], [])
      | "--" :: rest => pure ([], rest)
      | a :: rest =>
          match optionGroup? a with
          | none => pure ([], args)
          | some letters => do
              let (first, rest) ← readGroup allowed letters rest
              let (more, rest) ← readOptions allowed fuel rest
              pure (first ++ more, rest)

/-- Reads the options at the front of arguments. A colon behind a letter means that the option
takes an argument. -/
def options (allowed : String) (args : List String) :
    Run (List (Char × String) × List String) :=
  readOptions allowed.toList (args.length + 1) args

/-- The arguments behind options, of which there must be none. -/
def operands (args : List String) : Run (List String) := do
  let (_, args) ← options "" args
  pure args

/-- Reads a number that is not below zero. -/
def number (text : String) : Run Nat := do
  match decimal? text with
  | some n =>
      if n < 0 || 2147483647 < n then fail ("Illegal number: " ++ text) else pure n.toNat
  | none => fail ("Illegal number: " ++ text)

end Run

/-- Pieces of a text in quotes: those without a single quote in single ones, and single quotes in
double ones. The fuel is a bound on the characters. -/
def quotePieces : Nat → List Char → String
  | 0, _ => ""
  | fuel + 1, cs =>
      let plain := cs.takeWhile (· ≠ '\'')
      let rest := cs.drop plain.length
      let quotes := rest.takeWhile (· = '\'')
      let first := "'" ++ String.ofList plain ++ "'"
      if quotes = [] then first
      else
        let after := rest.drop quotes.length
        first ++ "\"" ++ String.ofList quotes ++ "\"" ++
          (if after = [] then "" else quotePieces fuel after)

/-- A text in quotes. -/
def quote (text : String) : String := quotePieces (text.length + 1) text.toList

end HostFlash.Shell
