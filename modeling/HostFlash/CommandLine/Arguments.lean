/-! # Arguments

Reading the arguments of the program. Global options may stand in front of the command and behind
it; behind it they win. An option keeps the value that waits for it until something else needs to
be settled, so that a request for help in between is answered before a faulty value is noticed.
-/

namespace HostFlash.CommandLine

/-- The commands. -/
inductive Command where
  | version
  | status
  | partitions
  | factoryReset
  | clearGuard
  | listTools
deriving Repr, DecidableEq

namespace Command

/-- All commands in the order of the help. -/
def all : List Command := [version, status, partitions, factoryReset, clearGuard, listTools]

/-- The word that asks for a command. -/
def word : Command → String
  | version => "version"
  | status => "status"
  | partitions => "partitions"
  | factoryReset => "factory-reset"
  | clearGuard => "clear-guard"
  | listTools => "list-tools"

/-- The command that a word asks for. -/
def ofWord? (word : String) : Option Command := all.find? (·.word == word)

/-- The command destroys data, so that it has to be confirmed. -/
def needsConfirmation : Command → Bool
  | factoryReset | clearGuard => true
  | _ => false

end Command

/-- What help is asked for. -/
inductive Topic where
  | program
  | command (c : Command)
  | help
deriving Repr, DecidableEq

/-- What a command is run with. -/
structure Invocation where
  command : Command
  settingsPath : Option String
  backend : String
  confirmed : Bool
deriving Repr, DecidableEq

/-- What the arguments ask for. -/
inductive Request where
  | invocation (i : Invocation)
  | help (topic : Topic)
  | programVersion
  | misuse
deriving Repr, DecidableEq

/-- The backend without an option for it. -/
def defaultBackend : String := "pflash"

/-- The options that take a value. -/
inductive ValueOption where
  | settingsPath
  | backend
deriving Repr, DecidableEq

/-- Where arguments are read: in front of the command or behind it. -/
inductive Scope where
  | front
  | behind (c : Command)
deriving Repr, DecidableEq

namespace Scope

/-- What help is about when it is asked for here. -/
def topic : Scope → Topic
  | front => .program
  | behind c => .command c

/-- The option that confirms is known here. -/
def knowsConfirmation : Scope → Bool
  | front => false
  | behind c => c.needsConfirmation

/-- The option for the version of the program is known here. -/
def knowsVersion : Scope → Bool
  | front => true
  | behind _ => false

end Scope

/-- The options that were given in a scope, each at most once. -/
structure Given where
  settingsPath : Option String
  backend : Option String
  confirmed : Bool
deriving Repr, DecidableEq

namespace Given

/-- No options. -/
def none : Given := ⟨Option.none, Option.none, false⟩

/-- Settles the value of an option. The path of the settings must not be empty. -/
def settle (g : Given) (option : ValueOption) (value : String) : Except Request Given :=
  match option with
  | .settingsPath =>
      if g.settingsPath.isSome || value = "" then .error .misuse
      else .ok { g with settingsPath := some value }
  | .backend =>
      if g.backend.isSome then .error .misuse else .ok { g with backend := some value }

end Given

/-- An option that was read but is not settled, with its value as soon as that was read. -/
structure Pending where
  option : ValueOption
  value : Option String
deriving Repr, DecidableEq

/-- What has been read in a scope. -/
structure Progress where
  given : Given
  pending : Option Pending
deriving Repr, DecidableEq

namespace Progress

/-- Nothing read yet. -/
def start : Progress := ⟨.none, none⟩

/-- The next argument is the value of an option. -/
def awaitsValue (p : Progress) : Bool :=
  match p.pending with
  | some ⟨_, none⟩ => true
  | _ => false

/-- Settles the option that is pending. -/
def settle (p : Progress) : Except Request Progress :=
  match p.pending with
  | none => .ok p
  | some ⟨_, none⟩ => .error .misuse
  | some ⟨option, some value⟩ => (p.given.settle option value).map (⟨·, none⟩)

/-- Reads an option whose value is the next argument. -/
def await (p : Progress) (option : ValueOption) : Except Request Progress := do
  let p ← p.settle
  pure { p with pending := some ⟨option, none⟩ }

/-- Reads an option together with its value. -/
def attach (p : Progress) (option : ValueOption) (value : String) : Except Request Progress := do
  let p ← p.settle
  let given ← p.given.settle option value
  pure { p with given := given }

/-- Reads the option that confirms. -/
def confirm (p : Progress) : Except Request Progress := do
  let p ← p.settle
  if p.given.confirmed then throw .misuse
  pure { p with given := { p.given with confirmed := true } }

/-- Answers a request for help or the like. -/
def answer (p : Progress) (request : Request) : Except Request Progress := do
  let _ ← p.settle
  throw request

/-- Reads an option that takes a value, with the value if it is attached. -/
def valued (p : Progress) (option : ValueOption) : Option String → Except Request Progress
  | none => p.await option
  | some value => p.attach option value

/-- Reads an option in its long form: its name, and the value behind an equals sign. -/
def long (scope : Scope) (p : Progress) (name : String) (value : Option String) :
    Except Request Progress :=
  match name, value with
  | "config", value => p.valued .settingsPath value
  | "tool", value => p.valued .backend value
  | "verbose", none => p.settle
  | "help", none => p.answer (.help scope.topic)
  | "version", none => if scope.knowsVersion then p.answer .programVersion else .error .misuse
  | "yes", none => if scope.knowsConfirmation then p.confirm else .error .misuse
  | _, _ => .error .misuse

/-- The value attached to an option in its short form. An equals sign in front is left out. -/
def attached : List Char → Option String
  | [] => none
  | '=' :: value => some (String.ofList value)
  | value => some (String.ofList value)

/-- Reads options in their short form, which may stand together. -/
def short (scope : Scope) (p : Progress) : List Char → Except Request Progress
  | [] => .ok p
  | 'v' :: rest => do short scope (← p.settle) rest
  | 'c' :: value => p.valued .settingsPath (attached value)
  | 't' :: value => p.valued .backend (attached value)
  | 'h' :: _ => p.answer (.help scope.topic)
  | 'V' :: _ => if scope.knowsVersion then p.answer .programVersion else .error .misuse
  | _ :: _ => .error .misuse

/-- Reads an option, or a value that is awaited. -/
def argument (scope : Scope) (p : Progress) (word : String) : Except Request Progress :=
  match word.toList with
  | '-' :: '-' :: rest =>
      let name := rest.takeWhile (· ≠ '=')
      let value :=
        match rest.dropWhile (· ≠ '=') with
        | '=' :: value => some (String.ofList value)
        | _ => none
      p.long scope (String.ofList name) value
  | '-' :: c :: rest => p.short scope (c :: rest)
  | _ =>
      match p.pending with
      | some ⟨option, none⟩ => .ok { p with pending := some ⟨option, some word⟩ }
      | _ => .error .misuse

end Progress

/-- Everything behind two dashes would be an operand, and there are no operands. -/
def noOperands (p : Progress) : List String → Except Request Progress
  | [] => .ok p
  | _ :: _ => .error .misuse

/-- Reads the arguments behind a command. -/
def readBehind (c : Command) (p : Progress) : List String → Except Request Progress
  | [] => .ok p
  | "--" :: rest => noOperands p rest
  | word :: rest => do readBehind c (← p.argument (.behind c) word) rest

/-- The topic that the words behind `help` name. -/
def helpTopic : List String → Request
  | [] => .help .program
  | ["help"] => .help .help
  | [word] =>
      match Command.ofWord? word with
      | some c => .help (.command c)
      | none => .misuse
  | _ => .misuse

/-- Reads the arguments in front of the command, and gives the command with the words behind it. -/
def readFront (p : Progress) :
    List String → Except Request (Progress × Option (Command × List String))
  | [] => .ok (p, none)
  | word :: rest =>
      if !p.awaitsValue && word = "help" then .error (helpTopic rest)
      else
        match if p.awaitsValue then none else Command.ofWord? word with
        | some c => .ok (p, some (c, rest))
        | none =>
            if word = "--" then do
              let p ← noOperands p rest
              pure (p, none)
            else do readFront (← p.argument .front word) rest

/-- Reads all arguments of the program. -/
def readAll (args : List String) : Except Request Invocation := do
  match ← readFront .start args with
  | (_, none) => throw .misuse
  | (front, some (c, rest)) =>
      let behind ← (← readBehind c .start rest).settle
      let front ← front.settle
      pure
        { command := c
          settingsPath := behind.given.settingsPath.or front.given.settingsPath
          backend := (behind.given.backend.or front.given.backend).getD defaultBackend
          confirmed := behind.given.confirmed }

/-- What the arguments of the program ask for. -/
def request (args : List String) : Request :=
  match readAll args with
  | .ok invocation => .invocation invocation
  | .error request => request

end HostFlash.CommandLine
