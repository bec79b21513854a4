/-! # Options of programs

Reading the options among the arguments of a program. Options may stand between the other
arguments; letters may stand together behind one dash, and long names may be cut short as long as
they stand for one option only. Two dashes end the options.
-/

namespace HostFlash.Utility

/-- Whether an option takes an argument. -/
inductive Taking where
  | nothing
  | something
  | perhaps
deriving Repr, DecidableEq

/-- An option: the key that it is known by, which is its letter if it has one, its long name if it
has one, and what it takes. -/
structure OptionSpec where
  key : Char
  long : String
  taking : Taking
  /-- The key is also the letter of the option. -/
  short : Bool
deriving Repr, DecidableEq

namespace OptionSpec

/-- An option without an argument. -/
def flag (key : Char) (long : String) : OptionSpec := ⟨key, long, .nothing, true⟩

/-- An option with an argument. -/
def value (key : Char) (long : String) : OptionSpec := ⟨key, long, .something, true⟩

/-- An option without an argument that has a long name only. -/
def longFlag (key : Char) (long : String) : OptionSpec := ⟨key, long, .nothing, false⟩

/-- An option with an argument that has a long name only. -/
def longValue (key : Char) (long : String) : OptionSpec := ⟨key, long, .something, false⟩

end OptionSpec

/-- The arguments of a program as they were read: the options with what they took, and the
rest. -/
structure Arguments where
  options : List (Char × Option String)
  operands : List String
deriving Repr, DecidableEq

namespace Arguments

/-- The option was given. -/
def has (a : Arguments) (key : Char) : Bool := a.options.any (·.1 = key)

/-- What the option took the last time. -/
def value? (a : Arguments) (key : Char) : Option String :=
  ((a.options.reverse.find? (·.1 = key)).bind (·.2))

/-- The last of some options that was given. -/
def lastOf? (a : Arguments) (keys : List Char) : Option Char :=
  (a.options.reverse.find? fun o => keys.contains o.1).map (·.1)

/-- One option more. -/
def add (a : Arguments) (key : Char) (value : Option String) : Arguments :=
  { a with options := a.options ++ [(key, value)] }

/-- The option that a long name or its beginning stands for. -/
def longOption (specs : List OptionSpec) (name : String) : Except String OptionSpec :=
  let named := specs.filter (·.long ≠ "")
  match named.find? (·.long = name) with
  | some spec => .ok spec
  | none =>
      match named.filter fun s => name.toList.isPrefixOf s.long.toList with
      | [spec] => .ok spec
      | [] => .error ("unrecognized option '--" ++ name ++ "'")
      | found => .error ("option '--" ++ name ++ "' is ambiguous; possibilities:" ++
          String.join (found.map fun s => " '--" ++ s.long ++ "'"))

/-- Reads a long option with the arguments behind it. -/
def readLong (specs : List OptionSpec) (text : String) (rest : List String) (a : Arguments) :
    Except String (List String × Arguments) :=
  let name := text.toList.takeWhile (· ≠ '=')
  let value? : Option String :=
    match text.toList.drop name.length with
    | [] => none
    | _ :: cs => some (String.ofList cs)
  match longOption specs (String.ofList name) with
  | .error e => .error e
  | .ok spec =>
      match spec.taking, value?, rest with
      | .nothing, none, rest => .ok (rest, a.add spec.key none)
      | .nothing, some _, _ => .error ("option '--" ++ spec.long ++ "' doesn't allow an argument")
      | .perhaps, value?, rest => .ok (rest, a.add spec.key value?)
      | .something, some value, rest => .ok (rest, a.add spec.key (some value))
      | .something, none, value :: rest => .ok (rest, a.add spec.key (some value))
      | .something, none, [] => .error ("option '--" ++ spec.long ++ "' requires an argument")

/-- Reads letters behind one dash, with the arguments behind them. -/
def readLetters (specs : List OptionSpec) : List Char → List String → Arguments →
    Except String (List String × Arguments)
  | [], rest, a => .ok (rest, a)
  | c :: cs, rest, a =>
      match specs.find? fun s => s.short && s.key = c with
      | none => .error ("invalid option -- '" ++ String.singleton c ++ "'")
      | some spec =>
          match spec.taking, cs, rest with
          | .nothing, cs, rest => readLetters specs cs rest (a.add c none)
          | .perhaps, [], rest => .ok (rest, a.add c none)
          | _, d :: cs, rest => .ok (rest, a.add c (some (String.ofList (d :: cs))))
          | .something, [], value :: rest => .ok (rest, a.add c (some value))
          | .something, [], [] =>
              .error ("option requires an argument -- '" ++ String.singleton c ++ "'")

/-- Reads arguments. With `mixed` options may stand behind other arguments. The fuel is a bound on
the number of arguments. -/
def readFrom (specs : List OptionSpec) (mixed : Bool) : Nat → List String → Arguments →
    Except String Arguments
  | 0, rest, a => .ok { a with operands := a.operands ++ rest }
  | _ + 1, [], a => .ok a
  | fuel + 1, arg :: rest, a =>
      match arg.toList with
      | ['-', '-'] => .ok { a with operands := a.operands ++ rest }
      | '-' :: '-' :: name =>
          match readLong specs (String.ofList name) rest a with
          | .error e => .error e
          | .ok (rest, a) => readFrom specs mixed fuel rest a
      | '-' :: c :: cs =>
          match readLetters specs (c :: cs) rest a with
          | .error e => .error e
          | .ok (rest, a) => readFrom specs mixed fuel rest a
      | _ =>
          if mixed then
            readFrom specs mixed fuel rest { a with operands := a.operands ++ [arg] }
          else .ok { a with operands := a.operands ++ arg :: rest }

/-- Reads the arguments of a program. -/
def read (specs : List OptionSpec) (mixed : Bool) (args : List String) :
    Except String Arguments :=
  readFrom specs mixed (args.length + 1) args ⟨[], []⟩

end Arguments

end HostFlash.Utility
