import HostFlash.Text.Regex

/-! # Programs of rules

A program of rules works on records. A rule has a pattern, which chooses records, and an action,
which is done for each record that is chosen. Actions are written in a language of statements and
expressions, whose values are numbers and byte texts.
-/

namespace HostFlash.Utility.Rules

/-- The operators between numbers. -/
inductive Operator where
  | add
  | subtract
  | multiply
  | divide
  | remainder
  | power
deriving Repr, DecidableEq

/-- The ways to compare two values. -/
inductive Relation where
  | less
  | atMost
  | equal
  | unequal
  | greater
  | atLeast
deriving Repr, DecidableEq

/-- Where a record is read from. -/
inductive Origin where
  /-- The input of the program. -/
  | input
  | file
  /-- The output of a command. -/
  | command
deriving Repr, DecidableEq

/-- An expression. -/
inductive Expr where
  | number (value : Float)
  | text (value : String)
  /-- A regular expression, which stands for itself where one is asked for, and otherwise for
  whether the record fits it. -/
  | regex (value : Text.Regex)
  | name (name : String)
  | element (array : String) (keys : List Expr)
  | field (number : Expr)
  /-- An expression in parentheses. -/
  | group (value : Expr)
  | conditional (condition yes no : Expr)
  | either (left right : Expr)
  | both (left right : Expr)
  | negation (value : Expr)
  | minus (value : Expr)
  | plus (value : Expr)
  /-- The array has the key. -/
  | member (keys : List Expr) (array : String)
  | fits (positive : Bool) (subject pattern : Expr)
  | compare (relation : Relation) (left right : Expr)
  | concat (left right : Expr)
  | binary (operator : Operator) (left right : Expr)
  /-- Sets a variable, an element or a field, to a value or to what an operator makes of both. -/
  | assign (operator : Option Operator) (target value : Expr)
  /-- Counts a variable, an element or a field up or down. The value is the one from before, or the
  new one. -/
  | count (up isNew : Bool) (target : Expr)
  | call (function : String) (arguments : List Expr)
  | builtin (function : String) (arguments : List Expr)
  /-- Reads a record into the target, or as the record that is worked on. -/
  | getRecord (target : Option Expr) (origin : Origin) (source : Option Expr)
deriving Repr

/-- Where output goes. -/
inductive Outlet where
  | standard
  | file (path : Expr) (appending : Bool)
  | command (text : Expr)
deriving Repr

/-- A statement. -/
inductive Stmt where
  | block (body : List Stmt)
  | value (expr : Expr)
  | print (values : List Expr) (outlet : Outlet)
  | format (values : List Expr) (outlet : Outlet)
  | choose (condition : Expr) (yes : Stmt) (no : Option Stmt)
  /-- Repeats the body as long as the condition holds. With `late` it is done once before the
  condition is looked at. -/
  | loop (late : Bool) (condition : Expr) (step : Option Stmt) (body : Stmt)
  /-- Does the body for each key of an array. -/
  | each (name array : String) (body : Stmt)
  | next
  | nextFile
  | leave
  | again
  | exit (status : Option Expr)
  | giveBack (value : Option Expr)
  /-- Takes a key, or all keys, away from an array. -/
  | delete (array : String) (keys : Option (List Expr))
deriving Repr

/-- What chooses records. -/
inductive Pattern where
  | start
  | finish
  | always
  | holds (condition : Expr)
  /-- From a record that one expression chooses to one that the other chooses. -/
  | range (first last : Expr)
deriving Repr

/-- The pattern is for the time before all records. -/
def Pattern.isStart : Pattern → Bool
  | start => true
  | _ => false

/-- A rule. Without an action, the record is printed. -/
structure Rule where
  pattern : Pattern
  action : Option Stmt
deriving Repr

/-- A function. -/
structure Function where
  name : String
  parameters : List String
  body : Stmt
deriving Repr

/-- A program. -/
structure Program where
  rules : List Rule
  functions : List Function
deriving Repr

namespace Program

/-- The function of a name. -/
def function? (p : Program) (name : String) : Option Function :=
  p.functions.find? (·.name = name)

end Program

end HostFlash.Utility.Rules
