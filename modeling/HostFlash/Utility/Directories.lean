import HostFlash.Shell.Pattern
import HostFlash.Utility.Files
import HostFlash.Utility.Launching

/-! # Programs that list files

The programs that list what is in directories, look for files below them, and say what is known of
a file. What is in a directory comes in the order of the names.
-/

namespace HostFlash.Utility

open Tool

/-! ## Listing -/

/-- How files are listed. -/
structure Listing where
  /-- Names that begin with a dot are listed: none, all, or all but those of the directory itself
  and the one above it. -/
  hidden : Option Bool
  reversed : Bool
  bySize : Bool
  recursive : Bool
  marksAll : Bool
  marksDirectories : Bool
  long : Bool
  joined : Bool
  quotes : Bool
  follow : Bool

/-- A file in a list. -/
structure ListedFile where
  name : String
  info : FileInfo
  path : String

namespace Listing

/-- The mark behind a name that says what it is the name of. -/
def mark (l : Listing) (info : FileInfo) : String :=
  match info.kind with
  | .directory => if l.marksAll || l.marksDirectories then "/" else ""
  | .link => if l.marksAll && !l.long then "@" else ""
  | .pipe => if l.marksAll then "|" else ""
  | .regular => if l.marksAll && info.executable then "*" else ""
  | .device => ""

/-- A name as it is listed. -/
def shownName (l : Listing) (f : ListedFile) : String :=
  (if l.quotes then "\"" ++ f.name ++ "\"" else f.name) ++ l.mark f.info

/-- The letters for what may be done with a file. -/
def modeText (info : FileInfo) : String :=
  match info.kind with
  | .directory => "drwxr-xr-x"
  | .link => "lrwxrwxrwx"
  | .device => "crw-rw-rw-"
  | .pipe => "prw-------"
  | .regular => if info.executable then "-rwxr-xr-x" else "-rw-r--r--"

/-- The files in the order of the list. -/
def sort (l : Listing) (files : List ListedFile) : List ListedFile :=
  let byName := files.mergeSort fun a b => a.name ≤ b.name
  let sorted := if l.bySize then byName.mergeSort fun a b => a.info.size ≥ b.info.size else byName
  if l.reversed then sorted.reverse else sorted

/-- Writes a list. -/
def print (l : Listing) (files : List ListedFile) : Tool Unit := do
  if l.long then
    let width := (files.map fun f => (toString f.info.size).length).foldl max 0
    files.forM fun f => do
      let target ←
        if f.info.kind = .link then
          match ← ask (.linkTarget f.path) with
          | .ok target => pure (" -> " ++ target)
          | .error _ => pure ""
        else pure ""
      let size := toString f.info.size
      writeLine (modeText f.info ++ " 1 root root " ++
        String.ofList (List.replicate (width - size.length) ' ') ++ size ++ " Jan  1  1970 " ++
        l.shownName f ++ target)
  else if l.joined then
    if files ≠ [] then writeLine (", ".intercalate (files.map l.shownName))
  else files.forM fun f => writeLine (l.shownName f)

/-- What is in a directory. -/
def contents (l : Listing) (start : String) : Tool (Option (List ListedFile)) := do
  match ← ask (.list start) with
  | .error e => do
      complain ("cannot open directory " ++ quoted start ++ ": " ++ e.reason)
      pure none
  | .ok names => do
      let all : List String :=
        match l.hidden with
        | none => names.filter fun (n : String) => n.toList.head? ≠ some '.'
        | some true => "." :: ".." :: names
        | some false => names
      let files ← all.filterMapM fun name => do
        let path := below start name
        match ← infoOf? l.follow path with
        | some info => pure (some (⟨name, info, path⟩ : ListedFile))
        | none => do
            match ← infoOf? false path with
            | some info => do
                let shown := if start = "." then name else path
                complain ("cannot access " ++ quoted shown ++ ": No such file or directory")
                modify fun s => { s with status := 1 }
                pure (some ⟨name, info, path⟩)
            | none => pure none
      pure (some (l.sort files))

/-- Lists a directory, and with `recursive` those below it. The fuel is a bound on the depth. The
state says whether something was listed before. -/
def printDirectory (l : Listing) (titles : Bool) : Nat → String → Bool → Tool Bool
  | 0, _, any => pure any
  | fuel + 1, path, any => do
      match ← l.contents path with
      | none => pure any
      | some files => do
          if titles || l.recursive then
            if any then write "\n"
            writeLine (path ++ ":")
          if l.long then writeLine "total 0"
          l.print files
          if l.recursive then
            let inner := files.filter fun f =>
              f.info.kind == .directory && f.name ≠ "." && f.name ≠ ".."
            inner.foldlM (fun any f => l.printDirectory titles fuel f.path any) true
          else pure true

end Listing

/-- The options of the program that lists files. -/
def lsOptions : List OptionSpec :=
  [.flag 'a' "all", .flag 'A' "almost-all", .flag 'd' "directory", .flag 'r' "reverse",
   .flag 'R' "recursive", .flag 'F' "classify", .flag 'p' "", .flag 'S' "", .flag 'U' "",
   .flag 'f' "", .flag '1' "", .flag 'm' "", .flag 'l' "", .flag 'g' "", .flag 'o' "",
   .flag 'n' "numeric-uid-gid", .flag 'C' "", .flag 'x' "", .flag 'Q' "quote-name",
   .flag 'L' "dereference", .flag 'H' "", .flag 'h' "human-readable", .flag 'i' "inode",
   .flag 's' "size", .flag 't' "", .flag 'u' "", .flag 'c' "", .flag 'X' "", .flag 'v' "",
   .flag 'q' "hide-control-chars", .flag 'b' "escape", .flag 'N' "literal", .flag 'k' "kibibytes",
   .flag 'G' "no-group", .flag 'B' "ignore-backups", .value 'w' "width",
   ⟨'!', "color", .perhaps, false⟩, .longValue '%' "sort"]

/-- Lists files. -/
def lsTool : Tool Unit := do
  modify fun s => { s with failure := 2 }
  let a ← arguments lsOptions true
  let l : Listing :=
    { hidden := match a.lastOf? ['a', 'A', 'f'] with
        | some 'A' => some false
        | some _ => some true
        | none => none
      reversed := a.has 'r'
      bySize := a.has 'S' || a.value? '%' = some "size"
      recursive := a.has 'R' && !a.has 'd'
      marksAll := a.has 'F'
      marksDirectories := a.has 'p'
      long := a.has 'l' || a.has 'g' || a.has 'o' || a.has 'n'
      joined := a.has 'm'
      quotes := a.has 'Q'
      follow := a.has 'L' }
  let follows := l.follow || a.has 'H' || !(l.long || l.marksAll || a.has 'd')
  let operands := if a.operands = [] then ["."] else a.operands
  let found ← operands.filterMapM fun path => do
    match ← infoOf? follows path with
    | some info => pure (some (⟨path, info, path⟩ : ListedFile))
    | none => do
        match ← ask (.inspect path false) with
        | .ok info => pure (some ⟨path, info, path⟩)
        | .error e => do
            complain ("cannot access " ++ quoted path ++ ": " ++ e.reason)
            pure none
  let (directories, files) := found.partition fun f => f.info.kind == .directory && !a.has 'd'
  l.print (l.sort files)
  let titles := operands.length > 1
  let _ ← (l.sort directories).foldlM (fun any f =>
    l.printDirectory titles deepest f.path any) !files.isEmpty

/-! ## Looking for files -/

/-- What files are looked for, and what is done with those that are found. -/
inductive Criterion where
  | always
  | name (folded : Bool) (pattern : List Shell.Glob)
  | path (pattern : List Shell.Glob)
  | kind (kinds : List FileKind)
  | empty
  | executable
  | print (finish : String)
  | delete
  | quit
  /-- To run a program with the path, and to ask for its end. -/
  | run (name : String) (args : List String)
  /-- To run a program with all paths together. -/
  | collect (name : String) (args : List String)
  | negation (c : Criterion)
  | both (a b : Criterion)
  | either (a b : Criterion)

namespace Criterion

/-- Something is done with the files that are found. -/
def acts : Criterion → Bool
  | print _ | delete | quit | run .. | collect .. => true
  | negation c => c.acts
  | both a b | either a b => a.acts || b.acts
  | _ => false

/-- Files are deleted, so that what is in a directory comes before the directory. -/
def deletes : Criterion → Bool
  | delete => true
  | negation c => c.deletes
  | both a b | either a b => a.deletes || b.deletes
  | _ => false

/-- The programs that are run with all paths together. -/
def collections : Criterion → List (String × List String)
  | collect program args => [(program, args)]
  | negation c => c.collections
  | both a b | either a b => a.collections ++ b.collections
  | _ => []

end Criterion

/-- A search below a path: the files that are left out because they are not deep enough or too
deep. -/
structure Hunt where
  criterion : Criterion
  least : Nat
  most : Option Nat

/-- What a search has come to. -/
structure Catch where
  stopped : Bool
  /-- The paths for each program that is run with all of them, in reverse. -/
  collected : List ((String × List String) × String)

/-- Whether a file is empty. -/
def isEmptyFile (path : String) (info : FileInfo) : Tool Bool := do
  match info.kind with
  | .regular => pure (info.size = 0)
  | .directory =>
      match ← ask (.list path) with
      | .ok names => pure names.isEmpty
      | .error _ => pure false
  | _ => pure false

/-- A text in lower case as a list. -/
def lowered (text : String) : List Char := text.toList.map Char.toLower

/-- Tests a file, and does what is to be done with it. -/
def examine (path : String) (info : FileInfo) : Criterion → Catch → Tool (Bool × Catch)
  | .always, c => pure (true, c)
  | .name folded pattern, c =>
      let name := baseName path
      pure (Shell.Glob.isMatch pattern (if folded then lowered name else name.toList), c)
  | .path pattern, c => pure (Shell.Glob.isMatch pattern path.toList, c)
  | .kind kinds, c => pure (kinds.contains info.kind, c)
  | .empty, c => do pure (← isEmptyFile path info, c)
  | .executable, c => pure (info.executable, c)
  | .print finish, c => do
      write (path ++ finish)
      pure (true, c)
  | .delete, c => do
      let alteration : Alteration :=
        if info.kind = .directory then .removeDirectory path else .removeFile path
      if path = "." then pure (true, c)
      else
        match ← ask (.alter alteration) with
        | .ok () => pure (true, c)
        | .error e => do
            complain ("cannot delete " ++ quoted path ++ ": " ++ e.reason)
            pure (false, c)
  | .quit, c => pure (true, { c with stopped := true })
  | .run name args, c => do
      flush
      let s ← get
      let filled := (name :: args).map fun arg =>
        String.ofList (replaceMark ['\x7b', '\x7d'] path.toList (arg.length + 1) arg.toList)
      let child ← routine (Routine.fork (Routine.program do
        let e ← becomeNamed (filled.headD "") filled.tail s.environment
        let message := s.name ++ ": " ++ quoted (filled.headD "") ++ ": " ++ e.reason ++ "\n"
        let _ ← Routine.put 2 (Text.Octets.toBytes message)
        pure 1))
      match ← ask (.await (some child) true false) with
      | .ended _ (.code 0) => pure (true, c)
      | _ => pure (false, c)
  | .collect name args, c =>
      pure (true, { c with collected := ((name, args), path) :: c.collected })
  | .negation inner, c => do
      let (answer, c) ← examine path info inner c
      pure (!answer, c)
  | .both first second, c => do
      let (answer, c) ← examine path info first c
      if answer && !c.stopped then examine path info second c else pure (answer, c)
  | .either first second, c => do
      let (answer, c) ← examine path info first c
      if answer || c.stopped then pure (answer, c) else examine path info second c

/-- Looks at a file and at all that is below it. The fuel is a bound on the depth. -/
def hunt (h : Hunt) : Nat → Nat → String → Catch → Tool Catch
  | 0, _, _, c => pure c
  | fuel + 1, depth, path, c => do
      if c.stopped then pure c
      else
        match ← ask (.inspect path false) with
        | .error e => do
            complain (quoted path ++ ": " ++ e.reason)
            pure c
        | .ok info => do
            let look (c : Catch) : Tool Catch := do
              if depth < h.least || c.stopped then pure c
              else pure (← examine path info h.criterion c).2
            let descend (c : Catch) : Tool Catch := do
              if info.kind ≠ .directory || h.most.any (· ≤ depth) || c.stopped then pure c
              else
                match ← ask (.list path) with
                | .error e => do
                    complain (quoted path ++ ": " ++ e.reason)
                    pure c
                | .ok names => names.foldlM (fun c name => hunt h fuel (depth + 1)
                    (below path name) c) c
            if h.criterion.deletes then look (← descend c) else descend (← look c)

/-- The pattern of an argument. -/
def globOf (text : String) : List Shell.Glob :=
  Shell.Glob.ofMarked (text.toList.map (·, false))

/-- A hunt as it is read, with the criterion so far. -/
abbrev HuntReader := StateT (List String × Nat × Option Nat) Tool

namespace HuntReader

/-- The next argument. -/
def peek : HuntReader (Option String) := do pure ((← get).1.head?)

/-- Passes over an argument. -/
def skip : HuntReader Unit := modify fun (args, rest) => (args.drop 1, rest)

/-- Ends because of an argument. -/
def refuse {α : Type} (message : String) : HuntReader α := StateT.lift (Tool.fail message)

/-- The argument of a test. -/
def argument (test : String) : HuntReader String := do
  match ← peek with
  | some text => do
      skip
      pure text
  | none => refuse ("missing argument to \x60" ++ test ++ "'")

/-- A number that a test is given. -/
def number (test : String) : HuntReader Nat := do
  let text ← argument test
  if text ≠ "" && text.toList.all Char.isDigit then pure (Nat.ofDigitChars 10 text.toList 0)
  else
    refuse ("Expected a positive decimal integer argument to " ++ test ++ ", but got " ++
      quoted text)

/-- The words of a program that is run. -/
def programWords : HuntReader Criterion := do
  let (args, rest) ← get
  let words := args.takeWhile fun w => w ≠ ";" && w ≠ "+"
  match args.drop words.length with
  | [] => refuse "missing argument to \x60-exec'"
  | finish :: left => do
      set (left, rest)
      let name := words.headD ""
      if finish = "+" then pure (.collect name words.tail.dropLast)
      else pure (.run name words.tail)

/-- The kinds of files that letters stand for. -/
def kindsOf (text : String) : HuntReader (List FileKind) := do
  (Text.splitOn ',' text.toList).mapM fun
    | ['f'] => pure .regular
    | ['d'] => pure .directory
    | ['l'] => pure .link
    | ['p'] => pure .pipe
    | ['c'] => pure .device
    | ['b'] | ['s'] => pure .device
    | _ => refuse ("Unknown argument to -type: " ++ text)

mutual

/-- Reads tests of which one has to come out. The fuel is a bound on the arguments. -/
def alternatives : Nat → HuntReader Criterion
  | 0 => pure .always
  | fuel + 1 => do
      let first ← conjunction fuel
      match ← peek with
      | some "-o" | some "-or" => do
          skip
          pure (.either first (← alternatives fuel))
      | _ => pure first

/-- Reads tests that all have to come out. -/
def conjunction : Nat → HuntReader Criterion
  | 0 => pure .always
  | fuel + 1 => do
      let first ← test fuel
      match ← peek with
      | none | some "-o" | some "-or" | some ")" => pure first
      | some "-a" | some "-and" => do
          skip
          pure (.both first (← conjunction fuel))
      | _ => do pure (.both first (← conjunction fuel))

/-- Reads one test. -/
def test : Nat → HuntReader Criterion
  | 0 => pure .always
  | fuel + 1 => do
      match ← peek with
      | none => pure .always
      | some word => do
          skip
          match word with
          | "!" | "-not" => do pure (.negation (← test fuel))
          | "(" => do
              let inner ← alternatives fuel
              match ← peek with
              | some ")" => do
                  skip
                  pure inner
              | _ => refuse ("invalid expression; expected to find a ')' but didn't see one. " ++
                  "Perhaps you need an extra predicate after '('")
          | "-name" => do pure (.name false (globOf (← argument word)))
          | "-iname" => do pure (.name true (globOf (String.ofList (lowered (← argument word)))))
          | "-path" | "-wholename" => do pure (.path (globOf (← argument word)))
          | "-type" => do pure (.kind (← kindsOf (← argument word)))
          | "-empty" => pure .empty
          | "-executable" => pure .executable
          | "-true" => pure .always
          | "-false" => pure (.negation .always)
          | "-print" => pure (.print "\n")
          | "-print0" => pure (.print "\x00")
          | "-delete" => pure .delete
          | "-quit" => pure .quit
          | "-exec" => programWords
          | "-depth" | "-mount" | "-xdev" => pure .always
          | "-maxdepth" => do
              let n ← number word
              modify fun (args, least, _) => (args, least, some n)
              pure .always
          | "-mindepth" => do
              let n ← number word
              modify fun (args, _, most) => (args, n, most)
              pure .always
          | word => refuse ("unknown predicate \x60" ++ word ++ "'")

end

end HuntReader

/-- Looks for files. -/
def findTool : Tool Unit := do
  let args := (← get).args
  let isTest (arg : String) : Bool :=
    arg = "!" || arg = "(" || (arg ≠ "-" && arg.toList.head? = some '-')
  let args := args.dropWhile fun a => a = "-L" || a = "-H" || a = "-P"
  let paths := args.takeWhile (!isTest ·)
  let tests := args.drop paths.length
  let (criterion, rest, least, most) ←
    (HuntReader.alternatives (2 * tests.length + 2)).run (tests, 0, none)
  match rest with
  | ")" :: _ => fail "invalid expression; you have too many ')'"
  | _ => pure ()
  let criterion := if criterion.acts then criterion else .both criterion (.print "\n")
  let found ← (if paths = [] then ["."] else paths).foldlM (fun c path =>
    hunt ⟨criterion, least, most⟩ deepest 0 path c) ⟨false, []⟩
  let paths := found.collected.reverse
  criterion.collections.forM fun command => do
    let mine := (paths.filter (·.1 = command)).map (·.2)
    if mine ≠ [] then
      let _ ← runGroup false command.1 (command.2 ++ mine)

/-! ## What is known of a file -/

/-- The name of a kind of file. -/
def kindName (info : FileInfo) : String :=
  match info.kind with
  | .directory => "directory"
  | .regular => if info.size = 0 then "regular empty file" else "regular file"
  | .link => "symbolic link"
  | .device => "character special file"
  | .pipe => "fifo"

/-- The rights on a file in octal digits. -/
def rightsText (info : FileInfo) : String :=
  match info.kind with
  | .link => "777"
  | .device => "666"
  | _ => if info.executable then "755" else "644"

/-- What a letter of a format stands for. -/
def statField (path : String) (info : FileInfo) (c : Char) : String :=
  match c with
  | 'n' => path
  | 's' => toString info.size
  | 'F' => kindName info
  | 'a' => rightsText info
  | 'A' => Listing.modeText info
  | 'U' | 'G' => "root"
  | 'u' | 'g' => "0"
  | 'h' => "1"
  | '%' => "%"
  | _ => "?"

/-- A format with its letters replaced. -/
def statText (path : String) (info : FileInfo) : List Char → String
  | '%' :: c :: cs => statField path info c ++ statText path info cs
  | c :: cs => String.singleton c ++ statText path info cs
  | [] => ""

/-- Says what is known of files. -/
def statTool : Tool Unit := do
  let a ← arguments [.value 'c' "format", .longValue 'p' "printf", .flag 'L' "dereference",
    .flag 'f' "file-system", .flag 't' "terse"] true
  if a.operands = [] then misused "missing operand"
  a.operands.forM fun path => do
    match ← ask (.inspect path (a.has 'L')) with
    | .error e => complain ("cannot statx " ++ quoted path ++ ": " ++ e.reason)
    | .ok info =>
        match a.value? 'p', a.value? 'c' with
        | some text, _ => write (format .machine (statText path info text.toList) []).output
        | none, some text => writeLine (statText path info text.toList)
        | none, none => writeLine ("  File: " ++ path ++ "\n  Size: " ++ toString info.size)

end HostFlash.Utility
