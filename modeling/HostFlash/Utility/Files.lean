import HostFlash.Utility.Words

/-! # Programs that change files

The programs that copy, move, make and take away files and directories.
-/

namespace HostFlash.Utility

open Tool

/-- A name below a directory. -/
def below (directory name : String) : String :=
  if directory.toList.getLast? = some '/' then directory ++ name else directory ++ "/" ++ name

/-- What is known of the file at a path, if there is one. -/
def infoOf? (follow : Bool) (path : String) : Tool (Option FileInfo) := do
  match ← ask (.inspect path follow) with
  | .ok info => pure (some info)
  | .error _ => pure none

/-- The path leads to a directory. -/
def isDirectory (path : String) : Tool Bool := do
  match ← infoOf? true path with
  | some info => pure (info.kind == .directory)
  | none => pure false

/-- Changes the files, and gives the answer whether that could be. -/
def change (alteration : Alteration) (complaint : String) : Tool Bool := do
  match ← ask (.alter alteration) with
  | .ok () => pure true
  | .error e => do
      complainOf complaint e
      pure false

/-- The steps on the way to a path, the shortest first. -/
def waysTo (path : String) : List String :=
  let pieces := Path.pieces path
  let ways := (List.range pieces.length).map fun n => "/".intercalate (pieces.take (n + 1))
  (ways.zip pieces).filterMap fun (way, piece) => if piece = "" then none else some way

/-! ## Where things go -/

/-- The sources that are copied or moved, each with its target. -/
def targets (a : Arguments) : Tool (List (String × String)) := do
  let into (directory : String) (sources : List String) : List (String × String) :=
    sources.map fun s => (s, below directory (baseName s))
  match a.value? 't', a.operands with
  | some directory, [] => do
      let _ := directory
      misused "missing file operand"
  | some directory, sources => do
      match ← ask (.inspect directory true) with
      | .error e => fail ("target directory " ++ quoted directory ++ ": " ++ e.reason)
      | .ok info =>
          if info.kind = .directory then pure (into directory sources)
          else fail ("target directory " ++ quoted directory ++ ": Not a directory")
  | none, [] => misused "missing file operand"
  | none, [only] => misused ("missing destination file operand after " ++ quoted only)
  | none, operands => do
      let last := operands.getLast?.getD ""
      let sources := operands.dropLast
      if a.has 'T' then
        match sources with
        | [source] => pure [(source, last)]
        | _ => misused ("extra operand " ++ quoted (operands.getD 2 ""))
      else if ← isDirectory last then pure (into last sources)
      else
        match sources with
        | [source] => pure [(source, last)]
        | _ =>
            match ← ask (.inspect last true) with
            | .ok _ => fail ("target " ++ quoted last ++ ": Not a directory")
            | .error e => fail ("target " ++ quoted last ++ ": " ++ e.reason)

/-! ## Copying -/

/-- How files are copied. -/
structure Copying where
  recursive : Bool
  follow : Bool
  verbose : Bool
  keep : Bool

/-- Copies what is open to an open file with a name. -/
def copyContent (source target : Nat) (name : String) : Tool (Except IoError Unit) :=
  eachBlock source fun text => do
    match ← routine (Routine.put target (Text.Octets.toBytes text)) with
    | .ok () => pure true
    | .error e => do
        complain ("error writing " ++ quoted name ++ ": " ++ e.reason)
        pure false

/-- Copies a file. -/
def copyFile (source target : String) (info : FileInfo) (existing : Option FileInfo) :
    Tool Unit := do
  match ← ask (.openFile source .reader 0) with
  | .error e => complain ("cannot open " ++ quoted source ++ " for reading: " ++ e.reason)
  | .ok input => do
      match ← ask (.openFile target .writer 0) with
      | .error e =>
          let e := if e = .isDirectory then .notDirectory else e
          complain ("cannot create regular file " ++ quoted target ++ ": " ++ e.reason)
      | .ok output => do
          match ← copyContent input output target with
          | .ok () => pure ()
          | .error e => complain ("error reading " ++ quoted source ++ ": " ++ e.reason)
          let _ ← ask (.close output)
          if existing.isNone && info.executable && info.kind = .regular then
            let _ ← ask (.alter (.setExecutable target true))
      let _ ← ask (.close input)

/-- Copies a file, or a directory with all that is in it. The fuel is a bound on the depth. -/
def copyTree (c : Copying) : Nat → String → String → Tool Unit
  | 0, _, _ => pure ()
  | fuel + 1, source, target => do
      match ← ask (.inspect source c.follow) with
      | .error e => complain ("cannot stat " ++ quoted source ++ ": " ++ e.reason)
      | .ok info => do
          let seen ← ask (.inspect target true)
          if seen matches .error .notDirectory then
            complain ("cannot stat " ++ quoted target ++ ": Not a directory")
            return
          let existing := seen.toOption
          let announce : Tool Unit :=
            if c.verbose then writeLine (quoted source ++ " -> " ++ quoted target) else pure ()
          let children : Tool Unit := do
            match ← ask (.list source) with
            | .error e => complain ("cannot access " ++ quoted source ++ ": " ++ e.reason)
            | .ok names =>
                names.forM fun name => copyTree c fuel (below source name) (below target name)
          if c.keep && existing.isSome then pure ()
          else if info.kind = .directory then
            if !c.recursive then
              complain ("-r not specified; omitting directory " ++ quoted source)
            else
              match existing with
              | some e =>
                  if e.kind ≠ .directory then
                    complain ("cannot overwrite non-directory " ++ quoted target ++
                      " with directory " ++ quoted source)
                  else if info.location.isPrefixOf e.location then
                    complain ("cannot copy a directory, " ++ quoted source ++ ", into itself, " ++
                      quoted target)
                  else children
              | none => do
                  match ← infoOf? true (dirName target) with
                  | some parent =>
                      if info.location.isPrefixOf parent.location then
                        complain ("cannot copy a directory, " ++ quoted source ++
                          ", into itself, " ++ quoted target)
                      else
                        announce
                        if ← change (.makeDirectory target)
                            ("cannot create directory " ++ quoted target) then
                          children
                  | none =>
                      complain ("cannot create directory " ++ quoted target ++
                        ": No such file or directory")
          else if info.kind = .link then
            match ← ask (.linkTarget source) with
            | .error e => complain ("cannot read symbolic link " ++ quoted source ++ ": " ++
                e.reason)
            | .ok link => do
                if existing.isSome then
                  let _ ← ask (.alter (.removeFile target))
                let _ ← change (.makeLink target link)
                  ("cannot create symbolic link " ++ quoted target)
                announce
          else
            match existing with
            | some e =>
                if e.kind = .directory then
                  complain ("cannot overwrite directory " ++ quoted target ++
                    " with non-directory")
                else if e.location = info.location then
                  complain (quoted source ++ " and " ++ quoted target ++ " are the same file")
                else
                  announce
                  copyFile source target info existing
            | none => do
                announce
                copyFile source target info none

/-- How deep directories may be nested. -/
def deepest : Nat := 1000

/-- Copies files. -/
def cpTool : Tool Unit := do
  let a ← arguments [.flag 'a' "archive", .flag 'd' "", .flag 'f' "force", .flag 'i' "interactive",
    .flag 'H' "", .flag 'L' "dereference", .flag 'n' "no-clobber", .flag 'P' "no-dereference",
    .flag 'p' "preserve", .flag 'R' "recursive", .flag 'r' "", .value 't' "target-directory",
    .flag 'T' "no-target-directory", .flag 'u' "update", .flag 'v' "verbose", .flag 'x' ""] true
  let recursive := a.has 'r' || a.has 'R' || a.has 'a'
  let c : Copying :=
    { recursive := recursive, verbose := a.has 'v', keep := a.has 'n',
      follow := a.has 'L' || !(recursive || a.has 'd' || a.has 'P') }
  (← targets a).forM fun (source, target) => copyTree c deepest source target

/-! ## Moving -/

/-- Moves a file. -/
def moveOne (verbose keep : Bool) (source target : String) : Tool Unit := do
  match ← ask (.inspect source false) with
  | .error e => complain ("cannot stat " ++ quoted source ++ ": " ++ e.reason)
  | .ok info => do
      match ← ask (.inspect target false) with
      | .ok e =>
          if e.location = info.location then
            complain (quoted source ++ " and " ++ quoted target ++ " are the same file")
          else if keep then complain ("not replacing " ++ quoted target)
          else if e.kind ≠ .directory && info.kind = .directory then
            complain ("cannot overwrite non-directory " ++ quoted target ++ " with directory " ++
              quoted source)
          else if e.kind = .directory && info.kind ≠ .directory then
            complain ("cannot overwrite directory " ++ quoted target ++ " with non-directory " ++
              quoted source)
          else go
      | .error .notDirectory => complain ("cannot stat " ++ quoted target ++ ": Not a directory")
      | .error _ => go
where
  /-- Moves a file that may be moved. -/
  go : Tool Unit := do
    match ← ask (.alter (.rename source target)) with
    | .ok () => if verbose then writeLine ("renamed " ++ quoted source ++ " -> " ++ quoted target)
    | .error .invalidArgument =>
        complain ("cannot move " ++ quoted source ++ " to a subdirectory of itself, " ++
          quoted target)
    | .error .notEmpty => complain ("cannot overwrite " ++ quoted target ++ ": Directory not empty")
    | .error e =>
        complain ("cannot move " ++ quoted source ++ " to " ++ quoted target ++ ": " ++ e.reason)

/-- Moves files. -/
def mvTool : Tool Unit := do
  let a ← arguments [.flag 'f' "force", .flag 'i' "interactive", .flag 'n' "no-clobber",
    .value 't' "target-directory", .flag 'T' "no-target-directory", .flag 'u' "update",
    .flag 'v' "verbose"] true
  let keep := a.lastOf? ['f', 'i', 'n'] = some 'n'
  (← targets a).forM fun (source, target) => moveOne (a.has 'v') keep source target

/-! ## Taking away -/

/-- How files are taken away. -/
structure Removing where
  force : Bool
  recursive : Bool
  directories : Bool
  verbose : Bool

/-- Takes a file or a directory away. The fuel is a bound on the depth. -/
def removeOne (r : Removing) : Nat → String → Tool Unit
  | 0, _ => pure ()
  | fuel + 1, path => do
      let refuse (e : IoError) : Tool Unit :=
        complain ("cannot remove " ++ quoted path ++ ": " ++ e.reason)
      match ← ask (.inspect path false) with
      | .error e =>
          if r.force && (e = .noEntry || e = .notDirectory) then pure () else refuse e
      | .ok info =>
          if info.kind = .directory then
            if !r.recursive && !r.directories then refuse .isDirectory
            else do
              if r.recursive then
                match ← ask (.list path) with
                | .ok names => names.forM fun name => removeOne r fuel (below path name)
                | .error e => refuse e
              match ← ask (.alter (.removeDirectory path)) with
              | .ok () => if r.verbose then writeLine ("removed directory " ++ quoted path)
              | .error e => refuse e
          else
            match ← ask (.alter (.removeFile path)) with
            | .ok () => if r.verbose then writeLine ("removed " ++ quoted path)
            | .error e => refuse e

/-- Takes files away. -/
def rmTool : Tool Unit := do
  let a ← arguments [.flag 'd' "dir", .flag 'f' "force", .flag 'i' "", .flag 'I' "",
    .flag 'r' "recursive", .flag 'R' "", .flag 'v' "verbose",
    .longFlag '1' "one-file-system", .longFlag '2' "preserve-root",
    .longFlag '3' "no-preserve-root"] true
  let r : Removing :=
    ⟨a.has 'f', a.has 'r' || a.has 'R', a.has 'd', a.has 'v'⟩
  if a.operands = [] && !r.force then misused "missing operand"
  a.operands.forM fun path => do
    let name := baseName path
    if (name = "." || name = "..") && (r.recursive || r.directories) then
      complain ("refusing to remove '.' or '..' directory: skipping " ++ quoted path)
    else if r.recursive && Path.trimmed path = "/" then
      complain "it is dangerous to operate recursively on '/'"
      complain "use --no-preserve-root to override this failsafe"
    else removeOne r deepest path

/-- Takes an empty directory away, and with `parents` those above it. -/
def removeEmpty (verbose ignoring : Bool) : List String → Tool Unit
  | [] => pure ()
  | path :: rest => do
      if verbose then writeLine ((← get).name ++ ": removing directory, " ++ quoted path)
      match ← ask (.alter (.removeDirectory path)) with
      | .ok () => removeEmpty verbose ignoring rest
      | .error e =>
          if ignoring && e = .notEmpty then pure ()
          else complain ("failed to remove " ++ quoted path ++ ": " ++ e.reason)

/-- Takes empty directories away. -/
def rmdirTool : Tool Unit := do
  let a ← arguments [.flag 'p' "parents", .flag 'v' "verbose",
    .longFlag '1' "ignore-fail-on-non-empty"] true
  if a.operands = [] then misused "missing operand"
  a.operands.forM fun path =>
    removeEmpty (a.has 'v') (a.has '1') (if a.has 'p' then (waysTo path).reverse else [path])

/-! ## Making -/

/-- Makes a directory with those on the way to it. -/
def makeWay (verbose : Bool) : List String → Tool Unit
  | [] => pure ()
  | path :: rest => do
      if ← isDirectory path then makeWay verbose rest
      else
        match ← ask (.alter (.makeDirectory path)) with
        | .ok () => do
            if verbose then
              writeLine ((← get).name ++ ": created directory " ++ quoted path)
            makeWay verbose rest
        | .error e =>
            let e := if e = .occupied && rest ≠ [] then .notDirectory else e
            complain ("cannot create directory " ++ quoted path ++ ": " ++ e.reason)

/-- Makes directories. -/
def mkdirTool : Tool Unit := do
  let a ← arguments [.value 'm' "mode", .flag 'p' "parents", .flag 'v' "verbose"] true
  if a.operands = [] then misused "missing operand"
  a.operands.forM fun path => do
    if a.has 'p' && path ≠ "" then makeWay (a.has 'v') (waysTo path)
    else if ← change (.makeDirectory path) ("cannot create directory " ++ quoted path) then
      if a.has 'v' then writeLine ((← get).name ++ ": created directory " ++ quoted path)

/-- Makes files that are not there. -/
def touchTool : Tool Unit := do
  let a ← arguments [.flag 'a' "", .flag 'c' "no-create", .value 'd' "date", .flag 'f' "",
    .flag 'h' "no-dereference", .flag 'm' "", .value 'r' "reference", .value 't' ""] true
  if a.operands = [] then misused "missing file operand"
  a.operands.forM fun path => do
    if (← infoOf? true path).isSome || (a.has 'c' && path ≠ "") then pure ()
    else
      match ← ask (.openFile path .patcher 0) with
      | .ok number =>
          let _ ← ask (.close number)
      | .error e =>
          if Path.endsInSlash path then
            let e :=
              match ← ask (.inspect path true) with
              | .ok _ => e
              | .error e => e
            complain ("setting times of " ++ quoted path ++ ": " ++ e.reason)
          else complain ("cannot touch " ++ quoted path ++ ": " ++ e.reason)

/-- Makes a link to a file under another path. -/
def linkOne (symbolic force verbose : Bool) (source target : String) : Tool Unit := do
  let kind := if symbolic then "symbolic" else "hard"
  let complaint := "failed to create " ++ kind ++ " link " ++ quoted target
  let refuse (e : IoError) : Tool Unit :=
    complain (complaint ++ (if e = .occupied then "" else " => " ++ quoted source) ++ ": " ++
      e.reason)
  let announce : Tool Unit :=
    if verbose then
      writeLine (quoted target ++ (if symbolic then " -> " else " => ") ++ quoted source)
    else pure ()
  if symbolic then
    if force && (← infoOf? false target).isSome then
      let _ ← ask (.alter (.removeFile target))
    if ← change (.makeLink target source) complaint then announce
  else
    match ← ask (.inspect source false) with
    | .error e => complain ("failed to access " ++ quoted source ++ ": " ++ e.reason)
    | .ok info =>
        if info.kind = .directory then
          complain (source ++ ": hard link not allowed for directory")
        else
          match ← infoOf? false target with
          | some _ =>
              if force then
                let _ ← ask (.alter (.removeFile target))
                copyFile source target info none
                announce
              else refuse .occupied
          | none => do
              if Path.endsInSlash target then
                refuse (if (← infoOf? false (Path.trimmed target)).isSome then .occupied
                  else .noEntry)
              else
                match ← ask (.inspect (dirName target) true) with
                | .error e => refuse e
                | .ok parent =>
                    if parent.kind = .directory then
                      copyFile source target info none
                      announce
                    else refuse .notDirectory

/-- Makes links. -/
def lnTool : Tool Unit := do
  let a ← arguments [.flag 'f' "force", .flag 'i' "interactive", .flag 'n' "no-dereference",
    .flag 'r' "relative", .flag 's' "symbolic", .value 't' "target-directory",
    .flag 'T' "no-target-directory", .flag 'v' "verbose"] true
  let link := linkOne (a.has 's') (a.has 'f') (a.has 'v')
  match a.operands, a.value? 't' with
  | [only], none => link only (below "." (baseName only))
  | [source, target], none => do
      let isInto : Bool ←
        if a.has 'T' then pure false
        else if a.has 'n' then do
          match ← infoOf? false target with
          | some info => pure (info.kind == .directory)
          | none => pure false
        else isDirectory target
      link source (if isInto then below target (baseName source) else target)
  | _, _ => (← targets a).forM fun (source, target) => link source target

/-! ## Modes -/

/-- What a mode says about running a file, for a file that may be run or not. -/
def executableIn (mode : String) (before : Bool) : Option Bool :=
  let isOctal := mode ≠ "" && mode.toList.all fun c => '0' ≤ c && c ≤ '7'
  if isOctal then
    let n := Nat.ofDigitChars 8 mode.toList 0
    if n > 4095 then none else some ((n / 64) % 2 = 1 || (n / 8) % 2 = 1 || n % 2 = 1)
  else
    (Text.splitOn ',' mode.toList).foldlM (fun isSet clause => do
      let who := clause.takeWhile fun c => c = 'u' || c = 'g' || c = 'o' || c = 'a'
      match clause.drop who.length with
      | op :: rights =>
          if (op = '+' || op = '-' || op = '=') &&
              rights.all fun c => ['r', 'w', 'x', 'X', 's', 't'].contains c then
            let named := rights.contains 'x' || (rights.contains 'X' && isSet)
            if op = '+' then some (isSet || named)
            else if op = '-' then
              some (isSet && !(named && (who = [] || who.contains 'a' ||
                (who.contains 'u' && who.contains 'g' && who.contains 'o'))))
            else some named
          else none
      | [] => none) before

/-- Sets the mode of a file, and of all that is below it. The fuel is a bound on the depth. -/
def setMode (mode : String) (recursive : Bool) : Nat → String → Tool Unit
  | 0, _ => pure ()
  | fuel + 1, path => do
      match ← ask (.inspect path true) with
      | .error e => complain ("cannot access " ++ quoted path ++ ": " ++ e.reason)
      | .ok info => do
          let executable := (executableIn mode info.executable).getD info.executable
          let _ ← ask (.alter (.setExecutable path executable))
          if recursive && info.kind = .directory then
            match ← ask (.list path) with
            | .ok names => names.forM fun name => setMode mode recursive fuel (below path name)
            | .error _ => pure ()

/-- Sets the modes of files. -/
def chmodTool : Tool Unit := do
  -- A mode that begins with a minus sign is no option.
  let isMode (arg : String) : Bool :=
    match arg.toList with
    | '-' :: cs => cs ≠ [] && cs.all fun c => ['r', 'w', 'x', 'X', 's', 't', ','].contains c
    | _ => false
  let args := (← get).args
  let mode? := args.find? isMode
  modify fun s => { s with args := args.filter (!isMode ·) }
  let a ← arguments [.flag 'c' "changes", .flag 'f' "quiet", .flag 'R' "recursive",
    .flag 'v' "verbose"] true
  let operands := mode?.toList ++ a.operands
  match operands with
  | [] => misused "missing operand"
  | [mode] => misused ("missing operand after " ++ quoted mode)
  | mode :: paths => do
      if (executableIn mode false).isNone then misused ("invalid mode: " ++ quoted mode)
      paths.forM (setMode mode (a.has 'R') deepest)

/-! ## Asking -/

/-- The path of what a path leads to, through all links. With `missing` nothing has to be there
at its end. -/
def resolved (missing : Bool) (path : String) : Tool (Except IoError String) := do
  match ← ask (.inspect path true) with
  | .ok info => pure (.ok (Text.Octets.ofText (Path.ofLocation info.location)))
  | .error e => do
      if !missing || e ≠ .noEntry then pure (.error e)
      else
        match ← ask (.inspect (dirName path) true) with
        | .ok info =>
            pure (.ok (below (Text.Octets.ofText (Path.ofLocation info.location))
              (baseName path)))
        | .error e => pure (.error e)

/-- Writes what links lead to. -/
def readlinkTool : Tool Unit := do
  let a ← arguments [.flag 'f' "canonicalize", .flag 'e' "canonicalize-existing",
    .flag 'm' "canonicalize-missing", .flag 'n' "no-newline", .flag 'q' "quiet", .flag 's' "silent",
    .flag 'v' "verbose", .flag 'z' "zero"] true
  if a.operands = [] then misused "missing operand"
  let finish := if a.has 'n' then "" else if a.has 'z' then "\x00" else "\n"
  a.operands.forM fun path => do
    let found ←
      if a.has 'f' || a.has 'e' || a.has 'm' then resolved (!a.has 'e') path
      else ask (.linkTarget path)
    match found with
    | .ok text => write (text ++ finish)
    | .error e =>
        if a.has 'v' then complainOf path e else modify fun s => { s with status := 1 }

/-- Writes where paths lead. -/
def realpathTool : Tool Unit := do
  let a ← arguments [.flag 'e' "canonicalize-existing", .flag 'm' "canonicalize-missing",
    .flag 'q' "quiet", .flag 's' "strip", .flag 'z' "zero", .flag 'L' "logical",
    .flag 'P' "physical"] true
  if a.operands = [] then misused "missing operand"
  a.operands.forM fun path => do
    match ← resolved (!a.has 'e') path with
    | .ok text => write (text ++ (if a.has 'z' then "\x00" else "\n"))
    | .error e => complainOf path e

/-- Makes a file or a directory with a name that is new. -/
def mktempTool : Tool Unit := do
  let a ← arguments [.flag 'd' "directory", .value 'p' "tmpdir", .flag 'q' "quiet", .flag 't' "",
    .flag 'u' "dry-run", .longValue 's' "suffix"] true
  let template := a.operands.headD "tmp.XXXXXXXXXX"
  let place := (a.value? 'p').getD (((← get).environment.lookup "TMPDIR").getD "/tmp")
  let marks := (template.toList.reverse.takeWhile (· = 'X')).length
  if marks < 3 then fail ("too few X's in template " ++ quoted template)
  let front := String.ofList (template.toList.take (template.length - marks))
  let start ← ask .identity
  let rec go : Nat → Nat → Tool Unit
    | 0, _ => fail ("failed to create file via template " ++ quoted template ++ ": File exists")
    | fuel + 1, n => do
        let digits := Nat.toDigits 10 (n % Nat.pow 10 marks)
        let name := front ++ String.ofList (List.replicate (marks - digits.length) '0' ++ digits)
        let path := if a.operands = [] || a.has 'p' || a.has 't' then below place name else name
        let r : Except IoError Unit ←
          if a.has 'd' then ask (.alter (.makeDirectory path))
          else
            match ← ask (.openFile path .maker 0) with
            | .ok number => ask (.close number)
            | .error e => pure (.error e)
        match r with
        | .ok () => do
            if a.has 'u' then
              let _ ← ask (.alter (.removeFile path))
            writeLine path
        | .error .occupied => go fuel (n + 1)
        | .error e =>
            fail ("failed to create " ++ (if a.has 'd' then "directory" else "file") ++
              " via template " ++ quoted (if a.operands = [] then below place template
                else template) ++ ": " ++ e.reason)
  go 1000 (start * 7919 + 1679616)

end HostFlash.Utility
