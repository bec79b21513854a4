import HostFlash.Utility.Tool

/-! # Programs that say where they run

The programs that say who runs them and on what kind of machine. All that runs on a machine is run
by its administrator.
-/

namespace HostFlash.Utility

open Tool

/-- Writes who runs the program. -/
def idTool : Tool Unit := do
  let a ← arguments [.flag 'u' "user", .flag 'g' "group", .flag 'G' "groups", .flag 'n' "name",
    .flag 'r' "real", .flag 'z' "zero", .flag 'a' ""] true
  if a.has 'u' || a.has 'g' || a.has 'G' then writeLine (if a.has 'n' then "root" else "0")
  else writeLine "uid=0(root) gid=0(root) groups=0(root)"

/-- Writes the name of who runs the program. -/
def whoamiTool : Tool Unit := do
  let a ← arguments [] true
  match a.operands with
  | [] => writeLine "root"
  | extra :: _ => misused ("extra operand " ++ quoted extra)

/-- Writes what kind of system it is. -/
def unameTool : Tool Unit := do
  let a ← arguments [.flag 'a' "all", .flag 's' "kernel-name", .flag 'o' "operating-system",
    .flag 'm' "machine", .flag 'p' "", .flag 'i' ""] true
  let words :=
    (if a.has 's' || a.has 'a' || a.options = [] then ["Linux"] else []) ++
    (if a.has 'm' || a.has 'a' then ["x86_64"] else []) ++
    (if a.has 'o' || a.has 'a' then ["GNU/Linux"] else [])
  writeLine (" ".intercalate words)

/-- Says that there is no terminal. -/
def ttyTool : Tool Unit := do
  let a ← arguments [.flag 's' "quiet", .longFlag 's' "silent"] true
  if !a.has 's' then writeLine "not a tty"
  flush
  exit 1

end HostFlash.Utility
