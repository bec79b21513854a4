import HostFlash.Shell.Session

/-! # Redirections

Opening files under the descriptors of a script, and putting back what was open there. What a
descriptor leads to is kept under a high number as long as a redirection lasts.
-/

namespace HostFlash.Shell

/-- What a descriptor is made to lead to. -/
inductive Opening where
  /-- With `guarded` the file is not written anew where files are kept. -/
  | file (path : String) (access : Access) (guarded : Bool)
  | descriptor (source : Nat)
  | nothing
  | text (content : String)
deriving Repr, DecidableEq

/-- A descriptor with what it is made to lead to. -/
structure Redirection where
  descriptor : Nat
  opening : Opening
deriving Repr, DecidableEq

/-- A descriptor with the number under which what it led to is kept, if it led anywhere. -/
structure Saved where
  descriptor : Nat
  kept : Option Nat
deriving Repr, DecidableEq

namespace Redirection

/-- The first number that a script does not use itself. -/
def firstHidden : Nat := 10

/-- Why a file cannot be opened, in the words of the shell. -/
def openComplaint (path : String) (access : Access) (e : IoError) : String :=
  let isMissing := e = .noEntry || e = .notDirectory
  if access.creating then
    "cannot create " ++ path ++ ": " ++ (if isMissing then "Directory nonexistent" else e.reason)
  else "cannot open " ++ path ++ ": " ++ (if isMissing then "No such file" else e.reason)

/-- Moves an open file to a number. -/
def moveTo (source target : Nat) : Run Unit := do
  if source ≠ target then
    let _ ← Run.ask (.copy source target)
    let _ ← Run.ask (.close source)

/-- The most that is written into a pipe before anyone reads it. -/
def directText : Nat := 4096

/-- Opens a text for reading. A long text is written by a child. -/
def openText (content : String) : Run Nat := do
  let (source, sink) ← Run.ask .pipe
  if content.length ≤ directText then
    let _ ← Run.put sink content
  else
    let _ ← Run.fork do
      let _ ← Run.ask (.close source)
      let _ ← Run.ask (.react 13 .default)
      let _ ← Run.put sink content
  let _ ← Run.ask (.close sink)
  pure source

/-- Where files are kept, a file that is written anew must not be there, unless it is none that
keeps what is written. -/
def guardedAccess (path : String) (access : Access) : Run Access := do
  if (← get).has .keepFiles then
    match ← Run.ask (.inspect path true) with
    | .ok info => pure (if info.kind = .regular then .maker else .patcher)
    | .error _ => pure .maker
  else pure access

/-- Makes a descriptor lead somewhere. -/
def apply (r : Redirection) : Run Unit := do
  match r.opening with
  | .file path access guarded =>
      let access ← if guarded then guardedAccess path access else pure access
      match ← Run.ask (.openFile path access firstHidden) with
      | .ok number => moveTo number r.descriptor
      | .error e => Run.fail (openComplaint path access e)
  | .descriptor source =>
      match ← Run.ask (.copy source r.descriptor) with
      | .ok () => pure ()
      | .error e => Run.fail (toString source ++ ": " ++ e.reason)
  | .nothing =>
      let _ ← Run.ask (.close r.descriptor)
  | .text content => moveTo (← openText content) r.descriptor

/-- Keeps what a descriptor leads to. -/
def keep (descriptor : Nat) : Run Saved := do
  match ← Run.ask (.spare descriptor firstHidden) with
  | .ok kept => pure ⟨descriptor, some kept⟩
  | .error _ => pure ⟨descriptor, none⟩

/-- Redirects one descriptor after the other, and gives what was kept with how it came out. -/
def applyAll : List Redirection → List Saved → Run (List Saved × Except Jump Unit)
  | [], saved => pure (saved, .ok ())
  | r :: rest, saved => do
      if r.opening = .descriptor r.descriptor then applyAll rest saved
      else
        let saved ←
          if saved.any (·.descriptor = r.descriptor) then pure saved
          else do
            let s ← keep r.descriptor
            pure (s :: saved)
        match ← Run.outcome r.apply with
        | .ok () => applyAll rest saved
        | .error j => pure (saved, .error j)

/-- Redirects for good. -/
def applyForGood (rs : List Redirection) : Run Unit :=
  rs.forM fun r => if r.opening = .descriptor r.descriptor then pure () else r.apply

end Redirection

namespace Saved

/-- Puts back what was kept. -/
def restore (saved : List Saved) : Run Unit :=
  saved.forM fun s => do
    match s.kept with
    | some kept => Redirection.moveTo kept s.descriptor
    | none =>
        let _ ← Run.ask (.close s.descriptor)

/-- Lets go of what was kept. -/
def forget (saved : List Saved) : Run Unit :=
  saved.forM fun s => do
    match s.kept with
    | some kept =>
        let _ ← Run.ask (.close kept)
    | none => pure ()

end Saved

end HostFlash.Shell
