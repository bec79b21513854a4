/-! # Directories

A directory keeps values under names, sorted by name, each name at most once.
-/

namespace HostFlash.Firmware

/-- Values under names, in the order of the names. -/
structure Directory (α : Type) where
  entries : List (String × α)
deriving Repr, DecidableEq

namespace Directory

variable {α : Type}

/-- Nothing under any name. -/
def empty : Directory α := ⟨[]⟩

/-- The value under a name. -/
def get? (d : Directory α) (name : String) : Option α := d.entries.lookup name

/-- Puts a value under a name into sorted entries, in place of the one there. -/
def insertSorted (name : String) (value : α) : List (String × α) → List (String × α)
  | [] => [(name, value)]
  | (n, v) :: rest =>
      if name = n then (name, value) :: rest
      else if name < n then (name, value) :: (n, v) :: rest
      else (n, v) :: insertSorted name value rest

/-- Puts a value under a name. -/
def insert (d : Directory α) (name : String) (value : α) : Directory α :=
  ⟨insertSorted name value d.entries⟩

/-- Takes away what is under a name. -/
def erase (d : Directory α) (name : String) : Directory α :=
  ⟨d.entries.filter (·.1 ≠ name)⟩

/-- The names in use, sorted. -/
def names (d : Directory α) : List String := d.entries.map (·.1)

/-- The values in the order of their names. -/
def values (d : Directory α) : List α := d.entries.map (·.2)

end Directory

end HostFlash.Firmware
