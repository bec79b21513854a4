/-! # Associations

Named edges from an object to the path of another one: a name forward, a name for the way back,
and the path of the other end. `Associations` keeps them in the order in which they were added,
each at most once, and removes them by their forward name or by their end.
-/

namespace HostFlash.Firmware

/-- An edge to an object path. -/
structure Association where
  forward : String
  reverse : String
  endpoint : String
deriving Repr, DecidableEq

namespace Association

/-- The kind of the edge from an image to the host inventory, and its name backwards. -/
def inventory : String := "inventory"

@[inherit_doc inventory]
def activation : String := "activation"

/-- The kind of the edge to the image that is selected to run. -/
def active : String := "active"

/-- The kind of the edge to the image that the host runs. -/
def functional : String := "functional"

/-- The kind of the edge to an image that can be updated. -/
def updateable : String := "updateable"

/-- The name backwards of every edge from the software root. -/
def softwareVersion : String := "software_version"

/-- An edge of a kind from the software root to a path. -/
def software (kind path : String) : Association := ⟨kind, softwareVersion, path⟩

end Association

/-- Edges in the order of their addition. -/
structure Associations where
  entries : List Association
deriving Repr, DecidableEq

namespace Associations

/-- No edges. -/
def empty : Associations := ⟨[]⟩

/-- How many edges there are. -/
def size (s : Associations) : Nat := s.entries.length

/-- There are no edges. -/
def isEmpty (s : Associations) : Bool := s.entries.isEmpty

/-- Adds an edge behind all others, unless it is there. -/
def add (s : Associations) (a : Association) : Associations :=
  if a ∈ s.entries then s else ⟨s.entries ++ [a]⟩

/-- Removes every edge of a kind. -/
def withoutForward (s : Associations) (forward : String) : Associations :=
  ⟨s.entries.filter (·.forward ≠ forward)⟩

/-- Removes every edge to a path. -/
def withoutEndpoint (s : Associations) (endpoint : String) : Associations :=
  ⟨s.entries.filter (·.endpoint ≠ endpoint)⟩

/-- An edge of the kind leads to the path, whatever its name backwards. -/
def contains (s : Associations) (forward endpoint : String) : Bool :=
  s.entries.any fun a => a.forward == forward && a.endpoint == endpoint

/-- Where the edges of a kind lead to, in order. -/
def endpoints (s : Associations) (forward : String) : List String :=
  (s.entries.filter (·.forward = forward)).map (·.endpoint)

end Associations

end HostFlash.Firmware
