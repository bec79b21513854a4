/-! # Settings

What can be configured: the flash tool, the mediation service, the object paths of published
images, and the names of two partitions. The defaults are those of a standard controller.
-/

namespace HostFlash

/-- The flash tool: its program, and the seconds after which a run of it is killed, with zero for
no deadline. -/
structure ToolSettings where
  program : String := "pflash"
  timeoutSeconds : Nat := 600
deriving Repr, DecidableEq

/-- The mediation service: the bus client that reaches it, its address on the bus, and the
deadline of one call. -/
structure MediatorSettings where
  busClient : String := "busctl"
  service : String := "xyz.openbmc_project.Hiomapd"
  object : String := "/xyz/openbmc_project/Hiomapd"
  interface : String := "xyz.openbmc_project.Hiomapd.Control"
  timeoutSeconds : Nat := 30
deriving Repr, DecidableEq

/-- The object path below which images are published, and that of the host in the inventory. -/
structure PathSettings where
  software : String := "/xyz/openbmc_project/software"
  hostInventory : String := "/xyz/openbmc_project/inventory/system/chassis"
deriving Repr, DecidableEq

/-- The partitions of the version text and of the guard records. -/
structure PartitionSettings where
  version : String := "VERSION"
  guard : String := "GUARD"
deriving Repr, DecidableEq

/-- All settings. -/
structure Settings where
  tool : ToolSettings := {}
  mediator : MediatorSettings := {}
  paths : PathSettings := {}
  partitions : PartitionSettings := {}
deriving Repr, DecidableEq

end HostFlash
