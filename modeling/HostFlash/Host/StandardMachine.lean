import HostFlash.Host.Machine
import HostFlash.Utility.Catalog

/-! # The standard machine

The files of a machine before anything is put on it: the usual directories, the devices, and the
programs.
-/

namespace HostFlash.Machine

/-- The directories. -/
def directories : List Location :=
  [["boot"], ["dev"], ["dev", "fd"], ["etc"], ["home"], ["media"], ["mnt"], ["opt"], ["proc"],
   ["root"], ["run"], ["srv"], ["sys"], ["tmp"], ["usr"], ["usr", "bin"], ["usr", "lib"],
   ["usr", "local"], ["usr", "local", "bin"], ["usr", "local", "sbin"], ["usr", "sbin"],
   ["usr", "share"], ["var"], ["var", "tmp"]]

/-- The devices, and the names under which a process finds its own open files. -/
def devices : List (Location × Entry) :=
  [(["dev", "null"], .device .null), (["dev", "zero"], .device .zero),
   (["dev", "random"], .device .zero), (["dev", "urandom"], .device .zero),
   (["dev", "full"], .device .full), (["dev", "tty"], .device .terminal)] ++
  (["stdin", "stdout", "stderr"].zipIdx.map fun (name, n) =>
    (["dev", name], Entry.device (.stream n))) ++
  ((List.range 10).map fun n => (["dev", "fd", toString n], Entry.device (.stream n)))

/-- Links to directories and programs. -/
def links : List (Location × Entry) :=
  [(["bin"], .link "usr/bin"), (["sbin"], .link "usr/sbin"), (["lib"], .link "usr/lib"),
   (["usr", "bin", "sh"], .link "dash")]

/-- A machine with nothing on it but what every machine has. -/
def standard : Machine where
  files :=
    ⟨directories.map (·, .directory) ++ devices ++ links ++
      ("dash" :: Utility.catalog.map (·.1)).map fun name =>
        (["usr", "bin", name], Entry.program name)⟩
  workingDirectory := []
  temporary := "/tmp"
  serial := 0

end HostFlash.Machine
