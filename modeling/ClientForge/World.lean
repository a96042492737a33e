import ClientForge.Host

/-!
A host as a value: a file tree that is written to, the warnings so far, and a network that always
answers alike. Whether files take what is written to them does not change during a run.
-/

namespace ClientForge

structure World where
  disk : Disk
  /-- The warnings, in order. -/
  warnings : List Api.Warning
  medium : Disk.Medium

namespace World

/-- A world that takes everything. -/
def ofDisk (disk : Disk) : World := ⟨disk, [], .sound⟩

/-- What has been written stays when it fails. -/
def store (world : World) (path : String) (written : Disk × Except Disk.IoError Unit) :
    Except Failure Unit × World :=
  (written.2.mapError (.unwritable path), { world with disk := written.1 })

def perform (step : Codegen.Step) (world : World) : Except Failure Unit × World :=
  match step with
  | .warn w => (.ok (), { world with warnings := world.warnings ++ [w] })
  | .ensureDirectory path => world.store path (world.disk.ensureDirectory path)
  | .write mode path text => world.store path (world.disk.write world.medium mode path text)

/-- The host that reads and writes the world's files. -/
def host (network : Http.Network Id) (now : String) : Host (StateM World) where
  readText path := fun world => (world.disk.readText path, world)
  list path := fun world => (world.disk.list path, world)
  network request := fun world => (network request, world)
  perform := perform
  now := pure now

end World

end ClientForge
