import ClientForge.Codegen.Plan
import ClientForge.Http.Exchange

/-!
What a run needs from its surroundings: files to read, a network, and somewhere to write. A surrounding
is given by its operations, in any monad.
-/

namespace ClientForge

structure Host (m : Type → Type) where
  readText : String → m (Except Disk.IoError String)
  /-- The names directly inside a directory. -/
  list : String → m (Except Disk.IoError (List String))
  network : Http.Network m
  perform : Codegen.Step → m (Except Failure Unit)
  /-- The time, as manifests state it. -/
  now : m String

/-- What is done on a host, up to the first failure. -/
abbrev Doing (m : Type → Type) := ExceptT Failure m

variable {m : Type → Type} [Monad m] {α : Type}

/-- Does steps one after another, up to the first that fails. -/
def Host.performAll (host : Host m) : List Codegen.Step → Doing m Unit
  | [] => return ()
  | step :: rest => do
    host.perform step
    host.performAll rest

/-- Carries out a plan. -/
def Host.carryOut (host : Host m) (plan : Codegen.Plan α) : Doing m α := do
  host.performAll plan.steps
  plan.outcome

end ClientForge
