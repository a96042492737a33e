import ClientForge.Api.Warning
import ClientForge.Disk.Basic
import ClientForge.Failure

/-!
What a generation does to the outside, as data: steps in order, and what comes of it once all of them
have succeeded.
-/

namespace ClientForge.Codegen

inductive Step where
  | warn (warning : Api.Warning)
  | ensureDirectory (path : String)
  | write (mode : Disk.Mode) (path text : String)
deriving DecidableEq, Repr

structure Plan (α : Type) where
  steps : List Step
  outcome : Except Failure α

namespace Plan

variable {α β : Type}

protected def pure (a : α) : Plan α := ⟨[], .ok a⟩

/-- What follows a failure is not planned. -/
protected def bind (plan : Plan α) (next : α → Plan β) : Plan β :=
  match plan.outcome with
  | .ok a => ⟨plan.steps ++ (next a).steps, (next a).outcome⟩
  | .error e => ⟨plan.steps, .error e⟩

instance : Monad Plan where
  pure := Plan.pure
  bind := Plan.bind

def ofExcept (outcome : Except Failure α) : Plan α := ⟨[], outcome⟩

def step (s : Step) : Plan Unit := ⟨[s], .ok ()⟩

def warnings (ws : List Api.Warning) : Plan Unit := ⟨ws.map .warn, .ok ()⟩

end Plan

end ClientForge.Codegen
