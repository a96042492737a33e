import ClientForge.Generator
import ClientForge.World
import ClientForge.Proofs.DiskFiles
import ClientForge.Proofs.PlanLaws

/-!
Doing things in a world: what a run that succeeds has done to the files and to the warnings.

Results:
1. `performAll_ok`: steps that all succeed change the files one after the other, each its own
   target, and add their warnings in order.
2. `generateScopeFrom_ok`: a scope that is generated has a description and a plan whose steps
   succeed.
3. `load_eq_reading`, `generateAll_eq_reading`: every source of descriptions only looks at the
   world, so that what is said of readers holds of the sources.
-/

namespace ClientForge

open Codegen

variable {α β : Type}

/-! ## Definitions -/

/-- What comes of doing something in a world, and the world after it. -/
def World.run (world : World) (doing : Doing (StateM World) α) : Except Failure α × World :=
  doing world

/-- A loader that looks at the world and leaves it as it is. -/
def Loader.reading (answer : String → World → Except Failure Json) : Loader (StateM World) :=
  fun place => ExceptT.mk fun world => (answer place world, world)

/-- What a step that succeeds makes of the file at a place. -/
def Codegen.Step.fileAfter (working : Disk.Place) (place : Disk.Place) (old : Option ByteArray) :
    Step → Option ByteArray
  | .write mode path text =>
    if place = Disk.target working path then some (mode.result old text.toUTF8) else old
  | .ensureDirectory _ => old
  | .warn _ => old

def Codegen.Step.warning? : Step → Option Api.Warning
  | .warn w => some w
  | .ensureDirectory _ => none
  | .write .. => none

namespace World

/-! ## Runs -/

theorem exists_of_isOk {ran : Except Failure α × World} (h : ran.1.isOk = true) :
    ∃ a world, ran = (.ok a, world) := by
  obtain ⟨outcome, world⟩ := ran
  cases outcome with
  | error e => cases h
  | ok a => exact ⟨a, world, rfl⟩

theorem eq_of_failure {ran : Except Failure α × World} {e : Failure}
    (h : (match ran.1 with | .error e => some e | .ok _ => none) = some e) :
    ran = (.error e, ran.2) := by
  obtain ⟨outcome, world⟩ := ran
  cases outcome with
  | error e' =>
    cases h
    rfl
  | ok a => cases h

theorem run_bind (world : World) (x : Doing (StateM World) α) (next : α → Doing (StateM World) β) :
    world.run (x >>= next) =
      match world.run x with
      | (.ok a, w) => w.run (next a)
      | (.error e, w) => (.error e, w) := by
  show (ExceptT.bindCont next (x world).1) (x world).2 = _
  rw [run]
  obtain ⟨outcome, w⟩ := x world
  cases outcome <;> rfl

theorem run_bind_ok {world world' : World} {x : Doing (StateM World) α}
    {next : α → Doing (StateM World) β} {b : β} :
    world.run (x >>= next) = (.ok b, world') ↔
      ∃ a w, world.run x = (.ok a, w) ∧ w.run (next a) = (.ok b, world') := by
  rw [run_bind]
  obtain ⟨outcome, w⟩ := world.run x
  cases outcome with
  | error e => simp
  | ok a => simp

theorem run_bind_error {world world' : World} {x : Doing (StateM World) α}
    {next : α → Doing (StateM World) β} {e : Failure} :
    world.run (x >>= next) = (.error e, world') ↔ world.run x = (.error e, world') ∨
      ∃ a w, world.run x = (.ok a, w) ∧ w.run (next a) = (.error e, world') := by
  rw [run_bind]
  obtain ⟨outcome, w⟩ := world.run x
  cases outcome with
  | error e => simp
  | ok a => simp

theorem store_ok {world world' : World} {path : String} {written : Disk × Except Disk.IoError Unit}
    (h : world.store path written = (.ok (), world')) :
    written = (world'.disk, .ok ()) ∧ world'.warnings = world.warnings := by
  obtain ⟨disk, outcome⟩ := written
  cases outcome with
  | error e => cases h
  | ok u =>
    cases h
    exact ⟨rfl, rfl⟩

theorem store_error {world world' : World} {path : String}
    {written : Disk × Except Disk.IoError Unit} {e : Failure}
    (h : world.store path written = (.error e, world')) :
    ∃ cause, written = (world'.disk, .error cause) ∧ e = .unwritable path cause := by
  obtain ⟨disk, outcome⟩ := written
  cases outcome with
  | error cause =>
    cases h
    exact ⟨cause, rfl, rfl⟩
  | ok u => cases h

theorem perform_ok {world world' : World} {step : Step}
    (h : world.perform step = (.ok (), world')) :
    world'.disk.working = world.disk.working ∧
      world'.warnings = world.warnings ++ step.warning?.toList ∧
      ∀ place, world'.disk.file? place =
        step.fileAfter world.disk.working place (world.disk.file? place) := by
  cases step with
  | warn w =>
    cases h
    exact ⟨rfl, rfl, fun _ => rfl⟩
  | ensureDirectory path =>
    obtain ⟨hdisk, hwarnings⟩ := store_ok h
    have same := Disk.ensureDirectory_sameFiles world.disk path
    rw [hdisk] at same
    exact ⟨same.working, by simpa [Step.warning?] using hwarnings, same.file?⟩
  | write mode path text =>
    obtain ⟨hdisk, hwarnings⟩ := store_ok h
    obtain ⟨hworking, hfiles⟩ := Disk.write_file? hdisk
    exact ⟨hworking, by simpa [Step.warning?] using hwarnings, hfiles⟩

/-- By induction on the steps: each one sees the files that those before it have left. -/
theorem performAll_ok {network : Http.Network Id} {now : String} {world world' : World}
    {steps : List Step} (h : world.run ((host network now).performAll steps) = (.ok (), world')) :
    world'.disk.working = world.disk.working ∧
      world'.warnings = world.warnings ++ steps.filterMap Step.warning? ∧
      ∀ place, world'.disk.file? place =
        steps.foldl (Step.fileAfter world.disk.working place) (world.disk.file? place) := by
  induction steps generalizing world with
  | nil =>
    cases h
    simp
  | cons step steps ih =>
    obtain ⟨u, w, hstep, hrest⟩ := run_bind_ok.mp h
    obtain ⟨hworking, hwarnings, hfiles⟩ := perform_ok hstep
    obtain ⟨hworking', hwarnings', hfiles'⟩ := ih hrest
    refine ⟨hworking'.trans hworking, ?_, fun place => ?_⟩
    · rw [hwarnings', hwarnings, List.filterMap_cons]
      cases step.warning? <;> simp
    · rw [hfiles', hworking, hfiles, List.foldl_cons]

theorem carryOut_ok {network : Http.Network Id} {now : String} {world world' : World}
    {plan : Plan α} {a : α} (h : world.run ((host network now).carryOut plan) = (.ok a, world')) :
    plan = ⟨plan.steps, .ok a⟩ ∧
      world.run ((host network now).performAll plan.steps) = (.ok (), world') := by
  obtain ⟨u, w, hsteps, hout⟩ := run_bind_ok.mp h
  obtain ⟨steps, outcome⟩ := plan
  cases outcome with
  | error e => cases hout
  | ok b =>
    cases hout
    exact ⟨rfl, hsteps⟩

/-- A scope that is generated has a description, and the steps of its plan succeed. -/
theorem generateScopeFrom_ok {network : Http.Network Id} {now : String}
    {answer : String → World → Except Failure Json} {generator : Generator}
    {settings : ScopeConfig} {world world' : World} {summary : Summary}
    (h : world.run (generator.generateScopeFrom (host network now) (.reading answer) settings) =
      (.ok summary, world')) :
    ∃ document steps, answer settings.specUrl world = .ok document ∧
      scopePlan generator.toolkit generator.config settings now document =
        ⟨steps, .ok summary⟩ ∧
      world.run ((host network now).performAll steps) = (.ok (), world') := by
  obtain ⟨document, w, hload, hplan⟩ := run_bind_ok.mp h
  obtain ⟨time, w', hnow, hcarry⟩ := run_bind_ok.mp hplan
  cases hnow
  obtain ⟨hanswer, rfl⟩ : answer settings.specUrl world = .ok document ∧ world = w := by
    injection hload with hanswer hworld
    exact ⟨hanswer, hworld⟩
  obtain ⟨hok, hsteps⟩ := carryOut_ok hcarry
  exact ⟨document, _, hanswer, hok, hsteps⟩

theorem run_readText (network : Http.Network Id) (now : String) (world : World) (path : String) :
    world.run (liftM ((host network now).readText path) :
      Doing (StateM World) (Except Disk.IoError String)) =
        (.ok (world.disk.readText path), world) := rfl

/-! ## Sources -/

/-- Doing `x` leaves every world as it is. -/
def Looks (x : Doing (StateM World) α) : Prop := ∀ world, (World.run world x).2 = world

theorem Looks.bind {x : Doing (StateM World) α} {next : α → Doing (StateM World) β}
    (hx : Looks x) (hnext : ∀ a, Looks (next a)) : Looks (x >>= next) := by
  intro world
  have same := hx world
  rw [run_bind]
  cases h : world.run x with
  | mk outcome w =>
    rw [h] at same
    cases outcome with
    | error e => exact same
    | ok a => exact (hnext a w).trans same

theorem looks_lift {x : StateM World α} (h : ∀ world, (x world).2 = world) :
    Looks (ExceptT.lift x) := fun world => h world

theorem looks_throw (e : Failure) : Looks (throw e : Doing (StateM World) α) := fun _ => rfl

theorem looks_except (outcome : Except Failure α) :
    Looks (liftM outcome : Doing (StateM World) α) := fun _ => rfl

theorem settle_host {asked : String} {request : Http.Request} {world : World}
    {redirected : Http.Request → StateM World (Except Http.Fault Http.Response)}
    {outcome : Http.Request → Id (Except Http.Fault Http.Response)}
    (h : ∀ next, redirected next world = (outcome next, world)) (answer : Option Http.Response) :
    Http.settle asked request redirected answer world =
      (Http.settle asked request outcome answer, world) := by
  cases answer with
  | none => rfl
  | some response =>
    unfold Http.settle
    dsimp only
    cases Http.redirect? request response with
    | none => rfl
    | some next => exact h next

/-- Following redirects on a host comes to what it comes to on the network alone. -/
theorem follow_host (network : Http.Network Id) (now asked : String) (redirects : Nat)
    (request : Http.Request) (world : World) :
    Http.follow (host network now).network asked redirects request world =
      (Http.follow network asked redirects request, world) := by
  induction redirects generalizing request with
  | zero => exact settle_host (fun _ => rfl) (network request)
  | succ redirects ih => exact settle_host ih (network request)

theorem send_host (network : Http.Network Id) (now : String) (call : Http.Call) (world : World) :
    call.send (host network now).network world = (call.send network, world) := by
  unfold Http.Call.send
  cases call.request? with
  | none => rfl
  | some request => exact follow_host network now _ _ request world

theorem loadFile_looks (network : Http.Network Id) (now path : String) :
    Looks (Source.loadFile (host network now) path) := by
  refine Looks.bind (fun _ => rfl) fun found => ?_
  cases found with
  | ok text => exact looks_except _
  | error cause => exact looks_throw _

theorem loadWeb_looks (network : Http.Network Id) (now url : String) :
    Looks (Source.loadWeb (host network now) url) := by
  unfold Source.loadWeb
  split
  · refine Looks.bind (looks_lift fun world => ?_) fun sent => ?_
    · exact congrArg Prod.snd (send_host network now _ world)
    · cases sent with
      | error fault => exact looks_throw _
      | ok response => exact looks_except _
  · exact looks_throw _

theorem load_looks (source : Source) (network : Http.Network Id) (now place : String) :
    Looks (source.load (host network now) place) := by
  cases source with
  | files => exact loadFile_looks network now place
  | web => exact loadWeb_looks network now place
  | anywhere =>
    unfold Source.load
    dsimp only
    split
    · exact loadWeb_looks network now place
    · exact loadFile_looks network now place

/-- What a source loads depends on the world, which it leaves as it is. -/
theorem load_eq_reading (source : Source) (network : Http.Network Id) (now : String) :
    source.load (host network now) =
      Loader.reading fun place world => (world.run (source.load (host network now) place)).1 := by
  funext place world
  exact Prod.ext rfl (load_looks source network now place world)

theorem generateAll_eq_reading (source : Source) (network : Http.Network Id) (now : String)
    (generator : Generator) :
    generator.generateAll (host network now) source =
      generator.generateAllFrom (host network now) (.reading fun place world =>
        (world.run (source.load (host network now) place)).1) :=
  congrArg (generator.generateAllFrom (host network now)) (load_eq_reading source network now)

end World

end ClientForge
