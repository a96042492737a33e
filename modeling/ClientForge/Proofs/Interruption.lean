import ClientForge.Proofs.ScopeFiles

/-!
Generations that fail for another reason than a file that cannot be written. Either the description
is unfit, and nothing has been done yet, or rendering fails at some namespace or operation. Then the
files are those of the run up to there: the namespaces before it are declared, the methods before it
appended, and the manifest is not written.

Results:
1. `scopePlan_error`: a plan that fails has the steps of an emission that breaks off.
2. `Emission.leaves_of_steps`: the files that such an emission leaves behind.
3. `generateScopeFrom_interrupted`: what a failing scope leaves behind, and a run that contains it.
-/

namespace ClientForge

open Codegen

/-! ## Definitions -/

/-- Nothing can be generated from what was loaded. -/
inductive Unfit : Except Failure Json → Prop
  | unloaded (e : Failure) : Unfit (.error e)
  | without_paths {document : Json} : document.object? "paths" = none → Unfit (.ok document)
  | nameless_tag {document tag : Json} : tag ∈ (document.array? "tags").getD [] →
      tag.string? "name" = none → Unfit (.ok document)

namespace Codegen.Emission

/-- Where an emission stops, which cannot be rendered: at a tag, when the tags before it are
declared, or at an operation, when all tags are declared and the operations before it emitted. -/
inductive StopsAt (toolkit : Toolkit) (document : Json) (layout : Layout) (emission : Emission)
    (e : Failure) : Prop
  | tag (n : Api.Namespace) (later : List Api.Namespace) :
      layout.surviving = emission.declarations.map Prod.fst ++ n :: later →
      emission.endpoints = [] →
      Declaration.render toolkit.registry emission.scope n = .error e →
      StopsAt toolkit document layout emission e
  | operation (earlier later : List Api.Operation) (o : Api.Operation) (n : Api.Namespace) :
      emission.declarations.map Prod.fst = layout.surviving →
      layout.operations = earlier ++ o :: later →
      layout.owner? o = some n →
      emission.endpoints.map Prod.fst = Layout.inputs { layout with operations := earlier } →
      Endpoint.render toolkit (.ofDocument document) emission.scope (endpointInput n o) = .error e →
      StopsAt toolkit document layout emission e

/-- The emission of a description up to a failure. Its manifest lists what was emitted so far; it is
not written. -/
structure BreaksOff (toolkit : Toolkit) (config : Config) (settings : ScopeConfig) (now : String)
    (document : Json) (layout : Layout) (emission : Emission) (e : Failure) : Prop where
  layout_eq : Layout.ofDocument document = .ok layout
  scope_eq :
    emission.scope = Scope.ofConfig config settings ((Description.version? document).getD "")
  declaration_eq : ∀ d ∈ emission.declarations,
    Declaration.render toolkit.registry emission.scope d.1 = .ok d.2
  endpoint_eq : ∀ p ∈ emission.endpoints,
    Endpoint.render toolkit (.ofDocument document) emission.scope p.1 = .ok p.2
  manifest_eq : emission.manifest =
    ⟨settings.name, emission.scope.specVersion, checksum document, now, settings.baseUrl,
      emission.endpoints.map (·.2.entry)⟩
  stops : emission.StopsAt toolkit document layout e

/-- What was rendered for a description so far. -/
def soFar (config : Config) (settings : ScopeConfig) (now : String) (document : Json)
    (declarations : List (Api.Namespace × String)) (endpoints : List (EndpointInput × Endpoint)) :
    Emission where
  scope := Scope.ofConfig config settings ((Description.version? document).getD "")
  declarations
  endpoints
  manifest := ⟨settings.name, (Description.version? document).getD "", checksum document, now,
    settings.baseUrl, endpoints.map (·.2.entry)⟩

/-- What is done before the manifest is written. -/
def stepsSoFar (toolkit : Toolkit) (document : Json) (layout : Layout) (emission : Emission) :
    List Step :=
  (emission.firstWarnings document layout).map .warn ++
  [.ensureDirectory emission.scope.outputDir] ++
  emission.declarations.flatMap emission.declarationSteps ++
  emission.endpoints.flatMap (emission.endpointSteps toolkit (.ofDocument document))

/-- The files of the declared namespaces hold their last declaration and the methods emitted behind
it, and the others are as before. -/
structure Leaves (emission : Emission) (before after : Disk) : Prop where
  namespace_file : ∀ d ∈ emission.declarations, ∀ place,
    place = emission.namespacePlace before.working d.1 →
    ∃ last, emission.declaration? before.working place = some last ∧
      after.file? place =
        some (String.join (last.2 :: emission.fragments before.working place)).toUTF8
  other_file : ∀ place,
    (∀ d ∈ emission.declarations, emission.namespacePlace before.working d.1 ≠ place) →
    after.file? place = before.file? place

end Codegen.Emission

/-! ## Descriptions -/

theorem paths_eq_error {document : Json} {e : Failure} (h : Description.paths document = .error e) :
    Unfit (.ok document) := by
  unfold Description.paths at h
  split at h
  · cases h
  · next hnone => exact .without_paths hnone

theorem declared_eq_error {document : Json} {e : Failure}
    (h : Api.Namespace.declared document = .error e) : Unfit (.ok document) := by
  obtain ⟨tag, htag, herror⟩ := Outcome.exists_of_mapM_error h
  unfold Api.Namespace.ofTag at herror
  split at herror
  · cases herror
  · next hnone => exact .nameless_tag htag hnone

/-- A description that has a layout is fit. -/
theorem not_unfit {document : Json} {layout : Layout}
    (h : Layout.ofDocument document = .ok layout) : ¬ Unfit (.ok document) := by
  obtain ⟨paths, hpaths, htags, _⟩ := ofDocument_ok h
  rintro (_ | hnone | ⟨htag, hnone⟩)
  · rw [hnone] at hpaths
    cases hpaths
  · obtain ⟨n, hn⟩ := Outcome.exists_of_mapM_ok htags htag
    rw [Api.Namespace.ofTag, hnone] at hn
    cases hn

/-! ## Plans that fail -/

namespace Codegen

/-- A plan that warns, renders and writes fails before it writes. -/
theorem written_error {α β : Type} {warnings : List Api.Warning} {rendered : Except Failure α}
    {write : α → Step} {result : α → β} {steps : List Step} {e : Failure}
    (h : (do
      Plan.warnings warnings
      let a ← Plan.ofExcept rendered
      Plan.step (write a)
      return result a) = (⟨steps, .error e⟩ : Plan β)) :
    rendered = .error e ∧ steps = warnings.map .warn := by
  cases rendered with
  | error e' =>
    cases h
    exact ⟨rfl, List.append_nil _⟩
  | ok a => cases h

/-- Such plans for the elements of a list: those before the failing one have come to something. -/
theorem mapM_written_error {α β γ : Type} {plan : α → Plan γ} {render : α → Except Failure β}
    {result : α → β → γ} {made : α → β → List Step} {warnings : α → List Api.Warning}
    (hok : ∀ {x steps c}, plan x = ⟨steps, .ok c⟩ →
      ∃ b, render x = .ok b ∧ c = result x b ∧ steps = made x b)
    (herror : ∀ {x steps e}, plan x = ⟨steps, .error e⟩ →
      render x = .error e ∧ steps = (warnings x).map .warn)
    {xs : List α} {steps : List Step} {e : Failure} (h : xs.mapM plan = ⟨steps, .error e⟩) :
    ∃ (ps : List (α × β)) (x : α) (later : List α), xs = ps.map Prod.fst ++ x :: later ∧
      (∀ p ∈ ps, render p.1 = .ok p.2) ∧ render x = .error e ∧
      steps = (ps.flatMap fun p => made p.1 p.2) ++ (warnings x).map .warn := by
  obtain ⟨done, x, later, ys, first, last, rfl, hdone, hx, rfl⟩ := Plan.mapM_eq_error_iff.mp h
  obtain ⟨ps, rfl, hps, _, rfl⟩ := mapM_written_ok hok hdone
  obtain ⟨hrender, rfl⟩ := herror hx
  exact ⟨ps, x, later, rfl, hps, hrender, rfl⟩

/-- The operations up to one of those that go to a tag. -/
theorem Layout.inputs_split {layout : Layout} {before later : List EndpointInput}
    {input : EndpointInput} (h : layout.inputs = before ++ input :: later) :
    ∃ earlier o rest n, layout.operations = earlier ++ o :: rest ∧ layout.owner? o = some n ∧
      input = endpointInput n o ∧ Layout.inputs { layout with operations := earlier } = before := by
  obtain ⟨first, second, hoperations, hfirst, hsecond⟩ := List.filterMap_eq_append_iff.mp h
  obtain ⟨skipped, o, rest, rfl, hskipped, hinput, _⟩ := List.filterMap_eq_cons_iff.mp hsecond
  obtain ⟨n, howner, rfl⟩ := Option.map_eq_some_iff.mp hinput
  refine ⟨first ++ skipped, o, rest, n, by rw [hoperations, List.append_assoc], howner, rfl, ?_⟩
  have hnone : skipped.filterMap (fun o => (layout.owner? o).map (endpointInput · o)) = [] :=
    List.filterMap_eq_nil_iff.mpr hskipped
  show (first ++ skipped).filterMap (fun o => (layout.owner? o).map (endpointInput · o)) = before
  rw [List.filterMap_append, hfirst, hnone, List.append_nil]

open Emission in
/-- A plan that fails has done nothing but warn, or it has the steps of an emission that breaks
off. -/
theorem scopePlan_error {toolkit : Toolkit} {config : Config} {settings : ScopeConfig}
    {now : String} {document : Json} {steps : List Step} {e : Failure}
    (h : scopePlan toolkit config settings now document = ⟨steps, .error e⟩) :
    (Unfit (.ok document) ∧ ∃ ws : List Api.Warning, steps = ws.map .warn) ∨
    ∃ layout emission, BreaksOff toolkit config settings now document layout emission e ∧
      ∃ ws : List Api.Warning,
        steps = emission.stepsSoFar toolkit document layout ++ ws.map .warn := by
  -- the part that fails, after the parts before it have come to something
  unfold scopePlan at h
  rcases Plan.bind_eq_error_iff.mp h with hfailed | ⟨_, _, _, hversion, hafterVersion, rfl⟩
  · cases hfailed
  cases hversion
  rcases Plan.bind_eq_error_iff.mp hafterVersion with
    hfailed | ⟨_, paths, _, hpathsPlan, hafterPaths, rfl⟩
  · obtain ⟨hpaths, rfl⟩ := Plan.ofExcept_eq_error_iff.mp hfailed
    exact .inl ⟨paths_eq_error hpaths, _, List.append_nil _⟩
  obtain ⟨hpaths, rfl⟩ := Plan.ofExcept_eq_ok_iff.mp hpathsPlan
  rcases Plan.bind_eq_error_iff.mp hafterPaths with
    hfailed | ⟨_, tags, _, htagsPlan, hafterTags, rfl⟩
  · obtain ⟨htags, rfl⟩ := Plan.ofExcept_eq_error_iff.mp hfailed
    exact .inl ⟨declared_eq_error htags, _, List.append_nil _⟩
  obtain ⟨htags, rfl⟩ := Plan.ofExcept_eq_ok_iff.mp htagsPlan
  rcases Plan.bind_eq_error_iff.mp hafterTags with
    hfailed | ⟨_, _, _, hownership, hafterOwnership, rfl⟩
  · cases hfailed
  cases hownership
  rcases Plan.bind_eq_error_iff.mp hafterOwnership with
    hfailed | ⟨_, _, _, hdirectory, hafterDirectory, rfl⟩
  · cases hfailed
  cases hdirectory
  have hlayout : Layout.ofDocument document = .ok ⟨tags, Api.operations paths⟩ := by
    rw [Layout.ofDocument, hpaths, htags]
    rfl
  have howning := owning_eq_surviving ⟨tags, Api.operations paths⟩
  refine .inr ⟨⟨tags, Api.operations paths⟩, ?_⟩
  rcases Plan.bind_eq_error_iff.mp hafterDirectory with
    hfailed | ⟨_, files, _, hdeclared, hafterDeclared, rfl⟩
  · obtain ⟨ds, n, later, hds, hrendered, hn, rfl⟩ :=
      mapM_written_error (fun h => written_ok h) (fun h => written_error h) hfailed
    refine ⟨soFar config settings now document ds [],
      ⟨hlayout, rfl, hrendered, by simp [soFar], rfl, ?_⟩, Declaration.warnings n, ?_⟩
    · exact .tag n later (howning.symm.trans hds) rfl hn
    · simp only [stepsSoFar, firstWarnings, List.map_append, List.append_assoc, List.nil_append]
      rfl
  obtain ⟨ds, hds, hrendered, rfl, rfl⟩ := mapM_written_ok (fun h => written_ok h) hdeclared
  rcases Plan.bind_eq_error_iff.mp hafterDeclared with
    hfailed | ⟨_, entries, _, hemitted, hafterEmitted, rfl⟩
  · obtain ⟨es, input, later, hes, hendpoints, hinput, rfl⟩ :=
      mapM_written_error (fun h => written_ok h) (fun h => written_error h) hfailed
    refine ⟨soFar config settings now document ds es,
      ⟨hlayout, rfl, hrendered, hendpoints, rfl, ?_⟩,
      Endpoint.warnings toolkit (.ofDocument document) input, ?_⟩
    · have hinputs : Layout.inputs ⟨tags, Api.operations paths⟩ =
          es.map Prod.fst ++ input :: later := by
        rw [← hes]
        refine List.filterMap_congr fun o ho => ?_
        rw [howning, owner?_eq _ ho]
      obtain ⟨earlier, o, rest, n, hsplit, howner, rfl, hbefore⟩ := Layout.inputs_split hinputs
      exact .operation earlier rest o n (hds.trans howning) hsplit howner hbefore.symm hinput
    · simp only [stepsSoFar, firstWarnings, List.map_append, List.append_assoc, List.nil_append]
      rfl
  · rcases Plan.bind_eq_error_iff.mp hafterEmitted with
      hfailed | ⟨_, _, _, hmanifest, hreturn, rfl⟩
    · cases hfailed
    · cases hreturn

/-! ## Files -/

namespace Emission

variable {toolkit : Toolkit} {config : Config} {settings : ScopeConfig} {now : String}
  {document : Json} {layout : Layout} {emission : Emission} {e : Failure}

theorem BreaksOff.declared_surviving
    (breaks : emission.BreaksOff toolkit config settings now document layout e) :
    ∀ d ∈ emission.declarations, d.1 ∈ layout.surviving := by
  intro d hd
  have hmem : d.1 ∈ emission.declarations.map Prod.fst := List.mem_map_of_mem hd
  cases breaks.stops with
  | tag n later hsurviving _ _ =>
    rw [hsurviving]
    exact List.mem_append_left _ hmem
  | operation earlier later o n hdeclared _ _ _ _ => exact hdeclared ▸ hmem

/-- Methods are only emitted when every tag is declared. -/
theorem BreaksOff.owner_declared
    (breaks : emission.BreaksOff toolkit config settings now document layout e) :
    ∀ p ∈ emission.endpoints, p.1.owner ∈ emission.declarations.map Prod.fst := by
  intro p hp
  cases breaks.stops with
  | tag n later _ hnone _ =>
    rw [hnone] at hp
    cases hp
  | operation earlier later o n hdeclared hsplit _ hemitted _ =>
    have hinput : p.1 ∈ Layout.inputs { layout with operations := earlier } :=
      hemitted ▸ List.mem_map_of_mem hp
    obtain ⟨o', ho', hmade⟩ := List.mem_filterMap.mp hinput
    obtain ⟨owner, howner, hp'⟩ := Option.map_eq_some_iff.mp hmade
    have hmem : o' ∈ layout.operations := hsplit ▸ List.mem_append_left _ ho'
    rw [hdeclared, ← hp']
    exact (owner?_eq_some hmem howner).2

/-- The files that an emission leaves behind that breaks off. -/
theorem leaves_of_steps
    (breaks : emission.BreaksOff toolkit config settings now document layout e)
    {ws : List Api.Warning} {before after : Disk}
    (h : ∀ place, after.file? place =
      (emission.stepsSoFar toolkit document layout ++ ws.map Step.warn).foldl
        (Step.fileAfter before.working place) (before.file? place)) :
    emission.Leaves before after := by
  have hfile (place : Disk.Place) : after.file? place =
      ((emission.declaration? before.working place).map fun d =>
        (String.join (d.2 :: emission.fragments before.working place)).toUTF8).or
        (before.file? place) := by
    rw [h, stepsSoFar, List.foldl_append, foldl_warn, List.foldl_append, List.foldl_append,
      List.foldl_append, foldl_warn]
    exact foldl_written breaks.owner_declared _
  refine ⟨fun d hd place hplace => ?_, fun place helsewhere => ?_⟩
  · cases hlast : emission.declaration? before.working place with
    | none => exact absurd hplace.symm (undeclared_iff.mp hlast d hd)
    | some last =>
      refine ⟨last, rfl, ?_⟩
      rw [hfile, hlast]
      rfl
  · rw [hfile, undeclared_iff.mpr helsewhere]
    rfl

end Emission

end Codegen

/-! ## Runs that fail -/

namespace World

variable {network : Http.Network Id} {now : String}

theorem perform_error {step : Step} {world world' : World} {e : Failure}
    (h : world.perform step = (.error e, world')) : ∃ path cause, e = .unwritable path cause := by
  cases step with
  | warn w => cases h
  | ensureDirectory path =>
    obtain ⟨cause, _, he⟩ := store_error h
    exact ⟨path, cause, he⟩
  | write mode path text =>
    obtain ⟨cause, _, he⟩ := store_error h
    exact ⟨path, cause, he⟩

/-- Steps fail only where something cannot be written. -/
theorem performAll_error {steps : List Step} {world world' : World} {e : Failure}
    (h : world.run ((host network now).performAll steps) = (.error e, world')) :
    ∃ path cause, e = .unwritable path cause := by
  induction steps generalizing world with
  | nil => cases h
  | cons step steps ih =>
    rcases run_bind_error.mp h with hstep | ⟨_, w, _, hrest⟩
    · exact perform_error hstep
    · exact ih hrest

/-- A plan that fails otherwise has done all its steps. -/
theorem carryOut_error {α : Type} {plan : Plan α} {world world' : World} {e : Failure}
    (h : world.run ((host network now).carryOut plan) = (.error e, world'))
    (houtput : ∀ path cause, e ≠ .unwritable path cause) :
    plan = ⟨plan.steps, .error e⟩ ∧
      world.run ((host network now).performAll plan.steps) = (.ok (), world') := by
  rcases run_bind_error.mp h with hsteps | ⟨u, w, hsteps, hout⟩
  · obtain ⟨path, cause, he⟩ := performAll_error hsteps
    exact absurd he (houtput path cause)
  · obtain ⟨steps, outcome⟩ := plan
    cases outcome with
    | ok a => cases hout
    | error e =>
      cases hout
      exact ⟨rfl, hsteps⟩

theorem performAll_warn {ws : List Api.Warning} {world world' : World}
    (h : world.run ((host network now).performAll (ws.map .warn)) = (.ok (), world')) :
    world'.disk = world.disk := by
  induction ws generalizing world with
  | nil =>
    cases h
    rfl
  | cons w ws ih =>
    obtain ⟨_, next, hstep, hrest⟩ := run_bind_ok.mp h
    cases hstep
    exact (ih hrest).trans rfl

section

variable {load : Loader (StateM World)} {loaded : Except Failure Json} {generator : Generator}
  {settings : ScopeConfig} {world world' : World} {e : Failure}

/-- A scope fails while its description is loaded or in its plan. -/
theorem generateScopeFrom_error (hload : world.run (load settings.specUrl) = (loaded, world))
    (h : world.run (generator.generateScopeFrom (host network now) load settings) =
      (.error e, world'))
    (houtput : ∀ path cause, e ≠ .unwritable path cause) :
    loaded = .error e ∧ world' = world ∨ ∃ document steps, loaded = .ok document ∧
      scopePlan generator.toolkit generator.config settings now document = ⟨steps, .error e⟩ ∧
      world.run ((host network now).performAll steps) = (.ok (), world') := by
  rcases run_bind_error.mp h with hfailed | ⟨document, w, hdocument, hplan⟩
  · rw [hload] at hfailed
    cases hfailed
    exact .inl ⟨rfl, rfl⟩
  · rw [hload] at hdocument
    cases hdocument
    rcases run_bind_error.mp hplan with hnow | ⟨time, w, hnow, hcarry⟩
    · cases hnow
    · cases hnow
      obtain ⟨herror, hsteps⟩ := carryOut_error hcarry houtput
      exact .inr ⟨document, _, rfl, herror, hsteps⟩

/-- A run stops at the first scope that fails. -/
theorem generateAllFrom_stops {start : World} {earlier later : List ScopeConfig}
    {summaries : List Summary} (hscopes : generator.config.scopes = earlier ++ settings :: later)
    (hearlier : start.run (earlier.mapM (generator.generateScopeFrom (host network now) load)) =
      (.ok summaries, world))
    (h : world.run (generator.generateScopeFrom (host network now) load settings) =
      (.error e, world')) :
    start.run (generator.generateAllFrom (host network now) load) = (.error e, world') := by
  rw [Generator.generateAllFrom, hscopes, List.mapM_append, List.mapM_cons]
  refine run_bind_error.mpr (.inr ⟨summaries, world, hearlier, ?_⟩)
  exact run_bind_error.mpr (.inl (run_bind_error.mpr (.inl h)))

open Codegen.Emission in
/-- A scope that fails for another reason than a file that cannot be written has changed nothing if
the description is unfit. Otherwise something could not be rendered, and the files are those of the
run up to there; the manifest is not written. Later scopes of a run are neither loaded nor
generated. -/
theorem generateScopeFrom_interrupted
    (hload : world.run (load settings.specUrl) = (loaded, world))
    (h : world.run (generator.generateScopeFrom (host network now) load settings) =
      (.error e, world'))
    (houtput : ∀ path cause, e ≠ .unwritable path cause) :
    (Unfit loaded → world'.disk = world.disk) ∧
    (¬ Unfit loaded → ∃ document layout emission, loaded = .ok document ∧
      BreaksOff generator.toolkit generator.config settings now document layout emission e ∧
      emission.Leaves world.disk world'.disk ∧
      ((∀ n ∈ layout.surviving, emission.namespacePlace world.disk.working n ≠
          emission.manifestPlace world.disk.working) →
        world'.disk.file? (emission.manifestPlace world.disk.working) =
          world.disk.file? (emission.manifestPlace world.disk.working))) ∧
    ∀ (start : World) (earlier later : List ScopeConfig) (summaries : List Summary),
      generator.config.scopes = earlier ++ settings :: later →
      start.run (earlier.mapM (generator.generateScopeFrom (host network now) load)) =
        (.ok summaries, world) →
      start.run (generator.generateAllFrom (host network now) load) = (.error e, world') := by
  refine ⟨fun hunfit => ?_, fun hfit => ?_, fun start earlier later summaries hscopes hearlier =>
    generateAllFrom_stops hscopes hearlier h⟩
  · rcases generateScopeFrom_error hload h houtput with
      ⟨_, rfl⟩ | ⟨document, steps, rfl, hplan, hsteps⟩
    · rfl
    · rcases scopePlan_error hplan with ⟨_, ws, rfl⟩ | ⟨layout, emission, breaks, _⟩
      · exact performAll_warn hsteps
      · exact absurd hunfit (not_unfit breaks.layout_eq)
  · rcases generateScopeFrom_error hload h houtput with
      ⟨rfl, _⟩ | ⟨document, steps, rfl, hplan, hsteps⟩
    · exact absurd (.unloaded e) hfit
    · rcases scopePlan_error hplan with ⟨hunfit, _⟩ | ⟨layout, emission, breaks, ws, rfl⟩
      · exact absurd hunfit hfit
      · have hleaves := leaves_of_steps breaks (performAll_ok hsteps).2.2
        refine ⟨document, layout, emission, rfl, breaks, hleaves, fun hmanifest => ?_⟩
        refine hleaves.other_file _ fun d hd => ?_
        exact hmanifest _ (breaks.declared_surviving d hd)

end

/-- A description whose second operation refers to a parameter that does not exist. -/
def dangling : Json :=
  .object
    [("tags", .array [.object [("name", .string "api")], .object [("name", .string "more")]]),
     ("paths", .object
       [("/a", .object
          [("get", .object [("tags", .array [.string "api"])]),
           ("post", .object
             [("tags", .array [.string "api"]),
              ("parameters", .array [.object [("$ref", .string "parameters/None")]])])]),
        ("/b", .object [("get", .object [("tags", .array [.string "more"])])])])]

def danglingGenerator : Generator :=
  ⟨{ Config.standard with scopes := [⟨"core", "/core", ""⟩, ⟨"extra", "/extra", ""⟩] },
    ⟨.builtin, .empty, []⟩⟩

def danglingLoader : Loader (StateM World) := .reading fun _ _ => .ok dangling

def danglingRun : Except Failure Summary × World :=
  empty.run (danglingGenerator.generateScopeFrom (host (fun _ => none) "") danglingLoader
    ⟨"core", "/core", ""⟩)

theorem danglingRun_fails :
    danglingRun = (.error (.unresolvedReference "parameters/None"), danglingRun.2) :=
  eq_of_failure (by decide +kernel)

theorem generateScopeFrom_interrupted_dangling :
    ∃ world' layout emission,
      danglingRun = (.error (.unresolvedReference "parameters/None"), world') ∧
      Emission.BreaksOff danglingGenerator.toolkit danglingGenerator.config ⟨"core", "/core", ""⟩ ""
        dangling layout emission (.unresolvedReference "parameters/None") ∧
      emission.Leaves empty.disk world'.disk ∧
      (world'.disk.file? ["home", "codegen", "ws", "api.rs"]).isSome ∧
      empty.run (danglingGenerator.generateAllFrom (host (fun _ => none) "") danglingLoader) =
        (.error (.unresolvedReference "parameters/None"), world') := by
  obtain ⟨_, hbreaks, hrest⟩ := generateScopeFrom_interrupted rfl danglingRun_fails (by simp)
  have hfit : ¬ Unfit (.ok dangling) := not_unfit (rfl : Layout.ofDocument dangling = .ok _)
  obtain ⟨document, layout, emission, hloaded, breaks, hleaves, _⟩ := hbreaks hfit
  cases hloaded
  have hbegun : (danglingRun.2.disk.file? ["home", "codegen", "ws", "api.rs"]).isSome := by
    decide +kernel
  exact ⟨_, layout, emission, danglingRun_fails, breaks, hleaves, hbegun,
    hrest empty [] [⟨"extra", "/extra", ""⟩] [] rfl rfl⟩

end World

end ClientForge
