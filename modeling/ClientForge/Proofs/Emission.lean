import ClientForge.Codegen.ScopePlan
import ClientForge.Proofs.Outcome
import ClientForge.Proofs.PlanLaws

/-!
What a generation that succeeds is made of. A `Layout` is what a description declares: its tags and
its operations. An `Emission` is what came of it: a declaration for every tag that owns an
operation, an endpoint for every operation that a tag owns, and the manifest. The plan of a scope
either fails or consists of the steps of an emission.

Results:
1. `owner?_eq`: after the tags without operations are dropped, an operation goes to the tag it went
   to before: the last one that bears the name of its first tag.
2. `scopePlan_ok`: a plan that comes to a summary has the steps and the summary of an emission.
3. `scopePlan_of_isOf`: where there is an emission, the plan comes to its summary.
-/

namespace ClientForge.Codegen

/-! ## Definitions -/

/-- The tags and the operations of a description. -/
structure Layout where
  tags : List Api.Namespace
  operations : List Api.Operation

namespace Layout

def ofDocument (document : Json) : Except Failure Layout := do
  let paths ← Description.paths document
  let tags ← Api.Namespace.declared document
  return ⟨tags, Api.operations paths⟩

/-- The last tag of a name. -/
def lastTag? (layout : Layout) (name : String) : Option Api.Namespace :=
  layout.tags.findRev? (·.name = name)

/-- The tag that an operation goes to: the last one that bears the name of its first tag. -/
def owner? (layout : Layout) (operation : Api.Operation) : Option Api.Namespace :=
  (Api.ownerTag operation.body).bind layout.lastTag?

/-- The tags that are the first tag of an operation. -/
def surviving (layout : Layout) : List Api.Namespace :=
  layout.tags.filter fun n => ∃ o ∈ layout.operations, Api.ownerTag o.body = some n.name

/-- The operations that go to a tag, each with that tag. -/
def inputs (layout : Layout) : List EndpointInput :=
  layout.operations.filterMap fun o => (layout.owner? o).map (endpointInput · o)

end Layout

/-- What was rendered for a scope, each text with what it was rendered for. -/
structure Emission where
  scope : Scope
  declarations : List (Api.Namespace × String)
  endpoints : List (EndpointInput × Endpoint)
  manifest : Manifest

/-- The emission is that of a description: every surviving tag is declared, every operation of a tag
rendered, and the manifest lists the operations. -/
structure Emission.IsOf (toolkit : Toolkit) (config : Config) (settings : ScopeConfig)
    (now : String) (document : Json) (layout : Layout) (emission : Emission) : Prop where
  layout_eq : Layout.ofDocument document = .ok layout
  scope_eq :
    emission.scope = Scope.ofConfig config settings ((Description.version? document).getD "")
  declared : emission.declarations.map Prod.fst = layout.surviving
  declaration_eq : ∀ d ∈ emission.declarations,
    Declaration.render toolkit.registry emission.scope d.1 = .ok d.2
  emitted : emission.endpoints.map Prod.fst = layout.inputs
  endpoint_eq : ∀ p ∈ emission.endpoints,
    Endpoint.render toolkit (.ofDocument document) emission.scope p.1 = .ok p.2
  manifest_eq : emission.manifest =
    ⟨settings.name, emission.scope.specVersion, checksum document, now, settings.baseUrl,
      emission.endpoints.map (·.2.entry)⟩

namespace Emission

def file (emission : Emission) (n : Api.Namespace) : String := emission.scope.namespaceFile n

def declarationSteps (emission : Emission) (d : Api.Namespace × String) : List Step :=
  (Declaration.warnings d.1).map .warn ++ [.write .replace (emission.file d.1) d.2]

def endpointSteps (toolkit : Toolkit) (table : Api.ReferenceTable) (emission : Emission)
    (p : EndpointInput × Endpoint) : List Step :=
  (Endpoint.warnings toolkit table p.1).map .warn ++
    [.write .append (emission.file p.1.owner) p.2.source]

/-- What is noticed before anything is rendered. -/
def firstWarnings (document : Json) (layout : Layout) (emission : Emission) : List Api.Warning :=
  Description.warnings emission.manifest.scope document ++
  layout.operations.filterMap (·.ownershipWarning layout.tags)

def steps (toolkit : Toolkit) (document : Json) (layout : Layout) (emission : Emission) :
    List Step :=
  (emission.firstWarnings document layout).map .warn ++
  [.ensureDirectory emission.scope.outputDir] ++
  emission.declarations.flatMap emission.declarationSteps ++
  emission.endpoints.flatMap (emission.endpointSteps toolkit (.ofDocument document)) ++
  [.write .replace emission.scope.manifestFile emission.manifest.text]

def summary (emission : Emission) : Summary :=
  ⟨emission.manifest.scope, emission.manifest.checksum,
    emission.declarations.map fun d => emission.file d.1, emission.endpoints.length,
    emission.scope.manifestFile⟩

end Emission

/-! ## The layout of a description -/

theorem ofDocument_ok {document : Json} {layout : Layout}
    (h : Layout.ofDocument document = .ok layout) :
    ∃ paths, document.object? "paths" = some paths ∧
      Api.Namespace.declared document = .ok layout.tags ∧
      layout.operations = Api.operations paths := by
  obtain ⟨paths, hpaths, hrest⟩ := Outcome.bind_eq_ok_iff.mp h
  obtain ⟨tags, htags, hlayout⟩ := Outcome.bind_eq_ok_iff.mp hrest
  cases hlayout
  unfold Description.paths at hpaths
  split at hpaths
  · next hfound =>
    cases hpaths
    exact ⟨paths, hfound, htags, rfl⟩
  · cases hpaths

/-! ## The owner of an operation -/

theorem owning_eq_surviving (layout : Layout) :
    Api.Namespace.owning layout.tags layout.operations = layout.surviving := by
  rw [Api.Namespace.owning, Layout.surviving]
  congr 1
  funext n
  rw [Bool.eq_iff_iff]
  simp [Api.Operation.isOwnedBy]

/-- Dropping the tags without operations does not change where an operation goes. -/
theorem owner?_eq (layout : Layout) {o : Api.Operation} (ho : o ∈ layout.operations) :
    owner? layout.surviving o = layout.owner? o := by
  rw [owner?, Layout.owner?]
  cases htag : Api.ownerTag o.body with
  | none => simp [Api.Operation.isOwnedBy, htag]
  | some tag =>
    rw [Option.bind_some, Layout.lastTag?, List.findRev?_eq_find?_reverse, Layout.surviving,
      ← List.filter_reverse, List.find?_filter]
    congr 1
    funext n
    by_cases hname : n.name = tag
    · have owned : ∃ o ∈ layout.operations, Api.ownerTag o.body = some n.name :=
        ⟨o, ho, by rw [htag, hname]⟩
      simpa [Api.Operation.isOwnedBy, htag, hname] using hname ▸ owned
    · simp [Api.Operation.isOwnedBy, htag, hname, Ne.symm hname]

/-- The tag that an operation goes to bears the name of its first tag, and survives. -/
theorem owner?_eq_some {layout : Layout} {o : Api.Operation} {n : Api.Namespace}
    (ho : o ∈ layout.operations) (h : layout.owner? o = some n) :
    Api.ownerTag o.body = some n.name ∧ n ∈ layout.surviving := by
  obtain ⟨tag, htag, hlast⟩ := Option.bind_eq_some_iff.mp h
  rw [Layout.lastTag?, List.findRev?_eq_find?_reverse] at hlast
  have hname : n.name = tag := by simpa using List.find?_some hlast
  have hmem : n ∈ layout.tags := List.mem_reverse.mp (List.mem_of_find?_eq_some hlast)
  rw [← hname] at htag
  exact ⟨htag, List.mem_filter.mpr ⟨hmem, by simpa using ⟨o, ho, htag⟩⟩⟩

/-! ## Plans -/

/-- A plan that warns, renders and writes. -/
theorem written_ok {α β : Type} {warnings : List Api.Warning} {rendered : Except Failure α}
    {write : α → Step} {result : α → β} {steps : List Step} {b : β}
    (h : (do
      Plan.warnings warnings
      let a ← Plan.ofExcept rendered
      Plan.step (write a)
      return result a) = (⟨steps, .ok b⟩ : Plan β)) :
    ∃ a, rendered = .ok a ∧ b = result a ∧ steps = warnings.map .warn ++ [write a] := by
  obtain ⟨_, _, _, hwarnings, hrendered, rfl⟩ := Plan.bind_eq_ok_iff.mp h
  obtain ⟨_, a, _, hplan, hwritten, rfl⟩ := Plan.bind_eq_ok_iff.mp hrendered
  obtain ⟨_, _, _, hwrite, hreturn, rfl⟩ := Plan.bind_eq_ok_iff.mp hwritten
  obtain ⟨hrender, rfl⟩ := Plan.ofExcept_eq_ok_iff.mp hplan
  cases hwarnings
  cases hwrite
  cases hreturn
  exact ⟨a, hrender, rfl, rfl⟩

/-- Such plans for the elements of a list, each with what was rendered for it. -/
theorem mapM_written_ok {α β γ : Type} {plan : α → Plan γ} {render : α → Except Failure β}
    {result : α → β → γ} {made : α → β → List Step}
    (hplan : ∀ {x steps c}, plan x = ⟨steps, .ok c⟩ →
      ∃ b, render x = .ok b ∧ c = result x b ∧ steps = made x b)
    {xs : List α} {steps : List Step} {ys : List γ} (h : xs.mapM plan = ⟨steps, .ok ys⟩) :
    ∃ ps : List (α × β), ps.map Prod.fst = xs ∧ (∀ p ∈ ps, render p.1 = .ok p.2) ∧
      ys = ps.map (fun p => result p.1 p.2) ∧ steps = ps.flatMap fun p => made p.1 p.2 := by
  obtain ⟨parts, hparts, rfl, rfl⟩ := Plan.mapM_eq_ok_iff.mp h
  induction hparts with
  | nil => exact ⟨[], rfl, by simp, rfl, rfl⟩
  | @cons x part xs parts hpart hparts ih =>
    obtain ⟨b, hrender, hresult, hsteps⟩ := hplan hpart
    obtain ⟨ps, hxs, hps, hys, hrest⟩ := ih (Plan.mapM_eq_ok_iff.mpr ⟨parts, hparts, rfl, rfl⟩)
    refine ⟨(x, b) :: ps, ?_, List.forall_mem_cons.mpr ⟨hrender, hps⟩, ?_, ?_⟩
    · rw [List.map_cons, hxs]
    · rw [List.map_cons, List.map_cons, hresult, hys]
    · rw [List.flatMap_cons, List.flatMap_cons, hsteps, hrest]

/-- The plan of a scope, when it comes to a summary, is that of an emission. -/
theorem scopePlan_ok {toolkit : Toolkit} {config : Config} {settings : ScopeConfig} {now : String}
    {document : Json} {steps : List Step} {summary : Summary}
    (h : scopePlan toolkit config settings now document = ⟨steps, .ok summary⟩) :
    ∃ layout emission,
      Emission.IsOf toolkit config settings now document layout emission ∧
      steps = emission.steps toolkit document layout ∧ summary = emission.summary := by
  -- the parts of the plan in order, and then what each of them comes to
  unfold scopePlan at h
  obtain ⟨_, _, _, hversion, hafterVersion, rfl⟩ := Plan.bind_eq_ok_iff.mp h
  obtain ⟨_, paths, _, hpathsPlan, hafterPaths, rfl⟩ := Plan.bind_eq_ok_iff.mp hafterVersion
  obtain ⟨_, tags, _, htagsPlan, hafterTags, rfl⟩ := Plan.bind_eq_ok_iff.mp hafterPaths
  obtain ⟨_, _, _, hownership, hafterOwnership, rfl⟩ := Plan.bind_eq_ok_iff.mp hafterTags
  obtain ⟨_, _, _, hdirectory, hafterDirectory, rfl⟩ := Plan.bind_eq_ok_iff.mp hafterOwnership
  obtain ⟨_, files, _, hdeclared, hafterDeclared, rfl⟩ := Plan.bind_eq_ok_iff.mp hafterDirectory
  obtain ⟨_, entries, _, hemitted, hafterEmitted, rfl⟩ := Plan.bind_eq_ok_iff.mp hafterDeclared
  obtain ⟨_, _, _, hmanifest, hreturn, rfl⟩ := Plan.bind_eq_ok_iff.mp hafterEmitted
  obtain ⟨hpaths, rfl⟩ := Plan.ofExcept_eq_ok_iff.mp hpathsPlan
  obtain ⟨htags, rfl⟩ := Plan.ofExcept_eq_ok_iff.mp htagsPlan
  obtain ⟨ds, hds, hrendered, rfl, rfl⟩ := mapM_written_ok (fun h => written_ok h) hdeclared
  obtain ⟨es, hes, hendpoints, rfl, rfl⟩ := mapM_written_ok (fun h => written_ok h) hemitted
  cases hversion
  cases hownership
  cases hdirectory
  cases hmanifest
  cases hreturn
  have howning := owning_eq_surviving ⟨tags, Api.operations paths⟩
  refine ⟨⟨tags, Api.operations paths⟩,
    ⟨Scope.ofConfig config settings ((Description.version? document).getD ""), ds, es,
      ⟨settings.name, (Description.version? document).getD "", checksum document, now,
        settings.baseUrl, es.map (·.2.entry)⟩⟩,
    ⟨?_, rfl, hds.trans howning, hrendered, hes.trans ?_, hendpoints, rfl⟩, ?_, ?_⟩
  · rw [Layout.ofDocument, hpaths, htags]
    rfl
  · refine List.filterMap_congr fun o ho => ?_
    rw [howning, owner?_eq _ ho]
  · simp only [Emission.steps, Emission.firstWarnings, List.map_append, List.append_assoc,
      List.nil_append, List.append_nil]
    rfl
  · rw [Emission.summary, List.length_map]
    rfl

/-- A plan that warns, renders and writes, when it can render. -/
theorem written_eq {α β : Type} (warnings : List Api.Warning) {rendered : Except Failure α} {a : α}
    (h : rendered = .ok a) (write : α → Step) (result : α → β) :
    (do
      Plan.warnings warnings
      let a ← Plan.ofExcept rendered
      Plan.step (write a)
      return result a) = (⟨warnings.map .warn ++ [write a], .ok (result a)⟩ : Plan β) := by
  rw [h]
  rfl

/-- Such plans for the elements of a list, when each can be rendered. -/
theorem mapM_written_eq {α β γ : Type} {plan : α → Plan γ} {render : α → Except Failure β}
    {result : α → β → γ} {made : α → β → List Step}
    (hplan : ∀ {x b}, render x = .ok b → plan x = ⟨made x b, .ok (result x b)⟩)
    {ps : List (α × β)} (h : ∀ p ∈ ps, render p.1 = .ok p.2) :
    (ps.map Prod.fst).mapM plan =
      ⟨ps.flatMap fun p => made p.1 p.2, .ok (ps.map fun p => result p.1 p.2)⟩ := by
  induction ps with
  | nil => rfl
  | cons p ps ih =>
    rw [List.forall_mem_cons] at h
    rw [List.map_cons, List.mapM_cons, hplan h.1, ih h.2]
    rw [Plan.bind_ok, Plan.bind_ok, Plan.pure_eq, List.append_nil]
    rfl

/-- Where there is an emission, the plan of the scope comes to its summary. -/
theorem scopePlan_of_isOf {toolkit : Toolkit} {config : Config} {settings : ScopeConfig}
    {now : String} {document : Json} {layout : Layout} {emission : Emission}
    (is : emission.IsOf toolkit config settings now document layout) :
    scopePlan toolkit config settings now document =
      ⟨emission.steps toolkit document layout, .ok emission.summary⟩ := by
  obtain ⟨paths, hpaths, htags, hoperations⟩ := ofDocument_ok is.layout_eq
  have hinputs : (layout.operations.filterMap fun o =>
      (owner? layout.surviving o).map (endpointInput · o)) = layout.inputs := by
    refine List.filterMap_congr fun o ho => ?_
    rw [owner?_eq _ ho]
  have hdeclared : layout.surviving.mapM (declare toolkit emission.scope) =
      ⟨emission.declarations.flatMap emission.declarationSteps,
        .ok (emission.declarations.map fun d => emission.file d.1)⟩ := by
    rw [← is.declared]
    exact mapM_written_eq (fun h => written_eq _ h _ _) is.declaration_eq
  have hemitted : layout.inputs.mapM (emit toolkit (.ofDocument document) emission.scope) =
      ⟨emission.endpoints.flatMap (emission.endpointSteps toolkit (.ofDocument document)),
        .ok (emission.endpoints.map (·.2.entry))⟩ := by
    rw [← is.emitted]
    exact mapM_written_eq (fun h => written_eq _ h _ _) is.endpoint_eq
  -- every part of the plan is known, so the steps are put together
  unfold scopePlan Description.paths
  rw [hpaths, htags, ← is.scope_eq]
  simp only [Plan.warnings, Plan.ofExcept, Plan.step, Plan.bind_ok, ← hoperations,
    owning_eq_surviving, hdeclared, hinputs, hemitted, Plan.pure_eq]
  rw [Emission.steps, Emission.firstWarnings, Emission.summary]
  simp [is.manifest_eq]

end ClientForge.Codegen
