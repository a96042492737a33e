import ClientForge.Proofs.IndentedText
import ClientForge.Proofs.ScopeFiles
import Mathlib.Data.List.ProdSigma

/-!
Where the operations of a description go. An operation whose first tag is declared yields one method
and one entry of the manifest; any other yields one warning.

Results:
1. `operations_in_order`, `mem_operations`: the operations are those of the path items under the
   five methods, in the order of the paths and then of the methods.
2. `emitted_accepted`: the methods of an emission are those of the accepted operations, in order.
3. `steps_warnings_of_ownership`: the warnings that concern ownership are those of the others.
4. `generateScopeFrom_accounts`: a scope that is generated accounts for every operation.
-/

namespace ClientForge

open Codegen

/-! ## Definitions -/

/-- The warning says that an operation goes to no namespace. -/
def Api.Warning.isOfOwnership (w : Api.Warning) : Bool :=
  w.message = "operation without tags" ∨ w.message = "operation tagged with undeclared tag"

/-- What is said of an operation that goes to no namespace. -/
def Api.Operation.rejection (o : Api.Operation) : Api.Warning :=
  match Api.ownerTag o.body with
  | none => .operationWithoutTags o.path o.method.key
  | some tag => .undeclaredTag o.path o.method.key tag

/-- The first tag of the operation is the name of a declared tag. -/
def Codegen.Layout.accepts (layout : Layout) (o : Api.Operation) : Bool :=
  ∃ n ∈ layout.tags, Api.ownerTag o.body = some n.name

/-- The path and the text of what a step appends. -/
def Codegen.Step.appended? : Step → Option (String × String)
  | .write .append path text => some (path, text)
  | _ => none

/-- The method and its entry are those of the operation. -/
structure Codegen.Emission.Accounts (o : Api.Operation) (p : EndpointInput × Endpoint) : Prop where
  owner : Api.ownerTag o.body = some p.1.owner.name
  input : p.1 = endpointInput p.1.owner o
  entry_owner : p.2.entry.ownerName = p.1.owner.name
  entry_path : p.2.entry.urlPath = o.path
  entry_verb : p.2.entry.verb = o.method.verb

/-- Every operation under `paths` is accounted for once, by a method and an entry, or a warning. -/
structure Codegen.Emission.Balances (paths : List (String × Json)) (layout : Layout)
    (emission : Emission) (steps : List Step) (warnings : List Api.Warning) (summary : Summary) :
    Prop where
  operation : ∀ o, o ∈ layout.operations ↔
    (o.path, o.item) ∈ paths ∧ o.item.get? o.method.key = some o.body
  order : (layout.operations.map fun o => (o.path, o.method)).Sublist
    (paths.map Prod.fst ×ˢ Api.Method.all)
  methods : List.Forall₂ Accounts (layout.operations.filter layout.accepts) emission.endpoints
  entries : emission.manifest.endpoints = emission.endpoints.map (·.2.entry)
  /-- The text of the manifest, read as JSON, lists them likewise. -/
  listed : (Json.parse? emission.manifest.text).bind (·.array? "endpoints") =
    some (emission.endpoints.map fun p => Manifest.entryJson p.2.entry)
  fragments : steps.filterMap Step.appended? =
    emission.endpoints.map fun p => (emission.file p.1.owner, p.2.source)
  rejections : warnings.filter (·.isOfOwnership) =
    (layout.operations.filter fun o => ¬ layout.accepts o).map (·.rejection)
  number : summary.endpoints = (layout.operations.filter layout.accepts).length
  survivors : emission.declarations.map Prod.fst =
    layout.tags.filter fun n => ∃ p ∈ emission.endpoints, p.2.entry.ownerName = n.name
  files : summary.namespaceFiles = emission.declarations.map fun d => emission.file d.1

/-! ## Operations -/

namespace Api

theorem mem_operations {paths : List (String × Json)} {o : Operation} :
    o ∈ operations paths ↔
      (o.path, o.item) ∈ paths ∧ o.item.get? o.method.key = some o.body := by
  rw [operations, List.mem_flatMap]
  constructor
  · rintro ⟨⟨path, item⟩, hpath, ho⟩
    obtain ⟨method, _, hmade⟩ := List.mem_filterMap.mp ho
    obtain ⟨body, hbody, rfl⟩ := Option.map_eq_some_iff.mp hmade
    exact ⟨hpath, hbody⟩
  · rintro ⟨hpath, hbody⟩
    refine ⟨(o.path, o.item), hpath, List.mem_filterMap.mpr ⟨o.method, Method.mem_all _, ?_⟩⟩
    rw [hbody]
    rfl

theorem item_in_order (path : String) (item : Json) (methods : List Method) :
    ((methods.filterMap fun method => (item.get? method.key).map fun body =>
      (⟨path, item, method, body⟩ : Operation)).map fun o => (o.path, o.method)).Sublist
        (methods.map (path, ·)) := by
  induction methods with
  | nil => exact .slnil
  | cons method methods ih =>
    rw [List.filterMap_cons]
    cases item.get? method.key with
    | none => exact ih.cons _
    | some body => exact ih.cons_cons _

/-- By path and then by method, each combination at most once. -/
theorem operations_in_order (paths : List (String × Json)) :
    ((operations paths).map fun o => (o.path, o.method)).Sublist
      (paths.map Prod.fst ×ˢ Method.all) := by
  induction paths with
  | nil => exact .slnil
  | cons entry paths ih =>
    rw [operations, List.flatMap_cons, ← operations, List.map_append, List.map_cons,
      List.product_cons]
    exact (item_in_order entry.1 entry.2 Method.all).append ih

end Api

/-! ## Other warnings -/

/-- None of the warnings concerns ownership. -/
def Unrelated (ws : List Api.Warning) : Prop := ∀ w ∈ ws, w.isOfOwnership = false

namespace Unrelated

open Api (Warning)

variable {w : Warning} {ws ws' : List Warning}

theorem nil : Unrelated [] := fun _ hw => absurd hw List.not_mem_nil

theorem single (h : w.isOfOwnership = false) : Unrelated [w] := by
  intro v hv
  rw [List.mem_singleton.mp hv]
  exact h

theorem append (h : Unrelated ws) (h' : Unrelated ws') : Unrelated (ws ++ ws') := by
  intro w hw
  rcases List.mem_append.mp hw with hw | hw
  · exact h w hw
  · exact h' w hw

theorem flatMap {α : Type} {f : α → List Warning} {xs : List α} (h : ∀ x, Unrelated (f x)) :
    Unrelated (xs.flatMap f) := by
  intro w hw
  obtain ⟨x, _, hw⟩ := List.mem_flatMap.mp hw
  exact h x w hw

theorem filter_eq_nil (h : Unrelated ws) : ws.filter (·.isOfOwnership) = [] :=
  List.filter_eq_nil_iff.mpr fun w hw => by simp [h w hw]

theorem declared (table : Api.ReferenceTable) (d : Json) :
    Unrelated (Api.Curation.declaredWarnings table d) := by
  unfold Api.Curation.declaredWarnings
  split
  · split
    · exact single (by simp [Warning.isOfOwnership, Warning.message])
    · split
      · exact single (by simp [Warning.isOfOwnership, Warning.message])
      · exact nil
  · exact nil

theorem source (table : Api.ReferenceTable) (s : Api.ParameterSource) :
    Unrelated (Api.Curation.sourceWarnings table s) := by
  cases s with
  | declared d => exact declared table d
  | replacement _ => exact nil

theorem displacement (list ps : List Api.Parameter) :
    Unrelated (Api.Curation.displacementWarnings list ps) := by
  induction ps generalizing list with
  | nil => exact nil
  | cons p ps ih =>
    refine append (fun w hw => ?_) (ih _)
    obtain ⟨q, _, rfl⟩ := List.mem_map.mp hw
    simp [Warning.isOfOwnership, Warning.message]

theorem curation (table : Api.ReferenceTable) (rules : Api.ConvenienceRules) (declared : List Json)
    (operation : Json) : Unrelated (Api.curationWarnings table rules declared operation) := by
  unfold Api.curationWarnings
  refine append (flatMap (source table)) ?_
  split
  · exact displacement _ _
  · exact nil

theorem endpoint (toolkit : Toolkit) (table : Api.ReferenceTable) (input : EndpointInput) :
    Unrelated (Endpoint.warnings toolkit table input) := by
  unfold Endpoint.warnings
  refine append (curation _ _ _ _) ?_
  split
  · exact nil
  · refine append ?_ ?_
    · split
      · exact nil
      · exact single (by simp [Warning.isOfOwnership, Warning.message])
    · split
      · exact single (by simp [Warning.isOfOwnership, Warning.message])
      · exact nil

theorem declaration (n : Api.Namespace) : Unrelated (Declaration.warnings n) := by
  unfold Declaration.warnings
  split
  · exact nil
  · exact single (by simp [Warning.isOfOwnership, Warning.message])

theorem description (scope : String) (document : Json) :
    Unrelated (Description.warnings scope document) := by
  unfold Description.warnings
  split
  · exact single (by simp [Warning.isOfOwnership, Warning.message])
  · exact nil

end Unrelated

namespace Codegen

/-! ## Ownership -/

theorem accepts_iff {layout : Layout} {o : Api.Operation} :
    layout.accepts o = true ↔ ∃ n ∈ layout.tags, Api.ownerTag o.body = some n.name := by
  simp [Layout.accepts]

/-- Both ways of looking for the first tag of an operation find a tag for the same operations. -/
theorem accepts_eq_isSome (layout : Layout) (o : Api.Operation) :
    layout.accepts o = (layout.owner? o).isSome := by
  rw [Bool.eq_iff_iff, accepts_iff, Layout.owner?]
  cases htag : Api.ownerTag o.body with
  | none => simp
  | some tag =>
    rw [Option.bind_some, Layout.lastTag?, List.findRev?_eq_find?_reverse, List.find?_isSome]
    simp [eq_comm]

theorem ownershipWarning_eq (layout : Layout) (o : Api.Operation) :
    o.ownershipWarning layout.tags = if layout.accepts o then none else some o.rejection := by
  rw [Api.Operation.ownershipWarning, Api.Operation.rejection]
  cases htag : Api.ownerTag o.body with
  | none =>
    have hrejected : layout.accepts o = false := by simp [Layout.accepts, htag]
    rw [hrejected]
    rfl
  | some tag =>
    have hany : layout.accepts o = layout.tags.any (·.name == tag) := by
      rw [Bool.eq_iff_iff, accepts_iff, htag, List.any_eq_true]
      simp only [Option.some.injEq, beq_iff_eq]
      exact exists_congr fun n => and_congr_right fun _ => eq_comm
    rw [hany]

theorem filterMap_ownershipWarning (layout : Layout) (os : List Api.Operation) :
    os.filterMap (·.ownershipWarning layout.tags) =
      (os.filter fun o => ¬ layout.accepts o).map (·.rejection) := by
  induction os with
  | nil => rfl
  | cons o os ih =>
    rw [List.filterMap_cons, ownershipWarning_eq, ih]
    cases haccepts : layout.accepts o <;> simp [haccepts]

theorem rejection_isOfOwnership (o : Api.Operation) : o.rejection.isOfOwnership = true := by
  unfold Api.Operation.rejection
  split <;> simp [Api.Warning.isOfOwnership, Api.Warning.message]

namespace Emission

variable {toolkit : Toolkit} {config : Config} {settings : ScopeConfig} {now : String}
  {document : Json} {layout : Layout} {emission : Emission}

theorem accounts_of_owner (is : IsOf toolkit config settings now document layout emission)
    {p : EndpointInput × Endpoint} (hp : p ∈ emission.endpoints) {o : Api.Operation}
    (ho : o ∈ layout.operations) {owner : Api.Namespace} (howner : layout.owner? o = some owner)
    (hinput : endpointInput owner o = p.1) : Accounts o p := by
  obtain ⟨htag, _⟩ := owner?_eq_some ho howner
  obtain ⟨curated, _, _, hentry⟩ := endpoint_render_ok (is.endpoint_eq p hp)
  have hsame : p.1.owner = owner := by
    rw [← hinput]
    rfl
  rw [← hinput] at hentry
  refine ⟨hsame ▸ htag, by rw [hsame, hinput], ?_, ?_, ?_⟩
  · rw [hentry, hsame]
    rfl
  · rw [hentry]
    rfl
  · rw [hentry]
    rfl

/-- The methods are those of the accepted operations, in their order. -/
theorem accepted_endpoints (is : IsOf toolkit config settings now document layout emission) :
    List.Forall₂ Accounts (layout.operations.filter layout.accepts) emission.endpoints := by
  have hinputs : List.Forall₂
      (fun o input => (layout.owner? o).map (endpointInput · o) = some input)
      (layout.operations.filter layout.accepts) layout.inputs :=
    Outcome.forall₂_filter_filterMap fun o => by rw [accepts_eq_isSome, Option.isSome_map]
  rw [← is.emitted, List.forall₂_map_right_iff] at hinputs
  rw [List.forall₂_iff_zip] at hinputs ⊢
  refine ⟨hinputs.1, fun {o p} hmem => ?_⟩
  obtain ⟨ho, hp⟩ := List.of_mem_zip hmem
  obtain ⟨owner, howner, hinput⟩ := Option.map_eq_some_iff.mp (hinputs.2 hmem)
  exact accounts_of_owner is hp (List.mem_filter.mp ho).1 howner hinput

/-- The tags that are declared in files are those that own an emitted operation. -/
theorem declared_emitted (is : IsOf toolkit config settings now document layout emission) :
    emission.declarations.map Prod.fst =
      layout.tags.filter fun n => ∃ p ∈ emission.endpoints, p.2.entry.ownerName = n.name := by
  rw [is.declared, Layout.surviving]
  refine List.filter_congr fun n hn => ?_
  rw [Bool.eq_iff_iff, decide_eq_true_eq, decide_eq_true_eq]
  constructor
  · rintro ⟨o, ho, htag⟩
    have haccepted : (layout.owner? o).isSome = true := by
      rw [← accepts_eq_isSome]
      exact accepts_iff.mpr ⟨n, hn, htag⟩
    obtain ⟨owner, howner⟩ := Option.isSome_iff_exists.mp haccepted
    have hmem : endpointInput owner o ∈ emission.endpoints.map Prod.fst := by
      rw [is.emitted]
      exact List.mem_filterMap.mpr ⟨o, ho, by rw [howner]; rfl⟩
    obtain ⟨p, hp, hinput⟩ := List.mem_map.mp hmem
    have haccounts := accounts_of_owner is hp ho howner hinput.symm
    refine ⟨p, hp, ?_⟩
    rw [haccounts.entry_owner]
    exact Option.some.inj (haccounts.owner.symm.trans htag)
  · rintro ⟨p, hp, hname⟩
    obtain ⟨o, ho, howner, hinput⟩ := exists_operation is hp
    have haccounts := accounts_of_owner is hp ho howner hinput.symm
    rw [haccounts.entry_owner] at hname
    exact ⟨o, ho, by rw [haccounts.owner, hname]⟩

/-! ## Steps -/

theorem filterMap_warn_appended (ws : List Api.Warning) :
    (ws.map Step.warn).filterMap Step.appended? = [] := by
  rw [List.filterMap_map, List.filterMap_eq_nil_iff]
  exact fun _ _ => rfl

theorem filterMap_warn_warning (ws : List Api.Warning) :
    (ws.map Step.warn).filterMap Step.warning? = ws := by
  rw [List.filterMap_map]
  exact List.filterMap_some

theorem steps_appended (toolkit : Toolkit) (document : Json) (layout : Layout)
    (emission : Emission) :
    (emission.steps toolkit document layout).filterMap Step.appended? =
      emission.endpoints.map fun p => (emission.file p.1.owner, p.2.source) := by
  have hdeclared : (emission.declarations.flatMap emission.declarationSteps).filterMap
      Step.appended? = [] := by
    rw [List.filterMap_flatMap, List.flatMap_eq_nil_iff]
    intro d _
    rw [declarationSteps, List.filterMap_append, filterMap_warn_appended]
    rfl
  have hendpoint : ∀ p : EndpointInput × Endpoint,
      (emission.endpointSteps toolkit (.ofDocument document) p).filterMap Step.appended? =
        [(emission.file p.1.owner, p.2.source)] := by
    intro p
    rw [endpointSteps, List.filterMap_append, filterMap_warn_appended]
    rfl
  rw [steps, List.filterMap_append, List.filterMap_append, List.filterMap_append,
    List.filterMap_append, filterMap_warn_appended, hdeclared, List.filterMap_flatMap]
  simp only [hendpoint]
  rw [← List.map_eq_flatMap]
  exact List.append_nil _

theorem steps_warnings (toolkit : Toolkit) (document : Json) (layout : Layout)
    (emission : Emission) :
    (emission.steps toolkit document layout).filterMap Step.warning? =
      emission.firstWarnings document layout ++
        (emission.declarations.flatMap (fun d => Declaration.warnings d.1) ++
          emission.endpoints.flatMap fun p =>
            Endpoint.warnings toolkit (.ofDocument document) p.1) := by
  have hdeclaration : ∀ d : Api.Namespace × String,
      (emission.declarationSteps d).filterMap Step.warning? = Declaration.warnings d.1 := by
    intro d
    rw [declarationSteps, List.filterMap_append, filterMap_warn_warning]
    exact List.append_nil _
  have hendpoint : ∀ p : EndpointInput × Endpoint,
      (emission.endpointSteps toolkit (.ofDocument document) p).filterMap Step.warning? =
        Endpoint.warnings toolkit (.ofDocument document) p.1 := by
    intro p
    rw [endpointSteps, List.filterMap_append, filterMap_warn_warning]
    exact List.append_nil _
  rw [steps, List.filterMap_append, List.filterMap_append, List.filterMap_append,
    List.filterMap_append, filterMap_warn_warning, List.filterMap_flatMap, List.filterMap_flatMap]
  simp only [hdeclaration, hendpoint]
  have hdirectory : [Step.ensureDirectory emission.scope.outputDir].filterMap Step.warning? = [] :=
    rfl
  have hmanifest : [Step.write .replace emission.scope.manifestFile
      emission.manifest.text].filterMap Step.warning? = [] := rfl
  rw [hdirectory, hmanifest, List.append_nil, List.append_nil, List.append_assoc]

/-- The warnings that concern ownership are those of the operations that are not accepted. -/
theorem steps_rejections (toolkit : Toolkit) (document : Json) (layout : Layout)
    (emission : Emission) :
    ((emission.steps toolkit document layout).filterMap Step.warning?).filter (·.isOfOwnership) =
      (layout.operations.filter fun o => ¬ layout.accepts o).map (·.rejection) := by
  have hdeclarations :
      Unrelated (emission.declarations.flatMap fun d => Declaration.warnings d.1) :=
    .flatMap fun d => .declaration d.1
  have hendpoints : Unrelated (emission.endpoints.flatMap fun p =>
      Endpoint.warnings toolkit (.ofDocument document) p.1) :=
    .flatMap fun p => .endpoint toolkit _ p.1
  have hrejections : ∀ w ∈ (layout.operations.filter fun o => ¬ layout.accepts o).map (·.rejection),
      w.isOfOwnership = true := by
    intro w hw
    obtain ⟨o, _, rfl⟩ := List.mem_map.mp hw
    exact rejection_isOfOwnership o
  rw [steps_warnings, List.filter_append, (hdeclarations.append hendpoints).filter_eq_nil,
    List.append_nil, firstWarnings,
    List.filter_append, (Unrelated.description _ _).filter_eq_nil, List.nil_append,
    filterMap_ownershipWarning, List.filter_eq_self.mpr hrejections]

theorem balances (is : IsOf toolkit config settings now document layout emission)
    {paths : List (String × Json)} (hpaths : layout.operations = Api.operations paths) :
    emission.Balances paths layout (emission.steps toolkit document layout)
      ((emission.steps toolkit document layout).filterMap Step.warning?) emission.summary where
  operation _ := hpaths ▸ Api.mem_operations
  order := hpaths ▸ Api.operations_in_order paths
  methods := accepted_endpoints is
  entries := by rw [is.manifest_eq]
  listed := by
    rw [Manifest.endpoints_text, is.manifest_eq, List.map_map]
    rfl
  fragments := steps_appended toolkit document layout emission
  rejections := steps_rejections toolkit document layout emission
  number := (accepted_endpoints is).length_eq.symm
  survivors := declared_emitted is
  files := rfl

end Emission

end Codegen

/-! ## Runs -/

/-- A scope that is generated accounts for every operation of its description. -/
theorem World.generateScopeFrom_accounts {network : Http.Network Id} {now : String}
    {answer : String → World → Except Failure Json} {generator : Generator}
    {settings : ScopeConfig} {world world' : World} {summary : Summary}
    (h : world.run (generator.generateScopeFrom (host network now) (.reading answer) settings) =
      (.ok summary, world')) :
    ∃ document paths layout emission steps warnings,
      answer settings.specUrl world = .ok document ∧
      document.object? "paths" = some paths ∧
      Api.Namespace.declared document = .ok layout.tags ∧
      Emission.IsOf generator.toolkit generator.config settings now document layout emission ∧
      world.run ((host network now).performAll steps) = (.ok (), world') ∧
      world'.warnings = world.warnings ++ warnings ∧
      world'.disk.file? (emission.manifestPlace world.disk.working) =
        some emission.manifest.text.toUTF8 ∧
      emission.Balances paths layout steps warnings summary := by
  obtain ⟨document, layout, emission, hanswer, is, rfl, hsteps⟩ := generateScopeFrom_emission h
  obtain ⟨paths, hpaths, htags, hoperations⟩ := ofDocument_ok is.layout_eq
  obtain ⟨_, hwarnings, hfiles⟩ := performAll_ok hsteps
  exact ⟨document, paths, layout, emission, _, _, hanswer, hpaths, htags, is, hsteps, hwarnings,
    (Emission.fills_of_steps is hfiles).manifest_file, Emission.balances is hoperations⟩

/-- One operation of a declared tag, and others that are null, of an undeclared tag or of a tag that
is no text. -/
def scattered : Json :=
  .object
    [("tags", .array [.object [("name", .string "api")], .object [("name", .string "idle")]]),
     ("paths", .object
       [("/a", .object [("post", .null), ("get", .object [("tags", .array [.string "api"])])]),
        ("/b", .bool true),
        ("/c", .object
          [("put", .object [("tags", .array [.string "other"])]),
           ("delete", .object [("tags", .array [.null, .string "api"])])])])]

def scatteredRejections : List Api.Warning :=
  [.operationWithoutTags "/a" "post", .undeclaredTag "/c" "put" "other",
   .operationWithoutTags "/c" "delete"]

def scatteredRun : Except Failure Summary × World :=
  World.empty.run (Generator.generateScopeFrom (World.host (fun _ => none) "")
    (.reading fun _ _ => .ok scattered) ⟨.standard, ⟨.builtin, .empty, []⟩⟩ ⟨"core", "", ""⟩)

theorem World.generateScopeFrom_accounts_scattered :
    ∃ summary world', scatteredRun = (.ok summary, world') ∧ summary.endpoints = 1 ∧
      world'.warnings.filter (·.isOfOwnership) = scatteredRejections := by
  have hsucceeds : scatteredRun.1.isOk = true := by decide +kernel
  have hlayout : (Layout.ofDocument scattered).map (fun layout =>
      ((layout.operations.filter layout.accepts).length,
        (layout.operations.filter fun o => ¬ layout.accepts o).map (·.rejection))) =
      .ok (1, scatteredRejections) := by decide +kernel
  obtain ⟨summary, world', hrun⟩ := World.exists_of_isOk hsucceeds
  obtain ⟨document, paths, layout, emission, steps, warnings, hanswer, _, _, is, _, hwarnings, _,
    hbalances⟩ := World.generateScopeFrom_accounts hrun
  obtain rfl : scattered = document := Except.ok.inj hanswer
  rw [is.layout_eq] at hlayout
  obtain ⟨hnumber, hrejections⟩ := Prod.mk.inj (Except.ok.inj hlayout)
  refine ⟨summary, world', hrun, hbalances.number.trans hnumber, ?_⟩
  rw [hwarnings]
  exact hbalances.rejections.trans hrejections

end ClientForge
