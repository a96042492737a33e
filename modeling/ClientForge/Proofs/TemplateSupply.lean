import ClientForge.Proofs.CurationFailure
import ClientForge.Proofs.Interruption
import ClientForge.Proofs.KeyOrder
import ClientForge.Proofs.Rendering

/-!
The templates of a run. Before a run starts, every template is looked up that it may ask for: that
of declarations, that of methods, and those that renames name. This covers all look-ups of the run,
whatever the description says, so a run that has started never asks for a template that is missing;
when it fails at a template, the template is there and does not suit its context.

Results:
1. `start_eq_ok_iff`, `start_eq_error_iff`: a run starts when its templates are there, and else the
   first missing one is reported.
2. `Supplied.naming`: the template of every operation is there.
3. `generateAllFrom_cannotRender`: what a run has met that fails at a template.
4. `start_supplies`: these together.
-/

namespace ClientForge

open Codegen Template

/-! ## Definitions -/

namespace Generator

/-- Every template that a run may ask for is there. -/
structure Supplied (registry : Registry) (renames : RenameMapping) : Prop where
  declaration : registry.contains Registry.namespaceName
  method : registry.contains Registry.endpointName
  renamed : ∀ rename ∈ renames.all, registry.contains rename.template

/-- The first template that is missing: that of declarations comes first, then that of methods, and
then those that renames name, in order. -/
inductive FirstMissing (registry : Registry) (renames : RenameMapping) : String → Prop
  | declaration : registry.contains Registry.namespaceName = false →
      FirstMissing registry renames Registry.namespaceName
  | method : registry.contains Registry.namespaceName →
      registry.contains Registry.endpointName = false →
      FirstMissing registry renames Registry.endpointName
  | renamed {rename : Rename} : registry.contains Registry.namespaceName →
      registry.contains Registry.endpointName → rename ∈ renames.all →
      registry.contains rename.template = false →
      (∀ other ∈ renames.all, registry.contains other.template = false →
        rename.template ≤ other.template) →
      FirstMissing registry renames rename.template

end Generator

/-- The template of this name is there, but cannot be rendered in the context. -/
def Template.Registry.Unsuited (registry : Registry) (name : String) (context : Json) : Prop :=
  ∃ template, registry.entries.lookup name = some template ∧ template.render context = none

/-- A template does not suit what is generated from a description: that of declarations a tag, or
the one that is picked for an operation this operation. -/
inductive Codegen.Toolkit.CannotRender (toolkit : Toolkit) (scope : Codegen.Scope)
    (document : Json) : Prop
  | declaration {layout : Layout} {n : Api.Namespace} :
      Layout.ofDocument document = .ok layout → n ∈ layout.surviving →
      toolkit.registry.Unsuited Registry.namespaceName (Declaration.context scope n) →
      CannotRender toolkit scope document
  | method {layout : Layout} {o : Api.Operation} {n : Api.Namespace} {curated : Api.Curated} :
      Layout.ofDocument document = .ok layout → o ∈ layout.operations →
      layout.owner? o = some n →
      Api.curate (.ofDocument document) toolkit.rules (Endpoint.declared (endpointInput n o))
        (endpointInput n o).operation = .ok curated →
      toolkit.registry.Unsuited (Endpoint.naming toolkit.renames (endpointInput n o)).template
        (Endpoint.context scope (endpointInput n o) curated
          (Endpoint.naming toolkit.renames (endpointInput n o)).name) →
      CannotRender toolkit scope document

/-! ## Sorted names -/

namespace Text

theorem find?_eraseDups (p : String → Bool) (names : List String) :
    names.eraseDups.find? p = names.find? p := by
  match names with
  | [] => rfl
  | name :: names =>
    rw [List.eraseDups_cons, List.find?_cons, List.find?_cons, find?_eraseDups p]
    cases hp : p name with
    | true => rfl
    | false =>
      -- what is dropped are further occurrences of `name`, which does not satisfy `p`
      rw [List.find?_filter]
      refine congrArg (List.find? · names) (funext fun other => ?_)
      by_cases hother : other = name
      · simp [hother, hp]
      · simp [hother]
termination_by names.length
decreasing_by exact Nat.lt_succ_of_le (List.length_filter_le _ _)

/-- The first element of a sorted list that satisfies `p` is the least one that does. -/
theorem find?_sorted_iff {p : String → Bool} {names : List String} {name : String}
    (h : names.Pairwise (· ≤ ·)) :
    names.find? p = some name ↔
      name ∈ names ∧ p name ∧ ∀ other ∈ names, p other → name ≤ other := by
  induction names with
  | nil => simp
  | cons first names ih =>
    obtain ⟨hfirst, hnames⟩ := List.pairwise_cons.mp h
    rw [List.find?_cons]
    cases hp : p first with
    | true =>
      constructor
      · intro heq
        obtain rfl := Option.some.inj heq
        refine ⟨List.mem_cons_self, hp, fun other hother _ => ?_⟩
        rcases List.mem_cons.mp hother with rfl | hother
        · exact String.le_refl _
        · exact hfirst other hother
      · rintro ⟨hmem, _, hleast⟩
        have hle := hleast first List.mem_cons_self hp
        rcases List.mem_cons.mp hmem with rfl | hmem
        · rfl
        · exact congrArg some (String.le_antisymm (hfirst name hmem) hle)
    | false => grind

end Text

/-! ## The templates that are looked up before the start -/

theorem Template.Registry.ensure_eq_error_iff {registry : Registry} {names : List String}
    {e : Failure} :
    registry.ensure names = .error e ↔ ∃ name, names.find? (!registry.contains ·) = some name ∧
      e = .configuration (.missingTemplate name registry.names) := by
  rw [ensure]
  cases names.find? (!registry.contains ·) with
  | none => simp
  | some name => simp [eq_comm]

namespace Generator

variable {registry : Registry} {renames : RenameMapping}

theorem mem_templates {name : String} :
    name ∈ renames.templates ↔ ∃ rename ∈ renames.all, rename.template = name := by
  rw [RenameMapping.templates, List.mem_eraseDups, Text.sorted, (Text.sortOn_perm _ _).mem_iff,
    List.mem_map]

/-- Of the templates that renames name, the first missing one in order. -/
theorem find?_templates_iff {name : String} :
    renames.templates.find? (!registry.contains ·) = some name ↔
      ∃ rename ∈ renames.all, rename.template = name ∧ registry.contains rename.template = false ∧
        ∀ other ∈ renames.all, registry.contains other.template = false →
          rename.template ≤ other.template := by
  have hsorted : (Text.sorted (renames.all.map (·.template))).Pairwise (· ≤ ·) :=
    Text.sortOn_sorted id _
  rw [RenameMapping.templates, Text.find?_eraseDups, Text.find?_sorted_iff hsorted]
  simp only [Text.sorted, (Text.sortOn_perm _ _).mem_iff, List.mem_map, Bool.not_eq_true',
    forall_exists_index, and_imp, forall_apply_eq_imp_iff₂]
  constructor
  · rintro ⟨⟨rename, hrename, rfl⟩, hmissing, hleast⟩
    exact ⟨rename, hrename, rfl, hmissing, hleast⟩
  · rintro ⟨rename, hrename, rfl, hmissing, hleast⟩
    exact ⟨⟨rename, hrename, rfl⟩, hmissing, hleast⟩

theorem find?_neededTemplates_iff {name : String} :
    (neededTemplates renames).find? (!registry.contains ·) = some name ↔
      FirstMissing registry renames name := by
  rw [neededTemplates, List.cons_append, List.find?_cons, List.singleton_append, List.find?_cons]
  constructor
  · intro h
    cases hdeclaration : registry.contains Registry.namespaceName with
    | false =>
      rw [hdeclaration] at h
      obtain rfl := Option.some.inj h
      exact .declaration hdeclaration
    | true =>
      cases hmethod : registry.contains Registry.endpointName with
      | false =>
        rw [hdeclaration, hmethod] at h
        obtain rfl := Option.some.inj h
        exact .method hdeclaration hmethod
      | true =>
        rw [hdeclaration, hmethod] at h
        obtain ⟨rename, hrename, rfl, hmissing, hleast⟩ := find?_templates_iff.mp h
        exact .renamed hdeclaration hmethod hrename hmissing hleast
  · intro h
    cases h with
    | declaration hmissing => rw [hmissing]; rfl
    | method hdeclaration hmissing => rw [hdeclaration, hmissing]; rfl
    | renamed hdeclaration hmethod hrename hmissing hleast =>
      rw [hdeclaration, hmethod]
      exact find?_templates_iff.mpr ⟨_, hrename, rfl, hmissing, hleast⟩

/-- Nothing is missing when every template is there. -/
theorem ensure_eq_ok_iff :
    registry.ensure (neededTemplates renames) = .ok () ↔ Supplied registry renames := by
  have hnone : registry.ensure (neededTemplates renames) = .ok () ↔
      (neededTemplates renames).find? (!registry.contains ·) = none := by
    rw [Registry.ensure]
    cases (neededTemplates renames).find? (!registry.contains ·) <;> simp
  rw [hnone, List.find?_eq_none]
  constructor
  · intro h
    refine ⟨?_, ?_, fun rename hrename => ?_⟩
    · simpa using h Registry.namespaceName (by simp [neededTemplates])
    · simpa using h Registry.endpointName (by simp [neededTemplates])
    · have hmem : rename.template ∈ neededTemplates renames :=
        List.mem_append_right _ (mem_templates.mpr ⟨rename, hrename, rfl⟩)
      simpa using h _ hmem
  · intro supplied name hname
    rw [Bool.not_eq_true, Bool.not_eq_false']
    simp only [neededTemplates, List.mem_append, List.mem_cons, List.not_mem_nil, or_false] at hname
    rcases hname with (rfl | rfl) | hname
    · exact supplied.declaration
    · exact supplied.method
    · obtain ⟨rename, hrename, rfl⟩ := mem_templates.mp hname
      exact supplied.renamed rename hrename

variable {config : Config} {rules : Api.ConvenienceRules}

theorem start_eq_ok_iff {generator : Generator} :
    start config registry renames rules = .ok generator ↔
      Supplied registry renames ∧ generator = ⟨config, registry, renames, rules⟩ := by
  rw [start, Outcome.bind_eq_ok_iff, ← ensure_eq_ok_iff]
  simp only [Outcome.pure_eq_ok_iff, eq_comm (a := generator)]
  constructor
  · rintro ⟨_, hensure, hgenerator⟩
    exact ⟨hensure, hgenerator⟩
  · rintro ⟨hensure, hgenerator⟩
    exact ⟨(), hensure, hgenerator⟩

theorem start_eq_error_iff {e : Failure} :
    start config registry renames rules = .error e ↔ ∃ name, FirstMissing registry renames name ∧
      e = .configuration (.missingTemplate name registry.names) := by
  rw [start, Outcome.bind_eq_error_iff, Registry.ensure_eq_error_iff]
  simp only [find?_neededTemplates_iff]
  refine or_iff_left ?_
  rintro ⟨_, _, hreturn⟩
  cases hreturn

end Generator

/-! ## The templates that are picked -/

theorem Codegen.RenameMapping.mem_all_of_find? {renames : RenameMapping}
    {stem operationId : String} {rename : Rename}
    (h : renames.find? stem operationId = some rename) : rename ∈ renames.all := by
  obtain ⟨rows, hrows, hrename⟩ := Option.bind_eq_some_iff.mp h
  obtain ⟨before, after, hentries, _⟩ := List.lookup_eq_some_iff.mp hrows
  obtain ⟨before', after', rfl, _⟩ := List.lookup_eq_some_iff.mp hrename
  have hmem : (stem, before' ++ (operationId, rename) :: after') ∈ renames.entries := by
    rw [hentries]
    exact List.mem_append_right _ List.mem_cons_self
  exact List.mem_flatMap.mpr ⟨_, hmem, by simp⟩

namespace Generator

variable {registry : Registry} {renames : RenameMapping}

/-- The template that is picked for an operation is there, whatever its tag and its id. -/
theorem Supplied.naming (supplied : Supplied registry renames) (input : EndpointInput) :
    registry.contains (Endpoint.naming renames input).template := by
  rw [Endpoint.naming]
  cases hfound : renames.find? (Naming.fileStem input.owner.name) (Endpoint.operationId input) with
  | none => exact supplied.method
  | some rename => exact supplied.renamed rename (RenameMapping.mem_all_of_find? hfound)

end Generator

/-! ## Failures at a template -/

namespace Codegen

open Generator (Supplied)

/-- A template that is there is only refused as unsuited. -/
theorem render_eq_error_iff {registry : Registry} {name : String} {context : Json} {e : Failure}
    (hthere : registry.contains name) :
    registry.render name context = .error e ↔ registry.Unsuited name context ∧ e = .template := by
  obtain ⟨template, hlookup⟩ := Option.isSome_iff_exists.mp hthere
  have hunsuited : registry.Unsuited name context ↔ template.render context = none := by
    simp only [Registry.Unsuited, hlookup, Option.some.injEq, exists_eq_left']
  rw [hunsuited, Registry.render, hlookup, Option.bind_some]
  cases template.render context <;> simp [eq_comm]

/-- Rendering fails in the curation, or else at a template that does not suit the operation. -/
theorem endpoint_render_eq_error_iff {toolkit : Toolkit} {table : Api.ReferenceTable}
    {scope : Scope} {input : EndpointInput} {e : Failure}
    (hthere : toolkit.registry.contains (Endpoint.naming toolkit.renames input).template) :
    Endpoint.render toolkit table scope input = .error e ↔
      Api.curate table toolkit.rules (Endpoint.declared input) input.operation = .error e ∨
        ∃ curated, Api.curate table toolkit.rules (Endpoint.declared input) input.operation =
            .ok curated ∧
          toolkit.registry.Unsuited (Endpoint.naming toolkit.renames input).template
            (Endpoint.context scope input curated (Endpoint.naming toolkit.renames input).name) ∧
          e = .template := by
  rw [Endpoint.render, Outcome.bind_eq_error_iff]
  refine or_congr_right (exists_congr fun curated => and_congr_right fun _ => ?_)
  rw [Outcome.bind_eq_error_iff, render_eq_error_iff hthere]
  refine or_iff_left ?_
  rintro ⟨_, _, hreturn⟩
  cases hreturn

theorem declared_error {document : Json} {e : Failure}
    (h : Api.Namespace.declared document = .error e) : e = .invalidDocument .tagWithoutName := by
  obtain ⟨tag, _, herror⟩ := Outcome.exists_of_mapM_error h
  unfold Api.Namespace.ofTag at herror
  split at herror
  · cases herror
  · exact (Except.error.inj herror).symm

/-- An unfit description is reported as such. -/
theorem scopePlan_unfit {toolkit : Toolkit} {config : Config} {settings : ScopeConfig}
    {now : String} {document : Json} (h : Unfit (.ok document)) :
    ∃ defect, (scopePlan toolkit config settings now document).outcome =
      .error (.invalidDocument defect) := by
  rw [scopePlan, Description.paths]
  cases hpaths : document.object? "paths" with
  | none => exact ⟨.noPaths, rfl⟩
  | some paths =>
    cases htags : Api.Namespace.declared document with
    | error e =>
      obtain rfl := declared_error htags
      exact ⟨.tagWithoutName, rfl⟩
    | ok tags =>
      have hlayout : Layout.ofDocument document = .ok ⟨tags, Api.operations paths⟩ := by
        rw [Layout.ofDocument, Description.paths, hpaths, htags]
        rfl
      exact absurd h (not_unfit hlayout)

/-- A plan that fails at a template has met one that is there and unsuited. -/
theorem scopePlan_cannotRender {toolkit : Toolkit} {config : Config} {settings : ScopeConfig}
    {now : String} {document : Json} {steps : List Step}
    (supplied : Supplied toolkit.registry toolkit.renames)
    (h : scopePlan toolkit config settings now document = ⟨steps, .error .template⟩) :
    toolkit.CannotRender
      (.ofConfig config settings ((Description.version? document).getD "")) document := by
  rcases scopePlan_error h with ⟨hunfit, _⟩ | ⟨layout, emission, breaks, _⟩
  · obtain ⟨defect, hdefect⟩ :
        ∃ defect, (scopePlan toolkit config settings now document).outcome =
          .error (.invalidDocument defect) := scopePlan_unfit hunfit
    rw [h] at hdefect
    cases hdefect
  · rw [← breaks.scope_eq]
    cases breaks.stops with
    | tag n later hsurviving _ hrender =>
      refine .declaration breaks.layout_eq ?_ ((render_eq_error_iff supplied.declaration).mp hrender).1
      rw [hsurviving]
      exact List.mem_append_right _ List.mem_cons_self
    | operation earlier later o n _ hsplit howner _ hrender =>
      rcases (endpoint_render_eq_error_iff (supplied.naming (endpointInput n o))).mp hrender with
        hcurate | ⟨curated, hcurate, hunsuited, _⟩
      · exact absurd hcurate Api.Curation.curate_ne_template
      refine .method breaks.layout_eq ?_ howner hcurate hunsuited
      rw [hsplit]
      exact List.mem_append_right _ List.mem_cons_self

end Codegen

namespace World

variable {network : Http.Network Id} {now : String} {world world' : World}

/-- What is done for the elements of a list fails at one of them. -/
theorem mapM_error {α β : Type} {f : α → Doing (StateM World) β} {xs : List α} {e : Failure}
    (h : world.run (xs.mapM f) = (.error e, world')) :
    ∃ x ∈ xs, ∃ before : World, before.run (f x) = (.error e, world') := by
  induction xs generalizing world with
  | nil => cases h
  | cons x xs ih =>
    rw [List.mapM_cons] at h
    rcases run_bind_error.mp h with hfirst | ⟨_, next, _, hrest⟩
    · exact ⟨x, List.mem_cons_self, world, hfirst⟩
    rcases run_bind_error.mp hrest with hlater | ⟨_, _, _, hreturn⟩
    · obtain ⟨x', hx', before, hbefore⟩ := ih hlater
      exact ⟨x', List.mem_cons_of_mem _ hx', before, hbefore⟩
    · cases hreturn

/-- A run that fails at a template could not load a description for this reason, or it has met a
template that is there and unsuited. -/
theorem generateAllFrom_cannotRender {answer : String → World → Except Failure Json}
    {generator : Generator}
    (supplied : Generator.Supplied generator.toolkit.registry generator.toolkit.renames)
    (h : world.run (generator.generateAllFrom (host network now) (.reading answer)) =
      (.error .template, world')) :
    ∃ settings ∈ generator.config.scopes, ∃ before,
      answer settings.specUrl before = .error .template ∨
      ∃ document, answer settings.specUrl before = .ok document ∧
        generator.toolkit.CannotRender (.ofConfig generator.config settings
          ((Description.version? document).getD "")) document := by
  obtain ⟨settings, hsettings, before, hscope⟩ := mapM_error h
  refine ⟨settings, hsettings, before, ?_⟩
  have hload : before.run (Loader.reading answer settings.specUrl) =
    (answer settings.specUrl before, before) := rfl
  rcases generateScopeFrom_error hload hscope (by simp) with
    ⟨hfailed, _⟩ | ⟨document, steps, hdocument, hplan, _⟩
  · exact .inl hfailed
  · exact .inr ⟨document, hdocument, scopePlan_cannotRender supplied hplan⟩

end World

/-- A run starts exactly when every template is there that it may ask for, and otherwise the first
missing one is reported. Once it has started, the template of declarations and the one picked for
an operation are always there, and no run fails because a template is missing. -/
theorem Generator.start_supplies (config : Config) (registry : Registry) (renames : RenameMapping)
    (rules : Api.ConvenienceRules) :
    ((∃ generator, start config registry renames rules = .ok generator) ↔
      registry.contains Registry.namespaceName ∧ registry.contains Registry.endpointName ∧
        ∀ rename ∈ renames.all, registry.contains rename.template) ∧
    (∀ e, start config registry renames rules = .error e ↔
      ∃ name, FirstMissing registry renames name ∧
        e = .configuration (.missingTemplate name registry.names)) ∧
    ∀ generator, start config registry renames rules = .ok generator →
      generator = ⟨config, registry, renames, rules⟩ ∧
      registry.contains Registry.namespaceName ∧
      (∀ input, registry.contains (Endpoint.naming renames input).template) ∧
      ∀ (network : Http.Network Id) (now : String) (answer : String → World → Except Failure Json)
        (world world' : World),
        world.run (generator.generateAllFrom (World.host network now) (.reading answer)) =
          (.error .template, world') →
        ∃ settings ∈ config.scopes, ∃ before,
          answer settings.specUrl before = .error .template ∨
          ∃ document, answer settings.specUrl before = .ok document ∧
            Toolkit.CannotRender ⟨registry, renames, rules⟩
              (.ofConfig config settings ((Description.version? document).getD "")) document := by
  refine ⟨?_, fun e => start_eq_error_iff, fun generator h => ?_⟩
  · simp only [start_eq_ok_iff, exists_and_left, exists_eq, and_true]
    exact ⟨fun s => ⟨s.declaration, s.method, s.renamed⟩, fun ⟨h, h', h''⟩ => ⟨h, h', h''⟩⟩
  · obtain ⟨supplied, rfl⟩ := start_eq_ok_iff.mp h
    refine ⟨rfl, supplied.declaration, supplied.naming, fun _ _ _ _ _ hrun => ?_⟩
    exact World.generateAllFrom_cannotRender supplied hrun

/-- Templates of which that of methods asks for a value that no operation has. -/
def sparseRegistry : Registry :=
  ⟨[("namespace", Builtin.namespaceHeader), ("endpoint", [Builtin.valueOf "absent"])]⟩

/-- A rename that asks for a template of its own. -/
def uploadRenames : RenameMapping := ⟨[("api", [("putFile", ⟨"put_file", "endpoint_binary"⟩)])]⟩

def sparseConfig : Config := { Config.standard with scopes := [⟨"core", "/core", ""⟩] }

/-- One tag with one operation. -/
def sparseDocument : Json :=
  .object
    [("tags", .array [.object [("name", .string "api")]]),
     ("paths", .object [("/a", .object [("get", .object [("tags", .array [.string "api"])])])])]

def sparseRun : Except Failure (List Summary) × World :=
  World.empty.run (Generator.generateAllFrom (World.host (fun _ => none) "")
    (.reading fun _ _ => .ok sparseDocument) ⟨sparseConfig, sparseRegistry, .empty, []⟩)

theorem sparseRun_fails : sparseRun = (.error .template, sparseRun.2) :=
  World.eq_of_failure (by decide +kernel)

theorem Generator.start_supplies_sparse :
    start sparseConfig sparseRegistry uploadRenames [] =
      .error (.configuration (.missingTemplate "endpoint_binary" ["endpoint", "namespace"])) ∧
    start sparseConfig sparseRegistry .empty [] = .ok ⟨sparseConfig, sparseRegistry, .empty, []⟩ ∧
    sparseRun.1 = .error .template ∧
    Toolkit.CannotRender ⟨sparseRegistry, .empty, []⟩
      (.ofConfig sparseConfig ⟨"core", "/core", ""⟩ "") sparseDocument := by
  have hstart : start sparseConfig sparseRegistry .empty [] =
      .ok ⟨sparseConfig, sparseRegistry, .empty, []⟩ := rfl
  have hrename : (⟨"put_file", "endpoint_binary"⟩ : Rename) ∈ uploadRenames.all := by decide
  have hmissing : FirstMissing sparseRegistry uploadRenames "endpoint_binary" :=
    .renamed rfl rfl hrename rfl (by decide)
  have hnames : sparseRegistry.names = ["endpoint", "namespace"] := by decide +kernel
  refine ⟨?_, hstart, congrArg Prod.fst sparseRun_fails, ?_⟩
  · rw [← hnames]
    exact ((start_supplies sparseConfig sparseRegistry uploadRenames []).2.1 _).mpr
      ⟨_, hmissing, rfl⟩
  · obtain ⟨_, _, _, hruns⟩ :=
      (start_supplies sparseConfig sparseRegistry .empty []).2.2 _ hstart
    obtain ⟨settings, hsettings, _, hanswer | ⟨document, hdocument, hcannot⟩⟩ :=
      hruns _ _ (fun _ _ => .ok sparseDocument) World.empty _ sparseRun_fails
    · cases hanswer
    · cases hdocument
      obtain rfl := List.mem_singleton.mp hsettings
      exact hcannot

end ClientForge
