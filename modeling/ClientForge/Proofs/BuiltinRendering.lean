import ClientForge.Proofs.MethodText
import ClientForge.Proofs.TemplateSupply

/-!
Runs with the built-in templates alone. The template of declarations renders for every tag, and the
two templates of methods render for every operation that can be curated. But a rename may name each
of the three, and the one of declarations asks for values that no operation has. The start of a run
only looks whether the templates are there, so it does not rule this out.

Results:
1. `declaration_renders`: every tag can be declared.
2. `builtin_unsuited_iff`: which of the templates does not render an operation.
3. `start_builtin_render_iff`: an operation fails in its curation, or else at the template of
   declarations, which a rename has picked for it.
-/

namespace ClientForge.Codegen

open Template

/-! ## Declarations -/

/-- The body of the loop over the lines of the description of a tag. -/
def headerLine : List Node :=
  [.text "//!", Builtin.given "line" [.text " ", Builtin.valueOf "line"] [], .text "\n"]

theorem renderNodes_headerLine (context : Json) (line : String) (index count : Nat) :
    renderNodes ⟨[⟨"line", .string line, index, count⟩], context⟩ headerLine =
      some (if line.isEmpty then "//!\n" else "//! " ++ line ++ "\n") := by
  have hholds : (Condition.holds ⟨.path "line" [], []⟩).eval
      ⟨[⟨"line", .string line, index, count⟩], context⟩ = some (!line.isEmpty) := rfl
  have hline : (Builtin.given "line" [.text " ", Builtin.valueOf "line"] []).render
      ⟨[⟨"line", .string line, index, count⟩], context⟩ =
        some (if line.isEmpty then "" else " " ++ line) := by
    rw [Builtin.given, Node.render, hholds]
    cases line.isEmpty
    · refine (renderNodes_join (.cons rfl (.cons rfl .nil))).trans (some_text ?_)
      simp [display]
    · rfl
  refine (renderNodes_join (.cons rfl (.cons hline (.cons rfl .nil)))).trans (some_text ?_)
  split <;> simp

/-- Every tag can be declared. -/
theorem declaration_renders (scope : Scope) (n : Api.Namespace) :
    ∃ text, Declaration.render .builtin scope n = .ok text := by
  have hlines : (Builtin.forEach "line" "description_lines" headerLine).render
      ⟨[], Declaration.context scope n⟩ = some _ :=
    render_forEach rfl (renderNodes_headerLine _)
  obtain ⟨text, hrest⟩ : ∃ text, renderNodes ⟨[], Declaration.context scope n⟩
      (Builtin.namespaceHeader.drop 1) = some text := ⟨_, rfl⟩
  have hheader : Builtin.namespaceHeader.render (Declaration.context scope n) = some _ :=
    renderNodes_both ((renderNodes_singleton _).trans hlines) hrest
  exact ⟨_, Registry.render_of_lookup rfl hheader⟩

/-! ## Operations -/

/-- Of the built-in templates, only that of declarations does not render an operation. -/
theorem builtin_unsuited_iff {name methodName : String} {scope : Scope} {input : EndpointInput}
    {curated : Api.Curated} (hthere : Registry.builtin.contains name) :
    Registry.builtin.Unsuited name (Endpoint.context scope input curated methodName) ↔
      name = Registry.namespaceName := by
  constructor
  · rintro ⟨template, hlookup, hrender⟩
    rcases Registry.builtin_lookup hlookup with ⟨hname, _⟩ | ⟨_, rfl⟩ | ⟨_, rfl⟩
    · exact hname
    · cases endpoint_text.symm.trans hrender
    · cases endpointBinary_text.symm.trans hrender
  · rintro rfl
    exact ⟨Builtin.namespaceHeader, rfl, header_of_endpoint scope input curated methodName⟩

section

variable {toolkit : Toolkit} {scope : Scope}

/-- An operation fails in its curation, or else at the template of declarations. -/
theorem endpoint_render_builtin (hregistry : toolkit.registry = .builtin)
    (supplied : Generator.Supplied toolkit.registry toolkit.renames) {table : Api.ReferenceTable}
    {input : EndpointInput} {e : Failure} :
    Endpoint.render toolkit table scope input = .error e ↔
      Api.curate table toolkit.rules (Endpoint.declared input) input.operation = .error e ∨
        (∃ curated, Api.curate table toolkit.rules (Endpoint.declared input) input.operation =
          .ok curated) ∧
        (Endpoint.naming toolkit.renames input).template = Registry.namespaceName ∧
        e = .template := by
  have hthere := supplied.naming input
  rw [endpoint_render_eq_error_iff hthere]
  simp only [hregistry] at hthere ⊢
  simp only [builtin_unsuited_iff hthere, exists_and_right]

/-- What cannot be rendered is an operation for which the template of declarations is picked. -/
theorem builtin_cannotRender {document : Json} (hregistry : toolkit.registry = .builtin)
    (supplied : Generator.Supplied toolkit.registry toolkit.renames)
    (h : toolkit.CannotRender scope document) :
    ∃ layout o n, Layout.ofDocument document = .ok layout ∧ o ∈ layout.operations ∧
      layout.owner? o = some n ∧
      (Endpoint.naming toolkit.renames (endpointInput n o)).template = Registry.namespaceName := by
  cases h with
  | @declaration _ n _ _ hunsuited =>
    obtain ⟨text, hrender⟩ := declaration_renders scope n
    have hfails : Declaration.render .builtin scope n = .error .template :=
      (render_eq_error_iff rfl).mpr ⟨hregistry ▸ hunsuited, rfl⟩
    cases hrender.symm.trans hfails
  | @method layout o n curated hlayout ho howner _ hunsuited =>
    have hthere := supplied.naming (endpointInput n o)
    rw [hregistry] at hthere hunsuited
    exact ⟨layout, o, n, hlayout, ho, howner, (builtin_unsuited_iff hthere).mp hunsuited⟩

end

end ClientForge.Codegen

namespace ClientForge

open Codegen Template

/-- With the built-in templates, an operation fails in its curation, or else because a rename has
picked the template of declarations for it; the start of the run does not rule this out. Every tag
can be declared, so a run that fails at a template has met such an operation. -/
theorem Generator.start_builtin_render_iff {config : Config} {renames : RenameMapping}
    {rules : Api.ConvenienceRules} {generator : Generator}
    (h : start config .builtin renames rules = .ok generator) :
    (∀ table scope input e, Endpoint.render generator.toolkit table scope input = .error e ↔
      Api.curate table rules (Endpoint.declared input) input.operation = .error e ∨
        (∃ curated, Api.curate table rules (Endpoint.declared input) input.operation =
          .ok curated) ∧
        (Endpoint.naming renames input).template = Registry.namespaceName ∧ e = .template) ∧
    (∀ scope n, ∃ text, Declaration.render generator.toolkit.registry scope n = .ok text) ∧
    ∀ (network : Http.Network Id) (now : String) (answer : String → World → Except Failure Json)
      (world world' : World),
      world.run (generator.generateAllFrom (World.host network now) (.reading answer)) =
        (.error .template, world') →
      ∃ settings ∈ config.scopes, ∃ before,
        answer settings.specUrl before = .error .template ∨
        ∃ document layout o n, answer settings.specUrl before = .ok document ∧
          Layout.ofDocument document = .ok layout ∧ o ∈ layout.operations ∧
          layout.owner? o = some n ∧
          (Endpoint.naming renames (endpointInput n o)).template = Registry.namespaceName := by
  obtain ⟨supplied, rfl⟩ := start_eq_ok_iff.mp h
  refine ⟨fun _ _ _ _ => endpoint_render_builtin rfl supplied,
    fun scope n => declaration_renders scope n, fun _ _ _ _ _ hrun => ?_⟩
  obtain ⟨settings, hsettings, before, hanswer | ⟨document, hdocument, hcannot⟩⟩ :=
    World.generateAllFrom_cannotRender supplied hrun
  · exact ⟨settings, hsettings, before, .inl hanswer⟩
  · obtain ⟨layout, o, n, hfound⟩ := builtin_cannotRender rfl supplied hcannot
    exact ⟨settings, hsettings, before, .inr ⟨document, layout, o, n, hdocument, hfound⟩⟩

/-- A rename that asks for the template of declarations. -/
def declarationRenames : RenameMapping := ⟨[("api", [("get_/a", ⟨"get_a", "namespace"⟩)])]⟩

def declarationGenerator : Generator := ⟨sparseConfig, .builtin, declarationRenames, []⟩

/-- The file of an earlier run. -/
def earlierContent : ByteArray := "impl Api<'_> {}".toUTF8

def earlierWorld : World :=
  .ofDisk
    ⟨[(["home"], .directory), (["home", "codegen"], .directory),
      (["home", "codegen", "ws"], .directory),
      (["home", "codegen", "ws", "api.rs"], .file earlierContent)], ["home"]⟩

def declarationRun : Except Failure (List Summary) × World :=
  earlierWorld.run (Generator.generateAllFrom (World.host (fun _ => none) "")
    (.reading fun _ _ => .ok sparseDocument) declarationGenerator)

theorem declarationRun_fails : declarationRun = (.error .template, declarationRun.2) :=
  World.eq_of_failure (by decide +kernel)

theorem Generator.start_builtin_render_declaration :
    start sparseConfig .builtin declarationRenames [] = .ok declarationGenerator ∧
    (∀ scope, ∃ text, Declaration.render .builtin scope ⟨"api", "api", none⟩ = .ok text) ∧
    ∃ layout o n, Layout.ofDocument sparseDocument = .ok layout ∧ o ∈ layout.operations ∧
      layout.owner? o = some n ∧
      (Endpoint.naming declarationRenames (endpointInput n o)).template =
        Registry.namespaceName := by
  have hstart : start sparseConfig .builtin declarationRenames [] = .ok declarationGenerator := rfl
  obtain ⟨_, hdeclares, hruns⟩ := start_builtin_render_iff hstart
  refine ⟨hstart, fun scope => hdeclares scope _, ?_⟩
  obtain ⟨_, _, _, hanswer | ⟨document, layout, o, n, hdocument, hfound⟩⟩ :=
    hruns _ _ (fun _ _ => .ok sparseDocument) earlierWorld _ declarationRun_fails
  · cases hanswer
  · cases hdocument
    exact ⟨layout, o, n, hfound⟩

/-- The operation of `sparseDocument`. -/
def sparseInput : EndpointInput :=
  ⟨⟨"api", "api", none⟩, "/a", .get, .object [("tags", .array [.string "api"])], []⟩

/-- A run that has started breaks off at a template, although the operation can be curated, and by
then it has replaced the file of an earlier run. -/
theorem declaration_breaks_run :
    Generator.start sparseConfig .builtin declarationRenames [] = .ok declarationGenerator ∧
    (∃ curated, Api.curate ⟨[]⟩ [] (Endpoint.declared sparseInput) sparseInput.operation =
      .ok curated) ∧
    (∀ scope, Endpoint.render declarationGenerator.toolkit ⟨[]⟩ scope sparseInput =
      .error .template) ∧
    declarationRun.1 = .error .template ∧
    ∃ content, declarationRun.2.disk.file? ["home", "codegen", "ws", "api.rs"] = some content ∧
      content ≠ earlierContent := by
  have hcurate : Api.curate ⟨[]⟩ [] (Endpoint.declared sparseInput) sparseInput.operation =
      .ok _ := rfl
  have hreplaced : (declarationRun.2.disk.file? ["home", "codegen", "ws", "api.rs"]).any
      (·.size != earlierContent.size) := by decide +kernel
  obtain ⟨content, hcontent, hsize⟩ := (Option.any_eq_true _ _).mp hreplaced
  exact ⟨rfl, ⟨_, hcurate⟩, fun _ => rfl, congrArg Prod.fst declarationRun_fails, content, hcontent,
    fun h => bne_iff_ne.mp hsize (congrArg ByteArray.size h)⟩

end ClientForge
