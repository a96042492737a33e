import ClientForge.Codegen.Endpoint
import ClientForge.Proofs.Outcome

/-!
What the built-in templates render to, in outline: the type that a declaration declares and the type
that an endpoint implements.

Results:
1. `renderNodes_append`, `renderNodes_join`: nodes in a row render when each does, and the texts are
   joined; `render_given` and `render_forEach` are the texts of a branch and of a loop.
2. `declaration_declares`: the built-in declaration declares the type of its tag's display name.
3. `endpoint_implements`: whatever built-in template a rename asks for, a rendered endpoint is an
   `impl` block of the type of its owner's display name.
-/

namespace ClientForge.Template

/-! ## Nodes in a row -/

theorem renderNodes_cons {scope : Scope} {node : Node} {nodes : List Node} {s : String} :
    renderNodes scope (node :: nodes) = some s ↔
      ∃ x y, node.render scope = some x ∧ renderNodes scope nodes = some y ∧ s = x ++ y := by
  rw [renderNodes]
  cases node.render scope with
  | none => simp
  | some x =>
    cases renderNodes scope nodes with
    | none => simp
    | some y => simp [eq_comm]

theorem renderNodes_append {scope : Scope} {first second : List Node} {s : String} :
    renderNodes scope (first ++ second) = some s ↔
      ∃ x y, renderNodes scope first = some x ∧ renderNodes scope second = some y ∧ s = x ++ y := by
  induction first generalizing s with
  | nil => simp [renderNodes]
  | cons node nodes ih =>
    rw [List.cons_append, renderNodes_cons]
    constructor
    · rintro ⟨x, rest, hx, hrest, rfl⟩
      obtain ⟨y, z, hy, hz, rfl⟩ := ih.mp hrest
      exact ⟨x ++ y, z, renderNodes_cons.mpr ⟨x, y, hx, hy, rfl⟩, hz, (String.append_assoc ..).symm⟩
    · rintro ⟨xy, z, hxy, hz, rfl⟩
      obtain ⟨x, y, hx, hy, rfl⟩ := renderNodes_cons.mp hxy
      exact ⟨x, y ++ z, hx, ih.mpr ⟨y, z, hy, hz, rfl⟩, String.append_assoc ..⟩

theorem renderNodes_text {scope : Scope} {value s : String} {nodes : List Node} :
    renderNodes scope (.text value :: nodes) = some s ↔
      ∃ y, renderNodes scope nodes = some y ∧ s = value ++ y := by
  simp [renderNodes_cons, Node.render]

/-- A variable outside of loops is a field of the context. -/
theorem renderNodes_valueOf {context : Json} {name s : String} {nodes : List Node} :
    renderNodes ⟨[], context⟩ (Builtin.valueOf name :: nodes) = some s ↔
      ∃ value y, context.get? name = some value ∧ renderNodes ⟨[], context⟩ nodes = some y ∧
        s = display value ++ y := by
  have found : (Builtin.valueOf name).render ⟨[], context⟩ = (context.get? name).map display := by
    cases h : context.get? name <;>
      simp [Builtin.valueOf, Node.render, Expression.eval, Operand.eval, Scope.find?, descend,
        applyFilters, h]
  rw [renderNodes_cons, found]
  cases context.get? name <;> simp

/-- Nodes with a variable that is missing do not render. -/
theorem renderNodes_missing {context : Json} {name : String} {nodes : List Node}
    (hmem : Builtin.valueOf name ∈ nodes) (hmissing : context.get? name = none) :
    renderNodes ⟨[], context⟩ nodes = none := by
  obtain ⟨before, after, rfl⟩ := List.append_of_mem hmem
  rw [Option.eq_none_iff_forall_ne_some]
  intro s h
  obtain ⟨_, _, _, hafter, _⟩ := renderNodes_append.mp h
  obtain ⟨_, _, hfound, _⟩ := renderNodes_valueOf.mp hafter
  rw [hmissing] at hfound
  cases hfound

/-- Nodes in a row, each with its text. -/
theorem renderNodes_join {scope : Scope} {nodes : List Node} {texts : List String}
    (h : List.Forall₂ (fun node text => node.render scope = some text) nodes texts) :
    renderNodes scope nodes = some (String.join texts) := by
  induction h with
  | nil => rfl
  | cons hnode _ ih =>
    rw [renderNodes, hnode, ih, String.join_cons]
    rfl

theorem renderNodes_both {scope : Scope} {first second : List Node} {x y : String}
    (hfirst : renderNodes scope first = some x) (hsecond : renderNodes scope second = some y) :
    renderNodes scope (first ++ second) = some (x ++ y) :=
  renderNodes_append.mpr ⟨x, y, hfirst, hsecond, rfl⟩

theorem renderNodes_singleton {scope : Scope} (node : Node) :
    renderNodes scope [node] = node.render scope := by
  rw [renderNodes]
  cases node.render scope with
  | none => rfl
  | some s => simp [renderNodes]

/-! ## Branches and loops -/

/-- A branch on a field of the context. -/
theorem render_given {context : Json} {field : String} {yes no : List Node} {b : Bool}
    (h : context.get? field = some (.bool b)) :
    (Builtin.given field yes no).render ⟨[], context⟩ =
      renderNodes ⟨[], context⟩ (if b then yes else no) := by
  have hholds : (Condition.holds ⟨.path field [], []⟩).eval ⟨[], context⟩ = some b := by
    simp [Condition.eval, Expression.eval, Operand.eval, Scope.find?, descend, applyFilters, h,
      isTruthy]
  rw [Builtin.given, Node.render, hholds]
  cases b <;> rfl

theorem renderEach_map {α : Type} {render : Json → Nat → Option String} {item : α → Json}
    {text : α → String} (h : ∀ a index, render (item a) index = some (text a)) (as : List α)
    (index : Nat) :
    renderEach render (as.map item) index = some (String.join (as.map text)) := by
  induction as generalizing index with
  | nil => rfl
  | cons a as ih =>
    rw [List.map_cons, List.map_cons, renderEach, h, ih, String.join_cons]
    rfl

/-- A loop over a field of the context writes the texts of the items in a row. -/
theorem render_forEach {α : Type} {context : Json} {bound container : String} {body : List Node}
    {as : List α} {item : α → Json} {text : α → String}
    (hitems : context.get? container = some (.array (as.map item)))
    (hbody : ∀ a index count,
      renderNodes ⟨[⟨bound, item a, index, count⟩], context⟩ body = some (text a)) :
    (Builtin.forEach bound container body).render ⟨[], context⟩ =
      some (String.join (as.map text)) := by
  have hcontainer : (Expression.eval ⟨[], context⟩ ⟨.path container [], []⟩).bind loopItems =
      some (as.map item) := by
    simp [Expression.eval, Operand.eval, Scope.find?, descend, applyFilters, hitems, loopItems]
  rw [Builtin.forEach, Node.render, hcontainer]
  exact renderEach_map (fun a index => hbody a index _) as 0

/-! ## Templates by name -/

theorem Registry.render_ok {registry : Registry} {name s : String} {context : Json}
    (h : registry.render name context = .ok s) :
    ∃ template, registry.entries.lookup name = some template ∧
      template.render context = some s := by
  unfold Registry.render at h
  split at h
  · next hrender =>
    cases h
    exact Option.bind_eq_some_iff.mp hrender
  · cases h

theorem Registry.render_of_lookup {registry : Registry} {name s : String} {template : Template}
    {context : Json} (hlookup : registry.entries.lookup name = some template)
    (hrender : template.render context = some s) : registry.render name context = .ok s := by
  rw [Registry.render, hlookup, Option.bind_some, hrender]

/-- A built-in template is one of three, under its name. -/
theorem Registry.builtin_lookup {name : String} {template : Template}
    (h : Registry.builtin.entries.lookup name = some template) :
    name = namespaceName ∧ template = Builtin.namespaceHeader ∨
      name = endpointName ∧ template = Builtin.endpoint ∨
      name = "endpoint_binary" ∧ template = Builtin.endpointBinary := by
  obtain ⟨before, after, hentries, _⟩ := List.lookup_eq_some_iff.mp h
  have hmem : (name, template) ∈ Registry.builtin.entries := by
    rw [hentries]
    exact List.mem_append_right _ List.mem_cons_self
  simpa only [Registry.builtin, List.mem_cons, List.not_mem_nil, or_false, Prod.mk.injEq] using hmem

end ClientForge.Template

namespace ClientForge.Codegen

open Template

/-! ## Types -/

/-- The text declares a type of this name. -/
def DeclaresType (source name : String) : Prop :=
  ∃ before after, source = before ++ "\npub struct " ++ name ++ "<'a> \x7b\n" ++ after

/-- The text is an `impl` block of the type of this name. -/
def ImplementsType (source name : String) : Prop :=
  ∃ body, source = "\nimpl " ++ name ++ "<'_> \x7b" ++ body ++ "\n\x7d\n"

theorem declaration_declares {scope : Scope} {n : Api.Namespace} {s : String}
    (h : Declaration.render .builtin scope n = .ok s) :
    DeclaresType s (Naming.typeName n.displayName) := by
  obtain ⟨template, hlookup, hrender⟩ := Registry.render_ok h
  obtain rfl : Builtin.namespaceHeader = template := Option.some.inj hlookup
  have split : Builtin.namespaceHeader = Builtin.namespaceHeader.take 11 ++
      .text "\npub struct " :: Builtin.valueOf "class_name" ::
      .text "<'a> \x7b\n    client: &'a ApiClient,\n\x7d\n\nimpl<'a> " ::
      Builtin.namespaceHeader.drop 14 := rfl
  rw [Template.render, split] at hrender
  obtain ⟨before, _, _, hstruct, rfl⟩ := renderNodes_append.mp hrender
  obtain ⟨_, hname, rfl⟩ := renderNodes_text.mp hstruct
  obtain ⟨name, _, hfound, hopened, rfl⟩ := renderNodes_valueOf.mp hname
  obtain ⟨after, _, rfl⟩ := renderNodes_text.mp hopened
  cases hfound
  refine ⟨before, "    client: &'a ApiClient,\n\x7d\n\nimpl<'a> " ++ after, ?_⟩
  have opening : "<'a> \x7b\n    client: &'a ApiClient,\n\x7d\n\nimpl<'a> " =
      "<'a> \x7b\n" ++ "    client: &'a ApiClient,\n\x7d\n\nimpl<'a> " := by decide +kernel
  rw [opening]
  simp only [String.append_assoc]
  rfl

/-- Nodes of a method, from the opening of its block to the end. -/
def block (middle : List Node) : List Node :=
  .text "\nimpl " :: Builtin.valueOf "class_name" :: .text "<'_> \x7b" ::
    (middle ++ [.text ", Self::BASE_URL, &path, options)\n            .await\n    \x7d\n\x7d\n"])

theorem endpoint_eq : Builtin.endpoint = block ((Builtin.endpoint.drop 3).dropLast) := rfl

theorem endpointBinary_eq :
    Builtin.endpointBinary = block ((Builtin.endpointBinary.drop 3).dropLast) := rfl

/-- Nodes between the opening and the end of a method render to an `impl` block. -/
theorem nodes_implement {context : Json} {middle : List Node} {name s : String}
    (hname : context.get? "class_name" = some (.string name))
    (h : renderNodes ⟨[], context⟩ (block middle) = some s) :
    ImplementsType s name := by
  obtain ⟨_, hopened, rfl⟩ := renderNodes_text.mp h
  obtain ⟨value, _, hfound, hbody, rfl⟩ := renderNodes_valueOf.mp hopened
  obtain ⟨_, hmiddle, rfl⟩ := renderNodes_text.mp hbody
  obtain ⟨body, _, _, hend, rfl⟩ := renderNodes_append.mp hmiddle
  obtain ⟨_, hnil, rfl⟩ := renderNodes_text.mp hend
  rw [hname] at hfound
  cases hfound
  cases hnil
  have closing : ", Self::BASE_URL, &path, options)\n            .await\n    \x7d\n\x7d\n" =
      ", Self::BASE_URL, &path, options)\n            .await\n    \x7d" ++ "\n\x7d\n" := by
    decide +kernel
  refine ⟨body ++ ", Self::BASE_URL, &path, options)\n            .await\n    \x7d", ?_⟩
  rw [closing]
  simp only [String.append_assoc, String.append_empty]
  rfl

/-- An endpoint is rendered from its curated parameters, under the name and by the template that the
renames give it. -/
theorem endpoint_render_ok {toolkit : Toolkit} {table : Api.ReferenceTable} {scope : Scope}
    {input : EndpointInput} {endpoint : Endpoint}
    (h : Endpoint.render toolkit table scope input = .ok endpoint) :
    ∃ curated,
      Api.curate table toolkit.rules (Endpoint.declared input) input.operation = .ok curated ∧
      toolkit.registry.render (Endpoint.naming toolkit.renames input).template
        (Endpoint.context scope input curated (Endpoint.naming toolkit.renames input).name) =
          .ok endpoint.source ∧
      endpoint.entry =
        Endpoint.record input curated (Endpoint.naming toolkit.renames input).name := by
  obtain ⟨curated, hcurate, hnamed⟩ := Outcome.bind_eq_ok_iff.mp h
  obtain ⟨source, hrender, hendpoint⟩ := Outcome.bind_eq_ok_iff.mp hnamed
  cases hendpoint
  exact ⟨curated, hcurate, hrender, rfl⟩

/-- The template of a declaration needs the generator's version, which a method's context lacks. -/
theorem header_of_endpoint (scope : Scope) (input : EndpointInput) (curated : Api.Curated)
    (name : String) :
    Builtin.namespaceHeader.render (Endpoint.context scope input curated name) = none := by
  have hmem : Builtin.valueOf "version" ∈ Builtin.namespaceHeader := by
    simp [Builtin.namespaceHeader]
  exact renderNodes_missing hmem rfl

theorem endpoint_implements {renames : RenameMapping} {rules : Api.ConvenienceRules}
    {table : Api.ReferenceTable} {scope : Scope} {input : EndpointInput} {endpoint : Endpoint}
    (h : Endpoint.render ⟨.builtin, renames, rules⟩ table scope input = .ok endpoint) :
    ImplementsType endpoint.source (Naming.typeName input.owner.displayName) := by
  -- a rename may ask for each of the built-in templates, that of a declaration included
  obtain ⟨curated, _, hrender, _⟩ := endpoint_render_ok h
  obtain ⟨template, hlookup, hsource⟩ := Registry.render_ok hrender
  rcases Registry.builtin_lookup hlookup with ⟨_, rfl⟩ | ⟨_, rfl⟩ | ⟨_, rfl⟩
  · rw [header_of_endpoint] at hsource
    cases hsource
  · rw [Template.render, endpoint_eq] at hsource
    exact nodes_implement rfl hsource
  · rw [Template.render, endpointBinary_eq] at hsource
    exact nodes_implement rfl hsource

end ClientForge.Codegen
