import ClientForge.Proofs.MethodText
import ClientForge.Proofs.ScopeFiles
import ClientForge.Proofs.SpelledWords
import ClientForge.Proofs.TemplateSupply

/-!
The names of the methods of a scope. Without renames a method is named after the id of its
operation, or after its method and path where there is no id. Nothing makes names distinct that are
not: ids that differ in case and separators alone name the same method, and so may an id and a path.

Results:
1. `Emission.named`: what a method is called.
2. `World.generateScopeFrom_names`: the methods of a scope that is generated have distinct names, in
   a namespace and in a file, exactly if their operations are spelled with different words.
-/

namespace ClientForge

open Codegen

/-! ## Definitions -/

namespace Codegen.Emission

variable (emission : Emission)

/-- The name of a method. -/
def methodName (p : EndpointInput × Endpoint) : String := p.2.entry.generatedName

/-- The words of the id that a method is named after. -/
def idWords (p : EndpointInput × Endpoint) : List (List Char) :=
  Naming.methodWords (Endpoint.operationId p.1)

/-- The methods of the namespace of a name. -/
def methodsOf (name : String) : List (EndpointInput × Endpoint) :=
  emission.endpoints.filter (·.1.owner.name = name)

/-- The methods that go to the file `place`. -/
def methodsIn (working place : Disk.Place) : List (EndpointInput × Endpoint) :=
  emission.endpoints.filter fun p => emission.namespacePlace working p.1.owner = place

/-- What the methods of an emission are called. -/
structure NamesMethods (toolkit : Toolkit) (document : Json) (emission : Emission) : Prop where
  named : ∀ p ∈ emission.endpoints,
    methodName p = Naming.functionName (Endpoint.operationId p.1)
  /-- A method is rendered under its name, by the template of all methods. -/
  rendered : ∀ p ∈ emission.endpoints, ∃ curated,
    Api.curate (.ofDocument document) toolkit.rules (Endpoint.declared p.1) p.1.operation =
      .ok curated ∧
    toolkit.registry.render Template.Registry.endpointName
      (Endpoint.context emission.scope p.1 curated (methodName p)) = .ok p.2.source
  declares : toolkit.registry = .builtin → ∀ p ∈ emission.endpoints, ∃ arguments,
    DeclaresMethod p.2.source (methodName p) arguments
  same_iff : ∀ p ∈ emission.endpoints, ∀ q ∈ emission.endpoints,
    methodName p = methodName q ↔ idWords p = idWords q
  namespace_iff : ∀ name, ((emission.methodsOf name).map methodName).Nodup ↔
    ((emission.methodsOf name).map idWords).Nodup
  file_iff : ∀ working place, ((emission.methodsIn working place).map methodName).Nodup ↔
    ((emission.methodsIn working place).map idWords).Nodup

end Codegen.Emission

/-! ## Names -/

namespace Codegen

/-- Values that agree on which elements are the same are distinct together. -/
theorem nodup_map_iff {α β γ : Type} {f : α → β} {g : α → γ} {xs : List α}
    (h : ∀ x ∈ xs, ∀ y ∈ xs, f x = f y ↔ g x = g y) : (xs.map f).Nodup ↔ (xs.map g).Nodup := by
  rw [List.Nodup, List.Nodup, List.pairwise_map, List.pairwise_map]
  exact List.Pairwise.iff_of_mem fun hx hy => (h _ hx _ hy).not

theorem naming_of_no_renames {renames : RenameMapping} (h : renames.all = [])
    (input : EndpointInput) : Endpoint.naming renames input =
      ⟨Naming.functionName (Endpoint.operationId input), Template.Registry.endpointName⟩ := by
  rw [Endpoint.naming]
  split
  · next rename hfound =>
    have hmem := RenameMapping.mem_all_of_find? hfound
    rw [h] at hmem
    cases hmem
  · rfl

namespace Emission

variable {toolkit : Toolkit} {config : Config} {settings : ScopeConfig} {now : String}
  {document : Json} {layout : Layout} {emission : Emission}

/-- Without renames a method is rendered under the name that its operation's id makes. -/
theorem named (is : IsOf toolkit config settings now document layout emission)
    (hrenames : toolkit.renames.all = []) {p : EndpointInput × Endpoint}
    (hp : p ∈ emission.endpoints) :
    methodName p = Naming.functionName (Endpoint.operationId p.1) ∧ ∃ curated,
      Api.curate (.ofDocument document) toolkit.rules (Endpoint.declared p.1) p.1.operation =
        .ok curated ∧
      toolkit.registry.render Template.Registry.endpointName
        (Endpoint.context emission.scope p.1 curated (methodName p)) = .ok p.2.source := by
  obtain ⟨curated, hcurate, hrender, hentry⟩ := endpoint_render_ok (is.endpoint_eq p hp)
  rw [naming_of_no_renames hrenames] at hrender hentry
  dsimp only at hrender hentry
  have hname : methodName p = Naming.functionName (Endpoint.operationId p.1) := by
    rw [methodName, hentry, Endpoint.record]
  rw [← hname] at hrender
  exact ⟨hname, curated, hcurate, hrender⟩

theorem namesMethods (is : IsOf toolkit config settings now document layout emission)
    (hrenames : toolkit.renames.all = []) : emission.NamesMethods toolkit document := by
  have hsame : ∀ p ∈ emission.endpoints, ∀ q ∈ emission.endpoints,
      methodName p = methodName q ↔ idWords p = idWords q := fun p hp q hq => by
    rw [(named is hrenames hp).1, (named is hrenames hq).1]
    exact Naming.functionName_eq_iff
  have hpart {keeps : EndpointInput × Endpoint → Bool} :
      ((emission.endpoints.filter keeps).map methodName).Nodup ↔
        ((emission.endpoints.filter keeps).map idWords).Nodup :=
    nodup_map_iff fun p hp q hq => hsame p (List.mem_of_mem_filter hp) q (List.mem_of_mem_filter hq)
  refine ⟨fun p hp => (named is hrenames hp).1, fun p hp => (named is hrenames hp).2,
    fun hbuiltin p hp => ?_, hsame, fun _ => hpart, fun _ _ => hpart⟩
  obtain ⟨_, curated, _, hrender⟩ := named is hrenames hp
  rw [hbuiltin] at hrender
  obtain ⟨template, hlookup, hsource⟩ := Template.Registry.render_ok hrender
  obtain rfl : Template.Builtin.endpoint = template := Option.some.inj hlookup
  exact ⟨_, endpoint_signature hsource⟩

/-- What is made of the inputs of a namespace's methods. -/
theorem map_methodsOf {β : Type} (is : IsOf toolkit config settings now document layout emission)
    (name : String) (f : EndpointInput → β) : ((emission.methodsOf name).map fun p => f p.1) =
      (layout.inputs.filter (·.owner.name = name)).map f := by
  rw [← is.emitted, List.filter_map, List.map_map]
  rfl

/-- The names of a namespace's methods are made of the ids of its operations. -/
theorem map_methodName (is : IsOf toolkit config settings now document layout emission)
    (hrenames : toolkit.renames.all = []) (name : String) :
    (emission.methodsOf name).map methodName = (layout.inputs.filter (·.owner.name = name)).map
      fun input => Naming.functionName (Endpoint.operationId input) := by
  rw [← map_methodsOf is]
  exact List.map_congr_left fun p hp => (named is hrenames (List.mem_of_mem_filter hp)).1

end Emission

end Codegen

/-! ## Runs -/

namespace World

open Codegen.Emission

/-- The methods of a scope that is generated without renames are called after their operations. In a
namespace, and in a file, their names are distinct exactly if the ids have different words. -/
theorem generateScopeFrom_names {network : Http.Network Id} {now : String}
    {answer : String → World → Except Failure Json} {generator : Generator}
    {settings : ScopeConfig} {world world' : World} {summary : Summary}
    (h : world.run (generator.generateScopeFrom (host network now) (.reading answer) settings) =
      (.ok summary, world'))
    (hrenames : generator.toolkit.renames.all = []) :
    ∃ document layout emission, answer settings.specUrl world = .ok document ∧
      IsOf generator.toolkit generator.config settings now document layout emission ∧
      emission.Fills layout world.disk world'.disk ∧
      emission.NamesMethods generator.toolkit document := by
  obtain ⟨document, layout, emission, hanswer, is, _, hsteps⟩ := generateScopeFrom_emission h
  obtain ⟨_, _, hfiles⟩ := performAll_ok hsteps
  exact ⟨document, layout, emission, hanswer, is, fills_of_steps is hfiles,
    namesMethods is hrenames⟩

/-- A method without an id, or with this one, in a namespace. -/
def operationOf (tag : String) (id : Option String) : Json :=
  .object (("tags", .array [.string tag]) ::
    (id.map fun id => [("operationId", Json.string id)]).getD [])

/-- Ids that differ from one another: of two namespaces, one has ids with the same words. -/
def alikeDocument : Json :=
  .object
    [("tags", .array [.object [("name", .string "api")], .object [("name", .string "users")]]),
     ("paths", .object
       [("/items", .object
          [("get", operationOf "api" none), ("post", operationOf "api" (some "get-items"))]),
        ("/lists", .object
          [("get", operationOf "api" (some "listItems")),
           ("post", operationOf "api" (some "list_items"))]),
        ("/users", .object
          [("get", operationOf "users" (some "listUsers")),
           ("post", operationOf "users" (some "createUser"))])])]

def alikeGenerator : Generator := ⟨.standard, ⟨.builtin, .empty, []⟩⟩

def alikeRun : Except Failure Summary × World :=
  empty.run (alikeGenerator.generateScopeFrom (host (fun _ => none) "")
    (.reading fun _ _ => .ok alikeDocument) ⟨"core", "", ""⟩)

theorem alikeRun_isOk : alikeRun.1.isOk = true := by decide +kernel

/-- The words of the ids, for each of the two namespaces. -/
theorem alikeWords : (Layout.ofDocument alikeDocument).map (fun layout =>
    ["api", "users"].map fun name => (layout.inputs.filter (·.owner.name = name)).map fun input =>
      Naming.methodWords (Endpoint.operationId input)) =
    .ok ([[["get", "items"], ["get", "items"], ["list", "items"], ["list", "items"]],
      [["list", "users"], ["create", "user"]]].map (·.map (·.map String.toList))) := by
  decide +kernel

theorem generateScopeFrom_names_alike :
    ∃ summary world', ∃ emission : Emission, alikeRun = (.ok summary, world') ∧
      ((emission.methodsOf "users").map methodName).Nodup ∧
      ¬ ((emission.methodsOf "api").map methodName).Nodup := by
  obtain ⟨summary, world', hrun⟩ := exists_of_isOk alikeRun_isOk
  obtain ⟨document, layout, emission, hanswer, is, _, hnames⟩ := generateScopeFrom_names hrun rfl
  obtain rfl : alikeDocument = document := Except.ok.inj hanswer
  have hwords := alikeWords
  rw [is.layout_eq] at hwords
  obtain ⟨hapi, hwords⟩ := List.cons_eq_cons.mp (Except.ok.inj hwords)
  obtain ⟨husers, _⟩ := List.cons_eq_cons.mp hwords
  have hids (name : String) : (emission.methodsOf name).map idWords = _ :=
    map_methodsOf is name fun input => Naming.methodWords (Endpoint.operationId input)
  refine ⟨summary, world', emission, hrun, (hnames.namespace_iff "users").mpr ?_,
    (hnames.namespace_iff "api").not.mpr ?_⟩
  · rw [(hids "users").trans husers]
    decide +kernel
  · rw [(hids "api").trans hapi]
    decide +kernel

/-- Ids that are distinct do not make distinct names. -/
theorem distinct_ids_one_name :
    ∃ summary world' layout, ∃ emission : Emission, alikeRun = (.ok summary, world') ∧
      IsOf alikeGenerator.toolkit alikeGenerator.config ⟨"core", "", ""⟩ "" alikeDocument layout
        emission ∧
      (layout.operations.filterMap (·.body.string? "operationId")).Nodup ∧
      (emission.methodsOf "api").map methodName =
        ["get_items", "get_items", "list_items", "list_items"] := by
  have hlayout : (Layout.ofDocument alikeDocument).map (fun layout =>
      (layout.operations.filterMap (·.body.string? "operationId"),
        (layout.inputs.filter (·.owner.name = "api")).map fun input =>
          Naming.functionName (Endpoint.operationId input))) =
      .ok (["get-items", "listItems", "list_items", "listUsers", "createUser"],
        ["get_items", "get_items", "list_items", "list_items"]) := by decide +kernel
  obtain ⟨summary, world', hrun⟩ := exists_of_isOk alikeRun_isOk
  obtain ⟨document, layout, emission, hanswer, is, _, _⟩ := generateScopeFrom_emission hrun
  obtain rfl : alikeDocument = document := Except.ok.inj hanswer
  rw [is.layout_eq] at hlayout
  obtain ⟨hids, hnames⟩ := Prod.mk.inj (Except.ok.inj hlayout)
  exact ⟨summary, world', layout, emission, hrun, is, by rw [hids]; decide,
    (map_methodName is rfl "api").trans hnames⟩

end World

end ClientForge
