import ClientForge.Proofs.Emission
import ClientForge.Proofs.Rendering
import ClientForge.Proofs.WorldRun
import Mathlib.Data.List.Find

/-!
The files that the generation of a scope leaves behind. A file is a place of the disk; different
namespaces may share one, and so may a namespace and the manifest.

* `declaration?` is the declaration that a file begins with: that of the last tag whose file it is.
* `fragments` are the methods that go to a file, in the order in which the description lists them.
* `content?` is the text of a file, if the generation writes it.

Results:
1. `steps_file`: the steps of an emission leave a file with its content and other files as they are.
2. `generateScopeFrom_files`: what a scope that is generated makes of every file. With the built-in
   templates, a file of one namespace holds `impl` blocks of the type that it declares.
-/

namespace ClientForge

open Codegen

namespace Codegen.Emission

/-! ## Definitions -/

variable (working place : Disk.Place) (emission : Emission)

/-- The file of a namespace. -/
def namespacePlace (n : Api.Namespace) : Disk.Place := Disk.target working (emission.file n)

def manifestPlace : Disk.Place := Disk.target working emission.scope.manifestFile

/-- The declaration of the last tag whose file is `place`. -/
def declaration? : Option (Api.Namespace × String) :=
  emission.declarations.findRev? fun d => emission.namespacePlace working d.1 = place

/-- The methods that go to the file `place`. -/
def fragments : List String :=
  (emission.endpoints.filter fun p => emission.namespacePlace working p.1.owner = place).map
    (·.2.source)

/-- The text of the file `place`, if it is the manifest's or a namespace's. -/
def content? : Option String :=
  if place = emission.manifestPlace working then some emission.manifest.text
  else (emission.declaration? working place).map fun d =>
    String.join (d.2 :: emission.fragments working place)

/-- The file `place` is the manifest's or a namespace's. -/
def Writes (layout : Layout) : Prop :=
  place = emission.manifestPlace working ∨
    ∃ n ∈ layout.surviving, emission.namespacePlace working n = place

/-- Every file is what the emission makes of it, and the others are as before. -/
structure Fills (layout : Layout) (emission : Emission) (before after : Disk) : Prop where
  /-- A namespace's file begins with the declaration of the last tag that has this file, and the
  methods follow that go to it. -/
  namespace_file : ∀ n ∈ layout.surviving, ∀ place,
    place = emission.namespacePlace before.working n →
    place ≠ emission.manifestPlace before.working →
    ∃ d, emission.declaration? before.working place = some d ∧
      after.file? place =
        some (String.join (d.2 :: emission.fragments before.working place)).toUTF8
  manifest_file :
    after.file? (emission.manifestPlace before.working) = some emission.manifest.text.toUTF8
  other_file : ∀ place, (∀ n ∈ layout.surviving, emission.namespacePlace before.working n ≠ place) →
    place ≠ emission.manifestPlace before.working → after.file? place = before.file? place

/-- The methods of a file are methods of the type that it declares. -/
def Agrees (working place : Disk.Place) (emission : Emission) : Prop :=
  ∃ d, emission.declaration? working place = some d ∧
    DeclaresType d.2 (Naming.typeName d.1.displayName) ∧
    ∀ source ∈ emission.fragments working place,
      ImplementsType source (Naming.typeName d.1.displayName)

variable {working place} {emission}

/-- The declaration of a file is missing when nothing declared has this file. -/
theorem undeclared_iff : emission.declaration? working place = none ↔
    ∀ d ∈ emission.declarations, emission.namespacePlace working d.1 ≠ place := by
  rw [declaration?, List.findRev?_eq_find?_reverse, List.find?_eq_none]
  simp

/-- Tags of one name have one file. -/
theorem file_of_name {n n' : Api.Namespace} (h : n.name = n'.name) :
    emission.file n = emission.file n' := by
  rw [file, file, Scope.namespaceFile, Scope.namespaceFile, h]

/-! ## Steps -/

theorem foldl_warn (warnings : List Api.Warning) (old : Option ByteArray) :
    (warnings.map Step.warn).foldl (Step.fileAfter working place) old = old := by
  induction warnings with
  | nil => rfl
  | cons w warnings ih => exact ih

/-- Of the declarations that go to a file the last one stays. -/
theorem foldl_declarations (ds : List (Api.Namespace × String)) (old : Option ByteArray) :
    (ds.flatMap emission.declarationSteps).foldl (Step.fileAfter working place) old =
      ((ds.findRev? fun d => emission.namespacePlace working d.1 = place).map
        (·.2.toUTF8)).or old := by
  induction ds generalizing old with
  | nil => rfl
  | cons d ds ih =>
    -- if no later declaration goes to the file, the first one decides
    rw [List.flatMap_cons, List.foldl_append, ih, declarationSteps, List.foldl_append, foldl_warn,
      List.findRev?]
    cases hlater : ds.findRev? fun d => emission.namespacePlace working d.1 = place with
    | some later => rfl
    | none =>
      by_cases hplace : emission.namespacePlace working d.1 = place
      · have hwritten : place = Disk.target working (emission.file d.1) := hplace.symm
        simp [Step.fileAfter, Disk.Mode.result, Disk.Mode.kept, hplace, ← hwritten]
      · have hother : ¬ place = Disk.target working (emission.file d.1) := Ne.symm hplace
        simp [Step.fileAfter, hplace, hother]

/-- The methods that go to a file are put behind what it holds. -/
theorem foldl_endpoints {toolkit : Toolkit} {table : Api.ReferenceTable}
    (es : List (EndpointInput × Endpoint)) (content : ByteArray) :
    (es.flatMap (emission.endpointSteps toolkit table)).foldl (Step.fileAfter working place)
        (some content) =
      some (content ++ (String.join ((es.filter fun p =>
        emission.namespacePlace working p.1.owner = place).map (·.2.source))).toUTF8) := by
  -- every method finds what those before it have appended
  induction es generalizing content with
  | nil =>
    rw [List.filter_nil, List.map_nil, String.join_nil]
    show some content = some (content ++ ByteArray.empty)
    rw [ByteArray.append_empty]
  | cons p es ih =>
    rw [List.flatMap_cons, List.foldl_append, endpointSteps, List.foldl_append, foldl_warn]
    by_cases hplace : emission.namespacePlace working p.1.owner = place
    · have happended : [Step.write .append (emission.file p.1.owner) p.2.source].foldl
          (Step.fileAfter working place) (some content) =
            some (content ++ p.2.source.toUTF8) :=
        if_pos hplace.symm
      rw [happended, ih, List.filter_cons_of_pos (by simpa using hplace), List.map_cons,
        String.join_cons]
      simp [ByteArray.append_assoc]
    · have hkept : [Step.write .append (emission.file p.1.owner) p.2.source].foldl
          (Step.fileAfter working place) (some content) = some content :=
        if_neg (Ne.symm hplace)
      rw [hkept, ih, List.filter_cons_of_neg (by simpa using hplace)]

/-- Methods that go elsewhere leave a file as it is. -/
theorem foldl_endpoints_elsewhere {toolkit : Toolkit} {table : Api.ReferenceTable}
    {es : List (EndpointInput × Endpoint)} (old : Option ByteArray)
    (h : ∀ p ∈ es, emission.namespacePlace working p.1.owner ≠ place) :
    (es.flatMap (emission.endpointSteps toolkit table)).foldl (Step.fileAfter working place) old =
      old := by
  induction es with
  | nil => rfl
  | cons p es ih =>
    have hkept : [Step.write .append (emission.file p.1.owner) p.2.source].foldl
        (Step.fileAfter working place) old = old :=
      if_neg (Ne.symm (h p List.mem_cons_self))
    rw [List.flatMap_cons, List.foldl_append, endpointSteps, List.foldl_append, foldl_warn, hkept]
    exact ih fun q hq => h q (List.mem_cons_of_mem _ hq)

/-- Declarations and then methods of declared namespaces: a file that is declared holds its last
declaration and the methods that go to it, and the others are as before. -/
theorem foldl_written {toolkit : Toolkit} {table : Api.ReferenceTable}
    (howner : ∀ p ∈ emission.endpoints, p.1.owner ∈ emission.declarations.map Prod.fst)
    (old : Option ByteArray) :
    (emission.endpoints.flatMap (emission.endpointSteps toolkit table)).foldl
        (Step.fileAfter working place)
        ((emission.declarations.flatMap emission.declarationSteps).foldl
          (Step.fileAfter working place) old) =
      ((emission.declaration? working place).map fun d =>
        (String.join (d.2 :: emission.fragments working place)).toUTF8).or old := by
  rw [foldl_declarations, ← declaration?]
  cases hdeclared : emission.declaration? working place with
  | none =>
    -- without a declaration nothing is appended, either: the owner of a method is declared
    refine foldl_endpoints_elsewhere old fun p hp hplace => ?_
    obtain ⟨d, hd, hfst⟩ := List.mem_map.mp (howner p hp)
    exact undeclared_iff.mp hdeclared d hd (hfst ▸ hplace)
  | some d =>
    show (emission.endpoints.flatMap _).foldl _ (some d.2.toUTF8) =
      some (String.join (d.2 :: emission.fragments working place)).toUTF8
    rw [foldl_endpoints, ← fragments, String.join_cons]
    simp

section

variable {toolkit : Toolkit} {config : Config} {settings : ScopeConfig} {now : String}
  {document : Json} {layout : Layout}

/-- The methods are those of operations, each with the tag that its operation goes to. -/
theorem exists_operation (is : IsOf toolkit config settings now document layout emission)
    {p : EndpointInput × Endpoint} (hp : p ∈ emission.endpoints) :
    ∃ o ∈ layout.operations, layout.owner? o = some p.1.owner ∧
      p.1 = endpointInput p.1.owner o := by
  have hinput : p.1 ∈ layout.inputs := is.emitted ▸ List.mem_map_of_mem hp
  obtain ⟨o, ho, hmade⟩ := List.mem_filterMap.mp hinput
  obtain ⟨owner, howner, hp⟩ := Option.map_eq_some_iff.mp hmade
  rw [← hp]
  exact ⟨o, ho, howner, rfl⟩

theorem owner_mem_surviving (is : IsOf toolkit config settings now document layout emission)
    {p : EndpointInput × Endpoint} (hp : p ∈ emission.endpoints) :
    p.1.owner ∈ layout.surviving := by
  obtain ⟨o, ho, howner, _⟩ := exists_operation is hp
  exact (owner?_eq_some ho howner).2

/-- The declaration of a file is missing only when the file is no namespace's. -/
theorem declaration?_eq_none_iff (is : IsOf toolkit config settings now document layout emission) :
    emission.declaration? working place = none ↔
      ∀ n ∈ layout.surviving, emission.namespacePlace working n ≠ place := by
  rw [undeclared_iff, ← is.declared, List.forall_mem_map]

/-- The declaration of a file is that of the last surviving tag with this file. -/
theorem declaration?_tag (is : IsOf toolkit config settings now document layout emission) :
    (emission.declaration? working place).map Prod.fst =
      layout.surviving.reverse.find? fun n => emission.namespacePlace working n = place := by
  simp only [declaration?, List.findRev?_eq_find?_reverse, ← is.declared, ← List.map_reverse,
    List.find?_map, Function.comp_def]

/-- First the declarations are written, then the methods, and at the end the manifest. -/
theorem steps_file (is : IsOf toolkit config settings now document layout emission)
    (old : Option ByteArray) :
    (emission.steps toolkit document layout).foldl (Step.fileAfter working place) old =
      ((emission.content? working place).map String.toUTF8).or old := by
  rw [steps, List.foldl_append, List.foldl_append, List.foldl_append, List.foldl_append, foldl_warn]
  show (if place = emission.manifestPlace working then
    some emission.manifest.text.toUTF8 else _) = _
  rw [content?]
  by_cases hmanifest : place = emission.manifestPlace working
  · rw [if_pos hmanifest, if_pos hmanifest]
    rfl
  · rw [if_neg hmanifest, if_neg hmanifest]
    have howner : ∀ p ∈ emission.endpoints, p.1.owner ∈ emission.declarations.map Prod.fst :=
      fun p hp => is.declared ▸ owner_mem_surviving is hp
    exact (foldl_written howner old).trans (by rw [Option.map_map]; rfl)

theorem content?_eq_none_iff (is : IsOf toolkit config settings now document layout emission) :
    emission.content? working place = none ↔ ¬ emission.Writes working place layout := by
  rw [content?, Writes, not_or]
  by_cases hmanifest : place = emission.manifestPlace working
  · rw [if_pos hmanifest]
    simp [hmanifest]
  · rw [if_neg hmanifest, Option.map_eq_none_iff, declaration?_eq_none_iff is]
    simp [hmanifest]

/-- What the steps of an emission make of a disk. -/
theorem fills_of_steps (is : IsOf toolkit config settings now document layout emission)
    {before after : Disk}
    (h : ∀ place, after.file? place = (emission.steps toolkit document layout).foldl
      (Step.fileAfter before.working place) (before.file? place)) :
    emission.Fills layout before after := by
  refine ⟨fun n hn place hplace hmanifest => ?_, ?_, fun place hnamespace hmanifest => ?_⟩
  · cases hdeclared : emission.declaration? before.working place with
    | none => exact absurd hplace.symm ((declaration?_eq_none_iff is).mp hdeclared n hn)
    | some d =>
      refine ⟨d, rfl, ?_⟩
      rw [h, steps_file is, content?, if_neg hmanifest, hdeclared]
      rfl
  · rw [h, steps_file is, content?, if_pos rfl]
    rfl
  · rw [h, steps_file is, content?, if_neg hmanifest, (declaration?_eq_none_iff is).mpr hnamespace]
    rfl

theorem Fills.file?_eq (is : IsOf toolkit config settings now document layout emission)
    {before after : Disk} (fills : emission.Fills layout before after) (place : Disk.Place) :
    after.file? place =
      ((emission.content? before.working place).map String.toUTF8).or (before.file? place) := by
  rw [content?]
  by_cases hmanifest : place = emission.manifestPlace before.working
  · rw [if_pos hmanifest, hmanifest, fills.manifest_file]
    rfl
  · rw [if_neg hmanifest]
    by_cases hnamespace : ∃ n ∈ layout.surviving, emission.namespacePlace before.working n = place
    · obtain ⟨n, hn, hplace⟩ := hnamespace
      obtain ⟨d, hd, hfile⟩ := fills.namespace_file n hn place hplace.symm hmanifest
      rw [hd, hfile]
      rfl
    · have helsewhere : ∀ n ∈ layout.surviving,
          emission.namespacePlace before.working n ≠ place :=
        fun n hn h => hnamespace ⟨n, hn, h⟩
      rw [(declaration?_eq_none_iff is).mpr helsewhere, fills.other_file place helsewhere hmanifest]
      rfl

/-! ## Types -/

/-- A file that declares a tag of some name declares the last one of this name, with which the
methods of the name's operations are rendered. -/
theorem owner_eq_declared (is : IsOf toolkit config settings now document layout emission)
    {d : Api.Namespace × String} (hd : emission.declaration? working place = some d)
    {p : EndpointInput × Endpoint} (hp : p ∈ emission.endpoints)
    (hplace : emission.namespacePlace working p.1.owner = place)
    (hname : p.1.owner.name = d.1.name) : p.1.owner = d.1 := by
  obtain ⟨o, ho, howner, _⟩ := exists_operation is hp
  have htag := (owner?_eq_some ho howner).1
  have hlast : layout.surviving.reverse.find? (fun n => o.isOwnedBy n.name) = some p.1.owner := by
    rw [← howner, ← owner?_eq layout ho, Codegen.owner?]
  have hdeclared := congrArg (Option.map Prod.fst) hd
  rw [declaration?_tag is, Option.map_some, List.find?_eq_some_iff_append] at hdeclared
  obtain ⟨_, later, earlier, hsplit, helsewhere⟩ := hdeclared
  have howned : o.isOwnedBy d.1.name = true := by
    rw [Api.Operation.isOwnedBy, htag, hname, beq_self_eq_true]
  -- a later tag of this name would have this file, too
  have hlater : ∀ n ∈ later, o.isOwnedBy n.name = false := by
    intro n hn
    rw [Api.Operation.isOwnedBy, htag, beq_eq_false_iff_ne]
    intro h
    have hfile : emission.namespacePlace working n = place := by
      rw [← hplace, namespacePlace, namespacePlace, file_of_name (Option.some.inj h).symm]
    simpa [hfile] using helsewhere n hn
  have hfirst : layout.surviving.reverse.find? (fun n => o.isOwnedBy n.name) = some d.1 :=
    List.find?_eq_some_iff_append.mpr
      ⟨howned, later, earlier, hsplit, fun n hn => by rw [hlater n hn, Bool.not_false]⟩
  rw [hlast] at hfirst
  exact Option.some.inj hfirst

/-- With the built-in templates, the methods of a file of one name are methods of the type that the
file declares. -/
theorem agrees_of_builtin (is : IsOf toolkit config settings now document layout emission)
    (hbuiltin : toolkit.registry = .builtin) {n : Api.Namespace} (hn : n ∈ layout.surviving)
    (hone : ∀ n' ∈ layout.surviving,
      emission.namespacePlace working n' = emission.namespacePlace working n → n'.name = n.name) :
    emission.Agrees working (emission.namespacePlace working n) := by
  cases hd : emission.declaration? working (emission.namespacePlace working n) with
  | none => exact absurd rfl ((declaration?_eq_none_iff is).mp hd n hn)
  | some d =>
    have hfound := hd
    rw [declaration?, List.findRev?_eq_find?_reverse] at hfound
    have hmem : d ∈ emission.declarations := List.mem_reverse.mp (List.mem_of_find?_eq_some hfound)
    have hplace : emission.namespacePlace working d.1 = emission.namespacePlace working n := by
      simpa using List.find?_some hfound
    have hsurvives : d.1 ∈ layout.surviving := is.declared ▸ List.mem_map_of_mem hmem
    have hname : d.1.name = n.name := hone d.1 hsurvives hplace
    obtain ⟨registry, renames, rules⟩ := toolkit
    cases hbuiltin
    refine ⟨d, hd, declaration_declares (is.declaration_eq d hmem), fun source hsource => ?_⟩
    obtain ⟨p, hp, hsource⟩ := List.mem_map.mp hsource
    obtain ⟨hp, hfile⟩ := List.mem_filter.mp hp
    rw [decide_eq_true_eq] at hfile
    have howner : p.1.owner = d.1 :=
      owner_eq_declared is hd hp hfile
        ((hone _ (owner_mem_surviving is hp) hfile).trans hname.symm)
    rw [← hsource, ← howner]
    exact endpoint_implements (is.endpoint_eq p hp)

end

end Codegen.Emission

/-! ## Runs -/

namespace World

variable {network : Http.Network Id} {now : String}
  {answer : String → World → Except Failure Json} {generator : Generator}
  {settings : ScopeConfig} {world world' : World} {summary : Summary}

open Codegen.Emission

/-- A scope that is generated has an emission, and the steps of the emission succeed. -/
theorem generateScopeFrom_emission
    (h : world.run (generator.generateScopeFrom (host network now) (.reading answer) settings) =
      (.ok summary, world')) :
    ∃ document layout emission, answer settings.specUrl world = .ok document ∧
      IsOf generator.toolkit generator.config settings now document layout emission ∧
      summary = emission.summary ∧
      world.run ((host network now).performAll
        (emission.steps generator.toolkit document layout)) = (.ok (), world') := by
  obtain ⟨document, steps, hanswer, hplan, hsteps⟩ := generateScopeFrom_ok h
  obtain ⟨layout, emission, is, rfl, hsummary⟩ := scopePlan_ok hplan
  exact ⟨document, layout, emission, hanswer, is, hsummary, hsteps⟩

/-- A scope that is generated changes its namespaces' files and its manifest, and no other file. -/
theorem generateScopeFrom_files
    (h : world.run (generator.generateScopeFrom (host network now) (.reading answer) settings) =
      (.ok summary, world')) :
    ∃ document layout emission, answer settings.specUrl world = .ok document ∧
      IsOf generator.toolkit generator.config settings now document layout emission ∧
      emission.Fills layout world.disk world'.disk ∧
      (generator.toolkit.registry = .builtin → ∀ n ∈ layout.surviving,
        (∀ n' ∈ layout.surviving, emission.namespacePlace world.disk.working n' =
          emission.namespacePlace world.disk.working n → n'.name = n.name) →
        emission.Agrees world.disk.working (emission.namespacePlace world.disk.working n)) := by
  obtain ⟨document, layout, emission, hanswer, is, _, hsteps⟩ := generateScopeFrom_emission h
  obtain ⟨_, _, hfiles⟩ := performAll_ok hsteps
  exact ⟨document, layout, emission, hanswer, is, fills_of_steps is hfiles,
    fun hbuiltin n hn hone => agrees_of_builtin is hbuiltin hn hone⟩

/-- A description that lists its tag twice, under two display names. -/
def relabelled : Json :=
  .object
    [("tags", .array
       [.object [("name", .string "api"), ("x-displayName", .string "Old")],
        .object [("name", .string "api"), ("x-displayName", .string "New")]]),
     ("paths", .object
       [("/a", .object [("get", .object [("tags", .array [.string "api"])])])])]

def relabelledTags : List Api.Namespace := [⟨"api", "Old", none⟩, ⟨"api", "New", none⟩]

/-- A directory without files. -/
def empty : World := .ofDisk ⟨[(["home"], .directory)], ["home"]⟩

def relabelledRun : Except Failure Summary × World :=
  empty.run (Generator.generateScopeFrom (host (fun _ => none) "")
    (.reading fun _ _ => .ok relabelled) ⟨.standard, ⟨.builtin, .empty, []⟩⟩ ⟨"core", "", ""⟩)

theorem generateScopeFrom_files_relabelled :
    ∃ summary world', ∃ layout : Layout, ∃ emission : Emission,
      relabelledRun = (.ok summary, world') ∧
      layout.surviving = relabelledTags ∧ emission.Fills layout empty.disk world'.disk ∧
      ∀ n ∈ relabelledTags, emission.Agrees ["home"] (emission.namespacePlace ["home"] n) := by
  have hsucceeds : relabelledRun.1.isOk = true := by decide +kernel
  have hsurviving : (Layout.ofDocument relabelled).map Layout.surviving = .ok relabelledTags := by
    decide +kernel
  have hname : ∀ n ∈ relabelledTags, n.name = "api" := by decide +kernel
  obtain ⟨summary, world', hrun⟩ := exists_of_isOk hsucceeds
  obtain ⟨document, layout, emission, hanswer, is, hfills, hagrees⟩ := generateScopeFrom_files hrun
  obtain rfl : relabelled = document := Except.ok.inj hanswer
  have hlayout : layout.surviving = relabelledTags := by
    rw [is.layout_eq] at hsurviving
    exact Except.ok.inj hsurviving
  refine ⟨summary, world', layout, emission, hrun, hlayout, hfills, fun n hn => ?_⟩
  refine hagrees rfl n (hlayout ▸ hn) fun n' hn' _ => ?_
  rw [hname n hn, hname n' (hlayout ▸ hn')]

end World

end ClientForge
