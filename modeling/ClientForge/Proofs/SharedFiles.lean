import ClientForge.Config.File
import ClientForge.Proofs.ScopeFiles

/-!
The files that a whole run leaves behind. The scopes of a run share a directory, and a file that two
of them write keeps what the later one has written: a declaration starts its file anew.

Results:
1. `Generates.file?_eq`: a file is what the last scope that writes it has made of it.
2. `Generates.keeps`: a method stays in the file of its namespace, behind the declaration of the
   last tag with this file, unless a manifest or a later scope writes the file as well.
3. `World.generateAllFrom_files`: a run that succeeds is a run of this kind.
4. `clash_loses_methods`: two scopes with a tag of one name do not keep the methods of both.
-/

namespace ClientForge

open Codegen

/-! ## Definitions -/

/-- The generation of one scope. -/
structure ScopeRun where
  settings : ScopeConfig
  document : Json
  layout : Layout
  emission : Emission

/-- Scopes are generated one after the other, each in the world that those before it leave. -/
inductive Generates (generator : Generator) (now : String)
    (answer : String → World → Except Failure Json) : World → List ScopeRun → World → Prop
  | nil (world : World) : Generates generator now answer world [] world
  | cons {world next last : World} {run : ScopeRun} {runs : List ScopeRun} :
      answer run.settings.specUrl world = .ok run.document →
      run.emission.IsOf generator.toolkit generator.config run.settings now run.document
        run.layout →
      run.emission.Fills run.layout world.disk next.disk →
      next.disk.working = world.disk.working →
      Generates generator now answer next runs last →
      Generates generator now answer world (run :: runs) last

/-- A text stands somewhere in a file. -/
def Contains (content : ByteArray) (text : String) : Prop :=
  text.toUTF8.data.toList <:+: content.data.toList

def BeginsWith (content : ByteArray) (text : String) : Prop :=
  text.toUTF8.data.toList <+: content.data.toList

/-- Everything that a scope has rendered is in the files of its namespaces. -/
def ScopeRun.Kept (run : ScopeRun) (disk : Disk) : Prop :=
  ∀ p ∈ run.emission.endpoints, ∃ content,
    disk.file? (run.emission.namespacePlace disk.working p.1.owner) = some content ∧
      Contains content p.2.source ∧
      ∀ d ∈ run.emission.declarations, d.1 = p.1.owner → Contains content d.2

/-! ## Texts in files -/

theorem toUTF8_append (s t : String) :
    (s ++ t).toUTF8.data.toList = s.toUTF8.data.toList ++ t.toUTF8.data.toList := by
  simp

theorem beginsWith_join (d : String) (sources : List String) :
    BeginsWith (String.join (d :: sources)).toUTF8 d := by
  rw [BeginsWith, String.join_cons, toUTF8_append]
  exact List.prefix_append _ _

theorem contains_join {d source : String} {sources : List String} (h : source ∈ sources) :
    Contains (String.join (d :: sources)).toUTF8 source := by
  obtain ⟨before, after, rfl⟩ := List.append_of_mem h
  refine ⟨(String.join (d :: before)).toUTF8.data.toList,
    (String.join after).toUTF8.data.toList, ?_⟩
  rw [← toUTF8_append, ← toUTF8_append]
  congr 3
  rw [← List.cons_append, String.join_append, String.join_cons, String.join_cons,
    String.append_assoc]

/-! ## Runs -/

section

variable {generator : Generator} {now : String} {answer : String → World → Except Failure Json}
  {world last : World}

theorem mapM_generates {network : Http.Network Id} {scopes : List ScopeConfig}
    {summaries : List Summary}
    (h : world.run (scopes.mapM
      (generator.generateScopeFrom (World.host network now) (.reading answer))) =
        (.ok summaries, last)) :
    ∃ runs : List ScopeRun, runs.map (·.settings) = scopes ∧
      summaries = runs.map (·.emission.summary) ∧
      Generates generator now answer world runs last := by
  induction scopes generalizing world summaries with
  | nil =>
    cases h
    exact ⟨[], rfl, rfl, .nil _⟩
  | cons settings scopes ih =>
    rw [List.mapM_cons] at h
    obtain ⟨summary, next, hscope, hrest⟩ := World.run_bind_ok.mp h
    obtain ⟨later, w, hlater, hreturn⟩ := World.run_bind_ok.mp hrest
    cases hreturn
    obtain ⟨document, layout, emission, hanswer, is, hsummary, hsteps⟩ :=
      World.generateScopeFrom_emission hscope
    obtain ⟨hworking, _, hfiles⟩ := World.performAll_ok hsteps
    obtain ⟨runs, hruns, hsummaries, hgenerates⟩ := ih hlater
    refine ⟨⟨settings, document, layout, emission⟩ :: runs, ?_, ?_,
      .cons hanswer is (Emission.fills_of_steps is hfiles) hworking hgenerates⟩
    · rw [List.map_cons, hruns]
    · rw [List.map_cons, hsummary, hsummaries]

namespace Generates

variable {runs : List ScopeRun}

theorem working (h : Generates generator now answer world runs last) :
    last.disk.working = world.disk.working := by
  induction h with
  | nil => rfl
  | cons _ _ _ hworking _ ih => exact ih.trans hworking

/-- A file is what the last scope that writes it has made of it. -/
theorem file?_eq (h : Generates generator now answer world runs last) (place : Disk.Place) :
    last.disk.file? place =
      ((runs.reverse.findSome? (·.emission.content? world.disk.working place)).map
        String.toUTF8).or (world.disk.file? place) := by
  induction h with
  | nil => rfl
  | @cons world next last run runs _ is hfills hworking _ ih =>
    -- a later scope that writes the file hides what `run` has made of it
    rw [ih, hworking, hfills.file?_eq is, List.reverse_cons, List.findSome?_append]
    cases runs.reverse.findSome? (·.emission.content? world.disk.working place) with
    | some text => rfl
    | none => simp

theorem of_mem (h : Generates generator now answer world runs last) {run : ScopeRun}
    (hrun : run ∈ runs) :
    (∃ before, answer run.settings.specUrl before = .ok run.document) ∧
      run.emission.IsOf generator.toolkit generator.config run.settings now run.document
        run.layout := by
  induction h with
  | nil => cases hrun
  | cons hanswer is _ _ _ ih =>
    rcases List.mem_cons.mp hrun with rfl | hrun
    · exact ⟨⟨_, hanswer⟩, is⟩
    · exact ih hrun

/-- A method stays in the file of its namespace if neither a manifest nor a later scope writes it.
The file begins with the declaration of its last tag, which is the method's if the name is. -/
theorem keeps (h : Generates generator now answer world runs last) {earlier later : List ScopeRun}
    {run : ScopeRun} (hruns : runs = earlier ++ run :: later) {p : EndpointInput × Endpoint}
    (hp : p ∈ run.emission.endpoints) {place : Disk.Place}
    (hplace : place = run.emission.namespacePlace world.disk.working p.1.owner)
    (hmanifest : place ≠ run.emission.manifestPlace world.disk.working)
    (hlater : ∀ r ∈ later, ¬ r.emission.Writes world.disk.working place r.layout) :
    ∃ content d, last.disk.file? place = some content ∧ Contains content p.2.source ∧
      run.emission.declaration? world.disk.working place = some d ∧ BeginsWith content d.2 ∧
      (d.1.name = p.1.owner.name → d.1 = p.1.owner) := by
  have hrun : run ∈ runs := hruns ▸ List.mem_append_right _ List.mem_cons_self
  have is := (h.of_mem hrun).2
  -- so `run` is the last scope that writes the file
  have hunwritten :
      later.reverse.findSome? (·.emission.content? world.disk.working place) = none := by
    refine List.findSome?_eq_none_iff.mpr fun r hr => ?_
    have hr : r ∈ later := List.mem_reverse.mp hr
    have hr' : r ∈ runs := hruns ▸ List.mem_append_right _ (List.mem_cons_of_mem _ hr)
    exact (Emission.content?_eq_none_iff (h.of_mem hr').2).mpr (hlater r hr)
  cases hd : run.emission.declaration? world.disk.working place with
  | none =>
    have hnamespace := (Emission.declaration?_eq_none_iff is).mp hd
    exact absurd hplace.symm (hnamespace _ (Emission.owner_mem_surviving is hp))
  | some d =>
    have hcontent : run.emission.content? world.disk.working place =
        some (String.join (d.2 :: run.emission.fragments world.disk.working place)) := by
      rw [Emission.content?, if_neg hmanifest, hd]
      rfl
    have hfile : last.disk.file? place =
        some (String.join (d.2 :: run.emission.fragments world.disk.working place)).toUTF8 := by
      rw [h.file?_eq, hruns, List.reverse_append, List.reverse_cons, List.append_assoc,
        List.findSome?_append, hunwritten, Option.none_or, List.singleton_append,
        List.findSome?_cons, hcontent]
      rfl
    have hfragment : p.2.source ∈ run.emission.fragments world.disk.working place :=
      List.mem_map_of_mem (List.mem_filter.mpr ⟨hp, by simpa using hplace.symm⟩)
    refine ⟨_, d, hfile, contains_join hfragment, rfl, beginsWith_join _ _, fun hname => ?_⟩
    exact (Emission.owner_eq_declared is hd hp hplace.symm hname.symm).symm

end Generates

/-- After a run, every file is what the last scope that writes it has made of it. So a method that
the manifest of a scope lists is in the file of its namespace, unless a manifest or a later scope
writes this file, too. -/
theorem World.generateAllFrom_files {network : Http.Network Id} {summaries : List Summary}
    (h : world.run (generator.generateAllFrom (host network now) (.reading answer)) =
      (.ok summaries, last)) :
    ∃ runs, runs.map (·.settings) = generator.config.scopes ∧
      Generates generator now answer world runs last ∧
      (∀ place, last.disk.file? place =
        ((runs.reverse.findSome? (·.emission.content? world.disk.working place)).map
          String.toUTF8).or (world.disk.file? place)) ∧
      ∀ earlier run later, runs = earlier ++ run :: later →
        ∀ p ∈ run.emission.endpoints, p.2.entry.ownerName = p.1.owner.name ∧
          ∀ place, place = run.emission.namespacePlace world.disk.working p.1.owner →
            place ≠ run.emission.manifestPlace world.disk.working →
            (∀ r ∈ later, ¬ r.emission.Writes world.disk.working place r.layout) →
            ∃ content d, last.disk.file? place = some content ∧ Contains content p.2.source ∧
              run.emission.declaration? world.disk.working place = some d ∧
              BeginsWith content d.2 ∧ (d.1.name = p.1.owner.name → d.1 = p.1.owner) := by
  obtain ⟨runs, hsettings, _, hgenerates⟩ := mapM_generates h
  refine ⟨runs, hsettings, hgenerates, hgenerates.file?_eq, ?_⟩
  intro earlier run later hruns p hp
  have hrun : run ∈ runs := hruns ▸ List.mem_append_right _ List.mem_cons_self
  obtain ⟨curated, _, _, hentry⟩ :=
    endpoint_render_ok ((hgenerates.of_mem hrun).2.endpoint_eq p hp)
  refine ⟨by rw [hentry]; rfl, fun place hplace hmanifest hlater => ?_⟩
  exact hgenerates.keeps hruns hp hplace hmanifest hlater

end

/-! ## A clash -/

instance (content : ByteArray) (text : String) : Decidable (Contains content text) :=
  inferInstanceAs (Decidable (_ <:+: _))

/-- Two scopes, described at `/one` and at `/two`. -/
def clashSettings : String :=
  "scopes = [[\"first\", \"/one\", \"\"], [\"second\", \"/two\", \"\"]]"

def clashConfig : Config :=
  { Config.standard with scopes := [⟨"first", "/one", ""⟩, ⟨"second", "/two", ""⟩] }

def clashToolkit : Toolkit := ⟨.builtin, .empty, []⟩

def clashOperation : Json := .object [("tags", .array [.string "api"])]

/-- One operation of the tag `api`, at a path of its own. -/
def clashDocument (path : String) : Json :=
  .object
    [("tags", .array [.object [("name", .string "api")]]),
     ("paths", .object [(path, .object [("get", clashOperation)])])]

def clashInput (path : String) : EndpointInput :=
  ⟨⟨"api", "api", none⟩, path, .get, clashOperation, []⟩

def clashPlace : Disk.Place := ["home", "codegen", "ws", "api.rs"]

def clashAnswer (path : String) (_ : World) : Except Failure Json := .ok (clashDocument path)

def clashRun : Except Failure (List Summary) × World :=
  World.empty.run (Generator.generateAllFrom (World.host (fun _ => none) "") (.reading clashAnswer)
    ⟨clashConfig, clashToolkit⟩)

theorem clashRun_succeeds : ∃ summaries last, clashRun = (.ok summaries, last) :=
  World.exists_of_isOk (by decide +kernel)

/-- Each of the scopes has one method, and both methods go to one file. -/
theorem clash_method {world last : World} {runs : List ScopeRun} {run : ScopeRun}
    (h : Generates ⟨clashConfig, clashToolkit⟩ "" clashAnswer world runs last) (hrun : run ∈ runs) :
    ∃ p ∈ run.emission.endpoints, run.emission.namespacePlace ["home"] p.1.owner = clashPlace ∧
      Endpoint.render clashToolkit (.ofDocument (clashDocument run.settings.specUrl))
        (.ofConfig clashConfig run.settings "") (clashInput run.settings.specUrl) = .ok p.2 := by
  obtain ⟨⟨_, hanswer⟩, is⟩ := h.of_mem hrun
  obtain ⟨settings, document, layout, emission⟩ := run
  obtain rfl : clashDocument settings.specUrl = document := Except.ok.inj hanswer
  have hinputs : (Layout.ofDocument (clashDocument settings.specUrl)).map Layout.inputs =
      .ok [clashInput settings.specUrl] := rfl
  rw [is.layout_eq] at hinputs
  have hemitted : emission.endpoints.map Prod.fst = [clashInput settings.specUrl] :=
    is.emitted.trans (Except.ok.inj hinputs)
  obtain ⟨p, hp, hinput⟩ : ∃ p ∈ emission.endpoints, p.1 = clashInput settings.specUrl :=
    List.mem_map.mp (hemitted ▸ List.mem_singleton_self _)
  refine ⟨p, hp, ?_, ?_⟩
  · have hplace : Disk.target ["home"] (Disk.Path.join clashConfig.outputDir
        (Naming.fileStem "api" ++ "." ++ clashConfig.fileExtension)) = clashPlace := by
      decide +kernel
    rw [hinput, Emission.namespacePlace, Emission.file, is.scope_eq]
    exact hplace
  · rw [← is.endpoint_eq p hp, hinput, is.scope_eq]
    rfl

theorem generateAllFrom_files_clash :
    ∃ summaries last, ∃ runs : List ScopeRun, clashRun = (.ok summaries, last) ∧
      runs.map (·.settings) = clashConfig.scopes ∧
      ∀ run ∈ runs.getLast?, ∃ p ∈ run.emission.endpoints, ∃ content,
        last.disk.file? clashPlace = some content ∧ Contains content p.2.source := by
  obtain ⟨summaries, last, hrun⟩ := clashRun_succeeds
  obtain ⟨runs, hsettings, hgenerates, _, hkept⟩ := World.generateAllFrom_files hrun
  refine ⟨summaries, last, runs, hrun, hsettings, fun run hlast => ?_⟩
  obtain ⟨earlier, rfl⟩ := List.getLast?_eq_some_iff.mp hlast
  have hmem : run ∈ earlier ++ [run] := List.mem_append_right _ List.mem_cons_self
  obtain ⟨p, hp, hplace, _⟩ := clash_method hgenerates hmem
  have hname : run.settings.name = "second" := by
    have hlastName := congrArg (fun settings => settings.getLast?.map (·.name)) hsettings
    rw [List.map_append, List.map_singleton, List.getLast?_append] at hlastName
    exact Option.some.inj hlastName
  have hmanifest : clashPlace ≠ run.emission.manifestPlace ["home"] := by
    have hother : clashPlace ≠ Disk.target ["home"]
        (Disk.Path.join clashConfig.outputDir ("second" ++ ".json")) := by decide +kernel
    rw [← hname] at hother
    rw [Emission.manifestPlace, (hgenerates.of_mem hmem).2.scope_eq]
    exact hother
  obtain ⟨content, _, hfile, hcontains, _⟩ :=
    (hkept earlier run [] rfl p hp).2 clashPlace hplace.symm hmanifest (by simp)
  exact ⟨p, hp, content, hfile, hcontains⟩

def clashLost : Bool :=
  match
    Endpoint.render clashToolkit (.ofDocument (clashDocument "/one"))
      (.ofConfig clashConfig ⟨"first", "/one", ""⟩ "") (clashInput "/one"),
    clashRun.2.disk.file? clashPlace with
  | .ok method, some content => ¬ Contains content method.source
  | _, _ => false

/-- The second scope discards what the first one has put into the file of the tag. -/
theorem clash_loses_methods :
    ¬ ∀ (source : String) (config : Config) (toolkit : Toolkit) (network : Http.Network Id)
        (now : String) (answer : String → World → Except Failure Json) (world last : World)
        (summaries : List Summary) (runs : List ScopeRun),
      Config.parse source = .ok config →
      world.run (Generator.generateAllFrom (World.host network now) (.reading answer)
        ⟨config, toolkit⟩) = (.ok summaries, last) →
      runs.map (·.settings) = config.scopes →
      Generates ⟨config, toolkit⟩ now answer world runs last →
      ∀ run ∈ runs, run.Kept last.disk := by
  intro claim
  have haccepted : Config.parse clashSettings = .ok clashConfig := by decide +kernel
  have hlost : clashLost = true := by decide +kernel
  obtain ⟨summaries, last, hrun⟩ := clashRun_succeeds
  obtain ⟨runs, hsettings, _, hgenerates⟩ := mapM_generates hrun
  have hkept := claim _ _ _ _ _ _ _ _ _ runs haccepted hrun hsettings hgenerates
  cases runs with
  | nil => cases hsettings
  | cons first later =>
    have hfirst : first.settings = ⟨"first", "/one", ""⟩ := (List.cons.inj hsettings).1
    obtain ⟨p, hp, hplace, hmethod⟩ := clash_method hgenerates List.mem_cons_self
    obtain ⟨content, hfile, hcontains, _⟩ := hkept first List.mem_cons_self p hp
    have hworking : last.disk.working = ["home"] := hgenerates.working
    rw [hworking, hplace] at hfile
    rw [hfirst] at hmethod
    rw [clashLost, hmethod, hrun, hfile] at hlost
    exact of_decide_eq_true hlost hcontains

end ClientForge
