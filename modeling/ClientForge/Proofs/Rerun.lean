import ClientForge.Proofs.DiskGrowth
import ClientForge.Proofs.SharedFiles

/-!
Running a generation again. Descriptions that do not change are rendered alike, and the time is only
stated in the manifests. A file is started anew before anything is appended to it, so what it held
before a run has no part in what the run makes of it.

Results:
1. `Emission.IsOf.unique`: two emissions of one description differ in the time of the manifest only.
2. `generateScopeFrom_again`: a scope that was generated can be generated again in every later
   world.
3. `mapM_agree`: two runs from different files make the same of every file that they write.
4. `generateAllFrom_rerun`: a second run succeeds and leaves the files as they are.
-/

namespace ClientForge

open Codegen

/-! ## Definitions -/

/-- A host whose clock goes on as the world does. -/
def World.timed (network : Http.Network Id) (clock : World → String) : Host (StateM World) :=
  { World.host network "" with now := fun world => (clock world, world) }

/-- A world that is found again later: its disk has grown, and its files take what they took. -/
structure World.Grows (world later : World) : Prop where
  disk : world.disk.Grows later.disk
  medium : later.medium = world.medium

/-- A loader that answers every source with a fixed document, or always fails for it. -/
def Loader.fixed (answer : String → Except Failure Json) : Loader (StateM World) :=
  .reading fun place _ => answer place

namespace Codegen

/-- The manifest of another time. -/
def Manifest.dated (m : Manifest) (time : String) : Manifest := { m with generatedOn := time }

/-- The step without the text that it writes. -/
def Step.blank : Step → Step
  | .write mode path _ => .write mode path ""
  | step => step

/-- The files that a scope has written. -/
def Summary.files (summary : Summary) : List String :=
  summary.manifestPath :: summary.namespaceFiles

end Codegen

section

variable (working : Disk.Place) (summaries : List Summary) (place : Disk.Place)

/-- The file at this place is one that a scope has written. -/
def Written : Prop := ∃ s ∈ summaries, ∃ path ∈ s.files, place = Disk.target working path

/-- The file at this place is the same, unless it is a manifest, which may state another time. -/
def SameButDate (old new : Option ByteArray) : Prop :=
  new = old ∨ (∃ s ∈ summaries, place = Disk.target working s.manifestPath) ∧
    ∃ (m : Manifest) (time : String),
      old = some m.text.toUTF8 ∧ new = some (m.dated time).text.toUTF8

/-- What two runs make of a file: the same if they write it, and else nothing. -/
structure SameOutcome (before before' after after' : Option ByteArray) : Prop where
  written : Written working summaries place →
    after.isSome ∧ SameButDate working summaries place after after'
  unwritten : ¬ Written working summaries place → after = before ∧ after' = before'

end

/-! ## Emissions of one description -/

namespace Codegen.Emission

/-- The emission of another time. -/
def dated (emission : Emission) (time : String) : Emission :=
  { emission with manifest := emission.manifest.dated time }

variable {toolkit : Toolkit} {config : Config} {settings : ScopeConfig} {now now' : String}
  {document : Json} {layout layout' : Layout} {emission emission' : Emission}

theorem IsOf.dated (is : emission.IsOf toolkit config settings now document layout)
    (time : String) :
    (emission.dated time).IsOf toolkit config settings time document layout where
  layout_eq := is.layout_eq
  scope_eq := is.scope_eq
  declared := is.declared
  declaration_eq := is.declaration_eq
  emitted := is.emitted
  endpoint_eq := is.endpoint_eq
  manifest_eq := by
    rw [Emission.dated, is.manifest_eq]
    rfl

/-- What is rendered for the same is the same. -/
theorem rendered_unique {α β : Type} {render : α → Except Failure β} {ps qs : List (α × β)}
    (hfst : qs.map Prod.fst = ps.map Prod.fst) (hps : ∀ p ∈ ps, render p.1 = .ok p.2)
    (hqs : ∀ q ∈ qs, render q.1 = .ok q.2) : qs = ps := by
  induction ps generalizing qs with
  | nil => exact List.map_eq_nil_iff.mp hfst
  | cons p ps ih =>
    obtain ⟨q, rest, rfl, hq, hrest⟩ := List.map_eq_cons_iff.mp hfst
    rw [List.forall_mem_cons] at hps hqs
    have hsnd : q.2 = p.2 := Except.ok.inj (by rw [← hqs.1, hq, hps.1])
    rw [ih hrest hps.2 hqs.2, Prod.ext hq hsnd]

/-- Two emissions of one description differ in the time of the manifest only. -/
theorem IsOf.unique (is : emission.IsOf toolkit config settings now document layout)
    (is' : emission'.IsOf toolkit config settings now' document layout') :
    layout' = layout ∧ emission' = emission.dated now' := by
  obtain rfl : layout' = layout := Except.ok.inj (is'.layout_eq.symm.trans is.layout_eq)
  refine ⟨rfl, ?_⟩
  have hscope : emission'.scope = emission.scope := is'.scope_eq.trans is.scope_eq.symm
  have hdeclarations : emission'.declarations = emission.declarations :=
    rendered_unique (is'.declared.trans is.declared.symm) is.declaration_eq
      (hscope ▸ is'.declaration_eq)
  have hendpoints : emission'.endpoints = emission.endpoints :=
    rendered_unique (is'.emitted.trans is.emitted.symm) is.endpoint_eq (hscope ▸ is'.endpoint_eq)
  have hmanifest : emission'.manifest = emission.manifest.dated now' := by
    rw [is'.manifest_eq, is.manifest_eq, hscope, hendpoints]
    rfl
  obtain ⟨scope', declarations', endpoints', manifest'⟩ := emission'
  subst hscope hdeclarations hendpoints hmanifest
  rfl

theorem blank_steps_dated (time : String) :
    ((emission.dated time).steps toolkit document layout).map Step.blank =
      (emission.steps toolkit document layout).map Step.blank := by
  rw [steps, steps]
  simp only [List.map_append, List.map_cons, List.map_nil, Step.blank]
  rfl

end Codegen.Emission

/-! ## Steps in later worlds -/

namespace World

variable {network : Http.Network Id} {now now' : String}

theorem Grows.refl (world : World) : Grows world world := ⟨.refl world.disk, rfl⟩

theorem Grows.trans {a b c : World} (hab : Grows a b) (hbc : Grows b c) : Grows a c :=
  ⟨hab.disk.trans hbc.disk, hbc.medium.trans hab.medium⟩

theorem perform_grows (step : Step) (world : World) : world.Grows (world.perform step).2 := by
  cases step with
  | warn w => exact ⟨.refl world.disk, rfl⟩
  | ensureDirectory path => exact ⟨Disk.ensureDirectory_grows world.disk path, rfl⟩
  | write mode path text => exact ⟨Disk.write_grows world.disk world.medium mode path text, rfl⟩

/-- A step that succeeded succeeds in every later world, whatever text it writes there. -/
theorem perform_again {step step' : Step} {world world' later : World}
    (h : world.perform step = (.ok (), world')) (hlater : world'.Grows later)
    (hblank : step'.blank = step.blank) : ∃ last, later.perform step' = (.ok (), last) := by
  cases step with
  | warn w =>
    cases step' <;> cases hblank
    exact ⟨_, rfl⟩
  | ensureDirectory path =>
    cases step' <;> cases hblank
    have hagain := Disk.ensureDirectory_again (store_ok h).1 hlater.disk
    exact ⟨{ later with disk := later.disk }, by rw [perform, hagain]; rfl⟩
  | write mode path text =>
    cases step' with
    | warn w => cases hblank
    | ensureDirectory path' => cases hblank
    | write mode' path' text' =>
      injection hblank with hmode hpath
      subst hmode hpath
      have hmedium : later.medium = world.medium := by
        have hstep := perform_grows (.write mode' path' text) world
        rw [h] at hstep
        exact hlater.medium.trans hstep.medium
      obtain ⟨disk, hagain⟩ := Disk.write_again (store_ok h).1 hlater.disk mode' text'
      rw [← hmedium] at hagain
      exact ⟨{ later with disk }, by rw [perform, hagain]; rfl⟩

theorem performAll_grows {steps : List Step} {world world' : World}
    (h : world.run ((host network now).performAll steps) = (.ok (), world')) :
    world.Grows world' := by
  induction steps generalizing world with
  | nil =>
    cases h
    exact .refl _
  | cons step steps ih =>
    obtain ⟨u, w, hstep, hrest⟩ := run_bind_ok.mp h
    have hgrows := perform_grows step world
    rw [show world.perform step = (.ok (), w) from hstep] at hgrows
    exact hgrows.trans (ih hrest)

/-- By induction on the steps: what later steps have made, the earlier ones find there. -/
theorem performAll_again {steps steps' : List Step} {world world' later : World}
    (h : world.run ((host network now).performAll steps) = (.ok (), world'))
    (hlater : world'.Grows later)
    (hblank : steps'.map Step.blank = steps.map Step.blank) :
    ∃ last, later.run ((host network now').performAll steps') = (.ok (), last) := by
  induction steps generalizing world later steps' with
  | nil =>
    obtain rfl : steps' = [] := List.map_eq_nil_iff.mp hblank
    exact ⟨later, rfl⟩
  | cons step steps ih =>
    obtain ⟨step', rest, rfl, hstep', hrest'⟩ := List.map_eq_cons_iff.mp hblank
    obtain ⟨u, w, hstep, hrest⟩ := run_bind_ok.mp h
    have hthere := (performAll_grows hrest).trans hlater
    obtain ⟨next, hnext⟩ := perform_again hstep hthere hstep'
    have hgrown := perform_grows step' later
    rw [hnext] at hgrown
    obtain ⟨last, hlast⟩ := ih hrest (hlater.trans hgrown) hrest'
    exact ⟨last, run_bind_ok.mpr ⟨(), next, hnext, hlast⟩⟩

/-! ## Scopes in later worlds -/

theorem performAll_timed (clock : World → String) (steps : List Step) :
    (timed network clock).performAll steps = (host network now).performAll steps := by
  induction steps with
  | nil => rfl
  | cons step steps ih =>
    rw [Host.performAll, Host.performAll, ih]
    rfl

theorem carryOut_timed {α : Type} (clock : World → String) (plan : Plan α) :
    (timed network clock).carryOut plan = (host network now).carryOut plan := by
  rw [Host.carryOut, Host.carryOut, performAll_timed]

theorem run_fixed {answer : String → Except Failure Json} (world : World) (place : String) :
    world.run (Loader.fixed answer place) = (answer place, world) := rfl

/-- A scope finds the time that the clock shows when it starts. -/
theorem generateScopeFrom_timed {clock : World → String} {answer : String → Except Failure Json}
    {generator : Generator} {settings : ScopeConfig} (world : World) :
    world.run (generator.generateScopeFrom (timed network clock) (.fixed answer) settings) =
      world.run (generator.generateScopeFrom (host network (clock world)) (.fixed answer)
        settings) := by
  rw [Generator.generateScopeFrom, Generator.generateScopeFrom, run_bind, run_bind, run_fixed]
  cases answer settings.specUrl with
  | error e => rfl
  | ok document =>
    have htimed : world.run (liftM (timed network clock).now) = (.ok (clock world), world) := rfl
    have hstill : world.run (liftM (host network (clock world)).now) =
      (.ok (clock world), world) := rfl
    dsimp only
    rw [run_bind, run_bind, htimed, hstill]
    dsimp only
    rw [carryOut_timed]

theorem carryOut_of_steps {α : Type} {world world' : World} {steps : List Step} {a : α}
    (h : world.run ((host network now).performAll steps) = (.ok (), world')) :
    world.run ((host network now).carryOut ⟨steps, .ok a⟩) = (.ok a, world') :=
  run_bind_ok.mpr ⟨(), world', h, rfl⟩

/-- A scope that was generated can be generated again in every later world. -/
theorem generateScopeFrom_again {clock clock' : World → String}
    {answer : String → Except Failure Json} {generator : Generator} {settings : ScopeConfig}
    {summary : Summary} {world world' later : World}
    (h : world.run (generator.generateScopeFrom (timed network clock) (.fixed answer) settings) =
      (.ok summary, world'))
    (hlater : world'.Grows later) :
    ∃ last, later.run (generator.generateScopeFrom (timed network clock') (.fixed answer)
      settings) = (.ok summary, last) ∧ later.Grows last := by
  rw [generateScopeFrom_timed] at h
  obtain ⟨document, layout, emission, hanswer, is, rfl, hsteps⟩ := generateScopeFrom_emission h
  have is' := is.dated (clock' later)
  obtain ⟨last, hlast⟩ := performAll_again hsteps hlater
    (Emission.blank_steps_dated (clock' later))
  refine ⟨last, ?_, performAll_grows hlast⟩
  rw [generateScopeFrom_timed]
  have hload : later.run (Loader.fixed answer settings.specUrl) = (.ok document, later) := by
    rw [run_fixed, hanswer]
  refine run_bind_ok.mpr ⟨document, later, hload, run_bind_ok.mpr ⟨clock' later, later, rfl, ?_⟩⟩
  rw [scopePlan_of_isOf is']
  exact carryOut_of_steps hlast

theorem generateScopeFrom_grows {clock : World → String} {answer : String → Except Failure Json}
    {generator : Generator} {settings : ScopeConfig} {summary : Summary} {world world' : World}
    (h : world.run (generator.generateScopeFrom (timed network clock) (.fixed answer) settings) =
      (.ok summary, world')) : world.Grows world' := by
  rw [generateScopeFrom_timed] at h
  obtain ⟨_, _, _, _, _, _, hsteps⟩ := generateScopeFrom_emission h
  exact performAll_grows hsteps

section

variable {clock clock' : World → String} {answer : String → Except Failure Json}
  {generator : Generator} {scopes : List ScopeConfig} {summaries summaries' : List Summary}
  {world last other last' : World}

theorem mapM_grows
    (h : world.run (scopes.mapM (generator.generateScopeFrom (timed network clock)
      (.fixed answer))) = (.ok summaries, last)) : world.Grows last := by
  induction scopes generalizing world summaries with
  | nil =>
    cases h
    exact .refl _
  | cons settings scopes ih =>
    rw [List.mapM_cons] at h
    obtain ⟨summary, next, hscope, hrest⟩ := run_bind_ok.mp h
    obtain ⟨later, w, hlater, hreturn⟩ := run_bind_ok.mp hrest
    cases hreturn
    exact (generateScopeFrom_grows hscope).trans (ih hlater)

theorem mapM_again {later : World}
    (h : world.run (scopes.mapM (generator.generateScopeFrom (timed network clock)
      (.fixed answer))) = (.ok summaries, last)) (hlater : last.Grows later) :
    ∃ again, later.run (scopes.mapM (generator.generateScopeFrom (timed network clock')
      (.fixed answer))) = (.ok summaries, again) := by
  induction scopes generalizing world summaries later with
  | nil =>
    cases h
    exact ⟨later, rfl⟩
  | cons settings scopes ih =>
    rw [List.mapM_cons] at h
    obtain ⟨summary, next, hscope, hrest⟩ := run_bind_ok.mp h
    obtain ⟨rest, w, hscopes, hreturn⟩ := run_bind_ok.mp hrest
    cases hreturn
    obtain ⟨next', hscope', hgrows⟩ :=
      generateScopeFrom_again hscope ((mapM_grows hscopes).trans hlater)
    obtain ⟨again, hagain⟩ := ih hscopes (hlater.trans hgrows)
    refine ⟨again, ?_⟩
    rw [List.mapM_cons]
    exact run_bind_ok.mpr ⟨summary, next', hscope', run_bind_ok.mpr ⟨rest, again, hagain, rfl⟩⟩

end

end World

/-! ## Two runs -/

namespace Codegen.Emission

variable {toolkit : Toolkit} {config : Config} {settings : ScopeConfig} {now : String}
  {document : Json} {layout : Layout} {emission : Emission} {working place : Disk.Place}

/-- The files of an emission are those that its summary lists. -/
theorem writes_iff_written (is : emission.IsOf toolkit config settings now document layout) :
    emission.Writes working place layout ↔ Written working [emission.summary] place := by
  have hfiles : emission.summary.files =
      emission.scope.manifestFile :: layout.surviving.map emission.file := by
    simp only [Summary.files, summary, ← is.declared, List.map_map, Function.comp_def]
  constructor
  · rintro (rfl | ⟨n, hn, rfl⟩)
    · exact ⟨_, List.mem_singleton_self _, _, hfiles ▸ List.mem_cons_self, rfl⟩
    · refine ⟨_, List.mem_singleton_self _, emission.file n, hfiles ▸ ?_, rfl⟩
      exact List.mem_cons_of_mem _ (List.mem_map_of_mem hn)
  · rintro ⟨s, hs, path, hpath, rfl⟩
    rw [List.mem_singleton.mp hs, hfiles] at hpath
    rcases List.mem_cons.mp hpath with rfl | hpath
    · exact .inl rfl
    · obtain ⟨n, hn, rfl⟩ := List.mem_map.mp hpath
      exact .inr ⟨n, hn, rfl⟩

theorem content?_dated (emission : Emission) (time : String) :
    (emission.dated time).content? working place =
      if place = emission.manifestPlace working then some (emission.manifest.dated time).text
      else emission.content? working place := by
  by_cases h : place = emission.manifestPlace working
  · rw [if_pos h]
    exact if_pos h
  · rw [if_neg h, content?, content?, if_neg h]
    exact if_neg h

/-- What two emissions of one description make of a file. -/
theorem sameOutcome_dated (is : emission.IsOf toolkit config settings now document layout)
    {time : String} {before before' after after' : Disk}
    (hworking : before'.working = before.working) (fills : emission.Fills layout before after)
    (fills' : (emission.dated time).Fills layout before' after') (place : Disk.Place) :
    SameOutcome before.working [emission.summary] place (before.file? place)
      (before'.file? place) (after.file? place) (after'.file? place) := by
  have hafter := fills.file?_eq is place
  have hafter' := fills'.file?_eq (is.dated time) place
  rw [hworking, content?_dated] at hafter'
  by_cases hmanifest : place = emission.manifestPlace before.working
  · rw [content?, if_pos hmanifest] at hafter
    rw [if_pos hmanifest] at hafter'
    have hwritten : Written before.working [emission.summary] place :=
      (writes_iff_written is).mp (.inl hmanifest)
    refine ⟨fun _ => ⟨by rw [hafter]; rfl, .inr ⟨?_, emission.manifest, time, hafter, hafter'⟩⟩,
      fun hunwritten => absurd hwritten hunwritten⟩
    exact ⟨emission.summary, List.mem_singleton_self _, hmanifest⟩
  · rw [if_neg hmanifest] at hafter'
    constructor
    · intro hwritten
      cases hcontent : emission.content? before.working place with
      | none =>
        exact absurd ((writes_iff_written is).mpr hwritten) ((content?_eq_none_iff is).mp hcontent)
      | some text =>
        rw [hcontent] at hafter hafter'
        refine ⟨by rw [hafter]; rfl, .inl ?_⟩
        rw [hafter, hafter']
        rfl
    · intro hunwritten
      have hcontent : emission.content? before.working place = none :=
        (content?_eq_none_iff is).mpr (mt (writes_iff_written is).mp hunwritten)
      rw [hcontent] at hafter hafter'
      exact ⟨hafter, hafter'⟩

end Codegen.Emission

theorem SameButDate.mono {working place : Disk.Place} {summaries more : List Summary}
    {old new : Option ByteArray} (h : SameButDate working summaries place old new)
    (hsub : summaries ⊆ more) : SameButDate working more place old new := by
  refine h.imp_right fun ⟨⟨s, hs, hplace⟩, hdated⟩ => ⟨⟨s, hsub hs, hplace⟩, hdated⟩

theorem written_cons {working place : Disk.Place} {summary : Summary} {summaries : List Summary} :
    Written working (summary :: summaries) place ↔
      Written working [summary] place ∨ Written working summaries place := by
  simp [Written]

/-- The outcome of a scope and of those after it: a file that is written again is what the later
ones make of it. -/
theorem SameOutcome.cons {working place : Disk.Place} {summary : Summary} {summaries : List Summary}
    {before before' middle middle' after after' : Option ByteArray}
    (h : SameOutcome working [summary] place before before' middle middle')
    (hrest : SameOutcome working summaries place middle middle' after after') :
    SameOutcome working (summary :: summaries) place before before' after after' := by
  constructor
  · intro hwritten
    by_cases hagain : Written working summaries place
    · obtain ⟨hthere, hsame⟩ := hrest.written hagain
      exact ⟨hthere, hsame.mono (List.subset_cons_self _ _)⟩
    · obtain ⟨hafter, hafter'⟩ := hrest.unwritten hagain
      obtain ⟨hthere, hsame⟩ := h.written ((written_cons.mp hwritten).resolve_right hagain)
      rw [hafter, hafter']
      exact ⟨hthere, hsame.mono (by simp)⟩
  · intro hunwritten
    rw [written_cons, not_or] at hunwritten
    obtain ⟨hmiddle, hmiddle'⟩ := h.unwritten hunwritten.1
    obtain ⟨hafter, hafter'⟩ := hrest.unwritten hunwritten.2
    exact ⟨hafter.trans hmiddle, hafter'.trans hmiddle'⟩

namespace World

variable {network : Http.Network Id} {clock clock' : World → String}
  {answer : String → Except Failure Json} {generator : Generator} {settings : ScopeConfig}
  {scopes : List ScopeConfig} {summary summary' : Summary} {summaries summaries' : List Summary}
  {world next last other next' last' : World}

theorem generateScopeFrom_agree
    (h : world.run (generator.generateScopeFrom (timed network clock) (.fixed answer) settings) =
      (.ok summary, next))
    (h' : other.run (generator.generateScopeFrom (timed network clock') (.fixed answer) settings) =
      (.ok summary', next'))
    (hworking : other.disk.working = world.disk.working) :
    summary' = summary ∧ ∀ place, SameOutcome world.disk.working [summary] place
      (world.disk.file? place) (other.disk.file? place) (next.disk.file? place)
      (next'.disk.file? place) := by
  rw [generateScopeFrom_timed] at h h'
  obtain ⟨document, layout, emission, hanswer, is, rfl, hsteps⟩ := generateScopeFrom_emission h
  obtain ⟨document', layout', emission', hanswer', is', rfl, hsteps'⟩ :=
    generateScopeFrom_emission h'
  obtain rfl : document' = document := Except.ok.inj (hanswer'.symm.trans hanswer)
  obtain ⟨rfl, rfl⟩ := is.unique is'
  refine ⟨rfl, ?_⟩
  exact Emission.sameOutcome_dated is hworking
    (Emission.fills_of_steps is (performAll_ok hsteps).2.2)
    (Emission.fills_of_steps is' (performAll_ok hsteps').2.2)

/-- Two runs from different files make the same of every file that they write. -/
theorem mapM_agree
    (h : world.run (scopes.mapM (generator.generateScopeFrom (timed network clock)
      (.fixed answer))) = (.ok summaries, last))
    (h' : other.run (scopes.mapM (generator.generateScopeFrom (timed network clock')
      (.fixed answer))) = (.ok summaries', last'))
    (hworking : other.disk.working = world.disk.working) :
    summaries' = summaries ∧ ∀ place, SameOutcome world.disk.working summaries place
      (world.disk.file? place) (other.disk.file? place) (last.disk.file? place)
      (last'.disk.file? place) := by
  induction scopes generalizing world other summaries summaries' with
  | nil =>
    cases h
    cases h'
    refine ⟨rfl, fun place => ⟨?_, fun _ => ⟨rfl, rfl⟩⟩⟩
    rintro ⟨s, hs, _⟩
    cases hs
  | cons settings scopes ih =>
    rw [List.mapM_cons] at h h'
    obtain ⟨summary, next, hscope, hrest⟩ := run_bind_ok.mp h
    obtain ⟨later, w, hlater, hreturn⟩ := run_bind_ok.mp hrest
    obtain ⟨summary', next', hscope', hrest'⟩ := run_bind_ok.mp h'
    obtain ⟨later', w', hlater', hreturn'⟩ := run_bind_ok.mp hrest'
    cases hreturn
    cases hreturn'
    -- the scopes after it start in the same directories again
    obtain ⟨rfl, hfirst⟩ := generateScopeFrom_agree hscope hscope' hworking
    have hnext := (generateScopeFrom_grows hscope).disk.working
    have hnext' := (generateScopeFrom_grows hscope').disk.working
    obtain ⟨rfl, hothers⟩ := ih hlater hlater' (by rw [hnext, hnext', hworking])
    refine ⟨rfl, fun place => (hfirst place).cons ?_⟩
    rw [← hnext]
    exact hothers place

/-- A disk on which the file of the tag `api` is left over from something else. -/
def stale : World :=
  .ofDisk
    ⟨[(["home"], .directory), (["home", "codegen"], .directory),
      (["home", "codegen", "ws"], .directory), (clashPlace, .file "left over".toUTF8)], ["home"]⟩

/-- A run of two scopes that share a file, at some time. -/
def sharedRun (world : World) (time : String) : Except Failure (List Summary) × World :=
  world.run (Generator.generateAllFrom (timed (fun _ => none) fun _ => time)
    (.fixed fun path => .ok (clashDocument path)) ⟨clashConfig, clashToolkit⟩)

end World

end ClientForge
