import ClientForge.Proofs.Characters
import ClientForge.Proofs.Interruption

/-!
Where the generation of a scope writes. A path below the output directory leads from there to where
the path leads on its own, so a file lies directly inside if its name has no slash, while slashes
and dot names in it lead elsewhere. A file counts as written when it has been opened, which is when
it is made or emptied, also if the writing then breaks off.

Results:
1. `target_join`: a path below another starts where that one leads.
2. `performAll_written`: steps change no file but those that they open.
3. `generateScopeFrom_outputDirectory`: the files that a scope writes. The manifest lies directly
   inside the output directory, and so does the file of a tag that has no slash in its name.
-/

namespace ClientForge

open Codegen

/-! ## Definitions -/

/-- The place of the file that a step opens to write it. -/
def Codegen.Step.opened? (disk : Disk) : Step → Option Disk.Place
  | .write mode path _ => disk.opened? mode path
  | .ensureDirectory _ => none
  | .warn _ => none

/-- The places of the files that steps write: those that they open, up to the first step that fails
and with the one that it has opened. -/
def World.written (world : World) : List Step → List Disk.Place
  | [] => []
  | step :: rest =>
    (step.opened? world.disk).toList ++
      match world.perform step with
      | (.ok (), next) => next.written rest
      | (.error _, _) => []

/-- The places of the files that the generation of a scope writes. -/
def Generator.written (generator : Generator) (now : String)
    (answer : String → World → Except Failure Json) (settings : ScopeConfig) (world : World) :
    List Disk.Place :=
  match answer settings.specUrl world with
  | .ok document =>
    world.written (scopePlan generator.toolkit generator.config settings now document).steps
  | .error _ => []

/-- The place of the output directory. -/
def Config.directory (config : Config) (working : Disk.Place) : Disk.Place :=
  Disk.target working config.outputDir

/-- The file name of a tag. -/
def Config.fileName (config : Config) (n : Api.Namespace) : String :=
  Naming.fileStem n.name ++ "." ++ config.fileExtension

/-! ## Paths -/

namespace Disk

namespace Path

theorem names_slash (base path : String) :
    names (base ++ "/" ++ path) = names base ++ names path := by
  have hsplit : (base ++ "/" ++ path).toList.splitOn '/' =
      base.toList.splitOn '/' ++ path.toList.splitOn '/' := by
    simp only [String.toList_append, List.append_assoc]
    exact List.splitOnP_append_cons _ _ (beq_self_eq_true '/')
  rw [names, segments, hsplit, List.map_append, List.filter_append]
  rfl

theorem names_empty : names "" = [] := by decide

theorem isAbsolute_iff {path : String} : isAbsolute path = true ↔ path.toList.head? = some '/' := by
  rw [isAbsolute, String.startsWith_string_iff]
  cases path.toList with
  | nil => simp
  | cons c cs => simp [eq_comm]

theorem isAbsolute_append {base path : String} (h : base ≠ "") :
    isAbsolute (base ++ path) = isAbsolute base := by
  have hhead : (base ++ path).toList.head? = base.toList.head? := by
    rw [String.toList_append, List.head?_append_of_ne_nil _ (by simpa using h)]
  rw [Bool.eq_iff_iff, isAbsolute_iff, isAbsolute_iff, hhead]

/-- A relative path below another: its names come behind those of the other. -/
theorem names_join {base path : String} (h : isAbsolute path = false) :
    names (join base path) = names base ++ names path := by
  rw [isAbsolute] at h
  rw [join, if_neg (by simp [h])]
  split_ifs with hempty hslash
  · rw [String.isEmpty_iff.mp hempty, names_empty, List.nil_append]
  · -- the last slash of the base makes no name
    obtain ⟨start, hstart⟩ := String.Slice.endsWith_string_iff.mp hslash
    obtain rfl : base = String.ofList start ++ "/" :=
      String.toList_injective (by simpa using hstart.symm)
    have hnone := names_slash (String.ofList start) ""
    rw [String.append_empty, names_empty, List.append_nil] at hnone
    rw [names_slash, hnone]
  · exact names_slash base path

theorem isAbsolute_join {base path : String} (h : isAbsolute path = false) :
    isAbsolute (join base path) = isAbsolute base := by
  have hrelative := h
  rw [isAbsolute] at h
  rw [join, if_neg (by simp [h])]
  split_ifs with hempty hslash
  · rw [hrelative, String.isEmpty_iff.mp hempty]
    decide
  · exact isAbsolute_append fun h => hempty (by rw [h]; rfl)
  · rw [String.append_assoc]
    exact isAbsolute_append fun h => hempty (by rw [h]; rfl)

theorem join_absolute {base path : String} (h : isAbsolute path = true) : join base path = path :=
  if_pos h

/-- A text without slashes is one name. -/
theorem names_plain {name : String} (hslash : '/' ∉ name.toList) (hne : name ≠ "") :
    names name = [name] := by
  have hsplit : name.toList.splitOn '/' = [name.toList] :=
    List.splitOnP_eq_singleton fun c hc => by
      simpa using (fun (h : c = '/') => hslash (h ▸ hc))
  rw [names, segments, hsplit]
  simp [hne]

theorem isAbsolute_plain {name : String} (hslash : '/' ∉ name.toList) :
    isAbsolute name = false := by
  rw [← Bool.not_eq_true, isAbsolute_iff]
  exact fun h => hslash (List.mem_of_mem_head? h)

end Path

/-- A path below another leads from where the other leads to. -/
theorem target_join (working : Place) (base path : String) :
    target working (Path.join base path) = target (target working base) path := by
  cases h : Path.isAbsolute path with
  | true => rw [Path.join_absolute h, target, target, h, if_pos rfl, if_pos rfl]
  | false =>
    rw [target, Path.names_join h, Path.isAbsolute_join h, List.foldl_append, ← target]
    rw [target.eq_def _ path, h, if_neg Bool.false_ne_true]

example : target ["home"] (Path.join "out" "../a.rs") = ["home", "a.rs"] := by decide +kernel
example : target ["home"] (Path.join "out" "/a.rs") = ["a.rs"] := by decide +kernel

/-! ## Writes -/

theorem opened?_target {disk : Disk} {mode : Mode} {path : String} {place : Place}
    (h : disk.opened? mode path = some place) : place = target disk.working path := by
  obtain ⟨opened, hopened⟩ := opened?_eq_some h
  exact (openFile_file? hopened).1

/-- A file with a name without slashes that is opened lies directly inside its directory. -/
theorem opened?_plain {disk : Disk} {mode : Mode} {base name : String} {place : Place}
    (hslash : '/' ∉ name.toList) (hne : name ≠ "")
    (h : disk.opened? mode (Path.join base name) = some place) :
    place = target disk.working base ++ [name] := by
  have hrelative := Path.isAbsolute_plain hslash
  have hnames := Path.names_plain hslash hne
  obtain ⟨opened, hopened⟩ := opened?_eq_some h
  obtain ⟨ready, _, hin⟩ := openFile_ok hopened
  obtain ⟨parent, last, hslot, hdots, _⟩ := openIn_ok_iff.mp hin
  -- the last name of the path is `name`, which is no dot name as the file could be opened
  obtain rfl : last = name := by
    obtain ⟨_, _, _, hlast⟩ := slot_eq_ok_iff.mp hslot
    rw [Path.names_join hrelative, hnames, List.getLast?_concat] at hlast
    exact (Option.some.inj hlast).symm
  rw [not_or, not_or] at hdots
  rw [opened?_target h, target_join, target.eq_def _ last, hnames, hrelative, if_neg Bool.false_ne_true,
    List.foldl_cons, List.foldl_nil, follow, if_neg hdots.1, if_neg hdots.2.1]

end Disk

theorem slash_mem_fileStem {name : String} :
    '/' ∈ (Naming.fileStem name).toList ↔ '/' ∈ name.toList := by
  rw [Naming.fileStem, String.toList_ofList, Text.mem_lower_iff (by decide),
    Naming.mem_replaceSpaces_iff (by decide) (by decide)]

/-! ## Steps -/

namespace World

variable {network : Http.Network Id} {now : String}

/-- A step changes no file but the one that it opens, whatever comes of it. -/
theorem perform_elsewhere {step : Step} {world : World} {place : Disk.Place}
    (h : place ∉ step.opened? world.disk) :
    (world.perform step).2.disk.file? place = world.disk.file? place := by
  cases step with
  | warn w => rfl
  | ensureDirectory path => exact (Disk.ensureDirectory_sameFiles world.disk path).file? place
  | write mode path text => exact Disk.write_elsewhere world.medium text h

/-- Steps change no file but those that they open. -/
theorem performAll_written {steps : List Step} {world : World} {place : Disk.Place}
    (h : place ∉ world.written steps) :
    (world.run ((host network now).performAll steps)).2.disk.file? place =
      world.disk.file? place := by
  induction steps generalizing world with
  | nil => rfl
  | cons step steps ih =>
    rw [written, List.mem_append, not_or, Option.mem_toList] at h
    obtain ⟨hfirst, hlater⟩ := h
    have hkept := perform_elsewhere hfirst
    rw [Host.performAll, run_bind]
    cases hstep : world.perform step with
    | mk outcome next =>
      have hrun : world.run ((host network now).perform step) = (outcome, next) := hstep
      rw [hstep] at hlater hkept
      rw [hrun]
      cases outcome with
      | error e => exact hkept
      | ok u => exact (ih hlater).trans hkept

/-- What is written is opened by a write. -/
theorem exists_write {steps : List Step} {world : World} {place : Disk.Place}
    (h : place ∈ world.written steps) :
    ∃ mode path text, .write mode path text ∈ steps ∧
      ∃ disk : Disk, disk.working = world.disk.working ∧ disk.opened? mode path = some place := by
  induction steps generalizing world with
  | nil => cases h
  | cons step steps ih =>
    rw [written, List.mem_append, Option.mem_toList] at h
    rcases h with hfirst | hlater
    · cases step with
      | warn w => cases hfirst
      | ensureDirectory path => cases hfirst
      | write mode path text =>
        exact ⟨mode, path, text, List.mem_cons_self, world.disk, rfl, hfirst⟩
    · cases hstep : world.perform step with
      | mk outcome next =>
        rw [hstep] at hlater
        cases outcome with
        | error e => cases hlater
        | ok u =>
          obtain ⟨mode, path, text, hmem, hopened⟩ := ih hlater
          rw [(perform_ok hstep).1] at hopened
          exact ⟨mode, path, text, List.mem_cons_of_mem _ hmem, hopened⟩

end World

/-! ## Plans -/

namespace Codegen

namespace Emission

variable {emission : Emission} {mode : Disk.Mode} {path text : String}

/-- What is written before the manifest are files of declared namespaces and of those that own a
method. -/
theorem mem_stepsSoFar {toolkit : Toolkit} {document : Json} {layout : Layout}
    (h : .write mode path text ∈ emission.stepsSoFar toolkit document layout) :
    ∃ n ∈ emission.declarations.map Prod.fst ++ emission.endpoints.map (·.1.owner),
      path = emission.file n := by
  simp only [stepsSoFar, declarationSteps, endpointSteps, List.mem_append, List.mem_flatMap,
    List.mem_map, List.mem_singleton, reduceCtorEq, and_false, exists_false, or_false, false_or,
    Step.write.injEq] at h
  rcases h with ⟨d, hd, _, hfile, _⟩ | ⟨p, hp, _, hfile, _⟩
  · exact ⟨d.1, List.mem_append_left _ (List.mem_map_of_mem hd), hfile⟩
  · exact ⟨p.1.owner, List.mem_append_right _ (List.mem_map_of_mem hp), hfile⟩

theorem mem_steps {toolkit : Toolkit} {document : Json} {layout : Layout}
    (h : .write mode path text ∈ emission.steps toolkit document layout) :
    path = emission.scope.manifestFile ∨
      .write mode path text ∈ emission.stepsSoFar toolkit document layout := by
  have hsteps : emission.steps toolkit document layout =
      emission.stepsSoFar toolkit document layout ++
        [.write .replace emission.scope.manifestFile emission.manifest.text] := rfl
  rw [hsteps, List.mem_append, List.mem_singleton, Step.write.injEq] at h
  exact h.symm.imp_left fun h => h.2.1

end Emission

open Emission in
/-- Plans write the manifest and the files of namespaces, whether or not they come to a summary. -/
theorem scopePlan_write {toolkit : Toolkit} {config : Config} {settings : ScopeConfig}
    {now : String} {document : Json} {mode : Disk.Mode} {path text : String}
    (h : .write mode path text ∈ (scopePlan toolkit config settings now document).steps) :
    path = Disk.Path.join config.outputDir (settings.name ++ ".json") ∨
      ∃ layout, Layout.ofDocument document = .ok layout ∧
        ∃ n ∈ layout.surviving, path = Disk.Path.join config.outputDir (config.fileName n) := by
  cases hplan : scopePlan toolkit config settings now document with
  | mk steps outcome =>
    rw [hplan] at h
    cases outcome with
    | ok summary =>
      obtain ⟨layout, emission, is, rfl, _⟩ := scopePlan_ok hplan
      rcases mem_steps h with hfile | h
      · rw [is.scope_eq] at hfile
        exact .inl hfile
      · obtain ⟨n, hn, hfile⟩ := mem_stepsSoFar h
        rw [file, is.scope_eq] at hfile
        refine .inr ⟨layout, is.layout_eq, n, ?_, hfile⟩
        rcases List.mem_append.mp hn with hn | hn
        · exact is.declared ▸ hn
        · obtain ⟨p, hp, rfl⟩ := List.mem_map.mp hn
          exact owner_mem_surviving is hp
    | error e =>
      rcases scopePlan_error hplan with ⟨_, ws, rfl⟩ | ⟨layout, emission, breaks, ws, rfl⟩
      · simp at h
      · have h := (List.mem_append.mp h).resolve_right (by simp)
        obtain ⟨n, hn, hfile⟩ := mem_stepsSoFar h
        rw [file, breaks.scope_eq] at hfile
        refine .inr ⟨layout, breaks.layout_eq, n, ?_, hfile⟩
        have hdeclared : n ∈ emission.declarations.map Prod.fst := by
          rcases List.mem_append.mp hn with hn | hn
          · exact hn
          · obtain ⟨p, hp, rfl⟩ := List.mem_map.mp hn
            exact breaks.owner_declared p hp
        obtain ⟨d, hd, rfl⟩ := List.mem_map.mp hdeclared
        exact breaks.declared_surviving d hd

end Codegen

/-! ## Runs -/

theorem Config.fileName_plain {config : Config} {n : Api.Namespace} (hname : '/' ∉ n.name.toList)
    (hextension : '/' ∉ config.fileExtension.toList) : '/' ∉ (config.fileName n).toList := by
  simp [fileName, slash_mem_fileStem, hname, hextension]

namespace World

section

variable {network : Http.Network Id} {now : String}

/-- What comes of a plan is found out without doing anything. -/
theorem carryOut_world {α : Type} {plan : Plan α} {world : World} :
    (world.run ((host network now).carryOut plan)).2 =
      (world.run ((host network now).performAll plan.steps)).2 := by
  rw [Host.carryOut, run_bind]
  obtain ⟨outcome, next⟩ := world.run ((host network now).performAll plan.steps)
  cases outcome with
  | error e => rfl
  | ok u => rfl

variable {answer : String → World → Except Failure Json} {generator : Generator}
  {settings : ScopeConfig} {world : World} {place : Disk.Place}

theorem generateScopeFrom_written (h : place ∉ generator.written now answer settings world) :
    (world.run (generator.generateScopeFrom (host network now) (.reading answer)
      settings)).2.disk.file? place = world.disk.file? place := by
  rw [Generator.written] at h
  rw [Generator.generateScopeFrom, run_bind]
  have hload : world.run (Loader.reading answer settings.specUrl) =
    (answer settings.specUrl world, world) := rfl
  rw [hload]
  cases hanswer : answer settings.specUrl world with
  | error e => rfl
  | ok document =>
    rw [hanswer] at h
    have hnow : world.run (liftM (host network now).now : Doing (StateM World) String) =
      (.ok now, world) := rfl
    dsimp only
    rw [run_bind, hnow]
    dsimp only
    rw [carryOut_world]
    exact performAll_written h

theorem exists_write_of_written (h : place ∈ generator.written now answer settings world) :
    ∃ document mode path text, answer settings.specUrl world = .ok document ∧
      .write mode path text ∈
        (scopePlan generator.toolkit generator.config settings now document).steps ∧
      ∃ disk : Disk, disk.working = world.disk.working ∧ disk.opened? mode path = some place := by
  rw [Generator.written] at h
  cases hanswer : answer settings.specUrl world with
  | error e =>
    rw [hanswer] at h
    cases h
  | ok document =>
    rw [hanswer] at h
    obtain ⟨mode, path, text, hmem, hopened⟩ := exists_write h
    exact ⟨document, mode, path, text, rfl, hmem, hopened⟩

end

/-- The generation of a scope changes no file but those that it opens, whatever comes of it. These
are its manifest, which lies directly inside the output directory, and files of tags that own an
operation: such a file is where its name leads to from the output directory, and lies directly
inside if neither the tag nor the file extension has a slash. -/
theorem generateScopeFrom_outputDirectory {network : Http.Network Id} {now : String}
    {answer : String → World → Except Failure Json} {generator : Generator}
    {settings : ScopeConfig} {world : World} (hscope : '/' ∉ settings.name.toList) :
    (∀ place, place ∉ generator.written now answer settings world →
      (world.run (generator.generateScopeFrom (host network now) (.reading answer)
        settings)).2.disk.file? place = world.disk.file? place) ∧
    ∀ place ∈ generator.written now answer settings world,
      place = generator.config.directory world.disk.working ++ [settings.name ++ ".json"] ∨
      ∃ document layout, answer settings.specUrl world = .ok document ∧
        Layout.ofDocument document = .ok layout ∧ ∃ n ∈ layout.surviving,
          place = Disk.target (generator.config.directory world.disk.working)
            (generator.config.fileName n) ∧
          ('/' ∉ n.name.toList → '/' ∉ generator.config.fileExtension.toList →
            place = generator.config.directory world.disk.working ++
              [generator.config.fileName n]) := by
  refine ⟨fun place h => generateScopeFrom_written h, fun place h => ?_⟩
  obtain ⟨document, mode, path, text, hanswer, hmem, disk, hworking, hopened⟩ :=
    exists_write_of_written h
  rw [Config.directory, ← hworking]
  rcases scopePlan_write hmem with rfl | ⟨layout, hlayout, n, hn, rfl⟩
  · exact .inl (Disk.opened?_plain (by simp [hscope]) (by simp) hopened)
  · have htarget := (Disk.opened?_target hopened).trans (Disk.target_join ..)
    refine .inr ⟨document, layout, hanswer, hlayout, n, hn, htarget, ?_⟩
    intro hname hextension
    have hplain := Config.fileName_plain hname hextension
    exact Disk.opened?_plain hplain (by simp [Config.fileName]) hopened

/-- Two tags with an operation each. The name of the second one leads out of its directory. -/
def stray : Json :=
  .object
    [("tags", .array [.object [("name", .string "api")], .object [("name", .string "../evil")]]),
     ("paths", .object
       [("/a", .object [("get", .object [("tags", .array [.string "api"])])]),
        ("/b", .object [("get", .object [("tags", .array [.string "../evil"])])])])]

def strayGenerator : Generator :=
  ⟨{ Config.standard with scopes := [⟨"core", "/core", ""⟩] }, ⟨.builtin, .empty, []⟩⟩

def strayRun : Except Failure Summary × World :=
  empty.run (strayGenerator.generateScopeFrom (host (fun _ => none) "")
    (.reading fun _ _ => .ok stray) ⟨"core", "/core", ""⟩)

def strayDirectory : Disk.Place := ["home", "codegen", "ws"]

/-- The files of the two tags, and the manifest. -/
def strayPlaces : List Disk.Place :=
  [strayDirectory ++ ["api.rs"], ["home", "codegen", "evil.rs"], strayDirectory ++ ["core.json"]]

theorem empty_file? (place : Disk.Place) : empty.disk.file? place = none := by
  have hentry : empty.disk.entry? place = some .directory ∨ empty.disk.entry? place = none := by
    have hentries : empty.disk.entries = [(["home"], .directory)] := rfl
    rw [Disk.entry?, hentries, List.lookup_cons, List.lookup_nil]
    split_ifs
    · exact .inl rfl
    · cases place == ["home"]
      · exact .inr rfl
      · exact .inl rfl
  rw [Disk.file?]
  rcases hentry with h | h <;> rw [h]

theorem generateScopeFrom_outputDirectory_stray :
    (∀ place, place ∉ strayPlaces → strayRun.2.disk.file? place = none) ∧
    ∀ place ∈ strayPlaces, (∃ name, place = strayDirectory ++ [name]) ∨
      ∃ tag : String, '/' ∈ tag.toList ∧
        place = Disk.target strayDirectory (Naming.fileStem tag ++ "." ++ "rs") := by
  have hdirectory : strayGenerator.config.directory empty.disk.working = strayDirectory := by
    decide +kernel
  have hwritten : ∀ place, place ∈ strayGenerator.written "" (fun _ _ => .ok stray)
      ⟨"core", "/core", ""⟩ empty ↔ place ∈ strayPlaces := by
    have hplaces : strayGenerator.written "" (fun _ _ => .ok stray) ⟨"core", "/core", ""⟩ empty =
        strayPlaces.take 2 ++ strayPlaces := by decide +kernel
    intro place
    rw [hplaces, List.mem_append, or_iff_right_of_imp List.mem_of_mem_take]
  obtain ⟨hothers, hplaces⟩ :
      (∀ place, place ∉ strayGenerator.written "" _ _ _ → strayRun.2.disk.file? place = _) ∧ _ :=
    generateScopeFrom_outputDirectory (by decide : '/' ∉ "core".toList)
  simp only [hwritten, hdirectory] at hothers hplaces
  refine ⟨fun place h => (hothers place h).trans (empty_file? place), fun place h => ?_⟩
  rcases hplaces place h with hmanifest | ⟨_, _, _, _, n, _, htarget, hplain⟩
  · exact .inl ⟨_, hmanifest⟩
  · by_cases hslash : '/' ∈ n.name.toList
    · exact .inr ⟨n.name, hslash, htarget⟩
    · exact .inl ⟨_, hplain hslash (by decide)⟩

/-- The file of the second tag is made outside the output directory. -/
theorem stray_leaves_directory :
    ¬ ∀ (network : Http.Network Id) (now : String) (answer : String → World → Except Failure Json)
        (generator : Generator) (settings : ScopeConfig) (world : World) (place : Disk.Place),
      (∀ scope ∈ generator.config.scopes, '/' ∉ scope.name.toList) →
      settings ∈ generator.config.scopes →
      (world.run (generator.generateScopeFrom (host network now) (.reading answer)
        settings)).2.disk.file? place ≠ world.disk.file? place →
      ∃ name, place = generator.config.directory world.disk.working ++ [name] := by
  intro claim
  have hmade : (strayRun.2.disk.file? ["home", "codegen", "evil.rs"]).isSome := by decide +kernel
  have hdirectory : strayGenerator.config.directory empty.disk.working = strayDirectory := by
    decide +kernel
  have hchanged : strayRun.2.disk.file? ["home", "codegen", "evil.rs"] ≠
      empty.disk.file? ["home", "codegen", "evil.rs"] := by
    rw [empty_file?]
    exact Option.isSome_iff_ne_none.mp hmade
  obtain ⟨name, hname⟩ := claim (fun _ => none) "" (fun _ _ => .ok stray) strayGenerator
    ⟨"core", "/core", ""⟩ empty _ (by decide) (List.mem_singleton_self _) hchanged
  rw [hdirectory] at hname
  simp [strayDirectory] at hname

end World

end ClientForge
