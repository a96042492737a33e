import ClientForge.Generator
import ClientForge.Proofs.KeyOrder
import ClientForge.Proofs.WorldRun

/-!
The templates of a directory against the order in which it is listed. Several files can hold a
template of one name; sorting by the name leaves them in the order of the listing, and the last one
counts. So the order shows exactly where such files differ.

Results:
1. `templates_eq_ok_iff`: when the templates of a directory load, and what comes of it.
2. `lookup_templates`: the template of a name is that of the last file listed for it.
3. `exists_templates`: what loads in one order loads in every order, by the same names.
4. `templates_of_order`: the order matters only to files of one name that differ, and it does then.
-/

namespace ClientForge

open Template
open Disk (Path.join)

/-! ## Definitions -/

namespace Disk

/-- The template that a file in a directory holds. -/
def template? (disk : Disk) (directory fileName : String) : Option Template :=
  (disk.readText (Path.join directory fileName)).toOption.bind Template.parse?

/-- Files that hold a template of one name render alike. -/
def Unambiguous (disk : Disk) (directory : String) (fileNames : List String) : Prop :=
  ∀ f ∈ fileNames, ∀ g ∈ fileNames, ∀ name, Registry.templateName? f = some name →
    Registry.templateName? g = some name → ∀ context,
      (disk.template? directory f).bind (·.render context) =
        (disk.template? directory g).bind (·.render context)

/-- The text of a file in a directory, empty if it cannot be read. -/
def textIn (disk : Disk) (directory fileName : String) : String :=
  (disk.readText (Path.join directory fileName)).toOption.getD ""

/-- The texts of the template files among these, by the names of the templates. -/
def templateTexts (disk : Disk) (directory : String) (fileNames : List String) :
    List (String × String) :=
  fileNames.filterMap fun f => (Registry.templateName? f).map fun name =>
    (name, disk.textIn directory f)

end Disk

/-- The files among these that hold the template of this name. -/
def Template.Registry.filesOf (name : String) (fileNames : List String) : List String :=
  fileNames.filter (templateName? · = some name)

/-- The text read as a template, empty if it is none. -/
def Template.ofText (text : String) : Template := (Template.parse? text).getD []

/-- The built-in templates with those of these texts on top. -/
def Template.Registry.overlaid (texts : List (String × String)) : Registry :=
  let rows := (Text.sortOn Prod.fst texts).map fun (name, text) => (name, Template.ofText text)
  ⟨rows.foldl (fun entries (k, v) => Table.insert k v entries) builtin.entries⟩

namespace World

/-- The host on which a directory is listed in this order. -/
def hostListing (network : Http.Network Id) (now directory : String) (fileNames : List String) :
    Host (StateM World) :=
  { host network now with
    list := fun path world =>
      (if path = directory then .ok fileNames else world.disk.list path, world) }

/-- An order in which the directory may be listed. -/
def Lists (world : World) (directory : String) (fileNames : List String) : Prop :=
  ∃ listed, world.disk.list directory = .ok listed ∧ fileNames.Perm listed

/-- What comes of loading the templates of a directory that is listed in this order. -/
def templates (network : Http.Network Id) (now : String) (world : World) (directory : String)
    (fileNames : List String) : Except Failure Registry :=
  (world.run (Generator.loadTemplates (hostListing network now directory fileNames)
    (some directory))).1

end World

/-! ## Loading -/

namespace Template.Registry

theorem parseAll_eq_some_iff {rows : List (String × String)}
    {templates : List (String × Template)} :
    parseAll rows = some templates ↔ (∀ row ∈ rows, (Template.parse? row.2).isSome) ∧
      templates = rows.map fun (name, text) => (name, Template.ofText text) := by
  induction rows generalizing templates with
  | nil =>
    rw [parseAll, Option.some.injEq, eq_comm]
    exact (and_iff_right fun row hrow => nomatch hrow).symm
  | cons row rows ih =>
    obtain ⟨name, text⟩ := row
    have hcons : parseAll ((name, text) :: rows) = some templates ↔ ∃ template,
        Template.parse? text = some template ∧ ∃ rest, parseAll rows = some rest ∧
          (name, template) :: rest = templates := by
      simp only [parseAll, Option.bind_eq_bind, Option.bind_eq_some_iff, Option.pure_def,
        Option.some.injEq]
    rw [hcons]
    constructor
    · rintro ⟨template, hparse, rest, hrest, rfl⟩
      obtain ⟨hall, rfl⟩ := ih.mp hrest
      obtain rfl : template = Template.ofText text := by
        rw [Template.ofText, hparse, Option.getD_some]
      exact ⟨List.forall_mem_cons.mpr ⟨Option.isSome_of_eq_some hparse, hall⟩, rfl⟩
    · rintro ⟨hall, rfl⟩
      obtain ⟨hhead, htail⟩ := List.forall_mem_cons.mp hall
      obtain ⟨template, hparse⟩ := Option.isSome_iff_exists.mp hhead
      obtain rfl : template = Template.ofText text := by
        rw [Template.ofText, hparse, Option.getD_some]
      exact ⟨_, hparse, _, ih.mpr ⟨htail, rfl⟩, rfl⟩

theorem mem_filesOf_iff {name f : String} {fileNames : List String} :
    f ∈ filesOf name fileNames ↔ f ∈ fileNames ∧ templateName? f = some name := by
  rw [filesOf, List.mem_filter, decide_eq_true_iff]

/-- Rendering tells no more of a template than its texts. -/
theorem render_eq_iff {registry registry' : Registry} {name : String} {context : Json} :
    registry.render name context = registry'.render name context ↔
      (registry.entries.lookup name).bind (·.render context) =
        (registry'.entries.lookup name).bind (·.render context) := by
  rw [render, render]
  cases (registry.entries.lookup name).bind (·.render context) <;>
    cases (registry'.entries.lookup name).bind (·.render context) <;> simp

theorem override_eq_ok_iff {texts : List (String × String)} {registry : Registry} :
    builtin.override texts = .ok registry ↔
      (∀ row ∈ texts, (Template.parse? row.2).isSome) ∧ registry = overlaid texts := by
  have hsorted : (∀ row ∈ Text.sortOn Prod.fst texts, (Template.parse? row.2).isSome) ↔
      ∀ row ∈ texts, (Template.parse? row.2).isSome :=
    forall_congr' fun row => by rw [(Text.sortOn_perm Prod.fst texts).mem_iff]
  rw [override, ← hsorted]
  cases hparse : parseAll (Text.sortOn Prod.fst texts) with
  | some templates =>
    obtain ⟨hall, rfl⟩ := parseAll_eq_some_iff.mp hparse
    rw [Except.ok.injEq, eq_comm]
    exact (and_iff_right hall).symm
  | none =>
    refine iff_of_false (fun h => nomatch h) fun ⟨hall, _⟩ => ?_
    rw [parseAll_eq_some_iff.mpr ⟨hall, rfl⟩] at hparse
    cases hparse

/-- Of texts with one name the last counts, as sorting does not change their order. -/
theorem lookup_overlaid (texts : List (String × String)) (name : String) :
    (overlaid texts).entries.lookup name =
      ((texts.filter (·.1 = name)).getLast?.map fun row => Template.ofText row.2).or
        (builtin.entries.lookup name) := by
  rw [overlaid, Table.lookup_foldl_insert, ← List.map_reverse, Table.lookup_map,
    Table.lookup_reverse, Text.filter_sortOn, Option.map_map]
  rfl

theorem keys_overlaid {texts texts' : List (String × String)}
    (h : (texts.map Prod.fst).Perm (texts'.map Prod.fst)) :
    (overlaid texts).entries.map Prod.fst = (overlaid texts').entries.map Prod.fst := by
  refine Table.keys_foldl_insert ?_ rfl
  rw [List.map_map, List.map_map]
  exact Text.keys_sortOn_eq_iff.mpr h

end Template.Registry

/-! ## Texts without tags -/

namespace Template

theorem pieces_plain {fuel : Nat} {text cs : List Char} (hfuel : cs.length < fuel)
    (hplain : '\x7b' ∉ cs) :
    pieces fuel false text cs = some (textPiece false false (text.reverse ++ cs)) := by
  induction cs generalizing fuel text with
  | nil =>
    obtain ⟨fuel, rfl⟩ := Nat.exists_eq_add_one_of_ne_zero (Nat.ne_of_gt hfuel)
    rw [pieces, List.append_nil]
  | cons c cs ih =>
    obtain ⟨fuel, rfl⟩ := Nat.exists_eq_add_one_of_ne_zero (Nat.ne_of_gt (Nat.zero_lt_of_lt hfuel))
    obtain ⟨hc, hcs⟩ := not_or.mp (mt List.mem_cons.mpr hplain)
    rw [pieces, ih (Nat.lt_of_succ_lt_succ hfuel) hcs, List.reverse_cons, List.append_assoc,
      List.singleton_append]
    -- the cases of a character that opens a tag
    all_goals exact fun _ hopen => absurd hopen.symm hc

/-- A text without braces is a template that shows it. -/
theorem parse?_plain {text : String} (hne : text ≠ "") (hplain : '\x7b' ∉ text.toList) :
    Template.parse? text = some [.text text] := by
  have hpieces : pieces (text.toList.length + 1) false [] text.toList =
      some (textPiece false false ([].reverse ++ text.toList)) :=
    pieces_plain (Nat.lt_succ_self _) hplain
  have hpiece : textPiece false false text.toList = [.text text.toList] := by
    rw [textPiece]
    simp [hne]
  rw [List.reverse_nil, List.nil_append, hpiece] at hpieces
  rw [Template.parse?]
  dsimp only
  rw [hpieces]
  simp [nodes?]

theorem render_text (text : String) (context : Json) :
    Template.render [.text text] context = some text := by
  simp [Template.render, renderNodes, Node.render]

end Template

/-! ## Files of a directory -/

namespace Disk

variable {disk : Disk} {directory : String} {names : List String}

theorem template?_eq {f : String} (h : (disk.readText (Path.join directory f)).isOk = true) :
    disk.template? directory f = Template.parse? (disk.textIn directory f) := by
  rw [template?, textIn]
  cases hread : disk.readText (Path.join directory f) with
  | error cause =>
    rw [hread] at h
    cases h
  | ok text => rfl

theorem isOk_of_template? {f : String} (h : disk.template? directory f ≠ none) :
    (disk.readText (Path.join directory f)).isOk = true := by
  rw [template?] at h
  cases hread : disk.readText (Path.join directory f) with
  | error cause =>
    rw [hread] at h
    exact absurd rfl h
  | ok text => rfl

theorem template?_eq_ofText {f : String} (h : disk.template? directory f ≠ none) :
    disk.template? directory f = some (Template.ofText (disk.textIn directory f)) := by
  have hparse := template?_eq (isOk_of_template? h)
  obtain ⟨template, htemplate⟩ := Option.ne_none_iff_exists'.mp h
  rw [Template.ofText, ← hparse, htemplate, Option.getD_some]

theorem forall_templateTexts {p : String × String → Prop} :
    (∀ row ∈ disk.templateTexts directory names, p row) ↔ ∀ f ∈ names, ∀ name,
      Registry.templateName? f = some name → p (name, disk.textIn directory f) := by
  simp only [templateTexts, List.mem_filterMap, Option.map_eq_some_iff]
  constructor
  · exact fun h f hf name hname => h _ ⟨f, hf, name, hname, rfl⟩
  · rintro h row ⟨f, hf, name, hname, rfl⟩
    exact h f hf name hname

theorem templateTexts_cons_of_none {f : String} (h : Registry.templateName? f = none) :
    disk.templateTexts directory (f :: names) = disk.templateTexts directory names := by
  rw [templateTexts, List.filterMap_cons, h]
  rfl

theorem templateTexts_cons_of_some {f name : String} (h : Registry.templateName? f = some name) :
    disk.templateTexts directory (f :: names) =
      (name, disk.textIn directory f) :: disk.templateTexts directory names := by
  rw [templateTexts, List.filterMap_cons, h]
  rfl

/-- The texts of one name are those of its files. -/
theorem filter_templateTexts (name : String) :
    (disk.templateTexts directory names).filter (·.1 = name) =
      (Registry.filesOf name names).map fun f => (name, disk.textIn directory f) := by
  induction names with
  | nil => rfl
  | cons f names ih =>
    rw [Registry.filesOf, List.filter_cons]
    cases hname : Registry.templateName? f with
    | none =>
      rw [templateTexts_cons_of_none hname]
      exact ih
    | some own =>
      rw [templateTexts_cons_of_some hname, List.filter_cons, ih]
      by_cases hsame : own = name
      · simp [hsame, Registry.filesOf]
      · simp [hsame, Registry.filesOf]

theorem forall_template?_iff :
    (∀ f ∈ names, Registry.templateName? f ≠ none → disk.template? directory f ≠ none) ↔
      (∀ f ∈ names, Registry.templateName? f ≠ none →
        (disk.readText (Path.join directory f)).isOk = true) ∧
      ∀ row ∈ disk.templateTexts directory names, (Template.parse? row.2).isSome := by
  rw [forall_templateTexts]
  constructor
  · intro h
    refine ⟨fun f hf hname => isOk_of_template? (h f hf hname), fun f hf name hname => ?_⟩
    have hsome := h f hf (Option.ne_none_iff_exists'.mpr ⟨name, hname⟩)
    rw [template?_eq (isOk_of_template? hsome)] at hsome
    exact Option.isSome_iff_ne_none.mpr hsome
  · rintro ⟨hreads, hparse⟩ f hf hnamed
    obtain ⟨name, hname⟩ := Option.ne_none_iff_exists'.mp hnamed
    rw [template?_eq (hreads f hf hnamed)]
    exact Option.isSome_iff_ne_none.mp (hparse f hf name hname)

variable (disk directory) in
theorem templateTexts_perm {names' : List String} (h : names.Perm names') :
    (disk.templateTexts directory names).Perm (disk.templateTexts directory names') :=
  h.filterMap _

end Disk

namespace World

variable {network : Http.Network Id} {now directory : String} {world : World}

theorem run_list (names : List String) :
    world.run (liftM ((hostListing network now directory names).list directory) :
      Doing (StateM World) (Except Disk.IoError (List String))) = (.ok (.ok names), world) := by
  show (Except.ok (if directory = directory then _ else _), world) = _
  rw [if_pos rfl]

theorem templateSources_hostListing (order files : List String) :
    Generator.templateSources (hostListing network now directory order) directory files =
      Generator.templateSources (host network now) directory files := by
  induction files with
  | nil => rfl
  | cons f files ih =>
    rw [Generator.templateSources, Generator.templateSources, ih]
    rfl

theorem run_templateSources_cons {f name : String} (files : List String)
    (h : Registry.templateName? f = some name) :
    world.run (Generator.templateSources (host network now) directory (f :: files)) =
      match world.disk.readText (Path.join directory f) with
      | .ok text => world.run do
        let rest ← Generator.templateSources (host network now) directory files
        return (name, text) :: rest
      | .error cause => (.error (.io cause), world) := by
  rw [Generator.templateSources, h]
  dsimp only
  rw [run_bind, run_readText]
  cases world.disk.readText (Path.join directory f) with
  | ok text => rfl
  | error cause => rfl

/-- By induction on the files: those that hold no template are passed over. -/
theorem templateSources_ok_iff {files : List String} {texts : List (String × String)}
    {world' : World} :
    world.run (Generator.templateSources (host network now) directory files) =
        (.ok texts, world') ↔
      world' = world ∧ texts = world.disk.templateTexts directory files ∧
        ∀ f ∈ files, Registry.templateName? f ≠ none →
          (world.disk.readText (Path.join directory f)).isOk = true := by
  induction files generalizing texts world' with
  | nil =>
    constructor
    · intro h
      cases h
      exact ⟨rfl, rfl, fun f hf => nomatch hf⟩
    · rintro ⟨rfl, rfl, -⟩
      rfl
  | cons f files ih =>
    rw [List.forall_mem_cons]
    cases hname : Registry.templateName? f with
    | none =>
      rw [Generator.templateSources, hname, Disk.templateTexts_cons_of_none hname, ih]
      simp only [ne_eq, not_true_eq_false, false_implies, true_and]
    | some name =>
      have hnamed : some name ≠ none := Option.some_ne_none name
      rw [run_templateSources_cons files hname, Disk.templateTexts_cons_of_some hname, Disk.textIn]
      cases world.disk.readText (Path.join directory f) with
      | error cause =>
        refine iff_of_false (fun h => nomatch h) fun ⟨_, _, hread, _⟩ => ?_
        cases hread hnamed
      | ok text =>
        refine run_bind_ok.trans ⟨?_, ?_⟩
        · rintro ⟨rest, w, hrest, hdone⟩
          obtain ⟨rfl, rfl, hall⟩ := ih.mp hrest
          cases hdone
          exact ⟨rfl, rfl, fun _ => rfl, hall⟩
        · rintro ⟨rfl, rfl, -, hall⟩
          exact ⟨_, _, ih.mpr ⟨rfl, rfl, hall⟩, rfl⟩

theorem loadTemplates_ok_iff {names : List String} {registry : Registry} {world' : World} :
    world.run (Generator.loadTemplates (hostListing network now directory names) (some directory)) =
        (.ok registry, world') ↔
      world' = world ∧ (∀ f ∈ names, Registry.templateName? f ≠ none →
        world.disk.template? directory f ≠ none) ∧
        registry = .overlaid (world.disk.templateTexts directory names) := by
  rw [Generator.loadTemplates, World.run_bind, run_list]
  refine World.run_bind_ok.trans ⟨?_, ?_⟩
  · rintro ⟨texts, w, hsources, hoverride⟩
    rw [templateSources_hostListing] at hsources
    obtain ⟨rfl, rfl, hreads⟩ := templateSources_ok_iff.mp hsources
    obtain ⟨hoverride, rfl⟩ := Prod.ext_iff.mp hoverride
    obtain ⟨hparse, rfl⟩ := Registry.override_eq_ok_iff.mp hoverride
    exact ⟨rfl, Disk.forall_template?_iff.mpr ⟨hreads, hparse⟩, rfl⟩
  · rintro ⟨rfl, hall, rfl⟩
    obtain ⟨hreads, hparse⟩ := Disk.forall_template?_iff.mp hall
    have hoverride := Registry.override_eq_ok_iff.mpr ⟨hparse, rfl⟩
    have hsources : world'.run (Generator.templateSources (host network now) directory names) =
        (.ok _, world') := templateSources_ok_iff.mpr ⟨rfl, rfl, hreads⟩
    rw [← templateSources_hostListing names] at hsources
    exact ⟨_, _, hsources, Prod.ext hoverride rfl⟩

/-- The templates of a directory load if all its template files can be read as templates, and the
texts go on top of the built-in ones in the order of the listing. -/
theorem templates_eq_ok_iff {names : List String} {registry : Registry} :
    templates network now world directory names = .ok registry ↔
      (∀ f ∈ names, Registry.templateName? f ≠ none → world.disk.template? directory f ≠ none) ∧
        registry = .overlaid (world.disk.templateTexts directory names) := by
  rw [templates]
  constructor
  · intro h
    exact (loadTemplates_ok_iff.mp (Prod.ext h rfl)).2
  · intro h
    exact congrArg Prod.fst (loadTemplates_ok_iff.mpr ⟨rfl, h⟩)

/-- The host of a world lists a directory in one of these orders. -/
theorem templates_listed {listed : List String} (h : world.disk.list directory = .ok listed) :
    templates network now world directory listed =
      (world.run (Generator.loadTemplates (host network now) (some directory))).1 := by
  have hlist : world.run (liftM ((host network now).list directory) :
      Doing (StateM World) (Except Disk.IoError (List String))) = (.ok (.ok listed), world) :=
    congrArg (fun found => (Except.ok found, world)) h
  rw [templates, Generator.loadTemplates, Generator.loadTemplates, World.run_bind, World.run_bind,
    run_list, hlist]
  dsimp only
  rw [templateSources_hostListing]

/-- The template of a name is that of the last file listed for it; without files the built-in one
stays. -/
theorem lookup_templates {names : List String} {registry : Registry}
    (h : templates network now world directory names = .ok registry) (name : String) :
    registry.entries.lookup name =
      match (Registry.filesOf name names).getLast? with
      | some f => world.disk.template? directory f
      | none => Registry.builtin.entries.lookup name := by
  obtain ⟨hall, rfl⟩ := templates_eq_ok_iff.mp h
  rw [Registry.lookup_overlaid, Disk.filter_templateTexts, List.getLast?_map, Option.map_map]
  cases hlast : (Registry.filesOf name names).getLast? with
  | none => rfl
  | some f =>
    obtain ⟨hf, hname⟩ := Registry.mem_filesOf_iff.mp (List.mem_of_getLast? hlast)
    have hsome := hall f hf (Option.ne_none_iff_exists'.mpr ⟨name, hname⟩)
    exact (Disk.template?_eq_ofText hsome).symm

theorem exists_templates {names names' : List String} {registry : Registry}
    (h : templates network now world directory names = .ok registry) (horder : names'.Perm names) :
    ∃ registry', templates network now world directory names' = .ok registry' ∧
      registry'.names = registry.names := by
  obtain ⟨hall, rfl⟩ := templates_eq_ok_iff.mp h
  refine ⟨_, templates_eq_ok_iff.mpr ⟨fun f hf => hall f (horder.mem_iff.mp hf), rfl⟩, ?_⟩
  have hkeys := Registry.keys_overlaid
    ((world.disk.templateTexts_perm directory horder).map Prod.fst)
  exact congrArg Text.sorted hkeys

/-- The file listed last decides. -/
theorem lookup_of_last {front : List String} {f name : String} {registry : Registry}
    (h : templates network now world directory (front ++ [f]) = .ok registry)
    (hname : Registry.templateName? f = some name) :
    registry.entries.lookup name = world.disk.template? directory f := by
  have hlast : (Registry.filesOf name (front ++ [f])).getLast? = some f := by
    rw [Registry.filesOf, List.filter_append, List.filter_singleton]
    simp [hname]
  rw [lookup_templates h, hlast]

theorem Lists.perm {names names' : List String} (h : world.Lists directory names)
    (h' : world.Lists directory names') : names'.Perm names := by
  obtain ⟨listed, hlist, hperm⟩ := h
  obtain ⟨listed', hlist', hperm'⟩ := h'
  obtain rfl : listed = listed' := Except.ok.inj (hlist.symm.trans hlist')
  exact hperm'.trans hperm.symm

theorem Lists.of_perm {names names' : List String} (h : world.Lists directory names)
    (horder : names'.Perm names) : world.Lists directory names' := by
  obtain ⟨listed, hlist, hperm⟩ := h
  exact ⟨listed, hlist, horder.trans hperm⟩

variable {names : List String} {registry : Registry}

/-- Where files of one name render alike, the order of the listing does not show. -/
theorem render_templates_of_unambiguous (hfree : world.disk.Unambiguous directory names)
    (h : templates network now world directory names = .ok registry) {names' : List String}
    {registry' : Registry} (horder : names'.Perm names)
    (h' : templates network now world directory names' = .ok registry') (name : String)
    (context : Json) : registry'.render name context = registry.render name context := by
  have hfiles : (Registry.filesOf name names').Perm (Registry.filesOf name names) :=
    horder.filter _
  rw [Registry.render_eq_iff, lookup_templates h, lookup_templates h']
  by_cases hnone : Registry.filesOf name names = []
  · have hnone' : Registry.filesOf name names' = [] := (hnone ▸ hfiles).eq_nil
    rw [hnone, hnone']
  · have hsome : Registry.filesOf name names' ≠ [] := fun h => hnone (h ▸ hfiles.symm).eq_nil
    rw [List.getLast?_eq_some_getLast hnone, List.getLast?_eq_some_getLast hsome]
    obtain ⟨hf, hname⟩ := Registry.mem_filesOf_iff.mp (List.getLast_mem hnone)
    obtain ⟨hg, hname'⟩ := Registry.mem_filesOf_iff.mp
      (hfiles.mem_iff.mp (List.getLast_mem hsome))
    exact hfree _ hg _ hf name hname' hname context

/-- A file may be listed last; then its template is the one of its name. -/
theorem exists_templates_last (h : templates network now world directory names = .ok registry)
    {f name : String} (hf : f ∈ names) (hname : Registry.templateName? f = some name) :
    ∃ names' registry', names'.Perm names ∧
      templates network now world directory names' = .ok registry' ∧
      registry'.entries.lookup name = world.disk.template? directory f := by
  have horder : (names.erase f ++ [f]).Perm names :=
    (List.perm_append_singleton f _).trans (List.perm_cons_erase hf).symm
  obtain ⟨registry', h', -⟩ := exists_templates h horder
  exact ⟨_, registry', horder, h', lookup_of_last h' hname⟩

/-- The templates of a directory that load in one order of listing load in every order, by the same
names. All orders render alike exactly if the files of one name do: the one listed last counts. -/
theorem templates_of_order (hlists : world.Lists directory names)
    (hload : templates network now world directory names = .ok registry) :
    (∀ name, registry.entries.lookup name =
      match (Registry.filesOf name names).getLast? with
      | some f => world.disk.template? directory f
      | none => Registry.builtin.entries.lookup name) ∧
    (∀ names', world.Lists directory names' → ∃ registry',
      templates network now world directory names' = .ok registry' ∧
      registry'.names = registry.names) ∧
    ((∀ names' registry', world.Lists directory names' →
      templates network now world directory names' = .ok registry' →
      ∀ name context, registry'.render name context = registry.render name context) ↔
      world.disk.Unambiguous directory names) := by
  refine ⟨lookup_templates hload, fun names' hlists' => ?_, fun hsame => ?_,
    fun hfree names' registry' hlists' hload' => ?_⟩
  · exact exists_templates hload (hlists.perm hlists')
  · intro f hf g hg name hname hname' context
    have heither {f : String} (hf : f ∈ names) (hname : Registry.templateName? f = some name) :
        (world.disk.template? directory f).bind (·.render context) =
          (registry.entries.lookup name).bind (·.render context) := by
      obtain ⟨order, registry', horder, hload', hlast⟩ := exists_templates_last hload hf hname
      have hrender := hsame order registry' (hlists.of_perm horder) hload' name context
      rw [Registry.render_eq_iff, hlast] at hrender
      exact hrender
    rw [heither hf hname, heither hg hname']
  · exact render_templates_of_unambiguous hfree hload (hlists.perm hlists') hload'

/-- Two files for one template, and one that is none. -/
def stocked : World :=
  .ofDisk ⟨[(["home"], .directory), (["home", "t"], .directory),
    (["home", "t", "README.md"], .file "ignored".toUTF8),
    (["home", "t", "endpoint.tera"], .file "plain".toUTF8),
    (["home", "t", "endpoint.rs.tera"], .file "derived".toUTF8)], ["home"]⟩

theorem stocked_files :
    stocked.disk.list "t" = .ok ["README.md", "endpoint.tera", "endpoint.rs.tera"] ∧
      Registry.templateName? "README.md" = none ∧
      (Registry.filesOf "endpoint" ["README.md", "endpoint.tera", "endpoint.rs.tera"]).getLast? =
        some "endpoint.rs.tera" ∧
      ∀ row ∈ [("endpoint.tera", "plain"), ("endpoint.rs.tera", "derived")],
        Registry.templateName? row.1 = some "endpoint" ∧
          stocked.disk.readText (Path.join "t" row.1) = .ok row.2 ∧ row.2 ≠ "" ∧
          '\x7b' ∉ row.2.toList := by
  decide +kernel

theorem stocked_lists : stocked.Lists "t" ["README.md", "endpoint.tera", "endpoint.rs.tera"] :=
  ⟨_, stocked_files.1, .refl _⟩

theorem swapped_order : ["README.md", "endpoint.rs.tera", "endpoint.tera"].Perm
    ["README.md", "endpoint.tera", "endpoint.rs.tera"] :=
  (List.Perm.swap _ _ []).cons _

theorem stocked_template? : ∀ row ∈ [("endpoint.tera", "plain"), ("endpoint.rs.tera", "derived")],
    stocked.disk.template? "t" row.1 = some [.text row.2] := by
  intro row hrow
  obtain ⟨-, hread, hne, hplain⟩ := stocked_files.2.2.2 row hrow
  rw [Disk.template?, hread]
  exact Template.parse?_plain hne hplain

theorem stocked_templates {order : List String}
    (horder : order.Perm ["README.md", "endpoint.tera", "endpoint.rs.tera"]) :
    ∃ registry, templates (fun _ => none) "" stocked "t" order = .ok registry := by
  refine ⟨_, templates_eq_ok_iff.mpr ⟨fun f hf hname => ?_, rfl⟩⟩
  have hmem := horder.mem_iff.mp hf
  simp only [List.mem_cons, List.not_mem_nil, or_false] at hmem
  rcases hmem with rfl | rfl | rfl
  · exact absurd stocked_files.2.1 hname
  · rw [stocked_template? ("endpoint.tera", "plain") (by simp)]
    exact Option.some_ne_none _
  · rw [stocked_template? ("endpoint.rs.tera", "derived") (by simp)]
    exact Option.some_ne_none _

theorem templates_of_order_stocked : ∃ registry registry',
    templates (fun _ => none) "" stocked "t" ["README.md", "endpoint.tera", "endpoint.rs.tera"] =
      .ok registry ∧
    registry.entries.lookup "endpoint" = some [.text "derived"] ∧
    templates (fun _ => none) "" stocked "t" ["README.md", "endpoint.rs.tera", "endpoint.tera"] =
      .ok registry' ∧
    registry'.names = registry.names := by
  obtain ⟨registry, hload⟩ := stocked_templates (.refl _)
  obtain ⟨hlast, horders, -⟩ := templates_of_order stocked_lists hload
  obtain ⟨registry', hload', hnames⟩ := horders _ (stocked_lists.of_perm swapped_order)
  refine ⟨registry, registry', hload, ?_, hload', hnames⟩
  rw [hlast, stocked_files.2.2.1]
  exact stocked_template? ("endpoint.rs.tera", "derived") (by simp)

theorem stocked_render (front : List String) (row : String × String)
    (horder : (front ++ [row.1]).Perm ["README.md", "endpoint.tera", "endpoint.rs.tera"])
    (hrow : row ∈ [("endpoint.tera", "plain"), ("endpoint.rs.tera", "derived")]) :
    ∃ registry, templates (fun _ => none) "" stocked "t" (front ++ [row.1]) = .ok registry ∧
      registry.render "endpoint" (.object []) = .ok row.2 := by
  obtain ⟨registry, hload⟩ := stocked_templates horder
  refine ⟨registry, hload, ?_⟩
  rw [Registry.render, lookup_of_last hload (stocked_files.2.2.2 row hrow).1,
    stocked_template? row hrow, Option.bind_some, Template.render_text]

/-- Two orders of one directory give two texts. -/
theorem stocked_renders_by_order :
    stocked.Lists "t" ["README.md", "endpoint.tera", "endpoint.rs.tera"] ∧
    stocked.Lists "t" ["README.md", "endpoint.rs.tera", "endpoint.tera"] ∧
    ∃ registry registry',
      templates (fun _ => none) "" stocked "t" ["README.md", "endpoint.tera", "endpoint.rs.tera"] =
        .ok registry ∧
      templates (fun _ => none) "" stocked "t" ["README.md", "endpoint.rs.tera", "endpoint.tera"] =
        .ok registry' ∧
      registry.render "endpoint" (.object []) = .ok "derived" ∧
      registry'.render "endpoint" (.object []) = .ok "plain" := by
  obtain ⟨registry, hload, hderived⟩ := stocked_render ["README.md", "endpoint.tera"]
    ("endpoint.rs.tera", "derived") (.refl _) (by simp)
  obtain ⟨registry', hload', hplain⟩ := stocked_render ["README.md", "endpoint.rs.tera"]
    ("endpoint.tera", "plain") swapped_order (by simp)
  exact ⟨stocked_lists, stocked_lists.of_perm swapped_order, registry, registry', hload, hload',
    hderived, hplain⟩

end World

end ClientForge
