import ClientForge.Config.File
import ClientForge.Proofs.Outcome
import Mathlib.Data.List.Nodup

/-!
Selections of scopes, one after another on the same settings. A selection that fails does not keep
the next one from being made, on what the ones before it have left.

Results:
1. `validate_eq_ok_iff`: what settings are checked for; `parse_valid`: those of a file have been.
2. `selection_selects`: everything that a selection can do.
3. `afterSelections_narrows`: what a sequence of selections leaves, whichever of them fail.
4. `parse_selections`: these together, for the settings of a file.
-/

namespace ClientForge.Config

/-! ## Definitions -/

def scopeNames (config : Config) : List String := config.scopes.map (·.name)

/-- There is a scope, and every one has a name of its own that is not blank. -/
structure Valid (config : Config) : Prop where
  inhabited : config.scopes ≠ []
  named : ∀ scope ∈ config.scopes, (Text.trim scope.name).isEmpty = false
  distinct : config.scopeNames.Nodup

/-- `scope` is the one scope of that name. -/
def Identifies (config : Config) (name : String) (scope : ScopeConfig) : Prop :=
  ∀ other, other ∈ config.scopes ∧ other.name = name ↔ other = scope

/-- What a selection makes of the settings, and what comes of it. -/
inductive Selects (before : Config) : List String → Except Failure Unit → Config → Prop
  | all : Selects before [] (.ok ()) before
  | unknown {known rest : List String} {name : String} :
      (∀ n ∈ known, n ∈ before.scopeNames) → name ∉ before.scopeNames →
      Selects before (known ++ name :: rest) (.error (.configuration (.unknownScope name))) before
  | named {names : List String} {scopes : List ScopeConfig} : names ≠ [] →
      List.Forall₂ (fun name scope => scope ∈ before.scopes ∧ scope.name = name) names scopes →
      Selects before names (.ok ()) { before with scopes }

/-- The scopes of `config` are scopes of `original`, and nothing else has changed. -/
structure Narrows (original config : Config) : Prop where
  inhabited : config.scopes ≠ []
  declared : ∀ scope ∈ config.scopes, scope ∈ original.scopes
  elsewhere : { config with scopes := original.scopes } = original

/-- A selection that was made: the settings before and after it, and what came of it. -/
structure Selection where
  before : Config
  requested : List String
  outcome : Except Failure Unit
  after : Config

def selection (config : Config) (requested : List String) : Selection where
  before := config
  requested := requested
  outcome := ((selectScopes requested).run.run config).1
  after := ((selectScopes requested).run.run config).2

/-- What is left after selections, made whether those before succeed or not. -/
def afterSelections (config : Config) (requests : List (List String)) : Config :=
  requests.foldl (fun c names => (c.selection names).after) config

/-- A selection fails if there is a name without a scope, with the first of these, and then nothing
has changed; else it puts the scope of every name in the place of the name. -/
structure Selection.Exact (s : Selection) : Prop where
  fails_iff : (∃ e, s.outcome = .error e) ↔ ∃ name ∈ s.requested, name ∉ s.before.scopeNames
  blamed : ∀ e, s.outcome = .error e → ∃ known name rest, s.requested = known ++ name :: rest ∧
    (∀ n ∈ known, n ∈ s.before.scopeNames) ∧ name ∉ s.before.scopeNames ∧
      e = .configuration (.unknownScope name)
  failed : ∀ e, s.outcome = .error e → s.after = s.before
  unasked : s.requested = [] → s.after = s.before
  chosen : s.outcome = .ok () → s.requested ≠ [] →
    List.Forall₂ s.before.Identifies s.requested s.after.scopes

/-! ## Valid settings -/

theorem scopeFault?_eq_none_iff (seen : List String) (scopes : List ScopeConfig) :
    scopeFault? seen scopes = none ↔
      (∀ scope ∈ scopes, (Text.trim scope.name).isEmpty = false) ∧
        (∀ scope ∈ scopes, scope.name ∉ seen) ∧ (scopes.map (·.name)).Nodup := by
  induction scopes generalizing seen with
  | nil => simp [scopeFault?]
  | cons scope rest ih =>
    rw [scopeFault?]
    split
    · next hblank =>
      refine iff_of_false (fun h => nomatch h) fun ⟨hnamed, _⟩ => ?_
      rw [hnamed scope List.mem_cons_self] at hblank
      cases hblank
    · next hnamed =>
      split
      · next hseen =>
        refine iff_of_false (fun h => nomatch h) fun ⟨_, hfresh, _⟩ => ?_
        exact hfresh scope List.mem_cons_self (List.contains_iff_mem.mp hseen)
      · next hfresh =>
        rw [ih]
        simp only [List.mem_cons, not_or, List.map_cons, List.nodup_cons, List.mem_map, not_exists,
          not_and]
        grind

theorem validate_eq_ok_iff {config accepted : Config} :
    config.validate = .ok accepted ↔ accepted = config ∧ config.Valid := by
  rw [validate]
  split
  · next hempty =>
    refine iff_of_false (fun h => nomatch h) fun ⟨_, hvalid⟩ => ?_
    exact hvalid.inhabited (List.isEmpty_iff.mp hempty)
  · next hinhabited =>
    have hfault := scopeFault?_eq_none_iff [] config.scopes
    cases h : scopeFault? [] config.scopes with
    | some fault =>
      refine iff_of_false (fun h => nomatch h) fun ⟨_, hvalid⟩ => ?_
      have hnone := hfault.mpr ⟨hvalid.named, fun _ _ => List.not_mem_nil, hvalid.distinct⟩
      rw [h] at hnone
      cases hnone
    | none =>
      obtain ⟨hnamed, _, hdistinct⟩ := hfault.mp h
      rw [Except.ok.injEq, eq_comm]
      exact (and_iff_left ⟨by simpa using hinhabited, hnamed, hdistinct⟩).symm

example : standard.validate = .ok standard := by decide +kernel

theorem parse_valid {source : String} {config : Config} (h : parse source = .ok config) :
    config.Valid := by
  unfold parse at h
  split at h
  · obtain ⟨rfl, hvalid⟩ := validate_eq_ok_iff.mp h
    exact hvalid
  · cases h

theorem Valid.unambiguous {config : Config} (h : config.Valid) {s t : ScopeConfig}
    (hs : s ∈ config.scopes) (ht : t ∈ config.scopes) (hname : s.name = t.name) : s = t :=
  List.inj_on_of_nodup_map h.distinct hs ht hname

/-! ## One selection -/

theorem mem_scopeNames_iff {config : Config} {name : String} :
    name ∈ config.scopeNames ↔ ∃ scope ∈ config.scopes, scope.name = name :=
  List.mem_map

theorem scopeNamed_ok {config : Config} {name : String} {scope : ScopeConfig}
    (h : config.scopeNamed name = .ok scope) : scope ∈ config.scopes ∧ scope.name = name := by
  unfold scopeNamed at h
  split at h
  · next hfound =>
    cases h
    exact ⟨List.mem_of_find?_eq_some hfound, by simpa using List.find?_some hfound⟩
  · cases h

theorem scopeNamed_error {config : Config} {name : String} {e : Failure}
    (h : config.scopeNamed name = .error e) :
    name ∉ config.scopeNames ∧ e = .configuration (.unknownScope name) := by
  unfold scopeNamed at h
  split at h
  · cases h
  · next hnone =>
    cases h
    refine ⟨fun hmem => ?_, rfl⟩
    obtain ⟨scope, hscope, hname⟩ := mem_scopeNames_iff.mp hmem
    exact List.find?_eq_none.mp hnone scope hscope (beq_iff_eq.mpr hname)

theorem selectScopes_cons (config : Config) (name : String) (rest : List String) :
    (selectScopes (name :: rest)).run.run config =
      match config.scopesNamed (name :: rest) with
      | .ok scopes => (.ok (), { config with scopes })
      | .error e => (.error e, config) := by
  change (liftM (config.scopesNamed (name :: rest)) >>= fun scopes =>
    set { config with scopes } : ExceptT Failure (StateM Config) Unit).run.run config = _
  cases config.scopesNamed (name :: rest) with
  | ok scopes => rfl
  | error e => rfl

theorem selection_selects (config : Config) (requested : List String) :
    Selects config requested (config.selection requested).outcome
      (config.selection requested).after := by
  cases requested with
  | nil => exact .all
  | cons name rest =>
    rw [selection, selectScopes_cons]
    cases h : config.scopesNamed (name :: rest) with
    | ok scopes =>
      refine .named (List.cons_ne_nil _ _) ?_
      exact (Outcome.mapM_eq_ok_iff.mp h).imp fun _ _ => scopeNamed_ok
    | error e =>
      obtain ⟨known, unknown, later, hsplit, hknown, hunknown⟩ := Outcome.mapM_eq_error_iff.mp h
      obtain ⟨hnone, rfl⟩ := scopeNamed_error hunknown
      rw [hsplit]
      refine .unknown (fun n hn => ?_) hnone
      obtain ⟨scope, hscope⟩ := hknown n hn
      exact mem_scopeNames_iff.mpr ⟨scope, scopeNamed_ok hscope⟩

section

variable {original before after : Config} {names : List String} {outcome : Except Failure Unit}

theorem Selects.fails_iff (h : Selects before names outcome after) :
    (∃ e, outcome = .error e) ↔ ∃ name ∈ names, name ∉ before.scopeNames := by
  cases h with
  | all => simp
  | @unknown known rest name _ hunknown =>
    exact iff_of_true ⟨_, rfl⟩ ⟨name, by simp, hunknown⟩
  | @named _ scopes _ hscopes =>
    have hknown : ∀ name ∈ names, name ∈ before.scopeNames :=
      ((List.forall₂_and_left names scopes).mp
        (hscopes.imp fun name scope h => ⟨mem_scopeNames_iff.mpr ⟨scope, h⟩, h⟩)).1
    exact iff_of_false (fun ⟨_, h⟩ => nomatch h)
      fun ⟨name, hname, hunknown⟩ => hunknown (hknown name hname)

theorem Selects.failed {e : Failure} (h : Selects before names (.error e) after) :
    after = before := by
  cases h with
  | unknown _ _ => rfl

theorem Selects.blamed {e : Failure} (h : Selects before names (.error e) after) :
    ∃ known name rest, names = known ++ name :: rest ∧ (∀ n ∈ known, n ∈ before.scopeNames) ∧
      name ∉ before.scopeNames ∧ e = .configuration (.unknownScope name) := by
  cases h with
  | unknown hknown hunknown => exact ⟨_, _, _, rfl, hknown, hunknown, rfl⟩

theorem Selects.unasked (h : Selects before names outcome after) (hnone : names = []) :
    after = before := by
  cases h with
  | all => rfl
  | unknown _ _ => rfl
  | named hsome _ => exact absurd hnone hsome

theorem Selects.chosen (h : Selects before names (.ok ()) after) (hsome : names ≠ []) :
    List.Forall₂ (fun name scope => scope ∈ before.scopes ∧ scope.name = name) names
      after.scopes := by
  cases h with
  | all => exact absurd rfl hsome
  | named _ hscopes => exact hscopes

theorem Narrows.refl (h : original.scopes ≠ []) : Narrows original original :=
  ⟨h, fun _ h => h, rfl⟩

theorem Narrows.trans (h : Narrows original before) (h' : Narrows before after) :
    Narrows original after := by
  refine ⟨h'.inhabited, fun scope hscope => h.declared scope (h'.declared scope hscope), ?_⟩
  have helsewhere := h.elsewhere
  rw [← h'.elsewhere] at helsewhere
  exact helsewhere

theorem Narrows.scopeNames_subset (h : Narrows before after) :
    after.scopeNames ⊆ before.scopeNames :=
  List.map_subset _ h.declared

theorem Selects.narrows (h : Selects before names outcome after) (hbefore : before.scopes ≠ []) :
    Narrows before after := by
  cases h with
  | all => exact .refl hbefore
  | unknown _ _ => exact .refl hbefore
  | @named _ scopes hnames hscopes =>
    refine ⟨fun hempty => hnames ?_, ?_, rfl⟩
    · obtain rfl : scopes = [] := hempty
      exact List.forall₂_nil_right_iff.mp hscopes
    · have hflipped := List.Forall₂.flip (R := fun scope name =>
        scope ∈ before.scopes ∧ scope.name = name) hscopes
      exact ((List.forall₂_and_left scopes names).mp hflipped).1

theorem selection_exact (horiginal : original.Valid) (h : Narrows original before)
    (requested : List String) : (before.selection requested).Exact := by
  have hselects := selection_selects before requested
  refine ⟨hselects.fails_iff, fun e herror => ?_, fun e herror => ?_, fun hnone => ?_,
    fun hok hsome => ?_⟩
  · rw [herror] at hselects
    exact hselects.blamed
  · rw [herror] at hselects
    exact hselects.failed
  · exact hselects.unasked hnone
  · -- the scope that was found is the only one of its name, as the names were distinct at first
    rw [hok] at hselects
    refine (hselects.chosen hsome).imp fun name scope hscope other => ?_
    constructor
    · intro hother
      exact horiginal.unambiguous (h.declared other hother.1) (h.declared scope hscope.1)
        (hother.2.trans hscope.2.symm)
    · rintro rfl
      exact hscope

end

/-! ## A sequence of selections -/

theorem afterSelections_append (config : Config) (earlier later : List (List String)) :
    config.afterSelections (earlier ++ later) =
      (config.afterSelections earlier).afterSelections later :=
  List.foldl_append

/-- By induction on the selections: each one narrows what the ones before it have left. -/
theorem afterSelections_narrows {config : Config} (h : config.scopes ≠ [])
    (requests : List (List String)) : Narrows config (config.afterSelections requests) := by
  induction requests generalizing config with
  | nil => exact .refl h
  | cons requested requests ih =>
    have hfirst := (selection_selects config requested).narrows h
    exact hfirst.trans (ih hfirst.inhabited)

/-- Selections on the settings of a file, in any sequence: the next one is exact, what is there at any
time are declared scopes, and a name that went does not come back. -/
theorem parse_selections {source : String} {config : Config} (accepted : parse source = .ok config)
    (earlier later : List (List String)) (requested : List String) :
    ((config.afterSelections earlier).selection requested).Exact ∧
      Narrows config (config.afterSelections earlier) ∧
      (config.afterSelections (earlier ++ later)).scopeNames ⊆
        (config.afterSelections earlier).scopeNames := by
  have hvalid := parse_valid accepted
  have hearlier := afterSelections_narrows hvalid.inhabited earlier
  refine ⟨selection_exact hvalid hearlier requested, hearlier, ?_⟩
  rw [afterSelections_append]
  exact (afterSelections_narrows hearlier.inhabited later).scopeNames_subset

def threeSettings : String :=
  "file_extension = \"txt\"\n" ++
    "scopes = [[\"a\", \"/a\", \"\"], [\"b\", \"/b\", \"\"], [\"c\", \"/c\", \"\"]]"

def threeConfig : Config :=
  { standard with
    fileExtension := "txt"
    scopes := [⟨"a", "/a", ""⟩, ⟨"b", "/b", ""⟩, ⟨"c", "/c", ""⟩] }

/-- A selection that fails at its second name, one with a name twice, and one of no names. -/
def partlyFailing : List (List String) := [["b", "d", "a"], ["c", "a", "c"], []]

/-- After these the scope `b` is gone, and a selection that starts with another one fails. -/
theorem parse_selections_partly_failing :
    parse threeSettings = .ok threeConfig ∧
      (threeConfig.afterSelections partlyFailing).scopeNames = ["c", "a", "c"] ∧
      ((threeConfig.afterSelections partlyFailing).selection ["a", "b"]).outcome =
        .error (.configuration (.unknownScope "b")) ∧
      ((threeConfig.afterSelections partlyFailing).selection ["a", "b"]).Exact ∧
      Narrows threeConfig (threeConfig.afterSelections partlyFailing) ∧
      (threeConfig.afterSelections (partlyFailing ++ [["a", "b"], ["a"]])).scopeNames ⊆
        (threeConfig.afterSelections partlyFailing).scopeNames := by
  have haccepted : parse threeSettings = .ok threeConfig := by decide +kernel
  exact ⟨haccepted, by decide +kernel, by decide +kernel,
    parse_selections haccepted partlyFailing [["a", "b"], ["a"]] ["a", "b"]⟩

end ClientForge.Config
