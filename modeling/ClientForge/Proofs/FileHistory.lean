import ClientForge.Proofs.OutputDirectory
import ClientForge.Proofs.Rerun
import Mathlib.Data.List.DropRight

/-!
What files hold after any sequence of steps, when a step that fails does not keep the next one from
being tried, and at every step the files may take all that is written to them or not.

A step that fails before its file is open changes no file. Once the file is open it has been made or
emptied, and what is taken of the text stays there when the transfer breaks off. So the content of a
file is always told by what it took: the last bytes that replaced it, and behind them those appended
since. It is told by the writes that succeeded alone where every write that broke off has been made
good by a later replacement.

Results:
1. `contentAfter_concat`: one more write makes of that content what it makes of a file.
2. `afterAttempts_file?`: so the files after a sequence of steps are told by what they took.
3. `contentAfter_unbroken`: what broke off has no part in a file that was replaced later.
4. `Attempt.breaksOff_iff`, `attempts_sound`: where all that is written is taken, nothing breaks off.
5. `Rooted.above`, `afterAttempts_rooted`: files lie in directories, all the way up.
6. `attempts_keep_files`: these together, with what every single step leaves alone.
-/

namespace ClientForge

open Codegen

/-! ## Definitions -/

/-- The content of a file after writes, from what it held at first: the bytes that replaced it last,
and behind them those appended since. A file that was not there and was not written is none. -/
def Disk.contentAfter (initial : Option ByteArray) (writes : List (Mode × ByteArray)) :
    Option ByteArray :=
  if writes.isEmpty then initial
  else
    let start := match (writes.rdropWhile fun w => w.1 = .append).getLast? with
      | some w => w.2
      | none => initial.getD .empty
    some (((writes.rtakeWhile fun w => w.1 = .append).map (·.2)).foldl (· ++ ·) start)

/-- Every entry lies in a directory. -/
def Disk.Rooted (disk : Disk) : Prop :=
  ∀ place name, (disk.entry? (place ++ [name])).isSome → disk.entry? place = some .directory

/-- The path that a step is about. -/
def Codegen.Step.path? : Step → Option String
  | .warn _ => none
  | .ensureDirectory path => some path
  | .write _ path _ => some path

/-- The place of the file that a step is to write, whether it can be opened or not. -/
def Codegen.Step.target? (working : Disk.Place) : Step → Option Disk.Place
  | .warn _ => none
  | .ensureDirectory _ => none
  | .write _ path _ => some (Disk.target working path)

/-- A step to be tried, and the medium that it finds. -/
structure Trial where
  medium : Disk.Medium
  step : Step

/-- A try at a step: the worlds before and after it, and what came of it. -/
structure Attempt where
  before : World
  step : Step
  outcome : Except Failure Unit
  after : World
  performed : before.perform step = (outcome, after)

namespace Attempt

def target? (a : Attempt) : Option Disk.Place := a.step.target? a.before.disk.working

/-- The place of the file that the step opened. -/
def opened? (a : Attempt) : Option Disk.Place := a.step.opened? a.before.disk

/-- What the file at a place took, if the step opened it. -/
def taken? (place : Disk.Place) (a : Attempt) : Option (Disk.Mode × ByteArray) :=
  match a.step with
  | .write mode _ text =>
    if a.opened? = some place then some (mode, a.before.medium.takes place text) else none
  | .ensureDirectory _ => none
  | .warn _ => none

/-- What was written to a place by a step that succeeded. -/
def write? (place : Disk.Place) (a : Attempt) : Option (Disk.Mode × ByteArray) :=
  match a.outcome, a.step with
  | .ok (), .write mode path text =>
    if place = Disk.target a.before.disk.working path then some (mode, text.toUTF8) else none
  | _, _ => none

/-- The step opened the file at a place and failed all the same. -/
def BreaksOff (place : Disk.Place) (a : Attempt) : Prop :=
  a.opened? = some place ∧ a.outcome.isOk = false

instance (place : Disk.Place) (a : Attempt) : Decidable (a.BreaksOff place) :=
  inferInstanceAs (Decidable (_ ∧ _))

/-- The step succeeded in replacing the file at a place. -/
def replaces (place : Disk.Place) (a : Attempt) : Bool :=
  match a.write? place with
  | some (.replace, _) => true
  | _ => false

/-- Since the file at a place was last replaced, no write to it broke off. -/
def Unbroken (place : Disk.Place) (as : List Attempt) : Prop :=
  ∀ a ∈ as.rtakeWhile (fun a => !a.replaces place), ¬ a.BreaksOff place

instance (place : Disk.Place) (as : List Attempt) : Decidable (Unbroken place as) :=
  inferInstanceAs (Decidable (∀ a ∈ as.rtakeWhile _, _))

end Attempt

namespace World

/-- Tries a step on the medium that it finds. -/
def attempt (world : World) (trial : Trial) : Attempt :=
  let found := { world with medium := trial.medium }
  ⟨found, trial.step, (found.perform trial.step).1, (found.perform trial.step).2, rfl⟩

/-- Tries steps one after another, whether those before succeed or not. -/
def attempts (world : World) : List Trial → List Attempt
  | [] => []
  | trial :: rest => world.attempt trial :: (world.attempt trial).after.attempts rest

def afterAttempts (world : World) (trials : List Trial) : World :=
  trials.foldl (fun w trial => (w.attempt trial).after) world

end World

/-! ## Contents -/

namespace Disk

/-- One more write makes of the content what it makes of a file. -/
theorem contentAfter_concat (initial : Option ByteArray) (writes : List (Mode × ByteArray))
    (mode : Mode) (bytes : ByteArray) :
    contentAfter initial (writes ++ [(mode, bytes)]) =
      some (mode.result (contentAfter initial writes) bytes) := by
  cases mode with
  | replace =>
    have hkept : (writes ++ [(Mode.replace, bytes)]).rdropWhile (fun w => w.1 = .append) =
        writes ++ [(.replace, bytes)] := List.rdropWhile_concat_neg _ _ _ (by simp)
    have hsince : (writes ++ [(Mode.replace, bytes)]).rtakeWhile (fun w => w.1 = .append) = [] :=
      List.rtakeWhile_concat_neg _ _ _ (by simp)
    simp [contentAfter, hkept, hsince, Mode.result, Mode.kept]
  | append =>
    have hkept : (writes ++ [(Mode.append, bytes)]).rdropWhile (fun w => w.1 = .append) =
        writes.rdropWhile fun w => w.1 = .append := List.rdropWhile_concat_pos _ _ _ (by simp)
    have hsince : (writes ++ [(Mode.append, bytes)]).rtakeWhile (fun w => w.1 = .append) =
        writes.rtakeWhile (fun w => w.1 = .append) ++ [(.append, bytes)] :=
      List.rtakeWhile_concat_pos _ _ _ (by simp)
    cases hwrites : writes.isEmpty with
    | true =>
      obtain rfl := List.isEmpty_iff.mp hwrites
      simp [contentAfter, Mode.result, Mode.kept, List.rdropWhile, List.rtakeWhile]
    | false =>
      simp [contentAfter, hkept, hsince, hwrites, Mode.result, Mode.kept]

/-! ## Directories above a file -/

/-- A directory has directories above it, all the way up. -/
theorem Rooted.directory_above {disk : Disk} (h : disk.Rooted) {place above : Place}
    (hplace : disk.entry? place = some .directory) (habove : above <+: place) :
    disk.entry? above = some .directory := by
  induction place using List.reverseRecOn with
  | nil => rwa [List.prefix_nil.mp habove]
  | append_singleton place name ih =>
    rcases List.prefix_concat_iff.mp habove with rfl | habove
    · exact hplace
    · exact ih (h place name (by rw [hplace]; rfl)) habove

/-- What is there lies in directories, up to the root. -/
theorem Rooted.above {disk : Disk} (h : disk.Rooted) {place above : Place}
    (hplace : (disk.entry? place).isSome) (habove : above <+: place) (hne : above ≠ place) :
    disk.entry? above = some .directory := by
  cases place using List.reverseRecOn with
  | nil => exact absurd (List.prefix_nil.mp habove) hne
  | append_singleton parent name =>
    have hparent := h parent name hplace
    exact h.directory_above hparent ((List.prefix_concat_iff.mp habove).resolve_left hne)

/-- What is put into a directory, and nothing else, is new. -/
theorem Rooted.put {disk : Disk} (h : disk.Rooted) {place : Place} {name : String} {entry : Entry}
    (hplace : disk.entry? place = some .directory)
    (hgrows : Grows disk (disk.put (place ++ [name]) entry)) :
    (Disk.put disk (place ++ [name]) entry).Rooted := by
  intro parent child hchild
  refine hgrows.directory parent ?_
  rw [entry?_put (by simp)] at hchild
  split at hchild
  · next hsame =>
    obtain ⟨rfl, _⟩ := List.append_inj' hsame rfl
    exact hplace
  · exact h parent child hchild

theorem makeDirectory_rooted {disk disk' : Disk} {path : String}
    (hmade : disk.makeDirectory path = .ok disk') (h : disk.Rooted) : disk'.Rooted := by
  have hgrows := makeDirectory_grows hmade
  obtain ⟨place, name, hslot, _, _, _, _, rfl⟩ := makeDirectory_ok hmade
  exact h.put (slot_eq_ok_iff.mp hslot).2.2.1 hgrows

theorem ensureDirectory_rooted {disk : Disk} (h : disk.Rooted) (path : String) :
    (disk.ensureDirectory path).1.Rooted :=
  makeDirectories_preserves (R := fun a b => a.Rooted → b.Rooted) (fun _ => id)
    (fun hab hbc => hbc ∘ hab) makeDirectory_rooted _ disk path h

theorem makeParents_rooted {disk : Disk} (h : disk.Rooted) (path : String) :
    (disk.makeParents path).1.Rooted := by
  unfold makeParents
  split
  · exact ensureDirectory_rooted h _
  · exact h

theorem openIn_rooted {disk opened : Disk} {mode : Mode} {path : String} {place : Place}
    (hopened : disk.openIn mode path = .ok (opened, place)) (h : disk.Rooted) : opened.Rooted := by
  have hgrows := openIn_grows hopened
  obtain ⟨parent, name, hslot, _, _, rfl, _, rfl⟩ := openIn_ok_iff.mp hopened
  exact h.put (slot_eq_ok_iff.mp hslot).2.2.1 hgrows

theorem openFile_rooted {disk : Disk} (h : disk.Rooted) (mode : Mode) (path : String) :
    (disk.openFile mode path).1.Rooted := by
  have hparents := makeParents_rooted h path
  unfold openFile
  split
  · next hfailed => rwa [hfailed] at hparents
  · next hmade =>
    rw [hmade] at hparents
    split
    · next hopened => exact openIn_rooted hopened hparents
    · exact hparents

theorem write_rooted {disk : Disk} (h : disk.Rooted) (medium : Medium) (mode : Mode)
    (path text : String) : (disk.write medium mode path text).1.Rooted := by
  have hopen := openFile_rooted h mode path
  unfold write
  split
  · next hfailed => rwa [hfailed] at hopen
  · next opened place hopened =>
    rw [hopened] at hopen
    have hgrows := transfer_grows hopened medium text
    obtain ⟨hne, hfile⟩ := openFile_entry hopened
    obtain ⟨content, hentry⟩ := file?_isSome_iff.mp hfile
    obtain ⟨parent, name, rfl⟩ := (List.eq_nil_or_concat place).resolve_left hne
    rw [List.concat_eq_append] at hgrows hentry ⊢
    exact hopen.put (hopen parent name (by rw [hentry]; rfl)) hgrows

end Disk

/-! ## Single attempts -/

namespace Attempt

/-- What an attempt can come to. It opens no file and changes none; or it is a write whose file gets
what the medium takes, and it ends as the medium has it. -/
theorem cases (a : Attempt) :
    a.opened? = none ∧ a.before.disk.SameFiles a.after.disk ∨
    ∃ mode path text, a.step = .write mode path text ∧
      a.opened? = some (Disk.target a.before.disk.working path) ∧
      a.outcome = (a.before.medium.outcome (Disk.target a.before.disk.working path)).mapError
        (.unwritable path) ∧
      ∀ place, a.after.disk.file? place =
        if place = Disk.target a.before.disk.working path then
          some (mode.result (a.before.disk.file? place) (a.before.medium.takes place text))
        else a.before.disk.file? place := by
  obtain ⟨before, step, outcome, after, performed⟩ := a
  cases step with
  | warn w =>
    cases performed
    exact .inl ⟨rfl, .refl _⟩
  | ensureDirectory path =>
    cases performed
    exact .inl ⟨rfl, Disk.ensureDirectory_sameFiles before.disk path⟩
  | write mode path text =>
    rw [World.perform, World.store] at performed
    rcases Disk.write_cases before.disk before.medium mode path text with
      ⟨disk, e, hclosed, same, hwrite⟩ | ⟨disk, hopened, _, hfiles, hwrite⟩
    · rw [hwrite] at performed
      cases performed
      exact .inl ⟨hclosed, same⟩
    · rw [hwrite] at performed
      cases performed
      exact .inr ⟨mode, path, text, rfl, hopened, rfl, hfiles⟩

variable {a : Attempt} {place : Disk.Place}

theorem opened?_target (h : a.opened? = some place) : a.target? = some place := by
  rw [opened?] at h
  rw [target?]
  cases hstep : a.step with
  | warn w =>
    rw [hstep] at h
    cases h
  | ensureDirectory path =>
    rw [hstep] at h
    cases h
  | write mode path text =>
    rw [hstep] at h
    exact congrArg some (Disk.opened?_target h).symm

/-- A write that succeeds has opened its file, which took everything. -/
theorem write_ok {mode : Disk.Mode} {path text : String} (hstep : a.step = .write mode path text)
    (h : a.outcome = .ok ()) :
    a.opened? = some (Disk.target a.before.disk.working path) ∧
      a.before.medium.outcome (Disk.target a.before.disk.working path) = .ok () := by
  have performed := a.performed
  rw [hstep, h] at performed
  rw [opened?, hstep]
  exact Disk.write_ok (World.store_ok performed).1

theorem opened?_of_ok (h : a.outcome = .ok ()) : a.opened? = a.target? := by
  cases hstep : a.step with
  | warn w => rw [opened?, target?, hstep]; rfl
  | ensureDirectory path => rw [opened?, target?, hstep]; rfl
  | write mode path text =>
    rw [(write_ok hstep h).1, target?, hstep]
    rfl

theorem taken?_eq_none (h : a.opened? ≠ some place) : a.taken? place = none := by
  unfold taken?
  split
  · exact if_neg h
  · rfl
  · rfl

/-- An attempt makes of a file what the file takes. -/
theorem file?_after (a : Attempt) (place : Disk.Place) :
    a.after.disk.file? place =
      match a.taken? place with
      | some (mode, bytes) => some (mode.result (a.before.disk.file? place) bytes)
      | none => a.before.disk.file? place := by
  rcases a.cases with ⟨hclosed, same⟩ | ⟨mode, path, text, hstep, hopened, _, hfiles⟩
  · rw [taken?_eq_none (by rw [hclosed]; simp)]
    exact same.file? place
  · rw [hfiles]
    by_cases hplace : place = Disk.target a.before.disk.working path
    · rw [← hplace] at hopened
      rw [if_pos hplace, taken?, hstep]
      dsimp only
      rw [if_pos hopened]
    · have hother : a.opened? ≠ some place := by
        rw [hopened]
        exact fun h => hplace (Option.some.inj h).symm
      rw [if_neg hplace, taken?_eq_none hother]

/-- Where nothing broke off, what a file took is what was written to it. -/
theorem taken?_eq_write? (h : ¬ a.BreaksOff place) : a.taken? place = a.write? place := by
  unfold taken? write?
  cases hstep : a.step with
  | warn w => cases a.outcome <;> rfl
  | ensureDirectory path => cases a.outcome <;> rfl
  | write mode path text =>
    cases houtcome : a.outcome with
    | error e =>
      refine if_neg fun hopened => h ⟨hopened, ?_⟩
      rw [houtcome]
      rfl
    | ok u =>
      obtain ⟨hopened, htaken⟩ := write_ok hstep houtcome
      rw [hopened]
      dsimp only
      by_cases hplace : place = Disk.target a.before.disk.working path
      · rw [if_pos hplace, hplace, if_pos rfl, Disk.takes_of_ok htaken]
      · rw [if_neg hplace, if_neg fun hsame => hplace (Option.some.inj hsame).symm]

/-- What a transfer leaves that breaks off: the bytes that were taken. -/
theorem BreaksOff.leaves (h : a.BreaksOff place) :
    ∃ mode path text fault, a.step = .write mode path text ∧
      a.before.medium place = some fault ∧ a.outcome = .error (.unwritable path fault.cause) ∧
      a.after.disk.file? place =
        some (mode.result (a.before.disk.file? place) (text.toUTF8.extract 0 fault.taken)) := by
  obtain ⟨hplace, hfailed⟩ := h
  rcases a.cases with ⟨hclosed, _⟩ | ⟨mode, path, text, hstep, hopened, houtcome, hfiles⟩
  · cases hclosed.symm.trans hplace
  · obtain rfl : Disk.target a.before.disk.working path = place :=
      Option.some.inj (hopened.symm.trans hplace)
    have hafter := hfiles (Disk.target a.before.disk.working path)
    rw [if_pos rfl, Disk.Medium.takes] at hafter
    rw [Disk.Medium.outcome] at houtcome
    cases hmedium : a.before.medium (Disk.target a.before.disk.working path) with
    | none =>
      rw [houtcome, hmedium] at hfailed
      cases hfailed
    | some fault =>
      rw [hmedium] at houtcome hafter
      exact ⟨mode, path, text, fault, hstep, rfl, houtcome, hafter⟩

/-- A write breaks off exactly where its file is open and does not take everything. -/
theorem breaksOff_iff :
    a.BreaksOff place ↔ a.opened? = some place ∧ (a.before.medium place).isSome := by
  constructor
  · intro h
    obtain ⟨_, _, _, fault, _, hmedium, _, _⟩ := h.leaves
    exact ⟨h.1, by rw [hmedium]; rfl⟩
  · rintro ⟨hplace, hfault⟩
    refine ⟨hplace, ?_⟩
    rcases a.cases with ⟨hclosed, _⟩ | ⟨mode, path, text, _, hopened, houtcome, _⟩
    · cases hclosed.symm.trans hplace
    · obtain rfl : Disk.target a.before.disk.working path = place :=
        Option.some.inj (hopened.symm.trans hplace)
      obtain ⟨fault, hmedium⟩ := Option.isSome_iff_exists.mp hfault
      rw [houtcome, Disk.Medium.outcome, hmedium]
      rfl

/-- A step that fails reports its own path, and changes no file unless it had one open. -/
theorem failed {e : Failure} (h : a.outcome = .error e) :
    (∃ path cause, a.step.path? = some path ∧ e = .unwritable path cause) ∧
      (a.before.disk.SameFiles a.after.disk ∨ ∃ place, a.BreaksOff place) := by
  constructor
  · have performed := a.performed
    rw [h] at performed
    cases hstep : a.step with
    | warn w =>
      rw [hstep] at performed
      cases performed
    | ensureDirectory path =>
      rw [hstep] at performed
      obtain ⟨cause, _, rfl⟩ := World.store_error performed
      exact ⟨path, cause, rfl, rfl⟩
    | write mode path text =>
      rw [hstep] at performed
      obtain ⟨cause, _, rfl⟩ := World.store_error performed
      exact ⟨path, cause, rfl, rfl⟩
  · rcases a.cases with ⟨_, same⟩ | ⟨_, _, _, _, hopened, _, _⟩
    · exact .inl same
    · refine .inr ⟨_, hopened, ?_⟩
      rw [h]
      rfl

theorem not_breaksOff_of_write? {w : Disk.Mode × ByteArray} (h : a.write? place = some w) :
    ¬ a.BreaksOff place := by
  rintro ⟨_, hfailed⟩
  unfold write? at h
  split at h
  · next houtcome _ =>
    rw [houtcome] at hfailed
    cases hfailed
  · cases h

theorem Unbroken.concat {as : List Attempt} (h : Unbroken place (as ++ [a]))
    (hkeeps : a.replaces place = false) : Unbroken place as ∧ ¬ a.BreaksOff place := by
  unfold Unbroken at h
  rw [List.rtakeWhile_concat_pos _ _ _ (by rw [hkeeps]; rfl), List.forall_mem_append] at h
  exact ⟨h.1, h.2 a (List.mem_singleton_self a)⟩

/-- What broke off has no part in a file that was replaced later. By induction from the end: the
last attempt replaces the file, or nothing broke off in it and since the file was last replaced. -/
theorem contentAfter_unbroken {as : List Attempt} (h : Unbroken place as)
    (initial : Option ByteArray) :
    Disk.contentAfter initial (as.filterMap (taken? place)) =
      Disk.contentAfter initial (as.filterMap (write? place)) := by
  induction as using List.reverseRecOn with
  | nil => rfl
  | append_singleton as a ih =>
    rw [List.filterMap_append, List.filterMap_append, List.filterMap_cons, List.filterMap_cons]
    cases hwrite : a.write? place with
    | none =>
      obtain ⟨hbefore, hlast⟩ := h.concat (by rw [replaces, hwrite])
      rw [taken?_eq_write? hlast, hwrite]
      simpa using ih hbefore
    | some w =>
      obtain ⟨mode, bytes⟩ := w
      rw [taken?_eq_write? (not_breaksOff_of_write? hwrite), hwrite]
      simp only [List.filterMap_nil]
      rw [Disk.contentAfter_concat, Disk.contentAfter_concat]
      cases mode with
      | replace => rfl
      | append =>
        obtain ⟨hbefore, _⟩ := h.concat (by rw [replaces, hwrite])
        rw [ih hbefore]

end Attempt

/-! ## Attempts -/

namespace World

/-- An attempt finds the medium of its trial. -/
theorem attempts_medium {world : World} {trials : List Trial} {a : Attempt}
    (h : a ∈ world.attempts trials) : ∃ trial ∈ trials, a.before.medium = trial.medium := by
  induction trials generalizing world with
  | nil => cases h
  | cons trial trials ih =>
    rcases List.mem_cons.mp h with rfl | hrest
    · exact ⟨trial, List.mem_cons_self, rfl⟩
    · obtain ⟨later, hlater, hmedium⟩ := ih hrest
      exact ⟨later, List.mem_cons_of_mem _ hlater, hmedium⟩

/-- Where all that is written is taken, nothing breaks off. -/
theorem attempts_sound {world : World} {trials : List Trial}
    (hsound : ∀ trial ∈ trials, trial.medium = .sound) {a : Attempt}
    (h : a ∈ world.attempts trials) (place : Disk.Place) : ¬ a.BreaksOff place := by
  intro hbroken
  obtain ⟨trial, htrial, hmedium⟩ := attempts_medium h
  have hfault := (Attempt.breaksOff_iff.mp hbroken).2
  rw [hmedium, hsound trial htrial] at hfault
  cases hfault

theorem attempts_concat (world : World) (trials : List Trial) (trial : Trial) :
    world.attempts (trials ++ [trial]) =
      world.attempts trials ++ [(world.afterAttempts trials).attempt trial] := by
  induction trials generalizing world with
  | nil => rfl
  | cons first trials ih =>
    rw [List.cons_append, attempts, ih, attempts, List.cons_append]
    rfl

theorem afterAttempts_concat (world : World) (trials : List Trial) (trial : Trial) :
    world.afterAttempts (trials ++ [trial]) =
      ((world.afterAttempts trials).attempt trial).after := by
  rw [afterAttempts, List.foldl_append]
  rfl

theorem attempt_grows (world : World) (trial : Trial) :
    Disk.Grows world.disk (world.attempt trial).after.disk :=
  (perform_grows trial.step { world with medium := trial.medium }).disk

theorem afterAttempts_grows (world : World) (trials : List Trial) :
    Disk.Grows world.disk (world.afterAttempts trials).disk := by
  induction trials generalizing world with
  | nil => exact .refl _
  | cons trial trials ih => exact (attempt_grows world trial).trans (ih _)

theorem perform_rooted {world : World} (h : world.disk.Rooted) (step : Step) :
    (world.perform step).2.disk.Rooted := by
  cases step with
  | warn w => exact h
  | ensureDirectory path => exact Disk.ensureDirectory_rooted h path
  | write mode path text => exact Disk.write_rooted h world.medium mode path text

theorem afterAttempts_rooted {world : World} (h : world.disk.Rooted) (trials : List Trial) :
    (world.afterAttempts trials).disk.Rooted := by
  induction trials generalizing world with
  | nil => exact h
  | cons trial trials ih =>
    have hfound : Disk.Rooted { world with medium := trial.medium }.disk := h
    exact ih (perform_rooted hfound trial.step)

/-- What came of an attempt stays for the attempts after it. -/
theorem afterAttempts_later {world : World} {trials : List Trial} {a : Attempt}
    (h : a ∈ world.attempts trials) :
    Disk.Grows a.after.disk (world.afterAttempts trials).disk := by
  induction trials generalizing world with
  | nil => cases h
  | cons trial trials ih =>
    rcases List.mem_cons.mp h with rfl | hrest
    · exact afterAttempts_grows _ trials
    · exact ih hrest

/-- The files after a sequence of attempts are told by what they took. By induction from the end,
since the last write decides. -/
theorem afterAttempts_file? (world : World) (trials : List Trial) (place : Disk.Place) :
    (world.afterAttempts trials).disk.file? place =
      Disk.contentAfter (world.disk.file? place)
        ((world.attempts trials).filterMap (Attempt.taken? place)) := by
  induction trials using List.reverseRecOn with
  | nil => rfl
  | append_singleton trials trial ih =>
    have hbefore : ((world.afterAttempts trials).attempt trial).before.disk =
      (world.afterAttempts trials).disk := rfl
    rw [afterAttempts_concat, Attempt.file?_after, hbefore, ih, attempts_concat,
      List.filterMap_append]
    cases htaken : ((world.afterAttempts trials).attempt trial).taken? place with
    | none => simp [htaken]
    | some w =>
      obtain ⟨mode, bytes⟩ := w
      rw [List.filterMap_cons_some htaken, List.filterMap_nil, Disk.contentAfter_concat]

/-- Where nothing broke off since a file was replaced, the writes that succeeded tell its content. -/
theorem afterAttempts_unbroken {world : World} {trials : List Trial} {place : Disk.Place}
    (h : Attempt.Unbroken place (world.attempts trials)) :
    (world.afterAttempts trials).disk.file? place =
      Disk.contentAfter (world.disk.file? place)
        ((world.attempts trials).filterMap (Attempt.write? place)) := by
  rw [afterAttempts_file?, Attempt.contentAfter_unbroken h]

theorem unbroken_of_sound {world : World} {trials : List Trial}
    (hsound : ∀ trial ∈ trials, trial.medium = .sound) (place : Disk.Place) :
    Attempt.Unbroken place (world.attempts trials) := by
  intro a ha
  exact attempts_sound hsound ((List.rtakeWhile_suffix _ _).subset ha) place

/-- The file of a write that opened it lies in directories, up to the root. -/
theorem directories_above {world : World} (h : world.disk.Rooted) {trials : List Trial}
    {a : Attempt} (ha : a ∈ world.attempts trials) {place above : Disk.Place}
    (hplace : a.opened? = some place) (habove : above <+: place) (hne : above ≠ place) :
    (world.afterAttempts trials).disk.entry? above = some .directory := by
  have hfile : (a.after.disk.file? place).isSome := by
    rcases a.cases with ⟨hclosed, _⟩ | ⟨mode, path, text, _, hopened, _, hfiles⟩
    · cases hclosed.symm.trans hplace
    · rw [hfiles, if_pos (Option.some.inj (hplace.symm.trans hopened))]
      rfl
  obtain ⟨content, hentry⟩ :=
    Disk.file?_isSome_iff.mp ((afterAttempts_later ha).file place hfile)
  exact (afterAttempts_rooted h trials).above (by rw [hentry]; rfl) habove hne

/-- A directory that was made or found is there at the end. -/
theorem isDirectory_afterAttempts {world : World} {trials : List Trial} {a : Attempt}
    (ha : a ∈ world.attempts trials) (hok : a.outcome = .ok ()) {path : String}
    (hpath : a.step = .ensureDirectory path) :
    path.isEmpty ∨ (world.afterAttempts trials).disk.isDirectory path := by
  have performed := a.performed
  rw [hpath, hok] at performed
  have hmade := Disk.isDirectory_of_makeDirectories (store_ok performed).1
  exact hmade.imp_right (afterAttempts_later ha).isDirectory

end World

/-- What a sequence of attempts does to the files and the directories. -/
structure KeepsFiles (world : World) (trials : List Trial) : Prop where
  /-- Whatever broke off, a file holds what it took. -/
  taken : ∀ place, (world.afterAttempts trials).disk.file? place =
    Disk.contentAfter (world.disk.file? place)
      ((world.attempts trials).filterMap (Attempt.taken? place))
  /-- The writes that succeeded tell the content, unless one broke off that was not made good. -/
  content : ∀ place, Attempt.Unbroken place (world.attempts trials) →
    (world.afterAttempts trials).disk.file? place =
      Disk.contentAfter (world.disk.file? place)
        ((world.attempts trials).filterMap (Attempt.write? place))
  elsewhere : ∀ a ∈ world.attempts trials, ∀ place, place ∉ a.target? →
    a.after.disk.file? place = a.before.disk.file? place
  /-- A step whose path is blocked fails before a file is open, and changes none; else it is a write
  that breaks off. -/
  failed : ∀ a ∈ world.attempts trials, ∀ e, a.outcome = .error e →
    (∃ path cause, a.step.path? = some path ∧ e = .unwritable path cause) ∧
      (a.before.disk.SameFiles a.after.disk ∨ ∃ place, a.BreaksOff place)
  breaksOff_iff : ∀ a ∈ world.attempts trials, ∀ place,
    a.BreaksOff place ↔ a.opened? = some place ∧ (a.before.medium place).isSome
  /-- What it leaves is what opening kept of the file, and behind it the bytes that were taken. -/
  brokenOff : ∀ a ∈ world.attempts trials, ∀ place, a.BreaksOff place →
    ∃ mode path text fault, a.step = .write mode path text ∧
      a.before.medium place = some fault ∧ a.outcome = .error (.unwritable path fault.cause) ∧
      a.after.disk.file? place =
        some (mode.result (a.before.disk.file? place) (text.toUTF8.extract 0 fault.taken))
  /-- Where all that is written is taken, the writes that succeeded tell every content, and a step
  that fails changes no file. -/
  sound : (∀ trial ∈ trials, trial.medium = .sound) →
    (∀ place, (world.afterAttempts trials).disk.file? place =
      Disk.contentAfter (world.disk.file? place)
        ((world.attempts trials).filterMap (Attempt.write? place))) ∧
    ∀ a ∈ world.attempts trials, a.outcome.isOk = false → a.before.disk.SameFiles a.after.disk
  succeeded : ∀ a ∈ world.attempts trials, a.outcome = .ok () → a.opened? = a.target?
  /-- Not only right after the write, but at the end. -/
  parents : world.disk.Rooted → ∀ a ∈ world.attempts trials, ∀ place ∈ a.opened?,
    ∀ above, above <+: place → above ≠ place →
      (world.afterAttempts trials).disk.entry? above = some .directory
  directories : ∀ a ∈ world.attempts trials, a.outcome = .ok () →
    ∀ path, a.step = .ensureDirectory path →
      path.isEmpty ∨ (world.afterAttempts trials).disk.isDirectory path

theorem Disk.fresh_rooted : Disk.fresh.Rooted := by
  intro place name h
  have hplace : place = [] := by
    by_contra hne
    have hother : (place ++ [name] == ["work"]) = false := by
      cases place with
      | nil => exact absurd rfl hne
      | cons first rest => simp
    simp [Disk.entry?, Disk.fresh, List.lookup_cons, hother] at h
  rw [hplace]
  rfl

/-- The working directory with one file in it. -/
def loggedWorld : World := .ofDisk (Disk.fresh.put ["work", "log"] (.file "x".toUTF8))

/-- A device without room for more than some bytes. -/
def Disk.Medium.full (bytes : Nat) : Disk.Medium :=
  fun _ => some ⟨bytes, .other "No space left on device (os error 28)"⟩

/-- Steps that append to the file, take it for a directory, write another one in several ways, one
of which breaks off, and empty the file in a write that breaks off. -/
def loggedTrials : List Trial :=
  [⟨.sound, .write .append "log" "y"⟩, ⟨.sound, .write .replace "log/a.rs" "z"⟩,
   ⟨.sound, .ensureDirectory "log"⟩, ⟨.full 2, .write .replace "a/b.rs" "old"⟩,
   ⟨.sound, .write .append "a/../a/b.rs" "+"⟩, ⟨.sound, .write .replace "a/b.rs" "new"⟩,
   ⟨.sound, .write .append "./a/b.rs" "!"⟩, ⟨.full 0, .write .replace "log" "z"⟩]

theorem loggedWorld_rooted : loggedWorld.disk.Rooted := by
  have hworking : Disk.fresh.entry? ["work"] = some .directory := rfl
  have hfree : Disk.fresh.entry? (["work"] ++ ["log"]) ≠ some .directory := fun h => nomatch h
  have hput : (Disk.put Disk.fresh (["work"] ++ ["log"]) (.file "x".toUTF8)).Rooted :=
    Disk.fresh_rooted.put hworking (Disk.grows_put_file (by simp) hfree _)
  exact hput

end ClientForge
