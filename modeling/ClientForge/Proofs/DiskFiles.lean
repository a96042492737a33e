import ClientForge.Disk.Basic
import Mathlib.Data.List.Basic

/-!
What operations do to the files of a disk. Without links a path leads to one place, found from the
path alone (`target`); what exists only decides whether the way there can be walked.

Results:
1. `walk_eq_follow`: a walk that succeeds ends where its names lead.
2. `ensureDirectory_sameFiles`: making directories changes no file, whether it succeeds or not.
3. `write_cases`: a write fails to open its file, and changes none, or the file at its target gets
   what the medium takes, whether that is all of the text or not.
4. `write_file?`, `write_elsewhere`: what this means for a write that succeeds, and for other files.
-/

namespace ClientForge.Disk

/-! ## Definitions -/

/-- Where a name leads from a place. -/
def follow (place : Place) (name : String) : Place :=
  if name = "." then place else if name = ".." then place.dropLast else place ++ [name]

/-- The place that a path names, relative ones from the directory `working`. -/
def target (working : Place) (path : String) : Place :=
  (Path.names path).foldl follow (if Path.isAbsolute path then [] else working)

/-- The same files with the same content, seen from the same directory. -/
structure SameFiles (disk disk' : Disk) : Prop where
  working : disk'.working = disk.working
  file? : ∀ place, disk'.file? place = disk.file? place

theorem SameFiles.refl (disk : Disk) : SameFiles disk disk := ⟨rfl, fun _ => rfl⟩

theorem SameFiles.trans {a b c : Disk} (hab : SameFiles a b) (hbc : SameFiles b c) :
    SameFiles a c :=
  ⟨hbc.working.trans hab.working, fun place => (hbc.file? place).trans (hab.file? place)⟩

/-- What a file holds after some bytes were written to it. -/
def Mode.result (mode : Mode) (old : Option ByteArray) (bytes : ByteArray) : ByteArray :=
  mode.kept (old.getD .empty) ++ bytes

/-- The place of the file that is opened to be written, if it can be opened. -/
def opened? (disk : Disk) (mode : Mode) (path : String) : Option Place :=
  (disk.openFile mode path).2.toOption

/-! ## Entries -/

theorem entry?_put {disk : Disk} {place : Place} (hplace : place ≠ []) (entry : Entry) (p : Place) :
    Disk.entry? (disk.put place entry) p = if p = place then some entry else disk.entry? p := by
  unfold entry? put
  rw [Table.lookup_insert]
  by_cases hp : p = []
  · subst p
    simp [hplace.symm]
  · rw [if_neg hp, if_neg hp]

theorem file?_put {disk : Disk} {place : Place} (hplace : place ≠ []) (entry : Entry) (p : Place) :
    (disk.put place entry).file? p =
      if p = place then (match entry with | .file content => some content | .directory => none)
      else disk.file? p := by
  rw [file?, entry?_put hplace, file?]
  by_cases hp : p = place
  · rw [if_pos hp, if_pos hp]
    cases entry <;> rfl
  · rw [if_neg hp, if_neg hp]

/-! ## Ways -/

theorem step_eq_follow {disk : Disk} {place next : Place} {name : String}
    (h : disk.step place name = .ok next) : next = follow place name := by
  unfold step at h
  unfold follow
  split at h
  · next hdot => rw [if_pos hdot]; cases h; rfl
  · next hdot =>
    rw [if_neg hdot]
    split at h
    · next hup => rw [if_pos hup]; cases h; rfl
    · next hup =>
      rw [if_neg hup]
      split at h
      · cases h
      · split at h
        · cases h; rfl
        · cases h

theorem walk_eq_follow {disk : Disk} {names : List String} {place last : Place}
    (h : disk.walk place names = .ok last) : last = names.foldl follow place := by
  induction names generalizing place with
  | nil =>
    cases h
    rfl
  | cons name names ih =>
    rw [walk] at h
    split at h
    · split at h
      · next hstep =>
        rw [List.foldl_cons, ← step_eq_follow hstep]
        exact ih h
      · cases h
    · cases h

/-- A slot is the last name of a path in the directory that the names before it lead to. -/
theorem slot_eq_ok_iff {disk : Disk} {path : String} {place : Place} {name : Option String} :
    disk.slot path = .ok (place, name) ↔ unusable? path = none ∧
      disk.walk (disk.start path) (Path.names path).dropLast = .ok place ∧
      disk.entry? place = some .directory ∧ (Path.names path).getLast? = name := by
  unfold slot
  cases unusable? path with
  | some e => simp
  | none =>
    cases disk.walk (disk.start path) (Path.names path).dropLast with
    | error e => simp
    | ok parent =>
      dsimp only
      split
      · grind
      · grind

/-- A slot whose name is no dot name is the target of its path. -/
theorem slot_target {disk : Disk} {path name : String} {place : Place}
    (h : disk.slot path = .ok (place, some name)) (hdots : ¬ (name = "." ∨ name = "..")) :
    place ++ [name] = target disk.working path := by
  obtain ⟨_, hwalk, _, hlast⟩ := slot_eq_ok_iff.mp h
  have hplace := walk_eq_follow hwalk
  have hnames : (Path.names path).dropLast ++ [name] = Path.names path :=
    List.dropLast_append_getLast? name hlast
  rw [not_or] at hdots
  calc place ++ [name]
      = follow place name := by rw [follow, if_neg hdots.1, if_neg hdots.2]
    _ = ((Path.names path).dropLast ++ [name]).foldl follow (disk.start path) := by
        rw [List.foldl_append, ← hplace, List.foldl_cons, List.foldl_nil]
    _ = target disk.working path := by rw [hnames, start, target]

/-! ## Directories -/

theorem file?_eq_none_of_absent {disk : Disk} {place : Place}
    (h : (disk.entry? place).isSome = false) : disk.file? place = none := by
  have hnone : disk.entry? place = none := by simpa using h
  rw [file?, hnone]

/-- What it takes to make a directory, and what comes of it. -/
theorem makeDirectory_ok {disk disk' : Disk} {path : String}
    (h : disk.makeDirectory path = .ok disk') :
    ∃ place name, disk.slot path = .ok (place, some name) ∧ name ≠ "." ∧ name ≠ ".." ∧
      ¬ maxNameBytes < name.utf8ByteSize ∧ disk.entry? (place ++ [name]) = none ∧
      disk' = disk.put (place ++ [name]) .directory := by
  unfold makeDirectory at h
  split at h
  · cases h
  · cases h
  · next place name hslot =>
    split at h
    · cases h
    · next hdots =>
      split at h
      · cases h
      · next hshort =>
        split at h
        · cases h
        · next habsent =>
          cases h
          rw [not_or] at hdots
          exact ⟨place, name, hslot, hdots.1, hdots.2, hshort, by simpa using habsent, rfl⟩

theorem makeDirectory_sameFiles {disk disk' : Disk} {path : String}
    (h : disk.makeDirectory path = .ok disk') : SameFiles disk disk' := by
  obtain ⟨place, name, _, _, _, _, habsent, rfl⟩ := makeDirectory_ok h
  refine ⟨rfl, fun p => ?_⟩
  rw [file?_put (by simp)]
  -- a directory is only made where there is nothing
  split
  · next hp => rw [hp, file?_eq_none_of_absent (by rw [habsent]; rfl)]
  · rfl

/-- What holds across the making of one directory holds across the making of several. -/
theorem makeDirectories_preserves {R : Disk → Disk → Prop} (hrefl : ∀ disk, R disk disk)
    (htrans : ∀ {a b c}, R a b → R b c → R a c)
    (hmake : ∀ {disk disk' path}, makeDirectory disk path = .ok disk' → R disk disk')
    (fuel : Nat) (disk : Disk) (path : String) : R disk (makeDirectories fuel disk path).1 := by
  induction fuel generalizing disk path with
  | zero => exact hrefl disk
  | succ fuel ih =>
    unfold makeDirectories
    split
    · exact hrefl disk
    · split
      · next hmade => exact hmake hmade
      · split
        · exact hrefl disk
        · next parent _ =>
          have hparent := ih disk parent
          split
          · next hfailed => rwa [hfailed] at hparent
          · next hmade =>
            rw [hmade] at hparent
            split
            · next hlast => exact htrans hparent (hmake hlast)
            · exact hparent
      · exact hrefl disk

theorem ensureDirectory_sameFiles (disk : Disk) (path : String) :
    SameFiles disk (disk.ensureDirectory path).1 :=
  makeDirectories_preserves .refl (fun h h' => h.trans h') makeDirectory_sameFiles _ disk path

/-! ## Writes -/

theorem file?_of_found {disk : Disk} {place : Place} {content : ByteArray}
    (h : disk.entry? place = some (.file content)) : disk.file? place = some content := by
  rw [file?, h]

theorem kept_empty (mode : Mode) : mode.kept .empty = .empty := by
  cases mode <;> rfl

/-- What it takes to open a file in a directory that exists, and what comes of it. -/
theorem openIn_ok_iff {disk opened : Disk} {mode : Mode} {path : String} {place : Place} :
    disk.openIn mode path = .ok (opened, place) ↔
      ∃ parent name, disk.slot path = .ok (parent, some name) ∧
        ¬ (name = "." ∨ name = ".." ∨ path.endsWith "/") ∧ ¬ maxNameBytes < name.utf8ByteSize ∧
        place = parent ++ [name] ∧ disk.entry? place ≠ some .directory ∧
        opened = disk.put place (.file (mode.kept ((disk.file? place).getD .empty))) := by
  unfold openIn
  cases hslot : disk.slot path with
  | error e => simp
  | ok slot =>
    obtain ⟨parent, name⟩ := slot
    cases name with
    | none => simp
    | some name =>
      dsimp only
      by_cases hdots : name = "." ∨ name = ".." ∨ path.endsWith "/"
      · rw [if_pos hdots]
        grind
      · by_cases hlong : maxNameBytes < name.utf8ByteSize
        · rw [if_neg hdots, if_pos hlong]
          grind
        · rw [if_neg hdots, if_neg hlong]
          cases hentry : disk.entry? (parent ++ [name]) with
          | none =>
            have hfile := file?_eq_none_of_absent (by rw [hentry]; rfl)
            have hkept := kept_empty mode
            grind
          | some entry =>
            cases entry with
            | directory => grind
            | file old =>
              have hfile := file?_of_found hentry
              grind

theorem openIn_file? {disk opened : Disk} {mode : Mode} {path : String} {place : Place}
    (h : disk.openIn mode path = .ok (opened, place)) :
    place = target disk.working path ∧ opened.working = disk.working ∧ ∀ p, opened.file? p =
      if p = place then some (mode.kept ((disk.file? place).getD .empty)) else disk.file? p := by
  obtain ⟨parent, name, hslot, hdots, _, rfl, _, rfl⟩ := openIn_ok_iff.mp h
  refine ⟨?_, rfl, fun p => file?_put (by simp) _ p⟩
  exact slot_target hslot fun hd => hdots (hd.elim .inl fun hd => .inr (.inl hd))

theorem makeParents_sameFiles (disk : Disk) (path : String) :
    SameFiles disk (disk.makeParents path).1 := by
  unfold makeParents
  split
  · exact ensureDirectory_sameFiles disk _
  · exact .refl disk

/-- A file that was opened is opened when its directories have been made. -/
theorem openFile_ok {disk opened : Disk} {mode : Mode} {path : String} {place : Place}
    (h : disk.openFile mode path = (opened, .ok place)) :
    ∃ ready, disk.makeParents path = (ready, .ok ()) ∧
      ready.openIn mode path = .ok (opened, place) := by
  unfold openFile at h
  split at h
  · cases h
  · next ready hmade =>
    split at h
    · next hopened =>
      cases h
      exact ⟨ready, hmade, hopened⟩
    · cases h

theorem openFile_error {disk disk' : Disk} {mode : Mode} {path : String} {e : IoError}
    (h : disk.openFile mode path = (disk', .error e)) : SameFiles disk disk' := by
  have ready := makeParents_sameFiles disk path
  unfold openFile at h
  split at h
  · next hmade =>
    cases h
    rwa [hmade] at ready
  · next hmade =>
    rw [hmade] at ready
    split at h
    · cases h
    · cases h
      exact ready

theorem openFile_file? {disk opened : Disk} {mode : Mode} {path : String} {place : Place}
    (h : disk.openFile mode path = (opened, .ok place)) :
    place = target disk.working path ∧ opened.working = disk.working ∧ ∀ p, opened.file? p =
      if p = place then some (mode.kept ((disk.file? place).getD .empty)) else disk.file? p := by
  obtain ⟨ready, hmade, hopened⟩ := openFile_ok h
  obtain ⟨hplace, hworking, hfiles⟩ := openIn_file? hopened
  have same := makeParents_sameFiles disk path
  rw [hmade] at same
  refine ⟨hplace.trans (by rw [same.working]), hworking.trans same.working, fun p => ?_⟩
  rw [hfiles, same.file?, same.file?]

theorem opened?_eq_some {disk : Disk} {mode : Mode} {path : String} {place : Place}
    (h : disk.opened? mode path = some place) :
    ∃ opened, disk.openFile mode path = (opened, .ok place) := by
  cases hopened : disk.openFile mode path with
  | mk opened outcome =>
    rw [opened?, hopened] at h
    cases outcome with
    | error e => cases h
    | ok found =>
      cases h
      exact ⟨opened, rfl⟩

/-- What a write can do. Its file cannot be opened, and no file is changed; or it gets what the
medium takes, and the write is over as the medium has it. -/
theorem write_cases (disk : Disk) (medium : Medium) (mode : Mode) (path text : String) :
    (∃ disk' e, disk.opened? mode path = none ∧ SameFiles disk disk' ∧
      disk.write medium mode path text = (disk', .error e)) ∨
    ∃ disk', disk.opened? mode path = some (target disk.working path) ∧
      disk'.working = disk.working ∧
      (∀ place, disk'.file? place =
        if place = target disk.working path then
          some (mode.result (disk.file? place) (medium.takes place text))
        else disk.file? place) ∧
      disk.write medium mode path text = (disk', medium.outcome (target disk.working path)) := by
  unfold opened? write
  cases hopened : disk.openFile mode path with
  | mk opened outcome =>
    cases outcome with
    | error e => exact .inl ⟨opened, e, rfl, openFile_error hopened, rfl⟩
    | ok place =>
      obtain ⟨rfl, hworking, hfiles⟩ := openFile_file? hopened
      obtain ⟨_, _, hin⟩ := openFile_ok hopened
      obtain ⟨parent, name, _, _, _, hplace, _⟩ := openIn_ok_iff.mp hin
      have hne : target disk.working path ≠ [] := by
        rw [hplace]
        simp
      refine .inr ⟨(opened.transfer medium _ text).1, rfl, hworking, fun p => ?_, rfl⟩
      rw [transfer, file?_put hne, hfiles, if_pos rfl, hfiles]
      split
      · next hp => rw [hp]; rfl
      · rfl

theorem takes_of_ok {medium : Medium} {place : Place} (h : medium.outcome place = .ok ())
    (text : String) : medium.takes place text = text.toUTF8 := by
  unfold Medium.outcome at h
  unfold Medium.takes
  cases hfault : medium place with
  | none => rfl
  | some fault =>
    rw [hfault] at h
    cases h

/-- A write that succeeds has opened its file, which has taken everything. -/
theorem write_ok {disk disk' : Disk} {medium : Medium} {mode : Mode} {path text : String}
    (h : disk.write medium mode path text = (disk', .ok ())) :
    disk.opened? mode path = some (target disk.working path) ∧
      medium.outcome (target disk.working path) = .ok () := by
  rcases write_cases disk medium mode path text with
    ⟨_, _, _, _, hwrite⟩ | ⟨_, hopened, _, _, hwrite⟩
  · cases hwrite.symm.trans h
  · exact ⟨hopened, (Prod.mk.inj (hwrite.symm.trans h)).2⟩

/-- A write that succeeds changes the file at its target. -/
theorem write_file? {disk disk' : Disk} {medium : Medium} {mode : Mode} {path text : String}
    (h : disk.write medium mode path text = (disk', .ok ())) :
    disk'.working = disk.working ∧ ∀ place, disk'.file? place =
      if place = target disk.working path then some (mode.result (disk.file? place) text.toUTF8)
      else disk.file? place := by
  obtain ⟨_, htaken⟩ := write_ok h
  rcases write_cases disk medium mode path text with
    ⟨_, _, _, _, hwrite⟩ | ⟨_, _, hworking, hfiles, hwrite⟩
  · cases hwrite.symm.trans h
  · obtain rfl := (Prod.mk.inj (hwrite.symm.trans h)).1
    refine ⟨hworking, fun place => ?_⟩
    rw [hfiles]
    split
    · next hplace => rw [hplace, takes_of_ok htaken]
    · rfl

/-- Whatever comes of a write, other files stay as they are. -/
theorem write_elsewhere {disk : Disk} (medium : Medium) {mode : Mode} {path : String}
    (text : String) {place : Place} (h : place ∉ disk.opened? mode path) :
    (disk.write medium mode path text).1.file? place = disk.file? place := by
  rcases write_cases disk medium mode path text with
    ⟨_, _, _, same, hwrite⟩ | ⟨_, hopened, _, hfiles, hwrite⟩
  · rw [hwrite]
    exact same.file? place
  · rw [hwrite, hfiles, if_neg]
    exact fun hplace => h (hopened.trans (congrArg some hplace.symm))

end ClientForge.Disk
