import ClientForge.Proofs.DiskFiles

/-!
Disks that only gain entries. No operation of a generation takes a directory or a file away, so what
was done once can be done again later: every way stays open, a directory that was made is there, and
a file that was written can be written.

Results:
1. `Grows.walk`, `Grows.slot`: ways stay open.
2. `makeDirectories_grows`, `write_grows`: directories and files only come to be.
3. `ensureDirectory_again`: a directory that was made needs nothing more.
4. `openFile_again`, `write_again`: a file that was opened can be opened again, and written again on
   a medium that took everything.
-/

namespace ClientForge.Disk

/-! ## Definitions -/

/-- `disk'` has the directories of `disk` and its files, whatever their content. -/
structure Grows (disk disk' : Disk) : Prop where
  working : disk'.working = disk.working
  directory : ∀ place, disk.entry? place = some .directory → disk'.entry? place = some .directory
  file : ∀ place, (disk.file? place).isSome → (disk'.file? place).isSome

namespace Grows

variable {disk disk' disk'' : Disk}

theorem refl (disk : Disk) : Grows disk disk := ⟨rfl, fun _ h => h, fun _ h => h⟩

theorem trans (h : Grows disk disk') (h' : Grows disk' disk'') : Grows disk disk'' :=
  ⟨h'.working.trans h.working, fun place hd => h'.directory place (h.directory place hd),
    fun place hf => h'.file place (h.file place hf)⟩

end Grows

/-! ## Entries -/

theorem file?_isSome_iff {disk : Disk} {place : Place} :
    (disk.file? place).isSome ↔ ∃ content, disk.entry? place = some (.file content) := by
  unfold file?
  split
  · next content h => simp [h]
  · next hother =>
    constructor
    · intro h
      cases h
    · rintro ⟨content, h⟩
      exact absurd h (hother content)

theorem Grows.entry {disk disk' : Disk} (h : Grows disk disk') {place : Place}
    (hplace : (disk.entry? place).isSome) : (disk'.entry? place).isSome := by
  obtain ⟨entry, hentry⟩ := Option.isSome_iff_exists.mp hplace
  cases entry with
  | directory => rw [h.directory place hentry, Option.isSome_some]
  | file content =>
    obtain ⟨content', hfile⟩ :=
      file?_isSome_iff.mp (h.file place (file?_isSome_iff.mpr ⟨content, hentry⟩))
    rw [hfile, Option.isSome_some]

theorem grows_put_directory {disk : Disk} {place : Place} (hplace : place ≠ [])
    (habsent : disk.entry? place = none) : Grows disk (disk.put place .directory) := by
  refine ⟨rfl, fun p hp => ?_, fun p hp => ?_⟩
  · rw [entry?_put hplace]
    split
    · rfl
    · exact hp
  · rw [file?_put hplace, if_neg]
    · exact hp
    · rintro rfl
      rw [file?, habsent] at hp
      cases hp

theorem grows_put_file {disk : Disk} {place : Place} (hplace : place ≠ [])
    (hno : disk.entry? place ≠ some .directory) (content : ByteArray) :
    Grows disk (disk.put place (.file content)) := by
  refine ⟨rfl, fun p hp => ?_, fun p hp => ?_⟩
  · rw [entry?_put hplace, if_neg]
    · exact hp
    · rintro rfl
      exact hno hp
  · rw [file?_put hplace]
    split
    · rfl
    · exact hp

/-! ## Ways -/

theorem walk_cons {disk : Disk} {place last : Place} {name : String} {names : List String} :
    disk.walk place (name :: names) = .ok last ↔ disk.entry? place = some .directory ∧
      ∃ next, disk.step place name = .ok next ∧ disk.walk next names = .ok last := by
  rw [walk]
  split
  · next hdirectory =>
    cases disk.step place name with
    | ok next => simp [hdirectory]
    | error e => simp
  · next hother => simpa using fun h => absurd h hother

/-- A walk to the last name of a way passes the directory that this name is in. -/
theorem walk_concat {disk : Disk} {place last : Place} {name : String} {names : List String} :
    disk.walk place (names ++ [name]) = .ok last ↔
      ∃ parent, disk.walk place names = .ok parent ∧ disk.entry? parent = some .directory ∧
        disk.step parent name = .ok last := by
  induction names generalizing place with
  | nil =>
    rw [List.nil_append, walk_cons]
    simp [walk]
  | cons first names ih =>
    simp only [List.cons_append, walk_cons, ih]
    grind

theorem isDirectory_iff {disk : Disk} {path : String} :
    disk.isDirectory path ↔ unusable? path = none ∧ ∃ place,
      disk.walk (disk.start path) (Path.names path) = .ok place ∧
        disk.entry? place = some .directory := by
  unfold isDirectory resolve
  cases unusable? path with
  | some e => simp
  | none =>
    cases disk.walk (disk.start path) (Path.names path) with
    | error e => simp
    | ok place =>
      cases hentry : disk.entry? place with
      | none => simp [hentry]
      | some entry =>
        cases entry with
        | directory => simp [hentry]
        | file content =>
          cases hslash : path.endsWith "/" with
          | true => simp [hentry]
          | false => simp [hentry]

namespace Grows

variable {disk disk' : Disk}

theorem step (h : Grows disk disk') {place next : Place} {name : String}
    (hstep : disk.step place name = .ok next) : disk'.step place name = .ok next := by
  unfold Disk.step at hstep ⊢
  split at hstep
  · next hdot => rw [if_pos hdot, hstep]
  · next hdot =>
    rw [if_neg hdot]
    split at hstep
    · next hup => rw [if_pos hup, hstep]
    · next hup =>
      rw [if_neg hup]
      split at hstep
      · cases hstep
      · next hshort =>
        rw [if_neg hshort]
        split at hstep
        · next hthere => rw [if_pos (h.entry hthere), hstep]
        · cases hstep

theorem walk (h : Grows disk disk') {names : List String} {place last : Place}
    (hwalk : disk.walk place names = .ok last) : disk'.walk place names = .ok last := by
  induction names generalizing place with
  | nil => exact hwalk
  | cons name names ih =>
    obtain ⟨hdirectory, next, hstep, hrest⟩ := walk_cons.mp hwalk
    exact walk_cons.mpr ⟨h.directory place hdirectory, next, h.step hstep, ih hrest⟩

theorem start (h : Grows disk disk') (path : String) : disk'.start path = disk.start path := by
  rw [Disk.start, h.working, ← Disk.start]

theorem slot (h : Grows disk disk') {path : String} {place : Place} {name : Option String}
    (hslot : disk.slot path = .ok (place, name)) : disk'.slot path = .ok (place, name) := by
  obtain ⟨husable, hwalk, hdirectory, hname⟩ := slot_eq_ok_iff.mp hslot
  refine slot_eq_ok_iff.mpr ⟨husable, ?_, h.directory place hdirectory, hname⟩
  rw [h.start]
  exact h.walk hwalk

theorem isDirectory (h : Grows disk disk') {path : String} (hpath : disk.isDirectory path) :
    disk'.isDirectory path := by
  obtain ⟨husable, place, hwalk, hdirectory⟩ := isDirectory_iff.mp hpath
  refine isDirectory_iff.mpr ⟨husable, place, ?_, h.directory place hdirectory⟩
  rw [h.start]
  exact h.walk hwalk

end Grows

/-! ## Directories -/

theorem makeDirectory_grows {disk disk' : Disk} {path : String}
    (h : disk.makeDirectory path = .ok disk') : Grows disk disk' := by
  obtain ⟨place, name, _, _, _, _, habsent, rfl⟩ := makeDirectory_ok h
  exact grows_put_directory (by simp) habsent

theorem isDirectory_of_makeDirectory {disk disk' : Disk} {path : String}
    (h : disk.makeDirectory path = .ok disk') : disk'.isDirectory path := by
  have hgrows := makeDirectory_grows h
  obtain ⟨place, name, hslot, hdot, hup, hshort, _, rfl⟩ := makeDirectory_ok h
  obtain ⟨husable, hwalk, hdirectory, hlast⟩ := slot_eq_ok_iff.mp (hgrows.slot hslot)
  have hmade : Disk.entry? (disk.put (place ++ [name]) .directory) (place ++ [name]) =
      some .directory := by
    rw [entry?_put (by simp), if_pos rfl]
  have hstep : (disk.put (place ++ [name]) .directory).step place name =
      .ok (place ++ [name]) := by
    rw [step, if_neg hdot, if_neg hup, if_neg hshort, hmade]
    rfl
  refine isDirectory_iff.mpr ⟨husable, place ++ [name], ?_, hmade⟩
  rw [← List.dropLast_append_getLast? name hlast]
  exact walk_concat.mpr ⟨place, hwalk, hdirectory, hstep⟩

theorem entry_of_step {disk : Disk} {place next : Place} {name : String}
    (h : disk.step place name = .ok next) (hdot : name ≠ ".") (hup : name ≠ "..") :
    ¬ maxNameBytes < name.utf8ByteSize ∧ (disk.entry? (place ++ [name])).isSome := by
  rw [step, if_neg hdot, if_neg hup] at h
  split at h
  · cases h
  · next hshort =>
    split at h
    · next hthere => exact ⟨hshort, hthere⟩
    · cases h

/-- Making a directory that exists fails as such. -/
theorem makeDirectory_exists {disk : Disk} {path : String} (h : disk.isDirectory path) :
    disk.makeDirectory path = .error .exists := by
  obtain ⟨husable, last, hwalk, hdirectory⟩ := isDirectory_iff.mp h
  cases hlast : (Path.names path).getLast? with
  | none =>
    have hslot : disk.slot path = .ok (last, none) := by
      rw [List.getLast?_eq_none_iff] at hlast
      rw [hlast] at hwalk
      exact slot_eq_ok_iff.mpr ⟨husable, by rw [hlast]; exact hwalk, hdirectory, by rw [hlast]; rfl⟩
    rw [makeDirectory, hslot]
  | some name =>
    rw [← List.dropLast_append_getLast? name hlast] at hwalk
    obtain ⟨parent, hparent, hdirectory, hstep⟩ := walk_concat.mp hwalk
    rw [makeDirectory, slot_eq_ok_iff.mpr ⟨husable, hparent, hdirectory, hlast⟩]
    dsimp only
    split
    · rfl
    · next hdots =>
      rw [not_or] at hdots
      obtain ⟨hshort, hthere⟩ := entry_of_step hstep hdots.1 hdots.2
      rw [if_neg hshort, if_pos hthere]

theorem makeDirectories_grows (fuel : Nat) (disk : Disk) (path : String) :
    Grows disk (makeDirectories fuel disk path).1 :=
  makeDirectories_preserves .refl (fun h h' => h.trans h') makeDirectory_grows fuel disk path

/-- A failure to make a directory is passed over only where there is one. -/
theorem isDirectory_of_tolerated {disk disk' : Disk} {path : String} {e : IoError}
    (h : (disk, if disk.isDirectory path then (.ok () : Except IoError Unit) else .error e) =
      (disk', .ok ())) : disk'.isDirectory path := by
  injection h with hdisk hmade
  subst hdisk
  split at hmade
  · next hdirectory => exact hdirectory
  · cases hmade

/-- Directories have been made when the path is one, unless it is empty. -/
theorem isDirectory_of_makeDirectories {fuel : Nat} {disk disk' : Disk} {path : String}
    (h : makeDirectories (fuel + 1) disk path = (disk', .ok ())) :
    path.isEmpty ∨ disk'.isDirectory path := by
  unfold makeDirectories at h
  split at h
  · next hempty => exact .inl hempty
  · refine .inr ?_
    split at h
    · next hmade =>
      cases h
      exact isDirectory_of_makeDirectory hmade
    · split at h
      · cases h
      · split at h
        · cases h
        · split at h
          · next hlast =>
            cases h
            exact isDirectory_of_makeDirectory hlast
          · exact isDirectory_of_tolerated h
    · exact isDirectory_of_tolerated h

/-- A directory that was made needs nothing more. -/
theorem ensureDirectory_again {disk disk' later : Disk} {path : String}
    (h : disk.ensureDirectory path = (disk', .ok ())) (hlater : Grows disk' later) :
    later.ensureDirectory path = (later, .ok ()) := by
  rw [ensureDirectory, makeDirectories]
  split
  · rfl
  · next hpath =>
    have hdirectory := hlater.isDirectory ((isDirectory_of_makeDirectories h).resolve_left hpath)
    rw [makeDirectory_exists hdirectory]
    dsimp only
    rw [if_pos hdirectory]

theorem ensureDirectory_grows (disk : Disk) (path : String) :
    Grows disk (disk.ensureDirectory path).1 :=
  makeDirectories_grows _ disk path

/-! ## Writes -/

theorem makeParents_grows (disk : Disk) (path : String) : Grows disk (disk.makeParents path).1 := by
  unfold makeParents
  split
  · exact ensureDirectory_grows disk _
  · exact .refl disk

theorem makeParents_again {disk disk' later : Disk} {path : String}
    (h : disk.makeParents path = (disk', .ok ())) (hlater : Grows disk' later) :
    later.makeParents path = (later, .ok ()) := by
  unfold makeParents at h ⊢
  split at h
  · exact ensureDirectory_again h hlater
  · rfl

theorem openIn_grows {disk opened : Disk} {mode : Mode} {path : String} {place : Place}
    (h : disk.openIn mode path = .ok (opened, place)) : Grows disk opened := by
  obtain ⟨parent, name, _, _, _, rfl, hno, rfl⟩ := openIn_ok_iff.mp h
  exact grows_put_file (by simp) hno _

theorem openFile_grows (disk : Disk) (mode : Mode) (path : String) :
    Grows disk (disk.openFile mode path).1 := by
  have hparents := makeParents_grows disk path
  unfold openFile
  split
  · next hfailed => rwa [hfailed] at hparents
  · next hmade =>
    rw [hmade] at hparents
    split
    · next hopened => exact hparents.trans (openIn_grows hopened)
    · exact hparents

/-- What was opened is a file. -/
theorem openFile_entry {disk opened : Disk} {mode : Mode} {path : String} {place : Place}
    (h : disk.openFile mode path = (opened, .ok place)) :
    place ≠ [] ∧ (opened.file? place).isSome := by
  obtain ⟨ready, _, hin⟩ := openFile_ok h
  obtain ⟨parent, name, _, _, _, rfl, _, rfl⟩ := openIn_ok_iff.mp hin
  refine ⟨by simp, ?_⟩
  rw [file?_put (by simp), if_pos rfl]
  rfl

theorem transfer_grows {disk opened : Disk} {mode : Mode} {path : String} {place : Place}
    (h : disk.openFile mode path = (opened, .ok place)) (medium : Medium) (text : String) :
    Grows opened (opened.transfer medium place text).1 := by
  obtain ⟨hne, hfile⟩ := openFile_entry h
  obtain ⟨content, hentry⟩ := file?_isSome_iff.mp hfile
  refine grows_put_file hne ?_ _
  rw [hentry]
  simp

theorem write_grows (disk : Disk) (medium : Medium) (mode : Mode) (path text : String) :
    Grows disk (disk.write medium mode path text).1 := by
  have hopen := openFile_grows disk mode path
  unfold write
  split
  · next hfailed => rwa [hfailed] at hopen
  · next hopened =>
    rw [hopened] at hopen
    exact hopen.trans (transfer_grows hopened medium text)

/-- A file that was opened can be opened again. -/
theorem openFile_again {disk opened later : Disk} {mode : Mode} {path : String} {place : Place}
    (h : disk.openFile mode path = (opened, .ok place)) (hlater : Grows opened later)
    (mode' : Mode) : ∃ last, later.openFile mode' path = (last, .ok place) := by
  have hfile := hlater.file place (openFile_entry h).2
  obtain ⟨ready, hmade, hin⟩ := openFile_ok h
  have hgrows := (openIn_grows hin).trans hlater
  obtain ⟨parent, name, hslot, hdots, hshort, hplace, _, _⟩ := openIn_ok_iff.mp hin
  -- the file is there, so it is no directory
  obtain ⟨content, hentry⟩ := file?_isSome_iff.mp hfile
  have hfree : later.entry? place ≠ some .directory := by
    rw [hentry]
    simp
  obtain ⟨last, hagain⟩ : ∃ last, later.openIn mode' path = .ok (last, place) :=
    ⟨_, openIn_ok_iff.mpr ⟨parent, name, hgrows.slot hslot, hdots, hshort, hplace, hfree, rfl⟩⟩
  refine ⟨last, ?_⟩
  rw [openFile, makeParents_again hmade hgrows]
  dsimp only
  rw [hagain]

/-- A file that was written can be written again. -/
theorem write_again {disk disk' later : Disk} {medium : Medium} {mode : Mode} {path text : String}
    (h : disk.write medium mode path text = (disk', .ok ())) (hlater : Grows disk' later)
    (mode' : Mode) (text' : String) :
    ∃ last, later.write medium mode' path text' = (last, .ok ()) := by
  unfold write at h
  split at h
  · cases h
  · next opened place hopened =>
    have hgrows := transfer_grows hopened medium text
    rw [h] at hgrows
    have htaken : medium.outcome place = .ok () := congrArg Prod.snd h
    obtain ⟨ready, hagain⟩ := openFile_again hopened (hgrows.trans hlater) mode'
    refine ⟨(ready.transfer medium place text').1, ?_⟩
    rw [write, hagain]
    exact Prod.ext rfl htaken

end ClientForge.Disk
