import ClientForge.Disk.Path
import ClientForge.Proofs.OutputDirectory
import ClientForge.Text.Search

/-!
Which format a description in a file is read in. The whole path tells it, so that the directories on
it count like the name of the file: one that mentions a format overrules a name that does not.

Results:
1. `lower_append_slash`: lower case goes through a path part by part.
2. `ofHint_join`: the format of a path, from the format of the file name and from the directory.
3. `load_file`: a file is read in the format of its path.
4. `load_in_directory`: a file loads in a directory as it does by its name alone, unless the
   directory overrules the name; then there is a content that does not.
-/

namespace ClientForge

open Disk (Path.join)

/-! ## Definitions -/

namespace Source

/-- The word occurs in lower case. -/
def Mentions (word hint : String) : Prop := word.toList <:+: Text.lower hint.toList

instance (word hint : String) : Decidable (Mentions word hint) :=
  inferInstanceAs (Decidable (_ <:+: _))

/-- The directory tells another format than the name of the file, and it counts: JSON before all
that a name can tell, YAML where the name tells nothing. -/
def Overrules (directory name : String) : Prop :=
  Mentions "json" directory ∧ Format.ofHint name ≠ .json ∨
    Mentions "yaml" directory ∧ Format.ofHint name = .either

instance (directory name : String) : Decidable (Overrules directory name) :=
  inferInstanceAs (Decidable (_ ∨ _))

/-- The format of a file in a directory, if its name alone tells `format`. -/
def Format.within (directory : String) (format : Format) : Format :=
  if Mentions "json" directory then .json
  else if Mentions "yaml" directory ∧ format = .either then .yaml
  else format

/-- The source loads from a file here. -/
def ReadsFile (place : String) : Source → Prop
  | .files => True
  | .web => False
  | .anywhere => isWebAddress place = false

instance (place : String) : (source : Source) → Decidable (source.ReadsFile place)
  | .files => .isTrue trivial
  | .web => .isFalse id
  | .anywhere => inferInstanceAs (Decidable (_ = _))

/-- The same document, or failures of one kind: they end a run with the same status. -/
def SameKind (a b : Except Failure Json) : Prop :=
  a.mapError Failure.exitCode = b.mapError Failure.exitCode

end Source

/-! ## Texts -/

namespace Text

theorem occurs_iff {word cs : List Char} : occurs word cs = true ↔ word <:+: cs := by
  induction cs with
  | nil => simp [occurs]
  | cons c cs ih =>
    rw [occurs, Bool.or_eq_true, List.isPrefixOf_iff_prefix, ih, List.infix_cons_iff]

section

variable {α : Type} {s : α} {word : List α} (h : s ∉ word) (a b : List α)
include h

/-- A word without the separator lies on one side of it. -/
theorem infix_append_separator_iff : word <:+: a ++ s :: b ↔ word <:+: a ∨ word <:+: b := by
  constructor
  · intro hword
    rcases List.infix_append_iff.mp hword with hleft | hright | ⟨front, back, rfl, hfront, hback⟩
    · exact .inl hleft
    · rcases List.infix_cons_iff.mp hright with hstart | hlater
      · cases word with
        | nil => exact .inl (List.nil_infix)
        | cons c word =>
          obtain ⟨rfl, -⟩ := List.cons_prefix_cons.mp hstart
          exact absurd List.mem_cons_self h
      · exact .inr hlater
    · cases back with
      | nil =>
        rw [List.append_nil]
        exact .inl hfront.isInfix
      | cons c back =>
        obtain ⟨rfl, -⟩ := List.cons_prefix_cons.mp hback
        exact absurd (List.mem_append_right _ List.mem_cons_self) h
  · rintro (hleft | hright)
    · exact hleft.trans (List.prefix_append _ _).isInfix
    · exact hright.trans (List.suffix_append_of_suffix (List.suffix_cons s b)).isInfix

theorem suffix_append_separator_iff : word <:+ a ++ s :: b ↔ word <:+ b := by
  have hend : b <:+ a ++ s :: b := List.suffix_append_of_suffix (List.suffix_cons s b)
  constructor
  · intro hword
    rcases List.suffix_or_suffix_of_suffix hword hend with hshort | hlong
    · exact hshort
    · -- a longer end than `b` has the separator
      obtain ⟨front, rfl⟩ := hlong
      obtain ⟨before, hbefore⟩ := hword
      rw [← List.append_assoc] at hbefore
      rcases List.eq_nil_or_concat front with rfl | ⟨front, c, rfl⟩
      · exact List.suffix_rfl
      · have hcons : a ++ s :: b = (a ++ [s]) ++ b := by simp
        have hsame := List.append_cancel_right (hbefore.trans hcons)
        have hc : c = s := by
          simpa using congrArg List.getLast? hsame
        simp [hc] at h
  · exact fun hword => hword.trans hend

end

/-- A slash is between words: it neither is cased nor passed over when a neighbour is looked for. -/
theorem leadsCased_append_slash (cs rest : List Char) :
    leadsCased (cs ++ '/' :: rest) = leadsCased cs := by
  induction cs with
  | nil => rfl
  | cons c cs ih =>
    rw [leadsCased, leadsCased, List.cons_append, List.dropWhile_cons, List.dropWhile_cons]
    cases isCaseIgnorable c with
    | true => exact ih
    | false => rfl

/-- What is before a slash does not matter for the characters behind it. -/
theorem lowerFrom_behind_slash (near before cs : List Char) :
    lowerFrom (near ++ '/' :: before) cs = lowerFrom near cs := by
  -- `near` holds what has been read since the slash, nearest first
  induction cs generalizing near with
  | nil => rfl
  | cons c cs ih =>
    rw [lowerFrom, lowerFrom, leadsCased_append_slash, ← List.cons_append, ih]

theorem lowerFrom_append_slash (before cs rest : List Char) :
    lowerFrom before (cs ++ '/' :: rest) = lowerFrom before cs ++ '/' :: lower rest := by
  induction cs generalizing before with
  | nil =>
    have hslash : lowerChar '/' = ['/'] := by decide
    rw [List.nil_append, lowerFrom.eq_2, if_neg (by decide), hslash]
    exact congrArg ('/' :: ·) (lowerFrom_behind_slash [] before rest)
  | cons c cs ih =>
    rw [List.cons_append, lowerFrom, lowerFrom, ih, leadsCased_append_slash, List.append_assoc]

/-- Lower case goes through a path part by part. -/
theorem lower_append_slash (cs rest : List Char) :
    lower (cs ++ '/' :: rest) = lower cs ++ '/' :: lower rest := lowerFrom_append_slash [] cs rest

end Text

/-! ## Files -/

theorem Disk.decode_toUTF8 (text : String) : decode text.toUTF8 = .ok text := by
  have hvalid : text.toUTF8.IsValidUTF8 := text.isValidUTF8
  rw [decode, String.fromUTF8?, dif_pos hvalid]
  rfl

/-- A name below a directory stands behind a slash, which may be the directory's own. -/
theorem Disk.Path.join_plain (directory : String) {name : String} (h : '/' ∉ name.toList) :
    directory = "" ∧ Path.join directory name = name ∨
      ∃ above, (Path.join directory name).toList = above ++ '/' :: name.toList ∧
        (directory.toList = above ∨ directory.toList = above ++ ['/']) := by
  have hrelative := isAbsolute_plain h
  rw [isAbsolute] at hrelative
  rw [join, hrelative, if_neg Bool.false_ne_true]
  split_ifs with hempty hslash
  · exact .inl ⟨String.isEmpty_iff.mp hempty, rfl⟩
  · obtain ⟨above, habove⟩ := String.Slice.endsWith_string_iff.mp hslash
    have hdirectory : directory.toList = above ++ ['/'] := by simpa using habove.symm
    exact .inr ⟨above, by simp [hdirectory], .inr hdirectory⟩
  · exact .inr ⟨directory.toList, by simp, .inl rfl⟩

namespace Source

/-! ## The format of a path -/

section

variable {word directory name : String} (hword : '/' ∉ word.toList) (hne : word ≠ "")
  (hname : '/' ∉ name.toList)

include hword in
theorem mentions_iff_of_above {path : String} {above rest : List Char}
    (h : path.toList = above ++ '/' :: rest) :
    Mentions word path ↔ word.toList <:+: Text.lower above ∨ word.toList <:+: Text.lower rest := by
  rw [Mentions, h, Text.lower_append_slash, Text.infix_append_separator_iff hword]

include hword hne hname

/-- A path mentions what its directory or its last name mentions. -/
theorem mentions_join_iff :
    Mentions word (Path.join directory name) ↔ Mentions word directory ∨ Mentions word name := by
  have hnowhere : ¬ word.toList <:+: [] := fun h =>
    hne (String.toList_eq_nil_iff.mp (List.infix_nil.mp h))
  rcases Disk.Path.join_plain directory hname with ⟨rfl, hjoin⟩ | ⟨above, hjoin, hsame | hslash⟩
  · rw [hjoin]
    exact (or_iff_right hnowhere).symm
  · rw [mentions_iff_of_above hword hjoin, ← hsame, Mentions, Mentions]
  · rw [mentions_iff_of_above hword hjoin, mentions_iff_of_above hword hslash]
    exact or_congr_left (or_iff_left hnowhere).symm

end

theorem Format.ofHint_eq (hint : String) :
    Format.ofHint hint = if Mentions "json" hint then .json
      else if Mentions "yaml" hint ∨ ".yml".toList <:+ Text.lower hint.toList then .yaml
      else .either := by
  simp only [Format.ofHint, Mentions, Text.occurs_iff, List.isSuffixOf_iff_suffix]
  rfl

/-- The format of a path, from the format that the file name tells and from the directory. -/
theorem ofHint_join (directory : String) {name : String} (hname : '/' ∉ name.toList) :
    Format.ofHint (Path.join directory name) = (Format.ofHint name).within directory := by
  have hjson : Mentions "json" (Path.join directory name) ↔
      Mentions "json" directory ∨ Mentions "json" name :=
    mentions_join_iff (by decide) (by decide) hname
  have hyaml : Mentions "yaml" (Path.join directory name) ↔
      Mentions "yaml" directory ∨ Mentions "yaml" name :=
    mentions_join_iff (by decide) (by decide) hname
  have hyml : ".yml".toList <:+ Text.lower (Path.join directory name).toList ↔
      ".yml".toList <:+ Text.lower name.toList := by
    rcases Disk.Path.join_plain directory hname with ⟨-, hjoin⟩ | ⟨above, hjoin, -⟩
    · rw [hjoin]
    · rw [hjoin, Text.lower_append_slash, Text.suffix_append_separator_iff (by decide)]
  simp only [Format.ofHint_eq, Format.within, hjson, hyaml, hyml, or_assoc]
  by_cases hdirectory : Mentions "json" directory
  · rw [if_pos (.inl hdirectory), if_pos hdirectory]
  by_cases hnamed : Mentions "json" name
  · rw [if_pos (.inr hnamed), if_neg hdirectory, if_pos hnamed, if_neg fun h => nomatch h.2]
  rw [if_neg (not_or_intro hdirectory hnamed), if_neg hdirectory, if_neg hnamed]
  by_cases hplain : Mentions "yaml" name ∨ ".yml".toList <:+ Text.lower name.toList
  · rw [if_pos (.inr hplain), if_pos hplain, if_neg fun h => nomatch h.2]
  · simp only [hplain, or_false, if_false, and_true]

example : Format.ofHint (Path.join "my.YAML.d" "api") = .yaml := by decide +kernel

/-- The directory changes the format exactly if it overrules the name. -/
theorem within_eq_self_iff (directory name : String) :
    (Format.ofHint name).within directory = Format.ofHint name ↔ ¬ Overrules directory name := by
  rw [Format.within, Overrules]
  grind

/-! ## Formats told apart -/

/-- A word without quotes is YAML only; a tab before a value is JSON only. -/
theorem Format.parse_apart :
    (json.parse "a").isOk = false ∧ (yaml.parse "a").isOk = true ∧
      (either.parse "a").isOk = true ∧ (yaml.parse "\t1").isOk = false ∧
      (either.parse "\t1").isOk = true := by
  decide +kernel

theorem not_sameKind_of_isOk {a b : Except Failure Json} (ha : a.isOk = false)
    (hb : b.isOk = true) : ¬ SameKind a b := by
  cases a with
  | ok document => cases ha
  | error e =>
    cases b with
    | ok document => exact fun h => nomatch h
    | error e' => cases hb

/-- A name that is overruled is read in another format, which fails on a text that is well-formed
in its own. -/
theorem exists_not_sameKind {directory name : String} (h : Overrules directory name) :
    ∃ text, ¬ SameKind (((Format.ofHint name).within directory).parse text)
      ((Format.ofHint name).parse text) := by
  obtain ⟨hjson, hyaml, heither, hyaml', heither'⟩ := Format.parse_apart
  rcases h with ⟨hdirectory, hname⟩ | ⟨hdirectory, hname⟩
  · refine ⟨"a", ?_⟩
    rw [Format.within, if_pos hdirectory]
    cases hformat : Format.ofHint name with
    | json => exact absurd hformat hname
    | yaml => exact not_sameKind_of_isOk hjson hyaml
    | either => exact not_sameKind_of_isOk hjson heither
  · rw [Format.within, hname]
    split_ifs with hjson' hboth
    · exact ⟨"a", not_sameKind_of_isOk hjson heither⟩
    · exact ⟨"\t1", not_sameKind_of_isOk hyaml' heither'⟩
    · exact absurd ⟨hdirectory, rfl⟩ hboth

/-! ## Loading -/

variable (network : Http.Network Id) (now : String)

/-- A source that reads a file reads the format that the path tells. -/
theorem load_file {source : Source} {place : String} (h : source.ReadsFile place) {world : World}
    {content : ByteArray} (hread : world.disk.read place = .ok content) :
    (world.run (source.load (World.host network now) place)).1 =
      match Disk.decode content with
      | .ok text => (Format.ofHint place).parse text
      | .error cause => .error (.sourceUnavailable place cause.message) := by
  have hload : source.load (World.host network now) place =
      loadFile (World.host network now) place := by
    cases source with
    | files => rfl
    | web => exact h.elim
    | anywhere => exact if_neg (by rw [h]; exact Bool.false_ne_true)
  have htext : world.disk.readText place = Disk.decode content := by
    rw [Disk.readText, hread]
    rfl
  rw [hload, loadFile, World.run_bind, World.run_readText, htext]
  cases Disk.decode content with
  | ok text => rfl
  | error cause => rfl

/-- A file name by itself is no web address. -/
theorem ReadsFile.plain {source : Source} {directory name : String} (hname : '/' ∉ name.toList)
    (h : source.ReadsFile (Path.join directory name)) : source.ReadsFile name := by
  cases source with
  | files => trivial
  | web => exact h.elim
  | anywhere =>
    have hnever (scheme : String) (hscheme : '/' ∈ scheme.toList) :
        name.startsWith scheme = false := by
      rw [← Bool.not_eq_true, String.startsWith_string_iff]
      exact fun hstart => hname (hstart.subset hscheme)
    rw [ReadsFile, isWebAddress, hnever _ (by decide), hnever _ (by decide), Bool.or_false]

/-- A file loads in a directory as it does by its name alone, unless the directory overrules the
name; then there is a content that does not. -/
theorem load_in_directory {source : Source} {directory name : String} (hname : '/' ∉ name.toList)
    (hfile : source.ReadsFile (Path.join directory name)) :
    (¬ Overrules directory name → ∀ content, ∀ world world' : World,
      world.disk.read (Path.join directory name) = .ok content →
      world'.disk.read name = .ok content →
      SameKind (world.run (source.load (World.host network now) (Path.join directory name))).1
        (world'.run (source.load (World.host network now) name)).1) ∧
    (Overrules directory name → ∃ content, ∀ world world' : World,
      world.disk.read (Path.join directory name) = .ok content →
      world'.disk.read name = .ok content →
      ¬ SameKind (world.run (source.load (World.host network now) (Path.join directory name))).1
        (world'.run (source.load (World.host network now) name)).1) := by
  have hplain := hfile.plain hname
  constructor
  · intro hfree content world world' hread hread'
    rw [load_file network now hfile hread, load_file network now hplain hread',
      ofHint_join directory hname, (within_eq_self_iff directory name).mpr hfree]
    cases Disk.decode content with
    | ok text => exact rfl
    | error cause => exact rfl
  · intro hoverrules
    obtain ⟨text, hapart⟩ := exists_not_sameKind hoverrules
    refine ⟨text.toUTF8, fun world world' hread hread' => ?_⟩
    rw [load_file network now hfile hread, load_file network now hplain hread',
      ofHint_join directory hname, Disk.decode_toUTF8]
    exact hapart

/-- One description by its name alone and in two directories, the second of which is named for a
format. -/
def shelf : World :=
  let description := "openapi: 3.0.0\n".toUTF8
  .ofDisk ⟨[(["home"], .directory), (["home", "api.yaml"], .file description),
    (["home", "v1"], .directory), (["home", "v1", "api.yaml"], .file description),
    (["home", "json"], .directory), (["home", "json", "api.yaml"], .file description)], ["home"]⟩

theorem shelf_reads : ∀ path ∈ ["api.yaml", Path.join "v1" "api.yaml", Path.join "json" "api.yaml"],
    shelf.disk.read path = .ok "openapi: 3.0.0\n".toUTF8 := by
  decide +kernel

theorem load_in_directory_shelf :
    '/' ∉ "api.yaml".toList ∧ anywhere.ReadsFile (Path.join "v1" "api.yaml") ∧
      ¬ Overrules "v1" "api.yaml" ∧ Overrules "json" "api.yaml" ∧
      SameKind
        (shelf.run (anywhere.load (World.host (fun _ => none) "") (Path.join "v1" "api.yaml"))).1
        (shelf.run (anywhere.load (World.host (fun _ => none) "") "api.yaml")).1 := by
  have hname : '/' ∉ "api.yaml".toList := by decide
  have hfile : anywhere.ReadsFile (Path.join "v1" "api.yaml") := by decide +kernel
  have hfree : ¬ Overrules "v1" "api.yaml" := by decide +kernel
  have hsame := (load_in_directory (fun _ => none) "" hname hfile).1 hfree
  refine ⟨hname, hfile, hfree, by decide +kernel, ?_⟩
  exact hsame _ shelf shelf (shelf_reads _ (by simp)) (shelf_reads _ (by simp))

/-- The same content by the same name, in a directory that is named for the other format: one is a
failure, the other a document. -/
theorem shelf_misread :
    shelf.disk.read (Path.join "json" "api.yaml") = shelf.disk.read "api.yaml" ∧
      ¬ SameKind
        (shelf.run (files.load (World.host (fun _ => none) "") (Path.join "json" "api.yaml"))).1
        (shelf.run (files.load (World.host (fun _ => none) "") "api.yaml")).1 ∧
      ¬ SameKind
        (shelf.run (anywhere.load (World.host (fun _ => none) "") (Path.join "json" "api.yaml"))).1
        (shelf.run (anywhere.load (World.host (fun _ => none) "") "api.yaml")).1 := by
  have hruns : ∀ source ∈ [files, anywhere],
      (shelf.run (source.load (World.host (fun _ => none) "")
        (Path.join "json" "api.yaml"))).1.isOk = false ∧
      (shelf.run (source.load (World.host (fun _ => none) "") "api.yaml")).1.isOk = true := by
    decide +kernel
  obtain ⟨hfails, hloads⟩ := hruns files (by simp)
  obtain ⟨hfails', hloads'⟩ := hruns anywhere (by simp)
  refine ⟨?_, not_sameKind_of_isOk hfails hloads, not_sameKind_of_isOk hfails' hloads'⟩
  rw [shelf_reads _ (by simp), shelf_reads "api.yaml" (by simp)]

end Source

end ClientForge
