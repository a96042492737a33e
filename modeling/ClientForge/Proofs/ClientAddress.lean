import ClientForge.Client
import ClientForge.Proofs.FileFormats
import ClientForge.Proofs.VisibleText

/-!
Where the requests of a client go: to its own address if it has one, else to that of the API, which
may have places for a region and a workspace.

Results:
1. `Text.fills_iff`: replacing a marker puts the new text into the places of the marker and leaves
   the pieces between them.
2. `Client.resolveBaseUrl_eq_ok_iff`, `Client.resolveBaseUrl_eq_error_iff`: the address of requests,
   and when there is none.
3. `Client.address_withBaseUrl_iff`: an address given with slashes at its end.
-/

namespace ClientForge

/-! ## Definitions -/

/-- The filled text has the value wherever the template has the marker, between pieces without it. -/
def Text.Fills (marker value template filled : List Char) : Prop :=
  ∃ pieces, pieces ≠ [] ∧ (∀ piece ∈ pieces, ¬ marker <:+: piece) ∧
    marker.intercalate pieces = template ∧ value.intercalate pieces = filled

namespace Client

open Text (Fills)

/-- A workspace is asked for, and nothing tells one: once the region is filled in, there is a place
for it. -/
def LacksWorkspace (client : Client) (template : String) : Prop :=
  client.baseUrl = none ∧ client.workspaceId = none ∧ ∃ regional,
    Fills regionMarker client.region.toList template.toList regional ∧ workspaceMarker <:+: regional

/-- The address that requests to an API with this template go to. -/
inductive Address (client : Client) (template : String) : String → Prop
  | own {url : String} : client.baseUrl = some url → Address client template url
  | regional {url : String} : client.baseUrl = none →
      Fills regionMarker client.region.toList template.toList url.toList →
      ¬ workspaceMarker <:+: url.toList → Address client template url
  | workspace {regional : List Char} {id url : String} : client.baseUrl = none →
      Fills regionMarker client.region.toList template.toList regional →
      workspaceMarker <:+: regional → client.workspaceId = some id →
      Fills workspaceMarker id.toList regional url.toList → Address client template url

/-- The address as it was given, without the slashes at its end. -/
def IsTrimmed (given url : String) : Prop :=
  (∃ slashes, given.toList = url.toList ++ List.replicate slashes '/') ∧
    ∀ c ∈ url.toList.getLast?, c ≠ '/'

end Client

/-! ## Markers -/

namespace Text

section

variable {marker value : List Char}

theorem replaceFrom_skip (skipped cs : List Char) :
    replaceFrom marker value skipped.length (skipped ++ cs) = replace marker value cs := by
  induction skipped with
  | nil => rfl
  | cons _ skipped ih => exact ih

theorem replace_marker (hmarker : marker ≠ []) (cs : List Char) :
    replace marker value (marker ++ cs) = value ++ replace marker value cs := by
  obtain ⟨c, rest, rfl⟩ := List.exists_cons_of_ne_nil hmarker
  rw [← replaceFrom_skip rest cs, replace, List.cons_append, replaceFrom, if_pos ⟨hmarker, by simp⟩,
    List.length_cons, Nat.add_sub_cancel]

theorem replace_cons {c : Char} {cs : List Char} (h : ¬ marker <+: c :: cs) :
    replace marker value (c :: cs) = c :: replace marker value cs := by
  rw [replace, replaceFrom, if_neg fun hfound => h (List.isPrefixOf_iff_prefix.mp hfound.2)]
  rfl

/-- A text is filled from left to right: a place for the value or one more character of a piece. -/
theorem fills_replace (hmarker : marker ≠ []) (value : List Char) : (template : List Char) →
    Fills marker value template (replace marker value template)
  | [] => ⟨[[]], by simp, by simpa using hmarker, rfl, rfl⟩
  | c :: cs => by
    by_cases hstart : marker <+: c :: cs
    · obtain ⟨rest, hrest⟩ := hstart
      have hlength : rest.length < (c :: cs).length := by
        rw [← hrest, List.length_append]
        exact Nat.lt_add_of_pos_left (List.length_pos_iff.mpr hmarker)
      obtain ⟨pieces, hne, hfree, htemplate, hfilled⟩ := fills_replace hmarker value rest
      rw [← hrest, replace_marker hmarker, ← hfilled, ← htemplate]
      refine ⟨[] :: pieces, List.cons_ne_nil _ _, ?_, ?_, ?_⟩
      · exact List.forall_mem_cons.mpr ⟨by simpa using hmarker, hfree⟩
      · rw [List.intercalate_cons_of_ne_nil hne, List.nil_append]
      · rw [List.intercalate_cons_of_ne_nil hne, List.nil_append]
    · obtain ⟨pieces, hne, hfree, htemplate, hfilled⟩ := fills_replace hmarker value cs
      obtain ⟨piece, pieces, rfl⟩ := List.exists_cons_of_ne_nil hne
      have hgrow (separator : List Char) : separator.intercalate ((c :: piece) :: pieces) =
          c :: separator.intercalate (piece :: pieces) := by
        cases pieces <;> rfl
      have hpiece : ¬ marker <:+: c :: piece := by
        rw [List.infix_cons_iff, not_or]
        refine ⟨fun hfront => hstart (hfront.trans ?_), (List.forall_mem_cons.mp hfree).1⟩
        rw [← htemplate, ← hgrow]
        cases pieces with
        | nil => simp
        | cons => exact ⟨_, rfl⟩
      rw [replace_cons hstart, ← hfilled]
      exact ⟨_, List.cons_ne_nil _ _,
        List.forall_mem_cons.mpr ⟨hpiece, (List.forall_mem_cons.mp hfree).2⟩,
        (hgrow marker).trans (congrArg _ htemplate), hgrow value⟩
termination_by template => template.length
decreasing_by
  · exact hlength
  · exact Nat.lt_succ_self _

end

/-- A marker whose first character does not come again cannot begin inside a piece before it. -/
theorem not_prefix_of_piece {m : Char} {rest piece : List Char} (hm : m ∉ rest) {c : Char}
    (h : ¬ m :: rest <:+: c :: piece) (cs : List Char) :
    ¬ m :: rest <+: (c :: piece) ++ (m :: rest ++ cs) := by
  intro hstart
  rcases List.prefix_or_prefix_of_prefix hstart (List.prefix_append _ _) with hin | ⟨front, hfront⟩
  · exact h hin.isInfix
  · rw [← hfront, List.prefix_append_right_inj] at hstart
    cases front with
    | nil => exact h (by rw [← hfront, List.append_nil])
    | cons d front =>
      obtain ⟨rfl, hrest⟩ := List.cons_eq_cons.mp hfront
      obtain rfl : d = c := (List.cons_prefix_cons.mp hstart).1
      exact hm (by rw [← hrest]; simp)

section

variable {m : Char} {rest : List Char} (hm : m ∉ rest) (value : List Char)
include hm

theorem replace_piece {piece : List Char} (h : ¬ m :: rest <:+: piece) (cs : List Char) :
    replace (m :: rest) value (piece ++ (m :: rest ++ cs)) =
      piece ++ (value ++ replace (m :: rest) value cs) := by
  induction piece with
  | nil => exact replace_marker (List.cons_ne_nil _ _) cs
  | cons c piece ih =>
    have hrest := ih fun hin => h (List.infix_cons hin)
    exact (replace_cons (not_prefix_of_piece hm h cs)).trans (congrArg (c :: ·) hrest)

omit hm in
theorem replace_free {piece : List Char} (h : ¬ m :: rest <:+: piece) :
    replace (m :: rest) value piece = piece := by
  induction piece with
  | nil => rfl
  | cons c piece ih =>
    rw [replace_cons fun hstart => h hstart.isInfix, ih fun hin => h (List.infix_cons hin)]

theorem replace_intercalate {pieces : List (List Char)} (hne : pieces ≠ [])
    (hfree : ∀ piece ∈ pieces, ¬ m :: rest <:+: piece) :
    replace (m :: rest) value ((m :: rest).intercalate pieces) = value.intercalate pieces := by
  induction pieces with
  | nil => exact absurd rfl hne
  | cons piece pieces ih =>
    obtain ⟨hpiece, hpieces⟩ := List.forall_mem_cons.mp hfree
    by_cases hlast : pieces = []
    · rw [hlast, List.intercalate_singleton, List.intercalate_singleton, replace_free value hpiece]
    · rw [List.intercalate_cons_of_ne_nil hlast, List.intercalate_cons_of_ne_nil hlast,
        List.append_assoc, replace_piece hm value hpiece, ih hlast hpieces, List.append_assoc]

/-- What a template is filled to. -/
theorem fills_iff {template filled : List Char} :
    Fills (m :: rest) value template filled ↔ replace (m :: rest) value template = filled := by
  constructor
  · rintro ⟨pieces, hne, hfree, rfl, rfl⟩
    exact replace_intercalate hm value hne hfree
  · rintro rfl
    exact fills_replace (List.cons_ne_nil _ _) value template

end

end Text

/-! ## Addresses -/

namespace Client

open Text (Fills fills_iff occurs_iff dropEndWhile)

theorem fills_region_iff {value template filled : List Char} :
    Fills regionMarker value template filled ↔ Text.replace regionMarker value template = filled :=
  fills_iff (m := '\x7b') (by decide) value

theorem fills_workspace_iff {value template filled : List Char} :
    Fills workspaceMarker value template filled ↔
      Text.replace workspaceMarker value template = filled :=
  fills_iff (m := '\x7b') (by decide) value

variable {client : Client} {template : String}

theorem Address.resolves {url : String} (h : client.Address template url) :
    client.resolveBaseUrl template = .ok url := by
  rw [resolveBaseUrl]
  rcases h with hown | ⟨hnone, hregion, hfree⟩ | ⟨hnone, hregion, hplace, hid, hworkspace⟩
  · rw [hown]
  · simp only [hnone, fills_region_iff.mp hregion]
    rw [if_neg (occurs_iff.not.mpr hfree), String.ofList_toList]
  · simp only [hnone, fills_region_iff.mp hregion]
    rw [if_pos (occurs_iff.mpr hplace), Client.workspace, Option.none_or, hid]
    simp only [Except.map, fills_workspace_iff.mp hworkspace, String.ofList_toList]

theorem LacksWorkspace.fails (h : client.LacksWorkspace template) :
    client.resolveBaseUrl template = .error (.missingValue "workspace_id") := by
  obtain ⟨hnone, hid, regional, hregion, hplace⟩ := h
  rw [resolveBaseUrl]
  simp only [hnone, fills_region_iff.mp hregion]
  rw [if_pos (occurs_iff.mpr hplace), Client.workspace, Option.none_or, hid]
  rfl

/-- There is an address unless a workspace is missing. -/
theorem exists_address (h : ¬ client.LacksWorkspace template) :
    ∃ url, client.Address template url := by
  cases hown : client.baseUrl with
  | some url => exact ⟨url, .own hown⟩
  | none =>
    have hregion := fills_region_iff.mpr
      (Eq.refl (Text.replace regionMarker client.region.toList template.toList))
    by_cases hplace :
        workspaceMarker <:+: Text.replace regionMarker client.region.toList template.toList
    · cases hid : client.workspaceId with
      | none => exact absurd ⟨hown, hid, _, hregion, hplace⟩ h
      | some id =>
        exact ⟨_, .workspace hown hregion hplace hid
          (fills_workspace_iff.mpr (String.toList_ofList).symm)⟩
    · refine ⟨String.ofList (Text.replace regionMarker client.region.toList template.toList),
        .regional hown ?_ ?_⟩
      · rwa [String.toList_ofList]
      · rwa [String.toList_ofList]

theorem resolveBaseUrl_eq_ok_iff {url : String} :
    client.resolveBaseUrl template = .ok url ↔ client.Address template url := by
  refine ⟨fun h => ?_, Address.resolves⟩
  have hhas : ¬ client.LacksWorkspace template := fun hlacks => by
    rw [hlacks.fails] at h
    cases h
  obtain ⟨found, hfound⟩ := exists_address hhas
  cases h.symm.trans hfound.resolves
  exact hfound

theorem resolveBaseUrl_eq_error_iff {e : Error} : client.resolveBaseUrl template = .error e ↔
    e = .missingValue "workspace_id" ∧ client.LacksWorkspace template := by
  constructor
  · intro h
    have hlacks : client.LacksWorkspace template := by
      by_contra hhas
      obtain ⟨url, hurl⟩ := exists_address hhas
      rw [hurl.resolves] at h
      cases h
    cases h.symm.trans hlacks.fails
    exact ⟨rfl, hlacks⟩
  · rintro ⟨rfl, hlacks⟩
    exact hlacks.fails

theorem isTrimmed_iff {given url : String} :
    IsTrimmed given url ↔ String.ofList (dropEndWhile (· == '/') given.toList) = url := by
  constructor
  · rintro ⟨⟨slashes, hgiven⟩, hlast⟩
    have hurl : dropEndWhile (· == '/') url.toList = url.toList :=
      Text.dropEndWhile_eq_self_iff.mpr fun c hc => by simpa using hlast c hc
    have hdrop : dropEndWhile (· == '/') given.toList = dropEndWhile (· == '/') url.toList := by
      rw [hgiven, dropEndWhile, List.reverse_append, List.reverse_replicate,
        List.dropWhile_append_of_pos (by simp)]
      rfl
    rw [hdrop, hurl, String.ofList_toList]
  · rintro rfl
    rw [IsTrimmed, String.toList_ofList]
    constructor
    · refine ⟨(given.toList.reverse.takeWhile (· == '/')).length, ?_⟩
      have hslashes : given.toList.reverse.takeWhile (· == '/') =
          List.replicate (given.toList.reverse.takeWhile (· == '/')).length '/' :=
        List.eq_replicate_of_mem fun c hc => by simpa using List.mem_takeWhile_imp hc
      rw [dropEndWhile, ← List.reverse_replicate, ← hslashes, ← List.reverse_append,
        List.takeWhile_append_dropWhile, List.reverse_reverse]
    · intro c hc
      simpa using Text.getLast?_dropEndWhile (· == '/') given.toList c hc

/-- Requests to an address that was given go to it, but for the slashes at its end. -/
theorem address_withBaseUrl_iff {given url : String} :
    (client.withBaseUrl given).Address template url ↔ IsTrimmed given url := by
  rw [← resolveBaseUrl_eq_ok_iff, isTrimmed_iff, resolveBaseUrl, withBaseUrl, Except.ok.injEq]

end Client

end ClientForge
