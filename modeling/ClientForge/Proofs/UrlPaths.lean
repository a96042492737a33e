import ClientForge.Proofs.LowerStable
import ClientForge.Proofs.UrlReading

/-!
Paths below an address. A client writes the URL of a request by putting segments behind the address
of an API, a slash before each. They are read as they were meant exactly if no segment holds a
separator, a line break or an escape or is a dot segment, and the last one does not end in a blank:
in all other cases what is read stands for fewer bytes than the path was written with.

Results:
1. `ArePlain.of_decode`: a path that is read as its segments were meant consists of plain ones.
2. `IsBase.below_plain`: where plain segments lead.
3. `IsBase.below_iff`: when the segments of a path are read as they were meant.
-/

namespace ClientForge.Http.Url

/-! ## Definitions -/

/-- A path whose segments are plain, the last one without a blank at its end. -/
structure ArePlain (segments : List (List Char)) : Prop where
  plain : ∀ segment ∈ segments, IsPlain segment
  last : ∀ segment ∈ segments.getLast?, ∀ c ∈ segment.getLast?, isEdgeBlank c = false

/-- A path as it is written, a slash before every segment. -/
def written (segments : List (List Char)) : List Char := segments.flatMap ('/' :: ·)

/-! ## Segments -/

theorem written_cons (segment : List Char) (segments : List (List Char)) :
    written (segment :: segments) = '/' :: segment ++ written segments :=
  List.flatMap_cons

theorem written_eq_intercalate {segments : List (List Char)} (h : segments ≠ []) :
    written segments = '/' :: ['/'].intercalate segments := by
  induction segments with
  | nil => exact absurd rfl h
  | cons segment segments ih =>
    rw [written_cons]
    by_cases hrest : segments = []
    · rw [hrest, List.intercalate_singleton]
      exact List.append_nil _
    · rw [ih hrest, List.intercalate_cons_of_ne_nil hrest]
      simp

theorem length_utf8_written (segments : List (List Char)) :
    (utf8 (written segments)).length = size segments := by
  induction segments with
  | nil => rfl
  | cons segment segments ih =>
    have hslash : (String.utf8EncodeChar '/').length = 1 := rfl
    rw [written_cons, utf8_append, utf8_cons, size_cons, List.length_append, List.length_append, ih,
      hslash, Nat.add_comm 1]

/-- Paths with the same text have the same segments, if no segment holds a slash. -/
theorem written_injective {segments others : List (List Char)}
    (hsegments : ∀ s ∈ segments, '/' ∉ s) (hothers : ∀ s ∈ others, '/' ∉ s)
    (h : written segments = written others) : segments = others := by
  by_cases hne : segments = []
  · subst hne
    cases others with
    | nil => rfl
    | cons other others => cases h
  · have hne' : others ≠ [] := by
      rintro rfl
      rw [written_eq_intercalate hne] at h
      cases h
    rw [written_eq_intercalate hne, written_eq_intercalate hne'] at h
    rw [← List.splitOn_intercalate '/' hsegments hne, (List.cons.inj h).2,
      List.splitOn_intercalate '/' hothers hne']

theorem slash_not_mem_splitOn {cs segment : List Char} (h : segment ∈ cs.splitOn '/') :
    '/' ∉ segment := by
  induction cs generalizing segment with
  | nil =>
    obtain rfl := List.mem_singleton.mp h
    exact List.not_mem_nil
  | cons c cs ih =>
    rw [List.splitOn_cons_eq_if_modifyHead] at h
    split at h
    · rcases List.mem_cons.mp h with rfl | h
      · exact List.not_mem_nil
      · exact ih h
    · next hc =>
      cases hrest : cs.splitOn '/' with
      | nil => exact absurd hrest (List.splitOn_ne_nil _ _)
      | cons first others =>
        rw [hrest, List.modifyHead_cons] at h
        rcases List.mem_cons.mp h with rfl | h
        · have hfirst := ih (hrest ▸ List.mem_cons_self)
          exact fun hmem => (List.mem_cons.mp hmem).elim (fun heq => hc (by rw [← heq]; rfl)) hfirst
        · exact ih (hrest ▸ List.mem_cons_of_mem _ h)

theorem segmentsOf_slash (cs : List Char) :
    segmentsOf ('/' :: cs) = (cs.map clean).splitOn '/' := rfl

theorem length_utf8_clean (cs : List Char) : (utf8 (cs.map clean)).length = (utf8 cs).length := by
  induction cs with
  | nil => rfl
  | cons c cs ih =>
    have hc : (String.utf8EncodeChar (clean c)).length = (String.utf8EncodeChar c).length := by
      rw [clean]
      split
      · next hslash =>
        rw [isSlash, Bool.or_eq_true, beq_iff_eq, beq_iff_eq] at hslash
        rcases hslash with rfl | rfl <;> rfl
      · rfl
    rw [List.map_cons, utf8_cons, utf8_cons, List.length_append, List.length_append, ih, hc]

/-- The segments of a path are as long as the path. -/
theorem size_segmentsOf (cs : List Char) :
    size (segmentsOf ('/' :: cs)) = (utf8 ('/' :: cs)).length := by
  rw [segmentsOf_slash, ← length_utf8_written,
    written_eq_intercalate (List.splitOn_ne_nil _ _), List.intercalate_splitOn, utf8_cons, utf8_cons,
    List.length_append, List.length_append, length_utf8_clean]

/-- No separator is in a segment that is read. -/
theorem not_isSlash_of_mem_segmentsOf {cs segment : List Char}
    (h : segment ∈ segmentsOf ('/' :: cs)) : ∀ c ∈ segment, isSlash c = false := by
  intro c hc
  have hne : c ≠ '/' := fun heq => slash_not_mem_splitOn h (heq ▸ hc)
  have hmem : c ∈ written (segmentsOf ('/' :: cs)) :=
    List.mem_flatMap.mpr ⟨segment, h, List.mem_cons_of_mem _ hc⟩
  rw [segmentsOf_slash, written_eq_intercalate (List.splitOn_ne_nil _ _), List.intercalate_splitOn]
    at hmem
  obtain ⟨d, _, rfl⟩ := List.mem_map.mp ((List.mem_cons.mp hmem).resolve_left hne)
  rw [clean] at hne ⊢
  split at hne
  · exact absurd rfl hne
  · next hd => rw [if_neg hd]; exact Bool.eq_false_iff.mpr hd

/-! ## Plain paths -/

theorem mem_written {segment : List Char} {segments : List (List Char)} {c : Char}
    (hsegment : segment ∈ segments) (hc : c ∈ segment) : c ∈ written segments :=
  List.mem_flatMap.mpr ⟨segment, hsegment, List.mem_cons_of_mem _ hc⟩

/-- Blanks are dropped at the end of a path exactly if its last segment ends in one. -/
theorem dropEndWhile_written_iff {segments : List (List Char)} :
    Text.dropEndWhile isEdgeBlank (written segments) = written segments ↔
      ∀ segment ∈ segments.getLast?, ∀ c ∈ segment.getLast?, isEdgeBlank c = false := by
  rcases List.eq_nil_or_concat segments with rfl | ⟨front, last, rfl⟩
  · exact iff_of_true rfl fun _ h => nomatch h
  · have hwritten : written (front ++ [last]) = written front ++ '/' :: last := by
      simp [written]
    rw [List.concat_eq_append, hwritten, dropEndWhile_through (by decide),
      List.append_cancel_left_eq, List.cons.injEq, and_iff_right rfl, List.getLast?_concat,
      Text.dropEndWhile_eq_self_iff]
    simp

/-- A character that neither separates parts of a URL nor is dropped. -/
theorem not_separator_iff {c : Char} : c ∉ ['/', '\\', '?', '#', '\t', '\n', '\r'] ↔
    isSlash c = false ∧ endsPath c = false ∧ isKept c := by
  simp only [List.mem_cons, List.not_mem_nil, or_false, not_or, isSlash, endsPath, isKept,
    Bool.or_eq_false_iff, Bool.and_eq_true, beq_eq_false_iff_ne, bne_iff_ne, ne_eq]
  tauto

namespace ArePlain

variable {segments : List (List Char)}

theorem readPath_eq (h : ArePlain segments) : readPath (written segments) = written segments := by
  refine readPath_eq_self_iff.mpr ⟨dropEndWhile_written_iff.mpr h.last, fun c hc => ?_⟩
  obtain ⟨segment, hsegment, hmem⟩ := List.mem_flatMap.mp hc
  rcases List.mem_cons.mp hmem with rfl | hmem
  · decide
  · obtain ⟨_, hends, hkept⟩ :=
      not_separator_iff.mp ((h.plain segment hsegment).separators c hmem)
    exact ⟨hkept, hends⟩

theorem segmentsOf_eq (h : ArePlain segments) (hne : segments ≠ []) :
    segmentsOf (written segments) = segments := by
  have hslash (segment : List Char) (hsegment : segment ∈ segments) (c : Char) (hc : c ∈ segment) :
      isSlash c = false :=
    (not_separator_iff.mp ((h.plain segment hsegment).separators c hc)).1
  have hclean : (['/'].intercalate segments).map clean = ['/'].intercalate segments := by
    refine (List.map_congr_left fun c hc => ?_).trans (List.map_id _)
    have hmem : c ∈ written segments :=
      written_eq_intercalate hne ▸ List.mem_cons_of_mem _ hc
    obtain ⟨segment, hsegment, hmem⟩ := List.mem_flatMap.mp hmem
    rcases List.mem_cons.mp hmem with rfl | hmem
    · rfl
    · rw [clean, hslash segment hsegment c hmem]
      rfl
  rw [written_eq_intercalate hne, segmentsOf_slash, hclean]
  refine List.splitOn_intercalate '/' (fun segment hsegment hmem => ?_) hne
  cases hslash segment hsegment '/' hmem

/-- What plain segments are encoded as stands for their own bytes. -/
theorem decode_encoded (h : ArePlain segments) :
    (segments.map (encode pathSpecial)).map decode = segments.map utf8 := by
  rw [List.map_map]
  refine List.map_congr_left fun s hs => (decode_encode sparesEscapes_path s).trans ?_
  exact decode_of_plain (h.plain s hs).escapes

/-- Plain segments that differ are written differently once they are encoded. -/
theorem eq_of_encoded {others : List (List Char)} (h : ArePlain segments) (h' : ArePlain others)
    (heq : written (segments.map (encode pathSpecial)) = written (others.map (encode pathSpecial))) :
    segments = others := by
  have hslash {segments : List (List Char)} (h : ArePlain segments) :
      ∀ cs ∈ segments.map (encode pathSpecial), '/' ∉ cs := by
    intro cs hcs
    obtain ⟨s, hs, rfl⟩ := List.mem_map.mp hcs
    exact slash_not_mem_encode fun hmem =>
      (h.plain s hs).separators '/' hmem List.mem_cons_self
  refine List.map_injective_iff.mpr utf8_injective ?_
  rw [← h.decode_encoded, written_injective (hslash h) (hslash h') heq, h'.decode_encoded]

/-- A path that is read as its segments were meant consists of plain ones. -/
theorem of_decode (hne : segments ≠ []) (before : List String) {encoded : List String}
    (hpath : normalize before.reverse (segmentsOf (readPath (written segments))) = before ++ encoded)
    (hdecode : encoded.map (decode ·.toList) = segments.map utf8) : ArePlain segments := by
  obtain ⟨cs, hcs⟩ : ∃ cs, written segments = '/' :: cs := ⟨_, written_eq_intercalate hne⟩
  have hpieces : size (segmentsOf (readPath (written segments))) =
      (utf8 (readPath (written segments))).length := by
    rw [hcs, readPath_slash, size_segmentsOf]
  have hweight : weight encoded = size segments := by
    have hsum := congrArg (fun bytes => (bytes.map fun b => b.length + 1).sum) hdecode
    simpa [weight, size, Function.comp_def] using hsum
  have hle := normalize_weight before.reverse (segmentsOf (readPath (written segments)))
  rw [hpath, weight_append, weight_reverse, hweight, ← length_utf8_written, hpieces] at hle
  -- the path is as long as its segments, so nothing of it is passed over
  have hread : readPath (written segments) = written segments := by
    have hsublist : List.Sublist (readPath (written segments)) (written segments) :=
      (readPath_sublist _).trans ((trail_sublist _).trans (dropEndWhile_sublist _ _))
    have hbytes := hsublist.flatMap String.utf8EncodeChar
    exact utf8_injective (hbytes.eq_of_length_le (Nat.le_of_add_le_add_left hle))
  rw [hread] at hpath hpieces
  have hfull : weight before.reverse + size (segmentsOf (written segments)) ≤
      weight (normalize before.reverse (segmentsOf (written segments))) := by
    rw [hpath, weight_append, weight_reverse, hweight, hpieces, length_utf8_written]
  have hstay := stay_of_normalize before.reverse hfull
  -- what is read are the segments, as they decode to the same
  have hencoded : encoded = (segmentsOf (written segments)).map
      fun s => String.ofList (encode pathSpecial s) := by
    rw [normalize_stay fun s hs => (hstay s hs).1, List.reverse_reverse] at hpath
    exact (List.append_cancel_left hpath).symm
  have hsegments : segmentsOf (written segments) = segments := by
    refine List.map_injective_iff.mpr utf8_injective ?_
    rw [← hdecode, hencoded, List.map_map]
    refine List.map_congr_left fun s hs => ?_
    exact (decode_of_plain (hstay s hs).2).symm.trans (decode_encode_path s).symm
  obtain ⟨hdrop, hall⟩ := readPath_eq_self_iff.mp hread
  rw [hsegments] at hstay
  refine ⟨fun s hs => ⟨fun c hc => ?_, (hstay s hs).2, ?_, ?_⟩, dropEndWhile_written_iff.mp hdrop⟩
  · obtain ⟨hkept, hends⟩ := hall c (mem_written hs hc)
    refine not_separator_iff.mpr ⟨?_, hends, hkept⟩
    rw [hcs] at hsegments
    exact not_isSlash_of_mem_segmentsOf (hsegments.symm ▸ hs) c hc
  · rintro rfl
    cases (hstay _ hs).1.2
  · rintro rfl
    cases (hstay _ hs).1.1

end ArePlain

namespace IsBase

variable {base path : String} {url found : Url} {segments : List (List Char)}

/-- Plain segments stand behind those of the address, and there is no query. -/
theorem below_plain (h : IsBase base url) (hne : segments ≠ [])
    (hpath : path.toList = written segments) (hfound : parse? (base ++ path) = some found)
    (hplain : ArePlain segments) :
    found.path = url.path.dropLast ++ segments.map (fun s => String.ofList (encode pathSpecial s)) ∧
      found.query = none := by
  obtain ⟨_, hparse, _, hread, hquery⟩ := h.parse?_below (hpath.trans (written_eq_intercalate hne))
  cases hfound.symm.trans hparse
  rw [hpath] at hread hquery
  refine ⟨?_, hquery hplain.readPath_eq⟩
  rw [hread, hplain.readPath_eq, hplain.segmentsOf_eq hne,
    normalize_stay fun s hs => (hplain.plain s hs).not_dots, List.reverse_reverse]

/-- The segments of a path are read as they were meant exactly if they are plain. -/
theorem below_iff (h : IsBase base url) (hne : segments ≠ [])
    (hpath : path.toList = written segments) (hfound : parse? (base ++ path) = some found) :
    (∃ encoded, found.path = url.path.dropLast ++ encoded ∧
      encoded.map (decode ·.toList) = segments.map utf8) ↔ ArePlain segments := by
  constructor
  · rintro ⟨encoded, hencoded, hdecode⟩
    obtain ⟨_, hparse, _, hread, _⟩ := h.parse?_below (hpath.trans (written_eq_intercalate hne))
    cases hfound.symm.trans hparse
    rw [hpath] at hread
    exact .of_decode hne url.path.dropLast (hread.symm.trans hencoded) hdecode
  · intro hplain
    refine ⟨_, (h.below_plain hne hpath hfound hplain).1, ?_⟩
    rw [← hplain.decode_encoded, List.map_map, List.map_map]
    exact List.map_congr_left fun s _ => congrArg decode String.toList_ofList

end IsBase

end ClientForge.Http.Url
