import ClientForge.Proofs.PercentEncoding

/-!
Dot segments. Removing them leads elsewhere in a path, and it never makes the path longer: the
segments that it leaves stand for no more bytes than those it was given. So where nothing gets lost,
no segment was a dot segment and none held an escape.

Results:
1. `normalize_append`: the segments that others follow lead somewhere, whatever these are.
2. `normalize_stay`, `IsPlain.not_dots`: what stays where it is.
3. `normalize_weight`, `stay_of_normalize`: nothing gets longer, and what stays as long stays as it
   is.
-/

namespace ClientForge.Http.Url

/-! ## Definitions -/

/-- A segment of which every character stands for itself, wherever it is in a path. -/
structure IsPlain (segment : List Char) : Prop where
  separators : ∀ c ∈ segment, c ∉ ['/', '\\', '?', '#', '\t', '\n', '\r']
  escapes : ¬ HasEscape segment
  dots : segment ≠ ['.'] ∧ segment ≠ ['.', '.']

/-- The bytes that the segments of a path stand for, with a slash before each. -/
def weight (path : List String) : Nat := (path.map fun s => (decode s.toList).length + 1).sum

/-- The bytes of segments as they are written. -/
def size (segments : List (List Char)) : Nat := (segments.map fun s => (utf8 s).length + 1).sum

/-! ## Dot segments -/

/-- What is before the next segment, if there is one. -/
def passed (before : List String) (segment : List Char) : List String :=
  if isDoubleDot segment then before.drop 1
  else if isSingleDot segment then before
  else String.ofList (encode pathSpecial segment) :: before

/-- The segments that others follow lead somewhere, whatever those others are. -/
theorem normalize_append (before : List String) (front : List (List Char))
    {rest : List (List Char)} (h : rest ≠ []) :
    normalize before (front ++ rest) = normalize (front.foldl passed before) rest := by
  induction front generalizing before with
  | nil => rfl
  | cons segment front ih =>
    have hrest : (front ++ rest).isEmpty = false := by simp [h]
    rw [List.cons_append, normalize, List.foldl_cons, ← ih, passed]
    simp only [hrest, Bool.false_eq_true, if_false]
    split_ifs <;> rfl

/-- Segments that are no dot segments stay. -/
theorem normalize_stay {before : List String} {segments : List (List Char)}
    (h : ∀ segment ∈ segments, isDoubleDot segment = false ∧ isSingleDot segment = false) :
    normalize before segments =
      before.reverse ++ segments.map fun s => String.ofList (encode pathSpecial s) := by
  induction segments generalizing before with
  | nil => exact (List.append_nil _).symm
  | cons segment segments ih =>
    obtain ⟨⟨hdouble, hsingle⟩, hrest⟩ := List.forall_mem_cons.mp h
    rw [normalize]
    simp only [hdouble, hsingle, Bool.false_eq_true, if_false]
    rw [ih hrest, List.reverse_cons, List.append_assoc, List.singleton_append, List.map_cons]

/-! ## Sizes -/

theorem sparesEscapes_path : SparesEscapes pathSpecial := by
  intro c hc
  simp only [pathSpecial, fragmentSpecial, List.mem_append, List.mem_cons, List.not_mem_nil,
    or_false] at hc
  rcases hc with (rfl | rfl | rfl | rfl | rfl) | (rfl | rfl | rfl | rfl | rfl) <;>
    exact ⟨by decide, by decide⟩

theorem weight_cons (s : String) (path : List String) :
    weight (s :: path) = (decode s.toList).length + 1 + weight path := by
  simp [weight]

theorem size_cons (s : List Char) (segments : List (List Char)) :
    size (s :: segments) = (utf8 s).length + 1 + size segments := by
  simp [size]

theorem weight_append (path others : List String) :
    weight (path ++ others) = weight path + weight others := by
  simp [weight]

theorem weight_reverse (path : List String) : weight path.reverse = weight path := by
  simp [weight, List.sum_reverse]

theorem weight_drop_one (path : List String) : weight (path.drop 1) ≤ weight path := by
  cases path with
  | nil => exact Nat.le_refl _
  | cons s path =>
    rw [weight_cons]
    exact Nat.le_add_left _ _

theorem decode_encode_path (cs : List Char) :
    decode (String.ofList (encode pathSpecial cs)).toList = decode cs := by
  rw [String.toList_ofList, decode_encode sparesEscapes_path]

/-- A dot segment has a character. -/
theorem length_utf8_dot {segment : List Char}
    (h : isDoubleDot segment ∨ isSingleDot segment) : 0 < (utf8 segment).length := by
  cases segment with
  | nil => revert h; decide
  | cons c cs =>
    rw [utf8_cons, List.length_append]
    exact Nat.lt_of_lt_of_le (length_utf8EncodeChar_pos c) (Nat.le_add_right _ _)

theorem weight_close (before : List String) (rest : List (List Char)) :
    weight (if rest.isEmpty then "" :: before else before) ≤ weight before + 1 := by
  split
  · rw [weight_cons]
    exact Nat.le_of_eq (Nat.add_comm _ _)
  · exact Nat.le_succ _

theorem normalize_weight (before : List String) (segments : List (List Char)) :
    weight (normalize before segments) ≤ weight before + size segments := by
  induction segments generalizing before with
  | nil => exact Nat.le_of_eq (weight_reverse before)
  | cons segment rest ih =>
    rw [normalize, size_cons]
    dsimp only
    split
    · next hdouble =>
      have := ih (if rest.isEmpty then "" :: before.drop 1 else before.drop 1)
      have := weight_close (before.drop 1) rest
      have := weight_drop_one before
      omega
    · split
      · have := ih (if rest.isEmpty then "" :: before else before)
        have := weight_close before rest
        omega
      · have := ih (String.ofList (encode pathSpecial segment) :: before)
        have := length_decode_le segment
        rw [weight_cons, decode_encode_path] at *
        omega

/-! ## Plain segments -/

theorem eq_of_toLower {c d : Char} (h : c.toLower = d) (hd : d.isAlpha = false) : c = d := by
  have halpha : c.isAlpha = false := by rw [← Char.isAlpha_toLower_eq_isAlpha, h, hd]
  have hupper : ¬ c.isUpper := fun hupper => by
    rw [Char.isAlpha, hupper, Bool.true_or] at halpha
    cases halpha
  rw [← h, Char.toLower_eq_of_not_isUpper hupper]

/-- An escaped dot is an escape. -/
theorem hasEscape_of_dot {segment : List Char} (before : List Char) {after : List Char}
    (h : segment.map Char.toLower = before ++ '%' :: '2' :: 'e' :: after) : HasEscape segment := by
  obtain ⟨front, back, rfl, _, hback⟩ := List.map_eq_append_iff.mp h
  obtain ⟨percent, back, rfl, hpercent, hback⟩ := List.map_eq_cons_iff.mp hback
  obtain ⟨high, back, rfl, hhigh, hback⟩ := List.map_eq_cons_iff.mp hback
  obtain ⟨low, back, rfl, hlow, _⟩ := List.map_eq_cons_iff.mp hback
  obtain rfl := eq_of_toLower hpercent (by decide)
  obtain rfl := eq_of_toLower hhigh (by decide)
  refine ⟨front, _, rfl, startsWithDigits_cons.mpr (escape?_isSome_iff.mpr ⟨by decide, ?_⟩)⟩
  rw [hexValue?, hlow]
  decide

theorem dots_of_lower {segment : List Char} (n : Nat)
    (h : segment.map Char.toLower = List.replicate n '.') : segment = List.replicate n '.' := by
  obtain ⟨hlength, hall⟩ := List.eq_replicate_iff.mp h
  refine List.eq_replicate_iff.mpr ⟨by rw [← hlength, List.length_map], fun c hc => ?_⟩
  exact eq_of_toLower (hall _ (List.mem_map_of_mem hc)) (by decide)

/-- A segment without escapes is a dot segment only if it is written with dots. -/
theorem IsPlain.not_dots {segment : List Char} (h : IsPlain segment) :
    isDoubleDot segment = false ∧ isSingleDot segment = false := by
  have hforms {form : String} (hform : String.ofList (segment.map Char.toLower) = form) :
      segment.map Char.toLower = form.toList := by
    rw [← hform, String.toList_ofList]
  constructor
  · refine Bool.eq_false_iff.mpr fun hdouble => ?_
    rw [isDoubleDot, List.contains_iff_mem] at hdouble
    simp only [List.mem_cons, List.not_mem_nil, or_false] at hdouble
    rcases hdouble with hform | hform | hform | hform
    · exact h.dots.2 (dots_of_lower 2 (hforms hform))
    · exact h.escapes (hasEscape_of_dot ['.'] (hforms hform))
    · exact h.escapes (hasEscape_of_dot [] (hforms hform))
    · exact h.escapes (hasEscape_of_dot [] (hforms hform))
  · refine Bool.eq_false_iff.mpr fun hsingle => ?_
    rw [isSingleDot, List.contains_iff_mem] at hsingle
    simp only [List.mem_cons, List.not_mem_nil, or_false] at hsingle
    rcases hsingle with hform | hform
    · exact h.dots.1 (dots_of_lower 1 (hforms hform))
    · exact h.escapes (hasEscape_of_dot [] (hforms hform))

/-- A character without a meaning of its own in paths. -/
def isOrdinary (c : Char) : Bool :=
  !(['/', '\\', '?', '#', '\t', '\n', '\r', '%', '.'].contains c)

theorem isPlain_of_ordinary {segment : List Char} (h : segment.all isOrdinary) :
    IsPlain segment := by
  have hmarks {c : Char} (hc : c ∈ segment) :
      c ∉ ['/', '\\', '?', '#', '\t', '\n', '\r', '%', '.'] := by
    have hordinary := List.all_eq_true.mp h c hc
    rw [isOrdinary, Bool.not_eq_true'] at hordinary
    exact fun hmem => Bool.eq_false_iff.mp hordinary (List.contains_iff_mem.mpr hmem)
  refine ⟨fun c hc hmem => hmarks hc (List.mem_append_left ['%', '.'] hmem), ?_, ?_, ?_⟩
  · rintro ⟨before, after, rfl, _⟩
    exact hmarks (c := '%') (List.mem_append_right _ List.mem_cons_self) (by simp)
  · rintro rfl
    exact hmarks (c := '.') List.mem_cons_self (by simp)
  · rintro rfl
    exact hmarks (c := '.') List.mem_cons_self (by simp)

/-- Normalizing loses nothing only of segments that stay, and of those without escapes. -/
theorem stay_of_normalize (before : List String) {segments : List (List Char)}
    (h : weight before + size segments ≤ weight (normalize before segments)) :
    ∀ segment ∈ segments, (isDoubleDot segment = false ∧ isSingleDot segment = false) ∧
      ¬ HasEscape segment := by
  induction segments generalizing before with
  | nil => exact fun _ hmem => nomatch hmem
  | cons segment rest ih =>
    rw [normalize, size_cons] at h
    dsimp only at h
    split at h
    · next hdouble =>
      have := normalize_weight (if rest.isEmpty then "" :: before.drop 1 else before.drop 1) rest
      have := weight_close (before.drop 1) rest
      have := weight_drop_one before
      have := length_utf8_dot (.inl hdouble)
      omega
    · next hdouble =>
      split at h
      · next hsingle =>
        have := normalize_weight (if rest.isEmpty then "" :: before else before) rest
        have := weight_close before rest
        have := length_utf8_dot (.inr hsingle)
        omega
      · next hsingle =>
        have hweight := normalize_weight (String.ofList (encode pathSpecial segment) :: before) rest
        have hle := length_decode_le segment
        rw [weight_cons, decode_encode_path] at hweight
        refine List.forall_mem_cons.mpr ⟨⟨⟨by simpa using hdouble, by simpa using hsingle⟩, ?_⟩, ?_⟩
        · rcases decode_cases segment with ⟨hescape, _⟩ | ⟨_, hlt⟩
          · exact hescape
          · omega
        · refine ih (String.ofList (encode pathSpecial segment) :: before) ?_
          rw [weight_cons, decode_encode_path]
          omega

end ClientForge.Http.Url
