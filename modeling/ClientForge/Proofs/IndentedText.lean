import ClientForge.Codegen.Manifest
import ClientForge.Proofs.WrittenJson
import Mathlib.Data.List.DropRight
import Mathlib.Data.List.Nodup

/-!
A document without numbers reads back from its indented text, whatever the indentation. A manifest is
such a document, so that its file lists the endpoints as the manifest has them.

Results:
1. `value?_prettyAt`: a value is read from a text that begins with it, whatever follows.
2. `parse?_pretty`: a plain document reads back.
3. `Manifest.parse?_text`, `Manifest.endpoints_text`: so does a manifest, with its endpoints in order.
4. `Manifest.text_injective`: the text tells everything about its manifest.
-/

namespace ClientForge

namespace Table

variable {κ α : Type} [DecidableEq κ]

theorem insert_of_notMem {key : κ} {table : List (κ × α)} (h : key ∉ table.map Prod.fst)
    (value : α) : insert key value table = table ++ [(key, value)] := by
  induction table with
  | nil => rfl
  | cons row table ih =>
    rw [List.map_cons, List.mem_cons, not_or] at h
    rw [insert, if_neg (Ne.symm h.1), ih h.2, List.cons_append]

/-- Rows whose keys are no repetitions are a table. -/
theorem ofRows_of_nodup {rows : List (κ × α)} (h : (rows.map Prod.fst).Nodup) :
    ofRows rows = rows := by
  have onto (table : List (κ × α)) (hkeys : ((table ++ rows).map Prod.fst).Nodup) :
      rows.foldl (fun table row => insert row.1 row.2 table) table = table ++ rows := by
    clear h
    induction rows generalizing table with
    | nil => exact (List.append_nil table).symm
    | cons row rows ih =>
      have hnew : row.1 ∉ table.map Prod.fst := by
        rw [List.map_append, List.map_cons] at hkeys
        exact fun hmem => (List.nodup_append.mp hkeys).2.2 _ hmem _ List.mem_cons_self rfl
      rw [List.foldl_cons, insert_of_notMem hnew, ih _ (by simpa using hkeys), List.append_assoc,
        List.singleton_append]
  exact onto [] h

end Table

namespace Json

/-! ## Definitions -/

/-- A document without numbers, nested at most so deep, that has no key twice in an object. -/
inductive Plain : Nat → Json → Prop
  | null {depth : Nat} : Plain depth .null
  | bool {depth : Nat} (b : Bool) : Plain depth (.bool b)
  | string {depth : Nat} (s : String) : Plain depth (.string s)
  | array {depth : Nat} {xs : List Json} : (∀ x ∈ xs, Plain depth x) → Plain (depth + 1) (.array xs)
  | object {depth : Nat} {fs : List (String × Json)} : (fs.map Prod.fst).Nodup →
      (∀ f ∈ fs, Plain depth f.2) → Plain (depth + 1) (.object fs)

/-- The value is read from every text that begins with it. The fuel is told by its text. -/
def Reads (depth : Nat) (a : Json) : Prop :=
  ∀ (level fuel : Nat) (rest : List Char), 2 * (prettyAt level a).toList.length ≤ fuel →
    value? fuel depth ((prettyAt level a).toList ++ rest) = some (a, rest)

/-! ## Blanks -/

theorem skipSpace_newline (level : Nat) (cs : List Char) :
    skipSpace ((newline level).toList ++ cs) = skipSpace cs := by
  have htext : (newline level).toList = '\n' :: List.replicate (2 * level) ' ' := by
    simp [newline]
  rw [htext, skipSpace, skipSpace]
  refine List.dropWhile_append_of_pos fun c hc => ?_
  rcases List.mem_cons.mp hc with rfl | hspace
  · rfl
  · rw [List.eq_of_mem_replicate hspace]
    rfl

theorem skipSpace_space (cs : List Char) : skipSpace (' ' :: cs) = skipSpace cs := rfl

theorem skipSpace_of_head {c : Char} (h : isSpace c = false) (cs : List Char) :
    skipSpace (c :: cs) = c :: cs := by
  rw [skipSpace, List.dropWhile_cons_of_neg (by simp [h])]

theorem value?_skip {cs cs' : List Char} (h : skipSpace cs = skipSpace cs') (fuel depth : Nat) :
    value? fuel depth cs = value? fuel depth cs' := by
  cases fuel with
  | zero => rfl
  | succ fuel => rw [value?, value?, h]

theorem items?_skip {cs cs' : List Char} (h : skipSpace cs = skipSpace cs') (fuel depth : Nat) :
    items? fuel depth cs = items? fuel depth cs' := by
  cases fuel with
  | zero => rfl
  | succ fuel => rw [items?, items?, value?_skip h]

theorem fields?_skip {cs cs' : List Char} (h : skipSpace cs = skipSpace cs') (fuel depth : Nat) :
    fields? fuel depth cs = fields? fuel depth cs' := by
  cases fuel with
  | zero => rfl
  | succ fuel => rw [fields?, fields?, h]

/-! ## Texts -/

theorem prettyAt_array (level : Nat) (x : Json) (xs : List Json) :
    (prettyAt level (.array (x :: xs))).toList =
      '[' :: ((newline (level + 1)).toList ++ ((prettyAt (level + 1) x).toList ++
        ((prettyItems (level + 1) xs).toList ++ ((newline level).toList ++ [']'])))) := by
  simp [prettyAt]

theorem prettyItems_cons (level : Nat) (x : Json) (xs : List Json) :
    (prettyItems level (x :: xs)).toList =
      ',' :: ((newline level).toList ++ ((prettyAt level x).toList ++
        (prettyItems level xs).toList)) := by
  simp [prettyItems]

theorem prettyAt_object (level : Nat) (f : String × Json) (fs : List (String × Json)) :
    (prettyAt level (.object (f :: fs))).toList =
      '\x7b' :: ((newline (level + 1)).toList ++ ((quote f.1).toList ++ ':' :: ' ' ::
        ((prettyAt (level + 1) f.2).toList ++ ((prettyFields (level + 1) fs).toList ++
          ((newline level).toList ++ ['\x7d']))))) := by
  simp [prettyAt]

theorem prettyFields_cons (level : Nat) (f : String × Json) (fs : List (String × Json)) :
    (prettyFields level (f :: fs)).toList =
      ',' :: ((newline level).toList ++ ((quote f.1).toList ++ ':' :: ' ' ::
        ((prettyAt level f.2).toList ++ (prettyFields level fs).toList))) := by
  simp [prettyFields]

/-- The text of a value begins with a character that is no blank and closes nothing. -/
theorem prettyAt_head {depth : Nat} {a : Json} (h : Plain depth a) (level : Nat) :
    ∃ c cs, (prettyAt level a).toList = c :: cs ∧ isSpace c = false ∧ c ≠ ']' := by
  cases h with
  | null => exact ⟨'n', ['u', 'l', 'l'], by simp [prettyAt], by decide, by decide⟩
  | bool b =>
    cases b with
    | true => exact ⟨'t', ['r', 'u', 'e'], by simp [prettyAt], by decide, by decide⟩
    | false => exact ⟨'f', ['a', 'l', 's', 'e'], by simp [prettyAt], by decide, by decide⟩
  | string s =>
    rw [prettyAt]
    exact ⟨'"', _, quote_toList s, by decide, by decide⟩
  | @array _ xs _ =>
    cases xs with
    | nil => exact ⟨'[', [']'], by simp [prettyAt], by decide, by decide⟩
    | cons x xs => exact ⟨'[', _, prettyAt_array level x xs, by decide, by decide⟩
  | @object _ fs _ _ =>
    cases fs with
    | nil => exact ⟨'\x7b', ['\x7d'], by simp [prettyAt], by decide, by decide⟩
    | cons f fs => exact ⟨'\x7b', _, prettyAt_object level f fs, by decide, by decide⟩

/-! ## Strings -/

theorem length_le_escaped (cs : List Char) : cs.length ≤ (cs.flatMap escapeChar).length := by
  induction cs with
  | nil => exact Nat.le_refl 0
  | cons c cs ih =>
    have hone : 0 < (escapeChar c).length := by
      rcases escapeChar_cases c with ⟨e, _, _, hform⟩ | ⟨_, hform⟩ | ⟨_, _, _, hform⟩ <;>
        simp [hform]
    rw [List.flatMap_cons, List.length_append, List.length_cons]
    omega

theorem stringBody?_quoted (s : String) (rest : List Char) :
    stringBody? ((s.toList.flatMap escapeChar ++ '"' :: rest).length + 1)
      (s.toList.flatMap escapeChar ++ '"' :: rest) = some (s.toList, rest) := by
  have hlength : s.toList.length ≤ (s.toList.flatMap escapeChar ++ '"' :: rest).length := by
    have hescaped := length_le_escaped s.toList
    rw [List.length_append]
    omega
  obtain ⟨more, hmore⟩ := Nat.exists_eq_add_of_le hlength
  rw [hmore]
  exact stringBody?_escaped s.toList rest more

theorem quote_append (s : String) (rest : List Char) :
    (quote s).toList ++ rest = '"' :: (s.toList.flatMap escapeChar ++ '"' :: rest) := by
  simp [quote_toList]

/-! ## Readers -/

theorem value?_quote (fuel depth : Nat) (s : String) (rest : List Char) :
    value? (fuel + 1) depth ((quote s).toList ++ rest) = some (.string s, rest) := by
  have hopen (cs : List Char) : value? (fuel + 1) depth ('"' :: cs) =
      (stringBody? (cs.length + 1) cs).map fun read => (.string (String.ofList read.1), read.2) := by
    rw [value?, skipSpace_of_head (by decide)]
    rfl
  rw [quote_append, hopen, stringBody?_quoted, Option.map_some]
  dsimp only
  rw [String.ofList_toList]

/-- An array that is not empty is read through its items. -/
theorem value?_items (fuel depth : Nat) {cs : List Char} (h : ∀ rest, skipSpace cs ≠ ']' :: rest) :
    value? (fuel + 1) (depth + 1) ('[' :: cs) =
      (items? fuel depth cs).map fun read => (.array read.1, read.2) := by
  rw [value?, skipSpace_of_head (by decide)]
  split
  case h_5 hopen =>
    cases hopen
    dsimp only
    split
    · next rest hclose => exact absurd hclose (h rest)
    · rw [items?_skip (List.dropWhile_idempotent _ cs).symm]
      rfl
  case h_7 hopen _ => exact absurd rfl (hopen cs)
  all_goals next hopen => simp at hopen

theorem value?_fields (fuel depth : Nat) {cs : List Char}
    (h : ∀ rest, skipSpace cs ≠ '\x7d' :: rest) :
    value? (fuel + 1) (depth + 1) ('\x7b' :: cs) =
      (fields? fuel depth cs).map fun read => (.object read.1, read.2) := by
  rw [value?, skipSpace_of_head (by decide)]
  split
  case h_6 hopen =>
    cases hopen
    dsimp only
    split
    · next rest hclose => exact absurd hclose (h rest)
    · rw [fields?_skip (List.dropWhile_idempotent _ cs).symm]
      rfl
  case h_7 hopen => exact absurd rfl (hopen cs)
  all_goals next hopen => simp at hopen

/-- Behind an item comes the next one or the end. -/
theorem items?_next {fuel depth : Nat} {cs after rest : List Char} {x : Json} {xs : List Json}
    (hx : value? fuel depth cs = some (x, ',' :: after))
    (hxs : items? fuel depth after = some (xs, rest)) :
    items? (fuel + 1) depth cs = some (x :: xs, rest) := by
  rw [items?, hx, Option.bind_eq_bind, Option.bind_some]
  dsimp only
  rw [skipSpace_of_head (by decide)]
  show (items? fuel depth after).bind _ = _
  rw [hxs]
  rfl

theorem items?_last {fuel depth : Nat} {cs after rest : List Char} {x : Json}
    (hx : value? fuel depth cs = some (x, after)) (hend : skipSpace after = ']' :: rest) :
    items? (fuel + 1) depth cs = some ([x], rest) := by
  rw [items?, hx, Option.bind_eq_bind, Option.bind_some]
  dsimp only
  rw [hend]
  rfl

theorem fields?_next {fuel depth : Nat} {key : String} {cs after rest : List Char} {x : Json}
    {fs : List (String × Json)} (hx : value? fuel depth cs = some (x, ',' :: after))
    (hfs : fields? fuel depth after = some (fs, rest)) :
    fields? (fuel + 1) depth ((quote key).toList ++ ':' :: ' ' :: cs) =
      some ((key, x) :: fs, rest) := by
  rw [fields?, quote_append, skipSpace_of_head (by decide)]
  show (stringBody? _ _).bind _ = _
  rw [stringBody?_quoted, Option.bind_some]
  dsimp only
  rw [skipSpace_of_head (by decide)]
  show (value? fuel depth (' ' :: cs)).bind _ = _
  rw [value?_skip (skipSpace_space cs), hx, Option.bind_some, String.ofList_toList]
  dsimp only
  rw [skipSpace_of_head (by decide)]
  show (fields? fuel depth after).bind _ = _
  rw [hfs]
  rfl

theorem fields?_last {fuel depth : Nat} {key : String} {cs after rest : List Char} {x : Json}
    (hx : value? fuel depth cs = some (x, after)) (hend : skipSpace after = '\x7d' :: rest) :
    fields? (fuel + 1) depth ((quote key).toList ++ ':' :: ' ' :: cs) =
      some ([(key, x)], rest) := by
  rw [fields?, quote_append, skipSpace_of_head (by decide)]
  show (stringBody? _ _).bind _ = _
  rw [stringBody?_quoted, Option.bind_some]
  dsimp only
  rw [skipSpace_of_head (by decide)]
  show (value? fuel depth (' ' :: cs)).bind _ = _
  rw [value?_skip (skipSpace_space cs), hx, Option.bind_some, String.ofList_toList]
  dsimp only
  rw [hend]
  rfl

/-! ## Values -/

theorem skipSpace_close {c : Char} (h : isSpace c = false) (level : Nat) (rest : List Char) :
    skipSpace ((newline level).toList ++ c :: rest) = c :: rest := by
  rw [skipSpace_newline, skipSpace_of_head h]

/-- The items of an array, by induction on those that follow the first. -/
theorem items?_pretty {depth level outer : Nat} (rest : List Char) {x : Json} {xs : List Json}
    (hall : ∀ y ∈ x :: xs, Reads depth y) {fuel : Nat}
    (hfuel : 2 * ((prettyAt level x).toList.length + (prettyItems level xs).toList.length) + 1 ≤
      fuel) :
    items? fuel depth ((prettyAt level x).toList ++ ((prettyItems level xs).toList ++
      ((newline outer).toList ++ ']' :: rest))) = some (x :: xs, rest) := by
  induction xs generalizing x fuel with
  | nil =>
    obtain ⟨fuel, rfl⟩ : ∃ less, fuel = less + 1 := ⟨fuel - 1, by omega⟩
    have hclose := skipSpace_close (by decide : isSpace ']' = false) outer rest
    exact items?_last (hall x List.mem_cons_self level fuel _ (by omega)) hclose
  | cons y ys ih =>
    obtain ⟨fuel, rfl⟩ : ∃ less, fuel = less + 1 := ⟨fuel - 1, by omega⟩
    obtain ⟨hx, hys⟩ := List.forall_mem_cons.mp hall
    rw [prettyItems_cons] at hfuel ⊢
    simp only [List.length_cons, List.length_append] at hfuel
    simp only [List.cons_append, List.append_assoc]
    refine items?_next (hx level fuel _ (by omega)) ?_
    rw [items?_skip (skipSpace_newline level _)]
    exact ih hys (by omega)

/-- The fields of an object, by induction on those that follow the first. -/
theorem fields?_pretty {depth level outer : Nat} (rest : List Char) {f : String × Json}
    {fs : List (String × Json)} (hall : ∀ g ∈ f :: fs, Reads depth g.2) {fuel : Nat}
    (hfuel : 2 * ((prettyAt level f.2).toList.length + (prettyFields level fs).toList.length) + 1 ≤
      fuel) :
    fields? fuel depth ((quote f.1).toList ++ ':' :: ' ' :: ((prettyAt level f.2).toList ++
      ((prettyFields level fs).toList ++ ((newline outer).toList ++ '\x7d' :: rest)))) =
        some (f :: fs, rest) := by
  induction fs generalizing f fuel with
  | nil =>
    obtain ⟨fuel, rfl⟩ : ∃ less, fuel = less + 1 := ⟨fuel - 1, by omega⟩
    have hclose := skipSpace_close (by decide : isSpace '\x7d' = false) outer rest
    exact fields?_last (hall f List.mem_cons_self level fuel _ (by omega)) hclose
  | cons g gs ih =>
    obtain ⟨fuel, rfl⟩ : ∃ less, fuel = less + 1 := ⟨fuel - 1, by omega⟩
    obtain ⟨hf, hgs⟩ := List.forall_mem_cons.mp hall
    rw [prettyFields_cons] at hfuel ⊢
    simp only [List.length_cons, List.length_append] at hfuel
    simp only [List.cons_append, List.append_assoc]
    refine fields?_next (hf level fuel _ (by omega)) ?_
    rw [fields?_skip (skipSpace_newline level _)]
    exact ih hgs (by omega)

theorem value?_word (fuel depth : Nat) (rest : List Char) :
    value? (fuel + 1) depth ("null".toList ++ rest) = some (.null, rest) ∧
      value? (fuel + 1) depth ("true".toList ++ rest) = some (.bool true, rest) ∧
      value? (fuel + 1) depth ("false".toList ++ rest) = some (.bool false, rest) ∧
      value? (fuel + 1) (depth + 1) ("[]".toList ++ rest) = some (.array [], rest) ∧
      value? (fuel + 1) (depth + 1) ("\x7b\x7d".toList ++ rest) = some (.object [], rest) := by
  refine ⟨?_, ?_, ?_, ?_, ?_⟩ <;> rfl

/-- No text is empty, so that there is always fuel for a value. -/
theorem Plain.reads {depth : Nat} {a : Json} (hplain : Plain depth a)
    (h : ∀ (level fuel : Nat) (rest : List Char), 2 * (prettyAt level a).toList.length ≤ fuel + 1 →
      value? (fuel + 1) depth ((prettyAt level a).toList ++ rest) = some (a, rest)) :
    Reads depth a := by
  intro level fuel rest hfuel
  obtain ⟨c, cs, htext, _⟩ := prettyAt_head hplain level
  have hlength : (prettyAt level a).toList.length = cs.length + 1 := by
    rw [htext, List.length_cons]
  obtain ⟨less, rfl⟩ : ∃ less, fuel = less + 1 := ⟨fuel - 1, by omega⟩
  exact h level less rest hfuel

/-- A value is read from a text that begins with it, by induction on its nesting. -/
theorem value?_prettyAt {depth : Nat} {a : Json} (h : Plain depth a) : Reads depth a := by
  induction h with
  | null =>
    refine Plain.null.reads fun level fuel rest _ => ?_
    rw [prettyAt]
    exact (value?_word fuel _ rest).1
  | bool b =>
    refine (Plain.bool b).reads fun level fuel rest _ => ?_
    cases b with
    | true =>
      rw [prettyAt]
      exact (value?_word fuel _ rest).2.1
    | false =>
      rw [prettyAt]
      exact (value?_word fuel _ rest).2.2.1
  | string s =>
    refine (Plain.string s).reads fun level fuel rest _ => ?_
    rw [prettyAt]
    exact value?_quote fuel _ s rest
  | @array depth xs hplain ih =>
    refine (Plain.array hplain).reads fun level fuel rest hfuel => ?_
    cases xs with
    | nil =>
      rw [prettyAt]
      exact (value?_word fuel _ rest).2.2.2.1
    | cons x xs =>
      obtain ⟨c, cs, htext, hspace, hbracket⟩ :=
        prettyAt_head (hplain x List.mem_cons_self) (level + 1)
      rw [prettyAt_array] at hfuel ⊢
      simp only [List.length_cons, List.length_append] at hfuel
      simp only [List.cons_append, List.append_assoc, List.nil_append]
      rw [value?_items, items?_skip (skipSpace_newline _ _), items?_pretty rest ih (by omega)]
      · rfl
      · intro after
        rw [skipSpace_newline, htext, List.cons_append, skipSpace_of_head hspace]
        exact fun h => hbracket (List.cons.inj h).1
  | @object depth fs hnodup hplain ih =>
    refine (Plain.object hnodup hplain).reads fun level fuel rest hfuel => ?_
    cases fs with
    | nil =>
      rw [prettyAt]
      exact (value?_word fuel _ rest).2.2.2.2
    | cons f fs =>
      rw [prettyAt_object] at hfuel ⊢
      simp only [List.length_cons, List.length_append] at hfuel
      simp only [List.cons_append, List.append_assoc, List.nil_append]
      rw [value?_fields, fields?_skip (skipSpace_newline _ _), fields?_pretty rest ih (by omega)]
      · rfl
      · intro after
        rw [skipSpace_newline, quote_append, skipSpace_of_head (by decide)]
        exact fun h => absurd (List.cons.inj h).1 (by decide)

/-! ## Documents -/

theorem distinctItems_eq_map (xs : List Json) : distinctItems xs = xs.map distinct := by
  induction xs with
  | nil => rfl
  | cons x xs ih => rw [distinctItems, ih, List.map_cons]

theorem distinctFields_eq_map (fs : List (String × Json)) :
    distinctFields fs = fs.map fun f => (f.1, distinct f.2) := by
  induction fs with
  | nil => rfl
  | cons f fs ih => rw [distinctFields, ih, List.map_cons]

theorem Plain.distinct_eq {depth : Nat} {a : Json} (h : Plain depth a) : distinct a = a := by
  induction h with
  | null => rfl
  | bool b => rfl
  | string s => rfl
  | array _ ih =>
    rw [distinct, distinctItems_eq_map, List.map_congr_left ih, List.map_id']
  | object hnodup _ ih =>
    have hfields := List.map_congr_left fun f hf => congrArg (Prod.mk f.1) (ih f hf)
    rw [distinct, distinctFields_eq_map, hfields, List.map_id', Table.ofRows_of_nodup hnodup]

/-- A plain document reads back from its indented text. -/
theorem parse?_pretty {a : Json} (h : Plain nestingLimit a) : parse? (pretty a) = some a := by
  have hread : value? (2 * (pretty a).toList.length + 2) nestingLimit (pretty a).toList =
      some (a, []) := by
    have hfuel : 2 * (pretty a).toList.length ≤ 2 * (pretty a).toList.length + 2 := by omega
    have hfront := value?_prettyAt h 0 _ [] hfuel
    rwa [List.append_nil] at hfront
  rw [parse?, parseWithin?, parseRaw?, hread]
  exact congrArg some h.distinct_eq

end Json

namespace Codegen.Manifest

open Json

theorem plain_response (depth : Nat) (r : Api.ResponseCode) :
    Plain (depth + 1) (responseJson r) := by
  refine .object (by simp) ?_
  simp only [List.forall_mem_cons]
  exact ⟨.string _, .string _, by simp⟩

theorem plain_parameter (depth : Nat) (p : Api.ParameterSummary) :
    Plain (depth + 1) (parameterJson p) := by
  refine .object (by simp) ?_
  simp only [List.forall_mem_cons]
  exact ⟨.string _, .string _, .string _, .bool _, by simp⟩

theorem plain_entry (depth : Nat) (e : ManifestEntry) : Plain (depth + 3) (entryJson e) := by
  have hresponses : Plain (depth + 2) (.array (e.responses.map responseJson)) :=
    .array (List.forall_mem_map.mpr fun r _ => plain_response depth r)
  have hparameters : Plain (depth + 2) (.array (e.parameters.map parameterJson)) :=
    .array (List.forall_mem_map.mpr fun p _ => plain_parameter depth p)
  refine .object (by simp) ?_
  simp only [List.forall_mem_cons]
  exact ⟨.string _, .string _, .string _, .string _, .string _, .string _, .string _, hresponses,
    .string _, hparameters, by simp⟩

/-- A manifest has no numbers, and the names of its fields are no repetitions. -/
theorem plain_json (m : Manifest) : Plain nestingLimit m.json := by
  have hendpoints : Plain 126 (.array (m.endpoints.map entryJson)) :=
    .array (List.forall_mem_map.mpr fun e _ => plain_entry 122 e)
  show Plain (126 + 1) m.json
  refine .object (by simp) ?_
  simp only [List.forall_mem_cons]
  exact ⟨.string _, .string _, .string _, .string _, .string _, .string _, hendpoints, by simp⟩

/-- A manifest reads back from its text. -/
theorem parse?_text (m : Manifest) : parse? m.text = some m.json :=
  parse?_pretty m.plain_json

/-- The text lists the endpoints in their order. -/
theorem endpoints_text (m : Manifest) :
    (parse? m.text).bind (·.array? "endpoints") = some (m.endpoints.map entryJson) := by
  rw [parse?_text]
  rfl

/-! ## What a text tells -/

theorem location_text_injective : Function.Injective Api.Location.text := by
  intro l l' h
  cases l <;> cases l' <;> first | rfl | exact absurd h (by decide)

theorem status_text_injective : Function.Injective Status.text := by
  intro s s' h
  cases s <;> cases s' <;> first | rfl | exact absurd h (by decide)

theorem responseJson_injective : Function.Injective responseJson := by
  rintro ⟨code, description⟩ ⟨code', description'⟩ h
  simpa [responseJson] using h

theorem parameterJson_injective : Function.Injective parameterJson := by
  rintro ⟨name, description, location, required⟩ ⟨name', description', location', required'⟩ h
  simpa [parameterJson, location_text_injective.eq_iff] using h

theorem entryJson_injective : Function.Injective entryJson := by
  intro e e' h
  obtain ⟨⟩ := e
  obtain ⟨⟩ := e'
  simpa [entryJson, status_text_injective.eq_iff, responseJson_injective.list_map.eq_iff,
    parameterJson_injective.list_map.eq_iff] using h

/-- Manifests with one text are one manifest. -/
theorem text_injective : Function.Injective text := by
  intro m m' h
  have hjson : m.json = m'.json := by
    have hread := m.parse?_text
    rw [h, m'.parse?_text] at hread
    exact (Option.some.inj hread).symm
  obtain ⟨⟩ := m
  obtain ⟨⟩ := m'
  simpa [json, entryJson_injective.list_map.eq_iff] using hjson

end Codegen.Manifest

end ClientForge
