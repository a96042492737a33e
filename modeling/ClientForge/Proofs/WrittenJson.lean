import ClientForge.Json.Parse
import ClientForge.Json.Text
import Mathlib.Data.List.Forall2

/-!
What the compact text of a document tells. The text of a value ends where the value does, so that
the items of an array and the fields of an object cannot be taken for others: documents with one
text are one value, with numbers known by their texts.

Results:
1. `stringBody?_escaped`: a quoted text reads back, whatever follows it.
2. `compact_append_inj`: a text that begins with a value tells the value and what follows it.
3. `compact_eq_iff`: two documents have one compact text when they are one value.
-/

namespace ClientForge.Json

/-! ## Definitions -/

/-- One value: the same items and fields in the same order. Numbers are compared as they are
printed. -/
inductive SameValue : Json → Json → Prop
  | null : SameValue .null .null
  | bool (b : Bool) : SameValue (.bool b) (.bool b)
  | number {m n : Number} : m.toText = n.toText → SameValue (.number m) (.number n)
  | string (s : String) : SameValue (.string s) (.string s)
  | array {xs ys : List Json} : List.Forall₂ SameValue xs ys → SameValue (.array xs) (.array ys)
  | object {fs gs : List (String × Json)} : fs.map Prod.fst = gs.map Prod.fst →
      List.Forall₂ SameValue (fs.map Prod.snd) (gs.map Prod.snd) →
      SameValue (.object fs) (.object gs)

/-- Induction on the nesting of a document. -/
@[elab_as_elim]
theorem induct {P : Json → Prop} (null : P .null) (bool : ∀ b, P (.bool b))
    (number : ∀ n, P (.number n)) (string : ∀ s, P (.string s))
    (array : ∀ xs, (∀ x ∈ xs, P x) → P (.array xs))
    (object : ∀ fs, (∀ f ∈ fs, P f.2) → P (.object fs)) (a : Json) : P a :=
  @Json.rec P (fun xs => ∀ x ∈ xs, P x) (fun fs => ∀ f ∈ fs, P f.2) (fun f => P f.2)
    null bool number string array object
    (fun _ h => absurd h List.not_mem_nil)
    (fun _ _ hx hxs => List.forall_mem_cons.mpr ⟨hx, hxs⟩)
    (fun _ h => absurd h List.not_mem_nil)
    (fun _ _ hf hfs => List.forall_mem_cons.mpr ⟨hf, hfs⟩)
    (fun _ _ hv => hv) a

/-! ## Strings -/

theorem hexDigit?_digitChar : ∀ d < 16, hexDigit? (Nat.digitChar d) = some d := by
  decide

theorem unicodeEscape?_hexByte {n : Nat} (hn : n < 0x20) (rest : List Char) :
    unicodeEscape? ('0' :: '0' :: (hexByte n ++ rest)) = some (Char.ofNat n, rest) := by
  have hzero : hexDigit? '0' = some 0 := by decide
  have hhigh := hexDigit?_digitChar (n / 16) (by omega)
  have hlow := hexDigit?_digitChar (n % 16) (by omega)
  have hunit : hexUnit? ('0' :: '0' :: (hexByte n ++ rest)) = some (n, rest) := by
    simp only [hexByte, List.cons_append, List.nil_append, hexUnit?, hzero, hhigh, hlow,
      Option.bind_eq_bind, Option.bind_some]
    congr 2
    omega
  have hfirst : ¬ (0xD800 ≤ n ∧ n < 0xDC00) := by omega
  have hsecond : ¬ (0xDC00 ≤ n ∧ n < 0xE000) := by omega
  rw [unicodeEscape?, hunit, Option.bind_eq_bind, Option.bind_some]
  dsimp only
  rw [if_neg hfirst, if_neg hsecond]
  rfl

/-- The three forms in which a character is written. -/
theorem escapeChar_cases (c : Char) :
    (∃ e, e ≠ 'u' ∧ simpleEscape? e = some c ∧ escapeChar c = ['\\', e]) ∨
    (c.toNat < 0x20 ∧ escapeChar c = '\\' :: 'u' :: '0' :: '0' :: hexByte c.toNat) ∨
    (c ≠ '"' ∧ c ≠ '\\' ∧ ¬ c.toNat < 0x20 ∧ escapeChar c = [c]) := by
  unfold escapeChar
  split_ifs with hquote hslash hb hf hn hr ht hcontrol
  · exact .inl ⟨'"', by decide, by rw [hquote]; rfl, rfl⟩
  · exact .inl ⟨'\\', by decide, by rw [hslash]; rfl, rfl⟩
  · exact .inl ⟨'b', by decide, by rw [hb]; rfl, rfl⟩
  · exact .inl ⟨'f', by decide, by rw [hf]; rfl, rfl⟩
  · exact .inl ⟨'n', by decide, by rw [hn]; rfl, rfl⟩
  · exact .inl ⟨'r', by decide, by rw [hr]; rfl, rfl⟩
  · exact .inl ⟨'t', by decide, by rw [ht]; rfl, rfl⟩
  · exact .inr (.inl ⟨hcontrol, rfl⟩)
  · exact .inr (.inr ⟨hquote, hslash, hcontrol, rfl⟩)

theorem stringBody?_escapeChar (fuel : Nat) (c : Char) (rest : List Char) :
    stringBody? (fuel + 1) (escapeChar c ++ rest) =
      (stringBody? fuel rest).map fun p => (c :: p.1, p.2) := by
  rcases escapeChar_cases c with ⟨e, hu, he, hform⟩ | ⟨hc, hform⟩ | ⟨hquote, hslash, hc, hform⟩
  · rw [hform, List.cons_append, List.cons_append, List.nil_append, stringBody?, he]
    · cases stringBody? fuel rest <;> rfl
    · simpa using hu
  · rw [hform, List.cons_append, List.cons_append, List.cons_append, List.cons_append,
      stringBody?, unicodeEscape?_hexByte hc, Char.ofNat_toNat, Option.bind_eq_bind,
      Option.bind_some]
    dsimp only
    cases stringBody? fuel rest <;> rfl
  · rw [hform, List.cons_append, List.nil_append, stringBody?, if_neg (by simp [hc, hslash])]
    · cases stringBody? fuel rest <;> rfl
    all_goals simp [hquote, hslash]

/-- A quoted text reads back, whatever follows it. -/
theorem stringBody?_escaped (cs rest : List Char) (more : Nat) :
    stringBody? (cs.length + more + 1) (cs.flatMap escapeChar ++ '"' :: rest) =
      some (cs, rest) := by
  induction cs with
  | nil => rw [List.flatMap_nil, List.nil_append, stringBody?]
  | cons c cs ih =>
    have hfuel : (c :: cs).length + more + 1 = (cs.length + more + 1) + 1 := by
      rw [List.length_cons]
      omega
    rw [List.flatMap_cons, List.append_assoc, hfuel, stringBody?_escapeChar, ih]
    rfl

theorem quote_toList (s : String) :
    (quote s).toList = '"' :: (s.toList.flatMap escapeChar ++ ['"']) := by
  simp [quote]

/-- A quoted text ends at its closing quote. -/
theorem quote_append_inj {s t : String} {r u : List Char}
    (h : (quote s).toList ++ r = (quote t).toList ++ u) : s = t ∧ r = u := by
  simp only [quote_toList, List.cons_append, List.append_assoc, List.nil_append, List.cons.injEq,
    true_and] at h
  have hs := stringBody?_escaped s.toList r t.toList.length
  have ht := stringBody?_escaped t.toList u s.toList.length
  rw [h, Nat.add_comm s.toList.length, ht] at hs
  obtain ⟨hchars, hrest⟩ := Prod.mk.inj (Option.some.inj hs)
  exact ⟨String.toList_inj.mp hchars.symm, hrest.symm⟩

/-! ## Numbers -/

/-- The characters that numbers are written with. -/
def isNumeric (c : Char) : Bool := c.isDigit || c == '-' || c == '+' || c == '.' || c == 'e'

theorem isNumeric_of_mem_toDigits {n : Nat} : ∀ c ∈ Nat.toDigits 10 n, isNumeric c := by
  intro c hc
  have hdigit := Nat.isDigit_of_mem_toDigits (by decide) (by decide) hc
  simp [isNumeric, hdigit]

theorem isNumeric_of_mem_replicate {n : Nat} : ∀ c ∈ List.replicate n '0', isNumeric c := by
  intro c hc
  rw [List.eq_of_mem_replicate hc]
  decide

section

variable {digits : List Char} (hdigits : ∀ c ∈ digits, isNumeric c)

include hdigits

theorem isNumeric_of_mem_take (n : Nat) : ∀ c ∈ digits.take n, isNumeric c :=
  fun c hc => hdigits c (List.mem_of_mem_take hc)

theorem isNumeric_of_mem_drop (n : Nat) : ∀ c ∈ digits.drop n, isNumeric c :=
  fun c hc => hdigits c (List.mem_of_mem_drop hc)

theorem isNumeric_positional (e : Int) : ∀ c ∈ positional digits e, isNumeric c := by
  unfold positional
  dsimp only
  split_ifs
  · exact List.forall_mem_append.mpr ⟨hdigits, isNumeric_of_mem_replicate⟩
  · exact List.forall_mem_append.mpr ⟨isNumeric_of_mem_take hdigits _,
      List.forall_mem_cons.mpr ⟨by decide, isNumeric_of_mem_drop hdigits _⟩⟩
  · exact List.forall_mem_cons.mpr ⟨by decide, List.forall_mem_cons.mpr ⟨by decide,
      List.forall_mem_append.mpr ⟨isNumeric_of_mem_replicate, hdigits⟩⟩⟩

theorem isNumeric_scientific (e : Int) : ∀ c ∈ scientific digits e, isNumeric c := by
  unfold scientific
  dsimp only
  refine List.forall_mem_append.mpr ⟨List.forall_mem_append.mpr
    ⟨isNumeric_of_mem_take hdigits _, ?_⟩, List.forall_mem_cons.mpr ⟨by decide,
      List.forall_mem_cons.mpr ⟨?_, isNumeric_of_mem_toDigits⟩⟩⟩
  · split_ifs
    · exact fun c hc => absurd hc List.not_mem_nil
    · exact List.forall_mem_cons.mpr ⟨by decide, isNumeric_of_mem_drop hdigits _⟩
  · split_ifs <;> decide

end

theorem positional_ne_nil {digits : List Char} (hdigits : digits ≠ []) (e : Int) :
    positional digits e ≠ [] := by
  unfold positional
  dsimp only
  split_ifs <;> simp [hdigits]

theorem binary_toText (x : Binary64) :
    x.toText.toList ≠ [] ∧ ∀ c ∈ x.toText.toList, isNumeric c := by
  have hdigits : ∀ c ∈ Nat.toDigits 10 x.shortest.digits, isNumeric c := isNumeric_of_mem_toDigits
  have hbody : ∀ body : List Char, body ≠ [] → (∀ c ∈ body, isNumeric c) →
      (if x.negative then '-' :: body else body) ≠ [] ∧
        ∀ c ∈ (if x.negative then '-' :: body else body), isNumeric c := by
    intro body hne hbody
    split_ifs
    · exact ⟨List.cons_ne_nil _ _, List.forall_mem_cons.mpr ⟨by decide, hbody⟩⟩
    · exact ⟨hne, hbody⟩
  rw [Binary64.toText, String.toList_ofList]
  refine hbody _ ?_ ?_
  · split_ifs
    · exact List.cons_ne_nil _ _
    · exact List.append_ne_nil_of_left_ne_nil (positional_ne_nil Nat.toDigits_ne_nil _) _
    · exact List.append_ne_nil_of_left_ne_nil (positional_ne_nil Nat.toDigits_ne_nil _) _
    · exact List.append_ne_nil_of_right_ne_nil _ (List.cons_ne_nil _ _)
  · split_ifs
    · simp [isNumeric]
    · exact List.forall_mem_append.mpr ⟨isNumeric_positional hdigits _, by simp [isNumeric]⟩
    · exact List.forall_mem_append.mpr ⟨isNumeric_positional hdigits _, by simp [isNumeric]⟩
    · exact isNumeric_scientific hdigits _

theorem integer_toText (n : Int) :
    (toString n).toList ≠ [] ∧ ∀ c ∈ (toString n).toList, isNumeric c := by
  rw [Int.toString_eq_repr, Int.repr_eq_if]
  split_ifs
  · rw [Nat.repr_eq_ofList_toDigits, String.toList_ofList]
    exact ⟨Nat.toDigits_ne_nil, isNumeric_of_mem_toDigits⟩
  · have htext : ("-" ++ (-n).toNat.repr).toList = '-' :: Nat.toDigits 10 (-n).toNat := by
      simp [Nat.repr_eq_ofList_toDigits]
    rw [htext]
    exact ⟨List.cons_ne_nil _ _,
      List.forall_mem_cons.mpr ⟨by decide, isNumeric_of_mem_toDigits⟩⟩

theorem number_toText (n : Number) :
    n.toText.toList ≠ [] ∧ ∀ c ∈ n.toText.toList, isNumeric c := by
  cases n with
  | integer n => exact integer_toText n
  | binary x => exact binary_toText x

/-! ## Values -/

/-- What may stand behind a value. -/
def Delimits (rest : List Char) : Prop :=
  ∀ c ∈ rest.head?, c = ',' ∨ c = ']' ∨ c = '\x7d'

/-- A number ends where another character stands. -/
theorem number_append_inj {m n : Number} {r s : List Char} (hr : Delimits r) (hs : Delimits s)
    (h : m.toText.toList ++ r = n.toText.toList ++ s) : m.toText = n.toText ∧ r = s := by
  have cut : ∀ {n : Number} {r : List Char}, Delimits r →
      (n.toText.toList ++ r).takeWhile isNumeric = n.toText.toList := by
    intro n r hr
    rw [List.takeWhile_append_of_pos (number_toText n).2]
    cases r with
    | nil => simp
    | cons c r =>
      have hc : isNumeric c = false := by
        rcases hr c rfl with rfl | rfl | rfl <;> decide
      simp [hc]
  have htexts : m.toText.toList = n.toText.toList := by rw [← cut hr, h, cut hs]
  exact ⟨String.toList_inj.mp htexts, List.append_cancel_left (htexts ▸ h)⟩

inductive Kind where
  | null
  | bool
  | number
  | string
  | array
  | object

def kind : Json → Kind
  | .null => .null
  | .bool _ => .bool
  | .number _ => .number
  | .string _ => .string
  | .array _ => .array
  | .object _ => .object

/-- The kind of value that a character begins. -/
def kindOf? (c : Char) : Option Kind :=
  if c = 'n' then some .null
  else if c = 't' ∨ c = 'f' then some .bool
  else if c = '"' then some .string
  else if c = '[' then some .array
  else if c = '\x7b' then some .object
  else if isNumeric c then some .number
  else none

theorem kindOf?_numeric {c : Char} (h : isNumeric c) : kindOf? c = some .number := by
  have hne : ∀ d : Char, isNumeric d = false → c ≠ d := by
    rintro d hd rfl
    rw [h] at hd
    cases hd
  rw [kindOf?, if_neg (hne 'n' (by decide)),
    if_neg (not_or.mpr ⟨hne 't' (by decide), hne 'f' (by decide)⟩), if_neg (hne '"' (by decide)),
    if_neg (hne '[' (by decide)), if_neg (hne '\x7b' (by decide)), if_pos h]

/-! ## Texts of values -/

theorem array_toList (x : Json) (xs : List Json) :
    (compact (.array (x :: xs))).toList =
      '[' :: ((compact x).toList ++ ((compactItems xs).toList ++ [']'])) := by
  simp [compact]

theorem items_toList (x : Json) (xs : List Json) :
    (compactItems (x :: xs)).toList = ',' :: ((compact x).toList ++ (compactItems xs).toList) := by
  simp [compactItems]

theorem object_toList (f : String × Json) (fs : List (String × Json)) :
    (compact (.object (f :: fs))).toList =
      '\x7b' :: ((quote f.1).toList ++ ':' :: ((compact f.2).toList ++
        ((compactFields fs).toList ++ ['\x7d']))) := by
  simp [compact]

theorem fields_toList (f : String × Json) (fs : List (String × Json)) :
    (compactFields (f :: fs)).toList =
      ',' :: ((quote f.1).toList ++ ':' ::
        ((compact f.2).toList ++ (compactFields fs).toList)) := by
  simp [compactFields]

/-- The first character of a text tells the kind of its value. -/
theorem compact_kind (a : Json) :
    ∃ c rest, (compact a).toList = c :: rest ∧ kindOf? c = some a.kind := by
  cases a with
  | null => exact ⟨'n', _, rfl, rfl⟩
  | bool b =>
    cases b with
    | true => exact ⟨'t', _, rfl, rfl⟩
    | false => exact ⟨'f', _, rfl, rfl⟩
  | number n =>
    obtain ⟨hne, hall⟩ := number_toText n
    obtain ⟨c, rest, htext⟩ := List.exists_cons_of_ne_nil hne
    exact ⟨c, rest, htext, kindOf?_numeric (hall c (htext ▸ List.mem_cons_self))⟩
  | string s => exact ⟨'"', _, quote_toList s, rfl⟩
  | array xs =>
    cases xs with
    | nil => exact ⟨'[', _, rfl, rfl⟩
    | cons x xs => exact ⟨'[', _, array_toList x xs, rfl⟩
  | object fs =>
    cases fs with
    | nil => exact ⟨'\x7b', _, rfl, rfl⟩
    | cons f fs => exact ⟨'\x7b', _, object_toList f fs, rfl⟩

theorem kind_eq {a b : Json} {r s : List Char}
    (h : (compact a).toList ++ r = (compact b).toList ++ s) : a.kind = b.kind := by
  obtain ⟨c, rest, ha, hc⟩ := compact_kind a
  obtain ⟨d, rest', hb, hd⟩ := compact_kind b
  rw [ha, hb, List.cons_append, List.cons_append] at h
  rw [(List.cons.inj h).1, hd] at hc
  exact (Option.some.inj hc).symm

theorem compact_ne_bracket {a : Json} {r s : List Char} : (compact a).toList ++ r ≠ ']' :: s := by
  intro h
  obtain ⟨c, rest, ha, hc⟩ := compact_kind a
  rw [ha, List.cons_append] at h
  rw [(List.cons.inj h).1] at hc
  cases hc

theorem delimits_items (xs : List Json) (r : List Char) :
    Delimits ((compactItems xs).toList ++ ']' :: r) := by
  cases xs with
  | nil => exact fun c hc => .inr (.inl (Option.some.inj hc).symm)
  | cons x xs =>
    rw [items_toList]
    exact fun c hc => .inl (Option.some.inj hc).symm

theorem delimits_fields (fs : List (String × Json)) (r : List Char) :
    Delimits ((compactFields fs).toList ++ '\x7d' :: r) := by
  cases fs with
  | nil => exact fun c hc => .inr (.inr (Option.some.inj hc).symm)
  | cons f fs =>
    rw [fields_toList]
    exact fun c hc => .inl (Option.some.inj hc).symm

/-- The text of `a` tells it, whatever is behind. -/
def Tells (a : Json) : Prop :=
  ∀ {b : Json} {r s : List Char}, Delimits r → Delimits s →
    (compact a).toList ++ r = (compact b).toList ++ s → SameValue a b ∧ r = s

theorem items_append_inj {xs ys : List Json} {r s : List Char} (hxs : ∀ x ∈ xs, Tells x)
    (h : (compactItems xs).toList ++ ']' :: r = (compactItems ys).toList ++ ']' :: s) :
    List.Forall₂ SameValue xs ys ∧ r = s := by
  induction xs generalizing ys with
  | nil =>
    cases ys with
    | nil => exact ⟨.nil, (List.cons.inj h).2⟩
    | cons y ys =>
      rw [items_toList] at h
      cases (List.cons.inj h).1
  | cons x xs ih =>
    cases ys with
    | nil =>
      rw [items_toList] at h
      cases (List.cons.inj h).1
    | cons y ys =>
      rw [items_toList, items_toList, List.cons_append, List.cons_append, List.append_assoc,
        List.append_assoc] at h
      obtain ⟨hx, hrest⟩ := hxs x List.mem_cons_self (delimits_items xs r) (delimits_items ys s)
        (List.cons.inj h).2
      obtain ⟨hitems, hend⟩ := ih (fun z hz => hxs z (List.mem_cons_of_mem _ hz)) hrest
      exact ⟨.cons hx hitems, hend⟩

theorem fields_append_inj {fs gs : List (String × Json)} {r s : List Char}
    (hfs : ∀ f ∈ fs, Tells f.2)
    (h : (compactFields fs).toList ++ '\x7d' :: r = (compactFields gs).toList ++ '\x7d' :: s) :
    fs.map Prod.fst = gs.map Prod.fst ∧
      List.Forall₂ SameValue (fs.map Prod.snd) (gs.map Prod.snd) ∧ r = s := by
  induction fs generalizing gs with
  | nil =>
    cases gs with
    | nil => exact ⟨rfl, .nil, (List.cons.inj h).2⟩
    | cons g gs =>
      rw [fields_toList] at h
      cases (List.cons.inj h).1
  | cons f fs ih =>
    cases gs with
    | nil =>
      rw [fields_toList] at h
      cases (List.cons.inj h).1
    | cons g gs =>
      simp only [fields_toList, List.cons_append, List.append_assoc, List.cons.injEq,
        true_and] at h
      obtain ⟨hkey, hvalue⟩ := quote_append_inj h
      obtain ⟨hf, hrest⟩ := hfs f List.mem_cons_self (delimits_fields fs r) (delimits_fields gs s)
        (List.cons.inj hvalue).2
      obtain ⟨hkeys, hvalues, hend⟩ := ih (fun f hf => hfs f (List.mem_cons_of_mem _ hf)) hrest
      exact ⟨by rw [List.map_cons, List.map_cons, hkey, hkeys], .cons hf hvalues, hend⟩

/-- A text that begins with a value tells the value and what follows it. -/
theorem compact_append_inj (a : Json) : Tells a := by
  induction a using induct with
  | null =>
    intro b r s _ _ h
    have hkind := kind_eq h
    cases b with
    | null => exact ⟨.null, List.append_cancel_left h⟩
    | _ => cases hkind
  | bool p =>
    intro b r s _ _ h
    have hkind := kind_eq h
    cases b with
    | bool q =>
      obtain rfl : p = q := by
        cases p <;> cases q
        · rfl
        · cases (List.cons.inj h).1
        · cases (List.cons.inj h).1
        · rfl
      exact ⟨.bool p, List.append_cancel_left h⟩
    | _ => cases hkind
  | number m =>
    intro b r s hr hs h
    have hkind := kind_eq h
    cases b with
    | number n =>
      obtain ⟨htext, hrest⟩ := number_append_inj hr hs h
      exact ⟨.number htext, hrest⟩
    | _ => cases hkind
  | string x =>
    intro b r s _ _ h
    have hkind := kind_eq h
    cases b with
    | string y =>
      obtain ⟨rfl, hrest⟩ := quote_append_inj h
      exact ⟨.string x, hrest⟩
    | _ => cases hkind
  | array xs ih =>
    intro b r s _ _ h
    have hkind := kind_eq h
    cases b with
    | array ys =>
      cases xs with
      | nil =>
        cases ys with
        | nil => exact ⟨.array .nil, List.append_cancel_left h⟩
        | cons y ys =>
          rw [array_toList] at h
          simp only [List.cons_append, List.append_assoc] at h
          exact absurd (List.cons.inj h).2.symm compact_ne_bracket
      | cons x xs =>
        cases ys with
        | nil =>
          rw [array_toList] at h
          simp only [List.cons_append, List.append_assoc] at h
          exact absurd (List.cons.inj h).2 compact_ne_bracket
        | cons y ys =>
          -- with a comma in front the first item is like the others
          have hitems : (compactItems (x :: xs)).toList ++ ']' :: r =
              (compactItems (y :: ys)).toList ++ ']' :: s := by
            simpa [array_toList, items_toList] using h
          obtain ⟨hsame, hrest⟩ := items_append_inj ih hitems
          exact ⟨.array hsame, hrest⟩
    | _ => cases hkind
  | object fs ih =>
    intro b r s _ _ h
    have hkind := kind_eq h
    cases b with
    | object gs =>
      cases fs with
      | nil =>
        cases gs with
        | nil => exact ⟨.object rfl .nil, List.append_cancel_left h⟩
        | cons g gs =>
          rw [object_toList, quote_toList] at h
          cases (List.cons.inj (List.cons.inj h).2).1
      | cons f fs =>
        cases gs with
        | nil =>
          rw [object_toList, quote_toList] at h
          cases (List.cons.inj (List.cons.inj h).2).1
        | cons g gs =>
          have hfields : (compactFields (f :: fs)).toList ++ '\x7d' :: r =
              (compactFields (g :: gs)).toList ++ '\x7d' :: s := by
            simpa [object_toList, fields_toList] using h
          obtain ⟨hkeys, hvalues, hrest⟩ := fields_append_inj ih hfields
          exact ⟨.object hkeys hvalues, hrest⟩
    | _ => cases hkind

theorem forall₂_imp_of_mem {α β : Type} {R S : α → β → Prop} {xs : List α} {ys : List β}
    (h : List.Forall₂ R xs ys) (himp : ∀ x ∈ xs, ∀ y ∈ ys, R x y → S x y) :
    List.Forall₂ S xs ys := by
  rw [List.forall₂_iff_zip] at h ⊢
  refine ⟨h.1, fun {x y} hmem => ?_⟩
  obtain ⟨hx, hy⟩ := List.of_mem_zip hmem
  exact himp x hx y hy (h.2 hmem)

theorem items_congr {xs ys : List Json}
    (h : List.Forall₂ (fun x y => compact x = compact y) xs ys) :
    compactItems xs = compactItems ys := by
  induction h with
  | nil => rfl
  | cons hx _ ih => rw [compactItems, compactItems, hx, ih]

theorem fields_congr {fs gs : List (String × Json)} (hkeys : fs.map Prod.fst = gs.map Prod.fst)
    (h : List.Forall₂ (fun x y => compact x = compact y) (fs.map Prod.snd) (gs.map Prod.snd)) :
    compactFields fs = compactFields gs := by
  induction fs generalizing gs with
  | nil =>
    rw [List.map_nil, eq_comm, List.map_eq_nil_iff] at hkeys
    rw [hkeys]
  | cons f fs ih =>
    cases gs with
    | nil => cases hkeys
    | cons g gs =>
      obtain ⟨hkey, hkeys⟩ := List.cons.inj hkeys
      obtain ⟨hvalue, hvalues⟩ := List.forall₂_cons.mp h
      rw [compactFields, compactFields, hkey, hvalue, ih hkeys hvalues]

theorem SameValue.compact_eq {a b : Json} (h : SameValue a b) : compact a = compact b := by
  induction a using induct generalizing b with
  | null => cases h; rfl
  | bool => cases h; rfl
  | number =>
    cases h with
    | number htext => rw [compact, compact, htext]
  | string => cases h; rfl
  | array xs ih =>
    cases h with
    | array hitems =>
      have htexts := forall₂_imp_of_mem hitems fun x hx y _ h => ih x hx h
      cases htexts with
      | nil => rfl
      | cons hx hxs => rw [compact, compact, hx, items_congr hxs]
  | object fs ih =>
    cases h with
    | @object _ gs hkeys hvalues =>
      have htexts : List.Forall₂ (fun x y => compact x = compact y) (fs.map Prod.snd)
          (gs.map Prod.snd) := by
        refine forall₂_imp_of_mem hvalues fun x hx y _ h => ?_
        obtain ⟨f, hf, rfl⟩ := List.mem_map.mp hx
        exact ih f hf h
      cases fs with
      | nil =>
        rw [List.map_nil, eq_comm, List.map_eq_nil_iff] at hkeys
        rw [hkeys]
      | cons f fs =>
        cases gs with
        | nil => cases hkeys
        | cons g gs =>
          obtain ⟨hkey, hkeys⟩ := List.cons.inj hkeys
          obtain ⟨hvalue, hvalues⟩ := List.forall₂_cons.mp htexts
          rw [compact, compact, hkey, hvalue, fields_congr hkeys hvalues]

/-- Two documents have one compact text when they are one value. -/
theorem compact_eq_iff {a b : Json} : compact a = compact b ↔ SameValue a b := by
  refine ⟨fun h => ?_, SameValue.compact_eq⟩
  have hnothing : Delimits [] := fun _ hc => by cases hc
  exact (compact_append_inj a hnothing hnothing (by rw [h])).1

end ClientForge.Json
