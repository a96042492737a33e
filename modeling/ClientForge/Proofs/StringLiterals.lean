import ClientForge.Json.Parse
import Mathlib.Data.List.Basic

/-!
String literals in the code that is generated, read by the rules of its language: a literal goes on
to the next quote that is not escaped, and a backslash is never read as itself. Line ends are
unified in the whole source before.

Results:
1. `Literal.unique`: there is one way to read a literal.
2. `Literal.read_cases`: reading a text up to the quote behind it loses characters, or makes quotes,
   or the text holds nothing that is read as something else.
3. `denotes_iff`: a text between quotes denotes itself exactly if it is verbatim.
-/

namespace ClientForge.Codegen

/-! ## Definitions -/

/-- Line ends are single line feeds. -/
def lineFeeds : List Char → List Char
  | '\r' :: '\n' :: cs => '\n' :: lineFeeds cs
  | c :: cs => c :: lineFeeds cs
  | [] => []

/-- The letters that stand for one character behind a backslash. -/
def escapeLetters : List (Char × Char) :=
  [('n', '\n'), ('r', '\r'), ('t', '\t'), ('0', '\x00'), ('\\', '\\'), ('\'', '\''), ('"', '"')]

def hexNumber? (digits : List Char) : Option Nat :=
  digits.foldlM (fun n d => (Json.hexDigit? d).map (16 * n + ·)) 0

/-- What stands for a character behind a backslash. -/
inductive Escape : List Char → Char → Prop
  | letter {e c : Char} : escapeLetters.lookup e = some c → Escape [e] c
  | byte {high low : Char} {n : Nat} : hexNumber? [high, low] = some n → n < 0x80 →
      Escape ['x', high, low] (Char.ofNat n)
  /-- Up to six digits, and underscores behind the first. -/
  | scalar {digits : List Char} {n : Nat} : digits.head? ≠ some '_' →
      1 ≤ (digits.filter (· ≠ '_')).length → (digits.filter (· ≠ '_')).length ≤ 6 →
      hexNumber? (digits.filter (· ≠ '_')) = some n → n.isValidChar →
      Escape ('u' :: '\x7b' :: (digits ++ ['\x7d'])) (Char.ofNat n)

/-- Skipped behind a line end with a backslash before it. -/
def literalBlanks : List Char := [' ', '\t', '\n', '\r']

/-- Reads a literal behind its opening quote: the text that it denotes, and what follows the
closing one. -/
inductive Literal : List Char → List Char → List Char → Prop
  | close {rest : List Char} : Literal ('"' :: rest) [] rest
  | plain {c : Char} {cs text rest : List Char} : c ≠ '"' → c ≠ '\\' → c ≠ '\r' →
      Literal cs text rest → Literal (c :: cs) (c :: text) rest
  | escape {e : List Char} {c : Char} {cs text rest : List Char} : Escape e c →
      Literal cs text rest → Literal ('\\' :: (e ++ cs)) (c :: text) rest
  | continued {blanks cs text rest : List Char} : (∀ b ∈ blanks, b ∈ literalBlanks) →
      (∀ c ∈ cs.head?, c ∉ literalBlanks) → Literal cs text rest →
      Literal ('\\' :: '\n' :: (blanks ++ cs)) text rest

/-- Nothing in the text is read as something else in a literal. -/
def IsVerbatim (cs : List Char) : Prop := ∀ c ∈ cs, c ≠ '"' ∧ c ≠ '\\' ∧ c ≠ '\r'

instance (cs : List Char) : Decidable (IsVerbatim cs) := List.decidableBAll _ cs

/-! ## Line ends -/

theorem lineFeeds_cons {c : Char} (h : c ≠ '\r') (cs : List Char) :
    lineFeeds (c :: cs) = c :: lineFeeds cs := by
  rw [lineFeeds]
  rintro d rfl
  exact absurd rfl h

/-- A quote is no part of a line end. -/
theorem lineFeeds_append_quote (cs after : List Char) :
    lineFeeds (cs ++ '"' :: after) = lineFeeds cs ++ '"' :: lineFeeds after := by
  fun_induction lineFeeds cs with
  | case1 cs ih => exact congrArg ('\n' :: ·) ih
  | case2 c cs hends ih =>
    rw [List.cons_append, lineFeeds, ih]
    · rfl
    · intro rest hreturn hfeed
      cases cs with
      | nil => cases hfeed
      | cons d cs =>
        rw [List.cons_append, List.cons.injEq] at hfeed
        exact hends cs hreturn (congrArg (· :: cs) hfeed.1)
  | case3 => exact lineFeeds_cons (by decide) after

theorem lineFeeds_of_no_return {cs : List Char} (h : '\r' ∉ cs) : lineFeeds cs = cs := by
  induction cs with
  | nil => rfl
  | cons c cs ih =>
    rw [List.mem_cons, not_or] at h
    rw [lineFeeds_cons (Ne.symm h.1), ih h.2]

/-- Unified line ends are no more characters, and quotes stay. -/
theorem lineFeeds_count (cs : List Char) :
    (lineFeeds cs).length ≤ cs.length ∧ (lineFeeds cs).count '"' = cs.count '"' := by
  fun_induction lineFeeds cs with
  | case1 cs ih =>
    refine ⟨?_, ?_⟩
    · exact Nat.succ_le_succ (Nat.le_succ_of_le ih.1)
    · rw [List.count_cons_of_ne (by decide), List.count_cons_of_ne (by decide),
        List.count_cons_of_ne (by decide), ih.2]
  | case2 c cs _ ih => exact ⟨Nat.succ_le_succ ih.1, by rw [List.count_cons, List.count_cons, ih.2]⟩
  | case3 => exact ⟨Nat.le_refl _, rfl⟩

/-! ## Escapes -/

theorem hexDigit?_isSome {c : Char} (h : (Json.hexDigit? c).isSome) : c ≠ '"' ∧ c ≠ '\x7d' := by
  constructor <;> rintro rfl <;> exact absurd h (by decide)

theorem foldlM_isSome {digits : List Char} {m n : Nat}
    (h : digits.foldlM (fun n d => (Json.hexDigit? d).map (16 * n + ·)) m = some n) :
    ∀ d ∈ digits, (Json.hexDigit? d).isSome := by
  induction digits generalizing m with
  | nil => exact fun d hd => nomatch hd
  | cons d digits ih =>
    rw [List.foldlM_cons] at h
    obtain ⟨k, hk, hrest⟩ := Option.bind_eq_some_iff.mp h
    obtain ⟨v, hv, _⟩ := Option.map_eq_some_iff.mp hk
    exact List.forall_mem_cons.mpr ⟨by rw [hv]; rfl, ih hrest⟩

/-- The digits of an escape do not end it, and hold no quote. -/
theorem digits_plain {digits : List Char} {n : Nat}
    (h : hexNumber? (digits.filter (· ≠ '_')) = some n) :
    ∀ d ∈ digits, d ≠ '"' ∧ d ≠ '\x7d' := by
  intro d hd
  by_cases hmark : d = '_'
  · subst hmark
    decide
  · exact hexDigit?_isSome (foldlM_isSome h d (List.mem_filter.mpr ⟨hd, by simpa using hmark⟩))

/-- An escape holds no quote, unless it is the one for it. -/
theorem Escape.quote {e : List Char} {c : Char} (h : Escape e c) :
    e ≠ [] ∧ (e = ['"'] ∧ c = '"' ∨ '"' ∉ e) := by
  cases h with
  | @letter e c h =>
    refine ⟨List.cons_ne_nil _ _, ?_⟩
    by_cases hquote : e = '"'
    · subst hquote
      cases h
      exact .inl ⟨rfl, rfl⟩
    · exact .inr fun hmem => hquote (List.mem_singleton.mp hmem).symm
  | byte h _ =>
    have hdigits := foldlM_isSome h
    refine ⟨List.cons_ne_nil _ _, .inr fun hmem => ?_⟩
    rcases List.mem_cons.mp hmem with heq | hmem
    · cases heq
    · exact (hexDigit?_isSome (hdigits _ hmem)).1 rfl
  | @scalar digits _ _ _ _ h _ =>
    refine ⟨List.cons_ne_nil _ _, .inr fun hmem => ?_⟩
    have hin : '"' ∈ digits := by simpa using hmem
    exact (digits_plain h _ hin).1 rfl

/-- What is followed by its end mark for the first time ends there. -/
theorem append_mark_inj {m : Char} {ds es cs cs' : List Char} (hds : ∀ d ∈ ds, d ≠ m)
    (hes : ∀ e ∈ es, e ≠ m) (h : ds ++ m :: cs = es ++ m :: cs') : ds = es ∧ cs = cs' := by
  induction ds generalizing es with
  | nil =>
    cases es with
    | nil => exact ⟨rfl, (List.cons.inj h).2⟩
    | cons e es => exact absurd (List.cons.inj h).1.symm (hes e List.mem_cons_self)
  | cons d ds ih =>
    cases es with
    | nil => exact absurd (List.cons.inj h).1 (hds d List.mem_cons_self)
    | cons e es =>
      obtain ⟨rfl, hrest⟩ := List.cons.inj h
      obtain ⟨rfl, hcs⟩ :=
        ih (List.forall_mem_cons.mp hds).2 (List.forall_mem_cons.mp hes).2 hrest
      exact ⟨rfl, hcs⟩

/-- An escape tells where it ends and what it stands for. -/
theorem Escape.unique {e e' cs cs' : List Char} {c c' : Char} (h : Escape e c) (h' : Escape e' c')
    (heq : e ++ cs = e' ++ cs') : c = c' ∧ cs = cs' := by
  -- the first character tells the kinds apart
  have hkind (d : Char) (hd : d = 'x' ∨ d = 'u') (c : Char) :
      escapeLetters.lookup d ≠ some c := by
    rcases hd with rfl | rfl <;> exact fun h => nomatch h
  cases h with
  | letter hletter =>
    cases h' with
    | letter hletter' =>
      obtain ⟨rfl, rfl⟩ := List.cons.inj heq
      exact ⟨Option.some.inj (hletter.symm.trans hletter'), rfl⟩
    | byte | scalar =>
      cases (List.cons.inj heq).1
      exact absurd hletter (hkind _ (by decide) _)
  | byte hvalue _ =>
    cases h' with
    | byte hvalue' _ =>
      simp only [List.cons_append, List.nil_append, List.cons.injEq] at heq
      obtain ⟨_, rfl, rfl, rfl⟩ := heq
      exact ⟨congrArg _ (Option.some.inj (hvalue.symm.trans hvalue')), rfl⟩
    | letter hletter =>
      cases (List.cons.inj heq).1
      exact absurd hletter (hkind _ (by decide) _)
    | scalar => cases (List.cons.inj heq).1
  | scalar _ _ _ hvalue _ =>
    cases h' with
    | scalar _ _ _ hvalue' _ =>
      simp only [List.cons_append, List.append_assoc, List.cons.injEq] at heq
      obtain ⟨_, _, hdigits⟩ := heq
      obtain ⟨rfl, rfl⟩ := append_mark_inj (fun d hd => (digits_plain hvalue d hd).2)
        (fun d hd => (digits_plain hvalue' d hd).2) hdigits
      exact ⟨congrArg _ (Option.some.inj (hvalue.symm.trans hvalue')), rfl⟩
    | letter hletter =>
      cases (List.cons.inj heq).1
      exact absurd hletter (hkind _ (by decide) _)
    | byte => cases (List.cons.inj heq).1

/-! ## Literals -/

/-- An escape does not begin with a line end. -/
theorem Escape.append_ne {e : List Char} {c : Char} (h : Escape e c) (cs tail : List Char) :
    e ++ cs ≠ '\n' :: tail := by
  cases h with
  | letter hletter =>
    intro heq
    cases (List.cons.inj heq).1
    cases hletter
  | byte | scalar => exact fun heq => absurd (List.cons.inj heq).1 (by decide)

/-- All blanks are skipped behind a line end. -/
theorem skipped_inj {blanks blanks' cs cs' : List Char} (hblanks : ∀ b ∈ blanks, b ∈ literalBlanks)
    (hblanks' : ∀ b ∈ blanks', b ∈ literalBlanks) (hcs : ∀ c ∈ cs.head?, c ∉ literalBlanks)
    (hcs' : ∀ c ∈ cs'.head?, c ∉ literalBlanks) (h : blanks ++ cs = blanks' ++ cs') : cs = cs' := by
  have hskip {blanks cs : List Char} (hblanks : ∀ b ∈ blanks, b ∈ literalBlanks)
      (hcs : ∀ c ∈ cs.head?, c ∉ literalBlanks) :
      (blanks ++ cs).dropWhile (· ∈ literalBlanks) = cs := by
    rw [List.dropWhile_append_of_pos (by simpa using hblanks)]
    cases cs with
    | nil => rfl
    | cons c cs => exact List.dropWhile_cons_of_neg (by simpa using hcs c rfl)
  rw [← hskip hblanks hcs, h, hskip hblanks' hcs']

/-- There is one way to read a literal. -/
theorem Literal.unique {source text text' rest rest' : List Char} (h : Literal source text rest)
    (h' : Literal source text' rest') : text = text' ∧ rest = rest' := by
  induction h generalizing text' rest' with
  | @close rest =>
    generalize hsource : '"' :: rest = source at h'
    cases h' with
    | close => exact ⟨rfl, (List.cons.inj hsource).2⟩
    | plain hquote => exact absurd (List.cons.inj hsource).1.symm hquote
    | escape | continued => cases (List.cons.inj hsource).1
  | @plain c cs text rest hquote hescape _ _ ih =>
    generalize hsource : c :: cs = source at h'
    cases h' with
    | close => exact absurd (List.cons.inj hsource).1 hquote
    | plain _ _ _ h' =>
      obtain ⟨rfl, rfl⟩ := List.cons.inj hsource
      obtain ⟨rfl, rfl⟩ := ih h'
      exact ⟨rfl, rfl⟩
    | escape | continued => exact absurd (List.cons.inj hsource).1 hescape
  | @escape e c cs text rest hread _ ih =>
    generalize hsource : '\\' :: (e ++ cs) = source at h'
    cases h' with
    | close => cases (List.cons.inj hsource).1
    | plain _ hescape => exact absurd (List.cons.inj hsource).1.symm hescape
    | escape hread' h' =>
      obtain ⟨rfl, rfl⟩ := hread.unique hread' (List.cons.inj hsource).2
      obtain ⟨rfl, rfl⟩ := ih h'
      exact ⟨rfl, rfl⟩
    | continued => exact absurd (List.cons.inj hsource).2 (hread.append_ne _ _)
  | @continued blanks cs text rest hblanks hcs _ ih =>
    generalize hsource : '\\' :: '\n' :: (blanks ++ cs) = source at h'
    cases h' with
    | close => cases (List.cons.inj hsource).1
    | plain _ hescape => exact absurd (List.cons.inj hsource).1.symm hescape
    | escape hread' _ => exact absurd (List.cons.inj hsource).2.symm (hread'.append_ne _ _)
    | continued hblanks' hcs' h' =>
      have hskipped := (List.cons.inj (List.cons.inj hsource).2).2
      obtain rfl := skipped_inj hblanks hblanks' hcs hcs' hskipped
      exact ih h'

theorem isVerbatim_cons {c : Char} {cs : List Char} :
    IsVerbatim (c :: cs) ↔ (c ≠ '"' ∧ c ≠ '\\' ∧ c ≠ '\r') ∧ IsVerbatim cs :=
  List.forall_mem_cons

/-- A verbatim text denotes itself, up to the quote behind it. -/
theorem Literal.of_verbatim {cs : List Char} (h : IsVerbatim cs) (after : List Char) :
    Literal (cs ++ '"' :: after) cs after := by
  induction cs with
  | nil => exact .close
  | cons c cs ih =>
    obtain ⟨⟨hquote, hescape, hreturn⟩, hcs⟩ := isVerbatim_cons.mp h
    exact .plain hquote hescape hreturn (ih hcs)

/-- What stands before a quote ends before another one, or holds it. -/
theorem append_quote_cases {e cs front after : List Char} (h : e ++ cs = front ++ '"' :: after) :
    (∃ later, front = e ++ later ∧ cs = later ++ '"' :: after) ∨
      ∃ beyond, e = front ++ '"' :: beyond := by
  rcases List.append_eq_append_iff.mp h with ⟨later, hfront, hcs⟩ | ⟨beyond, he, hbeyond⟩
  · exact .inl ⟨later, hfront, hcs⟩
  · cases beyond with
    | nil => exact .inl ⟨[], by rw [he, List.append_nil, List.append_nil], hbeyond.symm⟩
    | cons d beyond =>
      obtain ⟨rfl, _⟩ := List.cons.inj hbeyond
      exact .inr ⟨beyond, he⟩

/-- Reading a text with a quote behind it makes fewer characters of it, as escapes do and quotes
within it, or it makes more quotes, as a backslash at the end does, or the text is verbatim. -/
theorem Literal.read_cases {source text rest : List Char} (h : Literal source text rest)
    {front after : List Char} (hsource : source = front ++ '"' :: after) :
    text.length < front.length ∨ front.count '"' < text.count '"' ∨
      IsVerbatim front ∧ text = front := by
  induction h generalizing front with
  | close =>
    cases front with
    | nil => exact .inr (.inr ⟨fun _ hc => (nomatch hc), rfl⟩)
    | cons => exact .inl (Nat.succ_pos _)
  | @plain c cs text rest hquote hescape hreturn _ ih =>
    cases front with
    | nil => exact absurd (List.cons.inj hsource).1 hquote
    | cons d front =>
      obtain ⟨rfl, hcs⟩ := List.cons.inj hsource
      rcases ih hcs with hless | hmore | ⟨hverbatim, rfl⟩
      · exact .inl (Nat.succ_lt_succ hless)
      · refine .inr (.inl ?_)
        rwa [List.count_cons_of_ne hquote, List.count_cons_of_ne hquote]
      · exact .inr (.inr ⟨isVerbatim_cons.mpr ⟨⟨hquote, hescape, hreturn⟩, hverbatim⟩, rfl⟩)
  | @escape e c cs text rest hread _ ih =>
    obtain ⟨hne, hquote⟩ := hread.quote
    cases front with
    | nil => cases (List.cons.inj hsource).1
    | cons d front =>
      obtain ⟨rfl, hcs⟩ := List.cons.inj hsource
      rcases append_quote_cases hcs with ⟨later, rfl, hlater⟩ | ⟨beyond, hbeyond⟩
      · -- the escape lies in the text
        have hlength := List.length_pos_iff.mpr hne
        have hcount : e.count '"' ≤ [c].count '"' := by
          rcases hquote with ⟨rfl, rfl⟩ | hnone
          · exact Nat.le_refl _
          · rw [List.count_eq_zero_of_not_mem hnone]
            exact Nat.zero_le _
        rcases ih hlater with hless | hmore | ⟨_, rfl⟩
        · left
          simp only [List.length_cons, List.length_append]
          omega
        · right; left
          rw [List.count_cons_of_ne (by decide), List.count_append, ← List.singleton_append,
            List.count_append]
          omega
        · left
          simp only [List.length_cons, List.length_append]
          omega
      · -- it goes beyond the text, so it is the quote behind the text that is escaped
        obtain ⟨heq, rfl⟩ := hquote.resolve_right fun hnone => hnone (by simp [hbeyond])
        obtain rfl : front = [] := by
          rw [heq] at hbeyond
          exact (List.append_eq_singleton_iff.mp hbeyond.symm).elim (·.1) fun h => nomatch h.2
        exact .inr (.inl (by simp))
  | @continued blanks cs text rest hblanks _ _ ih =>
    have hquote : '"' ∉ blanks := fun hmem => absurd (hblanks _ hmem) (by decide)
    cases front with
    | nil => cases (List.cons.inj hsource).1
    | cons d front =>
      obtain ⟨rfl, hfeed⟩ := List.cons.inj hsource
      cases front with
      | nil => cases (List.cons.inj hfeed).1
      | cons d front =>
        obtain ⟨rfl, hcs⟩ := List.cons.inj hfeed
        rcases append_quote_cases hcs with ⟨later, rfl, hlater⟩ | ⟨beyond, hbeyond⟩
        · rcases ih hlater with hless | hmore | ⟨_, rfl⟩
          · left
            simp only [List.length_cons, List.length_append]
            omega
          · right; left
            rw [List.count_cons_of_ne (by decide), List.count_cons_of_ne (by decide),
              List.count_append, List.count_eq_zero_of_not_mem hquote, Nat.zero_add]
            exact hmore
          · left
            simp only [List.length_cons, List.length_append]
            omega
        · exact absurd (by simp [hbeyond]) hquote

example : Literal ['\\', 'x', '4', '1', '"', ','] ['A'] [','] :=
  .escape (.byte (n := 0x41) rfl (by decide)) .close

/-- Between quotes, and read with the line ends unified, a text denotes itself exactly if it is
verbatim. -/
theorem denotes_iff {cs after : List Char} :
    (∃ rest, Literal (lineFeeds (cs ++ '"' :: after)) cs rest) ↔ IsVerbatim cs := by
  rw [lineFeeds_append_quote]
  constructor
  · rintro ⟨rest, h⟩
    obtain ⟨hlength, hquotes⟩ := lineFeeds_count cs
    rcases h.read_cases rfl with hless | hmore | ⟨hverbatim, hsame⟩
    · omega
    · omega
    · rwa [← hsame] at hverbatim
  · intro h
    rw [lineFeeds_of_no_return fun hmem => (h _ hmem).2.2 rfl]
    exact ⟨_, .of_verbatim h _⟩

end ClientForge.Codegen
