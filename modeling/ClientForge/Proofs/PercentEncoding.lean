import ClientForge.Http.Url
import ClientForge.Proofs.KeyOrder
import Mathlib

/-!
Percent encoding and what it stands for. An encoder writes characters as escapes and leaves percent
signs alone, so whoever decodes what it wrote reads what the text itself says when it is decoded.
This is the text as it was only if it holds no escape of its own.

Results:
1. `decode_encode`: decoding what was encoded is decoding the text.
2. `decode_cases`: a text without escapes decodes to itself, one with an escape to fewer bytes.
-/

namespace ClientForge.Http.Url

/-! ## Definitions -/

/-- The UTF-8 encoding of characters. -/
def utf8 (cs : List Char) : List UInt8 := cs.flatMap String.utf8EncodeChar

def hexValue? (c : Char) : Option Nat := digitValue? c.toLower

/-- The byte that two digits behind a percent sign stand for. -/
def escape? (high low : Char) : Option UInt8 := do
  return UInt8.ofNat ((← hexValue? high) * 16 + (← hexValue? low))

/-- The bytes of a text in which every escape stands for a byte. -/
def decode : List Char → List UInt8
  | '%' :: high :: low :: cs =>
    match escape? high low with
    | some byte => byte :: decode cs
    | none => String.utf8EncodeChar '%' ++ decode (high :: low :: cs)
  | c :: cs => String.utf8EncodeChar c ++ decode cs
  | [] => []

/-- The text starts with two hexadecimal digits. -/
def StartsWithDigits (cs : List Char) : Prop :=
  ∃ high low rest, cs = high :: low :: rest ∧ (escape? high low).isSome

/-- The text holds a percent sign with two hexadecimal digits behind it. -/
def HasEscape (cs : List Char) : Prop :=
  ∃ before after, cs = before ++ '%' :: after ∧ StartsWithDigits after

/-! ## Decoding -/

section

variable {c : Char} {cs : List Char}

theorem utf8_cons (c : Char) (cs : List Char) :
    utf8 (c :: cs) = String.utf8EncodeChar c ++ utf8 cs :=
  List.flatMap_cons

theorem utf8_append (cs ds : List Char) : utf8 (cs ++ ds) = utf8 cs ++ utf8 ds :=
  List.flatMap_append

theorem utf8_toList (s : String) : utf8 s.toList = Text.bytes s := (Text.bytes_eq_flatMap s).symm

theorem utf8_injective : Function.Injective utf8 := by
  intro cs ds h
  refine String.ofList_injective (Text.bytes_injective ?_)
  rw [← utf8_toList, ← utf8_toList, String.toList_ofList, String.toList_ofList, h]

theorem length_utf8EncodeChar_pos (c : Char) : 0 < (String.utf8EncodeChar c).length :=
  List.length_pos_iff.mpr String.utf8EncodeChar_ne_nil

theorem startsWithDigits_cons {high low : Char} :
    StartsWithDigits (high :: low :: cs) ↔ (escape? high low).isSome := by
  constructor
  · rintro ⟨_, _, _, heq, hescape⟩
    cases heq
    exact hescape
  · exact fun hescape => ⟨high, low, cs, rfl, hescape⟩

/-- An escape stands for its byte. -/
theorem decode_escape {high low : Char} {byte : UInt8} (h : escape? high low = some byte) :
    decode ('%' :: high :: low :: cs) = byte :: decode cs := by
  rw [decode, h]

/-- A character that does not begin an escape stands for itself. -/
theorem decode_cons (h : ¬ (c = '%' ∧ StartsWithDigits cs)) :
    decode (c :: cs) = String.utf8EncodeChar c ++ decode cs := by
  rw [decode.eq_def]
  split
  · next high low rest heq =>
    obtain ⟨rfl, rfl⟩ := List.cons.inj heq
    cases hescape : escape? high low with
    | none => rfl
    | some byte => exact absurd ⟨rfl, startsWithDigits_cons.mpr (by rw [hescape]; rfl)⟩ h
  · next heq =>
    obtain ⟨rfl, rfl⟩ := List.cons.inj heq
    rfl
  · next heq => cases heq

/-- A text begins with an escape or with a character that stands for itself. -/
theorem escapes_induction {motive : List Char → Prop} (nil : motive [])
    (escape : ∀ high low byte cs, escape? high low = some byte → motive cs →
      motive ('%' :: high :: low :: cs))
    (plain : ∀ c cs, ¬ (c = '%' ∧ StartsWithDigits cs) → motive cs → motive (c :: cs))
    (cs : List Char) : motive cs := by
  induction cs using decode.induct with
  | case1 high low cs byte hbyte ih => exact escape high low byte cs hbyte ih
  | case2 high low cs hnone ih =>
    refine plain _ _ (fun ⟨_, hdigits⟩ => ?_) ih
    rw [startsWithDigits_cons, hnone] at hdigits
    cases hdigits
  | case3 c cs hother ih =>
    refine plain c cs ?_ ih
    rintro ⟨rfl, high, low, rest, rfl, _⟩
    exact hother high low rest rfl rfl
  | case4 => exact nil

theorem hasEscape_cons :
    HasEscape (c :: cs) ↔ (c = '%' ∧ StartsWithDigits cs) ∨ HasEscape cs := by
  constructor
  · rintro ⟨before, after, hsplit, hdigits⟩
    cases before with
    | nil =>
      obtain ⟨rfl, rfl⟩ := List.cons.inj hsplit
      exact .inl ⟨rfl, hdigits⟩
    | cons first before =>
      obtain ⟨rfl, rfl⟩ := List.cons.inj hsplit
      exact .inr ⟨before, after, rfl, hdigits⟩
  · rintro (⟨rfl, hdigits⟩ | ⟨before, after, rfl, hdigits⟩)
    · exact ⟨[], cs, rfl, hdigits⟩
    · exact ⟨c :: before, after, rfl, hdigits⟩

theorem not_hasEscape_nil : ¬ HasEscape [] := by
  rintro ⟨before, after, hsplit, _⟩
  cases before <;> cases hsplit

/-- A text without escapes decodes to itself, and one with an escape to fewer bytes than its own. -/
theorem decode_cases (cs : List Char) : (¬ HasEscape cs ∧ decode cs = utf8 cs) ∨
    (HasEscape cs ∧ (decode cs).length < (utf8 cs).length) := by
  induction cs using escapes_induction with
  | nil => exact .inl ⟨not_hasEscape_nil, rfl⟩
  | escape high low byte cs hbyte ih =>
    have hdigits : StartsWithDigits (high :: low :: cs) :=
      startsWithDigits_cons.mpr (by rw [hbyte]; rfl)
    refine .inr ⟨hasEscape_cons.mpr (.inl ⟨rfl, hdigits⟩), ?_⟩
    have hrest : (decode cs).length ≤ (utf8 cs).length := by
      rcases ih with ⟨_, h⟩ | ⟨_, h⟩
      · exact Nat.le_of_eq (congrArg List.length h)
      · exact Nat.le_of_lt h
    have hpercent := length_utf8EncodeChar_pos '%'
    have hhigh := length_utf8EncodeChar_pos high
    simp only [decode_escape hbyte, utf8_cons, List.length_append, List.length_cons]
    omega
  | plain c cs hc ih =>
    rw [decode_cons hc, utf8_cons, hasEscape_cons, or_iff_right hc, List.append_cancel_left_eq,
      List.length_append, List.length_append, Nat.add_lt_add_iff_left]
    exact ih

theorem decode_of_plain (h : ¬ HasEscape cs) : decode cs = utf8 cs :=
  ((decode_cases cs).resolve_right fun hescape => h hescape.1).2

theorem length_decode_le (cs : List Char) : (decode cs).length ≤ (utf8 cs).length := by
  rcases decode_cases cs with ⟨_, h⟩ | ⟨_, h⟩
  · exact Nat.le_of_eq (congrArg List.length h)
  · exact Nat.le_of_lt h

end

/-! ## Encoding -/

theorem toList_loop_eq (bytes : ByteArray) (i : Nat) (read : List UInt8) :
    ByteArray.toList.loop bytes i read = read.reverse ++ bytes.data.toList.drop i := by
  rw [ByteArray.toList.loop.eq_def]
  split
  · next hi =>
    have hi' : i < bytes.data.toList.length := hi
    have hget : bytes.get! i = bytes.data.toList[i] := getElem!_pos bytes.data i hi
    rw [toList_loop_eq, List.reverse_cons, List.append_assoc, List.drop_eq_getElem_cons hi', hget]
    rfl
  · next hi =>
    have hi' : bytes.data.toList.length ≤ i := Nat.le_of_not_lt hi
    rw [List.drop_eq_nil_of_le hi', List.append_nil]
termination_by bytes.size - i

theorem toUTF8_singleton (c : Char) :
    (String.singleton c).toUTF8.toList = String.utf8EncodeChar c := by
  rw [ByteArray.toList, toList_loop_eq, List.reverse_nil, List.nil_append, List.drop_zero]
  exact (Text.bytes_eq_flatMap _).trans (by simp)

section

variable {special : List Char}

/-- A character that is written as escapes. -/
def IsEscaped (special : List Char) (c : Char) : Prop :=
  c.toNat < 0x20 ∨ 0x7F ≤ c.toNat ∨ special.contains c

instance (special : List Char) (c : Char) : Decidable (IsEscaped special c) :=
  inferInstanceAs (Decidable (_ ∨ _))

theorem encode_cons (special : List Char) (c : Char) (cs : List Char) :
    encode special (c :: cs) = (if IsEscaped special c then
      (String.utf8EncodeChar c).flatMap encodeByte else [c]) ++ encode special cs := by
  rw [← toUTF8_singleton]
  rfl

theorem hexValue?_hexDigit {n : Nat} (h : n < 16) : hexValue? (hexDigit n) = some n := by
  have hall : ∀ n : Fin 16, hexValue? (hexDigit n) = some n.val := by decide
  exact hall ⟨n, h⟩

theorem decode_encodeByte (byte : UInt8) (cs : List Char) :
    decode (encodeByte byte ++ cs) = byte :: decode cs := by
  have hbound := byte.toNat_lt
  have hescape : escape? (hexDigit (byte.toNat / 16)) (hexDigit (byte.toNat % 16)) = some byte := by
    rw [escape?, hexValue?_hexDigit (by omega), hexValue?_hexDigit (by omega)]
    exact congrArg some (UInt8.toNat_inj.mp (by simp; omega))
  rw [encodeByte, List.cons_append, List.cons_append, List.cons_append, List.nil_append, decode,
    hescape]

theorem decode_encodeBytes (bytes : List UInt8) (cs : List Char) :
    decode (bytes.flatMap encodeByte ++ cs) = bytes ++ decode cs := by
  induction bytes with
  | nil => rfl
  | cons byte bytes ih =>
    rw [List.flatMap_cons, List.append_assoc, decode_encodeByte, ih, List.cons_append]

/-- Percent signs and digits are written as they are. -/
def SparesEscapes (special : List Char) : Prop :=
  ∀ c ∈ special, c ≠ '%' ∧ hexValue? c = none

/-- Hexadecimal digits are printable ASCII characters. -/
theorem hexValue?_bounds {c : Char} (h : (hexValue? c).isSome) :
    0x30 ≤ c.toNat ∧ c.toNat ≤ 0x66 := by
  have hval : c.val.toNat = c.toNat := rfl
  by_cases hupper : c.isUpper
  · simp only [Char.isUpper, decide_eq_true_eq, ge_iff_le, UInt32.le_iff_toNat_le, hval] at hupper
    exact ⟨le_trans (by decide) hupper.1, le_trans hupper.2 (by decide)⟩
  · rw [hexValue?, Char.toLower_eq_of_not_isUpper hupper, digitValue?] at h
    split_ifs at h with hdigit hletter
    · simp only [Char.isDigit, Bool.and_eq_true, decide_eq_true_eq, ge_iff_le,
        UInt32.le_iff_toNat_le, hval] at hdigit
      exact ⟨hdigit.1, le_trans hdigit.2 (by decide)⟩
    · simp only [Char.le_def, UInt32.le_iff_toNat_le, hval] at hletter
      exact ⟨le_trans (by decide) hletter.1, hletter.2⟩
    · cases h

theorem hexValue?_of_escaped (h : SparesEscapes special) {c : Char} (hc : IsEscaped special c) :
    c ≠ '%' ∧ hexValue? c = none := by
  have hnone (hout : ¬ (0x30 ≤ c.toNat ∧ c.toNat ≤ 0x66)) : hexValue? c = none :=
    Option.not_isSome_iff_eq_none.mp fun hsome => hout (hexValue?_bounds hsome)
  rcases hc with hc | hc | hc
  · exact ⟨by rintro rfl; revert hc; decide, hnone (by omega)⟩
  · exact ⟨by rintro rfl; revert hc; decide, hnone (by omega)⟩
  · exact h c (List.contains_iff_mem.mp hc)

theorem escape?_isSome_iff {high low : Char} :
    (escape? high low).isSome ↔ (hexValue? high).isSome ∧ (hexValue? low).isSome := by
  rw [escape?]
  cases hexValue? high <;> cases hexValue? low <;> simp

/-- The first character of what was encoded is the same, or else a percent sign. -/
theorem encode_head (special : List Char) (c : Char) (cs : List Char) :
    (¬ IsEscaped special c ∧ encode special (c :: cs) = c :: encode special cs) ∨
      (IsEscaped special c ∧ ∃ rest, encode special (c :: cs) = '%' :: rest) := by
  rw [encode_cons]
  by_cases hc : IsEscaped special c
  · rw [if_pos hc]
    obtain ⟨byte, bytes, hbytes⟩ := List.exists_cons_of_ne_nil (String.utf8EncodeChar_ne_nil (c := c))
    exact .inr ⟨hc, _, by rw [hbytes]; rfl⟩
  · rw [if_neg hc]
    exact .inl ⟨hc, rfl⟩

/-- Encoding does not put digits together. -/
theorem startsWithDigits_of_encode {cs : List Char}
    (h : StartsWithDigits (encode special cs)) : StartsWithDigits cs := by
  obtain ⟨high, low, rest, heq, hdigits⟩ := h
  have hpercent : hexValue? '%' = none := by decide
  rw [escape?_isSome_iff] at hdigits
  cases cs with
  | nil => cases heq
  | cons c cs =>
    rcases encode_head special c cs with ⟨_, hc⟩ | ⟨_, _, hc⟩
    · obtain ⟨rfl, hrest⟩ := List.cons.inj (hc.symm.trans heq)
      cases cs with
      | nil => cases hrest
      | cons d cs =>
        rcases encode_head special d cs with ⟨_, hd⟩ | ⟨_, _, hd⟩
        · obtain ⟨rfl, _⟩ := List.cons.inj (hd.symm.trans hrest)
          exact ⟨c, d, cs, rfl, escape?_isSome_iff.mpr hdigits⟩
        · obtain ⟨rfl, _⟩ := List.cons.inj (hd.symm.trans hrest)
          rw [hpercent] at hdigits
          cases hdigits.2
    · obtain ⟨rfl, _⟩ := List.cons.inj (hc.symm.trans heq)
      rw [hpercent] at hdigits
      cases hdigits.1

theorem not_isEscaped (h : SparesEscapes special) {c : Char} (hc : c = '%' ∨ (hexValue? c).isSome) :
    ¬ IsEscaped special c := by
  intro hescaped
  obtain ⟨hpercent, hnone⟩ := hexValue?_of_escaped h hescaped
  rcases hc with hc | hc
  · exact hpercent hc
  · rw [hnone] at hc
    cases hc

/-- Whoever decodes what was encoded reads what the text itself stands for. -/
theorem decode_encode (h : SparesEscapes special) (cs : List Char) :
    decode (encode special cs) = decode cs := by
  induction cs using escapes_induction with
  | nil => rfl
  | escape high low byte cs hbyte ih =>
    have hdigits : (hexValue? high).isSome ∧ (hexValue? low).isSome :=
      escape?_isSome_iff.mp (by rw [hbyte]; rfl)
    rw [encode_cons, if_neg (not_isEscaped h (.inl rfl)), encode_cons,
      if_neg (not_isEscaped h (.inr hdigits.1)), encode_cons,
      if_neg (not_isEscaped h (.inr hdigits.2))]
    exact (decode_escape hbyte).trans (ih ▸ (decode_escape hbyte).symm)
  | plain c cs hc ih =>
    rw [decode_cons hc, encode_cons]
    split_ifs with hescaped
    · rw [decode_encodeBytes, ih]
    · rw [List.singleton_append, decode_cons, ih]
      exact fun ⟨hpercent, hdigits⟩ => hc ⟨hpercent, startsWithDigits_of_encode hdigits⟩

/-- What was encoded holds a slash only if the text does. -/
theorem slash_not_mem_encode {cs : List Char} (h : '/' ∉ cs) : '/' ∉ encode special cs := by
  have hdigit (n : Nat) (hn : n < 16) : '/' ≠ hexDigit n := by
    have hall : ∀ n : Fin 16, '/' ≠ hexDigit n := by decide
    exact hall ⟨n, hn⟩
  induction cs with
  | nil => exact List.not_mem_nil
  | cons c cs ih =>
    rw [List.mem_cons, not_or] at h
    rw [encode_cons, List.mem_append, not_or]
    refine ⟨?_, ih h.2⟩
    split_ifs
    · rw [List.mem_flatMap]
      rintro ⟨byte, _, hbyte⟩
      have hbound := byte.toNat_lt
      simp only [encodeByte, List.mem_cons, List.not_mem_nil, or_false] at hbyte
      rcases hbyte with hpercent | hhigh | hlow
      · cases hpercent
      · exact hdigit _ (by omega) hhigh
      · exact hdigit _ (by omega) hlow
    · exact fun hmem => h.1 (List.mem_singleton.mp hmem)

end

end ClientForge.Http.Url
