import ClientForge.Codegen.Manifest
import ClientForge.Proofs.KeyOrder
import ClientForge.Proofs.WrittenJson
import Mathlib.Data.List.Nodup

/-!
The canonical form of a document stands for the document up to the order of keys: documents that
differ in nothing else have one canonical form and one checksum, and any other difference is still
there in the text whose digest the checksum is.

* `Distinct`: no object of the document has a key twice.
* `Reordered`: equal up to the order of keys in every object at every depth.
* `Ascending`: the keys of every object ascend in the order of their bytes.

Results:
1. `canonical_reordered`: a document is reordered to its canonical form.
2. `sameValue_canonical_iff`: canonical forms are one value when the documents are reordered.
3. `canonical_characterizes`: what the canonical form and the checksum keep of a document.
-/

namespace ClientForge.Json

/-! ## Definitions -/

/-- `v` is the document or a value in it, at any depth. -/
inductive Within (v : Json) : Json → Prop
  | self : Within v v
  | item {x : Json} {xs : List Json} : x ∈ xs → Within v x → Within v (.array xs)
  | field {f : String × Json} {fs : List (String × Json)} : f ∈ fs → Within v f.2 →
      Within v (.object fs)

/-- No object of the document has a key twice. -/
def Distinct (a : Json) : Prop := ∀ fs, Within (.object fs) a → (fs.map Prod.fst).Nodup

/-- The keys of every object ascend strictly in the order of their bytes. -/
def Ascending (a : Json) : Prop :=
  ∀ fs, Within (.object fs) a → (fs.map Prod.fst).Pairwise fun k l => Text.bytes k < Text.bytes l

/-- Equal up to the order of keys in every object at every depth. Numbers are compared as they are
printed. -/
inductive Reordered : Json → Json → Prop
  | null : Reordered .null .null
  | bool (b : Bool) : Reordered (.bool b) (.bool b)
  | number {m n : Number} : m.toText = n.toText → Reordered (.number m) (.number n)
  | string (s : String) : Reordered (.string s) (.string s)
  | array {xs ys : List Json} : List.Forall₂ Reordered xs ys → Reordered (.array xs) (.array ys)
  | object {fs gs : List (String × Json)} : (fs.map Prod.fst).Perm (gs.map Prod.fst) →
      (∀ k v w, (k, v) ∈ fs → (k, w) ∈ gs → Reordered v w) → Reordered (.object fs) (.object gs)

theorem distinct_null : Distinct .null := fun _ h => by cases h

theorem distinct_bool (b : Bool) : Distinct (.bool b) := fun _ h => by cases h

theorem distinct_number (n : Number) : Distinct (.number n) := fun _ h => by cases h

theorem distinct_string (s : String) : Distinct (.string s) := fun _ h => by cases h

theorem distinct_array {xs : List Json} : Distinct (.array xs) ↔ ∀ x ∈ xs, Distinct x := by
  constructor
  · exact fun h x hx fs hfs => h fs (.item hx hfs)
  · intro h fs hfs
    cases hfs with
    | item hx hfs => exact h _ hx fs hfs

theorem distinct_object {fs : List (String × Json)} :
    Distinct (.object fs) ↔ (fs.map Prod.fst).Nodup ∧ ∀ f ∈ fs, Distinct f.2 := by
  constructor
  · exact fun h => ⟨h fs .self, fun f hf gs hgs => h gs (.field hf hgs)⟩
  · rintro ⟨hkeys, hvalues⟩ gs hgs
    cases hgs with
    | self => exact hkeys
    | field hf hgs => exact hvalues _ hf gs hgs

theorem Distinct.item {x : Json} {xs : List Json} (h : Distinct (.array xs)) (hx : x ∈ xs) :
    Distinct x :=
  distinct_array.mp h x hx

theorem Distinct.field {f : String × Json} {fs : List (String × Json)} (h : Distinct (.object fs))
    (hf : f ∈ fs) : Distinct f.2 :=
  (distinct_object.mp h).2 f hf

/-! ## Fields -/

/-- The fields of a canonical object. -/
def sortedFields (fs : List (String × Json)) : List (String × Json) :=
  Text.sortOn Prod.fst (fs.map fun f => (f.1, canonical f.2))

theorem canonical_array (xs : List Json) : canonical (.array xs) = .array (xs.map canonical) := by
  rw [canonical, canonicalItems_eq_map]

theorem canonical_object (fs : List (String × Json)) :
    canonical (.object fs) = .object (sortedFields fs) := by
  rw [canonical, canonicalFields_eq_map, sortedFields]

theorem mem_sortedFields {k : String} {v : Json} {fs : List (String × Json)} :
    (k, v) ∈ sortedFields fs ↔ ∃ u, (k, u) ∈ fs ∧ v = canonical u := by
  rw [sortedFields, (Text.sortOn_perm _ _).mem_iff, List.mem_map]
  constructor
  · rintro ⟨⟨k', u⟩, hu, h⟩
    obtain ⟨rfl, rfl⟩ := Prod.mk.inj h
    exact ⟨u, hu, rfl⟩
  · rintro ⟨u, hu, rfl⟩
    exact ⟨(k, u), hu, rfl⟩

theorem keys_map_canonical (fs : List (String × Json)) :
    (fs.map fun f => (f.1, canonical f.2)).map Prod.fst = fs.map Prod.fst := by
  rw [List.map_map]
  rfl

theorem keys_sortedFields (fs : List (String × Json)) :
    ((sortedFields fs).map Prod.fst).Perm (fs.map Prod.fst) := by
  have h := (Text.sortOn_perm Prod.fst (fs.map fun f => (f.1, canonical f.2))).map Prod.fst
  rwa [keys_map_canonical] at h

theorem keys_sortedFields_eq_iff {fs gs : List (String × Json)} :
    (sortedFields fs).map Prod.fst = (sortedFields gs).map Prod.fst ↔
      (fs.map Prod.fst).Perm (gs.map Prod.fst) := by
  rw [sortedFields, sortedFields, Text.keys_sortOn_eq_iff, keys_map_canonical, keys_map_canonical]

/-- A key that stands once has one value. -/
theorem value_unique {k : String} {v w : Json} {fs : List (String × Json)}
    (h : (fs.map Prod.fst).Nodup) (hv : (k, v) ∈ fs) (hw : (k, w) ∈ fs) : v = w := by
  have hfield := List.inj_on_of_nodup_map h hv hw rfl
  exact (Prod.mk.inj hfield).2

/-- In lists with the same keys in the same places, what holds of the values place by place holds of
them key by key. -/
theorem forall₂_values_iff {R : Json → Json → Prop} {fs gs : List (String × Json)}
    (hkeys : fs.map Prod.fst = gs.map Prod.fst) (hnodup : (fs.map Prod.fst).Nodup) :
    List.Forall₂ R (fs.map Prod.snd) (gs.map Prod.snd) ↔
      ∀ k v w, (k, v) ∈ fs → (k, w) ∈ gs → R v w := by
  induction fs generalizing gs with
  | nil =>
    rw [List.map_nil, eq_comm, List.map_eq_nil_iff] at hkeys
    simp [hkeys]
  | cons f fs ih =>
    cases gs with
    | nil => cases hkeys
    | cons g gs =>
      obtain ⟨key, value⟩ := f
      obtain ⟨key', value'⟩ := g
      rw [List.map_cons, List.map_cons, List.cons.injEq] at hkeys
      obtain ⟨rfl, hkeys⟩ : key = key' ∧ fs.map Prod.fst = gs.map Prod.fst := hkeys
      obtain ⟨hfresh, hnodup⟩ := List.nodup_cons.mp hnodup
      have hfresh' : key ∉ gs.map Prod.fst := hkeys ▸ hfresh
      rw [List.map_cons, List.map_cons, List.forall₂_cons, ih hkeys hnodup]
      constructor
      · rintro ⟨hvalue, hrest⟩ k v w hfield hfield'
        rcases List.mem_cons.mp hfield with hv | hv <;> rcases List.mem_cons.mp hfield' with hw | hw
        · obtain ⟨rfl, rfl⟩ := Prod.mk.inj hv
          obtain ⟨_, rfl⟩ := Prod.mk.inj hw
          exact hvalue
        · obtain ⟨rfl, rfl⟩ := Prod.mk.inj hv
          exact absurd (List.mem_map_of_mem hw) hfresh'
        · obtain ⟨rfl, rfl⟩ := Prod.mk.inj hw
          exact absurd (List.mem_map_of_mem hv) hfresh
        · exact hrest k v w hv hw
      · intro h
        refine ⟨h key value value' List.mem_cons_self List.mem_cons_self, fun k v w hv hw => ?_⟩
        exact h k v w (List.mem_cons_of_mem _ hv) (List.mem_cons_of_mem _ hw)

/-! ## Canonical forms -/

/-- A document is reordered to its canonical form. -/
theorem canonical_reordered {a : Json} (ha : Distinct a) : Reordered (canonical a) a := by
  induction a using induct with
  | null => exact .null
  | bool b => exact .bool b
  | number n => exact .number rfl
  | string s => exact .string s
  | array xs ih =>
    rw [canonical_array]
    refine .array ?_
    rw [List.forall₂_map_left_iff, List.forall₂_same]
    exact fun x hx => ih x hx (ha.item hx)
  | object fs ih =>
    rw [canonical_object]
    refine .object (keys_sortedFields fs) fun k v w hv hw => ?_
    obtain ⟨u, hu, rfl⟩ := mem_sortedFields.mp hv
    obtain rfl := value_unique (ha fs .self) hu hw
    exact ih (k, u) hu (ha.field hu)

theorem canonical_canonical (a : Json) : canonical (canonical a) = canonical a := by
  induction a using induct with
  | null => rfl
  | bool b => rfl
  | number n => rfl
  | string s => rfl
  | array xs ih =>
    rw [canonical_array, canonical_array, List.map_map]
    exact congrArg _ (List.map_congr_left ih)
  | object fs ih =>
    -- the values of a sorted list are canonical already, so that sorting it again does nothing
    have hvalues : (sortedFields fs).map (fun f => (f.1, canonical f.2)) = sortedFields fs := by
      refine (List.map_congr_left fun f hf => ?_).trans (List.map_id _)
      obtain ⟨u, hu, hcanonical⟩ := mem_sortedFields.mp hf
      exact Prod.ext rfl (hcanonical ▸ ih _ hu)
    have hsorted : (sortedFields fs).Pairwise fun f g => f.1 ≤ g.1 := Text.sortOn_sorted _ _
    rw [canonical_object, canonical_object]
    refine congrArg Json.object ?_
    rw [sortedFields, hvalues, Text.sortOn_of_sorted hsorted]

theorem canonical_ascending {a : Json} (ha : Distinct a) : Ascending (canonical a) := by
  induction a using induct with
  | null => intro fs h; cases h
  | bool b => intro fs h; cases h
  | number n => intro fs h; cases h
  | string s => intro fs h; cases h
  | array xs ih =>
    intro fs h
    rw [canonical_array] at h
    cases h with
    | item hmem h =>
      obtain ⟨x, hx, rfl⟩ := List.mem_map.mp hmem
      exact ih x hx (ha.item hx) fs h
  | object fs ih =>
    intro gs h
    rw [canonical_object] at h
    cases h with
    | self =>
      have hnodup : ((fs.map fun f => (f.1, canonical f.2)).map Prod.fst).Nodup := by
        rw [keys_map_canonical]
        exact ha fs .self
      exact List.pairwise_map.mpr
        ((Text.sortOn_strict hnodup).imp fun h => Text.lt_iff_bytes_lt.mp h)
    | @field f _ hf h =>
      obtain ⟨u, hu, hcanonical⟩ := mem_sortedFields.mp hf
      exact ih _ hu (ha.field hu) gs (hcanonical ▸ h)

/-- Canonical forms are one value when the documents are reordered. -/
theorem sameValue_canonical_iff {a b : Json} (ha : Distinct a) (hb : Distinct b) :
    SameValue (canonical a) (canonical b) ↔ Reordered a b := by
  induction a using induct generalizing b with
  | null =>
    constructor
    · intro h
      cases b <;> cases h
      exact .null
    · intro h
      cases h
      exact .null
  | bool p =>
    constructor
    · intro h
      cases b <;> cases h
      exact .bool p
    · intro h
      cases h
      exact .bool p
  | number m =>
    constructor
    · intro h
      cases b <;> cases h
      next htext => exact .number htext
    · intro h
      cases h with
      | number htext => exact .number htext
  | string s =>
    constructor
    · intro h
      cases b <;> cases h
      exact .string s
    · intro h
      cases h
      exact .string s
  | array xs ih =>
    have items : ∀ {ys : List Json}, Distinct (.array ys) →
        (List.Forall₂ SameValue (xs.map canonical) (ys.map canonical) ↔
          List.Forall₂ Reordered xs ys) := by
      intro ys hys
      rw [List.forall₂_map_left_iff, List.forall₂_map_right_iff]
      constructor
      · exact fun h => forall₂_imp_of_mem h fun x hx y hy =>
          (ih x hx (ha.item hx) (hys.item hy)).mp
      · exact fun h => forall₂_imp_of_mem h fun x hx y hy =>
          (ih x hx (ha.item hx) (hys.item hy)).mpr
    constructor
    · intro h
      rw [canonical_array] at h
      cases b with
      | array ys =>
        rw [canonical_array] at h
        cases h with
        | array h => exact .array ((items hb).mp h)
      | _ => cases h
    · intro h
      cases h with
      | array h =>
        rw [canonical_array, canonical_array]
        exact .array ((items hb).mpr h)
  | object fs ih =>
    have fields : ∀ {gs : List (String × Json)}, Distinct (.object gs) →
        (fs.map Prod.fst).Perm (gs.map Prod.fst) →
        (List.Forall₂ SameValue ((sortedFields fs).map Prod.snd)
            ((sortedFields gs).map Prod.snd) ↔
          ∀ k v w, (k, v) ∈ fs → (k, w) ∈ gs → Reordered v w) := by
      intro gs hgs hkeys
      have hnodup : ((sortedFields fs).map Prod.fst).Nodup :=
        (keys_sortedFields fs).nodup_iff.mpr (ha fs .self)
      rw [forall₂_values_iff (keys_sortedFields_eq_iff.mpr hkeys) hnodup]
      constructor
      · intro h k v w hv hw
        have hsame := h k _ _ (mem_sortedFields.mpr ⟨v, hv, rfl⟩)
          (mem_sortedFields.mpr ⟨w, hw, rfl⟩)
        exact (ih (k, v) hv (ha.field hv) (hgs.field hw)).mp hsame
      · intro h k v' w' hfield hfield'
        obtain ⟨v, hv, rfl⟩ := mem_sortedFields.mp hfield
        obtain ⟨w, hw, rfl⟩ := mem_sortedFields.mp hfield'
        exact (ih (k, v) hv (ha.field hv) (hgs.field hw)).mpr (h k v w hv hw)
    constructor
    · intro h
      rw [canonical_object] at h
      cases b with
      | object gs =>
        rw [canonical_object] at h
        cases h with
        | object hkeys h =>
          have hperm := keys_sortedFields_eq_iff.mp hkeys
          exact .object hperm ((fields hb hperm).mp h)
      | _ => cases h
    · intro h
      cases h with
      | object hperm h =>
        rw [canonical_object, canonical_object]
        exact .object (keys_sortedFields_eq_iff.mpr hperm) ((fields hb hperm).mpr h)

/-! ## Checksums -/

/-- Up to the order of keys and nothing else, the canonical form and the text that is hashed stand for
the document. The checksum is the digest of that text. -/
theorem canonical_characterizes {a b : Json} (ha : Distinct a) (hb : Distinct b) :
    (SameValue (canonical a) (canonical b) ↔ Reordered a b) ∧
      Ascending (canonical a) ∧ Reordered (canonical a) a ∧
      canonical (canonical a) = canonical a ∧
      (canonicalText a = canonicalText b ↔ Reordered a b) ∧
      Codegen.checksum a = Digest.sha256Hex (canonicalText a) ∧
      Codegen.checksum b = Digest.sha256Hex (canonicalText b) ∧
      (Reordered a b → Codegen.checksum a = Codegen.checksum b) := by
  have hvalue := sameValue_canonical_iff ha hb
  have htext : canonicalText a = canonicalText b ↔ Reordered a b := compact_eq_iff.trans hvalue
  refine ⟨hvalue, canonical_ascending ha, canonical_reordered ha, canonical_canonical a, htext, rfl,
    rfl, ?_⟩
  intro h
  rw [Codegen.checksum, Codegen.checksum, htext.mpr h]

/-- A document with objects at three depths. -/
def scrambled : Json :=
  .object
    [("paths", .array [.object [("b", .bool true), ("a", ofInt 1)], .string "x"]),
     ("info", .object [("version", .null), ("Title", .array [])])]

/-- The same with the keys of every object in another order. -/
def arranged : Json :=
  .object
    [("info", .object [("Title", .array []), ("version", .null)]),
     ("paths", .array [.object [("a", ofInt 1), ("b", .bool true)], .string "x"])]

/-- The items of the array are exchanged as well. -/
def exchanged : Json :=
  .object
    [("info", .object [("Title", .array []), ("version", .null)]),
     ("paths", .array [.string "x", .object [("a", ofInt 1), ("b", .bool true)]])]

theorem canonical_characterizes_scrambled :
    Reordered scrambled arranged ∧ ¬ Reordered scrambled exchanged ∧
      Codegen.checksum scrambled = Codegen.checksum arranged := by
  have hscrambled : Distinct scrambled := by
    simp [scrambled, ofInt, distinct_object, distinct_array, distinct_null, distinct_bool,
      distinct_number, distinct_string]
  have harranged : Distinct arranged := by
    simp [arranged, ofInt, distinct_object, distinct_array, distinct_null, distinct_bool,
      distinct_number, distinct_string]
  have hexchanged : Distinct exchanged := by
    simp [exchanged, ofInt, distinct_object, distinct_array, distinct_null, distinct_bool,
      distinct_number, distinct_string]
  have hsame : canonicalText scrambled = canonicalText arranged := by decide +kernel
  have hother : canonicalText scrambled ≠ canonicalText exchanged := by decide +kernel
  obtain ⟨_, _, _, _, htext, _, _, hchecksum⟩ := canonical_characterizes hscrambled harranged
  obtain ⟨_, _, _, _, htext', _⟩ := canonical_characterizes hscrambled hexchanged
  exact ⟨htext.mp hsame, fun h => hother (htext'.mpr h), hchecksum (htext.mp hsame)⟩

end ClientForge.Json
