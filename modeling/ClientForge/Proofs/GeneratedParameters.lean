import ClientForge.Proofs.Components
import ClientForge.Proofs.FinalList
import ClientForge.Proofs.LowerCase

/-!
The generated parameters of a curation: which of them there are, that they stay in the final list as
they were made, and that nothing else in the list passes for one.

A generated parameter displaces the declared ones of its name up to the case of ASCII letters, while
later all but the first of a name in full lower case are dropped. The generated names are ASCII
without a `k`, so that the two notions of equal names agree on them and the later pass finds nothing
to drop.

Results:
1. `isSuccess_iff`: a success code is a decimal number from 200 to 299.
2. `collects_responseContents`: the content types that are compared are those of the success
   responses, in their order.
3. `candidates_requestBody`, `candidates_responseBody`, `namesakes_generated`: the generated
   parameters before names are compared.
4. `curate_generates`: the generated parameters in the list of every successful curation.
-/

namespace ClientForge.Api

/-- The parameters of the final list that travel at a location. -/
def Curated.located (c : Curated) (location : Location) : List Parameter :=
  c.list.filter (·.location = location)

namespace Curation

open ClientForge.Text

/-! ## Definitions -/

/-- The rules put their replacements where parameters can be declared. -/
def Declarable (rules : ConvenienceRules) : Prop :=
  ∀ rule ∈ rules, ∀ p ∈ rule.replacements, p.location ∈ Location.declarable

instance (rules : ConvenienceRules) : Decidable (Declarable rules) :=
  inferInstanceAs (Decidable (∀ rule ∈ rules, ∀ p ∈ rule.replacements,
    p.location ∈ Location.declarable))

/-- `code` is `n` in decimal digits, behind a plus sign or not. -/
def ReadsAs (code : String) (n : Nat) : Prop :=
  ∃ digits, digits ≠ [] ∧ (∀ d ∈ digits, d.isDigit) ∧ Nat.ofDigitChars 10 digits 0 = n ∧
    (code.toList = digits ∨ code.toList = '+' :: digits)

def ReadsAsSuccess (code : String) : Prop := ∃ n, ReadsAs code n ∧ 200 ≤ n ∧ n ≤ 299

/-- The content types of a response, or of the component it refers to if there is one. -/
def contentTypes (table : ReferenceTable) (response : Json) : List String :=
  (((responseDefinition table response).object? "content").getD []).map (·.1)

/-- `types` are the content types of the success responses, in the order of the document. -/
inductive Collects (table : ReferenceTable) : List (String × Json) → List String → Prop
  | nil : Collects table [] []
  | success {code : String} {response : Json} {rest : List (String × Json)} {types : List String} :
      ReadsAsSuccess code → Collects table rest types →
      Collects table ((code, response) :: rest) (contentTypes table response ++ types)
  | other {code : String} {response : Json} {rest : List (String × Json)} {types : List String} :
      ¬ ReadsAsSuccess code → Collects table rest types →
      Collects table ((code, response) :: rest) types

/-- The parameters of a list that have the name of `p` in full lower case. -/
def namesakes (p : Parameter) (list : List Parameter) : List Parameter :=
  list.filter fun q => lowercase q.name = lowercase p.name

/-- What a curation generates for an operation whose success responses have the content types
`types`: an argument for the request body if there is one, and one for the choice of a content type
if two of them differ, without the blanks around them and in lower case. -/
structure Generates (operation : Json) (types : List String) (curated : Curated) : Prop where
  payload_iff : curated.hasPayload = true ↔ (operation.get? "requestBody").isSome
  payload_iff_one : curated.hasPayload = true ↔ (curated.located .requestBody).length = 1
  payload_only : curated.hasPayload = true → curated.located .requestBody =
    [{ name := "payload"
       ident := "payload"
       location := .requestBody
       type := "dict"
       required := true
       description := "content"
       default := none }]
  no_payload : curated.hasPayload = false → curated.located .requestBody = []
  selector_iff : curated.hasMultipleContentTypes = true ↔
    ∃ s ∈ types, ∃ t ∈ types, lowercase (trim s) ≠ lowercase (trim t)
  selector_iff_one : curated.hasMultipleContentTypes = true ↔
    (curated.located .responseBody).length = 1
  selector_only : curated.hasMultipleContentTypes = true → ∃ first rest, types = first :: rest ∧
    curated.located .responseBody =
      [{ name := "response_content_type"
         ident := "response_content_type"
         location := .responseBody
         type := "str"
         required := false
         description := "Content type of the response. Default: " ++ lowercase (trim first)
         default := some (.string (lowercase (trim first))) }]
  no_selector : curated.hasMultipleContentTypes = false → curated.located .responseBody = []

/-! ## Success responses -/

/-- The digits of a code, less one plus sign. -/
def unsigned (code : String) : List Char :=
  match code.toList with
  | '+' :: digits => digits
  | digits => digits

theorem readsAs_iff {code : String} {n : Nat} :
    ReadsAs code n ↔ unsigned code ≠ [] ∧ (∀ d ∈ unsigned code, d.isDigit) ∧
      Nat.ofDigitChars 10 (unsigned code) 0 = n := by
  constructor
  · rintro ⟨digits, hne, hdigits, hvalue, hcode | hcode⟩
    · -- the first digit is no plus sign
      have hunsigned : unsigned code = digits := by
        unfold unsigned
        rw [hcode]
        split
        · exact absurd (hdigits '+' List.mem_cons_self) (by decide)
        · rfl
      rw [hunsigned]
      exact ⟨hne, hdigits, hvalue⟩
    · rw [unsigned, hcode]
      exact ⟨hne, hdigits, hvalue⟩
  · rintro ⟨hne, hdigits, hvalue⟩
    refine ⟨unsigned code, hne, hdigits, hvalue, ?_⟩
    unfold unsigned
    split
    · next digits hcode => exact .inr hcode
    · exact .inl rfl

theorem isSuccess_iff {code : String} : isSuccess code = true ↔ ReadsAsSuccess code := by
  have hvalue : (unsigned code).foldl (fun n d => n * 10 + (d.toNat - '0'.toNat)) 0 =
      Nat.ofDigitChars 10 (unsigned code) 0 := by
    rw [Nat.ofDigitChars]
    congr 1
    funext n d
    rw [Nat.mul_comm]
  have hshape : isSuccess code = true ↔ unsigned code ≠ [] ∧ (∀ d ∈ unsigned code, d.isDigit) ∧
      200 ≤ Nat.ofDigitChars 10 (unsigned code) 0 ∧
      Nat.ofDigitChars 10 (unsigned code) 0 ≤ 299 := by
    have hcheck : isSuccess code = (!(unsigned code).isEmpty && (unsigned code).all Char.isDigit &&
        200 ≤ Nat.ofDigitChars 10 (unsigned code) 0 &&
        Nat.ofDigitChars 10 (unsigned code) 0 ≤ 299) := by
      rw [← hvalue]
      rfl
    simp [hcheck, and_assoc]
  rw [hshape]
  constructor
  · rintro ⟨hne, hdigits, hrange⟩
    exact ⟨_, readsAs_iff.mpr ⟨hne, hdigits, rfl⟩, hrange⟩
  · rintro ⟨n, hreads, hrange⟩
    obtain ⟨hne, hdigits, rfl⟩ := readsAs_iff.mp hreads
    exact ⟨hne, hdigits, hrange⟩

/-- The content types that are compared are those of the success responses, in their order. -/
theorem collects_responseContents (table : ReferenceTable) (operation : Json) :
    Collects table (responsesOf operation)
      ((responseContents table operation).map (·.contentType)) := by
  unfold responseContents
  induction responsesOf operation with
  | nil => exact .nil
  | cons row rest ih =>
    obtain ⟨code, response⟩ := row
    rw [List.flatMap_cons, List.map_append]
    change Collects table _ ((contentsOf table code response).map _ ++ _)
    by_cases hcode : isSuccess code = true
    · have htypes : (contentsOf table code response).map (·.contentType) =
          contentTypes table response := by
        rw [contentsOf, if_pos hcode, List.map_map]
        rfl
      rw [htypes]
      exact .success (isSuccess_iff.mp hcode) ih
    · rw [contentsOf, if_neg hcode]
      exact .other (mt isSuccess_iff.mpr hcode) ih

/-- The content types of the success responses are determined. -/
theorem Collects.unique {table : ReferenceTable} {rows : List (String × Json)}
    {types types' : List String} (h : Collects table rows types)
    (h' : Collects table rows types') : types' = types := by
  induction h generalizing types' with
  | nil =>
    cases h'
    rfl
  | success hcode _ ih =>
    cases h' with
    | success _ hrest => rw [ih hrest]
    | other hother _ => exact absurd hcode hother
  | other hcode _ ih =>
    cases h' with
    | success hsuccess _ => exact absurd hsuccess hcode
    | other _ hrest => exact ih hrest

theorem severalTypes_iff_differ {table : ReferenceTable} {operation : Json} {types : List String}
    (htypes : (responseContents table operation).map (·.contentType) = types) :
    severalTypes (responseContents table operation) = true ↔
      ∃ s ∈ types, ∃ t ∈ types, lowercase (trim s) ≠ lowercase (trim t) := by
  subst htypes
  rw [severalTypes_iff, Finset.one_lt_card, distinctTypes]
  simp [normalizeContentType]

/-! ## The candidates -/

theorem Location.parse_declarable {s : String} {location : Location}
    (h : Location.parse s = .ok location) : location ∈ Location.declarable := by
  unfold Location.parse at h
  split at h
  · next found hfound =>
    cases h
    exact List.mem_of_find?_eq_some hfound
  · cases h

theorem resolve_declarable {table : ReferenceTable} {declared : Json} {p : Parameter}
    (h : resolve table declared = .ok p) : p.location ∈ Location.declarable := by
  obtain ⟨_, _, _, hdescribe⟩ := resolve_ok h
  obtain ⟨_, _, _, _, hlocation, _, rfl⟩ := describe_ok hdescribe
  unfold locationOf at hlocation
  split at hlocation
  · exact Location.parse_declarable hlocation
  · cases hlocation

theorem Resolves.declarable {table : ReferenceTable} {rules : ConvenienceRules}
    (hrules : Declarable rules) {declared : List Json} {ps : List Parameter}
    (h : Resolves table rules declared ps) : ∀ p ∈ ps, p.location ∈ Location.declarable :=
  h.forall_mem hrules fun _ _ => resolve_declarable

/-- The argument for the choice of a content type, if there is one. -/
def selector? (table : ReferenceTable) (operation : Json) : Option Parameter :=
  if 1 < (distinctTypes table operation).card then
    (responseContents table operation).head?.map fun first =>
      contentTypeSelector (normalizeContentType first.contentType)
  else none

theorem candidates_eq (table : ReferenceTable) (operation : Json) (resolved : List Parameter) :
    candidates table operation resolved =
      resolved.filter (fun p => ¬ IsDisplaced table operation p) ++
        ((if hasPayload operation then some payload else none).toList ++
          (selector? table operation).toList) := by
  rw [candidates, hasPayload, selector?, List.append_assoc]
  split_ifs <;> rfl

theorem selector?_eq_some {table : ReferenceTable} {operation : Json} {p : Parameter}
    (h : selector? table operation = some p) :
    1 < (distinctTypes table operation).card ∧
      ∃ first rest, responseContents table operation = first :: rest ∧
        p = contentTypeSelector (normalizeContentType first.contentType) := by
  unfold selector? at h
  split at h
  · next hmany =>
    obtain ⟨first, hfirst, rfl⟩ := Option.map_eq_some_iff.mp h
    obtain ⟨rest, hrest⟩ := List.head?_eq_some_iff.mp hfirst
    exact ⟨hmany, first, rest, hrest, rfl⟩
  · cases h

theorem selector?_location {table : ReferenceTable} {operation : Json} {p : Parameter}
    (h : selector? table operation = some p) : p.location = .responseBody := by
  obtain ⟨_, _, _, _, rfl⟩ := selector?_eq_some h
  rfl

/-- Where nothing can be declared, only generated parameters are. -/
theorem candidates_generated {table : ReferenceTable} {operation : Json} {resolved : List Parameter}
    (hresolved : ∀ p ∈ resolved, p.location ∈ Location.declarable) {location : Location}
    (hlocation : location ∉ Location.declarable) :
    (candidates table operation resolved).filter (·.location = location) =
      ((if hasPayload operation then some payload else none).toList ++
        (selector? table operation).toList).filter (·.location = location) := by
  have hdeclared : (resolved.filter fun p => ¬ IsDisplaced table operation p).filter
      (·.location = location) = [] := by
    refine List.filter_eq_nil_iff.mpr fun p hp heq => ?_
    exact hlocation (of_decide_eq_true heq ▸ hresolved p (List.mem_of_mem_filter hp))
  rw [candidates_eq, List.filter_append, hdeclared, List.nil_append]

theorem candidates_requestBody {table : ReferenceTable} {operation : Json}
    {resolved : List Parameter} (hresolved : ∀ p ∈ resolved, p.location ∈ Location.declarable) :
    (candidates table operation resolved).filter (·.location = .requestBody) =
      (if hasPayload operation then some payload else none).toList := by
  have hselector : (selector? table operation).toList.filter (·.location = .requestBody) = [] := by
    refine List.filter_eq_nil_iff.mpr fun p hp => ?_
    rw [selector?_location (Option.mem_toList.mp hp)]
    decide
  rw [candidates_generated hresolved (by decide), List.filter_append, hselector, List.append_nil]
  split_ifs <;> rfl

theorem candidates_responseBody {table : ReferenceTable} {operation : Json}
    {resolved : List Parameter} (hresolved : ∀ p ∈ resolved, p.location ∈ Location.declarable) :
    (candidates table operation resolved).filter (·.location = .responseBody) =
      (selector? table operation).toList := by
  have hselector : (selector? table operation).toList.filter (·.location = .responseBody) =
      (selector? table operation).toList := by
    refine List.filter_eq_self.mpr fun p hp => ?_
    rw [selector?_location (Option.mem_toList.mp hp)]
    rfl
  rw [candidates_generated hresolved (by decide), List.filter_append, hselector]
  split_ifs <;> rfl

/-- Declared parameters that a generated one does not displace have other names, in full lower case
too. -/
theorem namesakes_declared {table : ReferenceTable} {operation : Json} {resolved : List Parameter}
    {p : Parameter} (hnative : ∀ c ∈ p.name.toList, IsNative c) (hlower : lowercase p.name = p.name)
    (hdisplaced : ∀ q : Parameter, sameIgnoringAsciiCase q.name p.name →
      IsDisplaced table operation q) :
    namesakes p (resolved.filter fun q => ¬ IsDisplaced table operation q) = [] := by
  refine List.filter_eq_nil_iff.mpr fun q hq hname => ?_
  have hkept : ¬ IsDisplaced table operation q := by simpa using (List.mem_filter.mp hq).2
  have hname : lowercase q.name = p.name := (of_decide_eq_true hname).trans hlower
  exact hkept (hdisplaced q (same_of_lowercase_eq hnative hname))

theorem payload_name_native : ∀ c ∈ "payload".toList, IsNative c := by simp [IsNative]

theorem selector_name_native : ∀ c ∈ "response_content_type".toList, IsNative c := by
  simp [IsNative]

theorem payload_name_lower : lowercase "payload" = "payload" := by decide +kernel

theorem selector_name_lower : lowercase "response_content_type" = "response_content_type" := by
  decide +kernel

theorem payload_name_ne_selector_name (default : String) :
    lowercase payload.name ≠ lowercase (contentTypeSelector default).name := by
  intro h
  have hnames : "payload" = "response_content_type" :=
    payload_name_lower.symm.trans (h.trans selector_name_lower)
  exact absurd hnames (by decide)

theorem namesakes_append (p : Parameter) (ps qs : List Parameter) :
    namesakes p (ps ++ qs) = namesakes p ps ++ namesakes p qs := List.filter_append ..

theorem namesakes_self (p : Parameter) : namesakes p [p] = [p] := by simp [namesakes]

theorem namesakes_other {p q : Parameter} (hne : lowercase q.name ≠ lowercase p.name) :
    namesakes p [q] = [] := by simp [namesakes, hne]

theorem namesakes_payload {table : ReferenceTable} {operation : Json} (resolved : List Parameter)
    (hbody : hasPayload operation = true) :
    namesakes payload (candidates table operation resolved) = [payload] := by
  have hdeclared : namesakes payload
      (resolved.filter fun q => ¬ IsDisplaced table operation q) = [] :=
    namesakes_declared payload_name_native payload_name_lower fun _ hsame => .inl ⟨hbody, hsame⟩
  have hselector : namesakes payload (selector? table operation).toList = [] := by
    cases h : selector? table operation with
    | none => rfl
    | some p =>
      obtain ⟨_, _, _, _, rfl⟩ := selector?_eq_some h
      exact namesakes_other (payload_name_ne_selector_name _).symm
  rw [candidates_eq, namesakes_append, namesakes_append, hdeclared, hselector, if_pos hbody]
  exact namesakes_self payload

theorem namesakes_selector {table : ReferenceTable} {operation : Json} (resolved : List Parameter)
    {p : Parameter} (hselector : selector? table operation = some p) :
    namesakes p (candidates table operation resolved) = [p] := by
  obtain ⟨hmany, first, _, _, rfl⟩ := selector?_eq_some hselector
  have hdeclared : namesakes (contentTypeSelector (normalizeContentType first.contentType))
      (resolved.filter fun q => ¬ IsDisplaced table operation q) = [] :=
    namesakes_declared selector_name_native selector_name_lower fun _ hsame => .inr ⟨hmany, hsame⟩
  have hpayload : namesakes (contentTypeSelector (normalizeContentType first.contentType))
      (if hasPayload operation then some payload else none).toList = [] := by
    split_ifs
    · exact namesakes_other (payload_name_ne_selector_name _)
    · rfl
  rw [candidates_eq, namesakes_append, namesakes_append, hdeclared, hpayload, hselector,
    List.nil_append, List.nil_append, Option.toList_some, namesakes_self]

theorem namesakes_generated {table : ReferenceTable} {operation : Json}
    {resolved : List Parameter} (hresolved : ∀ p ∈ resolved, p.location ∈ Location.declarable)
    {p : Parameter} (hp : p ∈ candidates table operation resolved)
    (hlocation : p.location ∉ Location.declarable) :
    namesakes p (candidates table operation resolved) = [p] := by
  rw [candidates_eq, List.mem_append, List.mem_append] at hp
  rcases hp with hdeclared | hpayload | hselector
  · exact absurd (hresolved p (List.mem_of_mem_filter hdeclared)) hlocation
  · split_ifs at hpayload with hbody
    · rw [List.mem_singleton.mp hpayload]
      exact namesakes_payload resolved hbody
    · cases hpayload
  · exact namesakes_selector resolved (Option.mem_toList.mp hselector)

/-! ## From the candidates to the final list -/

theorem Arranges.subset {candidates list : List Parameter} (h : Arranges candidates list) :
    ∀ p ∈ list, p ∈ candidates :=
  fun p hp => List.mem_of_getElem? (h.earliest p hp)

/-- A candidate whose name no other has stays, and as the only one of its kind. -/
theorem Arranges.filter_eq_singleton {candidates list : List Parameter}
    (h : Arranges candidates list) {kind : Parameter → Bool} {p : Parameter}
    (hkind : candidates.filter kind = [p]) (hname : namesakes p candidates = [p]) :
    list.filter kind = [p] := by
  have hp : p ∈ candidates ∧ kind p := List.mem_filter.mp (hkind ▸ List.mem_singleton_self p)
  have hstays : p ∈ list := by
    obtain ⟨q, hq, hsame⟩ := h.complete p hp.1
    have hmem : q ∈ namesakes p candidates :=
      List.mem_filter.mpr ⟨h.subset q hq, decide_eq_true hsame⟩
    rw [hname, List.mem_singleton] at hmem
    exact hmem ▸ hq
  have honly : ∀ q, q ∈ list.filter kind ↔ q ∈ [p] := by
    intro q
    constructor
    · intro hq
      obtain ⟨hq, hkindq⟩ := List.mem_filter.mp hq
      exact hkind ▸ List.mem_filter.mpr ⟨h.subset q hq, hkindq⟩
    · intro hq
      rw [List.mem_singleton.mp hq]
      exact List.mem_filter.mpr ⟨hstays, hp.2⟩
  have hnodup : list.Nodup := h.distinct.imp fun hne heq => hne (by rw [heq])
  exact List.perm_singleton.mp
    ((List.perm_ext_iff_of_nodup (hnodup.filter _) (List.nodup_singleton p)).mpr honly)

theorem Arranges.filter_eq_nil {candidates list : List Parameter} (h : Arranges candidates list)
    {kind : Parameter → Bool} (hkind : candidates.filter kind = []) : list.filter kind = [] :=
  List.filter_eq_nil_iff.mpr fun p hp => List.filter_eq_nil_iff.mp hkind p (h.subset p hp)

/-! ## The final list -/

theorem generated_stays {table : ReferenceTable} {operation : Json}
    {resolved list : List Parameter} (h : Arranges (candidates table operation resolved) list)
    {p : Parameter} (hname : namesakes p (candidates table operation resolved) = [p]) :
    p ∈ list ∧ namesakes p list = [p] := by
  have hone : namesakes p list = [p] := h.filter_eq_singleton hname hname
  exact ⟨List.mem_of_mem_filter (hone ▸ List.mem_singleton_self p), hone⟩

theorem located_requestBody {table : ReferenceTable} {operation : Json}
    {resolved list : List Parameter} (h : Arranges (candidates table operation resolved) list)
    (hresolved : ∀ p ∈ resolved, p.location ∈ Location.declarable) :
    list.filter (·.location = .requestBody) =
      (if hasPayload operation then some payload else none).toList := by
  have hkind : (candidates table operation resolved).filter (·.location = .requestBody) = _ :=
    candidates_requestBody hresolved
  split_ifs at hkind ⊢ with hbody
  · exact h.filter_eq_singleton hkind (namesakes_payload resolved hbody)
  · exact h.filter_eq_nil hkind

theorem located_responseBody {table : ReferenceTable} {operation : Json}
    {resolved list : List Parameter} (h : Arranges (candidates table operation resolved) list)
    (hresolved : ∀ p ∈ resolved, p.location ∈ Location.declarable) :
    list.filter (·.location = .responseBody) = (selector? table operation).toList := by
  have hkind : (candidates table operation resolved).filter (·.location = .responseBody) = _ :=
    candidates_responseBody hresolved
  cases hselector : selector? table operation with
  | none =>
    rw [hselector] at hkind
    exact h.filter_eq_nil hkind
  | some p =>
    rw [hselector] at hkind
    exact h.filter_eq_singleton hkind (namesakes_selector resolved hselector)

theorem selector?_isSome (table : ReferenceTable) (operation : Json) :
    (selector? table operation).isSome = severalTypes (responseContents table operation) := by
  rw [Bool.eq_iff_iff, severalTypes_iff]
  constructor
  · intro h
    obtain ⟨p, hp⟩ := Option.isSome_iff_exists.mp h
    exact (selector?_eq_some hp).1
  · intro hmany
    rw [selector?, if_pos hmany, Option.isSome_map, List.isSome_head?]
    intro hnone
    rw [distinctTypes, hnone] at hmany
    exact absurd hmany (by decide)

theorem generates {table : ReferenceTable} {operation : Json} {curated : Curated}
    (hpayload : curated.hasPayload = hasPayload operation)
    (hseveral : curated.hasMultipleContentTypes = (selector? table operation).isSome)
    (hrequest : curated.located .requestBody =
      (if hasPayload operation then some payload else none).toList)
    (hresponse : curated.located .responseBody = (selector? table operation).toList) :
    Generates operation ((responseContents table operation).map (·.contentType)) curated where
  payload_iff := by rw [hpayload, hasPayload]
  payload_iff_one := by
    rw [hpayload, hrequest]
    cases hasPayload operation <;> decide
  payload_only := by
    rw [hpayload, hrequest]
    intro hbody
    rw [if_pos hbody]
    rfl
  no_payload := by
    rw [hpayload, hrequest]
    intro hbody
    rw [hbody]
    rfl
  selector_iff := by
    rw [hseveral, selector?_isSome, severalTypes_iff_differ rfl]
  selector_iff_one := by
    rw [hseveral, hresponse]
    cases selector? table operation <;> simp
  selector_only := by
    rw [hseveral, hresponse]
    intro hsome
    obtain ⟨p, hp⟩ := Option.isSome_iff_exists.mp hsome
    obtain ⟨_, first, rest, hcontents, rfl⟩ := selector?_eq_some hp
    refine ⟨first.contentType, rest.map (·.contentType), ?_, ?_⟩
    · rw [hcontents, List.map_cons]
    · rw [hp, Option.toList_some]
      rfl
  no_selector := by
    rw [hseveral, hresponse]
    intro hnone
    rw [Option.isSome_eq_false_iff, Option.isNone_iff_eq_none] at hnone
    rw [hnone, Option.toList_none]

/-- The generated parameters in the list of every successful curation: there as the operation calls
for them, and with names that are theirs alone, before equal names are dropped and after. -/
theorem curate_generates {table : ReferenceTable} {rules : ConvenienceRules} {declared : List Json}
    {operation : Json} {curated : Curated} (hrules : Declarable rules)
    (success : curate table rules declared operation = .ok curated) :
    (∃ types, Collects table (responsesOf operation) types ∧ Generates operation types curated) ∧
    ∃ resolved, Resolves table rules declared resolved ∧
      curated.list = requiredFirst (firstOfName (withGenerated table operation resolved)) ∧
      ∀ p ∈ withGenerated table operation resolved, p.location ∉ Location.declarable →
        p ∈ curated.list ∧ namesakes p (withGenerated table operation resolved) = [p] ∧
        namesakes p curated.list = [p] := by
  obtain ⟨resolved, hall, hreturn⟩ := Outcome.bind_eq_ok_iff.mp success
  cases hreturn
  have hresolves := resolveAll_eq_ok_iff.mp hall
  have hdeclarable := hresolves.declarable hrules
  have harranges := requiredFirst_firstOfName_arranges (withGenerated table operation resolved)
  rw [withGenerated_eq_candidates] at harranges
  constructor
  · refine ⟨_, collects_responseContents table operation, ?_⟩
    apply generates
    · rfl
    · exact (selector?_isSome table operation).symm
    · rw [Curated.located, withGenerated_eq_candidates]
      exact located_requestBody harranges hdeclarable
    · rw [Curated.located, withGenerated_eq_candidates]
      exact located_responseBody harranges hdeclarable
  · refine ⟨resolved, hresolves, rfl, ?_⟩
    rw [withGenerated_eq_candidates]
    intro p hp hlocation
    have hname := namesakes_generated hdeclarable hp hlocation
    obtain ⟨hstays, hone⟩ := generated_stays harranges hname
    exact ⟨hstays, hname, hone⟩

/-- A component that a success response refers to. -/
def rowsTable : ReferenceTable :=
  ⟨[("responses/Rows", .object [("content", .object [("text/csv", .null)])])]⟩

/-- One content type in two spellings. -/
def spelledResponse : Json :=
  .object [("content", .object [(" Application/JSON", .null), ("application/json", .null)])]

/-- An operation with a request body and, under its success codes, content types of its own and
one behind a reference. -/
def rowsOperation : Json :=
  .object
    [("requestBody", .object []),
     ("responses", .object
       [("404", .object [("content", .object [("text/plain", .null)])]),
        ("200", spelledResponse),
        ("+206", .object [("$ref", .string "#/components/responses/Rows")])])]

/-- An operation with that one content type. -/
def spelledOperation : Json := .object [("responses", .object [("200", spelledResponse)])]

theorem rows_types : (responseContents rowsTable rowsOperation).map (·.contentType) =
    [" Application/JSON", "application/json", "text/csv"] := by decide +kernel

theorem spelled_types : (responseContents rowsTable spelledOperation).map (·.contentType) =
    [" Application/JSON", "application/json"] := by decide +kernel

theorem spelled_alike : lowercase (trim " Application/JSON") = "application/json" ∧
    lowercase (trim "application/json") = "application/json" ∧
    lowercase (trim "text/csv") = "text/csv" := by decide +kernel

theorem curate_generates_rows :
    Declarable .standard ∧
    (∃ curated, curate rowsTable .standard mixedParameters rowsOperation = .ok curated ∧
      curated.list.map (·.name) =
        ["id", "payload", "db_name", "branch_name", "columns", "response_content_type"] ∧
      curated.located .responseBody =
        [⟨"response_content_type", "response_content_type", .responseBody, "str", false,
          "Content type of the response. Default: application/json",
          some (.string "application/json")⟩] ∧
      ∃ resolved, Resolves rowsTable .standard mixedParameters resolved ∧
        curated.list = requiredFirst (firstOfName (withGenerated rowsTable rowsOperation resolved)) ∧
        ∀ p ∈ withGenerated rowsTable rowsOperation resolved, p.location ∉ Location.declarable →
          p ∈ curated.list ∧ namesakes p (withGenerated rowsTable rowsOperation resolved) = [p] ∧
          namesakes p curated.list = [p]) ∧
    ∃ curated, curate rowsTable .standard mixedParameters spelledOperation = .ok curated ∧
      curated.hasMultipleContentTypes = false ∧ curated.located .responseBody = [] := by
  have hrules : Declarable .standard := by decide
  refine ⟨hrules, ?_, ?_⟩
  · obtain ⟨curated, success, hnames⟩ : ∃ curated,
        curate rowsTable .standard mixedParameters rowsOperation = .ok curated ∧
        curated.list.map (·.name) =
          ["id", "payload", "db_name", "branch_name", "columns", "response_content_type"] :=
      ⟨_, rfl, by decide +kernel⟩
    obtain ⟨⟨types, hcollects, hgenerates⟩, hstays⟩ := curate_generates hrules success
    have htypes := (collects_responseContents rowsTable rowsOperation).unique hcollects
    rw [rows_types] at htypes
    subst htypes
    have hseveral : curated.hasMultipleContentTypes = true := by
      refine hgenerates.selector_iff.mpr ⟨" Application/JSON", by simp, "text/csv", by simp, ?_⟩
      rw [spelled_alike.1, spelled_alike.2.2]
      decide
    obtain ⟨first, rest, hfirst, hselector⟩ := hgenerates.selector_only hseveral
    cases hfirst
    rw [spelled_alike.1] at hselector
    exact ⟨curated, success, hnames, hselector, hstays⟩
  · obtain ⟨curated, success⟩ : ∃ curated,
        curate rowsTable .standard mixedParameters spelledOperation = .ok curated := ⟨_, rfl⟩
    obtain ⟨⟨types, hcollects, hgenerates⟩, _⟩ := curate_generates hrules success
    have htypes := (collects_responseContents rowsTable spelledOperation).unique hcollects
    rw [spelled_types] at htypes
    subst htypes
    have hone : curated.hasMultipleContentTypes = false := by
      rw [← Bool.not_eq_true, hgenerates.selector_iff]
      simp [spelled_alike]
    exact ⟨curated, success, hone, hgenerates.no_selector hone⟩

end Curation

end ClientForge.Api
