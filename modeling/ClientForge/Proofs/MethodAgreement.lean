import ClientForge.Proofs.ArgumentNames
import ClientForge.Proofs.Characters

/-!
Agreement between the two things that are made of a curated operation: the generated method and its
record in the manifest. Every recorded parameter is an argument of the method, in the order of the
record, and every one that does not travel in the path is set on the options of the request by one
statement of the kind that its place asks for.

Results:
1. `isArgumentFor`, `isStatementFor`: what a method writes for one parameter fits its record.
2. `render_agreement`: a rendered method and its record agree, an upload up to its request body and
   its content type.
-/

namespace ClientForge.Codegen

open Api Api.Curation Template

/-! ## Definitions -/

/-- The types that arguments have when they are required. -/
def argumentTypes : List String := ["&str", "i64", "f64", "bool", "&[&str]", "serde_json::Value"]

def optionOf (type : String) : String := "Option<" ++ type ++ ">"

/-- The argument of a recorded parameter, on a line of its own. -/
structure IsArgumentFor (e : ParameterSummary) (a : Argument) : Prop where
  named : a.1 = Naming.parameterName e.name
  typed : ∃ type ∈ argumentTypes, a.2 = if e.required then type else optionOf type
  optional_iff : (∃ type, a.2 = optionOf type) ↔ e.required = false
  single : Text.IsSingleLine a.1.toList ∧ Text.IsSingleLine a.2.toList

/-- The expressions for the text of an argument. -/
def argumentTexts (ident : String) : List String :=
  [ident, ident ++ ".join(\",\")", ident ++ ".to_string()"]

/-- A setting of the kind that the place of the parameter asks for. -/
inductive IsSettingFor (taker default : String) (e : ParameterSummary) : Setting → Prop where
  | query {value : String} : e.location = .query →
      value ∈ argumentTexts (Naming.parameterName e.name) →
      IsSettingFor taker default e (.query e.name value)
  | header {value : String} : e.location = .header →
      value ∈ argumentTexts (Naming.parameterName e.name) →
      IsSettingFor taker default e (.header e.name value)
  | cookie {value : String} : e.location = .cookie →
      value ∈ argumentTexts (Naming.parameterName e.name) →
      IsSettingFor taker default e (.cookie e.name value)
  | body : e.location = .requestBody →
      IsSettingFor taker default e (.body taker (Naming.parameterName e.name))
  | accept : e.location = .responseBody →
      IsSettingFor taker default e (.accept (Naming.parameterName e.name) default)

/-- The statement for a recorded parameter. Only an optional query, header or cookie parameter is
left out when the caller does not pass it. -/
structure IsStatementFor (taker default : String) (e : ParameterSummary) (s : Statement) : Prop where
  setting : IsSettingFor taker default e s.setting
  guarded : s.guard =
    if e.required = false ∧ e.location ∈ [.query, .header, .cookie] then
      some (Naming.parameterName e.name)
    else none

/-- The method fits the record: its arguments are those of the recorded parameters, and its
statements are those of the parameters that do not travel in the path. -/
structure Agrees (taker default : String) (entry : ManifestEntry) (m : GeneratedMethod) : Prop where
  named : m.name = entry.generatedName
  verb : m.verb = entry.verb
  arguments : List.Forall₂ IsArgumentFor entry.parameters m.arguments
  statements : List.Forall₂ (IsStatementFor taker default)
    (entry.parameters.filter (·.location != .path)) m.statements
  mutable_iff : m.isMutable = true ↔ ∃ e ∈ entry.parameters, e.location ≠ .path

/-- The method of an upload has the arguments of the plain method, but takes the request body as
bytes and a content type at the end. Its options get the same statements, but for the option `body`. -/
structure IsUploadOf (default : String) (entry : ManifestEntry) (m upload : GeneratedMethod) :
    Prop where
  named : upload.name = m.name
  arguments : upload.arguments =
    List.zipWith (fun e a => if e.location = .requestBody then (a.1, "Vec<u8>") else a)
      entry.parameters m.arguments ++ [("content_type", optionOf "&str")]
  statements : List.Forall₂ (IsStatementFor "body" default)
    (entry.parameters.filter (·.location != .path)) upload.statements

/-! ## One parameter -/

theorem argumentType_mem (type : String) : argumentType type true ∈ argumentTypes := by
  rw [argumentType, if_pos rfl]
  split_ifs <;> simp [argumentTypes]

/-- No required type reads as an optional one. -/
theorem argumentTypes_plain : ∀ type ∈ argumentTypes,
    type.toList.head? ≠ some 'O' ∧ '\n' ∉ type.toList := by
  decide

theorem optionOf_head (type : String) : (optionOf type).toList.head? = some 'O' := by
  simp [optionOf]

theorem isArgumentFor {p : Parameter} (hnamed : IsNamed p) :
    IsArgumentFor p.summary (argumentOf p) := by
  have hmem := argumentType_mem p.type
  obtain ⟨hhead, hsingle⟩ := argumentTypes_plain _ hmem
  have hident : Text.IsSingleLine p.ident.toList := by
    rw [hnamed]
    exact Naming.parameterName_single p.name
  have htype : argumentType p.type p.required =
      if p.required then argumentType p.type true else optionOf (argumentType p.type true) := by
    cases p.required <;> rfl
  refine ⟨hnamed, ⟨_, hmem, htype⟩, ?_, hident, ?_⟩
  · rw [argumentOf, Parameter.summary, htype]
    cases p.required
    · exact iff_of_true ⟨_, rfl⟩ rfl
    · refine iff_of_false ?_ Bool.true_eq_false_eq_False
      rintro ⟨type, heq⟩
      have hoption : argumentType p.type true = optionOf type := heq
      rw [hoption] at hhead
      exact hhead (optionOf_head type)
  · rw [argumentOf, htype]
    split_ifs
    · exact hsingle
    · simpa [optionOf, Text.IsSingleLine] using hsingle

theorem argumentText_mem (type ident : String) : argumentText type ident ∈ argumentTexts ident := by
  rw [argumentText]
  split_ifs <;> simp [argumentTexts]

theorem isStatementFor {taker default : String} {p : Parameter} {s : Statement} (hnamed : IsNamed p)
    (h : statementOf? taker default p = some s) :
    IsStatementFor taker default p.summary s := by
  have hident : Naming.parameterName p.summary.name = p.ident := hnamed.symm
  have hvalue : argumentText p.type p.ident ∈ argumentTexts (Naming.parameterName p.summary.name) := by
    rw [hident]
    exact argumentText_mem p.type p.ident
  have hguard (hplace : p.location ∈ [.query, .header, .cookie]) : guardOf p =
      if p.summary.required = false ∧ p.summary.location ∈ [.query, .header, .cookie] then
        some (Naming.parameterName p.summary.name)
      else none := by
    rw [guardOf, hident, Parameter.summary]
    cases p.required <;> simp [hplace]
  cases hlocation : p.location with
  | path =>
    rw [statementOf?, hlocation] at h
    cases h
  | query =>
    rw [statementOf?, hlocation] at h
    cases h
    exact ⟨.query hlocation hvalue, hguard (by simp [hlocation])⟩
  | header =>
    rw [statementOf?, hlocation] at h
    cases h
    exact ⟨.header hlocation hvalue, hguard (by simp [hlocation])⟩
  | cookie =>
    rw [statementOf?, hlocation] at h
    cases h
    exact ⟨.cookie hlocation hvalue, hguard (by simp [hlocation])⟩
  | requestBody =>
    rw [statementOf?, hlocation] at h
    cases h
    refine ⟨?_, by simp [Parameter.summary, hlocation]⟩
    rw [← hident]
    exact .body hlocation
  | responseBody =>
    rw [statementOf?, hlocation] at h
    cases h
    refine ⟨?_, by simp [Parameter.summary, hlocation]⟩
    rw [← hident]
    exact .accept hlocation

theorem statementOf?_isSome (taker default : String) (p : Parameter) :
    (p.location != .path) = (statementOf? taker default p).isSome := by
  rw [statementOf?]
  cases p.location <;> rfl

/-! ## Methods -/

theorem forall₂_arguments {parameters : List Parameter} (hnamed : ∀ p ∈ parameters, IsNamed p) :
    List.Forall₂ IsArgumentFor (parameters.map (·.summary)) (parameters.map argumentOf) := by
  rw [List.forall₂_map_left_iff, List.forall₂_map_right_iff, List.forall₂_same]
  exact fun p hp => isArgumentFor (hnamed p hp)

theorem forall₂_statements (taker default : String) {parameters : List Parameter}
    (hnamed : ∀ p ∈ parameters, IsNamed p) :
    List.Forall₂ (IsStatementFor taker default)
      ((parameters.map (·.summary)).filter (·.location != .path))
      (parameters.filterMap (statementOf? taker default)) := by
  have hmade : List.Forall₂ (fun p s => statementOf? taker default p = some s)
      (parameters.filter (·.location != .path)) (parameters.filterMap (statementOf? taker default)) :=
    Outcome.forall₂_filter_filterMap (statementOf?_isSome taker default)
  rw [List.filter_map, List.forall₂_map_left_iff]
  rw [List.forall₂_iff_zip] at hmade ⊢
  refine ⟨hmade.1, fun {p s} hmem => ?_⟩
  have hp := (List.of_mem_zip hmem).1
  exact isStatementFor (hnamed p (List.mem_of_mem_filter hp)) (hmade.2 hmem)

section

variable {scope : Codegen.Scope} {input : EndpointInput} {curated : Curated} {name : String}

theorem agrees (hnamed : ∀ p ∈ curated.list, IsNamed p) :
    Agrees "json" (Endpoint.defaultContentType curated) (Endpoint.record input curated name)
      (GeneratedMethod.ofEndpoint scope input curated name) := by
  refine ⟨rfl, rfl, forall₂_arguments hnamed, forall₂_statements _ _ hnamed, ?_⟩
  rw [GeneratedMethod.ofEndpoint, Endpoint.record, Curated.hasLocation, List.any_eq_true]
  simp [Parameter.summary]

theorem isUploadOf (hnamed : ∀ p ∈ curated.list, IsNamed p) :
    IsUploadOf (Endpoint.defaultContentType curated) (Endpoint.record input curated name)
      (GeneratedMethod.ofEndpoint scope input curated name)
      (GeneratedMethod.ofUpload scope input curated name) := by
  refine ⟨rfl, ?_, forall₂_statements _ _ hnamed⟩
  have hzip : List.zipWith (fun e a => if e.location = .requestBody then (a.1, "Vec<u8>") else a)
      (curated.list.map (·.summary)) (curated.list.map argumentOf) =
        curated.list.map uploadArgumentOf := by
    rw [List.zipWith_map, List.zipWith_self]
    refine List.map_congr_left fun p _ => ?_
    rw [uploadArgumentOf, Parameter.summary, argumentOf]
    split_ifs <;> rfl
  change uploadArguments curated = List.zipWith _ (curated.list.map (·.summary))
    (curated.list.map argumentOf) ++ _
  rw [hzip]
  rfl

end

/-- A rendered method and its record agree. -/
theorem render_agreement {registry : Registry} {renames : RenameMapping} {table : ReferenceTable}
    {scope : Scope} {input : EndpointInput} {endpoint : Endpoint}
    (h : Endpoint.render ⟨registry, renames, .standard⟩ table scope input = .ok endpoint) :
    ∃ curated,
      curate table .standard (Endpoint.declared input) input.operation = .ok curated ∧
      ∃ m upload,
        m = GeneratedMethod.ofEndpoint scope input curated endpoint.entry.generatedName ∧
        upload = GeneratedMethod.ofUpload scope input curated endpoint.entry.generatedName ∧
        Agrees "json" (Endpoint.defaultContentType curated) endpoint.entry m ∧
        IsUploadOf (Endpoint.defaultContentType curated) endpoint.entry m upload ∧
        (registry.entries.lookup (Endpoint.naming renames input).template = some Builtin.endpoint →
          endpoint.source = m.text) ∧
        (registry.entries.lookup (Endpoint.naming renames input).template =
            some Builtin.endpointBinary →
          endpoint.source = upload.text) := by
  obtain ⟨curated, hcurate, hrender, hentry⟩ := endpoint_render_ok h
  obtain ⟨resolved, hresolves⟩ := curate_resolves hcurate
  have harranges := hresolves.arranges hcurate
  have hnamed : ∀ p ∈ curated.list, IsNamed p := fun p hp =>
    forall_candidates hresolves.named payload_named selector_named p (harranges.mem_iff.mp hp).mem
  obtain ⟨template, hlookup, hsource⟩ := Registry.render_ok hrender
  rw [hentry]
  refine ⟨curated, hcurate, _, _, rfl, rfl, agrees hnamed, isUploadOf hnamed, fun hplain => ?_,
    fun hupload => ?_⟩
  · obtain rfl : template = Builtin.endpoint := Option.some.inj (hlookup.symm.trans hplain)
    exact Option.some.inj (hsource.symm.trans endpoint_text)
  · obtain rfl : template = Builtin.endpointBinary := Option.some.inj (hlookup.symm.trans hupload)
    exact Option.some.inj (hsource.symm.trans endpointBinary_text)

/-- An operation with a parameter in every place, some of them optional. -/
def itemUpdate : EndpointInput :=
  ⟨⟨"api", "api", none⟩, "/items/\x7bitemId\x7d", .put,
    .object
      [("operationId", .string "putItem"), ("requestBody", .object []),
       ("parameters", .array
         [.object [("name", .string "depth"), ("in", .string "query")],
          .object [("name", .string "X-Trace"), ("in", .string "header"), ("required", .bool true)],
          .object [("name", .string "session"), ("in", .string "cookie")]]),
       ("responses", .object
         [("200", .object [("content", .object
           [("application/json", .object []), ("text/csv", .object [])])])])],
    [.object
      [("name", .string "itemId"), ("in", .string "path"),
       ("schema", .object [("type", .string "string")])]]⟩

def uploadRenames : RenameMapping :=
  ⟨[("api", [("putItem", ⟨"upload_item", "endpoint_binary"⟩)])]⟩

def updateScope : Scope := ⟨"core", "1.0", "https://api.example", "", "apigen", "out", "rs"⟩

theorem render_agreement_update :
    (∃ endpoint curated,
      Endpoint.render ⟨.builtin, .empty, .standard⟩ ⟨[]⟩ updateScope itemUpdate = .ok endpoint ∧
      endpoint.entry.parameters.map (fun e => (e.name, e.location, e.required)) =
        [("itemId", .path, true), ("X-Trace", .header, true), ("payload", .requestBody, true),
         ("depth", .query, false), ("session", .cookie, false),
         ("response_content_type", .responseBody, false)] ∧
      endpoint.source = (GeneratedMethod.ofEndpoint updateScope itemUpdate curated "put_item").text ∧
      Agrees "json" (Endpoint.defaultContentType curated) endpoint.entry
        (GeneratedMethod.ofEndpoint updateScope itemUpdate curated "put_item")) ∧
    ∃ endpoint curated,
      Endpoint.render ⟨.builtin, uploadRenames, .standard⟩ ⟨[]⟩ updateScope itemUpdate =
        .ok endpoint ∧
      endpoint.source = (GeneratedMethod.ofUpload updateScope itemUpdate curated "upload_item").text ∧
      IsUploadOf (Endpoint.defaultContentType curated) endpoint.entry
        (GeneratedMethod.ofEndpoint updateScope itemUpdate curated "upload_item")
        (GeneratedMethod.ofUpload updateScope itemUpdate curated "upload_item") := by
  obtain ⟨endpoint, hrender, hparameters, hname⟩ : ∃ endpoint,
      Endpoint.render ⟨.builtin, .empty, .standard⟩ ⟨[]⟩ updateScope itemUpdate = .ok endpoint ∧
      endpoint.entry.parameters.map (fun e => (e.name, e.location, e.required)) =
        [("itemId", .path, true), ("X-Trace", .header, true), ("payload", .requestBody, true),
         ("depth", .query, false), ("session", .cookie, false),
         ("response_content_type", .responseBody, false)] ∧
      endpoint.entry.generatedName = "put_item" :=
    ⟨_, rfl, by decide +kernel, by decide +kernel⟩
  obtain ⟨uploaded, hupload, hnamed⟩ : ∃ uploaded,
      Endpoint.render ⟨.builtin, uploadRenames, .standard⟩ ⟨[]⟩ updateScope itemUpdate =
        .ok uploaded ∧ uploaded.entry.generatedName = "upload_item" :=
    ⟨_, rfl, rfl⟩
  constructor
  · obtain ⟨curated, _, _, _, rfl, _, hagrees, _, hplain, _⟩ := render_agreement hrender
    rw [hname] at hagrees hplain
    exact ⟨endpoint, curated, hrender, hparameters, hplain rfl, hagrees⟩
  · obtain ⟨curated, _, _, _, rfl, rfl, _, hisUpload, _, hbinary⟩ := render_agreement hupload
    rw [hnamed] at hisUpload hbinary
    exact ⟨uploaded, curated, hupload, hbinary rfl, hisUpload⟩

end ClientForge.Codegen
