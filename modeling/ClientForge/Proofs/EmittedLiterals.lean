import ClientForge.Proofs.ArgumentNames
import ClientForge.Proofs.StringLiterals

/-!
The string literals of a generated method. The built-in endpoint templates write names of parameters,
a content type and the URL path between quotes as they are. Read again, such a literal denotes what
was written exactly if there is no quote, no backslash and no carriage return in it; the literal then
ends where it was meant to end.

Results:
1. `holdsLiteral`: a text between quotes, somewhere in a source.
2. `hasOrigin`: where the names of the parameters come from.
3. `defaultContentType_eq`: the content type of the selector.
4. `render_literals`: the literals of a rendered method.
-/

namespace ClientForge.Codegen

open Api Api.Curation Template

/-! ## Definitions -/

/-- The source has the content between quotes, behind the one text and before the other. The literal
there denotes its content exactly if this is verbatim, and then it is read in one way only. No line
end goes across the opening quote, so that they are unified behind it as in the whole source. -/
structure HoldsLiteral (source before content after : String) : Prop where
  placed : source = before ++ "\"" ++ content ++ "\"" ++ after
  denotes_iff : (∃ rest, Literal (lineFeeds (content ++ "\"" ++ after).toList) content.toList rest) ↔
    IsVerbatim content.toList
  whole : IsVerbatim content.toList → ∀ text rest,
    Literal (lineFeeds (content ++ "\"" ++ after).toList) text rest →
    text = content.toList ∧ rest = lineFeeds after.toList

/-- The source has such a literal between these texts. -/
def Quotes (source before content after : String) : Prop :=
  ∃ front back, HoldsLiteral source (front ++ before) content (after ++ back)

/-- Where a parameter comes from. A declared one has the name of its definition in the document, up
to blanks around it. -/
inductive HasOrigin (table : ReferenceTable) (rules : ConvenienceRules) (declared : List Json) :
    Parameter → Prop
  | declared {d definition : Json} {origin : Option String} {name : String} {p : Parameter} :
      d ∈ declared → Curation.definition table d = .ok (definition, origin) →
      definition.string? "name" = some name → p.name = Text.trim name →
      HasOrigin table rules declared p
  | replacement {rule : ConvenienceRule} {p : Parameter} : rule ∈ rules → p ∈ rule.replacements →
      HasOrigin table rules declared p
  | payload : HasOrigin table rules declared payload
  | selector {default : String} : HasOrigin table rules declared (contentTypeSelector default)

/-- The literals of a method: the names of its parameters, the content type that the response is
asked for in, and the URL path. Those of a cookie and of a path with placeholders are format strings,
whose braces are not considered here. -/
structure QuotesTexts (input : EndpointInput) (curated : Curated) (source : String) : Prop where
  query : ∀ p ∈ curated.list, p.location = .query →
    Quotes source "options = options.query(" p.name (", " ++ argumentText p.type p.ident ++ ");")
  header : ∀ p ∈ curated.list, p.location = .header →
    Quotes source "options = options.header(" p.name (", " ++ argumentText p.type p.ident ++ ");")
  cookie : ∀ p ∈ curated.list, p.location = .cookie →
    Quotes source "options = options.header(\"Cookie\", format!(" (p.name ++ "=\x7b\x7d")
      (", " ++ argumentText p.type p.ident ++ "));")
  accept : ∀ default, contentTypeSelector default ∈ curated.list →
    Quotes source "options = options.header(\"Accept\", response_content_type.unwrap_or(" default
      "));"
  path_formatted : UrlPath.hasPlaceholders (UrlPath.withArguments curated.list input.path) = true →
    Quotes source "let path = format!(" (UrlPath.withArguments curated.list input.path) ");"
  path_plain : UrlPath.hasPlaceholders (UrlPath.withArguments curated.list input.path) = false →
    Quotes source "let path = " (UrlPath.withArguments curated.list input.path) ";"

/-! ## Literals in a source -/

theorem holdsLiteral (before content after : String) :
    HoldsLiteral (before ++ "\"" ++ content ++ "\"" ++ after) before content after := by
  have hread : (content ++ "\"" ++ after).toList = content.toList ++ '"' :: after.toList := by simp
  refine ⟨rfl, ?_, fun hverbatim text rest hliteral => ?_⟩
  · rw [hread]
    exact denotes_iff
  · rw [hread, lineFeeds_append_quote,
      lineFeeds_of_no_return fun hmem => (hverbatim _ hmem).2.2 rfl] at hliteral
    exact hliteral.unique (.of_verbatim hverbatim _)

/-- What a text quotes, every source quotes that it is a part of. -/
theorem quotes_of_part {source front back before content after : String}
    (h : source = front ++ (before ++ "\"" ++ content ++ "\"" ++ after) ++ back) :
    Quotes source before content after := by
  refine ⟨front, back, ?_⟩
  have hplaced : source = front ++ before ++ "\"" ++ content ++ "\"" ++ (after ++ back) := by
    simp only [h, String.append_assoc]
  rw [hplaced]
  exact holdsLiteral _ _ _

/-! ## Literals of a method -/

theorem Statement.text_setting (s : Statement) :
    ∃ front back, s.text = front ++ s.setting.text ++ back := by
  obtain ⟨setting, guard⟩ := s
  cases guard with
  | none =>
    refine ⟨"\n        ", "", String.toList_injective ?_⟩
    simp [text, parts]
  | some ident =>
    refine ⟨"\n        if let Some(" ++ ident ++ ") = " ++ ident ++ " \x7b\n            ",
      "\n        \x7d", String.toList_injective ?_⟩
    simp [text, parts]

namespace GeneratedMethod

variable {m : GeneratedMethod}

/-- A statement is a part of the method. -/
theorem text_of_statement {s : Statement} (h : s ∈ m.statements) :
    ∃ front back, m.text = front ++ s.setting.text ++ back := by
  obtain ⟨earlier, later, hstatements⟩ := List.append_of_mem h
  obtain ⟨opening, closing, hsetting⟩ := s.text_setting
  refine ⟨m.commentText ++ m.signatureText ++ m.pathText ++ "\n        let " ++
      (if m.isMutable then "mut " else "") ++ "options = " ++ m.options ++ ";" ++
      String.join (earlier.map Statement.text) ++ opening,
    closing ++ String.join (later.map Statement.text) ++ m.requestText, String.toList_injective ?_⟩
  simp [text, optionsText, hstatements, hsetting]

theorem quotes_of_statement {s : Statement} (h : s ∈ m.statements) {before content after : String}
    (hsetting : s.setting.text = before ++ "\"" ++ content ++ "\"" ++ after) :
    Quotes m.text before content after := by
  obtain ⟨front, back, htext⟩ := text_of_statement h
  rw [hsetting] at htext
  exact quotes_of_part htext

/-- The URL path is a part of the method. -/
theorem quotes_of_path {before content after : String}
    (hpath : "let path = " ++ m.url ++ ";" = before ++ "\"" ++ content ++ "\"" ++ after) :
    Quotes m.text before content after := by
  have htext : m.text = m.commentText ++ m.signatureText ++
      String.join (m.conveniences.map convenienceText) ++ "\n        " ++
      ("let path = " ++ m.url ++ ";") ++ (m.optionsText ++ m.requestText) := by
    refine String.toList_injective ?_
    simp [text, pathText]
  rw [hpath] at htext
  exact quotes_of_part htext

end GeneratedMethod

/-! ## Where the texts come from -/

section

variable {table : ReferenceTable} {rules : ConvenienceRules} {declared : List Json}
  {operation : Json} {curated : Curated}

theorem resolve_name {d : Json} {p : Parameter} (h : resolve table d = .ok p) :
    ∃ definition origin name, Curation.definition table d = .ok (definition, origin) ∧
      definition.string? "name" = some name ∧ p.name = Text.trim name := by
  obtain ⟨definition, origin, hdefinition, hdescribe⟩ := resolve_ok h
  obtain ⟨trimmed, _, _, hname, _, _, rfl⟩ := describe_ok hdescribe
  rw [nameOf] at hname
  split at hname
  · next name hstring =>
    cases hname
    exact ⟨definition, origin, name, hdefinition, hstring, rfl⟩
  · cases hname

theorem hasOrigin (success : curate table rules declared operation = .ok curated) :
    ∀ p ∈ curated.list, HasOrigin table rules declared p := by
  obtain ⟨resolved, hresolves⟩ := curate_resolves success
  have hresolved : ∀ p ∈ resolved, HasOrigin table rules declared p := by
    intro p hp
    obtain ⟨d, hd, ⟨rule, hrule, hreplacement⟩ | ⟨_, hresolve⟩⟩ := hresolves.mem_iff.mp hp
    · exact .replacement (mem_of_ruleFor? hrule) hreplacement
    · obtain ⟨_, _, _, hdefinition, hstring, hname⟩ := resolve_name hresolve
      exact .declared hd hdefinition hstring hname
  exact fun p hp => forall_candidates hresolved .payload (fun _ => .selector) p
    ((hresolves.arranges success).mem_iff.mp hp).mem

/-- The content type that is asked for is the selector's: no other parameter has its name. -/
theorem defaultContentType_eq (success : curate table rules declared operation = .ok curated)
    {default : String} (h : contentTypeSelector default ∈ curated.list) :
    Endpoint.defaultContentType curated = default := by
  obtain ⟨resolved, hresolves⟩ := curate_resolves success
  have harranges := hresolves.arranges success
  have hfind : curated.find? "response_content_type" = some (contentTypeSelector default) := by
    obtain ⟨p, hp⟩ : ∃ p, curated.find? "response_content_type" = some p :=
      Option.isSome_iff_exists.mp (List.find?_isSome.mpr ⟨_, h, rfl⟩)
    have hname : p.name = "response_content_type" := by simpa using List.find?_some hp
    rw [hp, (harranges.mem_iff.mp (List.mem_of_find?_eq_some hp)).eq (harranges.mem_iff.mp h)
      (congrArg Text.lowercase hname)]
  rw [Endpoint.defaultContentType, hfind]
  rfl

end

/-! ## Rendered methods -/

/-- The statements and the path of a method quote the texts they are made of. -/
theorem GeneratedMethod.quotesTexts {m : GeneratedMethod} {input : EndpointInput}
    {curated : Curated} (taker : String)
    (hstatements : m.statements =
      curated.list.filterMap (statementOf? taker (Endpoint.defaultContentType curated)))
    (hurl : m.url = urlExpression curated input.path)
    (hdefault : ∀ default, contentTypeSelector default ∈ curated.list →
      Endpoint.defaultContentType curated = default) : QuotesTexts input curated m.text := by
  have hstatement : ∀ p ∈ curated.list, ∀ s,
      statementOf? taker (Endpoint.defaultContentType curated) p = some s → s ∈ m.statements :=
    fun p hp s hs => hstatements ▸ List.mem_filterMap.mpr ⟨p, hp, hs⟩
  constructor
  case query | header | cookie =>
    intro p hp hlocation
    refine quotes_of_statement (hstatement p hp _ (by rw [statementOf?, hlocation])) ?_
    exact String.toList_injective (by simp [Setting.text, Setting.parts])
  case accept =>
    intro default hp
    have hasks : statementOf? taker (Endpoint.defaultContentType curated)
        (contentTypeSelector default) = some ⟨.accept "response_content_type" default, none⟩ := by
      rw [hdefault default hp]
      rfl
    refine quotes_of_statement (hstatement _ hp _ hasks) ?_
    exact String.toList_injective (by simp [Setting.text, Setting.parts])
  case path_formatted | path_plain =>
    intro hholes
    refine quotes_of_path (String.toList_injective ?_)
    simp [hurl, urlExpression, hholes]

/-- The literals of a rendered method, whatever texts the document has: they are quoted as they are,
the names as the document has them, and so read as themselves exactly if they are verbatim. -/
theorem render_literals {toolkit : Toolkit} {table : ReferenceTable} {scope : Scope}
    {input : EndpointInput} {endpoint : Endpoint}
    (h : Endpoint.render toolkit table scope input = .ok endpoint)
    (hbuiltin : toolkit.registry.entries.lookup (Endpoint.naming toolkit.renames input).template ∈
      [some Builtin.endpoint, some Builtin.endpointBinary]) :
    ∃ curated, curate table toolkit.rules (Endpoint.declared input) input.operation = .ok curated ∧
      (∀ p ∈ curated.list, HasOrigin table toolkit.rules (Endpoint.declared input) p) ∧
      ∃ m ∈ [GeneratedMethod.ofEndpoint scope input curated endpoint.entry.generatedName,
          GeneratedMethod.ofUpload scope input curated endpoint.entry.generatedName],
        endpoint.source = m.text ∧ QuotesTexts input curated endpoint.source := by
  obtain ⟨curated, hcurate, hrender, hentry⟩ := endpoint_render_ok h
  obtain ⟨template, hlookup, hsource⟩ := Registry.render_ok hrender
  rw [hlookup] at hbuiltin
  simp only [List.mem_cons, List.not_mem_nil, or_false, Option.some.injEq] at hbuiltin
  have hdefault : ∀ default, contentTypeSelector default ∈ curated.list →
      Endpoint.defaultContentType curated = default := fun _ => defaultContentType_eq hcurate
  rw [hentry]
  refine ⟨curated, hcurate, hasOrigin hcurate, ?_⟩
  rcases hbuiltin with rfl | rfl
  · have htext := Option.some.inj (hsource.symm.trans endpoint_text)
    refine ⟨_, .head _, htext, ?_⟩
    rw [htext]
    exact GeneratedMethod.quotesTexts "json" rfl (by rw [GeneratedMethod.ofEndpoint]) hdefault
  · have htext := Option.some.inj (hsource.symm.trans endpointBinary_text)
    refine ⟨_, .tail _ (.head _), htext, ?_⟩
    rw [htext]
    exact GeneratedMethod.quotesTexts "body" rfl
      (by rw [GeneratedMethod.ofUpload, GeneratedMethod.ofEndpoint]) hdefault

def quotingScope : Scope :=
  ⟨"core", "1.0", "https://api.example", "https://docs.example", "apigen", "out", "rs"⟩

/-- An operation with a query parameter of the name and two response content types. -/
def quotingInput (name : String) : EndpointInput :=
  ⟨⟨"api", "api", none⟩, "/items", .get,
    .object
      [("operationId", .string "listItems"), ("summary", .string "List items"),
       ("parameters", .array
         [.object
           [("name", .string name), ("in", .string "query"),
            ("schema", .object [("type", .string "string")])]]),
       ("responses", .object
         [("200", .object
           [("content", .object [("text/csv", .null), ("application/json", .null)])])])],
    []⟩

theorem quotingInput_name (name : String) :
    Naming.functionName (Endpoint.operationId (quotingInput name)) = "list_items" := by
  have hname : Naming.functionName "listItems" = "list_items" := by decide +kernel
  exact hname

theorem render_literals_paged :
    ∃ endpoint curated,
      Endpoint.render ⟨.builtin, .empty, .standard⟩ ⟨[]⟩ quotingScope (quotingInput " page size") =
        .ok endpoint ∧
      endpoint.template = Registry.endpointName ∧
      curate ⟨[]⟩ .standard (Endpoint.declared (quotingInput " page size"))
        (quotingInput " page size").operation = .ok curated ∧
      curated.list.map (·.name) = ["page size", "response_content_type"] ∧
      contentTypeSelector "text/csv" ∈ curated.list ∧
      (∀ p ∈ curated.list, IsVerbatim p.name.toList) ∧
      QuotesTexts (quotingInput " page size") curated endpoint.source := by
  obtain ⟨curated, hcurate, hnames, hselector, hverbatim⟩ : ∃ curated,
      curate ⟨[]⟩ .standard (Endpoint.declared (quotingInput " page size"))
        (quotingInput " page size").operation = .ok curated ∧
      curated.list.map (·.name) = ["page size", "response_content_type"] ∧
      contentTypeSelector "text/csv" ∈ curated.list ∧
      ∀ p ∈ curated.list, IsVerbatim p.name.toList :=
    ⟨_, rfl, by decide +kernel, .tail _ (.head _), by decide +kernel⟩
  have hrender := render_without_renames quotingScope hcurate (quotingInput_name _)
  obtain ⟨_, hcurate', _, _, _, _, hquotes⟩ := render_literals hrender (.head _)
  cases hcurate.symm.trans hcurate'
  exact ⟨_, curated, hrender, rfl, hcurate, hnames, hselector, hverbatim, hquotes⟩

/-- A quote in the name of a query parameter ends the literal. -/
theorem quote_ends_literal :
    ∃ endpoint curated,
      Endpoint.render ⟨.builtin, .empty, .standard⟩ ⟨[]⟩ quotingScope (quotingInput "say\"hi") =
        .ok endpoint ∧
      endpoint.template = Registry.endpointName ∧
      curate ⟨[]⟩ .standard (Endpoint.declared (quotingInput "say\"hi"))
        (quotingInput "say\"hi").operation = .ok curated ∧
      (∃ p ∈ curated.list, p.location = .query ∧ p.name = "say\"hi") ∧
      ∃ front behind, endpoint.source = front ++ "options = options.query(\"" ++ behind ∧
        (∃ rest, Literal (lineFeeds behind.toList) "say".toList rest) ∧
        ¬ ∃ rest, Literal (lineFeeds behind.toList) "say\"hi".toList rest := by
  obtain ⟨curated, hcurate, p, hp, hlocation, hname⟩ : ∃ curated,
      curate ⟨[]⟩ .standard (Endpoint.declared (quotingInput "say\"hi"))
        (quotingInput "say\"hi").operation = .ok curated ∧
      ∃ p ∈ curated.list, p.location = .query ∧ p.name = "say\"hi" :=
    ⟨_, rfl, by decide +kernel⟩
  have hquotes : QuotesTexts (quotingInput "say\"hi") curated
      (GeneratedMethod.ofEndpoint quotingScope (quotingInput "say\"hi") curated "list_items").text :=
    GeneratedMethod.quotesTexts "json" rfl (by rw [GeneratedMethod.ofEndpoint])
      fun _ => defaultContentType_eq hcurate
  obtain ⟨front, back, hholds⟩ := hquotes.query p hp hlocation
  have hverbatim : IsVerbatim "say".toList ∧ ¬ IsVerbatim "say\"hi".toList := by decide
  rw [hname] at hholds
  generalize ", " ++ argumentText p.type p.ident ++ ");" ++ back = after at hholds
  have hrender := render_without_renames quotingScope hcurate (quotingInput_name _)
  have hother : ¬ ∃ rest,
      Literal (lineFeeds ("say\"hi" ++ "\"" ++ after).toList) "say\"hi".toList rest :=
    mt hholds.denotes_iff.mp hverbatim.2
  refine ⟨_, curated, hrender, rfl, hcurate, ⟨p, hp, hlocation, hname⟩, front,
    "say\"hi" ++ "\"" ++ after, ?_, ?_, hother⟩
  · rw [hholds.placed]
    refine String.toList_injective ?_
    simp
  · have hread : ("say\"hi" ++ "\"" ++ after).toList =
        "say".toList ++ '"' :: ("hi\"" ++ after).toList := by simp
    rw [hread]
    exact denotes_iff.mpr hverbatim.1

end ClientForge.Codegen
