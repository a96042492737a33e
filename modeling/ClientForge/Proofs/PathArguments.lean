import ClientForge.Proofs.GeneratedParameters
import ClientForge.Proofs.Rendering

/-!
What becomes of the declared path parameters that a URL uses. Names alone decide who stays in the
final list, so that a path parameter can lose its place to a parameter of another location, or to an
optional one that a rule puts there; the URL then falls back on the name in its placeholder.

Results:
1. `IsDisplaced.congr`: displacement only looks at names in lower case.
2. `IsFirst.candidates`, `IsFirst.of_candidates`: who comes first among the candidates.
3. `withArguments_split`: what is written in the place of one placeholder.
4. `render_path_arguments`: which path parameters are kept, and that the URL names their arguments.
-/

namespace ClientForge

namespace Api.Curation

open Text

variable {table : ReferenceTable} {operation : Json} {resolved : List Parameter}

/-! ## Who comes first -/

/-- Displacement only looks at names in lower case. -/
theorem IsDisplaced.congr {p q : Parameter} (h : lowercase p.name = lowercase q.name) :
    IsDisplaced table operation p ↔ IsDisplaced table operation q := by
  rw [IsDisplaced, IsDisplaced,
    sameIgnoringAsciiCase_iff payload_name_native payload_name_lower,
    sameIgnoringAsciiCase_iff selector_name_native selector_name_lower,
    sameIgnoringAsciiCase_iff payload_name_native payload_name_lower,
    sameIgnoringAsciiCase_iff selector_name_native selector_name_lower, h]

/-- Displacement takes all parameters of a name or none. -/
theorem first?_kept {p : Parameter} (h : ¬ IsDisplaced table operation p) :
    first? (resolved.filter fun q => ¬ IsDisplaced table operation q) p.name =
      first? resolved p.name := by
  rw [first?, first?, List.find?_filter]
  congr 1
  funext q
  by_cases hname : lowercase q.name = lowercase p.name
  · simp [hname, (IsDisplaced.congr hname).not.mpr h]
  · simp [hname]

theorem exists_first? {parameters : List Parameter} {p : Parameter} (h : p ∈ parameters) :
    ∃ q, first? parameters p.name = some q :=
  Option.isSome_iff_exists.mp (List.find?_isSome.mpr ⟨p, h, by simp⟩)

theorem first?_append (ps qs : List Parameter) (name : String) :
    first? (ps ++ qs) name = (first? ps name).or (first? qs name) := List.find?_append

/-- A parameter that is not displaced and comes first among the resolved ones does so among the
candidates. -/
theorem IsFirst.candidates {p : Parameter} (hfirst : IsFirst resolved p)
    (hkept : ¬ IsDisplaced table operation p) :
    IsFirst (candidates table operation resolved) p := by
  rw [IsFirst, candidates_eq, first?_append, first?_kept hkept, hfirst]
  rfl

/-- For a path parameter this is the only way: no generated parameter travels in the path. -/
theorem IsFirst.of_candidates {p : Parameter} (hpath : p.location = .path)
    (h : IsFirst (Curation.candidates table operation resolved) p) :
    ¬ IsDisplaced table operation p ∧ IsFirst resolved p := by
  obtain ⟨hmem, hkept⟩ : p ∈ resolved ∧ ¬ IsDisplaced table operation p := by
    have hmem := h.mem
    rw [candidates_eq, List.mem_append, List.mem_append] at hmem
    rcases hmem with hdeclared | hbody | hchoice
    · simpa using List.mem_filter.mp hdeclared
    · split_ifs at hbody
      · rw [List.mem_singleton.mp hbody] at hpath
        cases hpath
      · cases hbody
    · rw [selector?_location (Option.mem_toList.mp hchoice)] at hpath
      cases hpath
  -- some resolved parameter has the name first, and it is kept as this one is
  obtain ⟨q, hq⟩ := exists_first? hmem
  rw [IsFirst, candidates_eq, first?_append, first?_kept hkept, hq] at h
  exact ⟨hkept, hq.trans h⟩

end Api.Curation

namespace Codegen.UrlPath

open Api.Curation

/-! ## URLs -/

/-- The text that pieces of a path become. -/
def written (parameters : List Api.Parameter) (pieces : List Piece) : String :=
  String.ofList (pieces.flatMap
    (Piece.mapName fun name => (argument parameters (String.ofList name)).toList))

/-- In the place of a placeholder stands the argument for its name. -/
theorem withArguments_split {parameters : List Api.Parameter} {path name : String}
    {before after : List Piece} (h : pieces path = before ++ .placeholder name.toList :: after) :
    withArguments parameters path = written parameters before ++ "\x7b" ++
      argument parameters name ++ "\x7d" ++ written parameters after := by
  rw [withArguments, h, List.flatMap_append, List.flatMap_cons, Piece.mapName, String.ofList_toList,
    written, written]
  apply String.toList_injective
  simp [String.toList_append]

/-- The argument for the name of a path parameter in the final list is that parameter's. -/
theorem argument_eq {candidates list : List Api.Parameter} (h : Arranges candidates list)
    {p : Api.Parameter} (hp : p ∈ list) (hpath : p.location = .path) :
    argument list p.name = p.ident := by
  obtain ⟨q, hq⟩ := Option.isSome_iff_exists.mp
    (List.find?_isSome (p := fun q => q.location == .path && q.name == p.name) |>.mpr
      ⟨p, hp, by simp [hpath]⟩)
  have hname : q.name = p.name := by
    have hmatch := List.find?_some hq
    simp only [Bool.and_eq_true, beq_iff_eq] at hmatch
    exact hmatch.2
  have hfirst := h.mem_iff.mp (List.mem_of_find?_eq_some hq)
  rw [argument, hq, hfirst.eq (h.mem_iff.mp hp) (by rw [hname])]

end Codegen.UrlPath

namespace Codegen

open Api Api.Curation UrlPath

/-! ## Endpoints -/

/-- A required path parameter of this name. -/
structure IsPathParameter (name : String) (p : Parameter) : Prop where
  named : p.name = name
  located : p.location = .path
  required : p.required = true

/-- What becomes of the name of the declared path parameter `p`. Of the resolved parameters `holder`
has the name first; it has the place in the final list unless a generated parameter displaces both. So
the list has a required path parameter of the name if `holder` is one; and where it has one, the URL
names its argument in every placeholder of the name. -/
structure PathArgument (table : ReferenceTable) (input : EndpointInput) (resolved : List Parameter)
    (curated : Curated) (p holder : Parameter) : Prop where
  declared : IsPathParameter p.name p
  first : first? resolved p.name = some holder
  holds : ¬ IsDisplaced table input.operation p → holder ∈ curated.list
  kept_iff : (∃ q ∈ curated.list, IsPathParameter p.name q) ↔
    ¬ IsDisplaced table input.operation p ∧ IsPathParameter p.name holder
  url : ∀ q ∈ curated.list, IsPathParameter p.name q → ∀ before after,
    pieces input.path = before ++ .placeholder p.name.toList :: after →
    withArguments curated.list input.path = written curated.list before ++ "\x7b" ++ q.ident ++
      "\x7d" ++ written curated.list after

theorem resolve_required {table : ReferenceTable} {declared : Json} {p : Parameter}
    (h : resolve table declared = .ok p) (hpath : p.location = .path) : p.required = true := by
  obtain ⟨_, _, _, hdescribe⟩ := resolve_ok h
  obtain ⟨_, location, _, _, _, _, rfl⟩ := describe_ok hdescribe
  obtain rfl : location = .path := hpath
  rfl

theorem pathArgument {table : ReferenceTable} {input : EndpointInput} {resolved : List Parameter}
    {curated : Curated} (harranges : Arranges (candidates table input.operation resolved) curated.list)
    {p : Parameter} (hmem : p ∈ resolved) (hp : IsPathParameter p.name p) :
    ∃ holder, PathArgument table input resolved curated p holder := by
  obtain ⟨holder, hfirst⟩ := exists_first? hmem
  have hname : Text.lowercase holder.name = Text.lowercase p.name := by
    simpa using List.find?_some hfirst
  -- the holder may write the name in another case
  have hholder : IsFirst resolved holder := by
    rw [IsFirst, first?, hname]
    exact hfirst
  refine ⟨holder, hp, hfirst, fun hkept => ?_, ⟨?_, ?_⟩, ?_⟩
  · exact harranges.mem_iff.mpr (hholder.candidates (mt (IsDisplaced.congr hname).mp hkept))
  · rintro ⟨q, hq, hpath⟩
    obtain ⟨hkept, hqfirst⟩ := (harranges.mem_iff.mp hq).of_candidates hpath.located
    obtain rfl : holder = q := hholder.eq hqfirst (by rw [hname, hpath.named])
    exact ⟨mt (IsDisplaced.congr hname).mpr hkept, hpath⟩
  · rintro ⟨hkept, hpath⟩
    exact ⟨holder, harranges.mem_iff.mpr
      (hholder.candidates (mt (IsDisplaced.congr hname).mp hkept)), hpath⟩
  · intro q hq hpath before after hpieces
    rw [withArguments_split hpieces, ← hpath.named, argument_eq harranges hq hpath.located]

/-- A rendered endpoint records and renders the final list; of the declared path parameters it keeps
those that come first of their name and are not displaced, and the URL names their arguments. -/
theorem render_path_arguments {toolkit : Toolkit} {table : ReferenceTable} {scope : Scope}
    {input : EndpointInput} {endpoint : Endpoint}
    (h : Endpoint.render toolkit table scope input = .ok endpoint) :
    ∃ curated resolved,
      curate table toolkit.rules (Endpoint.declared input) input.operation = .ok curated ∧
      Resolves table toolkit.rules (Endpoint.declared input) resolved ∧
      endpoint.entry.parameters = curated.list.map (·.summary) ∧
      toolkit.registry.render (Endpoint.naming toolkit.renames input).template
        (Endpoint.context scope input curated (Endpoint.naming toolkit.renames input).name) =
          .ok endpoint.source ∧
      ∀ d ∈ Endpoint.declared input, ∀ p, toolkit.rules.ruleFor? d = none →
        resolve table d = .ok p → p.location = .path →
        ∃ holder, PathArgument table input resolved curated p holder := by
  obtain ⟨curated, hcurate, hrender, hentry⟩ := endpoint_render_ok h
  obtain ⟨resolved, hresolves⟩ := curate_resolves hcurate
  have harranges := hresolves.arranges hcurate
  refine ⟨curated, resolved, hcurate, hresolves, by rw [hentry, Endpoint.record], hrender, ?_⟩
  intro d hd p hrule hp hpath
  have hmem : p ∈ resolved := hresolves.mem_iff.mpr ⟨d, hd, .inr ⟨hrule, hp⟩⟩
  exact pathArgument harranges hmem ⟨rfl, hpath, resolve_required hp hpath⟩

def itemScope : Scope := ⟨"core", "1.0", "https://api.example", "", "apigen", "out", "rs"⟩

/-- An operation on one item, with parameters of the path and of the operation. -/
def itemInput (pathParameters parameters : List Json) : EndpointInput :=
  ⟨⟨"api", "api", none⟩, "/items/\x7bitemId\x7d", .get,
    .object [("parameters", .array parameters)], pathParameters⟩

def itemParameter (location : String) : Json :=
  .object
    [("name", .string "itemId"), ("in", .string location),
     ("schema", .object [("type", .string "string")])]

theorem render_path_arguments_item :
    ∃ endpoint curated resolved p holder,
      Endpoint.render ⟨.builtin, .empty, .standard⟩ ⟨[]⟩ itemScope
        (itemInput [itemParameter "path"] [itemParameter "query"]) = .ok endpoint ∧
      resolve ⟨[]⟩ (itemParameter "path") = .ok p ∧ p.name = "itemId" ∧ p.location = .path ∧
      endpoint.entry.parameters = [⟨"itemId", "", .path, true⟩] ∧
      endpoint.entry.parameters = curated.list.map (·.summary) ∧
      PathArgument ⟨[]⟩ (itemInput [itemParameter "path"] [itemParameter "query"]) resolved curated
        p holder := by
  obtain ⟨endpoint, hrender, hentry⟩ : ∃ endpoint,
      Endpoint.render ⟨.builtin, .empty, .standard⟩ ⟨[]⟩ itemScope
        (itemInput [itemParameter "path"] [itemParameter "query"]) = .ok endpoint ∧
      endpoint.entry.parameters = [⟨"itemId", "", .path, true⟩] :=
    ⟨_, rfl, by decide +kernel⟩
  obtain ⟨p, hp, hname, hpath⟩ : ∃ p, resolve ⟨[]⟩ (itemParameter "path") = .ok p ∧
      p.name = "itemId" ∧ p.location = .path := ⟨_, rfl, by decide +kernel, rfl⟩
  obtain ⟨curated, resolved, _, _, hparameters, _, hdeclared⟩ := render_path_arguments hrender
  obtain ⟨holder, hargument⟩ := hdeclared (itemParameter "path") (.head _) p rfl hp hpath
  exact ⟨endpoint, curated, resolved, p, holder, hrender, hp, hname, hpath, hentry, hparameters,
    hargument⟩

/-- A path parameter behind a query parameter of its name is not kept. -/
theorem path_parameter_lost :
    itemParameter "path" ∈
      Endpoint.declared (itemInput [itemParameter "query"] [itemParameter "path"]) ∧
    .placeholder "itemId".toList ∈ pieces "/items/\x7bitemId\x7d" ∧
    ConvenienceRules.standard.ruleFor? (itemParameter "path") = none ∧
    (∃ p, resolve ⟨[]⟩ (itemParameter "path") = .ok p ∧ p.name = "itemId" ∧ p.location = .path) ∧
    ∃ endpoint, Endpoint.render ⟨.builtin, .empty, .standard⟩ ⟨[]⟩ itemScope
        (itemInput [itemParameter "query"] [itemParameter "path"]) = .ok endpoint ∧
      endpoint.entry.parameters = [⟨"itemId", "", .query, false⟩] :=
  ⟨.tail _ (.head _), by decide +kernel, rfl, ⟨_, rfl, by decide +kernel, rfl⟩,
    ⟨_, rfl, by decide +kernel⟩⟩

end Codegen

end ClientForge
