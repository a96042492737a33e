import ClientForge.Proofs.ArgumentNames
import ClientForge.Proofs.Characters

/-!
Whether the comment of a generated method stays a comment. Every line of it is written behind
slashes, so that a text can only leave the comment by a line feed of its own. Descriptions lose
theirs on the way; the path and the link to the documentation, which ends in the summary, do not.

Results:
1. `GeneratedMethod.text_lines`: the lines of a method, those of its comment in the middle.
2. `continuesComment_iff`: which lines of a comment can be anything else.
3. `render_comment`: the comment of a rendered method is one exactly when the further lines of its
   path and of its link are comment lines themselves.
-/

namespace ClientForge.Codegen

open Template Text

/-! ## Definitions -/

/-- The lines of a text; a line feed at the end is followed by an empty one. -/
def textLines (s : String) : List (List Char) := s.toList.splitOn '\n'

/-- The line is a comment behind its indentation. -/
def IsCommentLine (line : List Char) : Prop := "///".toList <+: line.dropWhile isBlank

instance (line : List Char) : Decidable (IsCommentLine line) := inferInstanceAs (Decidable (_ <+: _))

/-- Behind slashes the text is a comment to its end: the lines after the first are comment lines. -/
def ContinuesComment (s : String) : Prop := ∀ line ∈ (textLines s).tail, IsCommentLine line

def isSignatureLine (line : List Char) : Bool :=
  "pub async fn".toList.isPrefixOf (line.dropWhile isBlank)

/-- The lines of a method between the one that opens its block, which is its second, and the one that
opens its signature. -/
def commentOf (source : String) : List (List Char) :=
  ((textLines source).drop 2).takeWhile (!isSignatureLine ·)

/-- The lines that the comment of a method becomes. -/
def GeneratedMethod.commentLines (m : GeneratedMethod) : List (List Char) :=
  m.comment.flatMap fun c => textLines ("    ///" ++ c)

/-! ## Lines -/

theorem splitOn_append_of_single {first : List Char} (h : IsSingleLine first) (second : List Char) :
    (first ++ second).splitOn '\n' = (second.splitOn '\n').modifyHead (first ++ ·) := by
  induction first with
  | nil => exact (congrFun List.modifyHead_id _).symm
  | cons c first ih =>
    have hc : (c == '\n') = false := by
      simpa using fun hc : c = '\n' => h (hc ▸ List.mem_cons_self)
    rw [List.cons_append, List.splitOn_cons_eq_if_modifyHead, hc, if_neg Bool.false_ne_true,
      ih fun hmem => h (.tail c hmem), List.modifyHead_modifyHead]
    rfl

theorem textLines_append {first : String} (h : IsSingleLine first.toList) (second : String) :
    textLines (first ++ second) = (textLines second).modifyHead (first.toList ++ ·) := by
  rw [textLines, String.toList_append, splitOn_append_of_single h, textLines]

theorem textLines_of_single {s : String} (h : IsSingleLine s.toList) : textLines s = [s.toList] :=
  List.splitOn_eq_singleton h

/-- Lines that are written behind one another stay what they are. -/
theorem splitOn_lines (first : List Char) (lines : List String) (rest : List Char) :
    (first ++ lines.flatMap (fun s => '\n' :: s.toList) ++ '\n' :: rest).splitOn '\n' =
      first.splitOn '\n' ++ lines.flatMap textLines ++ rest.splitOn '\n' := by
  induction lines generalizing first with
  | nil => simp [List.splitOn_append_cons_self]
  | cons s lines ih =>
    rw [List.flatMap_cons, List.flatMap_cons, List.append_assoc, List.cons_append, List.append_assoc,
      List.append_assoc, List.cons_append, List.splitOn_append_cons_self, ← List.append_assoc, ih]
    simp [textLines]

theorem continuesComment_of_single {s : String} (h : IsSingleLine s.toList) : ContinuesComment s := by
  rw [ContinuesComment, textLines_of_single h]
  exact fun line hline => nomatch hline

theorem continuesComment_append (first : String) (h : IsSingleLine first.toList) (second : String) :
    ContinuesComment (first ++ second) ↔ ContinuesComment second := by
  rw [ContinuesComment, textLines_append h, ContinuesComment]
  cases textLines second <;> rfl

/-- The first line of a text behind slashes is a comment line. -/
theorem forall_commentLine_iff (c : String) :
    (∀ line ∈ textLines ("    ///" ++ c), IsCommentLine line) ↔ ContinuesComment c := by
  have hslashes : IsSingleLine "    ///".toList := by decide
  rw [ContinuesComment, textLines_append hslashes]
  cases h : textLines c with
  | nil => exact absurd h (List.splitOn_ne_nil _ _)
  | cons first others =>
    have hfirst : IsCommentLine ("    ///".toList ++ first) := ⟨first, rfl⟩
    rw [List.modifyHead_cons, List.forall_mem_cons, List.tail_cons]
    exact and_iff_right hfirst

namespace GeneratedMethod

/-- The lines of a method: an empty one, the one that opens its block, those of the comment, the
signature and the rest. -/
theorem text_lines (m : GeneratedMethod) (h : IsSingleLine m.typeName.toList) :
    ∃ rest, textLines m.text =
      [] :: ("impl " ++ m.typeName ++ "<'_> \x7b").toList :: (m.commentLines ++
        textLines ("    pub async fn " ++ m.name ++ "(") ++ rest) := by
  let opening := ("impl " ++ m.typeName ++ "<'_> \x7b").toList
  let signature := ("    pub async fn " ++ m.name ++ "(").toList
  -- what follows the line feed that ends the first line of the signature
  obtain ⟨rest, hrest⟩ : ∃ rest, m.text.toList = [] ++ '\n' :: (opening ++
      (m.comment.map fun c => "    ///" ++ c).flatMap (fun s => '\n' :: s.toList) ++ '\n' ::
        (signature ++ '\n' :: rest)) := by
    refine ⟨("        &self," ++ String.join (m.arguments.map argumentLine) ++
      "\n    ) -> Result<Response, ClientError> \x7b" ++ m.pathText ++ m.optionsText ++
        m.requestText).toList, ?_⟩
    simp [opening, signature, text, commentText, signatureText, commentLine, List.flatMap_map]
  have hopening : IsSingleLine opening := by
    simp only [opening, IsSingleLine, String.toList_append, List.mem_append, not_or]
    exact ⟨⟨by decide, h⟩, by decide⟩
  refine ⟨rest.splitOn '\n', ?_⟩
  rw [textLines, hrest, List.splitOn_append_cons_self, splitOn_lines, List.flatMap_map,
    List.splitOn_append_cons_self, List.splitOn_eq_singleton hopening, commentLines]
  simp [textLines, signature, opening]

theorem forall_commentLines_iff (m : GeneratedMethod) :
    (∀ line ∈ m.commentLines, IsCommentLine line) ↔ ∀ c ∈ m.comment, ContinuesComment c := by
  simp only [commentLines, List.forall_mem_flatMap, forall_commentLine_iff]

end GeneratedMethod

/-! ## The comment of an operation -/

section

variable {scope : Codegen.Scope} {input : EndpointInput} {curated : Api.Curated} {name : String}

theorem descriptionComment_single {line : String} (h : IsSingleLine line.toList) :
    IsSingleLine (descriptionComment line).toList := by
  rw [descriptionComment]
  split_ifs
  · decide
  · simpa [IsSingleLine] using h

theorem argumentComment_single {p : Api.Parameter} (h : IsSingleLine p.ident.toList) :
    IsSingleLine (argumentComment p).toList := by
  have hdescription := docLine_single p.description
  rw [argumentComment]
  split_ifs <;> simp_all [IsSingleLine]

/-- All but the path and the link are made of single lines. -/
theorem operationComment_single {c : String} (h : c ∈ operationComment scope input) :
    IsSingleLine c.toList ∨ c = " Path: `" ++ (input.path ++ "`") ∨
      c = " Docs: <" ++
        (Naming.docsUrl scope.docsBaseUrl input.path (Endpoint.summary input) ++ ">") := by
  have hverb : IsSingleLine input.method.verb.toList := by cases input.method <;> decide
  have hstatus : IsSingleLine (Endpoint.status input).text.toList := by
    cases Endpoint.status input <;> decide
  rw [operationComment, List.mem_append] at h
  rcases h with hdescription | hfact
  · obtain ⟨line, hline, rfl⟩ := List.mem_map.mp hdescription
    exact .inl (descriptionComment_single (docLines_single hline))
  · simp only [List.mem_cons, List.not_mem_nil, or_false] at hfact
    rcases hfact with rfl | rfl | rfl | rfl | rfl
    · exact .inl (by decide)
    · exact .inr (.inl (String.append_assoc ..))
    · exact .inl (by simpa [IsSingleLine] using hverb)
    · exact .inl (by simpa [IsSingleLine] using hstatus)
    · exact .inr (.inr (String.append_assoc ..))

theorem argumentsComment_single (h : ∀ p ∈ curated.list, IsSingleLine p.ident.toList) :
    ∀ c ∈ argumentsComment curated, IsSingleLine c.toList := by
  rw [argumentsComment, List.forall_mem_cons, List.forall_mem_cons, List.forall_mem_map]
  exact ⟨by decide, by decide, fun p hp => argumentComment_single (h p hp)⟩

/-- Which lines of a comment can be anything else: the further lines of the path and of the link. -/
theorem continuesComment_iff {further : List String} (h : ∀ c ∈ further, IsSingleLine c.toList) :
    (∀ c ∈ operationComment scope input ++ further, ContinuesComment c) ↔
      ContinuesComment (input.path ++ "`") ∧
      ContinuesComment
        (Naming.docsUrl scope.docsBaseUrl input.path (Endpoint.summary input) ++ ">") := by
  have hpath := continuesComment_append " Path: `" (by decide) (input.path ++ "`")
  have hlink := continuesComment_append " Docs: <" (by decide)
    (Naming.docsUrl scope.docsBaseUrl input.path (Endpoint.summary input) ++ ">")
  rw [← hpath, ← hlink]
  constructor
  · intro hall
    refine ⟨hall _ (List.mem_append_left _ ?_), hall _ (List.mem_append_left _ ?_)⟩
    · simp [operationComment, String.append_assoc]
    · simp [operationComment, String.append_assoc]
  · rintro ⟨hpathStays, hlinkStays⟩ c hc
    rcases List.mem_append.mp hc with hc | hc
    · rcases operationComment_single hc with hsingle | rfl | rfl
      · exact continuesComment_of_single hsingle
      · exact hpathStays
      · exact hlinkStays
    · exact continuesComment_of_single (h c hc)

theorem docsUrl_single {base path summary : String} (hbase : IsSingleLine base.toList)
    (hpath : IsSingleLine path.toList) (hsummary : IsSingleLine summary.toList) :
    IsSingleLine (Naming.docsUrl base path summary).toList := by
  have hfragment : '\n' ∉ Naming.replaceSpaces '-' (lower summary.toList) := by
    rw [Naming.mem_replaceSpaces_iff (by decide) (by decide), mem_lower_iff (by decide)]
    exact hsummary
  have hkept : '\n' ∉ (strip isBlank path.toList).filter fun c => c ≠ '\x7b' ∧ c ≠ '\x7d' :=
    fun hmem => hpath (mem_of_mem_strip (List.mem_filter.mp hmem).1)
  rw [Naming.docsUrl]
  simp only [IsSingleLine, String.toList_append, String.toList_ofList, List.mem_append, not_or]
  exact ⟨⟨⟨hbase, hkept⟩, by decide⟩, hfragment⟩

/-- What stands between the line that opens the block and the one that opens the signature: `m`'s
comment, all of it comment lines if the further lines of the path and of the link are. -/
structure StandsCommented (scope : Scope) (input : EndpointInput) (m : GeneratedMethod) : Prop where
  lines : ∃ rest, textLines m.text =
    [] :: ("impl " ++ m.typeName ++ "<'_> \x7b").toList :: (m.commentLines ++
      textLines ("    pub async fn " ++ m.name ++ "(") ++ rest)
  stands_iff : (∀ line ∈ m.commentLines, IsCommentLine line) ↔
    ContinuesComment (input.path ++ "`") ∧
    ContinuesComment
      (Naming.docsUrl scope.docsBaseUrl input.path (Endpoint.summary input) ++ ">")
  between : (∀ line ∈ m.commentLines, isSignatureLine line = false) →
    commentOf m.text = m.commentLines
  single : IsSingleLine input.path.toList → IsSingleLine scope.docsBaseUrl.toList →
    IsSingleLine (Endpoint.summary input).toList → ∀ line ∈ commentOf m.text, IsCommentLine line

theorem isSignatureLine_of_comment {line : List Char} (h : IsCommentLine line) :
    isSignatureLine line = false := by
  obtain ⟨rest, hrest⟩ := h
  rw [isSignatureLine, ← hrest]
  rfl

/-- The line that opens the signature ends the comment. -/
theorem commentOf_text {m : GeneratedMethod} (hname : IsSingleLine m.typeName.toList)
    (h : ∀ line ∈ m.commentLines, isSignatureLine line = false) :
    commentOf m.text = m.commentLines := by
  obtain ⟨rest, hlines⟩ := m.text_lines hname
  have hsignature : textLines ("    pub async fn " ++ m.name ++ "(") =
      (textLines (m.name ++ "(")).modifyHead ("    pub async fn ".toList ++ ·) := by
    rw [String.append_assoc]
    exact textLines_append (by decide) _
  have hcomment : ∀ line ∈ m.commentLines, (!isSignatureLine line) = true := fun line hline => by
    rw [h line hline]
    rfl
  rw [commentOf, hlines, hsignature]
  cases hfirst : textLines (m.name ++ "(") with
  | nil => exact absurd hfirst (List.splitOn_ne_nil _ _)
  | cons first others =>
    have hopens : isSignatureLine ("    pub async fn ".toList ++ first) = true := rfl
    rw [List.drop_succ_cons, List.drop_succ_cons, List.drop_zero, List.append_assoc,
      List.takeWhile_append_of_pos hcomment, List.modifyHead_cons, List.cons_append,
      List.takeWhile_cons_of_neg (by rw [hopens]; decide), List.append_nil]

theorem standsCommented {m : GeneratedMethod} {further : List String}
    (hname : IsSingleLine m.typeName.toList)
    (hcomment : m.comment = operationComment scope input ++ further)
    (hfurther : ∀ c ∈ further, IsSingleLine c.toList) : StandsCommented scope input m := by
  have hstands := m.forall_commentLines_iff
  rw [hcomment, continuesComment_iff hfurther] at hstands
  refine ⟨m.text_lines hname, hstands, commentOf_text hname, fun hpath hbase hsummary => ?_⟩
  have hall : ∀ line ∈ m.commentLines, IsCommentLine line := by
    refine hstands.mpr ⟨continuesComment_of_single ?_, continuesComment_of_single ?_⟩
    · simpa [IsSingleLine] using hpath
    · simpa [IsSingleLine] using docsUrl_single hbase hpath hsummary
  rwa [commentOf_text hname fun line hline => isSignatureLine_of_comment (hall line hline)]

end

/-- What the comment of a rendered method is made of, whatever texts the document has. -/
theorem render_comment {toolkit : Toolkit} {table : Api.ReferenceTable} {scope : Scope}
    {input : EndpointInput} {endpoint : Endpoint}
    (h : Endpoint.render toolkit table scope input = .ok endpoint)
    (hidents : ∀ rule ∈ toolkit.rules, ∀ p ∈ rule.replacements, IsSingleLine p.ident.toList)
    (hbuiltin : toolkit.registry.entries.lookup (Endpoint.naming toolkit.renames input).template ∈
      [some Builtin.endpoint, some Builtin.endpointBinary]) :
    ∃ curated, Api.curate table toolkit.rules (Endpoint.declared input) input.operation = .ok curated ∧
      ∃ m ∈ [GeneratedMethod.ofEndpoint scope input curated endpoint.entry.generatedName,
          GeneratedMethod.ofUpload scope input curated endpoint.entry.generatedName],
        endpoint.source = m.text ∧ StandsCommented scope input m := by
  obtain ⟨curated, hcurate, hrender, hentry⟩ := endpoint_render_ok h
  obtain ⟨resolved, hresolves⟩ := Api.Curation.curate_resolves hcurate
  have harranges := hresolves.arranges hcurate
  have hresolved : ∀ p ∈ resolved, IsSingleLine p.ident.toList :=
    hresolves.forall_mem hidents fun _ _ hp => by
      rw [Api.Curation.resolve_named hp]
      exact Naming.parameterName_single _
  have hselector : IsSingleLine "response_content_type".toList := by decide
  have hsingle : ∀ p ∈ curated.list, IsSingleLine p.ident.toList := fun p hp =>
    Api.Curation.forall_candidates hresolved (by decide) (fun _ => hselector) p
      (harranges.mem_iff.mp hp).mem
  have hname : IsSingleLine (Naming.typeName input.owner.displayName).toList :=
    Naming.typeName_single _
  obtain ⟨template, hlookup, hsource⟩ := Registry.render_ok hrender
  rw [hlookup] at hbuiltin
  simp only [List.mem_cons, List.not_mem_nil, or_false, Option.some.injEq] at hbuiltin
  rw [hentry]
  refine ⟨curated, hcurate, ?_⟩
  rcases hbuiltin with rfl | rfl
  · refine ⟨_, .head _, Option.some.inj (hsource.symm.trans endpoint_text),
      standsCommented hname rfl ?_⟩
    split_ifs
    · exact fun c hc => nomatch hc
    · exact argumentsComment_single hsingle
  · refine ⟨_, .tail _ (.head _), Option.some.inj (hsource.symm.trans endpointBinary_text),
      standsCommented hname (List.append_assoc ..) ?_⟩
    exact List.forall_mem_append.mpr ⟨argumentsComment_single hsingle, by decide⟩

def listScope : Scope :=
  ⟨"core", "1.0", "https://api.example", "https://docs.example", "apigen", "out", "rs"⟩

/-- An operation with texts of several lines, under a summary. -/
def listInput (summary : String) : EndpointInput :=
  ⟨⟨"api", "api", none⟩, "/items", .get,
    .object
      [("operationId", .string "listItems"), ("summary", .string summary),
       ("description", .string "First line\n\n*/ second line"),
       ("parameters", .array
         [.object
           [("name", .string "sort"), ("in", .string "query"),
            ("description", .string "By name\nor by date")]])],
    []⟩

theorem listInput_name (summary : String) :
    Naming.functionName (Endpoint.operationId (listInput summary)) = "list_items" := by
  have hname : Naming.functionName "listItems" = "list_items" := by decide +kernel
  exact hname

theorem render_comment_list :
    ∃ endpoint, Endpoint.render ⟨.builtin, .empty, .standard⟩ ⟨[]⟩ listScope (listInput "List items") =
        .ok endpoint ∧
      endpoint.template = Registry.endpointName ∧
      ∀ line ∈ commentOf endpoint.source, IsCommentLine line := by
  obtain ⟨curated, hcurate⟩ : ∃ curated, Api.curate ⟨[]⟩ .standard
      (Endpoint.declared (listInput "List items")) (listInput "List items").operation =
        .ok curated := ⟨_, rfl⟩
  obtain ⟨endpoint, hrender, htemplate⟩ : ∃ endpoint,
      Endpoint.render ⟨.builtin, .empty, .standard⟩ ⟨[]⟩ listScope (listInput "List items") =
        .ok endpoint ∧ endpoint.template = Registry.endpointName :=
    ⟨_, render_without_renames _ hcurate (listInput_name _), rfl⟩
  have hidents : ∀ rule ∈ Api.ConvenienceRules.standard, ∀ p ∈ rule.replacements,
      IsSingleLine p.ident.toList := by decide +kernel
  obtain ⟨_, _, _, _, hsource, hstands⟩ := render_comment hrender hidents (.head _)
  have hcomment := hstands.single (by decide +kernel) (by decide +kernel) (by decide +kernel)
  rw [← hsource] at hcomment
  exact ⟨endpoint, hrender, htemplate, hcomment⟩

/-- A summary of two lines leaves the comment behind the first. -/
theorem summary_leaves_comment :
    ∃ endpoint, Endpoint.render ⟨.builtin, .empty, .standard⟩ ⟨[]⟩ listScope
        (listInput "List\nitems") = .ok endpoint ∧
      endpoint.template = Registry.endpointName ∧ "items>".toList ∈ commentOf endpoint.source ∧
      ¬ ∀ line ∈ commentOf endpoint.source, IsCommentLine line := by
  obtain ⟨curated, hcurate, hmem, hplain⟩ : ∃ curated,
      Api.curate ⟨[]⟩ .standard (Endpoint.declared (listInput "List\nitems"))
        (listInput "List\nitems").operation = .ok curated ∧
      "items>".toList ∈ (GeneratedMethod.ofEndpoint listScope (listInput "List\nitems") curated
        "list_items").commentLines ∧
      ∀ line ∈ (GeneratedMethod.ofEndpoint listScope (listInput "List\nitems") curated
        "list_items").commentLines, isSignatureLine line = false :=
    ⟨_, rfl, by decide +kernel, by decide +kernel⟩
  have hname : IsSingleLine (Naming.typeName "api").toList := Naming.typeName_single "api"
  have hrender := render_without_renames listScope hcurate (listInput_name _)
  generalize hm : GeneratedMethod.ofEndpoint listScope (listInput "List\nitems") curated
    "list_items" = m at hmem hplain hrender
  have hcomment : commentOf m.text = m.commentLines := commentOf_text (hm ▸ hname) hplain
  rw [← hcomment] at hmem
  exact ⟨_, hrender, rfl, hmem, fun hall => absurd (hall _ hmem) (by decide)⟩

end ClientForge.Codegen
