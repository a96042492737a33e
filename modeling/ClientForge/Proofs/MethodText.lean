import ClientForge.Proofs.Signature

/-!
The whole text of a generated method. A `GeneratedMethod` says what a method consists of: its
comment, its arguments, the URL path, and the statements that set the options of the request. It is
written out without conditions on the parameters, and the built-in endpoint templates render to what
it writes.

Results:
1. `renderNodes_optionStatement`: a parameter becomes the statement for its place, or none.
2. `endpoint_text`, `endpointBinary_text`: what the two templates render to, whatever the context.
3. `endpoint_signature`, `endpointBinary_signature`: the arguments of a method are `arguments` and
   `uploadArguments`.
4. `render_without_renames`: what is rendered by default, whenever curation succeeds.
-/

namespace ClientForge.Codegen

open Template

/-! ## Definitions -/

/-- What a statement sets on the options of a request. -/
inductive Setting where
  | query (name value : String)
  | header (name value : String)
  | cookie (name value : String)
  /-- The request body, by the option `taker`. -/
  | body (taker argument : String)
  /-- The response content type of the caller's choice. -/
  | accept (argument default : String)
deriving DecidableEq, Repr

namespace Setting

/-- Where the parameter travels that is set. -/
def location : Setting → Api.Location
  | query .. => .query
  | header .. => .header
  | cookie .. => .cookie
  | body .. => .requestBody
  | accept .. => .responseBody

def parts : Setting → List String
  | query name value => ["options = options.query(\"", name, "\", ", value, ");"]
  | header name value => ["options = options.header(\"", name, "\", ", value, ");"]
  | cookie name value =>
    ["options = options.header(\"Cookie\", format!(\"", name, "=\x7b\x7d\", ", value, "));"]
  | body taker argument => ["options = options.", taker, "(", argument, ");"]
  | accept argument default =>
    ["options = options.header(\"Accept\", ", argument, ".unwrap_or(\"", default, "\"));"]

def text (s : Setting) : String := String.join s.parts

end Setting

/-- A statement on the options. -/
structure Statement where
  setting : Setting
  /-- The argument that the caller must have passed. -/
  guard : Option String
deriving DecidableEq, Repr

namespace Statement

def parts (s : Statement) : List String :=
  match s.guard with
  | none => ["\n        ", s.setting.text]
  | some ident =>
    ["\n        if let Some(", ident, ") = ", ident, " \x7b\n            ", s.setting.text,
     "\n        \x7d"]

def text (s : Statement) : String := String.join s.parts

end Statement

/-- The arguments that the client's own values are asked with. -/
def convenienceArguments : Api.ConvenienceKind → List String
  | .dbBranchName => ["db_name", "branch_name"]
  | .workspaceId => ["workspace_id"]

def convenienceText (kind : Api.ConvenienceKind) : String :=
  String.join
    ["\n        let ", kind.text, " = self.client.", kind.text, "(",
     ", ".intercalate (convenienceArguments kind), ")?;"]

/-- A generated method, part by part. -/
structure GeneratedMethod where
  typeName : String
  /-- The comment lines, each without its slashes. -/
  comment : List String
  name : String
  arguments : List Argument
  /-- The values that the client provides for the URL path. -/
  conveniences : List Api.ConvenienceKind
  /-- Expression for the URL path. -/
  url : String
  /-- The options are changed once they are created. -/
  isMutable : Bool
  /-- Expression for the options to begin with. -/
  options : String
  statements : List Statement
  verb : String

namespace GeneratedMethod

def commentLine (content : String) : String := "\n    ///" ++ content

def commentText (m : GeneratedMethod) : String :=
  String.join ["\nimpl ", m.typeName, "<'_> \x7b", String.join (m.comment.map commentLine)]

def signatureText (m : GeneratedMethod) : String :=
  String.join ["\n    pub async fn ", m.name, "(\n        &self,",
    String.join (m.arguments.map argumentLine), "\n    ) -> Result<Response, ClientError> \x7b"]

def pathText (m : GeneratedMethod) : String :=
  String.join
    [String.join (m.conveniences.map convenienceText), "\n        let path = ", m.url, ";"]

def optionsText (m : GeneratedMethod) : String :=
  String.join
    ["\n        let ", if m.isMutable then "mut " else "", "options = ", m.options, ";",
     String.join (m.statements.map Statement.text)]

def requestText (m : GeneratedMethod) : String :=
  String.join
    ["\n        self.client\n            .request(Method::", m.verb,
     ", Self::BASE_URL, &path, options)\n            .await\n    \x7d\n\x7d\n"]

def text (m : GeneratedMethod) : String :=
  m.commentText ++ m.signatureText ++ m.pathText ++ m.optionsText ++ m.requestText

end GeneratedMethod

/-! ### The method of an operation -/

def descriptionComment (line : String) : String := if line.isEmpty then "" else " " ++ line

/-- What is said of the operation. -/
def operationComment (scope : Scope) (input : EndpointInput) : List String :=
  (Text.docLines (Endpoint.description input)).map descriptionComment ++
  ["", " Path: `" ++ input.path ++ "`", " Method: " ++ input.method.verb,
   " Status: " ++ (Endpoint.status input).text,
   " Docs: <" ++ Naming.docsUrl scope.docsBaseUrl input.path (Endpoint.summary input) ++ ">"]

def argumentComment (p : Api.Parameter) : String :=
  " * `" ++ p.ident ++ "`" ++
    if p.description.isEmpty then "" else " - " ++ Text.docLine p.description

def argumentsComment (curated : Api.Curated) : List String :=
  "" :: " # Arguments" :: curated.list.map argumentComment

/-- The client's own values that a method needs, in the order in which it asks for them. -/
def conveniencesOf (curated : Api.Curated) : List Api.ConvenienceKind :=
  [.dbBranchName, .workspaceId].filter curated.conveniences.contains

def urlExpression (curated : Api.Curated) (path : String) : String :=
  let url := UrlPath.withArguments curated.list path
  if UrlPath.hasPlaceholders url then "format!(\"" ++ url ++ "\")" else "\"" ++ url ++ "\""

/-- An optional argument is only set if the caller passes it. -/
def guardOf (p : Api.Parameter) : Option String := if p.required then none else some p.ident

/-- The statement that sets the parameter; a path parameter needs none. -/
def statementOf? (taker default : String) (p : Api.Parameter) : Option Statement :=
  match p.location with
  | .path => none
  | .query => some ⟨.query p.name (argumentText p.type p.ident), guardOf p⟩
  | .header => some ⟨.header p.name (argumentText p.type p.ident), guardOf p⟩
  | .cookie => some ⟨.cookie p.name (argumentText p.type p.ident), guardOf p⟩
  | .requestBody => some ⟨.body taker p.ident, none⟩
  | .responseBody => some ⟨.accept p.ident default, none⟩

namespace GeneratedMethod

variable (scope : Scope) (input : EndpointInput) (curated : Api.Curated) (name : String)

/-- The method that the template `endpoint` writes. -/
def ofEndpoint : GeneratedMethod where
  typeName := Naming.typeName input.owner.displayName
  comment := operationComment scope input ++
    if curated.list.isEmpty then [] else argumentsComment curated
  name
  arguments := Codegen.arguments curated
  conveniences := conveniencesOf curated
  url := urlExpression curated input.path
  isMutable := curated.hasLocation (· != .path)
  options := "RequestOptions::new()"
  statements := curated.list.filterMap (statementOf? "json" (Endpoint.defaultContentType curated))
  verb := input.method.verb

/-- The method that the template `endpoint_binary` writes. -/
def ofUpload : GeneratedMethod :=
  { ofEndpoint scope input curated name with
    comment := operationComment scope input ++ argumentsComment curated ++
      [" * `content_type` - Content type of the upload. Default: application/octet-stream"]
    arguments := uploadArguments curated
    isMutable := true
    options := "RequestOptions::new().header(\n            \"Content-Type\",\n            " ++
      "content_type.unwrap_or(\"application/octet-stream\"),\n        )"
    statements := curated.list.filterMap (statementOf? "body" (Endpoint.defaultContentType curated)) }

end GeneratedMethod

/-! ## The comment -/

theorem some_text {a b : String} (h : a.toList = b.toList) : some a = some b :=
  congrArg some (String.toList_injective h)

section

variable {scope : Codegen.Scope} {input : EndpointInput} {curated : Api.Curated} {name : String}

/-- The body of the loop over the lines of the description. -/
def descriptionLine : List Node :=
  [.text "\n    ///", Builtin.given "line" [.text " ", Builtin.valueOf "line"] []]

theorem renderNodes_descriptionLine (context : Json) (line : String) (index count : Nat) :
    renderNodes ⟨[⟨"line", .string line, index, count⟩], context⟩ descriptionLine =
      some (GeneratedMethod.commentLine (descriptionComment line)) := by
  have hholds : (Condition.holds ⟨.path "line" [], []⟩).eval
      ⟨[⟨"line", .string line, index, count⟩], context⟩ = some (!line.isEmpty) := rfl
  have hline : (Builtin.given "line" [.text " ", Builtin.valueOf "line"] []).render
      ⟨[⟨"line", .string line, index, count⟩], context⟩ = some (descriptionComment line) := by
    rw [Builtin.given, Node.render, hholds, descriptionComment]
    cases line.isEmpty
    · have htexts : renderNodes ⟨[⟨"line", .string line, index, count⟩], context⟩
          [.text " ", Builtin.valueOf "line"] = some (String.join [" ", line]) :=
        renderNodes_join (.cons rfl (.cons rfl .nil))
      exact htexts
    · rfl
  exact renderNodes_cons.mpr ⟨_, _, rfl, (renderNodes_singleton _).trans hline, rfl⟩

theorem renderNodes_comment :
    renderNodes ⟨[], Endpoint.context scope input curated name⟩ Builtin.comment =
      some ("\nimpl " ++ Naming.typeName input.owner.displayName ++ "<'_> \x7b" ++
        String.join ((operationComment scope input).map GeneratedMethod.commentLine)) := by
  have hlines : (Builtin.forEach "line" "description_lines" descriptionLine).render
        ⟨[], Endpoint.context scope input curated name⟩ =
      some (String.join ((Text.docLines (Endpoint.description input)).map fun line =>
        GeneratedMethod.commentLine (descriptionComment line))) :=
    render_forEach rfl (renderNodes_descriptionLine _)
  refine (renderNodes_join (.cons rfl (.cons rfl (.cons rfl (.cons hlines (.cons rfl (.cons rfl
    (.cons rfl (.cons rfl (.cons rfl (.cons rfl (.cons rfl (.cons rfl
    (.cons rfl .nil)))))))))))))).trans ?_
  refine some_text ?_
  simp [display, operationComment, GeneratedMethod.commentLine, Function.comp_def]

end

/-! ## One parameter -/

section

variable {context : Json} {p : Api.Parameter} {index count : Nat}

/-- The body of the loop over the parameters in the comment. -/
def argumentCommentLine : List Node :=
  [.text "\n    /// * `", Builtin.fieldOf "p" "ident", .text "`",
   Builtin.givenField "p" "description"
     [.text " - ", .value ⟨.path "p" ["description"], ["doc_line"]⟩] []]

theorem renderNodes_argumentCommentLine :
    renderNodes (parameterScope context p index count) argumentCommentLine =
      some (GeneratedMethod.commentLine (argumentComment p)) := by
  have hdescription : (Builtin.givenField "p" "description"
      [.text " - ", .value ⟨.path "p" ["description"], ["doc_line"]⟩] []).render
        (parameterScope context p index count) =
      some (if p.description.isEmpty then "" else " - " ++ Text.docLine p.description) := by
    have hholds : (Condition.holds ⟨.path "p" ["description"], []⟩).eval
        (parameterScope context p index count) = some (!p.description.isEmpty) := rfl
    rw [Builtin.givenField, Node.render, hholds]
    cases p.description.isEmpty
    · have htexts : renderNodes (parameterScope context p index count)
          [.text " - ", .value ⟨.path "p" ["description"], ["doc_line"]⟩] =
            some (String.join [" - ", Text.docLine p.description]) :=
        renderNodes_join (.cons rfl (.cons rfl .nil))
      exact htexts
    · rfl
  refine (renderNodes_join (.cons rfl (.cons rfl (.cons rfl (.cons hdescription .nil))))).trans ?_
  refine some_text ?_
  simp [display, argumentComment, GeneratedMethod.commentLine]

/-- A statement on the options, put under its guard. -/
theorem render_whenPassed {nodes : List Node} {setting : Setting}
    (h : renderNodes (parameterScope context p index count) nodes = some setting.text) :
    (Builtin.whenPassed nodes).render (parameterScope context p index count) =
      some (Statement.text ⟨setting, guardOf p⟩) := by
  have hholds : (Condition.holds ⟨.path "p" ["required"], []⟩).eval
      (parameterScope context p index count) = some p.required := rfl
  rw [Builtin.whenPassed, Builtin.givenField, Node.render, hholds, guardOf]
  cases p.required
  · have hguard : renderNodes (parameterScope context p index count)
        [.text "\n        if let Some(", Builtin.fieldOf "p" "ident", .text ") = ",
         Builtin.fieldOf "p" "ident", .text " \x7b\n            "] =
        some (String.join ["\n        if let Some(", p.ident, ") = ", p.ident, " \x7b\n            "]) :=
      renderNodes_join (.cons rfl (.cons rfl (.cons rfl (.cons rfl (.cons rfl .nil)))))
    refine (renderNodes_both (renderNodes_both hguard h) rfl).trans ?_
    refine some_text ?_
    simp [Statement.text, Statement.parts]
  · have hindented : renderNodes (parameterScope context p index count)
        (.text "\n        " :: nodes) = some ("\n        " ++ setting.text) :=
      renderNodes_cons.mpr ⟨_, _, rfl, h, rfl⟩
    refine hindented.trans (some_text ?_)
    simp [Statement.text, Statement.parts]

theorem renderNodes_queryStatement :
    renderNodes (parameterScope context p index count) Builtin.queryStatement =
      some (Setting.query p.name (argumentText p.type p.ident)).text :=
  renderNodes_join (.cons rfl (.cons rfl (.cons rfl (.cons rfl (.cons rfl .nil)))))

theorem renderNodes_headerStatement :
    renderNodes (parameterScope context p index count) Builtin.headerStatement =
      some (Setting.header p.name (argumentText p.type p.ident)).text :=
  renderNodes_join (.cons rfl (.cons rfl (.cons rfl (.cons rfl (.cons rfl .nil)))))

theorem renderNodes_cookieStatement :
    renderNodes (parameterScope context p index count) Builtin.cookieStatement =
      some (Setting.cookie p.name (argumentText p.type p.ident)).text :=
  renderNodes_join (.cons rfl (.cons rfl (.cons rfl (.cons rfl (.cons rfl .nil)))))

theorem renderNodes_bodyStatement (taker : String) :
    renderNodes (parameterScope context p index count)
      [.text ("\n        options = options." ++ taker ++ "("), Builtin.fieldOf "p" "ident",
       .text ");"] = some (Statement.text ⟨.body taker p.ident, none⟩) := by
  refine (renderNodes_join (.cons rfl (.cons rfl (.cons rfl .nil)))).trans ?_
  refine some_text ?_
  simp [display, Statement.text, Statement.parts, Setting.text, Setting.parts]

theorem renderNodes_acceptStatement {default : String}
    (hdefault : context.get? "default_content_type" = some (.string default)) :
    renderNodes (parameterScope context p index count)
      [.text "\n        options = options.header(\"Accept\", ", Builtin.fieldOf "p" "ident",
       .text ".unwrap_or(\"", Builtin.valueOf "default_content_type", .text "\"));"] =
      some (Statement.text ⟨.accept p.ident default, none⟩) := by
  have hvalue : (Builtin.valueOf "default_content_type").render
      (parameterScope context p index count) = some default := by
    simp [Builtin.valueOf, parameterScope, Node.render, Expression.eval, Operand.eval, Scope.find?,
      LoopFrame.find?, descend, applyFilters, hdefault, display]
  refine (renderNodes_join (.cons rfl (.cons rfl (.cons rfl (.cons hvalue (.cons rfl .nil)))))).trans ?_
  refine some_text ?_
  simp [display, Statement.text, Statement.parts, Setting.text, Setting.parts]

/-- The text of the statement that the parameter needs, if any. -/
def statementText (taker default : String) (p : Api.Parameter) : String :=
  ((statementOf? taker default p).map Statement.text).getD ""

theorem renderNodes_optionStatement {default : String} (taker : String)
    (hdefault : context.get? "default_content_type" = some (.string default)) :
    renderNodes (parameterScope context p index count) [Builtin.optionStatement taker] =
      some (statementText taker default p) := by
  simp only [Builtin.optionStatement, renderNodes_singleton, render_locatedIn "query" .query rfl,
    render_locatedIn "header" .header rfl, render_locatedIn "cookie" .cookie rfl,
    render_locatedIn "requestBody" .requestBody rfl,
    render_locatedIn "responseBody" .responseBody rfl,
    render_whenPassed renderNodes_queryStatement, render_whenPassed renderNodes_headerStatement,
    render_whenPassed renderNodes_cookieStatement, renderNodes_bodyStatement,
    renderNodes_acceptStatement hdefault, statementText, statementOf?]
  cases p.location <;> rfl

theorem join_filterMap {α : Type} (f : α → Option Statement) (as : List α) :
    String.join (as.map fun a => ((f a).map Statement.text).getD "") =
      String.join ((as.filterMap f).map Statement.text) := by
  induction as with
  | nil => rfl
  | cons a as ih =>
    rw [List.map_cons, String.join_cons, ih, List.filterMap_cons]
    cases f a with
    | none => exact String.empty_append
    | some statement =>
      rw [List.map_cons, String.join_cons]
      rfl

end

/-! ## Methods -/

section

variable {scope : Codegen.Scope} {input : EndpointInput} {curated : Api.Curated} {name : String}

theorem renderNodes_argumentComments :
    renderNodes ⟨[], Endpoint.context scope input curated name⟩ Builtin.argumentComments =
      some (String.join ((argumentsComment curated).map GeneratedMethod.commentLine)) := by
  have hlines : (Builtin.forEach "p" "params" argumentCommentLine).render
        ⟨[], Endpoint.context scope input curated name⟩ =
      some (String.join (curated.list.map fun p =>
        GeneratedMethod.commentLine (argumentComment p))) :=
    render_forEach rfl fun _ _ _ => renderNodes_argumentCommentLine
  refine (renderNodes_join (.cons rfl (.cons hlines .nil))).trans ?_
  refine some_text ?_
  simp [argumentsComment, GeneratedMethod.commentLine, Function.comp_def]

theorem render_convenience {kind : Api.ConvenienceKind} {field : String}
    (hfield : (Endpoint.context scope input curated name).get? field =
      some (.bool (curated.conveniences.contains kind))) :
    (Builtin.given field [.text (convenienceText kind)] []).render
        ⟨[], Endpoint.context scope input curated name⟩ =
      some (if curated.conveniences.contains kind then convenienceText kind else "") := by
  rw [render_given hfield]
  cases curated.conveniences.contains kind
  · rfl
  · exact renderNodes_singleton _

theorem render_url :
    (Builtin.given "url_has_placeholders"
        [.text "\n        let path = format!(\"", Builtin.valueOf "url_path", .text "\");"]
        [.text "\n        let path = \"", Builtin.valueOf "url_path", .text "\";"]).render
        ⟨[], Endpoint.context scope input curated name⟩ =
      some ("\n        let path = " ++ urlExpression curated input.path ++ ";") := by
  rw [render_given rfl, urlExpression]
  cases UrlPath.hasPlaceholders (UrlPath.withArguments curated.list input.path)
  · refine (renderNodes_join (.cons rfl (.cons rfl (.cons rfl .nil)))).trans ?_
    refine some_text ?_
    simp [display]
  · refine (renderNodes_join (.cons rfl (.cons rfl (.cons rfl .nil)))).trans ?_
    refine some_text ?_
    simp [display]

theorem join_conveniencesOf (curated : Api.Curated) :
    String.join ((conveniencesOf curated).map convenienceText) =
      (if curated.conveniences.contains .dbBranchName then convenienceText .dbBranchName else "") ++
        if curated.conveniences.contains .workspaceId then convenienceText .workspaceId else "" := by
  simp only [conveniencesOf, List.filter_cons, List.filter_nil]
  cases curated.conveniences.contains .dbBranchName <;>
    cases curated.conveniences.contains .workspaceId <;> simp [String.join_cons]

theorem renderNodes_urlPath :
    renderNodes ⟨[], Endpoint.context scope input curated name⟩ Builtin.urlPath =
      some ("\n    ) -> Result<Response, ClientError> \x7b" ++
        (String.join ((conveniencesOf curated).map convenienceText) ++
          "\n        let path = " ++ urlExpression curated input.path ++ ";")) := by
  have hdb : (Builtin.given "has_db_branch_name" [.text (convenienceText .dbBranchName)] []).render
      ⟨[], Endpoint.context scope input curated name⟩ = _ := render_convenience rfl
  have hworkspace : (Builtin.given "has_workspace_id" [.text (convenienceText .workspaceId)] []).render
      ⟨[], Endpoint.context scope input curated name⟩ = _ := render_convenience rfl
  refine (renderNodes_join
    (.cons rfl (.cons hdb (.cons hworkspace (.cons render_url .nil))))).trans ?_
  rw [join_conveniencesOf]
  refine some_text ?_
  simp

theorem statements_of_paths {taker default : String} (curated : Api.Curated)
    (h : curated.hasLocation (· != .path) = false) :
    curated.list.filterMap (statementOf? taker default) = [] := by
  rw [List.filterMap_eq_nil_iff]
  intro p hp
  have hpath : p.location = .path := by
    simpa using List.any_eq_false.mp h p hp
  rw [statementOf?, hpath]

theorem render_statements (taker : String) :
    (Builtin.forEach "p" "params" [Builtin.optionStatement taker]).render
        ⟨[], Endpoint.context scope input curated name⟩ =
      some (String.join ((curated.list.filterMap
        (statementOf? taker (Endpoint.defaultContentType curated))).map Statement.text)) := by
  have hdefault : (Endpoint.context scope input curated name).get? "default_content_type" =
      some (.string (Endpoint.defaultContentType curated)) := rfl
  have hparameters : (Endpoint.context scope input curated name).get? "params" =
      some (.array (curated.list.map Endpoint.parameterContext)) := rfl
  rw [← join_filterMap]
  exact render_forEach hparameters fun _ _ _ => renderNodes_optionStatement taker hdefault

/-- Without options to set, there are none of the parameters to go through. -/
theorem render_options :
    (Builtin.given "has_request_options"
        [.text "\n        let mut options = RequestOptions::new();",
         Builtin.forEach "p" "params" [Builtin.optionStatement "json"]]
        [.text "\n        let options = RequestOptions::new();"]).render
        ⟨[], Endpoint.context scope input curated name⟩ =
      some (GeneratedMethod.ofEndpoint scope input curated name).optionsText := by
  have hgiven : (Endpoint.context scope input curated name).get? "has_request_options" =
      some (.bool (curated.hasLocation (· != .path))) := rfl
  rw [render_given hgiven, GeneratedMethod.optionsText]
  cases h : curated.hasLocation (· != .path)
  · refine (renderNodes_singleton _).trans (some_text ?_)
    simp [GeneratedMethod.ofEndpoint, h, statements_of_paths curated h]
  · refine (renderNodes_join (.cons rfl (.cons (render_statements "json") .nil))).trans ?_
    refine some_text ?_
    simp [GeneratedMethod.ofEndpoint, h]

theorem renderNodes_send :
    renderNodes ⟨[], Endpoint.context scope input curated name⟩ Builtin.send =
      some ("\n        self.client\n            .request(Method::" ++ input.method.verb ++
        ", Self::BASE_URL, &path, options)\n            .await\n    \x7d\n\x7d\n") := by
  refine (renderNodes_join (.cons rfl (.cons rfl (.cons rfl .nil)))).trans ?_
  refine some_text ?_
  simp [display]

theorem render_argumentsGiven :
    (Node.branch (.exceeds ⟨.path "params" [], ["length"]⟩ ⟨.integer 0, []⟩)
        Builtin.argumentComments []).render ⟨[], Endpoint.context scope input curated name⟩ =
      some (String.join ((if curated.list.isEmpty then [] else argumentsComment curated).map
        GeneratedMethod.commentLine)) := by
  have hcondition : (Condition.exceeds ⟨.path "params" [], ["length"]⟩ ⟨.integer 0, []⟩).eval
      ⟨[], Endpoint.context scope input curated name⟩ = some (!curated.list.isEmpty) := by
    have hlength : (Condition.exceeds ⟨.path "params" [], ["length"]⟩ ⟨.integer 0, []⟩).eval
      ⟨[], Endpoint.context scope input curated name⟩ =
        some (decide ((0 : Int) < (curated.list.map Endpoint.parameterContext).length)) := rfl
    rw [hlength, List.length_map]
    cases curated.list <;> simp
  rw [Node.render, hcondition]
  cases curated.list.isEmpty
  · exact renderNodes_argumentComments
  · rfl

theorem renderNodes_signature {lines : List Node} {arguments : List Argument}
    (hlines : renderNodes ⟨[], Endpoint.context scope input curated name⟩ lines =
      some (String.join (arguments.map argumentLine))) :
    renderNodes ⟨[], Endpoint.context scope input curated name⟩
        (Builtin.signatureStart ++ lines ++ Builtin.urlPath) =
      some ("\n    pub async fn " ++ name ++ "(\n        &self," ++
        String.join (arguments.map argumentLine) ++
        "\n    ) -> Result<Response, ClientError> \x7b" ++
        (String.join ((conveniencesOf curated).map convenienceText) ++
          "\n        let path = " ++ urlExpression curated input.path ++ ";")) := by
  have hopening : renderNodes ⟨[], Endpoint.context scope input curated name⟩
      Builtin.signatureStart = some (String.join ["\n    pub async fn ", name, "(\n        &self,"]) :=
    renderNodes_join (.cons rfl (.cons rfl (.cons rfl .nil)))
  refine (renderNodes_both (renderNodes_both hopening hlines) renderNodes_urlPath).trans
    (congrArg some ?_)
  simp only [String.join_cons, String.join_nil, String.append_empty, String.append_assoc]

theorem endpoint_text :
    Builtin.endpoint.render (Endpoint.context scope input curated name) =
      some (GeneratedMethod.ofEndpoint scope input curated name).text := by
  have harguments : renderNodes ⟨[], Endpoint.context scope input curated name⟩
      [Builtin.forEach "p" "params" Builtin.argument] =
        some (String.join ((arguments curated).map argumentLine)) := by
    rw [renderNodes_singleton, arguments, List.map_map]
    exact render_forEach rfl fun _ _ _ => renderNodes_argument
  have hnodes := renderNodes_both (renderNodes_both (renderNodes_both (renderNodes_both
    renderNodes_comment ((renderNodes_singleton _).trans render_argumentsGiven))
    (renderNodes_signature harguments)) ((renderNodes_singleton _).trans render_options))
    renderNodes_send
  refine hnodes.trans (some_text ?_)
  simp [GeneratedMethod.text, GeneratedMethod.commentText, GeneratedMethod.signatureText,
    GeneratedMethod.pathText, GeneratedMethod.requestText, GeneratedMethod.ofEndpoint]

/-- An upload has options to set whatever its parameters are. -/
theorem renderNodes_uploadOptions :
    renderNodes ⟨[], Endpoint.context scope input curated name⟩
        [.text "\n        let mut options = RequestOptions::new().header(\n            \"Content-Type\",\n",
         .text "            content_type.unwrap_or(\"application/octet-stream\"),\n        );",
         Builtin.forEach "p" "params" [Builtin.optionStatement "body"]] =
      some (GeneratedMethod.ofUpload scope input curated name).optionsText := by
  refine (renderNodes_join (.cons rfl (.cons rfl (.cons (render_statements "body") .nil)))).trans ?_
  refine some_text ?_
  simp [GeneratedMethod.optionsText, GeneratedMethod.ofUpload]

theorem endpointBinary_text :
    Builtin.endpointBinary.render (Endpoint.context scope input curated name) =
      some (GeneratedMethod.ofUpload scope input curated name).text := by
  have harguments : renderNodes ⟨[], Endpoint.context scope input curated name⟩
      [Builtin.forEach "p" "params" uploadArgument, .text "\n        content_type: Option<&str>,"] =
        some (String.join ((uploadArguments curated).map argumentLine)) := by
    have hloop : (Builtin.forEach "p" "params" uploadArgument).render
        ⟨[], Endpoint.context scope input curated name⟩ =
          some (String.join (curated.list.map fun p => argumentLine (uploadArgumentOf p))) :=
      render_forEach rfl fun _ _ _ => renderNodes_uploadArgument
    refine (renderNodes_join (.cons hloop (.cons rfl .nil))).trans (some_text ?_)
    simp [uploadArguments, argumentLine, Function.comp_def]
  have hcomment : renderNodes ⟨[], Endpoint.context scope input curated name⟩
      [.text "\n    /// * `content_type` - Content type of the upload. Default: application/octet-stream"] =
        some (GeneratedMethod.commentLine
          " * `content_type` - Content type of the upload. Default: application/octet-stream") := rfl
  have hnodes := renderNodes_both (renderNodes_both (renderNodes_both (renderNodes_both
    (renderNodes_both renderNodes_comment renderNodes_argumentComments) hcomment)
    (renderNodes_signature harguments)) renderNodes_uploadOptions) renderNodes_send
  refine hnodes.trans (some_text ?_)
  simp [GeneratedMethod.text, GeneratedMethod.commentText, GeneratedMethod.signatureText,
    GeneratedMethod.pathText, GeneratedMethod.requestText, GeneratedMethod.ofUpload,
    GeneratedMethod.ofEndpoint]

theorem GeneratedMethod.declares (m : GeneratedMethod) :
    DeclaresMethod m.text m.name m.arguments := by
  refine ⟨m.commentText, m.pathText ++ m.optionsText ++ m.requestText, ?_⟩
  refine String.toList_injective ?_
  simp [GeneratedMethod.text, GeneratedMethod.signatureText]

theorem endpoint_signature {s : String}
    (h : Builtin.endpoint.render (Endpoint.context scope input curated name) = some s) :
    DeclaresMethod s name (arguments curated) := by
  rw [endpoint_text] at h
  cases h
  exact (GeneratedMethod.ofEndpoint scope input curated name).declares

theorem endpointBinary_signature {s : String}
    (h : Builtin.endpointBinary.render (Endpoint.context scope input curated name) = some s) :
    DeclaresMethod s name (uploadArguments curated) := by
  rw [endpointBinary_text] at h
  cases h
  exact (GeneratedMethod.ofUpload scope input curated name).declares

end

/-- Without renames methods are rendered by the template `endpoint`, whenever curation succeeds. -/
theorem render_without_renames {rules : Api.ConvenienceRules} {table : Api.ReferenceTable}
    (scope : Scope) {input : EndpointInput} {curated : Api.Curated} {name : String}
    (hcurate : Api.curate table rules (Endpoint.declared input) input.operation = .ok curated)
    (hname : Naming.functionName (Endpoint.operationId input) = name) :
    Endpoint.render ⟨.builtin, .empty, rules⟩ table scope input =
      .ok ⟨Registry.endpointName, (GeneratedMethod.ofEndpoint scope input curated name).text,
        Endpoint.record input curated name⟩ := by
  have hnaming : Endpoint.naming .empty input = ⟨name, Registry.endpointName⟩ := by
    rw [← hname]
    rfl
  have hlookup : Registry.builtin.entries.lookup Registry.endpointName = some Builtin.endpoint := rfl
  simp only [Endpoint.render, hcurate, hnaming, Registry.render, hlookup, Option.bind_some,
    endpoint_text, bind, Except.bind, pure, Except.pure]

end ClientForge.Codegen
