import ClientForge.Template.Basic

/-!
The templates that are always there: `namespace` opens the file of a namespace, `endpoint` is one
generated method, and `endpoint_binary` is a method that uploads raw bytes.
-/

namespace ClientForge.Template.Builtin

def valueOf (name : String) : Node := .value ⟨.path name [], []⟩

def fieldOf (name field : String) : Node := .value ⟨.path name [field], []⟩

def given (name : String) (yes no : List Node) : Node :=
  .branch (.holds ⟨.path name [], []⟩) yes no

def givenField (name field : String) (yes no : List Node) : Node :=
  .branch (.holds ⟨.path name [field], []⟩) yes no

def forEach (name container : String) (body : List Node) : Node :=
  .each name ⟨.path container [], []⟩ body

/-- The parameter `p` travels in the given place. -/
def locatedIn (location : String) (yes no : List Node) : Node :=
  .branch (.equals ⟨.path "p" ["location"], []⟩ ⟨.text location, []⟩) yes no

/-! ## Pieces of a method -/

/-- The description and the facts of the operation, as comment lines. -/
def comment : List Node :=
  [.text "\nimpl ", valueOf "class_name", .text "<'_> \x7b",
   forEach "line" "description_lines"
     [.text "\n    ///", given "line" [.text " ", valueOf "line"] []],
   .text "\n    ///\n    /// Path: `", valueOf "path",
   .text "`\n    /// Method: ", valueOf "http_method",
   .text "\n    /// Status: ", valueOf "status",
   .text "\n    /// Docs: <", valueOf "docs_url", .text ">"]

/-- One comment line for each argument. -/
def argumentComments : List Node :=
  [.text "\n    ///\n    /// # Arguments",
   forEach "p" "params"
     [.text "\n    /// * `", fieldOf "p" "ident", .text "`",
      givenField "p" "description"
        [.text " - ", .value ⟨.path "p" ["description"], ["doc_line"]⟩] []]]

def signatureStart : List Node :=
  [.text "\n    pub async fn ", valueOf "fn_name", .text "(\n        &self,"]

def argument : List Node :=
  [.text "\n        ", fieldOf "p" "ident", .text ": ", .value ⟨.path "p" [], ["rust_type"]⟩,
   .text ","]

/-- The URL path, after the values that the client provides for it. -/
def urlPath : List Node :=
  [.text "\n    ) -> Result<Response, ClientError> \x7b",
   given "has_db_branch_name"
     [.text "\n        let db_branch_name = self.client.db_branch_name(db_name, branch_name)?;"] [],
   given "has_workspace_id"
     [.text "\n        let workspace_id = self.client.workspace_id(workspace_id)?;"] [],
   given "url_has_placeholders"
     [.text "\n        let path = format!(\"", valueOf "url_path", .text "\");"]
     [.text "\n        let path = \"", valueOf "url_path", .text "\";"]]

/-- A statement on the options, put under `if let Some` where the argument is optional. -/
def whenPassed (statement : List Node) : Node :=
  givenField "p" "required"
    (.text "\n        " :: statement)
    ([.text "\n        if let Some(", fieldOf "p" "ident", .text ") = ", fieldOf "p" "ident",
      .text " \x7b\n            "] ++ statement ++ [.text "\n        \x7d"])

def argumentValue : Node := .value ⟨.path "p" [], ["query_value"]⟩

def queryStatement : List Node :=
  [.text "options = options.query(\"", fieldOf "p" "name", .text "\", ", argumentValue, .text ");"]

def headerStatement : List Node :=
  [.text "options = options.header(\"", fieldOf "p" "name", .text "\", ", argumentValue, .text ");"]

def cookieStatement : List Node :=
  [.text "options = options.header(\"Cookie\", format!(\"", fieldOf "p" "name",
   .text "=\x7b\x7d\", ", argumentValue, .text "));"]

/-- The statement for the parameter `p`; `body` names the option that takes the request body. -/
def optionStatement (body : String) : Node :=
  locatedIn "query" [whenPassed queryStatement]
    [locatedIn "header" [whenPassed headerStatement]
      [locatedIn "cookie" [whenPassed cookieStatement]
        [locatedIn "requestBody"
          [.text ("\n        options = options." ++ body ++ "("), fieldOf "p" "ident", .text ");"]
          [locatedIn "responseBody"
            [.text "\n        options = options.header(\"Accept\", ", fieldOf "p" "ident",
             .text ".unwrap_or(\"", valueOf "default_content_type", .text "\"));"]
            []]]]]

def send : List Node :=
  [.text "\n        self.client\n            .request(Method::", valueOf "http_method",
   .text ", Self::BASE_URL, &path, options)\n            .await\n    \x7d\n\x7d\n"]

/-! ## The templates -/

def endpoint : Template :=
  comment ++
  [.branch (.exceeds ⟨.path "params" [], ["length"]⟩ ⟨.integer 0, []⟩) argumentComments []] ++
  signatureStart ++ [forEach "p" "params" argument] ++ urlPath ++
  [given "has_request_options"
    [.text "\n        let mut options = RequestOptions::new();",
     forEach "p" "params" [optionStatement "json"]]
    [.text "\n        let options = RequestOptions::new();"]] ++
  send

def endpointBinary : Template :=
  comment ++ argumentComments ++
  [.text "\n    /// * `content_type` - Content type of the upload. Default: application/octet-stream"] ++
  signatureStart ++
  [forEach "p" "params"
    [locatedIn "requestBody" [.text "\n        ", fieldOf "p" "ident", .text ": Vec<u8>,"] argument],
   .text "\n        content_type: Option<&str>,"] ++
  urlPath ++
  [.text "\n        let mut options = RequestOptions::new().header(\n            \"Content-Type\",\n",
   .text "            content_type.unwrap_or(\"application/octet-stream\"),\n        );",
   forEach "p" "params" [optionStatement "body"]] ++
  send

def namespaceHeader : Template :=
  [forEach "line" "description_lines"
    [.text "//!", given "line" [.text " ", valueOf "line"] [], .text "\n"],
   .text "//!\n//! Generated by apigen ", valueOf "version", .text " from the `", valueOf "scope",
   .text "` specification\n//! (", valueOf "spec_version",
   .text "). Do not edit by hand.\n\nuse reqwest::\x7bMethod, Response\x7d;\n\nuse ",
   valueOf "runtime_path",
   .text "::\x7bApiClient, ClientError, Namespace, RequestOptions\x7d;\n\n/// ",
   valueOf "display_name", .text "\npub struct ", valueOf "class_name",
   .text "<'a> \x7b\n    client: &'a ApiClient,\n\x7d\n\nimpl<'a> ", valueOf "class_name",
   .text "<'a> \x7b\n    pub fn new(client: &'a ApiClient) -> Self \x7b\n",
   .text "        Self \x7b client \x7d\n    \x7d\n\x7d\n\nimpl Namespace for ", valueOf "class_name",
   .text "<'_> \x7b\n    const SCOPE: &'static str = \"", valueOf "scope",
   .text "\";\n    const BASE_URL: &'static str = \"", valueOf "base_url", .text "\";\n\x7d\n"]

end ClientForge.Template.Builtin
