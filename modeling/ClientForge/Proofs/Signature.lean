import ClientForge.Proofs.Rendering

/-!
The signatures of generated methods: what the built-in endpoint templates write for each curated
parameter between the name of a method and its body. The template for uploads takes the request body
as bytes and adds an argument of its own.

Results:
1. `render_locatedIn`: a branch on the place of a parameter is decided by the place.
2. `renderNodes_argument`, `renderNodes_uploadArgument`: a parameter becomes one line, with its
   identifier and its type.
-/

namespace ClientForge.Codegen

open Template

/-! ## Definitions -/

/-- An argument of a method: its name and its type. -/
abbrev Argument := String × String

def argumentOf (p : Api.Parameter) : Argument := (p.ident, argumentType p.type p.required)

/-- The argument of an upload. The request body is taken as it is sent. -/
def uploadArgumentOf (p : Api.Parameter) : Argument :=
  (p.ident, if p.location = .requestBody then "Vec<u8>" else argumentType p.type p.required)

/-- The arguments of a method that the template `endpoint` writes. -/
def arguments (curated : Api.Curated) : List Argument := curated.list.map argumentOf

/-- The arguments of a method that the template `endpoint_binary` writes. -/
def uploadArguments (curated : Api.Curated) : List Argument :=
  curated.list.map uploadArgumentOf ++ [("content_type", "Option<&str>")]

def argumentLine (argument : Argument) : String :=
  "\n        " ++ argument.1 ++ ": " ++ argument.2 ++ ","

/-- The text declares a method of this name with these arguments behind the receiver. -/
def DeclaresMethod (source name : String) (arguments : List Argument) : Prop :=
  ∃ before after, source = before ++ "\n    pub async fn " ++ name ++ "(\n        &self," ++
    String.join (arguments.map argumentLine) ++ "\n    ) -> Result<Response, ClientError> \x7b" ++
    after

/-! ## One parameter -/

/-- The variables in the run of a loop for the parameter `p`. -/
def parameterScope (context : Json) (p : Api.Parameter) (index count : Nat) : Template.Scope :=
  ⟨[⟨"p", Endpoint.parameterContext p, index, count⟩], context⟩

section

variable {context : Json} {p : Api.Parameter} {index count : Nat}

/-- A branch on the place of the parameter. -/
theorem render_locatedIn (text : String) (location : Api.Location) (htext : location.text = text)
    (yes no : List Node) :
    (Builtin.locatedIn text yes no).render (parameterScope context p index count) =
      if p.location = location then renderNodes (parameterScope context p index count) yes
      else renderNodes (parameterScope context p index count) no := by
  have hsame : (p.location.text == text) = decide (p.location = location) := by
    subst htext
    cases p.location <;> cases location <;> decide
  have hcondition : (Condition.equals ⟨.path "p" ["location"], []⟩ ⟨.text text, []⟩).eval
      (parameterScope context p index count) = some (decide (p.location = location)) := by
    simp [parameterScope, Condition.eval, Expression.eval, Operand.eval, Scope.find?,
      LoopFrame.find?, descend, applyFilters, Endpoint.parameterContext, List.lookup_cons, sameScalar,
      hsame]
  rw [Builtin.locatedIn, Node.render, hcondition]
  by_cases h : p.location = location
  · rw [if_pos h, decide_eq_true h]
  · rw [if_neg h, decide_eq_false h]

theorem renderNodes_argument :
    renderNodes (parameterScope context p index count) Builtin.argument =
      some (argumentLine (argumentOf p)) := by
  simp [Builtin.argument, parameterScope, renderNodes, Node.render, Builtin.fieldOf,
    Expression.eval, Operand.eval, Scope.find?, LoopFrame.find?, descend, applyFilters, applyFilter,
    Endpoint.parameterContext, Json.get?, Json.asString?, Json.asBool?, List.lookup_cons, display,
    argumentLine, argumentOf, String.append_assoc]

/-- The body of the loop in the template for uploads. -/
def uploadArgument : List Node :=
  [Builtin.locatedIn "requestBody"
    [.text "\n        ", Builtin.fieldOf "p" "ident", .text ": Vec<u8>,"] Builtin.argument]

theorem renderNodes_uploadArgument :
    renderNodes (parameterScope context p index count) uploadArgument =
      some (argumentLine (uploadArgumentOf p)) := by
  rw [uploadArgument, renderNodes_singleton, render_locatedIn "requestBody" .requestBody rfl,
    uploadArgumentOf]
  -- only the request body is written by the template itself
  split
  · refine (renderNodes_join (.cons rfl (.cons rfl (.cons rfl .nil)))).trans ?_
    refine congrArg some (String.toList_injective ?_)
    simp [display, argumentLine]
  · exact renderNodes_argument

end

end ClientForge.Codegen
