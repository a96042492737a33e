import ClientForge.Api.Parameter

/-!
Convenience rules: shared parameters that the generated client fills from its own settings. A rule
replaces a reference by optional arguments.
-/

namespace ClientForge.Api

inductive ConvenienceKind where
  /-- `db_branch_name`, put together from a database name and a branch name. -/
  | dbBranchName
  /-- `workspace_id`, by default that of the client. -/
  | workspaceId
deriving DecidableEq, Repr

def ConvenienceKind.text : ConvenienceKind → String
  | dbBranchName => "db_branch_name"
  | workspaceId => "workspace_id"

structure ConvenienceRule where
  reference : String
  kind : ConvenienceKind
  replacements : List Parameter

abbrev ConvenienceRules := List ConvenienceRule

namespace ConvenienceRules

def optionalSegment (name description : String) : Parameter :=
  ⟨name, name, .path, "str", false, description, none⟩

def standard : ConvenienceRules :=
  [⟨"#/components/parameters/DBBranchNameParam", .dbBranchName,
     [optionalSegment "db_name"
        "The name of the database to query. Default: database name from the client.",
      optionalSegment "branch_name"
        "The name of the branch to query. Default: branch name from the client."]⟩,
   ⟨"#/components/parameters/WorkspaceIDParam", .workspaceId,
     [optionalSegment "workspace_id"
        "The workspace identifier. Default: workspace Id from the client."]⟩]

def find? (rules : ConvenienceRules) (reference : String) : Option ConvenienceRule :=
  List.find? (·.reference == reference) rules

/-- The rule that replaces a declared parameter. References are compared as they are written. -/
def ruleFor? (rules : ConvenienceRules) (declared : Json) : Option ConvenienceRule :=
  (declared.string? "$ref").bind rules.find?

end ConvenienceRules

/-- A parameter of an operation once the rules have been applied. -/
inductive ParameterSource where
  | declared (value : Json)
  | replacement (parameter : Parameter)

namespace ConvenienceRules

def expand (rules : ConvenienceRules) (declared : Json) : List ParameterSource :=
  match rules.ruleFor? declared with
  | some rule => rule.replacements.map .replacement
  | none => [.declared declared]

/-- The declared parameters with every one that a rule matches replaced in its place. -/
def sources (rules : ConvenienceRules) (declared : List Json) : List ParameterSource :=
  declared.flatMap rules.expand

/-- The kinds of the rules that matched, each once, in the order in which they first did. -/
def applied (rules : ConvenienceRules) (declared : List Json) : List ConvenienceKind :=
  (declared.filterMap fun d => (rules.ruleFor? d).map (·.kind)).eraseDups

end ConvenienceRules

/-- What the rules make of declared parameters. -/
structure Substitution where
  sources : List ParameterSource
  applied : List ConvenienceKind

/-- Takes in one more declared parameter. -/
def Substitution.add (rules : ConvenienceRules) (done : Substitution) (declared : Json) :
    Substitution :=
  match rules.ruleFor? declared with
  | some rule =>
    { sources := done.sources ++ rule.replacements.map .replacement
      applied := if rule.kind ∈ done.applied then done.applied else done.applied ++ [rule.kind] }
  | none => { done with sources := done.sources ++ [.declared declared] }

/-- Applies the rules to the declared parameters in one pass. -/
def ConvenienceRules.substitute (rules : ConvenienceRules) (declared : List Json) : Substitution :=
  declared.foldl (Substitution.add rules) ⟨[], []⟩

end ClientForge.Api
