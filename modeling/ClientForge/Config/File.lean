import ClientForge.Config
import ClientForge.Toml.Parse

/-!
Settings in a file. Every setting may be left out; one of the wrong type is a fault, and unknown keys
are passed over.
-/

namespace ClientForge.Config

open Toml (Value Rows)

/-- The text under a key, `unset` without the key, and nothing when it is something else. -/
def setting? {α : Type} (rows : Rows) (key : String) (unset : α) (wrap : String → α) : Option α :=
  match rows.lookup key with
  | none => some unset
  | some (.text s) => some (wrap s)
  | some _ => none

def text? : Value → Option String
  | .text s => some s
  | _ => none

def textUnder? (rows : Rows) (key : String) : Option String := (rows.lookup key).bind text?

def scopeOfRows? (rows : Rows) : Option ScopeConfig := do
  return ⟨← textUnder? rows "name", ← textUnder? rows "spec_url", ← textUnder? rows "base_url"⟩

/-- A scope is a table, or the list of its three texts. -/
def scopeOfValue? : Value → Option ScopeConfig
  | .table _ rows => scopeOfRows? rows
  | .array (name :: specUrl :: baseUrl :: _) => do
    return ⟨← text? name, ← text? specUrl, ← text? baseUrl⟩
  | _ => none

def all? {α β : Type} (read : α → Option β) : List α → Option (List β)
  | [] => some []
  | x :: xs => do
    let y ← read x
    let ys ← all? read xs
    return y :: ys

def scopes? (rows : Rows) : Option (List ScopeConfig) :=
  match rows.lookup "scopes" with
  | none => some standard.scopes
  | some (.array items) => all? scopeOfValue? items
  | some (.tables items) => all? scopeOfRows? items
  | some _ => none

def ofRows? (rows : Rows) : Option Config := do
  return {
    outputDir := ← setting? rows "output_dir" standard.outputDir id
    fileExtension := ← setting? rows "file_extension" standard.fileExtension id
    templateDir := ← setting? rows "template_dir" none some
    renameMapping := ← setting? rows "rename_mapping" none some
    docsBaseUrl := ← setting? rows "docs_base_url" standard.docsBaseUrl id
    runtimePath := ← setting? rows "runtime_path" standard.runtimePath id
    scopes := ← scopes? rows
  }

/-- The valid settings that a TOML text spells. -/
def parse (source : String) : Except Failure Config :=
  match (Toml.parse? source).bind ofRows? with
  | some config => config.validate
  | none => .error (.configuration .malformed)

end ClientForge.Config
