import ClientForge.Api.Namespace
import ClientForge.Config
import ClientForge.Disk.Path
import ClientForge.Naming.Title

/-!
What the generated files of a scope have in common.
-/

namespace ClientForge.Codegen

/-- Version of this generator. -/
def generatorVersion : String := "2.0.0"

structure Scope where
  name : String
  /-- Version that the description gives itself. -/
  specVersion : String
  baseUrl : String
  docsBaseUrl : String
  runtimePath : String
  outputDir : String
  fileExtension : String
deriving DecidableEq, Repr

namespace Scope

def ofConfig (config : Config) (scope : ScopeConfig) (specVersion : String) : Scope where
  name := scope.name
  specVersion
  baseUrl := scope.baseUrl
  docsBaseUrl := config.docsBaseUrl
  runtimePath := config.runtimePath
  outputDir := config.outputDir
  fileExtension := config.fileExtension

def namespaceFile (scope : Scope) (n : Api.Namespace) : String :=
  Disk.Path.join scope.outputDir (Naming.fileStem n.name ++ "." ++ scope.fileExtension)

def manifestFile (scope : Scope) : String :=
  Disk.Path.join scope.outputDir (scope.name ++ ".json")

end Scope

end ClientForge.Codegen
