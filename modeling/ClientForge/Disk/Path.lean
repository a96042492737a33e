/-!
File paths as they are written: names separated by slashes.
-/

namespace ClientForge.Disk.Path

/-- A path below another; an absolute one stays as it is. -/
def join (base path : String) : String :=
  if path.startsWith "/" then path
  else if base.isEmpty then path
  else if base.endsWith "/" then base ++ path
  else base ++ "/" ++ path

def segments (path : String) : List String := (path.toList.splitOn '/').map String.ofList

/-- The names along a path, without the empty ones. -/
def names (path : String) : List String := (segments path).filter (· ≠ "")

def isAbsolute (path : String) : Bool := path.startsWith "/"

/-- Empty segments and `.` say nothing, except for a `.` that a relative path starts with. -/
def dropSilent (segments : List String) : List String :=
  (segments.reverse.dropWhile fun s => s = "" ∨ s = ".").reverse

/-- The path without its last name; nothing for the root and for the empty path. -/
def parent? (path : String) : Option String :=
  if path.isEmpty then none
  else
    match segments path with
    | [] => none
    | "" :: rest =>
      match dropSilent rest with
      | [] => none
      | shown => some ("/" ++ "/".intercalate (dropSilent shown.dropLast))
    | first :: rest =>
      match dropSilent rest with
      | [] => some ""
      | shown => some ("/".intercalate (first :: dropSilent shown.dropLast))

example : join "out" "a.rs" = "out/a.rs" := by decide +kernel
example : join "out" "/a.rs" = "/a.rs" := by decide +kernel
example : parent? "./a/../b" = some "./a/.." := by decide +kernel
example : parent? "/a/" = some "/" := by decide +kernel
example : parent? "a" = some "" := by decide +kernel

end ClientForge.Disk.Path
