import ClientForge.CommandLine.Run
import Std.Time

/-!
The program: command lines run on the machine's own files. No network is reached from here.
-/

namespace ClientForge.Machine

/-! ## Files -/

/-- The system's number of an error, which comes with either sign. -/
def errorNumber (code : UInt32) : Nat :=
  if code.toNat < 0x80000000 then code.toNat else 0x100000000 - code.toNat

def ioError (code : UInt32) (details : String) : Disk.IoError :=
  match errorNumber code with
  | 2 => .notFound
  | 17 => .exists
  | 20 => .notADirectory
  | 21 => .isADirectory
  | 36 => .nameTooLong
  | n => .other (details ++ " (os error " ++ toString n ++ ")")

def causeOf : IO.Error → Disk.IoError
  | .alreadyExists _ code details => ioError code details
  | .noFileOrDirectory _ code details => ioError code details
  | .invalidArgument _ code details => ioError code details
  | .permissionDenied _ code details => ioError code details
  | .resourceExhausted _ code details => ioError code details
  | .inappropriateType _ code details => ioError code details
  | .noSuchThing _ code details => ioError code details
  | .otherError code details => ioError code details
  | .resourceBusy code details => ioError code details
  | .unsatisfiedConstraints code details => ioError code details
  | e => .other (toString e)

def attempt {α : Type} (action : IO α) : IO (Except Disk.IoError α) := do
  match ← action.toBaseIO with
  | .ok a => return .ok a
  | .error e => return .error (causeOf e)

def readText (path : String) : IO (Except Disk.IoError String) := do
  return (← attempt (IO.FS.readBinFile path)).bind Disk.decode

def list (path : String) : IO (Except Disk.IoError (List String)) := do
  let entries ← attempt (IO.FS.DirEntry.mk path "").root.readDir
  return entries.map fun found => (found.map (·.fileName)).toList

def ensureDirectory (path : String) : IO Unit := do
  unless path.isEmpty do IO.FS.createDirAll path

def write (mode : Disk.Mode) (path text : String) : IO Unit := do
  match Disk.Path.parent? path with
  | some parent => ensureDirectory parent
  | none => pure ()
  let opening : IO.FS.Mode := match mode with
    | .replace => .write
    | .append => .append
  IO.FS.withFile path opening fun file => file.putStr text

/-! ## The host -/

def warningText (w : Api.Warning) : String :=
  w.fields.foldl (fun line (name, content) => line ++ " " ++ name ++ "=" ++ content) w.message

def perform : Codegen.Step → IO (Except Failure Unit)
  | .warn w => do
    IO.eprintln ("WARN " ++ warningText w)
    return .ok ()
  | .ensureDirectory path => do
    return (← attempt (ensureDirectory path)).mapError (.unwritable path)
  | .write mode path text => do
    return (← attempt (write mode path text)).mapError (.unwritable path)

def now : IO String := do
  let time := Std.Time.DateTime.ofTimestamp (← Std.Time.Timestamp.now) .UTC
  return time.format "uuuu-MM-dd'T'HH:mm:ss'Z'"

def host : Host IO where
  readText := readText
  list := list
  network := .unreachable
  perform := perform
  now := now

end ClientForge.Machine

open ClientForge in
def main (arguments : List String) : IO UInt32 := do
  let report ← CommandLine.run Machine.host arguments
  IO.print report.stdout
  for message in report.errors do
    IO.eprintln ("ERROR " ++ message)
  return report.exitCode.toUInt32
