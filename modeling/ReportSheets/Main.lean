import ReportSheets.CommandLine.Needs
import ReportSheets.CommandLine.Run
import ReportSheets.Workbook.Packed

namespace ReportSheets.CommandLine

abbrev Known := List (String × Except Error FileContent)

def Known.files (known : Known) : Files := fun path =>
  match known.find? fun entry => entry.1 == path with
  | some entry => entry.2
  | none => .error .noSuchFile

def readContent (path : String) : IO (Except Error FileContent) := do
  try
    return .ok (.bytes (← IO.FS.readBinFile path))
  catch
    | .inappropriateType _ 21 _ => return .error .isADirectory
    | .inappropriateType _ _ _ => return .error .notADirectory
    | .invalidArgument _ 36 _ => return .error .nameTooLong
    | _ => return .error .noSuchFile

def readAll (known : Known) (paths : List String) : IO Known :=
  paths.foldlM (fun known path => do return known ++ [(path, ← readContent path)]) known

def readNeeds (task : Task) : IO Known := do
  let known ← readAll [] task.settingsFile?.toList
  match task.folders?.bind fun folders => (folders.settings known.files).toOption with
  | none => return known
  | some settings =>
    let known ← readAll known (task.dataFile?.toList ++ task.formPaths settings)
    let content := task.dataFile?.bind fun path => (known.files path).toOption
    readAll known (settings.pathsIn ((content.map FileContent.lines).getD []))

def markLetters : List Char :=
  "ABCDEFGHIJKLMNOPQRSTUVWXYZabcdefghijklmnopqrstuvwxyz0123456789".toList

def randomMark : IO String := do
  let letters ← (List.range 6).mapM fun _ => do
    return markLetters[← IO.rand 0 (markLetters.length - 1)]?.toList
  return String.ofList letters.flatten

def sharedRights : IO.FileRight :=
  let rights : IO.AccessRight := { read := true, write := true }
  ⟨rights, rights, rights⟩

/-- Makes the last folder of a path; that it is there already is no failure. -/
def makeLast (path : String) : IO Unit := do
  try
    IO.FS.createDir path
  catch
    | .alreadyExists file code details => do
      unless ← (← IO.FS.realPath path).isDir do throw (.alreadyExists file code details)
    | e => throw e

def makeFolder (path : String) : Nat → IO Unit
  | 0 => makeLast path
  | depth + 1 => do
    if path = "" then return
    try
      makeLast path
    catch
      | .noFileOrDirectory .. => do
        makeFolder (Path.parent path) depth
        makeLast path
      | e => throw e

def publish (folder : String) (book : SavedBook) : IO (Except Error String) := do
  try
    makeFolder folder (Path.pieces folder).length
    let place ← IO.FS.realPath (if folder = "" then "." else folder)
    let path := Path.join place.toString (reportFileName (← randomMark))
    IO.FS.writeBinFile path (Archive.pack book.parts)
    IO.setAccessRights path sharedRights
    return .ok path
  catch
    | .alreadyExists .. => return .error .fileExists
    | .inappropriateType .. => return .error .notADirectory
    | .invalidArgument _ 36 _ => return .error .nameTooLong
    | _ => return .error .noSuchFile

def resultOf (work : Work) : IO Result :=
  match work with
  | .done result => return result
  | .publish folder book next => return next (← publish folder book)

def endingOf (environment : String → Option String) (words : List String) : IO Ending :=
  match Request.read environment words with
  | .error stop => return .ofStop stop
  | .ok request => do
    let known ← readNeeds request.task
    return .ofResult (← resultOf (request.work known.files))

def environmentNames : List String :=
  Action.folderChoices.filterMap Choice.environmentName?

def readEnvironment : IO (String → Option String) := do
  let entries ← environmentNames.mapM fun name => do return (name, ← IO.getEnv name)
  return fun name => (entries.find? fun entry => entry.1 == name).bind (·.2)

end ReportSheets.CommandLine

open ReportSheets.CommandLine in
def main (words : List String) : IO UInt32 := do
  let ending ← endingOf (← readEnvironment) words
  IO.print ending.output
  IO.eprint ending.errors
  return ending.exitCode.toUInt32
