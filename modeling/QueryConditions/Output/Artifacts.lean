import QueryConditions.Files.Access
import QueryConditions.Output.Document
import QueryConditions.Output.Report

/-!
Writing the conditions and the report of some sources into a directory. The name of
the two files must stay inside of it; this is settled before anything is made.
-/

namespace QueryConditions.Artifacts

inductive NameError where
  | blank
  | absolute (name : Text)
  | traversal (name : Text)
  | separator (name : Text)
  deriving DecidableEq

def NameError.message : NameError → Text
  | .blank => "Output name must not be empty".toList
  | .absolute name => refused name "absolute paths are not allowed"
  | .traversal name => refused name "traversal segments are not allowed"
  | .separator name => refused name "path separators are not allowed"
where
  refused (name : Text) (reason : String) : Text :=
    "Invalid output name '".toList ++ name ++ "': ".toList ++ reason.toList

def checkName (name : Text) : Option NameError :=
  if (Text.trim name).isEmpty then some .blank
  else if name.head? = some '/' then some (.absolute name)
  else if (splitAt '/' name).contains Path.up then some (.traversal name)
  else if name.contains '/' || name.contains '\\' then some (.separator name)
  else none

inductive Failure where
  | name (error : NameError)
  | directory (error : FileError)
  | file (path : Text) (error : FileError)
  deriving DecidableEq

def Failure.message : Failure → Text
  | .name error => error.message
  | .directory error => "Failed to create output directory: ".toList ++ error.message
  | .file path error => "Failed to write ".toList ++ path ++ ": ".toList ++ error.message

def conditionsPath (directory name : Text) : Text :=
  Path.join directory (name ++ "_conditions.json".toList)

def reportPath (directory name : Text) : Text :=
  Path.join directory (name ++ "_report.md".toList)

variable {m : Type → Type} [Monad m] [Files m]

def writeFile (path text : Text) : m (Except Failure Unit) := do
  match ← Files.write path text with
  | .error error => return .error (.file path error)
  | .ok () => return .ok ()

def save (directory name : Text) (sources : List Source) : m (Except Failure Unit) := do
  match checkName name with
  | some error => return .error (.name error)
  | none =>
      match ← Files.makeDirs directory with
      | .error error => return .error (.directory error)
      | .ok () =>
          match ← writeFile (conditionsPath directory name)
              (Document.renderSources sources .json) with
          | .error failure => return .error failure
          | .ok () => writeFile (reportPath directory name) (Report.render sources)

end QueryConditions.Artifacts
