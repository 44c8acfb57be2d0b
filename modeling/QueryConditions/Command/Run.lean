import QueryConditions.Command.Arguments
import QueryConditions.Log
import QueryConditions.Output.Artifacts

/-!
Running commands. All inputs are read before anything is written to stdout or to a file. Only a
verbose run has a logger, and nothing is written to stderr by then but the lines of its log.
The words of the library that reads command lines are not modelled, nor is its help: a line that
asks for help counts as one that cannot be understood, though it ends with 0 and prints the help.
-/

namespace QueryConditions

structure Outcome where
  code : Nat
  stdout : Text
  log : List Event
  /-- What is written to stderr behind the lines of the log. -/
  stderr : Text
  deriving DecidableEq

/-- All of stderr. What the line of an event looks like is up to the logger. -/
def Outcome.errorOutput (outcome : Outcome) (logLine : Nat → Event → Text) : Text :=
  outcome.log.zipIdx.flatMap (fun (event, index) => logLine index event) ++ outcome.stderr

/-- A made-up outcome of a command line that cannot be understood. -/
def Outcome.usage : Outcome := ⟨2, [], [], line "usage".toList⟩

variable {m : Type → Type} [Monad m] [Files m]

namespace ExtractCommand

def inlineLabel : Text := "inline".toList

def logOf (command : ExtractCommand) (sql : Text) : List Event :=
  if command.verbose then extractionLog .empty sql else []

-- What has been extracted when the files are all read, or one of them cannot be.
structure Progress where
  sources : List Source
  log : List Event
  failure? : Option ReadFailure

def extractFiles (command : ExtractCommand) : List Text → m Progress
  | [] => return ⟨[], [], none⟩
  | file :: files => do
      match ← Files.read file with
      | .error error => return ⟨[], [], some ⟨file, error⟩⟩
      | .ok text =>
          let source := Source.ofSql file text
          let log := command.logOf text
          let later ← command.extractFiles files
          return ⟨source :: later.sources, log ++ later.log, later.failure?⟩

def note (source : Source) : Text :=
  line ("Source '".toList ++ source.label ++ "': ".toList ++
    Text.ofNat source.conditions.length ++ " conditions over ".toList ++
    Text.ofNat source.tables.length ++ " tables".toList)

def notes (command : ExtractCommand) (sources : List Source) : Text :=
  if command.verbose then sources.flatMap note else []

def saveMessage (failure : Artifacts.Failure) : Text :=
  "Error writing output: ".toList ++ failure.message

def run (command : ExtractCommand) : m Outcome := do
  let progress ← command.extractFiles command.files
  match progress.failure? with
  | some failure => return ⟨2, [], progress.log, line failure.message⟩
  | none =>
      let queries := command.query?.toList
      let sources := progress.sources ++ queries.map (Source.ofSql inlineLabel)
      let log := progress.log ++ queries.flatMap command.logOf
      let notes := command.notes sources
      let stdout := line (Text.trimEnd (Document.renderSources sources command.format))
      match command.directory? with
      | none => return ⟨0, stdout, log, notes⟩
      | some directory =>
          match ← Artifacts.save directory command.name sources with
          | .ok () => return ⟨0, stdout, log, notes⟩
          | .error failure => return ⟨2, stdout, log, notes ++ line (saveMessage failure)⟩

end ExtractCommand

namespace MergeCommand

def run (command : MergeCommand) : m Outcome := do
  match ← readAll command.files with
  | .error failure => return ⟨2, [], [], line failure.message⟩
  | .ok texts =>
      let combined := Json.combine texts
      let document := line combined.value.pretty
      let log := if command.verbose then combined.errors.map .skipped else []
      let errors := combined.errors.flatMap fun error => line (Json.inputMessage error)
      let code := if combined.isClean then 0 else 1
      match command.output? with
      | none => return ⟨code, document, log, errors⟩
      | some path =>
          match ← Artifacts.writeFile path document with
          | .ok () => return ⟨code, [], log, errors⟩
          | .error failure => return ⟨2, [], log, errors ++ line failure.message⟩

end MergeCommand

def Command.run : Command → m Outcome
  | .extract command => command.run
  | .merge command => command.run

def runArguments (arguments : List Text) : m Outcome :=
  match Command.parse? arguments with
  | none => return .usage
  | some command => command.run

def runOn (tree : FileTree) (arguments : List Text) : Outcome × FileTree :=
  Id.run ((runArguments (m := StateM FileTree) arguments).run tree)

end QueryConditions
