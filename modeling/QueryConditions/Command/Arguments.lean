import QueryConditions.Output.Format

/-!
Command lines. Options may stand anywhere after the command's name, each at most once,
their values after `=` or as the next argument; after `--` every argument is a file.
-/

namespace QueryConditions

structure ExtractCommand where
  files : List Text
  query? : Option Text
  format : Format
  directory? : Option Text
  name : Text
  verbose : Bool
  deriving DecidableEq

structure MergeCommand where
  files : List Text
  output? : Option Text
  verbose : Bool
  deriving DecidableEq

inductive Command where
  | extract (command : ExtractCommand)
  | merge (command : MergeCommand)
  deriving DecidableEq

namespace Command

structure Arguments where
  files : List Text
  /-- Names without their dashes. -/
  options : List (Text × Text)
  verbose : Bool

def Arguments.option? (arguments : Arguments) (name : String) : Option Text :=
  (arguments.options.find? (·.1 = name.toList)).map Prod.snd

def verboseName : Text := "verbose".toList

def splitOption (text : Text) : Text × Option Text :=
  match text.dropWhile (· != '=') with
  | [] => (text, none)
  | _ :: value => (text.takeWhile (· != '='), some value)

def isValue : Text → Bool
  | ['-'] => true
  | '-' :: _ => false
  | _ => true

def Arguments.addFile (file : Text) (arguments : Arguments) : Arguments :=
  { arguments with files := file :: arguments.files }

def Arguments.addOption? (name value : Text) (arguments : Arguments) : Option Arguments :=
  if arguments.options.any (·.1 = name) then none
  else some { arguments with options := (name, value) :: arguments.options }

def Arguments.addVerbose? (arguments : Arguments) : Option Arguments :=
  if arguments.verbose then none else some { arguments with verbose := true }

def sort? (known : List Text) : List Text → Option Arguments
  | [] => some ⟨[], [], false⟩
  | ['-', '-'] :: rest => some ⟨rest, [], false⟩
  | ('-' :: '-' :: text) :: rest =>
      let (name, value?) := splitOption text
      if name = verboseName ∧ value? = none then
        sort? known rest >>= Arguments.addVerbose?
      else if known.contains name then
        match value?, rest with
        | some value, rest => sort? known rest >>= Arguments.addOption? name value
        | none, value :: rest =>
            if isValue value then sort? known rest >>= Arguments.addOption? name value else none
        | none, [] => none
      else none
  | argument :: rest =>
      if isValue argument then (sort? known rest).map (Arguments.addFile argument) else none

def arePaths (paths : List Text) : Bool := paths.all (!·.isEmpty)

def format? (arguments : Arguments) : Option Format :=
  match arguments.option? "format" with
  | none => some .default
  | some name =>
      match Format.parse name with
      | .ok format => some format
      | .error _ => none

def extract? (verbose : Bool) (arguments : List Text) : Option Command := do
  let sorted ← sort? (["sql", "format", "output-dir", "name"].map String.toList) arguments
  let query? := sorted.option? "sql"
  let directory? := sorted.option? "output-dir"
  let format ← format? sorted
  if arePaths sorted.files && arePaths directory?.toList &&
      (!sorted.files.isEmpty || query?.isSome) then
    return .extract {
      files := sorted.files
      query? := query?
      format := format
      directory? := directory?
      name := (sorted.option? "name").getD "conditions".toList
      verbose := verbose || sorted.verbose }
  else none

def merge? (verbose : Bool) (arguments : List Text) : Option Command := do
  let sorted ← sort? ["output".toList] arguments
  let output? := sorted.option? "output"
  if arePaths sorted.files && arePaths output?.toList && !sorted.files.isEmpty then
    return .merge {
      files := sorted.files
      output? := output?
      verbose := verbose || sorted.verbose }
  else none

def named? (verbose : Bool) : List Text → Option Command
  | [] => none
  | name :: arguments =>
      if name = "extract".toList then extract? verbose arguments
      else if name = "merge".toList then merge? verbose arguments
      else none

def parse? : List Text → Option Command
  | [] => none
  | first :: arguments =>
      if first = "--verbose".toList then named? true arguments
      else named? false (first :: arguments)

end Command

end QueryConditions
