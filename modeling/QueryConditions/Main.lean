import QueryConditions.Command.Run

/-!
The program: the command line run on the files of the machine.
-/

namespace QueryConditions

/-- The system's number for an error, which some operations give with its sign changed. -/
def errorNumber (code : UInt32) : Nat :=
  if code < 0x80000000 then code.toNat else (0 - code).toNat

def FileError.ofError (error : IO.Error) : FileError :=
  match error with
  | .noFileOrDirectory .. => .notFound
  | .alreadyExists .. => .exists
  | .invalidArgument _ code _ | .inappropriateType _ code _ =>
      match errorNumber code with
      | 20 => .notDirectory
      | 21 => .isDirectory
      | 36 => .nameTooLong
      | _ => .other error.toString.toList
  | _ => .other error.toString.toList

def attempt {α : Type} (action : IO α) : IO (Except FileError α) := do
  match ← action.toBaseIO with
  | .ok value => return .ok value
  | .error error => return .error (.ofError error)

def makeDirectories (absolute : Bool) (ending : Ending) :
    List Text → IO (Except FileError Unit)
  | [] => return .ok ()
  | name :: outer => do
      let path := String.ofList (Path.text ⟨absolute, (name :: outer).reverse, ending⟩)
      let make : IO (Except FileError Unit) := do
        match ← attempt (IO.FS.createDir path) with
        | .ok () => return .ok ()
        | .error error =>
            -- What cannot be read because it is a directory is there already.
            match ← attempt (IO.FS.readBinFile path) with
            | .error .isDirectory => return .ok ()
            | _ => return .error error
      match ← make with
      | .error .notFound =>
          match ← makeDirectories absolute .plain outer with
          | .ok () => make
          | failed => return failed
      | result => return result

instance : Files IO where
  read path := do
    match ← attempt (IO.FS.readBinFile (String.ofList path)) with
    | .error error => return .error error
    | .ok bytes =>
        match String.fromUTF8? bytes with
        | some text => return .ok text.toList
        | none => return .error .notText
  write path text := attempt (IO.FS.writeFile (String.ofList path) (String.ofList text))
  makeDirs path :=
    if path.isEmpty then return .ok ()
    else
      match Path.ofText path with
      | .error error => return .error error
      | .ok path => makeDirectories path.absolute path.ending path.names.reverse

end QueryConditions

open QueryConditions in
def main (arguments : List String) : IO UInt32 := do
  let outcome ← runArguments (arguments.map String.toList)
  IO.print (String.ofList outcome.stdout)
  IO.eprint (String.ofList (outcome.errorOutput fun _ event => line event.text))
  return outcome.code.toUInt32
