import QueryConditions.Files.Tree

/-!
What a command may do with files. A command is written once for any kind of access;
a file tree as state is one of them.
-/

namespace QueryConditions

class Files (m : Type → Type) where
  read : Text → m (Except FileError Text)
  write : Text → Text → m (Except FileError Unit)
  makeDirs : Text → m (Except FileError Unit)

instance : Files (StateM FileTree) where
  read path := fun tree => (tree.read path, tree)
  write path text := fun tree =>
    let (written, result) := tree.write path text
    (result, written)
  makeDirs path := fun tree =>
    let (made, result) := tree.makeDirs path
    (result, made)

structure ReadFailure where
  path : Text
  error : FileError
  deriving DecidableEq

def ReadFailure.message (failure : ReadFailure) : Text :=
  "Error reading ".toList ++ failure.path ++ ": ".toList ++ failure.error.message

variable {m : Type → Type} [Monad m] [Files m]

def readAll : List Text → m (Except ReadFailure (List Text))
  | [] => return .ok []
  | path :: rest => do
      match ← Files.read path with
      | .error error => return .error ⟨path, error⟩
      | .ok text =>
          match ← readAll rest with
          | .error failure => return .error failure
          | .ok texts => return .ok (text :: texts)

end QueryConditions
