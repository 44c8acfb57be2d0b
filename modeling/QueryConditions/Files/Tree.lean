import QueryConditions.Files.Path

/-!
Trees of files as values. Reading and writing a file and making a directory each
either succeed or leave the tree as it was. Outside of the directory that commands run
in there are the directories that lead to it, and nothing else until it is made.
-/

namespace QueryConditions

inductive Content where
  | text (text : Text)
  | bytes (bytes : List UInt8)
  deriving DecidableEq

inductive Entry where
  | directory
  | file (content : Content)
  deriving DecidableEq

inductive Origin where
  /-- The one so many levels above the directory that commands run in. -/
  | above (levels : Nat)
  | root
  deriving DecidableEq

structure Location where
  depth : Nat
  origin : Origin
  /-- From the innermost out. -/
  names : List Text
  depth_eq : depth = names.length
  deriving DecidableEq

namespace Location

/-- The location with these names, from the innermost out. -/
def ofNames (origin : Origin) (names : List Text) : Location := ⟨names.length, origin, names, rfl⟩

def here : Location := ofNames (.above 0) []

/-- Where a name leads; above the root there is nothing but the root. -/
def step (location : Location) (name : Text) : Location :=
  if name = Path.up then
    match location.names, location.origin with
    | _ :: outer, origin => ofNames origin outer
    | [], .above levels => ofNames (.above (levels + 1)) []
    | [], .root => ofNames .root []
  else ofNames location.origin (name :: location.names)

end Location

def Path.start (path : Path) : Location := if path.absolute then .ofNames .root [] else .here

structure FileTree where
  /-- An earlier entry hides later ones of the same location. -/
  entries : List (Location × Entry)
  deriving DecidableEq

namespace FileTree

def empty : FileTree := ⟨[]⟩

def find? (tree : FileTree) (location : Location) : Option Entry :=
  if location.names.isEmpty then some .directory
  else (tree.entries.find? (·.1 = location)).map Prod.snd

def put (tree : FileTree) (location : Location) (entry : Entry) : FileTree :=
  ⟨(location, entry) :: tree.entries⟩

theorem find?_put (tree : FileTree) (location other : Location) (entry : Entry)
    (inside : location.names ≠ []) :
    (tree.put location entry).find? other =
      if location = other then some entry else tree.find? other := by
  by_cases same : location = other
  · subst same
    simp [find?, put, inside]
  · simp [find?, put, same]

def look (tree : FileTree) (location : Location) : Except FileError (Option Entry) :=
  if location.names.head?.any fun name => Path.longestName < Text.byteLength name then
    .error .nameTooLong
  else .ok (tree.find? location)

def enter (tree : FileTree) (location : Location) : List Text → Except FileError Location
  | [] => .ok location
  | name :: rest => do
      match ← tree.look (location.step name) with
      | none => .error .notFound
      | some (.file _) => .error .notDirectory
      | some .directory => tree.enter (location.step name) rest

def locate (tree : FileTree) (path : Path) : Except FileError Location :=
  match path.names.getLast? with
  | none => .ok path.start
  | some last => (tree.enter path.start path.names.dropLast).map (·.step last)

def readAt (tree : FileTree) (path : Path) : Except FileError Text := do
  match ← tree.look (← tree.locate path) with
  | none => .error .notFound
  | some .directory => .error .isDirectory
  | some (.file content) =>
      if path.ending ≠ .plain then .error .notDirectory
      else
        match content with
        | .text text => .ok text
        | .bytes _ => .error .notText

def writeAt (tree : FileTree) (path : Path) (text : Text) : Except FileError FileTree := do
  let location ← tree.locate path
  -- Nothing is looked up where the path itself says that it is no file's.
  if path.ending = .slash then .error .isDirectory
  else
    match path.ending, ← tree.look location with
    | _, some .directory => .error .isDirectory
    | .dot, none => .error .notFound
    | .dot, some (.file _) => .error .notDirectory
    | _, _ => .ok (tree.put location (.file (.text text)))

def makeDirsFrom (ending : Ending) (made : Bool) (tree : FileTree) (location : Location) :
    List Text → FileTree × Except FileError Unit
  | [] => (tree, .ok ())
  | name :: rest =>
      let next := location.step name
      let isLast := rest.isEmpty
      match tree.look next with
      | .error error => (tree, .error error)
      | .ok (some .directory) => makeDirsFrom ending made tree next rest
      | .ok (some (.file _)) =>
          -- Behind a directory that had to be made, a file is in the place of one to be made.
          let toBeMade := if isLast then ending != .dot else made
          (tree, .error (if toBeMade then .exists else .notDirectory))
      | .ok none =>
          -- A path that ends in a dot does not name the directory before the dot.
          if isLast && ending = .dot then (tree, .error .notFound)
          else makeDirsFrom ending true (tree.put next .directory) next rest

def read (tree : FileTree) (path : Text) : Except FileError Text := do
  tree.readAt (← Path.ofText path)

def write (tree : FileTree) (path text : Text) : FileTree × Except FileError Unit :=
  match Path.ofText path >>= (tree.writeAt · text) with
  | .ok written => (written, .ok ())
  | .error error => (tree, .error error)

def makeDirs (tree : FileTree) (path : Text) : FileTree × Except FileError Unit :=
  if path.isEmpty then (tree, .ok ())
  else
    match Path.ofText path with
    | .error error => (tree, .error error)
    | .ok path => tree.makeDirsFrom path.ending false path.start path.names

def grow (tree : FileTree) (origin : Origin) : List Text → FileTree
  | [] => tree
  | name :: outer =>
      let grown := tree.grow origin outer
      let location := Location.ofNames origin (name :: outer)
      if (grown.find? location).isSome then grown else grown.put location .directory

def plant (tree : FileTree) (path : Text) (entry : Entry) : FileTree :=
  match Path.ofText path with
  | .error _ => tree
  | .ok path =>
      let location := path.names.foldl Location.step path.start
      match location.names with
      | [] => tree
      | _ :: outer => (tree.grow location.origin outer).put location entry

end FileTree

end QueryConditions
