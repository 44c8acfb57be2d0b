import QueryConditions.Text.Basic

/-!
Paths of files, taken apart at their slashes, and what can be wrong with files. Empty
names and single dots lead nowhere, except that a path which ends in one can only be
that of a directory. Lengths of names and paths are limited, in bytes.
-/

namespace QueryConditions

inductive FileError where
  | notFound
  | exists
  | notDirectory
  | isDirectory
  | nameTooLong
  | nulByte
  | notText
  | other (message : Text)
  deriving DecidableEq

def FileError.message : FileError → Text
  | .notFound => "No such file or directory (os error 2)".toList
  | .exists => "File exists (os error 17)".toList
  | .notDirectory => "Not a directory (os error 20)".toList
  | .isDirectory => "Is a directory (os error 21)".toList
  | .nameTooLong => "File name too long (os error 36)".toList
  | .nulByte => "file name contained an unexpected NUL byte".toList
  | .notText => "stream did not contain valid UTF-8".toList
  | .other message => message

def splitAt (separator : Char) : Text → List Text
  | [] => [[]]
  | c :: rest =>
      if c = separator then [] :: splitAt separator rest
      else
        match splitAt separator rest with
        | part :: parts => (c :: part) :: parts
        | [] => [[c]]

inductive Ending where
  | plain
  | slash
  | dot
  deriving DecidableEq

structure Path where
  absolute : Bool
  /-- The names from the outermost directory on; `..` leads back. -/
  names : List Text
  ending : Ending
  deriving DecidableEq

namespace Path

def here : Text := ['.']

def up : Text := ['.', '.']

def longest : Nat := 4095

def longestName : Nat := 255

def ofText (s : Text) : Except FileError Path :=
  if s.contains '\x00' then .error .nulByte
  else if s.isEmpty then .error .notFound
  else if longest < Text.byteLength s then .error .nameTooLong
  else
    let parts := (splitAt '/' s).filter (!·.isEmpty)
    let names := parts.filter (· != here)
    let ending :=
      if names.isEmpty || parts.getLast? = some here then .dot
      else if s.getLast? = some '/' then .slash
      else .plain
    .ok ⟨s.head? = some '/', names, ending⟩

def text (path : Path) : Text :=
  if path.names.isEmpty then if path.absolute then ['/'] else here
  else
    (if path.absolute then ['/'] else []) ++ ['/'].intercalate path.names ++
      match path.ending with
      | .plain => []
      | .slash => ['/']
      | .dot => '/' :: here

def join (directory file : Text) : Text :=
  if directory.isEmpty || directory.getLast? = some '/' then directory ++ file
  else directory ++ '/' :: file

end Path

end QueryConditions
