import QueryConditions.Text.Basic

/-!
The formats in which conditions are written.
-/

namespace QueryConditions

inductive Format where
  | json
  | table
  deriving DecidableEq

namespace Format

def default : Format := json

def name : Format → Text
  | json => "json".toList
  | table => "table".toList

end Format

inductive FormatError where
  | unknown (name : Text)
  deriving DecidableEq

def FormatError.message : FormatError → Text
  | .unknown name => "Invalid output format: ".toList ++ name

def Format.parse (s : Text) : Except FormatError Format :=
  let lower := s.map Char.toLower
  if lower = Format.json.name then .ok .json
  else if lower = Format.table.name then .ok .table
  else .error (.unknown s)

end QueryConditions
