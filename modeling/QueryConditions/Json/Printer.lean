import QueryConditions.Json.Basic

/-!
JSON text. A string escapes quotes, backslashes and control characters and nothing
else. The compact form has no blanks; the wide form gives each item a line of its own,
indented by two blanks a level.
-/

namespace QueryConditions.Json

def hexDigit (n : Nat) : Char := Nat.digitChar n

def escape (c : Char) : Text :=
  match c with
  | '"' => ['\\', '"']
  | '\\' => ['\\', '\\']
  | '\n' => ['\\', 'n']
  | '\r' => ['\\', 'r']
  | '\t' => ['\\', 't']
  | '\x08' => ['\\', 'b']
  | '\x0c' => ['\\', 'f']
  | c =>
      if c.toNat < 0x20 then
        ['\\', 'u', '0', '0', hexDigit (c.toNat / 16), hexDigit (c.toNat % 16)]
      else [c]

def quoted (s : Text) : Text := '"' :: s.flatMap escape ++ ['"']

mutual

def compact : Json → Text
  | .null => "null".toList
  | .bool true => "true".toList
  | .bool false => "false".toList
  | .number value => value.text
  | .string value => quoted value
  | .array items => '[' :: [','].intercalate (compactItems items) ++ [']']
  | .object entries => '\x7b' :: [','].intercalate (compactEntries entries) ++ ['\x7d']

def compactItems : List Json → List Text
  | [] => []
  | item :: rest => compact item :: compactItems rest

def compactEntries : List (Text × Json) → List Text
  | [] => []
  | (key, value) :: rest => (quoted key ++ ':' :: compact value) :: compactEntries rest

end

def block (opening closing : Char) (level : Nat) (lines : List Text) : Text :=
  if lines.isEmpty then [opening, closing]
  else
    let indent (level : Nat) : Text := '\n' :: List.replicate (2 * level) ' '
    opening :: [','].intercalate (lines.map (indent (level + 1) ++ ·)) ++
      indent level ++ [closing]

mutual

def prettyAt (level : Nat) : Json → Text
  | .null => "null".toList
  | .bool true => "true".toList
  | .bool false => "false".toList
  | .number value => value.text
  | .string value => quoted value
  | .array items => block '[' ']' level (prettyItems (level + 1) items)
  | .object entries => block '\x7b' '\x7d' level (prettyEntries (level + 1) entries)

def prettyItems (level : Nat) : List Json → List Text
  | [] => []
  | item :: rest => prettyAt level item :: prettyItems level rest

def prettyEntries (level : Nat) : List (Text × Json) → List Text
  | [] => []
  | (key, value) :: rest =>
      (quoted key ++ ':' :: ' ' :: prettyAt level value) :: prettyEntries level rest

end

def pretty (value : Json) : Text := prettyAt 0 value

end QueryConditions.Json
