import QueryConditions.Json.Reader

/-!
Merging JSON documents. Objects are merged key by key and lists are joined; any other
value replaces the one before it. Documents that do not parse are left out and reported.
-/

namespace QueryConditions.Json

mutual

def mergeEntries (base : List (Text × Json)) : List (Text × Json) → List (Text × Json)
  | [] => base
  | (key, incoming) :: rest => mergeEntries (upsert key (mergeValue incoming) base) rest

/-- A value laid over the one that its key has so far. -/
def mergeValue : Json → Option Json → Json
  | .object overlay, some (.object base) => .object (mergeEntries base overlay)
  | .array more, some (.array items) => .array (items ++ more)
  | incoming, _ => incoming

end

def merge (base overlay : Json) : Json :=
  match overlay with
  | .object overlay => .object (mergeEntries base.entries overlay)
  | other => other

structure Combined where
  value : Json
  errors : List ReadError

def Combined.isClean (combined : Combined) : Bool := combined.errors.isEmpty

def inputMessage (error : ReadError) : Text := "Error parsing JSON: ".toList ++ error.message

def Combined.add (combined : Combined) (document : Text) : Combined :=
  match parse document with
  | .ok value => { combined with value := merge combined.value value }
  | .error error => { combined with errors := combined.errors ++ [error] }

def combine (documents : List Text) : Combined := documents.foldl Combined.add ⟨.object [], []⟩

end QueryConditions.Json
