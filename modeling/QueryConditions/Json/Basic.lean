import QueryConditions.Json.Number

/-!
JSON values. An object keeps its entries in the order in which their keys first
appeared.
-/

namespace QueryConditions

inductive Json where
  | null
  | bool (value : Bool)
  | number (value : Json.Number)
  | string (value : Text)
  | array (items : List Json)
  | object (entries : List (Text × Json))

namespace Json

variable {α : Type}

def upsert (key : Text) (change : Option α → α) : List (Text × α) → List (Text × α)
  | [] => [(key, change none)]
  | (other, value) :: rest =>
      if other = key then (other, change (some value)) :: rest
      else (other, value) :: upsert key change rest

def lookup? (key : Text) (entries : List (Text × α)) : Option α :=
  (entries.find? (·.1 = key)).map Prod.snd

theorem lookup?_upsert (key other : Text) (change : Option α → α) (entries : List (Text × α)) :
    lookup? other (upsert key change entries) =
      if key = other then some (change (lookup? key entries)) else lookup? other entries := by
  induction entries with
  | nil => by_cases same : key = other <;> simp [upsert, lookup?, same]
  | cons entry rest ih =>
      obtain ⟨first, value⟩ := entry
      simp only [lookup?] at ih ⊢
      by_cases here : first = key
      · by_cases same : key = other <;> simp [upsert, here, same]
      · by_cases same : key = other
        · have apart : first ≠ other := fun h => here (h.trans same.symm)
          simp_all [upsert]
        · by_cases there : first = other <;> simp_all [upsert]

theorem keys_upsert (key : Text) (change : Option α → α) (entries : List (Text × α)) :
    (upsert key change entries).map Prod.fst =
      if key ∈ entries.map Prod.fst then entries.map Prod.fst
      else entries.map Prod.fst ++ [key] := by
  induction entries with
  | nil => simp [upsert]
  | cons entry rest ih =>
      obtain ⟨first, value⟩ := entry
      by_cases here : first = key
      · simp [upsert, here]
      · have apart : key ≠ first := fun h => here h.symm
        simp only [upsert, here, ↓reduceIte, List.map_cons, ih, List.mem_cons, apart, false_or]
        split <;> simp

/-- Entries in the order of their keys' first appearance, each with its last value. -/
def settle (entries : List (Text × α)) : List (Text × α) :=
  entries.foldl (fun settled entry => upsert entry.1 (fun _ => entry.2) settled) []

def entries : Json → List (Text × Json)
  | .object entries => entries
  | _ => []

end Json

end QueryConditions
