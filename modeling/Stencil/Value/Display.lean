import Stencil.Value.Basic

/-!
# The printed form of a value

Nothing prints as nothing, a text as itself, and the rest in a bracketed notation
that lists what is inside. Brackets and separators are not escaped, so the printed
form is for reading only.
-/

namespace Stencil

namespace Value

mutual

/-- **The printed form of a value.** -/
def display : Value → String
  | null => ""
  | bool b => if b then "true" else "false"
  | number n => n.display
  | string s => s
  | list items => "[" ++ " ".intercalate (displayItems items) ++ "]"
  | map entries => "map[" ++ " ".intercalate (displayEntries entries) ++ "]"
  | record ⟨_, fields⟩ => "\x7b" ++ " ".intercalate (displayFields fields) ++ "\x7d"

/-- The printed forms of the items of a list. -/
def displayItems : List Value → List String
  | [] => []
  | v :: rest => display v :: displayItems rest

/-- The printed forms of the entries of a map. -/
def displayEntries : List (String × Value) → List String
  | [] => []
  | (k, v) :: rest => (k ++ ":" ++ display v) :: displayEntries rest

/-- The printed forms of the fields of a record, which leave out the names. -/
def displayFields : List (Field Value) → List String
  | [] => []
  | ⟨_, v, _⟩ :: rest => display v :: displayFields rest

end

end Value

end Stencil
