import Stencil.Value.Basic

/-!
# Equality of values

Two values are the same when they have the same kind and the same contents, with
numbers compared as quantities: the two zeros are the same, and a value that holds
not-a-number anywhere is not even the same as itself. Records also agree in their
names and in the order, names and visibility of their fields.
-/

namespace Stencil

namespace Value

mutual

/-- **Whether two values are the same.** -/
def same : Value → Value → Bool
  | null, null => true
  | bool a, bool b => a == b
  | number a, number b => a == b
  | string a, string b => a == b
  | list a, list b => sameItems a b
  | map a, map b => sameEntries a b
  | record ⟨a, fs⟩, record ⟨b, gs⟩ => a == b && sameFields fs gs
  | _, _ => false

/-- Whether two lists have the same items. -/
def sameItems : List Value → List Value → Bool
  | [], [] => true
  | v :: vs, w :: ws => same v w && sameItems vs ws
  | _, _ => false

/-- Whether two maps have the same entries. -/
def sameEntries : List (String × Value) → List (String × Value) → Bool
  | [], [] => true
  | (j, v) :: vs, (k, w) :: ws => j == k && same v w && sameEntries vs ws
  | _, _ => false

/-- Whether two records have the same fields. -/
def sameFields : List (Field Value) → List (Field Value) → Bool
  | [], [] => true
  | ⟨j, v, s⟩ :: vs, ⟨k, w, t⟩ :: ws => j == k && same v w && s == t && sameFields vs ws
  | _, _ => false

end

instance : BEq Value := ⟨same⟩

end Value

end Stencil
