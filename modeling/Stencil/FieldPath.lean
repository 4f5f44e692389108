import Stencil.Text.Split
import Stencil.Value.Basic

/-!
# Paths into values

A path such as `.User.Name` walks from a value through map entries and exported
record fields, one name at a time. Where the data has nothing to offer the walk
ends with nothing; where it may not or cannot go on, it ends with an
`Stencil.AccessError`.
-/

namespace Stencil

/-! ### Paths and their text -/

/-- A non-empty sequence of names. -/
structure FieldPath where
  segments : List String
  nonempty : segments ≠ []
  deriving DecidableEq

namespace FieldPath

/-- The path of a list of names, if there is one at all. -/
def ofSegments? (segments : List String) : Option FieldPath :=
  if h : segments = [] then none else some ⟨segments, h⟩

/-- **The path a text spells**: names separated by dots, none of them empty, with
an optional dot in front. -/
def parse? (text : String) : Option FieldPath :=
  let cs := match text.toList with
    | '.' :: rest => rest
    | cs => cs
  let parts := splitAtChar '.' cs
  if parts.any List.isEmpty then none else ofSegments? (parts.map String.ofList)

/-- **The text of a path**: every name with a dot before it. -/
def display (p : FieldPath) : String := String.join (p.segments.map ("." ++ ·))

end FieldPath

/-! ### The walk -/

/-- Why a path cannot be followed. -/
inductive AccessError where
  /-- The record has the field but does not let it be read. -/
  | unreadable (record field : String)
  /-- The value has no parts to descend into. -/
  | notTraversable (field : String) (kind : Kind)
  deriving DecidableEq

/-- The wording of an access error. -/
def AccessError.message : AccessError → String
  | unreadable record field =>
    "Cannot access unexported field \"" ++ field ++ "\" of \"" ++ record ++ "\""
  | notTraversable field kind => "Cannot access \"" ++ field ++ "\" in " ++ kind.name ++ " value"

/-- **The value at the end of a path.** -/
def Value.resolve : Value → List String → Except AccessError Value
  | v, [] => .ok v
  | null, _ :: _ => .ok null
  | map entries, s :: rest =>
    match lookupEntry s entries with
    | some v => v.resolve rest
    | none => .ok null
  | record r, s :: rest =>
    match r.get? s with
    | some f => if f.isReadable then f.value.resolve rest else .error (.unreadable r.name s)
    | none => .ok null
  | v, s :: _ => .error (.notTraversable s v.kind)

end Stencil
