import Stencil.Entries
import Stencil.Number.Display

/-!
# Values

A value is any datum that a template can read: nothing at all, a truth value, a
number, a text, a list, a map from texts, or a record. A record differs from a map
in that its fields keep their order and may be private: a private field shows in
the printed form of its record, but no path reads it.
-/

namespace Stencil

/-- Who may read a field of a record. -/
inductive Visibility where
  | exported
  | hidden
  deriving DecidableEq

/-- A field of a record. -/
structure Field (α : Type) where
  name : String
  value : α
  visibility : Visibility

/-- A record: a name and fields in order. -/
structure Record (α : Type) where
  name : String
  fields : List (Field α)

/-- **A value**, any datum that a template can read. The entries of a map are
sorted by key. -/
inductive Value where
  | null
  | bool (b : Bool)
  | number (n : Number)
  | string (s : String)
  | list (items : List Value)
  | map (entries : List (String × Value))
  | record (r : Record Value)
  deriving Inhabited

/-- The kind of a value. -/
inductive Kind where
  | null
  | bool
  | number
  | string
  | list
  | map
  | record
  deriving DecidableEq

/-- The name of a kind. -/
def Kind.name : Kind → String
  | null => "null"
  | bool => "bool"
  | number => "number"
  | string => "string"
  | list => "list"
  | map => "map"
  | record => "record"

/-! ### Records -/

namespace Field

variable {α : Type}

/-- Whether a path may read the field. -/
def isReadable (f : Field α) : Bool := f.visibility == .exported

end Field

/-- The fields with one set: a field of that name is changed in place, else the
field is added at the end. -/
def putField {α : Type} (field : Field α) : List (Field α) → List (Field α)
  | [] => [field]
  | f :: rest => if f.name = field.name then field :: rest else f :: putField field rest

namespace Record

variable {α : Type}

/-- The record without fields. -/
def empty (name : String) : Record α := ⟨name, []⟩

/-- **The record with a field set**; the last write to a name wins. -/
def put (r : Record α) (name : String) (value : α) (visibility : Visibility) : Record α :=
  { r with fields := putField ⟨name, value, visibility⟩ r.fields }

/-- The field of a name. -/
def get? (r : Record α) (name : String) : Option (Field α) :=
  r.fields.find? (·.name = name)

end Record

/-! ### Kinds and truth -/

namespace Value

/-- The kind of a value. -/
def kind : Value → Kind
  | null => .null
  | bool _ => .bool
  | number _ => .number
  | string _ => .string
  | list _ => .list
  | map _ => .map
  | record _ => .record

/-- Whether a value is nothing at all. -/
def isNull : Value → Bool
  | null => true
  | _ => false

/-- Whether a value is a text. -/
def isString : Value → Bool
  | string _ => true
  | _ => false

/-- **The truth of a value**: the empty values and the numbers that count as zero
are false, and every record is true. -/
def isTruthy : Value → Bool
  | null => false
  | bool b => b
  | number n => !n.isZero
  | string s => !s.isEmpty
  | list items => !items.isEmpty
  | map entries => !entries.isEmpty
  | record _ => true

/-- The map with the given entries; the last of equal keys wins. -/
def ofEntries (items : List (String × Value)) : Value := map (entriesOf items)

/-- A number that passed through a notation without infinities and not-a-number,
which stand there as nothing at all. -/
def ofFinite (n : Number) : Value := if n.isFinite then number n else null

end Value

end Stencil
