import Stencil.Log
import Stencil.Value.Basic

/-!
# Functions and their dispatch

A template calls functions by name. A function declares the types of its
parameters, and a call is checked against them before the function runs: the name
must be known, the number of arguments must fit, and every argument must be of an
accepted kind. Nothing at all is accepted everywhere and becomes the empty value
of the type. A variadic function takes any further arguments as its last
parameter.

A function either gives a value or an error, or it gives a value with an optional
message of failure beside it. What becomes of that message is a choice of the
registry: it is an error, or it goes to the log.
-/

namespace Stencil

/-! ### Parameters -/

/-- The type of a parameter. -/
inductive ParameterType where
  | any
  | bool
  | number
  | string
  | list
  | map
  deriving DecidableEq

namespace ParameterType

/-- The name of a parameter type. -/
def name : ParameterType → String
  | any => "any"
  | bool => "bool"
  | number => "number"
  | string => "string"
  | list => "list"
  | map => "map"

/-- Whether a parameter takes values of a kind. -/
def accepts : ParameterType → Kind → Bool
  | any, _ => true
  | bool, .bool => true
  | number, .number => true
  | string, .string => true
  | list, .list => true
  | map, .map => true
  | _, _ => false

/-- The empty value of a type, which stands in for nothing at all. -/
def zero : ParameterType → Value
  | any => .null
  | bool => .bool false
  | number => .number .zero
  | string => .string ""
  | list => .list []
  | map => .map []

end ParameterType

/-! ### Errors -/

/-- **Why a function cannot be registered or called.** -/
inductive FunctionError where
  /-- No function has this name. -/
  | notFound (name : String)
  /-- The name is taken. -/
  | alreadyDefined (name : String)
  /-- The number of arguments does not fit. -/
  | arityMismatch (name : String) (expected got : Nat) (variadic : Bool)
  /-- An argument is of a kind that its parameter does not take. -/
  | typeMismatch (name : String) (index : Nat) (expected : ParameterType) (found : Kind)
  /-- The function has no meaning for values of this kind. -/
  | unsupported (name : String) (kind : Kind)
  /-- The function failed with a message. -/
  | failed (name message : String)
  /-- The function gave up, and the whole run ends with it. -/
  | aborted
  deriving DecidableEq

/-- The wording of a function error. -/
def FunctionError.message : FunctionError → String
  | notFound name => "\"" ++ name ++ "\" is not defined"
  | alreadyDefined name => "\"" ++ name ++ "\" is already defined"
  | arityMismatch name expected got variadic =>
    "Invalid number of arguments in \"" ++ name ++ "\", expected " ++
      (if variadic then "at least " else "") ++ toString expected ++ ", got " ++ toString got
  | typeMismatch name index expected found =>
    "Invalid type for argument " ++ toString index ++ " of \"" ++ name ++ "\", expected " ++
      expected.name ++ ", got " ++ found.name
  | unsupported name kind => "\"" ++ name ++ "\" does not support " ++ kind.name ++ " values"
  | failed name message => "\"" ++ name ++ "\" failed: " ++ message
  | aborted => "call aborted"

/-! ### Entries -/

/-- What runs when a function is called. -/
inductive Callable where
  /-- Gives a value or an error. -/
  | plain (run : List Value → Except FunctionError Value)
  /-- Gives a value, and perhaps a message of failure beside it. -/
  | fallible (run : List Value → Value × Option String)

/-- **A registered function.** -/
structure Entry where
  name : String
  parameters : List ParameterType
  variadic : Bool
  callable : Callable

namespace Entry

/-- The number of declared parameters. -/
def arity (e : Entry) : Nat := e.parameters.length

/-- The number of arguments a call must have, or must at least have. -/
def expected (e : Entry) : Nat := if e.variadic then e.arity - 1 else e.arity

/-- Whether a number of arguments fits. -/
def takes (e : Entry) (count : Nat) : Bool :=
  if e.variadic then e.expected ≤ count else count == e.expected

/-- The type of the parameter that an argument goes to; the last parameter takes
all arguments from its own place on. -/
def parameterAt (e : Entry) (index : Nat) : ParameterType :=
  e.parameters.getD (min index (e.arity - 1)) .any

/-- The arguments from place `index` on as the function will see them, or the
first that does not fit. -/
def coerceFrom (e : Entry) (index : Nat) : List Value → Except FunctionError (List Value)
  | [] => .ok []
  | arg :: rest =>
    let parameter := e.parameterAt index
    if arg.isNull then (e.coerceFrom (index + 1) rest).map (parameter.zero :: ·)
    else if parameter.accepts arg.kind then (e.coerceFrom (index + 1) rest).map (arg :: ·)
    else .error (.typeMismatch e.name index parameter arg.kind)

/-- The arguments as the function will see them. -/
def coerce (e : Entry) (args : List Value) : Except FunctionError (List Value) :=
  e.coerceFrom 0 args

end Entry

/-! ### The registry -/

/-- **Functions by name.** With `surface` set, a message of failure beside a value
is an error. -/
structure Registry where
  entries : List Entry
  surface : Bool

namespace Registry

/-- The registry without functions. -/
def empty : Registry := ⟨[], false⟩

instance : Inhabited Registry := ⟨empty⟩

/-- The function of a name. -/
def get? (r : Registry) (name : String) : Option Entry := r.entries.find? (·.name = name)

/-- Whether a name is taken. -/
def contains (r : Registry) (name : String) : Bool := (r.get? name).isSome

/-- The registry with messages of failure surfaced or not. -/
def withSurface (r : Registry) (surface : Bool) : Registry := { r with surface }

/-- **Registers a function.** A name is registered once; without parameters a
function is not variadic. -/
def register (r : Registry) (name : String) (parameters : List ParameterType) (variadic : Bool)
    (callable : Callable) : Except FunctionError Registry :=
  if r.contains name then .error (.alreadyDefined name)
  else
    let entry := ⟨name, parameters, variadic && !parameters.isEmpty, callable⟩
    .ok { r with entries := r.entries ++ [entry] }

/-- Runs a function on arguments that were checked. -/
def run (r : Registry) (e : Entry) (args : List Value) : Logged (Except FunctionError Value) :=
  match e.callable with
  | .plain f => .quiet (f args)
  | .fallible f =>
    match f args with
    | (value, none) => .quiet (.ok value)
    | (value, some message) =>
      if r.surface then .quiet (.error (.failed e.name message))
      else ⟨.ok value, [.discarded e.name message]⟩

/-- **Calls a function by name.** The name is looked up, then the number of the
arguments is checked, then their kinds from left to right, and only then does the
function run. -/
def call (r : Registry) (name : String) (args : List Value) : Logged (Except FunctionError Value) :=
  match r.get? name with
  | none => .quiet (.error (.notFound name))
  | some e =>
    if e.takes args.length then
      match e.coerce args with
      | .error error => .quiet (.error error)
      | .ok coerced => r.run e coerced
    else .quiet (.error (.arityMismatch e.name e.expected args.length e.variadic))

end Registry

end Stencil
