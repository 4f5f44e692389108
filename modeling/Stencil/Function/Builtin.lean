import Stencil.Function.Basic
import Stencil.Function.Print
import Stencil.Text.Case
import Stencil.Text.Find
import Stencil.Text.WhiteSpace
import Stencil.Value.Equality

/-!
# The built-in functions

The functions every registry of templates starts with. Each is written for the
arguments that dispatch lets through; on any other argument list it gives up with
`Stencil.FunctionError.aborted`, which a call through the registry never reaches.
The one way to get there is a format that asks for more places of a number than
can be printed.
-/

namespace Stencil

/-! ### Repetition -/

/-- The longest text, in bytes, that repetition makes. -/
def maxRepeatLength : Nat := 16777216

/-- A text repeated. -/
def repeatText (s : String) (n : Nat) : String := n.repeat (· ++ s) ""

/-- The count that repetition goes by: negative ones and not-a-number count as zero. -/
def repeatCount (count : Number) : Number := if Number.zero.below count then count else .zero

/-- The length of a text repeated, if it can be told in machine words. -/
def repeatLength? (length : Nat) (count : Number) : Option Nat :=
  if count.atMost (.ofNat maxWord) then wordProduct? length count.toWord else none

/-- The wording of a repetition that would be too long. -/
def repeatRefusal (length : Nat) (count : Number) : String :=
  "repeating " ++ toString length ++ " bytes " ++ count.positional ++
    " times exceeds the limit of " ++ toString maxRepeatLength ++ " bytes"

/-- **Repeats a text**, unless the result would be too long. -/
def repeatFunction (s : String) (count : Number) : Except FunctionError Value :=
  if s.isEmpty then .ok (.string "")
  else if (repeatLength? s.utf8ByteSize (repeatCount count)).any (· ≤ maxRepeatLength) then
    .ok (.string (repeatText s (repeatCount count).toWord))
  else .error (.failed "repeat" (repeatRefusal s.utf8ByteSize (repeatCount count)))

/-! ### Comparison -/

/-- The order of texts. -/
def textOrder (a b : String) : Ordering := if a < b then .lt else if a = b then .eq else .gt

/-- The order of two numbers or two texts; other values have none. -/
def compareValues (name : String) : Value → Value → Except FunctionError Ordering
  | .number a, .number b => .ok (a.order b)
  | .string a, .string b => .ok (textOrder a b)
  | .number _, b => .error (.unsupported name b.kind)
  | .string _, b => .error (.unsupported name b.kind)
  | a, _ => .error (.unsupported name a.kind)

/-- A function that compares its two arguments and tests the outcome. -/
def comparison (name : String) (test : Ordering → Bool) :
    List Value → Except FunctionError Value
  | [a, b] => (compareValues name a b).map fun o => .bool (test o)
  | _ => .error .aborted

/-! ### The other functions -/

/-- The length of a text in bytes, or the number of items or entries. -/
def lengthFunction : Value → Except FunctionError Value
  | .string s => .ok (.number (.ofNat s.utf8ByteSize))
  | .list items => .ok (.number (.ofNat items.length))
  | .map entries => .ok (.number (.ofNat entries.length))
  | v => .error (.unsupported "len" v.kind)

/-- A function of one text that gives a text. -/
def textFunction (f : String → String) : List Value → Except FunctionError Value
  | [.string s] => .ok (.string (f s))
  | _ => .error .aborted

/-! ### The table -/

/-- An entry that gives a value or an error. -/
def Entry.plain (name : String) (parameters : List ParameterType) (variadic : Bool)
    (run : List Value → Except FunctionError Value) : Entry :=
  ⟨name, parameters, variadic, .plain run⟩

/-- **The built-in functions**, in the order of their declaration. -/
def builtinEntries : List Entry := [
  .plain "and" [.bool] true fun args => .ok (.bool (args.all Value.isTruthy)),
  .plain "or" [.bool] true fun args => .ok (.bool (args.any Value.isTruthy)),
  .plain "not" [.bool] false fun
    | a :: _ => .ok (.bool (!a.isTruthy))
    | _ => .error .aborted,
  .plain "len" [.any] false fun
    | a :: _ => lengthFunction a
    | _ => .error .aborted,
  .plain "print" [.any] true fun args => .ok (.string (printValues args)),
  .plain "printf" [.string, .any] true fun
    | .string format :: values =>
      match printFormat format values with
      | some text => .ok (.string text)
      | none => .error .aborted
    | _ => .error .aborted,
  .plain "println" [.any] true fun args => .ok (.string (printLine args)),
  .plain "upper" [.string] false (textFunction upperText),
  .plain "lower" [.string] false (textFunction lowerText),
  .plain "title" [.string] false (textFunction titleText),
  .plain "trim" [.string] false (textFunction trimWhiteSpace),
  .plain "repeat" [.string, .number] false fun
    | [.string s, .number n] => repeatFunction s n
    | _ => .error .aborted,
  .plain "default" [.any, .any] false fun
    | [value, fallback] => .ok (if value.isTruthy then value else fallback)
    | _ => .error .aborted,
  .plain "join" [.list, .string] false fun
    | [.list items, .string separator] =>
      .ok (.string (separator.intercalate (items.map Value.display)))
    | _ => .error .aborted,
  .plain "contains" [.string, .string] false fun
    | [.string s, .string part] => .ok (.bool (containsText part.toList s.toList))
    | _ => .error .aborted,
  .plain "eq" [.any, .any] false fun
    | a :: b :: _ => .ok (.bool (a == b))
    | _ => .error .aborted,
  .plain "ne" [.any, .any] false fun
    | a :: b :: _ => .ok (.bool (!(a == b)))
    | _ => .error .aborted,
  .plain "lt" [.any, .any] false (comparison "lt" (· == .lt)),
  .plain "le" [.any, .any] false (comparison "le" (· != .gt)),
  .plain "gt" [.any, .any] false (comparison "gt" (· == .gt)),
  .plain "ge" [.any, .any] false (comparison "ge" (· != .lt))]

/-- The registry of the built-in functions. -/
def Registry.builtins : Registry := ⟨builtinEntries, false⟩

end Stencil
