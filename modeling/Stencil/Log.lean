/-!
# The log

What a run reports besides its result. An event is a fact of the run; its level
and its wording are read off it. Computations that report carry their events next
to their value, in the order in which they happened.
-/

namespace Stencil

/-- How important an event is. -/
inductive LogLevel where
  | debug
  | info
  | warn
  deriving DecidableEq

/-- The name of a level. -/
def LogLevel.name : LogLevel → String
  | debug => "DEBUG"
  | info => "INFO"
  | warn => "WARN"

/-- **An event of a run.** -/
inductive LogEvent where
  /-- A template was compiled into a number of steps. -/
  | compiled (template : String) (steps : Nat)
  /-- A set of templates was compiled. -/
  | compiledAll (count : Nat)
  /-- A routine was emitted for a template. -/
  | emitted (routine template : String)
  /-- A template is about to be rendered. -/
  | rendering (template : String)
  /-- A step of a template failed. -/
  | stepFailed (template : String) (line : Nat) (error : String)
  /-- A function reported a failure next to its value, and the value was used. -/
  | discarded (function message : String)
  /-- A template was found to be in order. -/
  | checked (template : String)
  deriving DecidableEq

namespace LogEvent

/-- The level of an event. -/
def level : LogEvent → LogLevel
  | compiled .. | compiledAll _ | emitted .. | rendering _ | stepFailed .. => .debug
  | discarded .. => .warn
  | checked _ => .info

/-- The wording of an event. -/
def message : LogEvent → String
  | compiled template steps =>
    "compiled template \"" ++ template ++ "\" into " ++ toString steps ++ " steps"
  | compiledAll count => "compiled " ++ toString count ++ " templates"
  | emitted routine template =>
    "generated routine " ++ routine ++ " for template \"" ++ template ++ "\""
  | rendering template => "rendering template \"" ++ template ++ "\""
  | stepFailed template line error => template ++ ":" ++ toString line ++ ": " ++ error
  | discarded function message =>
    "discarding secondary error from \"" ++ function ++ "\": " ++ message
  | checked template => template ++ ": ok"

end LogEvent

/-- **A value with the events of its computation**, in order. -/
structure Logged (α : Type) where
  value : α
  events : List LogEvent

namespace Logged

variable {α : Type}

/-- A value without events. -/
def quiet (a : α) : Logged α := ⟨a, []⟩

/-- The same value, with events that happened before. -/
def after (events : List LogEvent) (x : Logged α) : Logged α := ⟨x.value, events ++ x.events⟩

end Logged

end Stencil
