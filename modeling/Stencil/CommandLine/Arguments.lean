import Stencil.Source.Nodes

/-!
# Command line arguments

The arguments of the command: options that hold for every subcommand, then a
subcommand, then its own options and template files in any order. An option with a
value takes it from the rest of its own argument or from the next one; an option
may be given once only, apart from the two that set the verbosity, which count.
Arguments are taken from left to right, so of a request for help and a mistake the
first one decides.
-/

namespace Stencil

namespace CommandLine

/-! ### What is asked for -/

/-- Why arguments do not ask for a run. -/
inductive Usage where
  | help
  | version
  | invalid
  deriving DecidableEq

/-- What a run is to do. -/
inductive Task where
  /-- Emit the templates as a program. -/
  | generate (moduleName output : Option String)
  /-- Render a template. -/
  | render (template : String) (data : Option String) (strict : Bool) (output : Option String)
  /-- Compile the templates. -/
  | check
  deriving DecidableEq

/-- How much of the log is shown. -/
inductive Verbosity where
  | off
  | error
  | warn
  | info
  | debug
  | trace
  deriving DecidableEq

/-- The name of a verbosity. -/
def Verbosity.name : Verbosity → String
  | off => "OFF"
  | error => "ERROR"
  | warn => "WARN"
  | info => "INFO"
  | debug => "DEBUG"
  | trace => "TRACE"

/-- The verbosity after steps up and steps down from the middle. -/
def Verbosity.ofSteps (up down : Nat) : Verbosity :=
  match (1 : Int) + up - down with
  | .negSucc _ => off
  | .ofNat 0 => off
  | .ofNat 1 => error
  | .ofNat 2 => warn
  | .ofNat 3 => info
  | .ofNat 4 => debug
  | .ofNat _ => trace

/-- **A request**: what to do, with which delimiters, on which files. -/
structure Request where
  task : Task
  delimiters : Delimiters
  files : List String
  verbosity : Verbosity
  deriving DecidableEq

/-! ### Options -/

/-- The subcommands. -/
inductive Subcommand where
  | generate
  | render
  | check
  deriving DecidableEq

/-- The subcommand of a name. -/
def Subcommand.ofName? (name : String) : Option Subcommand :=
  if name = "generate" then some .generate
  else if name = "render" then some .render
  else if name = "check" then some .check
  else none

/-- The options with a value. -/
inductive ValueOption where
  | moduleName
  | output
  | template
  | data
  | leftDelimiter
  | rightDelimiter
  deriving DecidableEq

/-- The options without a value. -/
inductive Flag where
  | strict
  | verbose
  | quiet
  | help
  | version
  deriving DecidableEq

/-- What an option name stands for. -/
inductive OptionKind where
  | valued (o : ValueOption)
  | flag (f : Flag)
  deriving DecidableEq

/-- The option of a long name, under a subcommand or before any. -/
def longOption? (sub : Option Subcommand) (name : String) : Option OptionKind :=
  if name = "verbose" then some (.flag .verbose)
  else if name = "quiet" then some (.flag .quiet)
  else if name = "help" then some (.flag .help)
  else
    match sub with
    | none => if name = "version" then some (.flag .version) else none
    | some sub =>
      if name = "left-delim" then some (.valued .leftDelimiter)
      else if name = "right-delim" then some (.valued .rightDelimiter)
      else if name = "module-name" ∧ sub = .generate then some (.valued .moduleName)
      else if name = "output" ∧ sub ≠ .check then some (.valued .output)
      else if name = "template" ∧ sub = .render then some (.valued .template)
      else if name = "data" ∧ sub = .render then some (.valued .data)
      else if name = "strict" ∧ sub = .render then some (.flag .strict)
      else none

/-- The option of a letter, under a subcommand or before any. -/
def shortOption? (sub : Option Subcommand) (letter : Char) : Option OptionKind :=
  if letter = 'v' then some (.flag .verbose)
  else if letter = 'q' then some (.flag .quiet)
  else if letter = 'h' then some (.flag .help)
  else
    match sub with
    | none => if letter = 'V' then some (.flag .version) else none
    | some sub =>
      if letter = 'm' ∧ sub = .generate then some (.valued .moduleName)
      else if letter = 'o' ∧ sub ≠ .check then some (.valued .output)
      else if letter = 't' ∧ sub = .render then some (.valued .template)
      else if letter = 'd' ∧ sub = .render then some (.valued .data)
      else none

/-- Whether the value of an option is a path, which cannot be empty. -/
def ValueOption.isPath : ValueOption → Bool
  | output | data => true
  | _ => false

/-! ### Collecting -/

/-- What has been collected from arguments. -/
structure Collected where
  values : List (ValueOption × String) := []
  strict : Bool := false
  verbose : Nat := 0
  quiet : Nat := 0
  files : List String := []

/-- The largest count of an option that counts; giving it more often adds nothing. -/
def maxCount : Nat := 255

namespace Collected

/-- The value of an option. -/
def value? (c : Collected) (o : ValueOption) : Option String := c.values.lookup o

/-- Sets the value of an option, once. -/
def setValue (c : Collected) (o : ValueOption) (value : String) : Except Usage Collected :=
  if (c.value? o).isSome || o.isPath && value.isEmpty then .error .invalid
  else .ok { c with values := c.values ++ [(o, value)] }

/-- Sets an option without a value. -/
def setFlag (c : Collected) : Flag → Except Usage Collected
  | .strict => if c.strict then .error .invalid else .ok { c with strict := true }
  | .verbose => .ok { c with verbose := min (c.verbose + 1) maxCount }
  | .quiet => .ok { c with quiet := min (c.quiet + 1) maxCount }
  | .help => .error .help
  | .version => .error .version

/-- Adds a template file. -/
def addFile (c : Collected) (file : String) : Except Usage Collected :=
  if file.isEmpty then .error .invalid else .ok { c with files := c.files ++ [file] }

/-- Adds template files. -/
def addFiles (c : Collected) : List String → Except Usage Collected
  | [] => .ok c
  | file :: rest =>
    match c.addFile file with
    | .error u => .error u
    | .ok c => c.addFiles rest

/-- Whether the two ways to set the verbosity were both used. -/
def conflicts (c : Collected) : Bool := 0 < c.verbose && 0 < c.quiet

end Collected

/-- How an argument that is an option ends: it is complete, or it waits for the
next argument as its value. -/
inductive Pending where
  | complete (c : Collected)
  | waiting (c : Collected) (o : ValueOption)

/-- Reads letters of one argument. The first option with a value takes the rest of
the argument, without an equals sign in front. -/
def readLetters (sub : Option Subcommand) (c : Collected) : List Char → Except Usage Pending
  | [] => .ok (.complete c)
  | letter :: rest =>
    match shortOption? sub letter with
    | none => .error .invalid
    | some (.flag f) =>
      match c.setFlag f with
      | .error u => .error u
      | .ok c => readLetters sub c rest
    | some (.valued o) =>
      match rest with
      | [] => .ok (.waiting c o)
      | '=' :: value => (c.setValue o (String.ofList value)).map .complete
      | value => (c.setValue o (String.ofList value)).map .complete

/-- Splits a long option at its first equals sign. -/
def splitLong (cs : List Char) : String × Option String :=
  match cs.dropWhile (· != '=') with
  | [] => (String.ofList cs, none)
  | _ :: value => (String.ofList (cs.takeWhile (· != '=')), some (String.ofList value))

/-- Reads a long option, given without its two dashes. -/
def readLong (sub : Option Subcommand) (c : Collected) (cs : List Char) : Except Usage Pending :=
  let (name, value?) := splitLong cs
  match longOption? sub name, value? with
  | some (.valued o), some value => (c.setValue o value).map .complete
  | some (.valued o), none => .ok (.waiting c o)
  | some (.flag f), none => (c.setFlag f).map .complete
  | _, _ => .error .invalid

/-- What an argument looks like. -/
inductive Shape where
  /-- Two dashes: everything after them is a file. -/
  | escape
  /-- A long option, without its dashes. -/
  | long (cs : List Char)
  /-- Letters of short options, without their dash. -/
  | short (cs : List Char)
  /-- Anything else, a lone dash included. -/
  | plain

/-- The shape of an argument. -/
def Shape.of (arg : String) : Shape :=
  match arg.toList with
  | ['-', '-'] => escape
  | '-' :: '-' :: cs => long cs
  | ['-'] => plain
  | '-' :: cs => short cs
  | _ => plain

/-- Whether an argument can be the value of an option before it. -/
def isValue (arg : String) : Bool :=
  match Shape.of arg with
  | .plain => true
  | _ => false

/-- **Reads the arguments after a subcommand.** -/
def readArguments (sub : Subcommand) (c : Collected) : List String → Except Usage Collected
  | [] => .ok c
  | arg :: rest =>
    let read := match Shape.of arg with
      | .escape => none
      | .long cs => some (readLong sub c cs)
      | .short cs => some (readLetters sub c cs)
      | .plain => some ((c.addFile arg).map .complete)
    match read with
    | none => c.addFiles rest
    | some (.error u) => .error u
    | some (.ok (.complete c)) => readArguments sub c rest
    | some (.ok (.waiting c o)) =>
      match rest with
      | [] => .error .invalid
      | value :: rest =>
        if isValue value then
          match c.setValue o value with
          | .error u => .error u
          | .ok c => readArguments sub c rest
        else .error .invalid

/-! ### Requests -/

/-- The task that a subcommand with its options asks for. -/
def taskOf (sub : Subcommand) (c : Collected) : Except Usage Task :=
  match sub with
  | .generate => .ok (.generate (c.value? .moduleName) (c.value? .output))
  | .render =>
    match c.value? .template with
    | none => .error .invalid
    | some template => .ok (.render template (c.value? .data) c.strict (c.value? .output))
  | .check => .ok .check

/-- The request of a subcommand, after the options before it. A verbosity set
after the subcommand replaces one set before it. -/
def requestOf (before : Collected) (sub : Subcommand) (c : Collected) : Except Usage Request :=
  if c.conflicts || before.conflicts || c.files.isEmpty then .error .invalid
  else
    match taskOf sub c with
    | .error u => .error u
    | .ok task =>
      let left := (c.value? .leftDelimiter).getD Delimiters.standard.left
      let right := (c.value? .rightDelimiter).getD Delimiters.standard.right
      let up := if c.verbose = 0 then before.verbose else c.verbose
      let down := if c.quiet = 0 then before.quiet else c.quiet
      .ok ⟨task, ⟨left, right⟩, c.files, .ofSteps up down⟩

/-- Whether names after the word for help lead to a subcommand. -/
def isHelpTopic : List String → Bool
  | [] => true
  | [name] => name = "help" || (Subcommand.ofName? name).isSome
  | _ => false

/-- **Reads the arguments of the command**, after the options in `before`. -/
def readCommand (before : Collected) : List String → Except Usage Request
  | [] => .error .invalid
  | arg :: rest =>
    match Subcommand.ofName? arg with
    | some sub =>
      match readArguments sub {} rest with
      | .error u => .error u
      | .ok c => requestOf before sub c
    | none =>
      if arg = "help" then .error (if isHelpTopic rest then .help else .invalid)
      else
        let read := match Shape.of arg with
          | .long cs => readLong none before cs
          | .short cs => readLetters none before cs
          | _ => .error .invalid
        match read with
        | .ok (.complete c) => readCommand c rest
        | .ok (.waiting ..) => .error .invalid
        | .error u => .error u

/-- **The request that arguments make**, or how they fail to make one. -/
def parse (args : List String) : Except Usage Request := readCommand {} args

end CommandLine

end Stencil
