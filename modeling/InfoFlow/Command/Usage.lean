import InfoFlow.Analysis

/-!
# Command lines

The grammar of the arguments. The first argument names a command; then come options, flags and at
most one other argument, in any order. An option takes its value as `-f v`, `-fv`, `-f=v`,
`--format v` or `--format=v`, and `--` ends the options. Arguments are read from left to right;
the value of an option is looked at when the next argument has been recognised.
-/

namespace InfoFlow

/-- What `check` is asked to do. -/
structure CheckOptions where
  path : String
  format : String
  output : Option String
  explicitOnly : Bool
  jobs : Option Nat
  strict : Bool
  deriving DecidableEq, Repr

/-- A command. -/
inductive Command where
  /-- Look for leaks in the bodies of a file or of the files in a directory. -/
  | check (options : CheckOptions)
  /-- Print the graph of one body of a file. -/
  | dot (file unit : String)
  /-- Print the version. -/
  | version
  deriving DecidableEq, Repr

/-- What the analysis has to know of the options. -/
def CheckOptions.config (o : CheckOptions) : Config where
  reportImplicit := !o.explicitOnly
  jobs := o.jobs
  strict := o.strict

/-- What the analysis has to know of a command; only `check` analyses anything. -/
def Command.config? : Command → Option Config
  | .check o => some o.config
  | _ => none

namespace Usage

/-- Why there is no command. -/
inductive Stop where
  /-- Help was asked for. -/
  | help
  /-- The version was asked for, of the program or of one of its commands. -/
  | version (command : Option String)
  /-- There are no arguments. -/
  | nothing
  | missingArgument
  | unknownArgument
  | invalidValue
  | repeatedArgument
  | malformedValue
  | unexpectedValue
  | unknownCommand
  deriving DecidableEq, Repr

/-- The exit status of a run that ends with help, the version or a complaint. -/
def Stop.exitCode : Stop → Nat
  | .help => 0
  | .version _ => 0
  | _ => 2

/-- What values an argument takes. -/
inductive ValueRule where
  | any
  | nonEmpty
  /-- An integer of at most 64 bits without sign. -/
  | count
  deriving DecidableEq, Repr

/-- An argument of a command. A flag has no rule for values. -/
structure Argument where
  name : String
  short : Option Char
  rule : Option ValueRule
  deriving DecidableEq, Repr

/-- The arguments of a command. -/
structure Grammar where
  command : String
  positional : Option Argument
  options : List Argument
  required : List String
  deriving DecidableEq, Repr

/-- The arguments of `check`. -/
def checkGrammar : Grammar where
  command := "check"
  positional := some ⟨"path", none, some .nonEmpty⟩
  options := [⟨"format", some 'f', some .any⟩, ⟨"output", some 'o', some .nonEmpty⟩,
    ⟨"explicit-only", none, none⟩, ⟨"jobs", some 'j', some .count⟩, ⟨"strict", none, none⟩]
  required := ["path"]

/-- The arguments of `dot`. -/
def dotGrammar : Grammar where
  command := "dot"
  positional := some ⟨"file", none, some .nonEmpty⟩
  options := [⟨"unit", some 'u', some .any⟩]
  required := ["file", "unit"]

/-- The arguments of `version`. -/
def versionGrammar : Grammar where
  command := "version"
  positional := none
  options := []
  required := []

/-- The commands, help apart. -/
def grammars : List Grammar := [checkGrammar, dotGrammar, versionGrammar]

/-- The number that a text stands for: digits, with or without a plus sign, below `2^64`. -/
def count? (text : String) : Option Nat :=
  let digits :=
    match text.toList with
    | '+' :: rest => rest
    | chars => chars
  if digits ≠ [] ∧ digits.all Char.isDigit ∧
      Nat.ofDigitChars 10 digits 0 < 18446744073709551616 then
    some (Nat.ofDigitChars 10 digits 0)
  else none

/-- Accepts the values that a rule allows. -/
def ValueRule.check (rule : ValueRule) (value : String) : Except Stop Unit :=
  match rule with
  | .any => .ok ()
  | .nonEmpty => if value.isEmpty then .error .invalidValue else .ok ()
  | .count => if (count? value).isNone then .error .malformedValue else .ok ()

/-- The arguments read so far. -/
structure Reading where
  /-- Arguments with their values; flags have an empty one. -/
  taken : List (String × String)
  /-- An argument that is still to be taken, and its value unless that is still to come. -/
  pending : Option (Argument × Option String)
  /-- Whether the argument that is no option was met. -/
  positionalMet : Bool
  /-- Whether the options have ended. -/
  ended : Bool
  deriving DecidableEq, Repr

/-- The reading before the first argument. -/
def Reading.start : Reading where
  taken := []
  pending := none
  positionalMet := false
  ended := false

namespace Reading

/-- The value of an argument. -/
def value? (r : Reading) (name : String) : Option String :=
  (r.taken.find? fun entry => entry.1 = name).map Prod.snd

/-- Takes an argument with its value. -/
def take (r : Reading) (a : Argument) (value : String) : Except Stop Reading := do
  if (r.value? a.name).isSome then throw .repeatedArgument
  match a.rule with
  | none => pure ()
  | some rule => rule.check value
  return { r with taken := r.taken ++ [(a.name, value)] }

/-- Takes the argument that is pending. -/
def settle (r : Reading) : Except Stop Reading :=
  match r.pending with
  | none => .ok r
  | some (_, none) => .error .invalidValue
  | some (a, some value) => { r with pending := none }.take a value

/-- Meets an option or a flag with the value that is attached to it. -/
def meet (r : Reading) (a : Argument) (attached : Option String) : Except Stop Reading :=
  match a.rule, attached with
  | none, some _ => .error .unexpectedValue
  | none, none => do (← r.settle).take a ""
  | some _, some value => do (← r.settle).take a value
  | some _, none => do return { (← r.settle) with pending := some (a, none) }

/-- Ends with help or the version, after what is pending was taken. -/
def stop (r : Reading) (s : Stop) : Except Stop Reading := do
  let _ ← r.settle
  throw s

/-- Meets an argument that starts with two hyphens. -/
def meetLong (g : Grammar) (r : Reading) (name : String) (attached : Option String) :
    Except Stop Reading :=
  match g.options.find? (·.name = name) with
  | some a => r.meet a attached
  | none =>
    if name = "help" then
      if attached.isSome then .error .unexpectedValue else r.stop .help
    else if name = "version" then
      if attached.isSome then .error .unexpectedValue else r.stop (.version (some g.command))
    else .error .unknownArgument

/-- The value that stands in the same argument as a letter. -/
def attachedValue : List Char → Option String
  | [] => none
  | '=' :: value => some (String.ofList value)
  | value => some (String.ofList value)

/-- Meets the letters of an argument that starts with one hyphen. -/
def meetShort (g : Grammar) (r : Reading) : List Char → Except Stop Reading
  | [] => .ok r
  | c :: rest =>
    match g.options.find? (·.short = some c) with
    | some a =>
      if a.rule.isSome then r.meet a (attachedValue rest)
      else do meetShort g (← r.meet a none) rest
    | none =>
      if c = 'h' then r.stop .help
      else if c = 'V' then r.stop (.version (some g.command))
      else .error .unknownArgument

/-- Meets an argument that is no option. -/
def meetPositional (g : Grammar) (r : Reading) (value : String) : Except Stop Reading :=
  match g.positional with
  | none => .error .unknownArgument
  | some a =>
    if r.positionalMet then .error .unknownArgument
    else do
      return { (← r.settle) with pending := some (a, some value), positionalMet := true }

/-- Meets the next argument. -/
def step (g : Grammar) (r : Reading) (arg : String) : Except Stop Reading :=
  if r.ended then r.meetPositional g arg
  else
    match arg.toList with
    | '-' :: '-' :: [] => .ok { r with ended := true }
    | '-' :: '-' :: rest =>
      let name := String.ofList (rest.takeWhile (· ≠ '='))
      match rest.dropWhile (· ≠ '=') with
      | [] => r.meetLong g name none
      | _ :: value => r.meetLong g name (some (String.ofList value))
    | '-' :: c :: rest => r.meetShort g (c :: rest)
    | _ =>
      match r.pending with
      | some (a, none) => .ok { r with pending := some (a, some arg) }
      | _ => r.meetPositional g arg

/-- Ends the reading: what is pending is taken, and nothing required may be missing. -/
def finish (g : Grammar) (r : Reading) : Except Stop Reading := do
  let r ← r.settle
  if g.required.all fun name => (r.value? name).isSome then return r
  else throw .missingArgument

/-- Reads the arguments of a command. -/
def run (g : Grammar) (args : List String) : Except Stop Reading := do
  (← args.foldlM (step g) .start).finish g

end Reading

/-- The command that was read. -/
def toCommand (g : Grammar) (r : Reading) : Command :=
  if g.command = "check" then
    .check {
      path := (r.value? "path").getD ""
      format := (r.value? "format").getD "terminal"
      output := r.value? "output"
      explicitOnly := (r.value? "explicit-only").isSome
      jobs := (r.value? "jobs").bind count?
      strict := (r.value? "strict").isSome }
  else if g.command = "dot" then
    .dot ((r.value? "file").getD "") ((r.value? "unit").getD "")
  else .version

/-- The grammar of a command. -/
def grammar? (name : String) : Option Grammar :=
  grammars.find? (·.command = name)

/-- What `help` with the given arguments comes to: help on the program or on one command. -/
def helpOn : List String → Stop
  | [] => .help
  | [name] => if name = "help" ∨ (grammar? name).isSome then .help else .unknownCommand
  | _ => .unknownCommand

/-- What an argument in the place of a command comes to. -/
def notACommand (arg : String) : Stop :=
  match arg.toList with
  | '-' :: '-' :: rest =>
    let name := String.ofList (rest.takeWhile (· ≠ '='))
    if name = "help" ∨ name = "version" then
      if '=' ∈ rest then .unexpectedValue else if name = "help" then .help else .version none
    else .unknownArgument
  | '-' :: c :: _ =>
    if c = 'h' then .help else if c = 'V' then .version none else .unknownArgument
  | _ => .unknownCommand

/-- What the argument after a leading `--` comes to: no command can stand there. -/
def afterEnd (arg : String) : Stop :=
  if arg = "help" ∨ (grammar? arg).isSome then .unknownArgument else .unknownCommand

/-- Reads the arguments of the program. -/
def parse : List String → Except Stop Command
  | [] => .error .nothing
  | arg :: rest =>
    match grammar? arg with
    | some g => do return toCommand g (← Reading.run g rest)
    | none =>
      if arg = "help" then .error (helpOn rest)
      else if arg = "--" then .error ((rest.head?.map afterEnd).getD .nothing)
      else .error (notACommand arg)

end Usage

end InfoFlow
