import Walkthrough.Report.Format

/-! # Options of the command line

The options take their value from the same argument, after an equals sign or right after a letter,
or from the next argument if that does not begin with a dash.

* `Options` holds what was given; `--input` and `--folder` may be given again, the others not;
* `Options.read` goes through the arguments with the option that still waits for its value;
* `Stop` says why the program does not run: a fault in the arguments, or a question about it. -/

namespace Walkthrough

/-- What the command line asks for. -/
structure Options where
  inputs : List String := []
  folders : List String := []
  output : Option String := none
  format : Option Format := none
  settings : Option String := none
  serve : Option Nat := none
deriving DecidableEq, Repr

/-- The options that take a value. -/
inductive OptionName where
  | input
  | folder
  | output
  | format
  | settings
  | serve
deriving DecidableEq, Repr

/-- Why the program does not run. -/
inductive Stop where
  /-- a fault in the arguments -/
  | usage
  /-- the options were asked for -/
  | help
  /-- the version was asked for -/
  | version
deriving DecidableEq, Repr

/-- What an option is: one that takes a value, or a question. -/
inductive OptionKind where
  | value (name : OptionName)
  | question (stop : Stop)
deriving DecidableEq, Repr

namespace OptionKind

/-- The option with a long name. -/
def ofLong? : String → Option OptionKind
  | "input" => some (value .input)
  | "folder" => some (value .folder)
  | "output" => some (value .output)
  | "format" => some (value .format)
  | "config" => some (value .settings)
  | "serve" => some (value .serve)
  | "help" => some (question .help)
  | "version" => some (question .version)
  | _ => none

/-- The option with a letter. -/
def ofLetter? : Char → Option OptionKind
  | 'i' => some (value .input)
  | 'd' => some (value .folder)
  | 'o' => some (value .output)
  | 'f' => some (value .format)
  | 'c' => some (value .settings)
  | 'h' => some (question .help)
  | 'V' => some (question .version)
  | _ => none

end OptionKind

namespace Options

/-- A port: decimal digits, after an optional sign, of a number of 16 bits. -/
def port? (s : String) : Option Nat := do
  let (negative, digits) := match s.toList with
    | '-' :: cs => (true, cs)
    | '+' :: cs => (false, cs)
    | cs => (false, cs)
  if digits.isEmpty || !digits.all Char.isDigit then none
  else
    let n := digits.foldl (fun n c => 10 * n + (c.toNat - '0'.toNat)) 0
    if n ≤ 65535 ∧ (negative → n = 0) then some n else none

/-- Sets what was not set before. -/
def once {α : Type} (old : Option α) (new : α) : Option (Option α) :=
  match old with
  | none => some (some new)
  | some _ => none

/-- Gives an option its value, if it may have it. -/
def give (o : Options) (name : OptionName) (value : String) : Option Options :=
  match name with
  | .input => some { o with inputs := o.inputs ++ [value] }
  | .folder => some { o with folders := o.folders ++ [value] }
  | .output => (once o.output value).map fun v => { o with output := v }
  | .format => do
    let f ← Format.ofName? value
    let v ← once o.format f
    return { o with format := v }
  | .settings => do
    if value.isEmpty then none
    else
      let v ← once o.settings value
      return { o with settings := v }
  | .serve => do
    let port ← port? value
    let v ← once o.serve port
    return { o with serve := v }

/-- The value of an option that is given none, if it may go without. -/
def absent? : OptionName → Option String
  | .serve => some "0"
  | _ => none

/-- The options once the one that waits goes without a value. -/
def settle (o : Options) : Option OptionName → Except Stop Options
  | none => .ok o
  | some name =>
    match (absent? name).bind (o.give name) with
    | some o => .ok o
    | none => .error .usage

/-- Gives an option its value once the one that waits goes without. -/
def attach (o : Options) (waiting : Option OptionName) (name : OptionName) (value : String) :
    Except Stop Options := do
  let o ← o.settle waiting
  match o.give name value with
  | some o => .ok o
  | none => .error .usage

/-- What an argument is. -/
inductive Argument where
  /-- the end of the options -/
  | dashes
  /-- an option with or without a value of its own -/
  | option (kind : Option OptionKind) (value : Option String)
  /-- anything else -/
  | plain (s : String)

/-- The long option of an argument after its two dashes. -/
def longArgument (cs : List Char) : Argument :=
  match cs.span (· != '=') with
  | (name, []) => .option (OptionKind.ofLong? (String.ofList name)) none
  | (name, _ :: value) =>
    .option (OptionKind.ofLong? (String.ofList name)) (some (String.ofList value))

/-- The short option of an argument after its dash. -/
def shortArgument (c : Char) (cs : List Char) : Argument :=
  .option (OptionKind.ofLetter? c) <|
    match cs with
    | [] => none
    | '=' :: value => some (String.ofList value)
    | value => some (String.ofList value)

/-- What an argument is. -/
def argument (s : String) : Argument :=
  match s.toList with
  | ['-', '-'] => .dashes
  | '-' :: '-' :: cs => longArgument cs
  | '-' :: c :: cs => shortArgument c cs
  | _ => .plain s

/-- Goes through the arguments; `waiting` is the option that may take its value from the next. -/
def scan (o : Options) (waiting : Option OptionName) : List String → Except Stop Options
  | [] => o.settle waiting
  | s :: rest =>
    match argument s with
    | .dashes => if rest.isEmpty then o.settle waiting else .error .usage
    | .option (some (.value name)) (some value) => do
      let o ← o.attach waiting name value
      scan o none rest
    | .option (some (.value name)) none => do
      let o ← o.settle waiting
      scan o (some name) rest
    | .option (some (.question stop)) value => do
      let _ ← o.settle waiting
      if value.isSome && s.startsWith "--" then .error .usage else .error stop
    | .option none _ => .error .usage
    | .plain value =>
      match waiting with
      | none => .error .usage
      | some name => do
        let o ← o.attach none name value
        scan o none rest

/-- Reads the arguments of the command line. -/
def read (args : List String) : Except Stop Options := scan {} none args

end Options

end Walkthrough
