/-!
# Command line arguments

What a list of arguments asks for. Options with a value are written `--name value` or
`--name=value`; a separate value must not look like an option, and `--` ends them. The
options `config` and `attributes` stand before the subcommand and may also be given by
variables of the environment.
-/

namespace RecordRules.CommandLine

inductive Command where
  | parse (rule : String)
  /-- The record is given inline or in a file. -/
  | eval (rule : String) (record recordFile : Option String)
  | combine (rules : List String)
  | lint (rule : String)
  deriving DecidableEq

structure Invocation where
  config : Option String
  attributes : Option String
  command : Command
  deriving DecidableEq

inductive Request where
  | run (invocation : Invocation)
  | version
  | misuse
  deriving DecidableEq

inductive Argument where
  /-- The argument `--`. -/
  | escape
  /-- An option by name, with what follows the equals sign. -/
  | long (name : String) (value : Option String)
  | short (letters : List Char)
  | plain (text : String)

def Argument.ofText (text : String) : Argument :=
  match text.toList with
  | ['-', '-'] => escape
  | '-' :: '-' :: rest =>
    let name := String.ofList (rest.takeWhile (· ≠ '='))
    match rest.dropWhile (· ≠ '=') with
    | [] => long name none
    | _ :: value => long name (some (.ofList value))
  | '-' :: letter :: rest => short (letter :: rest)
  | _ => plain text

def isValue (text : String) : Bool :=
  match Argument.ofText text with
  | .plain _ => true
  | _ => false

/-- The names of options, and those among them whose value is a path. -/
structure Options where
  names : List String
  paths : List String

/-- Adds an option's value; an option is given once, and a path is not empty. -/
def Options.add (options : Options) (given : List (String × String)) (name value : String) :
    Option (List (String × String)) :=
  if name ∈ options.names ∧ (given.lookup name).isNone ∧ ¬ (name ∈ options.paths ∧ value = "") then
    some ((name, value) :: given)
  else
    none

def collect (options : Options) (given : List (String × String)) :
    List String → Option (List (String × String) × List String)
  | [] => some (given, [])
  | argument :: rest =>
    match Argument.ofText argument with
    | .escape => some (given, rest)
    | .plain text => do
      let (given, texts) ← collect options given rest
      return (given, text :: texts)
    | .long name (some value) => do collect options (← options.add given name value) rest
    | .long name none =>
      match rest with
      | [] => none
      | value :: rest =>
        if isValue value then do collect options (← options.add given name value) rest
        else none
    | .short _ => none

def recordOptions : Options where
  names := ["record", "record-file"]
  paths := ["record-file"]

def Command.ofArguments? (name : String) (arguments : List String) : Option Command := do
  match name with
  | "parse" =>
    match ← collect ⟨[], []⟩ [] arguments with
    | (_, [rule]) => return .parse rule
    | _ => none
  | "eval" =>
    match ← collect recordOptions [] arguments with
    | (given, [rule]) =>
      let record := given.lookup "record"
      let recordFile := given.lookup "record-file"
      if record.isSome && recordFile.isSome then none
      else return .eval rule record recordFile
    | _ => none
  | "combine" =>
    match ← collect ⟨[], []⟩ [] arguments with
    | (_, []) => none
    | (_, rules) => return .combine rules
  | "lint" =>
    match ← collect ⟨[], []⟩ [] arguments with
    | (_, [rule]) => return .lint rule
    | _ => none
  | _ => none

def globalOptions : Options where
  names := ["config", "attributes"]
  paths := ["config"]

/-- Reads arguments, given the global options before them and the variables that serve
where the configuration file and the attributes are not among these. -/
def Request.read (configVariable attributesVariable : Option String)
    (given : List (String × String)) : List String → Request
  | [] => misuse
  | argument :: rest =>
    match Argument.ofText argument with
    | .escape => misuse
    | .plain name =>
      match Command.ofArguments? name rest with
      | none => misuse
      | some command =>
        let config := given.lookup "config" <|> configVariable
        if config = some "" then misuse
        else run ⟨config, given.lookup "attributes" <|> attributesVariable, command⟩
    | .long "version" none => version
    | .short ('V' :: _) => version
    | .short _ => misuse
    | .long name (some value) =>
      match globalOptions.add given name value with
      | some given => Request.read configVariable attributesVariable given rest
      | none => misuse
    | .long name none =>
      match rest with
      | [] => misuse
      | value :: rest =>
        if isValue value then
          match globalOptions.add given name value with
          | some given => Request.read configVariable attributesVariable given rest
          | none => misuse
        else misuse

end RecordRules.CommandLine
