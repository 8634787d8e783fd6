import RecordRules.CommandLine.Arguments
import RecordRules.CommandLine.Files
import RecordRules.Engine
import RecordRules.Rule.Json

/-!
# Command line

What an invocation prints and how it ends, as a function of the environment and of the
files it can read. The configuration comes from the file, then from the variables, then
from the list of attributes given on the command line; the record is read before the
rule. Results are indented JSON.
-/

namespace RecordRules.CommandLine

structure Outcome where
  code : UInt32
  output : String := ""
  errors : String := ""
  deriving DecidableEq

/-- What went wrong, and why, if that is something else again. -/
structure Failure where
  message : String
  cause : Option String := none
  deriving DecidableEq

namespace Failure

def indented (text : String) : String :=
  .ofList (text.toList.flatMap fun c => if c = '\n' then ['\n', ' ', ' ', ' ', ' '] else [c])

def report (failure : Failure) : String :=
  "Error: " ++ failure.message ++ "\n" ++
    match failure.cause with
    | some cause => "\nCaused by:\n    " ++ indented cause ++ "\n"
    | none => ""

/-- A syntax error is the cause of the failure that wraps it. -/
def ofError (error : RuleError) : Failure where
  message := error.message
  cause := match error with
    | .invalidSyntax inner => some inner.message
    | _ => none

end Failure

/-- The configuration: file, then variables, then the attributes of the command line. -/
def loadConfig (invocation : Invocation) (env : Environment) (files : Files) :
    Except Failure Config := do
  let base ← match invocation.config with
    | none => pure {}
    | some path =>
      let message := "failed to load config from " ++ path
      match files path with
      | none => throw { message }
      | some text => (Config.read text).mapError fun error => { message, cause := error.message }
  let config ← (base.override env).mapError fun error =>
    { message := "invalid RULEKIT_* environment", cause := error.message }
  let config := match invocation.attributes with
    | some list => { config with attributes := .ofCommaSeparated list }
    | none => config
  config.check.mapError fun error => { message := error.message }

def readRecord (files : Files) (inline file : Option String) : Except Failure Record := do
  let text ← match inline, file with
    | some text, _ => pure text
    | none, some path =>
      match files path with
      | some text => pure text
      | none => throw { message := "failed to read record from " ++ path }
    | none, none => throw { message := "either --record or --record-file is required" }
  match Record.read? text with
  | some record => return record
  | none => throw { message := "record must be a JSON object of scalar values" }

/-- A rule with its canonical text. Members are sorted by name throughout. -/
def ruleJson (rule : Rule) : Json :=
  .object [("ast", sorted rule), ("rule", .string rule.canonical)]
where
  sorted : Rule → Json
    | .operator connective left right => .object [
        ("left", sorted left), ("op", .string connective.text), ("right", sorted right),
        ("type", .string "operator")]
    | .comparison field comparator literal => .object [
        ("field", .string field), ("op", .string comparator.text),
        ("type", .string "comparison"), ("value", literal.toJson)]

def printed (json : Json) : Outcome where
  code := 0
  output := json.pretty 0 ++ "\n"

def execute (engine : Engine) (files : Files) : Command → Except Failure Outcome
  | .parse rule => do return printed (ruleJson (← (engine.create rule).mapError .ofError))
  | .eval rule inline file => do
    let record ← readRecord files inline file
    let result ← (engine.evaluate rule record.lookup).1.mapError .ofError
    return printed (.object [("result", .bool result)])
  | .combine rules => do return printed (ruleJson (← (engine.combine rules).mapError .ofError))
  | .lint rule =>
    let report := engine.lint rule
    return { printed report.toJson with code := if report.isValid then 0 else 1 }

def run (invocation : Invocation) (env : Environment) (files : Files) : Outcome :=
  let result : Except Failure Outcome := do
    execute (.ofConfig (← loadConfig invocation env files)) files invocation.command
  match result with
  | .ok outcome => outcome
  | .error failure => { code := 1, errors := failure.report }

def versionText : String := "rulekit 0.1.0\n"

/-- How a request ends. What is wrong with arguments is not explained here. -/
def Request.outcome (env : Environment) (files : Files) : Request → Outcome
  | run invocation => CommandLine.run invocation env files
  | version => { code := 0, output := versionText }
  | misuse => { code := 2 }

def Request.ofArguments (env : Environment) (arguments : List String) : Request :=
  Request.read (env "RULEKIT_CONFIG") (env "RULEKIT_ATTRIBUTES") [] arguments

end RecordRules.CommandLine
