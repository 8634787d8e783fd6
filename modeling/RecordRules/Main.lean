import RecordRules.CommandLine

/-!
# Program

Runs the command line: reads the variables and files that a request names and prints
its outcome.
-/

open RecordRules CommandLine

private def variableNames : List String := [
  "RULEKIT_CONFIG", "RULEKIT_ATTRIBUTES", "RULEKIT_MAX_DEPTH", "RULEKIT_LENIENT_TOKENS",
  "RULEKIT_CACHE_CAPACITY"]

private def readFile? (path : String) : IO (Option String) := do
  try
    return some (← IO.FS.readFile path)
  catch _ =>
    return none

private def paths : Request → List String
  | .run ⟨config, _, .eval _ _ recordFile⟩ => config.toList ++ recordFile.toList
  | .run ⟨config, _, _⟩ => config.toList
  | _ => []

def main (arguments : List String) : IO UInt32 := do
  let values ← variableNames.mapM fun name => do return (name, ← IO.getEnv name)
  let env : Environment := fun name => (values.lookup name).join
  let request := Request.ofArguments env arguments
  let contents ← (paths request).mapM fun path => do return (path, ← readFile? path)
  let outcome := request.outcome env fun path => (contents.lookup path).join
  IO.print outcome.output
  IO.eprint outcome.errors
  return outcome.code
