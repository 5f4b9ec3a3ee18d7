import Absorption.Profile.Report

set_option autoImplicit false

/-!
The command line: `--config FILE` names a configuration in YAML, and `--verbose` asks for all
details in the log.
-/

namespace Absorption.CommandLine

structure Options where
  config : Option String := none
  verbose : Bool := false

/-- The options of a command line, if it has no others. -/
def Options.ofArguments? : (arguments : List String) → Options → Option Options
  | [], o => some o
  | "--verbose" :: rest, o => ofArguments? rest { o with verbose := true }
  | "--config" :: file :: rest, o => ofArguments? rest { o with config := some file }
  | _, _ => none

/-- What ended a report, in words. -/
def stopText : Profile.Stop → String
  | .unloaded (.unreadable _) => "The configuration is not YAML."
  | .unloaded .notMapping => "The configuration is not a mapping."
  | .failed (.refused r) => r.message
  | .failed (.fault _) => "The data do not fit."

def usage : String := "usage: [--config FILE] [--verbose]"

end Absorption.CommandLine

open Absorption CommandLine

/-- Prints the report and returns its exit code; two stands for a wrong command line. -/
def main (arguments : List String) : IO UInt32 := do
  match Options.ofArguments? arguments {} with
  | none =>
    (← IO.getStderr).putStrLn usage
    return 2
  | some o =>
    let content ← match o.config with
      | none => pure none
      | some file => some <$> IO.FS.readFile file
    let (lines, ending) := Profile.report content
    for line in lines do
      IO.println line
    match ending with
    | .ok code => return code.toUInt32
    | .error stop =>
      (← IO.getStderr).putStrLn (stopText stop)
      return 1
