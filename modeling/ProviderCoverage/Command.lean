import ProviderCoverage.Analysis.Run
import ProviderCoverage.Report.Format
import ProviderCoverage.LogFilter

/-!
# The command line

`tfcov [-c|--config FILE] [-f|--format text|json] [-v|--verbose] [--check] [--show-unmatched]
PATH` analyses the directory `PATH` and writes its report to standard output.

The checks come in this order: at most one path, the path is a directory, the format is known
(in any case), the settings load and check. A failure is written to standard error as
`Error: ` and its report, and ends the command with status 1. For the text format, standard
error first gets the line `-> Analysing PATH...`. Log events go to standard error as the log
filter lets them through. The report lists every entity when asked on the command line or in
the settings, the unlinked tests likewise, and the confidence of links when the settings ask.
With `--check`, a report with an error finding ends the command with status 1.
-/

namespace ProviderCoverage.Command

/-- The arguments of the command. -/
structure Arguments where
  paths : List String := []
  config : Option String := none
  format : Option String := none
  verbose : Bool := false
  check : Bool := false
  showUnmatched : Bool := false
  deriving Repr, DecidableEq

def argumentFailure (why : String) : Failure :=
  ⟨"Failed to parse command line arguments", [why]⟩

/-- Reads the arguments, the later of two settings of one option counting. -/
def parseArguments : List String → Arguments → Except Failure Arguments
  | [], a => .ok a
  | arg :: rest, a =>
    let valued (set : String → Arguments) : Except Failure Arguments :=
      match rest with
      | value :: more => parseArguments more (set value)
      | [] => .error (argumentFailure ("missing value for " ++ arg))
    match arg with
    | "-c" | "--config" => valued fun v => { a with config := some v }
    | "-f" | "--format" => valued fun v => { a with format := some v }
    | "-v" | "--verbose" => parseArguments rest { a with verbose := true }
    | "--check" => parseArguments rest { a with check := true }
    | "--show-unmatched" => parseArguments rest { a with showUnmatched := true }
    | _ =>
      match Text.stripPrefix? arg "--config=", Text.stripPrefix? arg "--format=" with
      | some v, _ => parseArguments rest { a with config := some v }
      | _, some v => parseArguments rest { a with format := some v }
      | none, none =>
        if arg.startsWith "-" && arg != "-" then .error (argumentFailure ("unknown option " ++ arg))
        else parseArguments rest { a with paths := a.paths ++ [arg] }

/-- A piece of standard error: plain text, or a log event to be stamped with the time. -/
inductive ErrorOutput where
  | text (s : String)
  | log (e : Event)

/-- What the command does: its exit status and what it writes. -/
structure Outcome where
  status : Nat
  stdout : String := ""
  stderr : List ErrorOutput := []

/-- Standard error, log lines stamped with `stamp`. -/
def Outcome.stderrText (o : Outcome) (stamp : String) : String :=
  String.join (o.stderr.map fun
    | .text s => s
    | .log e => e.logLine stamp)

def failureText (f : Failure) : String := "Error: " ++ f.report ++ "\n\n"

/-- The command ending in a failure, after what it wrote to standard error. -/
def failed (f : Failure) (before : List ErrorOutput) : Outcome :=
  ⟨1, "", before ++ [.text (failureText f)]⟩

/-- Runs the command over a directory tree with the arguments and the log filter of the
environment. -/
def run (d : Disk) (args : List String) (logEnv : Option String) : Outcome :=
  match parseArguments args {} with
  | .error f => failed f []
  | .ok a =>
    let filter := LogFilter.ofEnvironment logEnv a.verbose
    let logs (es : List Event) : List ErrorOutput := (es.filter filter.allows).map .log
    match a.paths with
    | _ :: _ :: _ => failed ⟨"Expected at most one path. Usage: tfcov [PATH]", []⟩ []
    | paths =>
      let root := paths.head?.getD "."
      if !d.isDir root then failed ⟨root ++ " is not a directory", []⟩ []
      else
        let format? : Except String Report.Format := match a.format with
          | none => .ok Report.Format.text
          | some name =>
            match Report.Format.ofName? name with
            | some f => .ok f
            | none => .error name
        match format? with
        | .error name =>
          failed ⟨"Unknown output format '" ++ name ++ "' (expected text or json)", []⟩ []
        | .ok format =>
          let (settings?, settling) := Settings.forRoot d root a.config
          match settings? with
          | .error f => failed f (logs settling)
          | .ok s =>
            match RegistryCache.ofSettings s with
            | .error e => failed ⟨e.message, []⟩ (logs settling)
            | .ok cache =>
              let announce : List ErrorOutput := if format == .text then
                  [.text (Report.boldColoured .blue "->" ++ " Analysing " ++ root ++ "...\n")]
                else []
              let (out, running) := Analysis.run d root s cache 1 0
              let before := logs settling ++ announce ++ logs running
              match out.analysis with
              | .error f => failed f before
              | .ok analysis =>
                let options : Report.TextOptions :=
                  ⟨a.verbose || s.verbose, a.showUnmatched || s.showUnmatchedTests,
                    s.showMatchConfidence⟩
                ⟨if a.check && analysis.hasErrors then 1 else 0,
                  Report.render analysis format options, before⟩

end ProviderCoverage.Command
