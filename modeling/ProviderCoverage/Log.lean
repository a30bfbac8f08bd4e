/-!
# Log events

Operations report what they did as log events, returned beside their results: a level, a
message and the part of the program that reports it, written as one line `LEVEL message`.
-/

namespace ProviderCoverage

/-- How much an event matters. -/
inductive Level where
  | debug
  | info
  | warn
  deriving Repr, DecidableEq, Inhabited

def Level.tag : Level → String
  | .debug => "DEBUG"
  | .info => "INFO"
  | .warn => "WARN"

/-- Which part of the program reports an event. -/
inductive Origin where
  /-- The analysis as a whole. -/
  | analysis
  /-- Finding and reading the source files. -/
  | sources
  /-- Extracting entities from source files. -/
  | extraction
  /-- Finding test functions and their steps. -/
  | testFunctions
  /-- Registering entities and tests. -/
  | registry
  /-- Linking tests to entities. -/
  | linker
  /-- Turning the registry into findings. -/
  | findings
  /-- The cache of analysis sessions. -/
  | cache
  /-- The command that looks up settings and drives the analysis. -/
  | command
  deriving Repr, DecidableEq, Inhabited

/-- The target an origin reports under: the part's path, whose first segment names the
library or the command. Log filters select events by the start of this path. -/
def Origin.target : Origin → String
  | .analysis => "tfcov_core"
  | .sources => "tfcov_core::sources"
  | .extraction => "tfcov_core::extract"
  | .testFunctions => "tfcov_core::test_functions"
  | .registry => "tfcov_core::registry"
  | .linker => "tfcov_core::linker"
  | .findings => "tfcov_core::findings"
  | .cache => "tfcov_core::cache"
  | .command => "tfcov::analysis"

/-- A log event. -/
structure Event where
  level : Level
  message : String
  origin : Origin
  deriving Repr, DecidableEq, Inhabited

def Event.debug (origin : Origin) (message : String) : Event :=
  { level := .debug, message := message, origin := origin }

def Event.info (origin : Origin) (message : String) : Event :=
  { level := .info, message := message, origin := origin }

def Event.warn (origin : Origin) (message : String) : Event :=
  { level := .warn, message := message, origin := origin }

/-- A character of a message as a log line shows it. The characters that could steer a
terminal are escaped: escape, bell, backspace, form feed and delete as `\x` and two hex digits,
the C1 controls as `\u` and their hex code in braces; every other character stands as itself. -/
def shownChar (c : Char) : String :=
  match c.toNat with
  | 0x1B => "\\x1b"
  | 0x07 => "\\x07"
  | 0x08 => "\\x08"
  | 0x0C => "\\x0c"
  | 0x7F => "\\x7f"
  | n =>
    if 0x80 ≤ n && n ≤ 0x9F then "\\u\x7b" ++ String.ofList (Nat.toDigits 16 n) ++ "\x7d"
    else String.singleton c

/-- The message as a log line shows it, its controls escaped. -/
def Event.shownMessage (e : Event) : String := String.join (e.message.toList.map shownChar)

def Event.render (e : Event) : String := e.level.tag ++ " " ++ e.shownMessage

end ProviderCoverage
