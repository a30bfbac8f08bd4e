import ProviderCoverage.Duration
import ProviderCoverage.Decimal.Layout
import ProviderCoverage.Regex.Footprint
import ProviderCoverage.Glob

/-!
# Refused settings

Why a set of settings is refused: a threshold outside its range, no analyzer enabled, a
duration, pattern, glob or table entry that cannot be read. Each cause has one message.
-/

namespace ProviderCoverage

/-- Why settings are refused. -/
inductive ConfigError where
  | thresholdOutOfRange (x : Float)
  | thresholdTooLowForFuzzy (x : Float)
  | invalidCacheTtl (value : String) (reason : DurationError)
  | noAnalyzerEnabled
  | invalidNamingPattern (pattern : String) (reason : Regex.Refusal)
  | invalidGlob (setting : String) (reason : Glob.Error)
  | invalidEntry (setting entry expected : String)
  deriving Inhabited

namespace ConfigError

def variant : ConfigError → String
  | .thresholdOutOfRange _ => "ThresholdOutOfRange"
  | .thresholdTooLowForFuzzy _ => "ThresholdTooLowForFuzzy"
  | .invalidCacheTtl _ _ => "InvalidCacheTtl"
  | .noAnalyzerEnabled => "NoAnalyzerEnabled"
  | .invalidNamingPattern _ _ => "InvalidNamingPattern"
  | .invalidGlob _ _ => "InvalidGlob"
  | .invalidEntry _ _ _ => "InvalidEntry"

def message : ConfigError → String
  | .thresholdOutOfRange x =>
    "fuzzy-match-threshold must be between 0.0 and 1.0, got " ++ Decimal.Layout.plain.write x
  | .thresholdTooLowForFuzzy x =>
    "fuzzy-match-threshold must be at least 0.5 when fuzzy matching is enabled, got " ++
      Decimal.Layout.plain.write x
  | .invalidCacheTtl value reason =>
    "invalid cache-ttl " ++ Text.quoted value ++ ": " ++ reason.message
  | .noAnalyzerEnabled => "at least one analyzer must be enabled"
  | .invalidNamingPattern pattern reason =>
    "invalid resource-naming-pattern " ++ Text.quoted pattern ++ ": " ++ reason.render pattern
  | .invalidGlob setting reason =>
    "invalid glob " ++ Text.quoted reason.glob ++ " in " ++ setting ++ ": " ++ reason.message
  | .invalidEntry setting entry expected =>
    "invalid entry " ++ Text.quoted entry ++ " in " ++ setting ++ ": expected " ++ expected

end ConfigError

end ProviderCoverage
