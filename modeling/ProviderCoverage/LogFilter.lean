import ProviderCoverage.Log
import ProviderCoverage.Report.Style
import ProviderCoverage.Decimal.Read
import ProviderCoverage.Regex.Parse
import ProviderCoverage.Text.Basic
import ProviderCoverage.Unicode.Alphabetic

/-!
# Log filters

Which log events the command writes, and how it writes them. A filter is a list of directives
separated by commas. A directive that reads as a level (`warn`, `DEBUG`, a number from `0` for
nothing to `5` for everything) sets the level of every target. Otherwise it is a target, then
perhaps a span in brackets, then perhaps `=level`: it sets the level of the targets starting with
that target, and without a level it lets everything of them through. A directive starts with a
letter, a digit, `-`, `:`, `_` or a bracket; past that, targets are taken as written, blanks
included, and leading blanks shift where the parts are cut. A span in brackets is a name,
then perhaps fields in braces; a field is a name, perhaps with `=value`, where the value is a
flag, a number or an expression. A directive naming a span, or the value of a field, concerns
events inside spans, which the program never emits; one asking only for fields by name concerns
the events that have them, and every event of the program has a message. An event passes when
its level is within the level of the most specific directive concerning it; no directive, no
event. A filter with a directive that cannot be read is refused as a whole.

Every part of the program reports under a target of its own (`Origin.target`).

An event is written as a dimmed time stamp, its level coloured and padded to five places, and
its message.
-/

namespace ProviderCoverage

/-- How much a directive lets through, from nothing to everything. -/
inductive Threshold where
  | off
  | error
  | warn
  | info
  | debug
  | trace
  deriving Repr, DecidableEq

namespace Threshold

/-- The rank of a threshold: 0 for nothing, 5 for everything. -/
def rank : Threshold → Nat
  | .off => 0
  | .error => 1
  | .warn => 2
  | .info => 3
  | .debug => 4
  | .trace => 5

def ofRank? : Nat → Option Threshold
  | 0 => some .off
  | 1 => some .error
  | 2 => some .warn
  | 3 => some .info
  | 4 => some .debug
  | 5 => some .trace
  | _ => none

/-- The number a text of decimal digits stands for, after an optional `+`; nothing else, not
even a blank, may stand in it. -/
def readCount? (s : String) : Option Nat :=
  let digits := match s.toList with
    | '+' :: rest => rest
    | cs => cs
  if !digits.isEmpty && digits.all Char.isDigit then
    some (digits.foldl (fun n c => 10 * n + (c.toNat - '0'.toNat)) 0)
  else none

/-- The threshold a text stands for: a rank from `0` to `5`, a level name in any case, or
nothing at all for `error`. -/
def ofName? (s : String) : Option Threshold :=
  match (readCount? s).bind ofRank? with
  | some t => some t
  | none =>
    match s.toLower with
    | "" | "error" => some .error
    | "warn" => some .warn
    | "info" => some .info
    | "debug" => some .debug
    | "trace" => some .trace
    | "off" => some .off
    | _ => none

end Threshold

def Level.rank : Level → Nat
  | .warn => 2
  | .info => 3
  | .debug => 4

/-- A field that a directive asks of what it applies to, perhaps with a value to match. -/
structure FieldMatch where
  name : String
  hasValue : Bool
  deriving Repr

/-- Whether a field's value can be read: a flag, a number, or else a valid expression. -/
def fieldValueReads (v : String) : Bool :=
  v == "true" || v == "false" || (Decimal.readFloat? v).isSome ||
    match Regex.Regex.parse v with
    | .ok _ => true
    | .error _ => false

/-- The field a text between braces stands for: a name, then perhaps `=` and a value, which
ends at the next `=`. -/
def FieldMatch.parse? (text : String) : Option FieldMatch :=
  match text.splitOn "=" with
  | name :: value :: _ => if fieldValueReads value then some ⟨name, true⟩ else none
  | parts => some ⟨parts.headD "", false⟩

/-- One directive of a filter. -/
structure Directive where
  /-- The start of the targets it concerns; every target when absent. -/
  target : Option String := none
  /-- The span it concerns events inside of. -/
  span : Option String := none
  fields : List FieldMatch := []
  threshold : Threshold := .trace
  deriving Repr

/-- The text of the bytes from `lo` to `hi` (to the end when `hi` is absent), if both fall
between characters. -/
def byteSlice? (bytes : ByteArray) (lo : Nat) (hi : Option Nat) : Option String :=
  String.fromUTF8? (bytes.extract lo (hi.getD bytes.size))

/-- Where reading a directive stands; a number is the byte where the part being read
started. -/
inductive DirectiveStep where
  /-- Nothing read yet. -/
  | start
  /-- Reading a level or a target. -/
  | levelOrTarget (start : Nat)
  /-- Inside brackets, reading the name of a span. -/
  | span (start : Nat)
  /-- Inside braces, reading a field. -/
  | field (start : Nat)
  /-- After the closing brace, before the closing bracket. -/
  | fields
  /-- After the closing bracket, before `=`. -/
  | target
  /-- After `=`, reading a level. -/
  | level (start : Nat)
  deriving Repr

/-- A directive being read: where reading stands and the parts read so far. -/
structure DirectiveReading where
  step : DirectiveStep := .start
  target : Option String := none
  span : Option String := none
  fields : List FieldMatch := []

namespace DirectiveReading

/-- Reads character `c` at byte `i`; the parts are cut out of `whole`. -/
def next (whole : ByteArray) (r : DirectiveReading) (i : Nat) (c : Char) :
    Option DirectiveReading :=
  match r.step, c with
  | .start, '[' => some { r with step := .span (i + 1) }
  | .start, c =>
    if c == '-' || c == ':' || c == '_' || Unicode.isAlphabetic c || Unicode.isNumeric c then
      some { r with step := .levelOrTarget i }
    else none
  | .levelOrTarget s, '=' =>
    (byteSlice? whole s (some i)).map fun t => { r with target := some t, step := .level (i + 1) }
  | .levelOrTarget s, '[' =>
    (byteSlice? whole s (some i)).map fun t => { r with target := some t, step := .span (i + 1) }
  | .levelOrTarget _, _ => some r
  | .target, '=' => some { r with step := .level (i + 1) }
  | .target, _ => none
  | .span s, ']' =>
    (byteSlice? whole s (some i)).map fun name => { r with span := some name, step := .target }
  | .span s, '\x7b' =>
    (byteSlice? whole s (some i)).map fun name =>
      { r with span := if name.isEmpty then none else some name, step := .field (i + 1) }
  | .span _, _ => some r
  | .field s, '\x7d' => do
    let text ← byteSlice? whole s (some i)
    if text.isEmpty then none
    let f ← FieldMatch.parse? text
    some { r with fields := r.fields ++ [f], step := .fields }
  | .field _, _ => some r
  | .fields, ']' => some { r with step := .target }
  | .fields, _ => none
  | .level _, _ => some r

/-- Reads the characters `cs`, the first at byte `i`. -/
def run (whole : ByteArray) : DirectiveReading → Nat → List Char → Option DirectiveReading
  | r, _, [] => some r
  | r, i, c :: cs => (r.next whole i c).bind fun r => run whole r (i + c.utf8Size) cs

/-- The directive read when the text ends: a level or a target alone, a level after `=`, or
a span without a level. -/
def finish (whole : ByteArray) (r : DirectiveReading) : Option Directive :=
  match r.step with
  | .levelOrTarget s => do
    let text ← byteSlice? whole s none
    match Threshold.ofName? text with
    | some t => some { threshold := t }
    | none => some { target := some text }
  | .level s => do
    let text ← byteSlice? whole s none
    let t ← if text.isEmpty then some .trace else Threshold.ofName? text
    some { target := r.target, span := r.span, fields := r.fields, threshold := t }
  | .target => some { target := r.target, span := r.span, fields := r.fields }
  | _ => none

end DirectiveReading

namespace Directive

/-- The directive a text without commas stands for, if it can be read: a level alone, or a
target, a span in brackets (a name, then perhaps fields in braces) and `=level`, the first or
the second of these two perhaps left out, and the third too. The characters read are those of
the text without leading and trailing blanks, but the parts are cut out at their byte offsets
in the text as given, so after leading blanks they come out shifted. -/
def parse? (s : String) : Option Directive :=
  let whole := s.toUTF8
  (DirectiveReading.run whole {} 0 (Text.trim s).toList).bind (·.finish whole)

/-- Whether the directive concerns events only inside spans, or spans themselves. -/
def isDynamic (d : Directive) : Bool := d.span.isSome || !d.fields.isEmpty

/-- What the directive asks of events outside spans: a target they start with, the fields they
have and the threshold; nothing when it names a span or a field's value. -/
def forEvents? (d : Directive) : Option (Option String × List String × Threshold) :=
  if d.span.isNone && d.fields.all (!·.hasValue) then
    some (d.target, d.fields.map (·.name), d.threshold)
  else none

end Directive

def eventFields : List String := ["message"]

/-- The directives of a filter; of two with the same target, the later counts. -/
structure LogFilter where
  directives : List Directive
  deriving Repr

namespace LogFilter

/-- The filter a text stands for, refused when a directive cannot be read. -/
def parse? (s : String) : Option LogFilter :=
  let texts := (s.splitOn ",").filter (!·.isEmpty)
  (texts.mapM Directive.parse?).map LogFilter.mk

/-- The filter letting every target through up to a threshold. -/
def everything (t : Threshold) : LogFilter := ⟨[{ threshold := t }]⟩

/-- The filter of the command: the environment's filter when it can be read, else `warn`, or
`debug` when asked to be verbose. -/
def ofEnvironment (env : Option String) (verbose : Bool) : LogFilter :=
  match env.bind parse? with
  | some f => f
  | none => everything (if verbose then .debug else .warn)

/-- The rules that decide for events outside spans, those of directives without span or fields
first: target, fields asked for and threshold. -/
def eventRules (f : LogFilter) : List (Option String × List String × Threshold) :=
  (f.directives.filter (!·.isDynamic) ++ f.directives.filter (·.isDynamic)).filterMap
    Directive.forEvents?

/-- How specific a rule is: a longer target (in bytes) before a shorter one and any target
before none, then more fields before fewer. -/
def ruleBefore (a b : Option String × List String × Threshold) : Bool :=
  let length (t : Option String) : Nat := match t with
    | some t => t.utf8ByteSize + 1
    | none => 0
  length a.1 < length b.1 || (length a.1 == length b.1 && a.2.1.length ≤ b.2.1.length)

/-- Whether an event passes: of the rules whose target its target starts with and whose fields
it has, the most specific decides, the later of two equally specific ones. -/
def allows (f : LogFilter) (e : Event) : Bool :=
  let target := e.origin.target
  let concerning := f.eventRules.filter fun (t, names, _) =>
    (match t with
      | some t => target.startsWith t
      | none => true) && names.all eventFields.contains
  let best := concerning.foldl (fun (acc : Option (Option String × List String × Threshold)) r =>
    match acc with
    | some b => if ruleBefore b r then some r else some b
    | none => some r) none
  match best with
  | some (_, _, t) => e.level.rank ≤ t.rank
  | none => false

end LogFilter

/-- The level of an event as a log line shows it, coloured and padded to five places. -/
def Level.styled : Level → String
  | .debug => Report.sgr 34 ++ "DEBUG" ++ Report.sgr 0
  | .info => Report.sgr 32 ++ " INFO" ++ Report.sgr 0
  | .warn => Report.sgr 33 ++ " WARN" ++ Report.sgr 0

/-- An event as a log line, stamped with `stamp`. -/
def Event.logLine (e : Event) (stamp : String) : String :=
  Report.dimmed stamp ++ " " ++ e.level.styled ++ " " ++ e.shownMessage ++ "\n"

end ProviderCoverage
