import ProviderCoverage.Regex.Error

/-!
# Nesting of patterns

A pattern may nest its parts at most 250 levels deep. The parts that count are those that hold
others: groups, repetitions, alternations of two or more branches and sequences of two or more
items, and inside classes the brackets, unions of two or more members and set operations. A
part one of these holds stands one level deeper than it; the outermost stands at level one.
The fault names the first part, in the order of reading, that stands too deep.
-/

namespace ProviderCoverage.Regex

/-- The nesting of a pattern: a part that holds others, with its span and the parts it holds,
or a part that holds none. -/
inductive Shape where
  | leaf
  | node (span : Span) (parts : List Shape)
  deriving Repr, Inhabited

def nestLimit : Nat := 250

mutual

/-- The span of the first part, in the order of reading, that stands deeper than `limit`, the
shape standing at level `depth`. -/
def Shape.tooDeep (limit : Nat) : Nat → Shape → Option Span
  | _, .leaf => none
  | depth, .node span parts =>
    if depth > limit then some span else Shape.firstTooDeep limit (depth + 1) parts

/-- The span of the first part among `shapes`, and the parts they hold, that stands deeper than
`limit`, the shapes standing at level `depth`. -/
def Shape.firstTooDeep (limit : Nat) : Nat → List Shape → Option Span
  | _, [] => none
  | depth, s :: rest =>
    match s.tooDeep limit depth with
    | some span => some span
    | none => Shape.firstTooDeep limit depth rest

end

/-- The fault of a pattern whose parts, of the shape `s`, nest too deeply. -/
def Shape.nestFault (s : Shape) : Option Error :=
  (s.tooDeep nestLimit 1).map fun span => ⟨.nestLimitExceeded, span, none⟩

/-- The shape of parts read one after the other, written over `span`: a sequence when there are
two or more. -/
def Shape.sequence (span : Span) : List Shape → Shape
  | [] => .leaf
  | [s] => s
  | ss => .node span ss

end ProviderCoverage.Regex
