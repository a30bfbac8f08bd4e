/-!
# Failures with their causes

A failure of the command or of an analysis run is a message with the chain of causes behind
it, outermost first. Giving a failure context makes the context its message and pushes the old
message onto the causes.

A failure is reported as its message, then, when it has causes, a `Caused by:` section with
each cause indented by four spaces, or numbered when there are several; the lines of a cause
after its first are indented to line up with it, and empty lines stay empty.
-/

namespace ProviderCoverage

/-- A message with its causes, outermost first. -/
structure Failure where
  message : String
  causes : List String := []
  deriving Repr, DecidableEq, Inhabited

namespace Failure

def context (outer : String) (f : Failure) : Failure := ⟨outer, f.message :: f.causes⟩

/-- The lines of `text`, the first after `first` and the others after `rest`, empty lines
left empty. -/
def indentLines (first rest : String) (text : String) : String :=
  let lines := text.splitOn "\n"
  "\n".intercalate (lines.zipIdx.map fun (line, i) =>
    if line.isEmpty then line else (if i == 0 then first else rest) ++ line)

def numberMark (n : Nat) : String :=
  let digits := toString n
  String.ofList (List.replicate (4 - digits.length) ' ') ++ digits ++ ": "

/-- The report of a failure, without a final line break. -/
def report (f : Failure) : String :=
  match f.causes with
  | [] => f.message
  | [cause] => f.message ++ "\n\nCaused by:\n" ++ indentLines "    " "    " cause
  | causes =>
    f.message ++ "\n\nCaused by:" ++ String.join (causes.zipIdx.map fun (cause, i) =>
      "\n" ++ indentLines (numberMark i) "      " cause)

end Failure

end ProviderCoverage
