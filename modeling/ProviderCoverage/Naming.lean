import ProviderCoverage.Unicode.Case

/-!
# Entity names

Entities are named in snake case (`widget_thing`), Go types and test functions in title case
(`WidgetThing`). `snakeCase` breaks a camel-case word before an uppercase letter that follows a
lowercase letter or an ASCII digit, or that starts a new word after a run of capitals, and
lowercases everything; `titleCase` uppercases the first character of each underscore-separated
part and drops the underscores. Both use the full Unicode case maps.
-/

namespace ProviderCoverage.Naming

open ProviderCoverage.Unicode

/-- Whether an underscore goes before the uppercase character `c`, which follows `prev` and is
followed by `rest`. -/
def breaksBefore (prev c : Char) (rest : List Char) : Bool :=
  isUpper c &&
    (isLower prev || prev.isDigit ||
      (isUpper prev && match rest with
        | n :: _ => isLower n
        | [] => false))

/-- Snake case of `cs`, after the character `prev` (if any) and with `afterUnderscore` telling
whether the text written so far ends in an underscore. -/
def snakeChars : Option Char → Bool → List Char → List Char
  | _, _, [] => []
  | prev, afterUnderscore, c :: rest =>
    let low := lowercase c
    let brk := match prev with
      | some p => !afterUnderscore && breaksBefore p c rest
      | none => false
    let out := if brk then '_' :: low else low
    out ++ snakeChars (some c) (out.getLast? == some '_') rest

/-- `WidgetThing` becomes `widget_thing`, `HTTPServer` becomes `http_server`. -/
def snakeCase (s : String) : String :=
  String.ofList (snakeChars none false s.toList)

/-- One underscore-separated part with its first character uppercased. -/
def capitalize : List Char → List Char
  | [] => []
  | c :: rest => uppercase c ++ rest

def titleCase (s : String) : String :=
  String.ofList ((s.toList.splitOn '_').flatMap capitalize)

/-- The part of a type name after its first underscore, when that part is not empty:
`example_widget` names `widget`. -/
def stripProviderPrefix (name : String) : Option String :=
  match name.toList.span (· ≠ '_') with
  | (_, _ :: rest) => if rest.isEmpty then none else some (String.ofList rest)
  | (_, []) => none

end ProviderCoverage.Naming
