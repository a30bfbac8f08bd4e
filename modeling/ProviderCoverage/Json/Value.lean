import ProviderCoverage.Decimal.Layout

/-!
# JSON documents

JSON values with their two written forms: the compact form on one line, and the pretty form
with two spaces of indentation per level and one member or element per line. Integers and
floats are apart, so that a float is written as a float in the layout the form asks for.
Strings escape the double quote, the backslash and the control characters.
-/

namespace ProviderCoverage.Json

/-- A JSON value; object members keep their order. -/
inductive Value where
  | null
  | bool (b : Bool)
  | int (n : Int)
  | float (f : Float)
  | str (s : String)
  | arr (items : List Value)
  | obj (members : List (String × Value))
  deriving Inhabited

def escapeChar (c : Char) : String :=
  match c with
  | '"' => "\\\""
  | '\\' => "\\\\"
  | '\n' => "\\n"
  | '\r' => "\\r"
  | '\t' => "\\t"
  | _ =>
    if c.toNat == 8 then "\\b"
    else if c.toNat == 12 then "\\f"
    else if c.toNat < 0x20 then
      let h := Nat.toDigits 16 c.toNat
      "\\u" ++ String.ofList (List.replicate (4 - h.length) '0' ++ h)
    else String.singleton c

def quote (s : String) : String :=
  "\"" ++ String.join (s.toList.map escapeChar) ++ "\""

def number (l : Decimal.Layout) : Value → String
  | .int n => toString n
  | .float f => l.write f
  | _ => ""

mutual

/-- The compact form, floats in layout `l`. -/
def Value.compact (l : Decimal.Layout) : Value → String
  | .null => "null"
  | .bool b => toString b
  | .int n => toString n
  | .float f => l.write f
  | .str s => quote s
  | .arr items => "[" ++ compactItems l items ++ "]"
  | .obj members => "\x7b" ++ compactMembers l members ++ "\x7d"

/-- Elements in compact form, separated by commas. -/
def compactItems (l : Decimal.Layout) : List Value → String
  | [] => ""
  | [v] => v.compact l
  | v :: vs => v.compact l ++ "," ++ compactItems l vs

/-- Members in compact form, separated by commas. -/
def compactMembers (l : Decimal.Layout) : List (String × Value) → String
  | [] => ""
  | [(k, v)] => quote k ++ ":" ++ v.compact l
  | (k, v) :: rest => quote k ++ ":" ++ v.compact l ++ "," ++ compactMembers l rest

end

def indent (depth : Nat) : String := String.ofList (List.replicate (2 * depth) ' ')

mutual

/-- The pretty form at indentation `depth`, floats in layout `l`. -/
def Value.pretty (l : Decimal.Layout) (depth : Nat) : Value → String
  | .arr [] => "[]"
  | .obj [] => "\x7b\x7d"
  | .arr items => "[\n" ++ prettyItems l (depth + 1) items ++ "\n" ++ indent depth ++ "]"
  | .obj members => "\x7b\n" ++ prettyMembers l (depth + 1) members ++ "\n" ++ indent depth ++ "\x7d"
  | .null => "null"
  | .bool b => toString b
  | .int n => toString n
  | .float f => l.write f
  | .str s => quote s

def prettyItems (l : Decimal.Layout) (depth : Nat) : List Value → String
  | [] => ""
  | [v] => indent depth ++ v.pretty l depth
  | v :: vs => indent depth ++ v.pretty l depth ++ ",\n" ++ prettyItems l depth vs

def prettyMembers (l : Decimal.Layout) (depth : Nat) : List (String × Value) → String
  | [] => ""
  | [(k, v)] => indent depth ++ quote k ++ ": " ++ v.pretty l depth
  | (k, v) :: rest =>
    indent depth ++ quote k ++ ": " ++ v.pretty l depth ++ ",\n" ++ prettyMembers l depth rest

end

end ProviderCoverage.Json
