import ProviderCoverage.Unicode.Visible

/-!
# Quoted text

Messages quote the text they are about between double quotes. Inside, a backslash and a
double quote are preceded by a backslash; tab, carriage return, line feed and NUL are written
`\t`, `\r`, `\n`, `\0`; other characters that would not show (controls, format characters,
separators other than the space, unassigned code points, combining marks) are written as
`\u{hex}` with lowercase hex digits. All else stands as it is.
-/

namespace ProviderCoverage.Text

/-- Lowercase hex digits of `n`, without leading zeros. -/
def hexDigits (n : Nat) : String :=
  String.ofList (Nat.toDigits 16 n)

def quoteChar (c : Char) : String :=
  match c with
  | '\t' => "\\t"
  | '\r' => "\\r"
  | '\n' => "\\n"
  | '\\' => "\\\\"
  | '"' => "\\\""
  | _ =>
    if c.toNat == 0 then "\\0"
    else if Unicode.isHidden c then "\\u" ++ "\x7b" ++ hexDigits c.toNat ++ "\x7d"
    else String.singleton c

/-- `s` between double quotes, escaped as above. -/
def quoted (s : String) : String :=
  "\"" ++ String.join (s.toList.map quoteChar) ++ "\""

end ProviderCoverage.Text
