import Mathlib
import ProviderCoverage.Go.File
import ProviderCoverage.Proofs.NamePortion

/-!
# Decoding interpreted string literals

`unescape` decodes the body of an interpreted Go string literal. Go source writes a backslash, a
double quote, a newline, a tab and a carriage return inside such a literal as escapes and every
other character as itself (`escape`), and decoding undoes that exactly: `unescape_escape`. The
step that carries it is `unescape_escapeChar_append`: the two characters of an escape are read
together, so an escaped backslash never pairs with the character after it. Hence a literal written
this way has its text as value (`stringValue_of_escaped`), and text with no backslash decodes to
itself (`unescape_of_backslash_not_mem`).
-/

namespace ProviderCoverage.Go

def escapeChar : Char → List Char
  | '\\' => ['\\', '\\']
  | '"' => ['\\', '"']
  | '\n' => ['\\', 'n']
  | '\t' => ['\\', 't']
  | '\r' => ['\\', 'r']
  | c => [c]

/-- The body of an interpreted string literal whose value is `s`. -/
def escape (s : List Char) : List Char := s.flatMap escapeChar

theorem unescape_cons_of_ne {c : Char} (hc : c ≠ '\\') (rest : List Char) :
    unescape (c :: rest) = c :: unescape rest := by
  cases rest <;> simp [unescape, hc]

theorem unescape_escapeChar_append (c : Char) (rest : List Char) :
    unescape (escapeChar c ++ rest) = c :: unescape rest := by
  fun_cases escapeChar c with
  | case1 | case2 | case3 | case4 | case5 => simp [unescape]
  | case6 =>
    rename_i hbs _ _ _ _
    exact unescape_cons_of_ne hbs rest

theorem unescape_escape (s : List Char) : unescape (escape s) = s := by
  induction s with
  | nil => rfl
  | cons c s ih =>
    rw [escape, List.flatMap_cons, unescape_escapeChar_append, ← escape, ih]

theorem unescape_of_backslash_not_mem {cs : List Char} (h : '\\' ∉ cs) : unescape cs = cs := by
  induction cs with
  | nil => rfl
  | cons c cs ih =>
    rw [List.mem_cons, not_or] at h
    rw [unescape_cons_of_ne (Ne.symm h.1), ih h.2]

theorem stringValue_of_escaped {f : File} {n : Node} {s : String}
    (hkind : (unparen n).kind = .interpretedStringLiteral)
    (htext : f.text (unparen n) = "\"" ++ String.ofList (escape s.toList) ++ "\"") :
    f.stringValue n = some s := by
  have hinner : ((Text.stripPrefix? (f.text (unparen n)) "\"").bind
      (Text.stripSuffix? · "\"")).getD (f.text (unparen n)) = String.ofList (escape s.toList) := by
    have hopen : (f.text (unparen n)).toList = "\"".toList ++ (escape s.toList ++ ['"']) := by
      simp [htext]
    have hclose : (String.ofList (escape s.toList ++ ['"'])).toList =
        escape s.toList ++ "\"".toList := by
      simp
    rw [Text.stripPrefix?_eq_some hopen, Option.bind_some, Text.stripSuffix?_eq_some hclose,
      Option.getD_some]
  simp only [File.stringValue, hkind, hinner, String.toList_ofList, unescape_escape,
    String.ofList_toList]

/-- Decoding inverts the escaping of the characters it handles: of text, and of the value of a
literal; text with no backslash is its own decoding. -/
theorem unescape_inverts_escape :
    (∀ s : List Char, unescape (escape s) = s) ∧
      (∀ (f : File) (n : Node) (s : String), (unparen n).kind = .interpretedStringLiteral →
        f.text (unparen n) = "\"" ++ String.ofList (escape s.toList) ++ "\"" →
          f.stringValue n = some s) ∧
      (∀ cs : List Char, '\\' ∉ cs → unescape cs = cs) :=
  ⟨unescape_escape, fun _ _ _ => stringValue_of_escaped, fun _ => unescape_of_backslash_not_mem⟩

/-- The configuration of a test step, written as Go writes it. -/
def configElementText : String :=
  "Config: \"resource \\\"example_widget\\\" \\\"x\\\" {}\""

def configLiteral : Node := ⟨.interpretedStringLiteral, none, ⟨8, 46, 0, 8⟩, "", []⟩

def configElementFile : File where
  path := "widget_test.go"
  source := configElementText
  chars := configElementText.toList.toArray
  isTest := true
  root := ⟨.keyedElement, none, ⟨0, 46, 0, 0⟩, "", [
    ⟨.identifier, none, ⟨0, 6, 0, 0⟩, "", []⟩, configLiteral]⟩

/-- The step's configuration decodes to the block it writes, and a plain name to itself. -/
theorem configLiteral_decodes :
    ((unparen configLiteral).kind = .interpretedStringLiteral ∧
      configElementFile.text (unparen configLiteral) =
        "\"" ++ String.ofList (escape "resource \"example_widget\" \"x\" {}".toList) ++ "\"") ∧
      configElementFile.stringValue configLiteral = some "resource \"example_widget\" \"x\" {}" ∧
      '\\' ∉ "example_widget".toList ∧
      unescape "example_widget".toList = "example_widget".toList := by
  have hkind : (unparen configLiteral).kind = .interpretedStringLiteral := rfl
  have htext : configElementFile.text (unparen configLiteral) =
      "\"" ++ String.ofList (escape "resource \"example_widget\" \"x\" {}".toList) ++ "\"" := by
    decide +kernel
  have hplain : '\\' ∉ "example_widget".toList := by decide
  exact ⟨⟨hkind, htext⟩, unescape_inverts_escape.2.1 _ _ _ hkind htext, hplain,
    unescape_inverts_escape.2.2 _ hplain⟩

end ProviderCoverage.Go
