import ProviderCoverage.Unicode.Blank

/-!
# Text operations

Searching and cutting text by characters: containment of a part, removing a prefix or a
suffix, splitting at the first or last occurrence of a character, trimming white space, and
the last component of a path.
-/

namespace ProviderCoverage.Text

/-- Whether `p` occurs in `cs`: it starts `cs` or occurs in its tail. -/
def infixOf (p : List Char) : List Char → Bool
  | [] => p.isEmpty
  | c :: cs => p.isPrefixOf (c :: cs) || infixOf p cs

def contains (whole part : String) : Bool :=
  infixOf part.toList whole.toList

/-- `s` without the prefix `p`, if it starts with it. -/
def stripPrefix? (s p : String) : Option String :=
  if p.toList.isPrefixOf s.toList then some (String.ofList (s.toList.drop p.length)) else none

/-- `s` without the suffix `p`, if it ends with it. -/
def stripSuffix? (s p : String) : Option String :=
  if p.toList.isSuffixOf s.toList then some (String.ofList (s.toList.take (s.length - p.length)))
  else none

/-- The parts before and after the first `c` in `s`. -/
def splitFirst (s : String) (c : Char) : Option (String × String) :=
  match s.toList.span (· != c) with
  | (before, _ :: after) => some (String.ofList before, String.ofList after)
  | (_, []) => none

/-- The parts before and after the last `c` in `s`. -/
def splitLast (s : String) (c : Char) : Option (String × String) :=
  match s.toList.reverse.span (· != c) with
  | (after, _ :: before) => some (String.ofList before.reverse, String.ofList after.reverse)
  | (_, []) => none

/-- `s` without leading and trailing white space. -/
def trim (s : String) : String :=
  String.ofList (((s.toList.dropWhile Unicode.isBlank).reverse.dropWhile Unicode.isBlank).reverse)

/-- `s` without leading and trailing occurrences of `c`. -/
def trimChar (s : String) (c : Char) : String :=
  String.ofList (((s.toList.dropWhile (· == c)).reverse.dropWhile (· == c)).reverse)

/-- `s` without trailing white space. -/
def trimEnd (s : String) : String :=
  String.ofList ((s.toList.reverse.dropWhile Unicode.isBlank).reverse)

/-- `s` without its first `n` characters. -/
def dropChars (s : String) (n : Nat) : String := String.ofList (s.toList.drop n)

/-- `s` without its last `n` characters. -/
def dropLastChars (s : String) (n : Nat) : String :=
  String.ofList ((s.toList.reverse.drop n).reverse)

/-- `s` without leading occurrences of `c`. -/
def trimStartChar (s : String) (c : Char) : String :=
  String.ofList (s.toList.dropWhile (· == c))

/-- `s` without trailing occurrences of `c`. -/
def trimEndChar (s : String) (c : Char) : String :=
  String.ofList ((s.toList.reverse.dropWhile (· == c)).reverse)

/-- `s` without trailing occurrences of `suffix`, removed one after another; at most `fuel`
of them. -/
def trimEndTextWithin (suffix : String) : Nat → String → String
  | 0, s => s
  | fuel + 1, s =>
    if suffix.isEmpty then s
    else match stripSuffix? s suffix with
      | some r => trimEndTextWithin suffix fuel r
      | none => s

/-- `s` without trailing occurrences of `suffix`. -/
def trimEndText (s suffix : String) : String := trimEndTextWithin suffix (s.length + 1) s

/-- The last component of a path, after the last `/` or `\`. -/
def fileName (path : String) : String :=
  String.ofList ((path.toList.reverse.takeWhile (fun c => c != '/' && c != '\\')).reverse)

end ProviderCoverage.Text
