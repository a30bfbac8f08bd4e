/-!
# White space

The characters with the property White_Space: the ASCII blanks, next line, no-break space, the
Ogham space mark, the typographic spaces, the line and paragraph separators, and the
ideographic space.
-/

namespace ProviderCoverage.Unicode

def isBlank (c : Char) : Bool :=
  let n := c.toNat
  (0x09 ≤ n && n ≤ 0x0D) || n == 0x20 || n == 0x85 || n == 0xA0 || n == 0x1680 ||
    (0x2000 ≤ n && n ≤ 0x200A) || n == 0x2028 || n == 0x2029 || n == 0x202F ||
    n == 0x205F || n == 0x3000

/-- The white space characters as ranges of code points: those `isBlank` holds of. -/
def blankRanges : List (Nat × Nat) :=
  [(0x09, 0x0D), (0x20, 0x20), (0x85, 0x85), (0xA0, 0xA0), (0x1680, 0x1680), (0x2000, 0x200A),
    (0x2028, 0x2029), (0x202F, 0x202F), (0x205F, 0x205F), (0x3000, 0x3000)]

/-- The longest runs of characters of `cs` that are not white space, the run in progress
(reversed) being `cur`. -/
def wordsAux : List Char → List Char → List (List Char)
  | [], cur => if cur.isEmpty then [] else [cur.reverse]
  | c :: cs, cur =>
    if isBlank c then
      if cur.isEmpty then wordsAux cs [] else cur.reverse :: wordsAux cs []
    else wordsAux cs (c :: cur)

/-- The words of `s`: its longest runs of characters that are not white space. -/
def words (s : String) : List String :=
  (wordsAux s.toList []).map String.ofList

/-- The words of `s` joined by single spaces: white space collapsed and trimmed. -/
def collapseBlanks (s : String) : String :=
  " ".intercalate (words s)

end ProviderCoverage.Unicode
