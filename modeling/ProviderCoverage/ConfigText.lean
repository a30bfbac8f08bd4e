import ProviderCoverage.TestFunction
import ProviderCoverage.Unicode.Word
import ProviderCoverage.Unicode.Blank

/-!
# Blocks in configuration text

Test steps embed configuration text. A typed block in it is a keyword (`resource`, `data` or
`action`) that starts a word, white space, the quoted type name (not empty), white space, the
quoted label (possibly empty), optional white space and an opening brace. White space and word
characters are the Unicode classes. Blocks are found left to right without overlap: scanning
resumes after the brace of each block found.
-/

namespace ProviderCoverage.ConfigText

open Unicode

def skipBlank (cs : List Char) : List Char := cs.dropWhile isBlank

/-- The keyword that `cs` starts with, and the text after it. -/
def keywordAt (cs : List Char) : Option (EntityKind × List Char) :=
  EntityKind.all.findSome? fun k =>
    let kw := k.keyword.toList
    if kw.isPrefixOf cs then some (k, cs.drop kw.length) else none

/-- The text after a quoted run of non-quote characters, and the run. -/
def quotedAt : List Char → Option (List Char × List Char)
  | '"' :: rest =>
    let (inner, after) := rest.span (· != '"')
    match after with
    | '"' :: more => some (inner, more)
    | _ => none
  | _ => none

/-- The block that starts exactly at `cs`, and the text after its brace. -/
def blockAt (cs : List Char) : Option (Block × List Char) := do
  let (kind, rest) ← keywordAt cs
  if !(rest.head?.map isBlank).getD false then none
  let (typeName, rest) ← quotedAt (skipBlank rest)
  if typeName.isEmpty then none
  if !(rest.head?.map isBlank).getD false then none
  let (_, rest) ← quotedAt (skipBlank rest)
  match skipBlank rest with
  | '{' :: more => some (⟨kind, String.ofList typeName⟩, more)
  | _ => none

/-- The blocks of `cs`, where `prevWord` tells whether the character before `cs` is a word
character; at most `fuel` characters are scanned. -/
def scan : Nat → Bool → List Char → List Block
  | 0, _, _ => []
  | _ + 1, _, [] => []
  | fuel + 1, prevWord, c :: rest =>
    match (if prevWord then none else blockAt (c :: rest)) with
    | some (b, more) => b :: scan fuel false more
    | none => scan fuel (isWord c) rest

/-- The typed blocks of configuration text, in order of appearance. -/
def blocksIn (text : String) : List Block :=
  scan (text.length + 1) false text.toList

end ProviderCoverage.ConfigText
