import ProviderCoverage.Regex.Basic
import ProviderCoverage.Unicode.Property
import ProviderCoverage.Unicode.Category
import ProviderCoverage.Unicode.Script
import ProviderCoverage.Unicode.ScriptExtension
import ProviderCoverage.Unicode.Age
import ProviderCoverage.Unicode.GraphemeBreak
import ProviderCoverage.Unicode.WordBreak
import ProviderCoverage.Unicode.SentenceBreak
import ProviderCoverage.Unicode.Binary

/-!
# Unicode classes by name

An escape `\p` names a class of code points by one letter (`\pL`), by a name (`\p{Greek}`) or by
a property and a value (`\p{sc=Greek}`). Names are compared after normalization: an `is`
prefix, blanks, underscores and hyphens and all characters outside ASCII are dropped, and
letters are lowercased.

A lone name is first the name of a binary property, then of a general category (or `Any`,
`Assigned`, `ASCII`), then of a script; the names `cf`, `sc` and `lc` are read as general
categories although properties go by them too. A property and a value may name a general
category, a script, script extensions, an age (every code point assigned by that version or an
earlier one), or a value of the grapheme cluster, word or sentence break properties.

A name that is no property, or a property that classes do not use, is not found; a value that
its property does not have, or has no code points of, is a value not found.
-/

namespace ProviderCoverage.Regex

open Unicode

/-- How an escape names a Unicode class: by one letter, by a name, or by a property and one of
its values. -/
inductive PropertyQuery where
  | letter (c : Char)
  | name (text : String)
  | value (property value : String)
  deriving Repr

/-- Why a query names no class. -/
inductive PropertyError where
  | propertyNotFound
  | valueNotFound
  deriving Repr, DecidableEq

/-- A property name or value as it is looked up: an `is` prefix in any case dropped, spaces,
underscores and hyphens dropped, ASCII letters lowercased and characters outside ASCII
dropped; only `isc` keeps its prefix. -/
def normalizeName (s : String) : String :=
  let cs := s.toList
  let (prefixed, body) := match cs with
    | a :: b :: rest =>
      if (a == 'i' || a == 'I') && (b == 's' || b == 'S') then (true, rest) else (false, cs)
    | _ => (false, cs)
  let kept := (body.filter fun c => c != ' ' && c != '_' && c != '-' && c.toNat < 128).map
    Char.toLower
  if prefixed && kept == ['c'] then "isc" else String.ofList kept

def tableValue? {α : Type} (table : List (String × α)) (key : String) : Option α :=
  (table.find? (·.1 == key)).map (·.2)

/-- The class of the set with long name `long` in `sets`; a value without a set is not found. -/
def setClass (sets : List (String × CodeSet)) (long : String) :
    Except PropertyError ClassItem :=
  match tableValue? sets long with
  | some s => .ok (.codes s)
  | none => .error .valueNotFound

/-- The class of a value of a property: its normalized name is looked up among `names`, and
its long name among `sets`. -/
def valueClass (names : List (String × String)) (sets : List (String × CodeSet))
    (normalized : String) : Except PropertyError ClassItem :=
  match tableValue? names normalized with
  | some long => setClass sets long
  | none => .error .valueNotFound

/-- The long name of a general category, or of the classes `Any`, `Assigned` and `ASCII` named
like one. -/
def categoryName? (normalized : String) : Option String :=
  match normalized with
  | "any" => some "Any"
  | "assigned" => some "Assigned"
  | "ascii" => some "ASCII"
  | _ => tableValue? Category.names normalized

/-- The class of a general category by long name: a group of categories is the union of its
members; `Any` is every code point, `Assigned` every one but the unassigned. -/
def categoryClass (long : String) : ClassItem :=
  match long with
  | "Any" => .range (Char.ofNat 0) (Char.ofNat 0x10FFFF)
  | "Assigned" => .nested true [.codes Category.unassigned]
  | "ASCII" => .range (Char.ofNat 0) (Char.ofNat 0x7F)
  | _ => .nested false (((tableValue? Category.sets long).getD []).map .codes)

/-- The code points of every version up to and including `long`. -/
def ageClass (long : String) : Except PropertyError ClassItem :=
  let upTo := Age.sets.takeWhile (·.1 != long)
  if upTo.length == Age.sets.length then .error .valueNotFound
  else .ok (.nested false ((Age.sets.take (upTo.length + 1)).map fun (_, s) => .codes s))

/-- The class a lone name gives when it is no property: a general category, else a script. -/
def categoryOrScript (normalized : String) : Except PropertyError ClassItem :=
  match categoryName? normalized with
  | some long => .ok (categoryClass long)
  | none =>
    match tableValue? Script.names normalized with
    | some long => setClass Script.sets long
    | none => .error .propertyNotFound

def nameClass (normalized : String) : Except PropertyError ClassItem :=
  let property := if normalized == "cf" || normalized == "sc" || normalized == "lc" then none
    else tableValue? Property.names normalized
  match property with
  | some long =>
    match tableValue? Binary.sets long with
    | some s => .ok (.codes s)
    | none => .error .propertyNotFound
  | none => categoryOrScript normalized

/-- The class a property and a value give, both normalized. -/
def propertyValueClass (property value : String) : Except PropertyError ClassItem :=
  match tableValue? Property.names property with
  | none => .error .propertyNotFound
  | some "General_Category" =>
    match categoryName? value with
    | some long => .ok (categoryClass long)
    | none => .error .valueNotFound
  | some "Script" => valueClass Script.names Script.sets value
  | some "Script_Extensions" => valueClass Script.names ScriptExtension.sets value
  | some "Age" =>
    match tableValue? Age.names value with
    | some long => ageClass long
    | none => .error .valueNotFound
  | some "Grapheme_Cluster_Break" => valueClass GraphemeBreak.names GraphemeBreak.sets value
  | some "Word_Break" => valueClass WordBreak.names WordBreak.sets value
  | some "Sentence_Break" => valueClass SentenceBreak.names SentenceBreak.sets value
  | some _ => .error .valueNotFound

/-- The class a Unicode query names, or why it names none. -/
def lookupProperty : PropertyQuery → Except PropertyError ClassItem
  | .letter c => nameClass (normalizeName (String.singleton c))
  | .name text => nameClass (normalizeName text)
  | .value property value => propertyValueClass (normalizeName property) (normalizeName value)

end ProviderCoverage.Regex
