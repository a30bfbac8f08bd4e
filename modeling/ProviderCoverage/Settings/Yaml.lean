import ProviderCoverage.Settings.Basic
import ProviderCoverage.Yaml.Node
import ProviderCoverage.Decimal.Read

/-!
# Settings files

A settings file is a YAML mapping of setting keys to values. The settings it stands for are the
defaults with every key the file gives replaced. The whole text is read first, so a fault of
the YAML text is reported before any fault of its content. Then, in the order written:

* keys that name no setting are passed over with their values, whatever these are;
* a key given twice refuses the file;
* a value that is null (`~`, `null`, `Null`, `NULL`, left out or empty, all unquoted) or an
  alias keeps the default;
* a flag is `true`, `yes`, `on` or `1`, or `false`, `no`, `off` or `0`, in any case; a number
  is read as a decimal (`inf` and `nan` included); a text is the scalar's text as written;
  a list of texts is a sequence of scalars. Tags are not looked at.

An empty file, or one holding a null, stands for the defaults; any other value than a mapping
at the top refuses the file.
-/

namespace ProviderCoverage

/-- Why a settings document is refused: the cause the reader gives. -/
structure YamlError where
  cause : String
  deriving Repr

def YamlError.message (_ : YamlError) : String := "Failed to parse settings YAML"

/-- Whether a scalar is null: unquoted and one of the null words, or empty. -/
def Yaml.isNullScalar (text : String) (style : Yaml.ScalarStyle) : Bool :=
  style == .plain && ["", "~", "null", "Null", "NULL"].contains text

/-- Whether a node stands for nothing: a null scalar or an alias. -/
def Yaml.Node.isNothing : Yaml.Node → Bool
  | .scalar text style => Yaml.isNullScalar text style
  | .alias => true
  | _ => false

/-- The name of the kind of value a node starts with, as the faults name it. -/
def Yaml.Node.kindName : Yaml.Node → String
  | .scalar _ _ | .alias => "scalar"
  | .seq _ => "sequence start"
  | .map _ => "struct start"

def Yaml.Node.unexpected (n : Yaml.Node) (expected path : String) : String :=
  "unexpected token: got " ++ n.kindName ++ ", expected " ++ expected ++ " at " ++ path

namespace Settings

open Yaml

def flagOf? (text : String) : Option Bool :=
  let t := text.toLower
  if ["true", "yes", "on", "1"].contains t then some true
  else if ["false", "no", "off", "0"].contains t then some false
  else none

def textOf (path : String) : Node → Except String String
  | .scalar text _ => .ok text
  | n => .error (n.unexpected "scalar" path)

def valueOfNode (t : SettingType) (path : String) (n : Node) : Except String SettingValue :=
  match t with
  | .flag => do
    let text ← textOf path n
    match flagOf? text with
    | some b => pure (.flag b)
    | none => throw ("failed to parse \"" ++ text ++ "\" as bool at " ++ path)
  | .text => (textOf path n).map .text
  | .number => do
    let text ← textOf path n
    match Decimal.readFloat? text with
    | some x => pure (.number x)
    | none => throw ("failed to parse \"" ++ text ++ "\" as f64 at " ++ path)
  | .texts =>
    match n with
    | .seq items =>
      (items.zipIdx.mapM fun (p : Node × Nat) =>
        textOf (path ++ "[" ++ toString p.2 ++ "]") p.1).map .texts
    | n => .error (n.unexpected "sequence start" path)

/-- The settings the entries of the top mapping give, on top of `s`; `seen` holds the keys of
settings given so far. -/
def applyEntries (s : Settings) (seen : List String) :
    List (Node × Node) → Except String Settings
  | [] => .ok s
  | (k, v) :: rest =>
    match k with
    | .scalar key _ =>
      match typeOf key with
      | none => applyEntries s seen rest
      | some t =>
        if seen.contains key then .error ("duplicate field `" ++ key ++ "` at <root>")
        else if v.isNothing then applyEntries s (key :: seen) rest
        else
          match valueOfNode t key v with
          | .ok value => applyEntries (s.set key value) (key :: seen) rest
          | .error e => .error e
    | k => .error (k.unexpected "field key" "<root>")

/-- The settings a YAML document stands for: the defaults with the keys it gives. -/
def ofYaml (text : String) : Except YamlError Settings :=
  match Event.readAll text with
  | .error e => .error ⟨"invalid value: " ++ e.message⟩
  | .ok events =>
    match Node.ofEvents (events.map (·.1)) with
    | none => .ok default
    | some root =>
      if root.isNothing then .ok default
      else
        match root with
        | .map entries =>
          match applyEntries default [] entries with
          | .ok s => .ok s
          | .error cause => .error ⟨cause⟩
        | n => .error ⟨n.unexpected "struct start" "<root>"⟩

end Settings

end ProviderCoverage
