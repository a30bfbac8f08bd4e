import ProviderCoverage.Yaml.Event

/-!
# YAML nodes

The tree of nodes the events of one document stand for: scalars with their style, aliases,
sequences and mappings, whose keys are nodes too and keep the order they are written in.
An alias stands for itself: it is not replaced by the node its anchor names.
-/

namespace ProviderCoverage.Yaml

/-- A YAML node. -/
inductive Node where
  | scalar (text : String) (style : ScalarStyle)
  | alias
  | seq (items : List Node)
  | map (entries : List (Node × Node))
  deriving Repr, Inhabited

mutual

/-- The node the events start with, and the events after it, in at most `fuel` steps. -/
def nodeOfEvents : Nat → List Event → Option (Node × List Event)
  | 0, _ => none
  | _ + 1, [] => none
  | fuel + 1, e :: es =>
    match e with
    | .scalar text style _ _ => some (.scalar text style, es)
    | .alias _ => some (.alias, es)
    | .sequenceStart _ _ => (itemsOfEvents fuel es []).map fun (items, es) => (.seq items, es)
    | .mappingStart _ _ => (entriesOfEvents fuel es []).map fun (entries, es) => (.map entries, es)
    | _ => none

/-- The items of a sequence up to its end, after `acc` (reversed). -/
def itemsOfEvents : Nat → List Event → List Node → Option (List Node × List Event)
  | 0, _, _ => none
  | _ + 1, [], _ => none
  | _ + 1, .sequenceEnd :: es, acc => some (acc.reverse, es)
  | fuel + 1, es, acc =>
    match nodeOfEvents fuel es with
    | some (n, es) => itemsOfEvents fuel es (n :: acc)
    | none => none

/-- The entries of a mapping up to its end, after `acc` (reversed). -/
def entriesOfEvents : Nat → List Event → List (Node × Node) → Option (List (Node × Node) × List Event)
  | 0, _, _ => none
  | _ + 1, [], _ => none
  | _ + 1, .mappingEnd :: es, acc => some (acc.reverse, es)
  | fuel + 1, es, acc =>
    match nodeOfEvents fuel es with
    | some (k, es) =>
      match nodeOfEvents fuel es with
      | some (v, es) => entriesOfEvents fuel es ((k, v) :: acc)
      | none => none
    | none => none

end

/-- The root of the first document among the events, if there is a document. -/
def Node.ofEvents (events : List Event) : Option Node :=
  match events.dropWhile fun e => match e with | .documentStart => false | _ => true with
  | _ :: rest => (nodeOfEvents (rest.length + 1) rest).map (·.1)
  | [] => none

end ProviderCoverage.Yaml
