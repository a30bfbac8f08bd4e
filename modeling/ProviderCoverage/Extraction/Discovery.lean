import ProviderCoverage.Entity
import ProviderCoverage.Log

/-!
# Discoveries and the state they build

Strategies that scan a file report what they found as discoveries, and the discoveries are
applied in order to a state: the entities found so far, in order, and the receiver types (Go
types implementing an entity) indexed by name. An insertion registers an entity unless its key
is taken, and indexes its receiver if the receiver is not indexed yet. A replacement is the
authoritative name for a receiver: the entity indexed under it is renamed in place (keeping its
attributes unless it has none, and its import capability), or dropped when the new key is
already taken; a receiver not indexed turns the replacement into an insertion.

Keys stay unique, and the receiver index is injective with every value the key of a listed
entity.
-/

namespace ProviderCoverage.Extraction

/-- What a strategy wants done with an entity it found. -/
inductive Discovery where
  /-- Register the entity unless its key is taken; `receiver` is the Go type implementing it,
  when known. -/
  | insert (entity : Entity) (receiver : Option String)
  /-- The authoritative naming of `receiver`'s entity. -/
  | replaceIfPresent (receiver : String) (entity : Entity)
  deriving Repr

def Discovery.entity : Discovery → Entity
  | .insert e _ => e
  | .replaceIfPresent _ e => e

/-- The entities found in one file so far, and the receiver index. -/
structure DiscoveryState where
  entities : List Entity := []
  receivers : List (String × EntityKey) := []
  deriving Repr, Inhabited

namespace DiscoveryState

def contains (s : DiscoveryState) (k : EntityKey) : Bool := s.entities.any (·.key == k)

def keyOf? (s : DiscoveryState) (receiver : String) : Option EntityKey :=
  (s.receivers.find? (·.1 == receiver)).map (·.2)

def receiverOf (s : DiscoveryState) (k : EntityKey) : Option String :=
  (s.receivers.find? (·.2 == k)).map (·.1)

/-- Registers an entity unless its key is taken. -/
def insert (s : DiscoveryState) (e : Entity) (receiver : Option String) : DiscoveryState :=
  if s.contains e.key then s
  else
    let receivers := match receiver with
      | some r => if (s.keyOf? r).isSome then s.receivers else s.receivers ++ [(r, e.key)]
      | none => s.receivers
    ⟨s.entities ++ [e], receivers⟩

/-- Applies a discovery, with the events it reports. -/
def apply (s : DiscoveryState) : Discovery → DiscoveryState × List Event
  | .insert e r => (s.insert e r, [])
  | .replaceIfPresent receiver e =>
    match s.keyOf? receiver with
    | none => (s.insert e (some receiver), [])
    | some old =>
      let new := e.key
      if old == new then (s, [])
      else
        match s.entities.findIdx? (·.key == old) with
        | none => (s.insert e (some receiver), [])
        | some i =>
          let renamed := s.entities.getD i default
          let rest := s.entities.eraseIdx i
          let receivers := s.receivers.filter (·.1 != receiver)
          if rest.any (·.key == new) then
            (⟨rest, receivers⟩, [Event.debug .extraction (new.render ++ " already known, dropping provisional " ++
              old.render ++ " for " ++ receiver)])
          else
            let renamed := { renamed with
              name := e.name
              kind := e.kind
              attributes := if renamed.attributes.isEmpty then e.attributes else renamed.attributes
              importCapable := renamed.importCapable || e.importCapable }
            (⟨rest.insertIdx i renamed, receivers ++ [(receiver, new)]⟩,
              [Event.debug .extraction ("renaming " ++ old.render ++ " to " ++ new.render ++ " (receiver " ++
                receiver ++ ")")])

end DiscoveryState

end ProviderCoverage.Extraction
