import ProviderCoverage.Registry

/-!
# The registry cache

Built registries are kept per analysis session. Asking for a session's registry runs the
build only when the session has no entry or its entry has expired (the lifetime is set and at
least that much time has passed since the entry was made); otherwise the caller waits on the
entry's build and receives its outcome. The build runs under a new entry marked as building,
which its outcome settles; a failed build removes its entry, so the next request builds again.
Time is a clock of nanoseconds passed in by the caller, never decreasing from one call to the
next.

A session is known by a number and written `session#n`.
-/

namespace ProviderCoverage

/-- Why a build did not produce a registry. -/
inductive BuildError where
  | failed (message : String)
  | panicked (message : String)
  deriving Repr, DecidableEq

namespace BuildError

def variant : BuildError → String
  | .failed _ => "Failed"
  | .panicked _ => "Panicked"

def render : BuildError → String
  | .failed m => "registry build failed: " ++ m
  | .panicked m => "registry build panicked: " ++ m

end BuildError

/-- What a panicking build unwinds with: a static text, an owned text, or any other value. -/
inductive PanicPayload where
  | str (message : String)
  | string (message : String)
  | other
  deriving Repr, DecidableEq

/-- The message a panic is reported with: its text, when it has one. -/
def PanicPayload.message : PanicPayload → String
  | .str m => m
  | .string m => m
  | .other => "unknown panic payload"

/-- How a build ended: with a registry, with an error report, or by panicking. -/
inductive BuildOutcome where
  | built (r : Registry)
  | failed (report : String)
  | panicked (payload : PanicPayload)

/-- The registry a build made, or the error its end is reported as. -/
def BuildOutcome.result : BuildOutcome → Except BuildError Registry
  | .built r => .ok r
  | .failed report => .error (.failed report)
  | .panicked payload => .error (.panicked payload.message)

/-- Where the build of an entry stands: running, finished with a registry, or failed. -/
inductive Flight where
  | building
  | ready (r : Registry)
  | failed (e : BuildError)

namespace Flight

def isBuilding : Flight → Bool
  | .building => true
  | _ => false

/-- What a caller waiting on the build receives; nothing while it runs. -/
def outcome? : Flight → Option (Except BuildError Registry)
  | .building => none
  | .ready r => some (.ok r)
  | .failed e => some (.error e)

end Flight

def sessionName (s : Nat) : String := "session#" ++ toString s

/-- A session's entry: when it was made, which entry it is, and how its build stands. -/
structure CacheEntry where
  createdAt : Nat
  /-- Tells entries apart, so that a failed build removes its own entry and no later one. -/
  id : Nat
  flight : Flight

/-- Counts describing the cache at a moment. -/
structure CacheStats where
  totalEntries : Nat
  oldestEntryAge : Option Nat
  expiredEntries : Nat
  deriving Repr, DecidableEq

/-- Entries kept per session, with an optional lifetime in nanoseconds. -/
structure RegistryCache where
  ttl : Option Nat
  entries : List (Nat × CacheEntry) := []
  /-- The identity the next entry made receives. -/
  nextId : Nat := 0

namespace RegistryCache

/-- Whether an entry has outlived the lifetime at `now`; a build that still runs never has. -/
def isExpired (c : RegistryCache) (e : CacheEntry) (now : Nat) : Bool :=
  c.ttl.any (fun ttl => now - e.createdAt ≥ ttl) && !e.flight.isBuilding

def lookup? (c : RegistryCache) (s : Nat) : Option CacheEntry :=
  (c.entries.find? (·.1 == s)).map (·.2)

/-- The cache without the session's entry. -/
def erase (c : RegistryCache) (s : Nat) : RegistryCache :=
  { c with entries := c.entries.filter (·.1 != s) }

/-- The cache with `e` as the session's entry, in place of any it had. -/
def insert (c : RegistryCache) (s : Nat) (e : CacheEntry) : RegistryCache :=
  { c with entries := (c.erase s).entries ++ [(s, e)] }

/-- Settles the build of the entry `id`, wherever that entry is kept. -/
def finish (c : RegistryCache) (id : Nat) (f : Flight) : RegistryCache :=
  { c with entries := c.entries.map fun p => if p.2.id == id then (p.1, { p.2 with flight := f }) else p }

/-- Drops the session's entry if it is still the entry `id`. -/
def removeIfCurrent (c : RegistryCache) (s id : Nat) : RegistryCache :=
  if (c.lookup? s).any (·.id == id) then c.erase s else c

/-- The session's registry. A live entry is waited on and nothing is built; otherwise a new
entry is made, `build` runs, and its outcome settles the entry, a failed build removing it. The
new cache, what the caller receives (nothing while a build it waits on still runs), whether the
build ran, and the events. -/
def getOrBuild (c : RegistryCache) (s : Nat) (now : Nat)
    (build : Unit → BuildOutcome × List Event) :
    RegistryCache × Option (Except BuildError Registry) × Bool × List Event :=
  match (c.lookup? s).filter (!c.isExpired · now) with
  | some e => (c, e.flight.outcome?, false, [])
  | none =>
    let expired := if (c.lookup? s).isSome then
      [Event.debug .cache (sessionName s ++ " expired, rebuilding")] else []
    let id := c.nextId
    let c := { c.insert s ⟨now, id, .building⟩ with nextId := id + 1 }
    let (outcome, events) := build ()
    match outcome.result with
    | .ok r => (c.finish id (.ready r), some (.ok r), true, expired ++ events)
    | .error err => ((c.removeIfCurrent s id).finish id (.failed err), some (.error err), true,
        expired ++ events ++ [Event.warn .cache (sessionName s ++ " build failed: " ++ err.render)])

/-- Drops a session's entry; tells whether there was one. -/
def release (c : RegistryCache) (s : Nat) : RegistryCache × Bool :=
  (c.erase s, (c.lookup? s).isSome)

def clearAll (c : RegistryCache) : RegistryCache × List Event :=
  ({ c with entries := [] },
    [Event.debug .cache ("clearing " ++ toString c.entries.length ++ " cached sessions")])

def size (c : RegistryCache) : Nat := c.entries.length

def stats (c : RegistryCache) (now : Nat) : CacheStats :=
  let ages := c.entries.map fun (_, e) => now - e.createdAt
  ⟨c.entries.length, ages.max?, (c.entries.filter fun (_, e) => c.isExpired e now).length⟩

end RegistryCache

/-- A duration written as its largest fitting unit with the exact fraction: `90s`, `1.5s`,
`100ms`, `2µs`, `1ns`. -/
def durationText (nanos : Nat) : String :=
  let withFraction (whole frac width : Nat) (unit : String) : String :=
    if frac == 0 then toString whole ++ unit
    else
      let digits := (toString frac).toList
      let padded := List.replicate (width - digits.length) '0' ++ digits
      let trimmed := (padded.reverse.dropWhile (· == '0')).reverse
      toString whole ++ "." ++ String.ofList trimmed ++ unit
  let secs := nanos / 1000000000
  let sub := nanos % 1000000000
  if secs > 0 then withFraction secs sub 9 "s"
  else if sub ≥ 1000000 then withFraction (sub / 1000000) (sub % 1000000) 6 "ms"
  else if sub ≥ 1000 then withFraction (sub / 1000) (sub % 1000) 3 "µs"
  else toString sub ++ "ns"

/-- The cache described by its lifetime and counts at `now`. -/
def RegistryCache.describe (c : RegistryCache) (now : Nat) : String :=
  let s := c.stats now
  let ttl := match c.ttl with
    | some t => "Some(" ++ durationText t ++ ")"
    | none => "None"
  let age := match s.oldestEntryAge with
    | some a => "Some(" ++ durationText a ++ ")"
    | none => "None"
  "RegistryCache \x7b ttl: " ++ ttl ++ ", stats: CacheStats \x7b total_entries: " ++
    toString s.totalEntries ++ ", oldest_entry_age: " ++ age ++ ", expired_entries: " ++
    toString s.expiredEntries ++ " \x7d \x7d"

end ProviderCoverage
