import Mathlib
import ProviderCoverage.Cache

/-!
# One caller at a time, the cache is a map of sessions

Seen between calls, the cache is a map from session to the time its registry was built and the
registry (`SessionMap`). Asking for a session's registry builds exactly when the map has no live
entry for it, keeps a registry built under the time of the call, and leaves the session without
an entry when the build fails; no other session changes. `runCalls_refines_sessionMap` shows
that every sequence of requests, releases and clearings answers the same on the cache as on
the map, and that the cache then shows that map.

What makes this hold is `RegistryCache.Settled`: between calls every entry holds a registry. A
build runs under an entry of its own, marked as building and told apart from every other entry
by a fresh identity; its outcome settles that entry, and a failed build removes it. So no caller
is left waiting on a build, and no failure is kept.
-/

namespace ProviderCoverage

def Flight.registry? : Flight → Option Registry
  | .ready r => some r
  | _ => none

/-- The cache as its callers see it: the lifetime, and per session the time its registry was
built and the registry. -/
@[ext]
structure SessionMap where
  ttl : Option Nat
  registry? : Nat → Option (Nat × Registry)

namespace SessionMap

/-- Whether a registry built at `createdAt` has outlived the lifetime at `now`. -/
def expired (m : SessionMap) (createdAt now : Nat) : Bool :=
  m.ttl.any fun ttl => now - createdAt ≥ ttl

def set (m : SessionMap) (s : Nat) (v : Option (Nat × Registry)) : SessionMap :=
  { m with registry? := Function.update m.registry? s v }

/-- Builds the session's registry anew: a registry built is kept under `now`, and a failed build
leaves the session without an entry. What the caller receives, and that the build ran. -/
def rebuild (m : SessionMap) (s now : Nat) (outcome : BuildOutcome) :
    SessionMap × Except BuildError Registry × Bool :=
  match outcome.result with
  | .ok r => (m.set s (some (now, r)), .ok r, true)
  | .error e => (m.set s none, .error e, true)

/-- The session's registry: the kept one while it has not expired, else a new build. -/
def getOrBuild (m : SessionMap) (s now : Nat) (build : Unit → BuildOutcome × List Event) :
    SessionMap × Except BuildError Registry × Bool :=
  match m.registry? s with
  | some (createdAt, r) =>
    if m.expired createdAt now then m.rebuild s now (build ()).1 else (m, .ok r, false)
  | none => m.rebuild s now (build ()).1

/-- Drops the session's entry; tells whether there was one. -/
def release (m : SessionMap) (s : Nat) : SessionMap × Bool :=
  (m.set s none, (m.registry? s).isSome)

def clearAll (m : SessionMap) : SessionMap := { m with registry? := fun _ => none }

end SessionMap

/-- A call a caller makes on the cache. -/
inductive CacheCall where
  | getOrBuild (s now : Nat) (build : Unit → BuildOutcome × List Event)
  | release (s : Nat)
  | clearAll

/-- What a call answers: what the caller received (nothing while it waits on a build) and
whether the build ran; whether an entry was released; or that all entries were dropped. -/
inductive CacheAnswer where
  | served (result : Option (Except BuildError Registry)) (built : Bool)
  | released (had : Bool)
  | cleared

/-- Makes the calls in order, each on the state the one before left; the last state and the
answers. -/
def runCalls {σ : Type} (step : σ → CacheCall → σ × CacheAnswer) :
    σ → List CacheCall → σ × List CacheAnswer
  | x, [] => (x, [])
  | x, call :: calls =>
    let rest := runCalls step (step x call).1 calls
    (rest.1, (step x call).2 :: rest.2)

/-- **Simulation.** Two machines related before a call, related after it with equal answers,
stay related through every sequence of calls, with equal answers. -/
theorem runCalls_simulate {σ τ : Type} {step₁ : σ → CacheCall → σ × CacheAnswer}
    {step₂ : τ → CacheCall → τ × CacheAnswer} (R : σ → τ → Prop)
    (hstep : ∀ x y call, R x y → R (step₁ x call).1 (step₂ y call).1 ∧ (step₁ x call).2 = (step₂ y call).2) :
    ∀ (calls : List CacheCall) (x : σ) (y : τ), R x y →
      R (runCalls step₁ x calls).1 (runCalls step₂ y calls).1 ∧
        (runCalls step₁ x calls).2 = (runCalls step₂ y calls).2
  | [], _, _, h => ⟨h, rfl⟩
  | call :: calls, x, y, h => by
    obtain ⟨hR, hanswer⟩ := hstep x y call h
    obtain ⟨hR', hrest⟩ := runCalls_simulate R hstep calls _ _ hR
    exact ⟨hR', by simp only [runCalls, hanswer, hrest]⟩

def SessionMap.call (m : SessionMap) : CacheCall → SessionMap × CacheAnswer
  | .getOrBuild s now build =>
    let out := m.getOrBuild s now build
    (out.1, .served (some out.2.1) out.2.2)
  | .release s =>
    let out := m.release s
    (out.1, .released out.2)
  | .clearAll => (m.clearAll, .cleared)

namespace RegistryCache

def call (c : RegistryCache) : CacheCall → RegistryCache × CacheAnswer
  | .getOrBuild s now build =>
    let out := c.getOrBuild s now build
    (out.1, .served out.2.1 out.2.2.1)
  | .release s =>
    let out := c.release s
    (out.1, .released out.2)
  | .clearAll => (c.clearAll.1, .cleared)

/-- The map a cache shows: each session's settled registry with the time its entry was made. -/
def view (c : RegistryCache) : SessionMap where
  ttl := c.ttl
  registry? s := (c.lookup? s).bind fun e => e.flight.registry?.map (e.createdAt, ·)

/-- The cache between calls: every entry holds a registry, no session has two entries, and every
entry's identity has been handed out. -/
structure Settled (c : RegistryCache) : Prop where
  ready : ∀ p ∈ c.entries, ∃ r, p.2.flight = .ready r
  sessionsNodup : (c.entries.map (·.1)).Nodup
  idsIssued : ∀ p ∈ c.entries, p.2.id < c.nextId

variable {c : RegistryCache} {s k now : Nat} {e : CacheEntry}

theorem settled_empty (ttl : Option Nat) : ({ ttl := ttl } : RegistryCache).Settled :=
  ⟨by simp, by simp, by simp⟩

/-! ### Entries after a change -/

theorem lookup?_erase (c : RegistryCache) (s k : Nat) :
    (c.erase s).lookup? k = if k = s then none else c.lookup? k := by
  unfold lookup? erase
  rw [List.find?_filter]
  split
  · rename_i hks
    subst hks
    simp
  · rename_i hks
    have hpred : (fun a : Nat × CacheEntry => decide ((a.1 != s) = true ∧ (a.1 == k) = true)) =
        (·.1 == k) := by
      funext a
      by_cases ha : a.1 = k
      · simp [ha, hks]
      · simp [ha]
    rw [hpred]

theorem lookup?_insert (c : RegistryCache) (s k : Nat) (e : CacheEntry) :
    (c.insert s e).lookup? k = if k = s then some e else c.lookup? k := by
  have herase := c.lookup?_erase s k
  simp only [lookup?, insert, erase, List.find?_append] at herase ⊢
  split
  · rename_i hks
    subst hks
    simp only [if_true, Option.map_eq_none_iff] at herase
    simp [herase]
  · rename_i hks
    simp only [hks, if_false] at herase
    rw [← herase]
    simp [Ne.symm hks]

theorem mem_of_lookup? (h : c.lookup? s = some e) : (s, e) ∈ c.entries := by
  obtain ⟨⟨k, x⟩, hp, rfl⟩ := Option.map_eq_some_iff.mp h
  have hk : k = s := by simpa using List.find?_some hp
  exact hk ▸ List.mem_of_find?_eq_some hp

theorem finish_of_fresh {i : Nat} (h : ∀ p ∈ c.entries, p.2.id ≠ i) (f : Flight) :
    c.finish i f = c := by
  have hmap : c.entries.map (fun p => if p.2.id == i then (p.1, { p.2 with flight := f }) else p) =
      c.entries := by
    refine (List.map_congr_left fun p hp => ?_).trans (List.map_id _)
    simp [h p hp]
  simp only [finish, hmap]

theorem finish_insert (h : ∀ p ∈ c.entries, p.2.id ≠ e.id) (f : Flight) :
    (c.insert s e).finish e.id f = c.insert s { e with flight := f } := by
  have hrest := finish_of_fresh (c := c.erase s) (fun p hp => h p (List.mem_of_mem_filter hp)) f
  simp only [finish, insert, erase, List.map_append, RegistryCache.mk.injEq, true_and,
    and_true] at hrest ⊢
  rw [hrest]
  simp

theorem removeIfCurrent_insert (s : Nat) (e : CacheEntry) (n : Nat) :
    ({ c.insert s e with nextId := n } : RegistryCache).removeIfCurrent s e.id =
      { c.erase s with nextId := n } := by
  have hcurrent : ({ c.insert s e with nextId := n } : RegistryCache).lookup? s = some e :=
    (c.lookup?_insert s s e).trans (if_pos rfl)
  rw [removeIfCurrent, hcurrent]
  simp [insert, erase, List.filter_append, List.filter_filter]

/-! ### What one call does -/

/-- **What a request does** to a settled cache: a live entry is served as it is, with no build;
otherwise the build runs, and its entry, made afresh, keeps the registry built or, when the
build failed, is gone together with any entry the session had. -/
theorem getOrBuild_cases (h : c.Settled) (s now : Nat) (build : Unit → BuildOutcome × List Event) :
    (∃ e r, c.lookup? s = some e ∧ e.flight = .ready r ∧ c.isExpired e now = false ∧
      (c.getOrBuild s now build).1 = c ∧ (c.getOrBuild s now build).2.1 = some (.ok r) ∧
      (c.getOrBuild s now build).2.2.1 = false) ∨
    ((∀ e, c.lookup? s = some e → c.isExpired e now = true) ∧
      (c.getOrBuild s now build).2.1 = some (build ()).1.result ∧
      (c.getOrBuild s now build).2.2.1 = true ∧
      (∀ r, (build ()).1.result = .ok r → (c.getOrBuild s now build).1 =
        { c.insert s ⟨now, c.nextId, .ready r⟩ with nextId := c.nextId + 1 }) ∧
      (∀ err, (build ()).1.result = .error err → (c.getOrBuild s now build).1 =
        { c.erase s with nextId := c.nextId + 1 })) := by
  unfold getOrBuild
  cases hlive : (c.lookup? s).filter (!c.isExpired · now) with
  | some e =>
    obtain ⟨he, hlive'⟩ := Option.filter_eq_some_iff.mp hlive
    obtain ⟨r, hr⟩ : ∃ r, e.flight = .ready r := h.ready _ (mem_of_lookup? he)
    exact .inl ⟨e, r, he, hr, by simpa using hlive', rfl, by simp [hr, Flight.outcome?], rfl⟩
  | none =>
    have hexpired : ∀ e, c.lookup? s = some e → c.isExpired e now = true := fun e he => by
      simpa using Option.filter_eq_none_iff.mp hlive e he
    have hfresh : ∀ p ∈ c.entries, p.2.id ≠ c.nextId := fun p hp => (h.idsIssued p hp).ne
    refine .inr ⟨hexpired, ?_⟩
    dsimp only
    generalize build () = out
    obtain ⟨outcome, events⟩ := out
    cases hres : outcome.result with
    | ok r =>
      refine ⟨rfl, rfl, ?_, ?_⟩
      swap
      · intro _ herr
        cases herr
      intro r' hr'
      cases hr'
      show { (c.insert s ⟨now, c.nextId, .building⟩).finish c.nextId (.ready r) with
        nextId := c.nextId + 1 } = _
      rw [finish_insert hfresh]
    | error err =>
      refine ⟨rfl, rfl, ?_, ?_⟩
      · intro _ hok
        cases hok
      intro _ _
      show (({ c.insert s ⟨now, c.nextId, .building⟩ with nextId := c.nextId + 1 } :
        RegistryCache).removeIfCurrent s c.nextId).finish c.nextId (.failed err) = _
      rw [removeIfCurrent_insert s ⟨now, c.nextId, .building⟩,
        finish_of_fresh (fun p hp => hfresh p (List.mem_of_mem_filter hp))]

/-! ### The map a cache shows -/

theorem view_registry?_eq_some_iff {t : Nat} {r : Registry} :
    c.view.registry? s = some (t, r) ↔ ∃ e, c.lookup? s = some e ∧ e.flight = .ready r ∧ e.createdAt = t := by
  simp only [view, Option.bind_eq_some_iff, Option.map_eq_some_iff, Prod.mk.injEq]
  constructor
  · rintro ⟨e, he, r', hr', rfl, rfl⟩
    refine ⟨e, he, ?_, rfl⟩
    cases hf : e.flight <;> simp_all [Flight.registry?]
  · rintro ⟨e, he, hr, rfl⟩
    exact ⟨e, he, r, by simp [hr, Flight.registry?], rfl, rfl⟩

theorem isExpired_of_ready {r : Registry} (hr : e.flight = .ready r) :
    c.isExpired e now = c.view.expired e.createdAt now := by
  simp [isExpired, SessionMap.expired, view, hr, Flight.isBuilding]

theorem view_erase (c : RegistryCache) (s : Nat) : (c.erase s).view = c.view.set s none := by
  refine SessionMap.ext rfl (funext fun k => ?_)
  simp only [view, SessionMap.set]
  rw [lookup?_erase]
  by_cases hk : k = s
  · simp [hk]
  · simp [hk]

theorem view_insert (c : RegistryCache) (s : Nat) (e : CacheEntry) :
    (c.insert s e).view = c.view.set s (e.flight.registry?.map (e.createdAt, ·)) := by
  refine SessionMap.ext rfl (funext fun k => ?_)
  simp only [view, SessionMap.set]
  rw [lookup?_insert]
  by_cases hk : k = s
  · simp [hk]
  · simp [hk]

/-! ### Settled caches -/

theorem clearAll_settled (c : RegistryCache) : c.clearAll.1.Settled :=
  ⟨by simp [clearAll], by simp [clearAll], by simp [clearAll]⟩

namespace Settled

theorem lookup?_ready (h : c.Settled) (he : c.lookup? s = some e) : ∃ r, e.flight = .ready r :=
  h.ready _ (mem_of_lookup? he)

theorem isSome_view (h : c.Settled) (s : Nat) :
    (c.view.registry? s).isSome = (c.lookup? s).isSome := by
  cases he : c.lookup? s with
  | none => simp [view, he]
  | some e =>
    obtain ⟨r, hr⟩ := h.lookup?_ready he
    simp [view, he, hr, Flight.registry?]

theorem erase (h : c.Settled) (s : Nat) : (c.erase s).Settled where
  ready p hp := h.ready p (List.mem_of_mem_filter hp)
  sessionsNodup := (List.filter_sublist.map _).nodup h.sessionsNodup
  idsIssued p hp := h.idsIssued p (List.mem_of_mem_filter hp)

theorem withNextId (h : c.Settled) {n : Nat} (hn : c.nextId ≤ n) : { c with nextId := n }.Settled where
  ready := h.ready
  sessionsNodup := h.sessionsNodup
  idsIssued p hp := Nat.lt_of_lt_of_le (h.idsIssued p hp) hn

/-- The registry a build made, kept under an identity not handed out before, leaves the cache
settled. -/
theorem insert_ready (h : c.Settled) (s now : Nat) (r : Registry) :
    { c.insert s ⟨now, c.nextId, .ready r⟩ with nextId := c.nextId + 1 }.Settled where
  ready p hp := by
    rcases List.mem_append.mp hp with hp | hp
    · exact h.ready p (List.mem_of_mem_filter hp)
    · exact ⟨r, by simp [List.mem_singleton.mp hp]⟩
  sessionsNodup := by
    show (((c.erase s).entries ++ [(s, (⟨now, c.nextId, .ready r⟩ : CacheEntry))]).map
      (·.1)).Nodup
    rw [List.map_append, List.nodup_append]
    refine ⟨(h.erase s).sessionsNodup, List.nodup_singleton _, fun a ha b hb => ?_⟩
    obtain ⟨p, hp, rfl⟩ := List.mem_map.mp ha
    have hne : p.1 ≠ s := by simpa using (List.mem_filter.mp hp).2
    simpa [List.mem_singleton.mp hb] using hne
  idsIssued p hp := by
    rcases List.mem_append.mp hp with hp | hp
    · exact Nat.lt_succ_of_lt (h.idsIssued p (List.mem_of_mem_filter hp))
    · simp [List.mem_singleton.mp hp]

/-- **A request on a settled cache answers as on its map, and leaves the cache settled and
showing the map the request leaves.** -/
theorem getOrBuild (h : c.Settled) (s now : Nat) (build : Unit → BuildOutcome × List Event) :
    ((c.getOrBuild s now build).1.Settled ∧
      (c.getOrBuild s now build).1.view = (c.view.getOrBuild s now build).1) ∧
    (c.getOrBuild s now build).2.1 = some (c.view.getOrBuild s now build).2.1 ∧
    (c.getOrBuild s now build).2.2.1 = (c.view.getOrBuild s now build).2.2 := by
  rcases getOrBuild_cases h s now build with
    ⟨e, r, he, hr, hlive, hstate, hresult, hbuilt⟩ | ⟨hexpired, hresult, hbuilt, hok, herror⟩
  · have hview : c.view.registry? s = some (e.createdAt, r) :=
      view_registry?_eq_some_iff.mpr ⟨e, he, hr, rfl⟩
    have hspec : c.view.getOrBuild s now build = (c.view, .ok r, false) := by
      rw [isExpired_of_ready hr] at hlive
      simp [SessionMap.getOrBuild, hview, hlive]
    rw [hstate, hresult, hbuilt, hspec]
    exact ⟨⟨h, rfl⟩, rfl, rfl⟩
  · have hspec : c.view.getOrBuild s now build = c.view.rebuild s now (build ()).1 := by
      cases hview : c.view.registry? s with
      | none => simp [SessionMap.getOrBuild, hview]
      | some entry =>
        obtain ⟨t, r⟩ := entry
        obtain ⟨e, he, hr, rfl⟩ := view_registry?_eq_some_iff.mp hview
        have hexp := hexpired e he
        rw [isExpired_of_ready hr] at hexp
        simp [SessionMap.getOrBuild, hview, hexp]
    rw [hspec, hresult, hbuilt]
    cases hres : (build ()).1.result with
    | ok r =>
      rw [hok r hres]
      refine ⟨⟨h.insert_ready s now r, ?_⟩, by simp [SessionMap.rebuild, hres]⟩
      show (c.insert s _).view = _
      rw [view_insert]
      simp [SessionMap.rebuild, hres, Flight.registry?]
    | error err =>
      rw [herror err hres]
      refine ⟨⟨(h.erase s).withNextId (Nat.le_succ _), ?_⟩, by simp [SessionMap.rebuild, hres]⟩
      show (c.erase s).view = _
      rw [view_erase]
      simp [SessionMap.rebuild, hres]

theorem getOrBuild_isSome (h : c.Settled) (s now : Nat) (build : Unit → BuildOutcome × List Event) :
    (c.getOrBuild s now build).2.1.isSome := by
  rw [(h.getOrBuild s now build).2.1]
  rfl

/-- **One call.** Any call on a settled cache answers as on its map, and leaves the cache settled
and showing the map the call leaves. -/
theorem call (h : c.Settled) (op : CacheCall) :
    ((c.call op).1.Settled ∧ (c.call op).1.view = (c.view.call op).1) ∧
      (c.call op).2 = (c.view.call op).2 := by
  cases op with
  | getOrBuild s now build =>
    obtain ⟨hstate, hresult, hbuilt⟩ := h.getOrBuild s now build
    exact ⟨hstate, by simp only [RegistryCache.call, SessionMap.call, hresult, hbuilt]⟩
  | release s =>
    refine ⟨⟨h.erase s, view_erase c s⟩, ?_⟩
    simp only [RegistryCache.call, release, SessionMap.call, SessionMap.release, h.isSome_view]
  | clearAll =>
    have hview : c.clearAll.1.view = c.view.clearAll :=
      SessionMap.ext rfl (funext fun _ => rfl)
    exact ⟨⟨clearAll_settled c, hview⟩, rfl⟩

end Settled

end RegistryCache

/-- **The cache refines a map of sessions.** From an empty cache, every sequence of requests,
releases and clearings, made one at a time, gets the answers the empty map gets: each request is
served at once, builds exactly when the map has no live registry for the session, and returns
the registry kept or the outcome of its build; a registry built is kept under the time of the
request, and a failed build leaves the session without an entry. Afterwards every entry of the
cache holds a registry, so none is building and no failure is kept, and the cache shows the
map. -/
theorem runCalls_refines_sessionMap (ttl : Option Nat) (calls : List CacheCall) :
    let cache := runCalls RegistryCache.call { ttl := ttl } calls
    let map := runCalls SessionMap.call ⟨ttl, fun _ => none⟩ calls
    cache.1.Settled ∧ cache.1.view = map.1 ∧ cache.2 = map.2 := by
  -- the relation carried from call to call: settled, and showing the map
  have hstep : ∀ (c : RegistryCache) (m : SessionMap) (op : CacheCall), c.Settled ∧ c.view = m →
      ((c.call op).1.Settled ∧ (c.call op).1.view = (m.call op).1) ∧
        (c.call op).2 = (m.call op).2 := by
    rintro c m op ⟨h, rfl⟩
    exact h.call op
  have hempty : ({ ttl := ttl } : RegistryCache).view = ⟨ttl, fun _ => none⟩ :=
    SessionMap.ext rfl (funext fun _ => rfl)
  obtain ⟨⟨hsettled, hview⟩, hanswers⟩ := runCalls_simulate _ hstep calls _ _
    ⟨RegistryCache.settled_empty ttl, hempty⟩
  exact ⟨hsettled, hview, hanswers⟩

-- a failure is not kept: the second request builds again, and a panic without a text is
-- reported as such
example : (runCalls RegistryCache.call { ttl := none }
    [.getOrBuild 1 0 fun _ => (.failed "no provider", []),
      .getOrBuild 1 1 fun _ => (.panicked .other, [])]).2 =
    [.served (some (.error (.failed "no provider"))) true,
      .served (some (.error (.panicked "unknown panic payload"))) true] := by
  rfl

end ProviderCoverage
