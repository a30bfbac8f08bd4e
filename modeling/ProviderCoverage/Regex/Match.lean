import ProviderCoverage.Regex.Basic

/-!
# Matching regular expressions

An expression compiles to an automaton whose states read one character, check an assertion about
the place between two characters, fork into two states, accept or reject. The text is run
through the automaton with every state it can be in at once, a new run starting at every place,
so matching takes time proportional to the length of the text times the number of states,
whatever the expression: nested repetitions cannot make it blow up.
-/

namespace ProviderCoverage.Regex

open Unicode

/-- Whether the place between `prev` and `next` is one the word-boundary assertion accepts, word
characters being those of Unicode or, without `unicode`, of ASCII. -/
def atBoundary (kind : Boundary) (unicode : Bool) (prev next : Option Char) : Bool :=
  let word := if unicode then isWord else isAsciiWord
  kind.holds ((prev.map word).getD false) ((next.map word).getD false)

/-- Whether the single-character expression `r` accepts `x`; other expressions accept no
character. -/
def Regex.acceptsChar : Regex → Char → Bool
  | .lit c fold, x => litMatches c fold x
  | .cls negated items fold, x => clsMatches negated items fold x
  | .dot newline crlf, x => newline || (x != '\n' && !(crlf && x == '\r'))
  | _, _ => false

/-- Whether the assertion `r` holds at the place between `prev` and `next` (`none` beyond the
ends of the text); other expressions hold everywhere. -/
def Regex.holdsAt : Regex → Option Char → Option Char → Bool
  | .lineStart mode, prev, next =>
    match mode with
    | .text => prev.isNone
    | .lf => prev.isNone || prev == some '\n'
    | .crlf => prev.isNone || prev == some '\n' || (prev == some '\r' && next != some '\n')
  | .lineEnd mode, prev, next =>
    match mode with
    | .text => next.isNone
    | .lf => next.isNone || next == some '\n'
    | .crlf => next.isNone || next == some '\r' || (next == some '\n' && prev != some '\r')
  | .boundary kind unicode, prev, next => atBoundary kind unicode prev next
  | _, _, _ => true

/-- A state of the automaton an expression compiles to. -/
inductive State where
  /-- The expression has matched. -/
  | accept
  /-- Nothing matches from here. -/
  | reject
  /-- Reads a character that the single-character expression accepts, then goes to `next`. -/
  | read (r : Regex) (next : Nat)
  /-- Goes on to `next` where the assertion holds, without reading. -/
  | check (r : Regex) (next : Nat)
  /-- Goes on to both states, without reading. -/
  | fork (first second : Nat)
  deriving Repr, Inhabited

/-- An automaton: its states, of which the first accepts, and the state where it starts. -/
structure Automaton where
  states : Array State
  start : Nat
  deriving Repr

mutual

/-- Adds the states that match `r` and then go on to `next`; gives the state they start at. -/
def Regex.compile : Regex → Nat → Array State → Nat × Array State
  | .empty, next, sts => (next, sts)
  | .lit c fold, next, sts => (sts.size, sts.push (.read (.lit c fold) next))
  | .cls negated items fold, next, sts => (sts.size, sts.push (.read (.cls negated items fold) next))
  | .dot newline crlf, next, sts => (sts.size, sts.push (.read (.dot newline crlf) next))
  | .lineStart mode, next, sts => (sts.size, sts.push (.check (.lineStart mode) next))
  | .lineEnd mode, next, sts => (sts.size, sts.push (.check (.lineEnd mode) next))
  | .boundary kind unicode, next, sts =>
    (sts.size, sts.push (.check (.boundary kind unicode) next))
  | .group r, next, sts => r.compile next sts
  | .cat parts, next, sts => compileSeq parts next sts
  | .alt branches, next, sts => compileAlt branches next sts
  | .rep r min max _, next, sts =>
    let (tail, sts) : Nat × Array State := match max with
      | none =>
        let loop := sts.size
        let (body, sts) := r.compile loop (sts.push .reject)
        (loop, sts.setIfInBounds loop (.fork body next))
      | some most =>
        (List.range (most - min)).foldl (fun (acc : Nat × Array State) _ =>
          let (body, sts) := r.compile acc.1 acc.2
          (sts.size, sts.push (.fork body acc.1))) (next, sts)
    (List.range min).foldl (fun (acc : Nat × Array State) _ => r.compile acc.1 acc.2) (tail, sts)

/-- Adds the states that match the expressions one after the other and then go on to
`next`. -/
def compileSeq : List Regex → Nat → Array State → Nat × Array State
  | [], next, sts => (next, sts)
  | r :: rs, next, sts =>
    let (rest, sts) := compileSeq rs next sts
    r.compile rest sts

/-- Adds the states that match one of the expressions and then go on to `next`; no expression
at all matches nothing. -/
def compileAlt : List Regex → Nat → Array State → Nat × Array State
  | [], _, sts => (sts.size, sts.push .reject)
  | [r], next, sts => r.compile next sts
  | r :: rs, next, sts =>
    let (first, sts) := r.compile next sts
    let (second, sts) := compileAlt rs next sts
    (sts.size, sts.push (.fork first second))

end

def Regex.toAutomaton (r : Regex) : Automaton :=
  let (start, states) := r.compile 0 #[.accept]
  ⟨states, start⟩

namespace Automaton

/-- Marks in `seen` the states reached from `todo` without reading, at the place between `prev`
and `next`; at most `fuel` states are taken from `todo`. -/
def reach (a : Automaton) (prev next : Option Char) : Nat → List Nat → Array Bool → Array Bool
  | 0, _, seen => seen
  | _ + 1, [], seen => seen
  | fuel + 1, i :: todo, seen =>
    if seen.getD i true then a.reach prev next fuel todo seen
    else
      let seen := seen.setIfInBounds i true
      match a.states.getD i .reject with
      | .fork x y => a.reach prev next fuel (x :: y :: todo) seen
      | .check r n => a.reach prev next fuel (if r.holdsAt prev next then n :: todo else todo) seen
      | _ => a.reach prev next fuel todo seen

/-- The states reached from `origins` without reading, at the place between `prev` and `next`.
Each state is marked once and pushes at most two others, which bounds the work. -/
def closure (a : Automaton) (prev next : Option Char) (origins : List Nat) : Array Bool :=
  a.reach prev next (origins.length + 2 * a.states.size + 1) origins
    (Array.replicate a.states.size false)

/-- The states after reading `c` from the reached states. -/
def advance (a : Automaton) (reached : Array Bool) (c : Char) : List Nat :=
  (List.range a.states.size).filterMap fun i =>
    if reached.getD i false then
      match a.states.getD i .reject with
      | .read r n => if r.acceptsChar c then some n else none
      | _ => none
    else none

/-- Whether a match ends somewhere in `s`, given the character before it and the states the
runs started earlier are in; a new run starts at every place. -/
def searchFrom (a : Automaton) (prev : Option Char) (active : List Nat) : List Char → Bool
  | [] => (a.closure prev none (a.start :: active)).getD 0 false
  | c :: rest =>
    let reached := a.closure prev (some c) (a.start :: active)
    reached.getD 0 false || a.searchFrom (some c) (a.advance reached c) rest

end Automaton

def Regex.matchesChars (r : Regex) (s : List Char) : Bool :=
  r.toAutomaton.searchFrom none [] s

def Regex.isMatch (r : Regex) (s : String) : Bool :=
  r.matchesChars s.toList

end ProviderCoverage.Regex
