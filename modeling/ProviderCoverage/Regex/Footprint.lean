import ProviderCoverage.Regex.Term
import ProviderCoverage.Regex.Parse

/-!
# The memory of the automaton of an expression

A naming pattern is refused when the automaton over bytes that it compiles to would take more
than 10 MiB. Two automata are built, one reading forward and one reading backward, and each
must fit. The memory of an automaton is 32 bytes for each state, 8 bytes for each transition of
a state with a list of transitions and 4 bytes for each alternative of a fork.

The term of the pattern compiles part by part, the backward automaton taking the parts of a
sequence from the last. The whole pattern is a capture group in the forward automaton, whose
groups each add a state before and after; it ends in an accepting state, and unless every
match must start at the start of the text (at the end, backward) it is preceded by a lazy loop
over any byte. The parts:

* the empty term, an assertion, a single byte: one state;
* a literal: a state per byte, linked one after the other;
* a class of ASCII characters: a state with a transition per range and a state after it;
* another class: forward, a fork-free automaton of its UTF-8 sequences in which states with the
  same transitions are shared; backward, a fork to a chain of byte states per sequence, the
  chains sharing their first states where they read the same bytes;
* an alternation of literals: their trie, a state per chunk of transitions of each node and a
  fork where a literal ends inside another; any other alternation: a fork to its branches and
  a state where they meet;
* `n` repetitions: `n` copies linked; an optional part: a fork and a state after it; an
  unbounded one: a loop through a fork after its copies; `n` to `m`: `n` copies, then `m - n`
  forks each before a copy.

States that are shared are found in tables of a fixed number of slots, by a hash of what
they hold: a state whose slot was taken over by another is added again. So the count follows
the tables exactly, slots and hash included.
-/

namespace ProviderCoverage.Regex

/-- The most memory, in bytes, that an automaton of a naming pattern may take. -/
def sizeLimit : Nat := 10485760

/-- An automaton being built, as far as its memory goes: the number of its states and the bytes
its transitions and alternatives take. -/
structure Build where
  states : Nat := 0
  extra : Nat := 0
  deriving Repr, Inhabited

namespace Build

def memory (b : Build) : Nat := 32 * b.states + b.extra

def overLimit (b : Build) : Bool := b.memory > sizeLimit

/-- Adds a state whose lists take `extra` bytes; gives its number. -/
def add (b : Build) (extra : Nat) : Nat × Build :=
  (b.states, { states := b.states + 1, extra := b.extra + extra })

def link (b : Build) (fork : Bool) : Build :=
  if fork then { b with extra := b.extra + 4 } else b

end Build

/-- A compiled part: the state where it starts, the state where it ends, and whether that end is
a fork. -/
structure Fragment where
  start : Nat
  stop : Nat
  forks : Bool
  deriving Repr

/-- Compiling a part adds its states, or fails once the memory is over the limit. -/
abbrev Step := Build → Option (Fragment × Build)

def single : Step := fun b =>
  let (id, b) := b.add 0
  some (⟨id, id, false⟩, b)

/-- The parts after `first`, linked one after the other. -/
def chainFrom (first : Fragment) : List Step → Build → Option (Fragment × Build)
  | [], b => some (first, b)
  | s :: rest, b =>
    if b.overLimit then none
    else
      match s b with
      | none => none
      | some (p, b) => chainFrom ⟨first.start, p.stop, p.forks⟩ rest (b.link first.forks)

/-- Parts linked one after the other; none is a single state. -/
def chain : List Step → Step
  | [] => single
  | s :: rest => fun b =>
    match s b with
    | none => none
    | some (p, b) => chainFrom p rest b

/-- `k` more copies of a part after `first`, linked one after the other. -/
def copiesFrom (step : Step) (first : Fragment) : Nat → Build → Option (Fragment × Build)
  | 0, b => some (first, b)
  | k + 1, b =>
    if b.overLimit then none
    else
      match step b with
      | none => none
      | some (p, b) => copiesFrom step ⟨first.start, p.stop, p.forks⟩ k (b.link first.forks)

/-- `n` copies of a part linked one after the other; none is a single state. -/
def exactly (step : Step) : Nat → Step
  | 0 => single
  | n + 1 => fun b =>
    match step b with
    | none => none
    | some (p, b) => copiesFrom step p n b

/-- A class of ASCII characters with `ranges` ranges: a state with a transition per range, and
the state after it. -/
def asciiClass (ranges : Nat) : Step := fun b =>
  let (stop, b) := b.add 0
  let (start, b) := b.add (8 * ranges)
  some (⟨start, stop, false⟩, b)

/-- A fork to the branches, in order, and a state where they meet; a single branch is itself
and none is a state that never matches. -/
def branches : List Step → Step
  | [] => single
  | [s] => s
  | s1 :: s2 :: rest => fun b =>
    match s1 b with
    | none => none
    | some (p1, b) =>
      match s2 b with
      | none => none
      | some (p2, b) =>
        let (fork, b) := b.add 0
        let (stop, b) := b.add 0
        let b := (((b.link true).link p1.forks).link true).link p2.forks
        let more : Build → List Step → Option Build := fun b steps =>
          steps.foldlM (fun b s =>
            if b.overLimit then none
            else (s b).map fun (p, b) => (b.link true).link p.forks) b
        (more b rest).map fun b => (⟨fork, stop, false⟩, b)

/-- A part matched at most once: a fork to it or past it, and the state after. -/
def optional (step : Step) : Step := fun b =>
  let (fork, b) := b.add 0
  match step b with
  | none => none
  | some (p, b) =>
    let (stop, b) := b.add 0
    some (⟨fork, stop, false⟩, ((b.link true).link true).link p.forks)

/-- A part matched `n` times or more; `matchesNonEmpty` tells whether every match of it is
non-empty, which allows a single fork for no lower bound. -/
def atLeast (step : Step) (matchesNonEmpty : Bool) (n : Nat) : Step := fun b =>
  match n with
  | 0 =>
    if matchesNonEmpty then
      let (fork, b) := b.add 0
      (step b).map fun (p, b) => (⟨fork, fork, true⟩, (b.link true).link p.forks)
    else
      match step b with
      | none => none
      | some (p, b) =>
        let (_, b) := b.add 0
        let b := (b.link p.forks).link true
        let (question, b) := b.add 0
        let (stop, b) := b.add 0
        some (⟨question, stop, false⟩, ((b.link true).link true).link true)
  | 1 =>
    (step b).map fun (p, b) =>
      let (fork, b) := b.add 0
      (⟨p.start, fork, true⟩, (b.link p.forks).link true)
  | k + 2 =>
    match exactly step (k + 1) b with
    | none => none
    | some (pre, b) =>
      if b.overLimit then none
      else
        match step b with
        | none => none
        | some (last, b) =>
          let (fork, b) := b.add 0
          some (⟨pre.start, fork, true⟩, ((b.link pre.forks).link last.forks).link true)

/-- `k` more optional copies after the state `prevStop`, each behind a fork that may skip to
the final state. -/
def optionalCopies (step : Step) (prevForks : Bool) : Nat → Build → Option (Bool × Build)
  | 0, b => some (prevForks, b)
  | k + 1, b =>
    if b.overLimit then none
    else
      let (_, b) := b.add 0
      match step b with
      | none => none
      | some (p, b) => optionalCopies step p.forks k (((b.link prevForks).link true).link true)

def between (step : Step) (n m : Nat) : Step := fun b =>
  match exactly step n b with
  | none => none
  | some (pre, b) =>
    let (stop, b) := b.add 0
    (optionalCopies step pre.forks (m - n) b).map fun (lastForks, b) =>
      (⟨pre.start, stop, false⟩, b.link lastForks)

/-- A part matched from `min` to `max` times (no bound when `none`). -/
def repeated (step : Step) (matchesNonEmpty : Bool) (min : Nat) (max : Option Nat) : Step :=
  match min, max with
  | 0, some 1 => optional step
  | n, none => atLeast step matchesNonEmpty n
  | n, some m => if n == m then exactly step n else between step n m

/-- A capture group around a part: a state before it and a state after it. -/
def captured (step : Step) : Step := fun b =>
  let (start, b) := b.add 0
  (step b).map fun (p, b) =>
    let (stop, b) := b.add 0
    (⟨start, stop, false⟩, b.link p.forks)

/-! ## Forward classes -/

/-- A transition: the bytes `lo` to `hi`, then state `next`. -/
structure Transition where
  lo : Nat
  hi : Nat
  next : Nat
  deriving BEq, Repr

/-- The hash of the transitions of a state, step by step over the numbers of each. -/
def fnvStep (h : UInt64) (n : Nat) : UInt64 := (h ^^^ n.toUInt64) * 1099511628211

def fnvStart : UInt64 := 14695981039346656037

/-- The slot, among `size`, of the state with the transitions `ts`. -/
def transitionsSlot (ts : Array Transition) (size : Nat) : Nat :=
  (ts.foldl (fun h t => fnvStep (fnvStep (fnvStep h t.lo) t.hi) t.next) fnvStart).toNat % size

/-- The slots of the table of shared states of a forward class. -/
def forwardSlots : Nat := 10000

/-- A state of a forward class not added yet: its transitions so far and the bytes of its last
one, whose target is not known yet. -/
structure Pending where
  done : Array Transition
  last : Option (Nat × Nat)
  deriving Inhabited

/-- The transitions of a pending state with the last one sent to `next`. -/
def Pending.freeze (p : Pending) (next : Nat) : Array Transition :=
  match p.last with
  | some (lo, hi) => p.done.push ⟨lo, hi, next⟩
  | none => p.done

/-- The automaton of a forward class being built: the state all sequences end at, the table of
the states added, and the pending states along the last sequence, the first state first. -/
structure Forward where
  target : Nat
  table : Array (Option (Array Transition × Nat))
  pending : Array Pending

namespace Forward

/-- The state with the transitions `ts`: the one in its slot if that holds the same
transitions, else a new one, put in the slot. -/
def stateOf (f : Forward) (ts : Array Transition) (b : Build) : Nat × Forward × Build :=
  let slot := transitionsSlot ts forwardSlots
  let found : Option Nat := match f.table.getD slot none with
    | some (key, id) => if key == ts then some id else none
    | none => none
  match found with
  | some id => (id, f, b)
  | none =>
    let (id, b) := b.add (8 * ts.size)
    (id, { f with table := f.table.setIfInBounds slot (some (ts, id)) }, b)

/-- The last pending state with its last transition sent to `next`. -/
def freezeTop (f : Forward) (next : Nat) : Forward :=
  match f.pending.back? with
  | some p => { f with pending := f.pending.pop.push ⟨p.freeze next, none⟩ }
  | none => f

/-- Adds the pending states after the first `keep`, the last first, each sent to the one added
before; the state at `keep` is sent to the last one added. -/
def settle (keep : Nat) : Nat → Nat → Forward → Build → Forward × Build
  | 0, next, f, b => (f.freezeTop next, b)
  | fuel + 1, next, f, b =>
    if keep + 1 < f.pending.size then
      let ts := (f.pending.back?.getD default).freeze next
      let (id, f, b) := { f with pending := f.pending.pop }.stateOf ts b
      settle keep fuel id f b
    else (f.freezeTop next, b)

/-- How many of the pending states have their last transition on the bytes of `seq`, from the
first on. -/
def sharedLength (f : Forward) (seq : List (Nat × Nat)) : Nat :=
  ((seq.zip f.pending.toList).takeWhile fun (r, p) => p.last == some r).length

/-- Adds one sequence: the pending states past those it shares are added, and its other byte
ranges become pending states. -/
def addSequence (f : Forward) (b : Build) (seq : List (Nat × Nat)) : Forward × Build :=
  let keep := f.sharedLength seq
  let (f, b) := settle keep f.pending.size f.target f b
  match seq.drop keep with
  | [] => (f, b)
  | r :: more =>
    let top := f.pending.back?.getD default
    let pending := f.pending.pop.push { top with last := some r }
    ({ f with pending := more.foldl (fun ps r => ps.push ⟨#[], some r⟩) pending }, b)

end Forward

/-- A class with a character beyond ASCII, read forward: its UTF-8 sequences, in order, share
their first states and, through the table, their later ones. -/
def forwardClass (sequences : List (List (Nat × Nat))) : Step := fun b =>
  let (target, b) := b.add 0
  let f : Forward := ⟨target, Array.replicate forwardSlots none, #[⟨#[], none⟩]⟩
  let (f, b) := sequences.foldl (fun (f, b) seq => f.addSequence b seq) (f, b)
  let (f, b) := Forward.settle 0 f.pending.size target f b
  let (start, _, b) := f.stateOf (f.pending.getD 0 default).done b
  some (⟨start, target, false⟩, b)

/-! ## Backward classes -/

/-- The slots of the table of shared states of a backward class. -/
def backwardSlots : Nat := 1000

/-- The slot of the state that reads `lo` to `hi` and goes on to `next`. -/
def chainSlot (next lo hi : Nat) : Nat :=
  (fnvStep (fnvStep (fnvStep fnvStart next) lo) hi).toNat % backwardSlots

/-- One sequence read backward: a chain of byte states from its first byte range, which goes on
to `stop`, to its last; a state reading the same bytes on to the same state is shared when
the table still holds it. Gives the state the chain starts at. -/
def backwardChain (stop : Nat) (seq : List (Nat × Nat))
    (table : Array (Option ((Nat × Nat × Nat) × Nat))) (b : Build) :
    Nat × Array (Option ((Nat × Nat × Nat) × Nat)) × Build :=
  seq.foldl (fun (next, table, b) (lo, hi) =>
    let slot := chainSlot next lo hi
    let found : Option Nat := match table.getD slot none with
      | some (key, id) => if key == (next, lo, hi) then some id else none
      | none => none
    match found with
    | some id => (id, table, b)
    | none =>
      let (id, b) := b.add 0
      (id, table.setIfInBounds slot (some ((next, lo, hi), id)), b)) (stop, table, b)

/-- A class with a character beyond ASCII, read backward: a fork to a chain per UTF-8 sequence,
all chains ending at one state. -/
def backwardClass (sequences : List (List (Nat × Nat))) : Step := fun b =>
  let (fork, b) := b.add 0
  let (stop, b) := b.add 0
  let (_, b) := sequences.foldl (fun (table, b) seq =>
    let (_, table, b) := backwardChain stop seq table b
    (table, b.link true)) (Array.replicate backwardSlots none, b)
  some (⟨fork, stop, false⟩, b)

/-! ## Alternations of literals -/

/-- A node of the trie of literals: its edges by byte, and the ends of its chunks of edges,
each chunk closed by a literal ending at the node. Within a chunk the edges are sorted. -/
structure TrieNode where
  edges : Array (Nat × Nat) := #[]
  chunks : Array (Nat × Nat) := #[]
  deriving Inhabited

namespace TrieNode

def openStart (n : TrieNode) : Nat := (n.chunks.back?.map (·.2)).getD 0

/-- Whether a literal ends at the node and no edge leaves it. -/
def isLeaf (n : TrieNode) : Bool := !n.chunks.isEmpty && n.edges.isEmpty

/-- The node with a literal ending at it: the open chunk is closed. -/
def addMatch (n : TrieNode) : TrieNode :=
  if n.edges.isEmpty && !n.chunks.isEmpty then n
  else { n with chunks := n.chunks.push (n.openStart, n.edges.size) }

/-- The chunks of edges: the closed ones, then the open one. -/
def chunkList (n : TrieNode) : List (List (Nat × Nat)) :=
  let slice (a z : Nat) := (n.edges.extract a z).toList
  n.chunks.toList.map (fun (a, z) => slice a z) ++ [slice n.openStart n.edges.size]

end TrieNode

/-- The child of node `i` on byte `x` in the open chunk, added when there is none yet. -/
def trieChild (nodes : Array TrieNode) (i x : Nat) : Nat × Array TrieNode :=
  let n := nodes.getD i default
  let start := n.openStart
  let current := (n.edges.extract start n.edges.size).toList
  match current.find? (·.1 == x) with
  | some (_, child) => (child, nodes)
  | none =>
    let child := nodes.size
    let place := start + (current.filter (·.1 < x)).length
    let edges := (n.edges.toList.take place ++ [(x, child)] ++ n.edges.toList.drop place).toArray
    (child, (nodes.setIfInBounds i { n with edges := edges }).push {})

/-- Adds a literal to the trie from node `i`; a literal that another one already covers at a
leaf adds nothing. -/
def trieAdd (i : Nat) : List Nat → Array TrieNode → Array TrieNode
  | [], nodes => nodes.modify i TrieNode.addMatch
  | x :: rest, nodes =>
    if (nodes.getD i default).isLeaf then nodes
    else
      let (child, nodes) := trieChild nodes i x
      trieAdd child rest nodes

/-- Adds the states of node `i` and those below it, `stop` being the state where literals end;
gives the state the node starts at. -/
def trieStates (nodes : Array TrieNode) (stop : Nat) : Nat → Nat → Build → Nat × Build
  | 0, _, b => (stop, b)
  | fuel + 1, i, b =>
    let n := nodes.getD i default
    let (alts, b) := n.chunkList.zipIdx.foldl (fun (alts, b) (chunk, k) =>
      let alts := if k > 0 then alts.push stop else alts
      let (count, b) := chunk.foldl (fun (count, b) (_, child) =>
        if (nodes.getD child default).isLeaf then (count + 1, b)
        else (count + 1, (trieStates nodes stop fuel child b).2)) (0, b)
      if count == 0 then (alts, b)
      else
        let (id, b) := b.add (if count == 1 then 0 else 8 * count)
        (alts.push id, b)) ((#[] : Array Nat), b)
    match alts.toList with
    | [only] => (only, b)
    | _ => b.add (4 * alts.size)

/-- An alternation of literals, read forward or backward: a trie of their bytes. -/
def literalTrie (literals : List (List Nat)) : Step := fun b =>
  let nodes := literals.foldl (fun nodes bs => trieAdd 0 bs nodes) #[{}]
  let (stop, b) := b.add 0
  let (start, b) := trieStates nodes stop (nodes.size + 1) 0 b
  some (⟨start, stop, false⟩, b)

/-! ## Terms -/

/-- The bytes of every branch if all are literals. -/
def Term.literals? : List Term → Option (List (List Nat))
  | [] => some []
  | .literal bs :: rest => (Term.literals? rest).map (bs :: ·)
  | _ :: _ => none

mutual

def Term.depth : Term → Nat
  | .capture t => t.depth + 1
  | .concat ts => Term.depthOfAll ts + 1
  | .alternation ts => Term.depthOfAll ts + 1
  | .repetition t _ _ _ => t.depth + 1
  | _ => 1

def Term.depthOfAll : List Term → Nat
  | [] => 0
  | t :: ts => max t.depth (Term.depthOfAll ts)

end

/-- The compiled term, read backward when `backward`; `fuel` bounds the depth. -/
def Term.compile (backward : Bool) : Nat → Term → Step
  | 0, _ => fun _ => none
  | fuel + 1, t =>
    match t with
    | .empty | .look _ _ => single
    | .literal bs => chain (bs.map fun _ => single)
    | .cls s sequences =>
      if s.isAscii then asciiClass s.ranges.length
      else if backward then backwardClass sequences
      else forwardClass sequences
    | .capture t =>
      if backward then Term.compile backward fuel t else captured (Term.compile backward fuel t)
    | .concat ts =>
      chain ((if backward then ts.reverse else ts).map fun t => Term.compile backward fuel t)
    | .alternation ts =>
      match Term.literals? ts with
      | some literals =>
        if literals.length ≥ 2 then
          literalTrie (if backward then literals.map List.reverse else literals)
        else branches (ts.map fun t => Term.compile backward fuel t)
      | none => branches (ts.map fun t => Term.compile backward fuel t)
    | .repetition t min max _ =>
      repeated (Term.compile backward fuel t) ((t.minLength.getD 0) > 0) min max

/-- The memory of the automaton of a whole term, read backward when `backward`, or `none` when it
is over the limit. -/
def Term.footprint (t : Term) (backward : Bool) : Option Nat :=
  let anchored := if backward then t.endsAnchored else t.startsAnchored
  let lead : Step :=
    if anchored then single
    else atLeast (asciiClass 1) true 0
  let body := Term.compile backward (t.depth + 1) t
  let whole : Step := fun b =>
    match lead b with
    | none => none
    | some (l, b) =>
      match (if backward then body else captured body) b with
      | none => none
      | some (p, b) =>
        let (accept, b) := b.add 0
        some (⟨l.start, accept, false⟩, (b.link p.forks).link l.forks)
  match whole {} with
  | some (_, b) => if b.overLimit then none else some b.memory
  | none => none

/-- The expression a naming pattern stands for, or why it stands for none: a fault of its text,
or automata that take more memory than the limit. -/
def Regex.ofPattern (pattern : String) : Except Refusal Regex :=
  match Regex.parse pattern with
  | .error e => .error (.malformed e)
  | .ok r =>
    let t := r.term
    if (t.footprint false).isSome && (t.footprint true).isSome then .ok r
    else .error (.tooLarge sizeLimit)

end ProviderCoverage.Regex
