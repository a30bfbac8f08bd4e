/-!
# The BLAKE3 hash

BLAKE3 of a byte string, unkeyed, with the default 32-byte output. The input is cut into
chunks of 1024 bytes, each compressed block by block (64 bytes a block) from the initial
vector; the chaining values of the chunks are joined pairwise in a binary tree whose left
subtree always holds the largest power of two of chunks that leaves at least one for the right.
The root node is compressed once more with the root flag, and its first 32 bytes, words read
little-endian, are the hash.
-/

namespace ProviderCoverage.Blake3

/-- The initial vector, shared with SHA-256. -/
def iv : Array UInt32 :=
  #[0x6A09E667, 0xBB67AE85, 0x3C6EF372, 0xA54FF53A, 0x510E527F, 0x9B05688C, 0x1F83D9AB,
    0x5BE0CD19]

/-- The order in which message words are taken in the next round. -/
def permutation : List Nat := [2, 6, 3, 10, 7, 0, 4, 13, 1, 11, 12, 5, 9, 14, 15, 8]

def chunkStart : UInt32 := 1
def chunkEnd : UInt32 := 2
def parent : UInt32 := 4
def root : UInt32 := 8

def rotr (x : UInt32) (n : UInt32) : UInt32 := (x >>> n) ||| (x <<< (32 - n))

/-- The quarter-round on words `a b c d` of the state, mixing in `mx` and `my`. -/
def mix (s : Array UInt32) (a b c d : Nat) (mx my : UInt32) : Array UInt32 :=
  let va := s.getD a 0 + s.getD b 0 + mx
  let vd := rotr (s.getD d 0 ^^^ va) 16
  let vc := s.getD c 0 + vd
  let vb := rotr (s.getD b 0 ^^^ vc) 12
  let va := va + vb + my
  let vd := rotr (vd ^^^ va) 8
  let vc := vc + vd
  let vb := rotr (vb ^^^ vc) 7
  (((s.setIfInBounds a va).setIfInBounds b vb).setIfInBounds c vc).setIfInBounds d vd

/-- One round: the columns, then the diagonals. -/
def round (s : Array UInt32) (m : Array UInt32) : Array UInt32 :=
  let w (i : Nat) := m.getD i 0
  let s := mix s 0 4 8 12 (w 0) (w 1)
  let s := mix s 1 5 9 13 (w 2) (w 3)
  let s := mix s 2 6 10 14 (w 4) (w 5)
  let s := mix s 3 7 11 15 (w 6) (w 7)
  let s := mix s 0 5 10 15 (w 8) (w 9)
  let s := mix s 1 6 11 12 (w 10) (w 11)
  let s := mix s 2 7 8 13 (w 12) (w 13)
  mix s 3 4 9 14 (w 14) (w 15)

/-- The message words in the order of the next round. -/
def permute (m : Array UInt32) : Array UInt32 :=
  (permutation.map (m.getD · 0)).toArray

/-- `k` rounds, permuting the message between them. -/
def rounds : Nat → Array UInt32 → Array UInt32 → Array UInt32
  | 0, s, _ => s
  | k + 1, s, m => rounds k (round s m) (permute m)

def compress (cv block : Array UInt32) (counter : UInt64) (len flags : UInt32) : Array UInt32 :=
  let s := cv ++ iv.extract 0 4 ++ #[counter.toUInt32, (counter >>> 32).toUInt32, len, flags]
  let s := rounds 7 s block
  let low := (List.range 8).map fun i => s.getD i 0 ^^^ s.getD (i + 8) 0
  let high := (List.range 8).map fun i => s.getD (i + 8) 0 ^^^ cv.getD i 0
  (low ++ high).toArray

/-- The sixteen little-endian words of a block of at most 64 bytes, zero padded. -/
def blockWords (bytes : List UInt8) : Array UInt32 :=
  let padded := bytes ++ List.replicate (64 - bytes.length) 0
  ((List.range 16).map fun i =>
    let b (j : Nat) := (padded.getD (4 * i + j) 0).toUInt32
    b 0 ||| (b 1 <<< 8) ||| (b 2 <<< 16) ||| (b 3 <<< 24)).toArray

/-- The inputs of a node's last compression, from which both its chaining value and, at the
root, the hash are computed. -/
structure Output where
  cv : Array UInt32
  block : Array UInt32
  counter : UInt64
  len : UInt32
  flags : UInt32

def Output.chainingValue (o : Output) : Array UInt32 :=
  (compress o.cv o.block o.counter o.len o.flags).extract 0 8

def Output.rootWords (o : Output) : Array UInt32 :=
  compress o.cv o.block 0 o.len (o.flags ||| root)

/-- `xs` cut into pieces of `size` elements (the last may be shorter); at most `fuel`
pieces. -/
def pieces {α : Type} (size : Nat) : Nat → List α → List (List α)
  | 0, _ => []
  | _ + 1, [] => []
  | fuel + 1, xs => xs.take size :: pieces size fuel (xs.drop size)

/-- The last-block output of a chunk of at most 1024 bytes, the chunk being number
`counter`. -/
def chunkOutput (chunk : List UInt8) (counter : Nat) : Output :=
  let blocks := match pieces 64 (chunk.length + 1) chunk with
    | [] => [[]]
    | bs => bs
  let n := blocks.length
  let flagsOf (i : Nat) : UInt32 :=
    (if i == 0 then chunkStart else 0) ||| (if i + 1 == n then chunkEnd else 0)
  let counter := counter.toUInt64
  let step (cv : Array UInt32) (ib : Nat × List UInt8) : Array UInt32 :=
    (compress cv (blockWords ib.2) counter ib.2.length.toUInt32 (flagsOf ib.1)).extract 0 8
  let cv := (blocks.dropLast.zipIdx.map fun (b, i) => (i, b)).foldl step iv
  let last := blocks.getLast?.getD []
  ⟨cv, blockWords last, counter, last.length.toUInt32, flagsOf (n - 1)⟩

/-- The largest power of two not above `n` (one for zero). -/
def powerBelow (n : Nat) : Nat := Nat.pow 2 (Nat.log2 n)

/-- The output of the subtree over `chunks`, the first being chunk number `offset`; at most
`fuel` levels deep. -/
def treeOutput : Nat → List (List UInt8) → Nat → Output
  | 0, chunks, offset => chunkOutput (chunks.head?.getD []) offset
  | fuel + 1, chunks, offset =>
    match chunks with
    | [] | [_] => chunkOutput (chunks.head?.getD []) offset
    | _ =>
      let k := powerBelow (chunks.length - 1)
      let left := (treeOutput fuel (chunks.take k) offset).chainingValue
      let right := (treeOutput fuel (chunks.drop k) (offset + k)).chainingValue
      ⟨iv, left ++ right, 0, 64, parent⟩

def hash (bytes : List UInt8) : List UInt8 :=
  let chunks := pieces 1024 (bytes.length + 1) bytes
  let words := (treeOutput (chunks.length + 1) chunks 0).rootWords
  (words.toList.take 8).flatMap fun (w : UInt32) =>
    [w.toUInt8, (w >>> 8).toUInt8, (w >>> 16).toUInt8, (w >>> 24).toUInt8]

def hexByte (b : UInt8) : String :=
  let digit (n : Nat) : Char := if n < 10 then Char.ofNat (48 + n) else Char.ofNat (87 + n)
  String.ofList [digit (b.toNat / 16), digit (b.toNat % 16)]

/-- The hash of a text's UTF-8 bytes in lowercase hexadecimal. -/
def hexDigest (s : String) : String :=
  String.join ((hash s.toUTF8.toList).map hexByte)

end ProviderCoverage.Blake3
