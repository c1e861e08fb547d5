/-
This file computes the BLAKE3 hash of a byte sequence. The input is cut into chunks of 1024
bytes and each chunk into blocks of 64; the chunks are the leaves of a binary tree whose left
subtrees are as large a power of two as fits, and the root gives the 32 bytes of the hash.
-/

import ServiceDiscovery.Bytes32

namespace ServiceDiscovery.Blake3

/-- Eight words: the key of a compression and what it passes on. -/
abbrev Chaining := Vector UInt32 8

/-- Sixteen words: a block of the input, or the state of a compression. -/
abbrev Block := Vector UInt32 16

def initial : Chaining :=
  #v[0x6A09E667, 0xBB67AE85, 0x3C6EF372, 0xA54FF53A, 0x510E527F, 0x9B05688C, 0x1F83D9AB, 0x5BE0CD19]

def chunkStart : UInt32 := 1
def chunkEnd : UInt32 := 2
def parent : UInt32 := 4
def root : UInt32 := 8

def rotateRight (word : UInt32) (count : UInt32) : UInt32 :=
  (word >>> count) ||| (word <<< (32 - count))

/-- One mixing of four words of the state with two words of the block. -/
def mix (state : Block) (a b c d : Fin 16) (first second : UInt32) : Block :=
  let wordA := state[a] + state[b] + first
  let wordD := rotateRight (state[d] ^^^ wordA) 16
  let wordC := state[c] + wordD
  let wordB := rotateRight (state[b] ^^^ wordC) 12
  let wordA := wordA + wordB + second
  let wordD := rotateRight (wordD ^^^ wordA) 8
  let wordC := wordC + wordD
  let wordB := rotateRight (wordB ^^^ wordC) 7
  (((state.set a wordA).set b wordB).set c wordC).set d wordD

/-- Every column of the state, then every diagonal. -/
def round (state block : Block) : Block :=
  let state := mix state 0 4 8 12 block[0] block[1]
  let state := mix state 1 5 9 13 block[2] block[3]
  let state := mix state 2 6 10 14 block[4] block[5]
  let state := mix state 3 7 11 15 block[6] block[7]
  let state := mix state 0 5 10 15 block[8] block[9]
  let state := mix state 1 6 11 12 block[10] block[11]
  let state := mix state 2 7 8 13 block[12] block[13]
  mix state 3 4 9 14 block[14] block[15]

/-- The order in which the next round takes the words of the block. -/
def permute (block : Block) : Block :=
  #v[block[2], block[6], block[3], block[10], block[7], block[0], block[4], block[13],
    block[1], block[11], block[12], block[5], block[9], block[14], block[15], block[8]]

def rounds : Nat → Block → Block → Block
  | 0, state, _ => state
  | count + 1, state, block => rounds count (round state block) (permute block)

/-- A compression that is still to run, so that the last one can be marked as the root. -/
structure Output where
  key : Chaining
  block : Block
  counter : UInt64
  length : UInt32
  flags : UInt32

def Output.compress (output : Output) (flags : UInt32) : Chaining :=
  let key := output.key
  let start : Block :=
    #v[key[0], key[1], key[2], key[3], key[4], key[5], key[6], key[7],
      initial[0], initial[1], initial[2], initial[3],
      output.counter.toUInt32, (output.counter >>> 32).toUInt32, output.length,
      output.flags ||| flags]
  let state := rounds 7 start output.block
  #v[state[0] ^^^ state[8], state[1] ^^^ state[9], state[2] ^^^ state[10], state[3] ^^^ state[11],
    state[4] ^^^ state[12], state[5] ^^^ state[13], state[6] ^^^ state[14], state[7] ^^^ state[15]]

def Output.chaining (output : Output) : Chaining :=
  output.compress 0

/-! ### Cutting the input -/

/-- The input in groups of the given size; the last may be shorter, and there is at least one. -/
def groupsOf (size : Nat) (bytes : Bytes) : List Bytes :=
  if _within : bytes.length ≤ size ∨ size = 0 then [bytes]
  else bytes.take size :: groupsOf size (bytes.drop size)
termination_by bytes.length
decreasing_by simp only [List.length_drop]; omega

/-- The little-endian word at an index of a block, with zeros after the end. -/
def wordAt (bytes : Array UInt8) (index : Nat) : UInt32 :=
  let byteAt (offset : Nat) : UInt32 := (bytes.getD (4 * index + offset) 0).toUInt32
  byteAt 0 ||| (byteAt 1 <<< 8) ||| (byteAt 2 <<< 16) ||| (byteAt 3 <<< 24)

def blockOf (bytes : Bytes) : Block :=
  Vector.ofFn fun index => wordAt bytes.toArray index

/-- The compressions of the blocks of one chunk, up to the last. -/
def chunkFrom (key : Chaining) (counter : UInt64) (flags : UInt32) : List Bytes → Output
  | [] => ⟨key, blockOf [], counter, 0, flags ||| chunkEnd⟩
  | [last] => ⟨key, blockOf last, counter, UInt32.ofNat last.length, flags ||| chunkEnd⟩
  | block :: next :: others =>
    let output : Output := ⟨key, blockOf block, counter, UInt32.ofNat block.length, flags⟩
    chunkFrom output.chaining counter 0 (next :: others)

def chunk (counter : UInt64) (bytes : Bytes) : Output :=
  chunkFrom initial counter chunkStart (groupsOf 64 bytes)

/-- Chunks numbered from zero. -/
def chunks (bytes : Bytes) : List Output :=
  (groupsOf 1024 bytes).zipIdx.map fun (group, index) => chunk (UInt64.ofNat index) group

/-! ### The tree -/

def join (left right : Output) : Output :=
  ⟨initial, left.chaining ++ right.chaining, 0, 64, parent⟩

/-- The number of leaves on the left: the largest power of two below the number of all. -/
def leftLeaves (count : Nat) : Nat :=
  Nat.pow 2 (count - 1).log2

theorem leftLeaves_pos (count : Nat) : 0 < leftLeaves count :=
  Nat.pow_pos (by decide)

theorem leftLeaves_lt {count : Nat} (several : 2 ≤ count) : leftLeaves count < count := by
  have below : Nat.pow 2 (count - 1).log2 ≤ count - 1 := Nat.log2_self_le (by omega)
  unfold leftLeaves
  omega

/-- The root of the tree over the leaves. -/
def tree : List Output → Output
  | [] => chunk 0 []
  | [leaf] => leaf
  | first :: second :: others =>
    let leaves := first :: second :: others
    let cut := leftLeaves leaves.length
    join (tree (leaves.take cut)) (tree (leaves.drop cut))
termination_by leaves => leaves.length
decreasing_by
  all_goals
    have several : 2 ≤ (first :: second :: others).length := by simp
    have below := leftLeaves_lt several
    have positive := leftLeaves_pos (first :: second :: others).length
  · simp only [List.length_take]
    omega
  · simp only [List.length_drop]
    omega

/-- The four bytes of a word, the lowest first. -/
def wordBytes (word : UInt32) : Bytes :=
  [word.toUInt8, (word >>> 8).toUInt8, (word >>> 16).toUInt8, (word >>> 24).toUInt8]

/-- The hash of a byte sequence. -/
def hash (bytes : Bytes) : Bytes32 :=
  let words := (tree (chunks bytes)).compress root
  ⟨wordBytes words[0] ++ wordBytes words[1] ++ wordBytes words[2] ++ wordBytes words[3] ++
      wordBytes words[4] ++ wordBytes words[5] ++ wordBytes words[6] ++ wordBytes words[7],
    by simp [wordBytes]⟩

end ServiceDiscovery.Blake3
