import TernaryGossip.Bytes

/-!
# BLAKE3 with extendable output

    The unkeyed hash mode of BLAKE3.  The identity of a transaction is
    squeezed out of its extendable output, so any number of output bytes can
    be asked for.

    The message is cut into chunks of 1024 bytes.  The blocks of a chunk are
    chained, chunks are joined pairwise by parent nodes, and the left subtree
    of a parent always holds the largest power of two of whole chunks that
    leaves something for the right.  The last compression, at the root, is
    kept open (`Node`) and run once per output block with an output counter.
-/

namespace TernaryGossip.Blake3

/-! ## Compression -/

/-- Sixteen words of state. -/
abbrev Words16 := Vector UInt32 16

/-- Eight chaining words. -/
abbrev Chain := Vector UInt32 8

/-- The chaining words of the unkeyed mode. -/
def initial : Chain := #v[
  0x6a09e667, 0xbb67ae85, 0x3c6ef372, 0xa54ff53a, 0x510e527f, 0x9b05688c, 0x1f83d9ab, 0x5be0cd19]

/-- A rotation towards the least significant bit. -/
def rotateRight (x : UInt32) (n : UInt32) : UInt32 := (x >>> n) ||| (x <<< (32 - n))

/-- The quarter round on four positions, mixing in two message words. -/
def quarter (s : Words16) (a b c d : Fin 16) (x y : UInt32) : Words16 :=
  let va := s[a] + s[b] + x
  let vd := rotateRight (s[d] ^^^ va) 16
  let vc := s[c] + vd
  let vb := rotateRight (s[b] ^^^ vc) 12
  let va := va + vb + y
  let vd := rotateRight (vd ^^^ va) 8
  let vc := vc + vd
  let vb := rotateRight (vb ^^^ vc) 7
  (((s.set a va).set b vb).set c vc).set d vd

/-- One round: the four columns, then the four diagonals. -/
def round (s m : Words16) : Words16 :=
  let s := quarter s 0 4 8 12 m[0] m[1]
  let s := quarter s 1 5 9 13 m[2] m[3]
  let s := quarter s 2 6 10 14 m[4] m[5]
  let s := quarter s 3 7 11 15 m[6] m[7]
  let s := quarter s 0 5 10 15 m[8] m[9]
  let s := quarter s 1 6 11 12 m[10] m[11]
  let s := quarter s 2 7 8 13 m[12] m[13]
  quarter s 3 4 9 14 m[14] m[15]

/-- The order in which the message words enter the next round. -/
def permute (m : Words16) : Words16 := #v[
  m[2], m[6], m[3], m[10], m[7], m[0], m[4], m[13], m[1], m[11], m[12], m[5], m[9], m[14], m[15], m[8]]

/-- `n` rounds, permuting the message words between them. -/
def rounds : Nat → Words16 → Words16 → Words16
  | 0, s, _ => s
  | n + 1, s, m => rounds n (round s m) (permute m)

/-- What a compression reads: chaining words, message words, a counter, the
number of message bytes and the flags of the node. -/
structure Node where
  /-- The chaining words that enter. -/
  chain : Chain
  /-- The message words of the block. -/
  block : Words16
  /-- The position of the chunk, or of the output block. -/
  counter : Nat
  /-- The number of message bytes in the block. -/
  size : Nat
  /-- The role of the block in the tree. -/
  flags : UInt32

/-- The flag of the first block of a chunk. -/
def chunkStart : UInt32 := 1

/-- The flag of the last block of a chunk. -/
def chunkEnd : UInt32 := 2

/-- The flag of a node that joins two subtrees. -/
def parentFlag : UInt32 := 4

/-- The flag of the last compression of all. -/
def rootFlag : UInt32 := 8

/-- The sixteen words that a compression yields. -/
def Node.compress (n : Node) : Words16 :=
  let h := n.chain
  let s : Words16 := #v[h[0], h[1], h[2], h[3], h[4], h[5], h[6], h[7],
    initial[0], initial[1], initial[2], initial[3],
    UInt32.ofNat n.counter, UInt32.ofNat (n.counter / 4294967296), UInt32.ofNat n.size, n.flags]
  let r := rounds 7 s n.block
  Vector.ofFn fun i : Fin 16 =>
    if hi : i.val < 8 then r[i.val] ^^^ r[i.val + 8] else r[i] ^^^ h[i.val - 8]

/-- The chaining words that a node hands to its parent. -/
def Node.chaining (n : Node) : Chain :=
  let r := n.compress
  Vector.ofFn fun i : Fin 8 => r[i.val]

/-! ## Chunks and subtrees -/

/-- The word at a position of a block, least significant byte first; bytes
beyond the end are zero. -/
def wordAt (block : Bytes) (i : Nat) : UInt32 :=
  match block.drop (4 * i) with
  | a :: b :: c :: d :: _ =>
      a.toUInt32 ||| b.toUInt32 <<< 8 ||| c.toUInt32 <<< 16 ||| d.toUInt32 <<< 24
  | short => UInt32.ofNat (Bytes.ofLittleEndian short)

/-- The message words of a block of at most 64 bytes. -/
def blockWords (block : Bytes) : Words16 := Vector.ofFn fun i : Fin 16 => wordAt block i.val

/-- The last node of a chunk: all blocks before it are chained, the first of
them is marked with `flags`. -/
def chunkNode (counter : Nat) (chain : Chain) (flags : UInt32) (chunk : Bytes) : Node :=
  if 64 < chunk.length then
    let node : Node := ⟨chain, blockWords (chunk.take 64), counter, 64, flags⟩
    chunkNode counter node.chaining 0 (chunk.drop 64)
  else
    ⟨chain, blockWords chunk, counter, chunk.length, flags ||| chunkEnd⟩
termination_by chunk.length
decreasing_by simp; omega

/-- The bytes that go to the left subtree of a message of `size > 1024`
bytes: the largest power of two of chunks that leaves at least one byte. -/
def leftSize (size : Nat) : Nat := 1024 * Nat.pow 2 (Nat.log2 ((size - 1) / 1024))

/-- The node that joins two subtrees. -/
def parentNode (left right : Chain) : Node :=
  ⟨initial, (left ++ right : Vector UInt32 (8 + 8)), 0, 64, parentFlag⟩

theorem leftSize_lt {size : Nat} (h : 1024 < size) : leftSize size < size := by
  have h0 : (size - 1) / 1024 ≠ 0 := by omega
  have hle : Nat.pow 2 (Nat.log2 ((size - 1) / 1024)) ≤ (size - 1) / 1024 := Nat.log2_self_le h0
  unfold leftSize
  omega

theorem leftSize_pos (size : Nat) : 0 < leftSize size := by
  have hpos : 0 < Nat.pow 2 (Nat.log2 ((size - 1) / 1024)) := Nat.pow_pos (by decide)
  unfold leftSize
  omega

/-- The open node at the top of the subtree of a message part whose first
chunk has position `counter`. -/
def subtree (counter : Nat) (message : Bytes) : Node :=
  if h : 1024 < message.length then
    let left := leftSize message.length
    have := leftSize_lt h
    have := leftSize_pos message.length
    parentNode (subtree counter (message.take left)).chaining
      (subtree (counter + left / 1024) (message.drop left)).chaining
  else
    chunkNode counter initial chunkStart message
termination_by message.length
decreasing_by
  · simp only [List.length_take]; omega
  · simp only [List.length_drop]; omega

/-! ## Output -/

/-- One output block of the root: 64 bytes. -/
def outputBlock (root : Node) (counter : Nat) : Bytes :=
  ({ root with counter, flags := root.flags ||| rootFlag } : Node).compress.toList.flatMap
    fun w => Bytes.littleEndian 4 w.toNat

/-- The first `size` bytes of the extendable output for a message. -/
def squeeze (size : Nat) (message : Bytes) : Bytes :=
  let root := subtree 0 message
  ((List.range ((size + 63) / 64)).flatMap (outputBlock root)).take size

theorem length_flatMap_of_forall {α β : Type} {n : Nat} (f : α → List β) (xs : List α)
    (h : ∀ x, (f x).length = n) : (xs.flatMap f).length = n * xs.length := by
  induction xs with
  | nil => rfl
  | cons x xs ih => simp [h, ih, Nat.mul_succ, Nat.add_comm]

@[simp] theorem length_outputBlock (root : Node) (counter : Nat) :
    (outputBlock root counter).length = 64 := by
  unfold outputBlock
  rw [length_flatMap_of_forall _ _ (n := 4) (by simp)]
  simp

@[simp] theorem length_squeeze (size : Nat) (message : Bytes) :
    (squeeze size message).length = size := by
  unfold squeeze
  rw [List.length_take, length_flatMap_of_forall _ _ (n := 64) (by simp)]
  simp; omega

end TernaryGossip.Blake3
