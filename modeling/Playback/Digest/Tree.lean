/-
This file hashes chunks of 1024 bytes as the leaves of a binary tree whose left branches are full.
-/

import Playback.Digest.Compression

namespace Playback.Tree

open Compression

/-- A list is cut into pieces of one size, the last of which may be shorter. -/
def pieces {A : Type} (size : Nat) (positive : 0 < size) (items : List A) : List (List A) :=
  if _short : items.length ≤ size then [items]
  else items.take size :: pieces size positive (items.drop size)
termination_by items.length
decreasing_by simp only [List.length_drop]; omega

def wordAt (bytes : Array UInt8) (index : Nat) : UInt32 :=
  let byte := fun place => (bytes[4 * index + place]?.getD 0).toUInt32
  byte 0 ||| (byte 1 <<< 8) ||| (byte 2 <<< 16) ||| (byte 3 <<< 24)

/-- Missing bytes at the end of a block count as zero. -/
def blockOf (bytes : List UInt8) : Block :=
  let bytes := bytes.toArray
  Vector.ofFn fun index : Fin 16 => wordAt bytes index.val

/-- A node holds the input of its compression, which the root runs with one more flag. -/
structure Node where
  chaining : Chaining
  block : Block
  counter : UInt64
  length : UInt32
  flags : UInt32

def chunkStart : UInt32 := 1
def chunkEnd : UInt32 := 2
def parentFlag : UInt32 := 4
def rootFlag : UInt32 := 8

def Node.output (node : Node) : Chaining :=
  compress node.chaining node.block node.counter node.length node.flags

def Node.rootOutput (node : Node) : Chaining :=
  compress node.chaining node.block node.counter node.length (node.flags ||| rootFlag)

/-- The blocks of a chunk are compressed one after the other and the last one is kept. -/
def chunkNode (counter : UInt64) : Chaining → UInt32 → List (List UInt8) → Node
  | chaining, flags, [] => ⟨chaining, blockOf [], counter, 0, flags ||| chunkEnd⟩
  | chaining, flags, [last] =>
      ⟨chaining, blockOf last, counter, UInt32.ofNat last.length, flags ||| chunkEnd⟩
  | chaining, flags, block :: next :: rest =>
      chunkNode counter
        (compress chaining (blockOf block) counter (UInt32.ofNat block.length) flags)
        0 (next :: rest)

def leaf (counter : Nat) (chunk : List UInt8) : Node :=
  chunkNode (UInt64.ofNat counter) start chunkStart (pieces 64 (by decide) chunk)

def parent (left right : Chaining) : Node :=
  ⟨start, left ++ right, 0, 64, parentFlag⟩

/-- The left branch takes the largest power of two of chunks that leaves one for the right. -/
def leftCount (count : Nat) : Nat := Nat.pow 2 (count - 1).log2

theorem leftCount_pos (count : Nat) : 0 < leftCount count := Nat.two_pow_pos _

theorem leftCount_lt {count : Nat} (several : 2 ≤ count) : leftCount count < count := by
  have bound := Nat.log2_self_le (n := count - 1) (by omega)
  rw [leftCount, Nat.pow_eq]
  omega

/-- The tree over a run of chunks whose first one has the given number. -/
def node (counter : Nat) (chunks : List (List UInt8)) : Node :=
  if _several : 2 ≤ chunks.length then
    let split := leftCount chunks.length
    parent (node counter (chunks.take split)).output
      (node (counter + split) (chunks.drop split)).output
  else leaf counter (chunks.head?.getD [])
termination_by chunks.length
decreasing_by
  · have := leftCount_lt _several
    simp only [List.length_take]
    omega
  · have := leftCount_pos chunks.length
    simp only [List.length_drop]
    omega

def root (bytes : List UInt8) : Chaining :=
  (node 0 (pieces 1024 (by decide) bytes)).rootOutput

end Playback.Tree
