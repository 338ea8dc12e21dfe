/-
**The index key of a block node.**

`blockNode.indexKey` lays out a node as `HashSize + 4` bytes: the height as a big-endian
`uint32`, then the hash.  The copy of the hash goes into the window `indexKey[4:HashSize]`,
which is four bytes shorter than the hash, so only the first `HashSize - 4` bytes of the hash
are copied and the last four bytes of the key stay zero.

Main definitions:

* `ThunderDB.Sqlchain.BlockNode.indexKey` — `indexKey`, written with the byte-slice operations
  of `ThunderDB.Go`.

Main results:

* `ThunderDB.Sqlchain.BlockNode.indexKey_eq` — the layout of the key: height, the first
  `HashSize - 4` bytes of the hash, four zero bytes;
* `ThunderDB.Sqlchain.BlockNode.indexKey_eq_of_take` — two nodes of the same height whose
  hashes agree on their first `HashSize - 4` bytes have the same key;
* `ThunderDB.Sqlchain.BlockNode.indexKey_eq_iff` — **a key records exactly the height and the
  first `HashSize - 4` bytes of the hash**;
* `ThunderDB.Sqlchain.BlockNode.indexKey_collision` — two distinct hashes that share a key;
* `ThunderDB.Sqlchain.BlockNode.indexKey_lt_of_height_lt` — **keys sort by height**, negative
  heights after all others.
-/

import ThunderDB.Sqlchain.BlockNode

set_option autoImplicit false

namespace ThunderDB.Sqlchain.BlockNode

/-- `bn.indexKey()`: `make([]byte, hash.HashSize+4)`, then
`binary.BigEndian.PutUint32(indexKey[0:4], uint32(bn.height))`, then
`copy(indexKey[4:hash.HashSize], bn.hash[:])`.  `PutUint32` writes exactly the four bytes of
the window `[0:4]`, which `copySlice` of four bytes also does. -/
def indexKey (bn : BlockNode) : List UInt8 :=
  let key := List.replicate (HashSize + 4) 0
  let key := copySlice key 0 4 (putUint32 bn.height.toUInt32)
  copySlice key 4 HashSize bn.hash.bytes

/-- The layout of the key: the height, the first `HashSize - 4` bytes of the hash, and four
bytes left at zero. -/
theorem indexKey_eq (bn : BlockNode) :
    bn.indexKey = putUint32 bn.height.toUInt32 ++ bn.hash.bytes.take (HashSize - 4) ++
      List.replicate 4 0 := by
  have hb := bn.hash.length_bytes
  have hk : (putUint32 bn.height.toUInt32).take 4 = putUint32 bn.height.toUInt32 :=
    List.take_of_length_le (by simp)
  simp only [HashSize] at hb
  simp [indexKey, copySlice, HashSize, hb, hk, List.take_append_eq_append_take,
    List.drop_append_eq_append_drop]

/-- Two nodes of the same height whose hashes agree on their first `HashSize - 4` bytes have
the same index key: the last four bytes of a hash never reach the key. -/
theorem indexKey_eq_of_take {a b : BlockNode} (hh : a.height = b.height)
    (hp : a.hash.bytes.take (HashSize - 4) = b.hash.bytes.take (HashSize - 4)) :
    a.indexKey = b.indexKey := by
  rw [indexKey_eq, indexKey_eq, hh, hp]

/-- **An index key records the height and the first `HashSize - 4` bytes of the hash, and
nothing else.**  Two nodes have the same key exactly when they have the same height and their
hashes agree on their first `HashSize - 4` bytes. -/
theorem indexKey_eq_iff (a b : BlockNode) :
    a.indexKey = b.indexKey ↔
      a.height = b.height ∧ a.hash.bytes.take (HashSize - 4) = b.hash.bytes.take (HashSize - 4) := by
  refine ⟨fun h => ?_, fun ⟨hh, hp⟩ => indexKey_eq_of_take hh hp⟩
  rw [indexKey_eq, indexKey_eq] at h
  obtain ⟨hput, htake⟩ := List.append_inj (List.append_cancel_right h) (by simp)
  exact ⟨Int32.toUInt32_injective (putUint32_injective hput), htake⟩

/-- Two genesis nodes whose hashes differ only in their last byte: the hashes differ, the
index keys do not. -/
theorem indexKey_collision :
    let h₁ : Hash := ⟨List.replicate 32 0, by decide⟩
    let h₂ : Hash := ⟨List.replicate 31 0 ++ [1], by decide⟩
    h₁ ≠ h₂ ∧ indexKey (newBlockNode ⟨h₁⟩ none) = indexKey (newBlockNode ⟨h₂⟩ none) :=
  ⟨by decide, indexKey_eq_of_take rfl (by decide)⟩

/-! ### Keys order by height -/

/-- **Index keys sort by height, negative heights last.**  For any two nodes, whatever their
hashes: if the first has a non-negative height, its key comes before the second's in the
lexicographic order of byte slices whenever the second is higher, or has a negative height
(`uint32` reads it as `2 ^ 32` more, past every non-negative height). -/
theorem indexKey_lt_of_height_lt {a b : BlockNode} (ha : 0 ≤ a.height.val)
    (hab : a.height.val < b.height.val ∨ b.height.val < 0) : List.lt a.indexKey b.indexKey := by
  have hau := Int32.toNat_toUInt32 a.height
  have hbu := Int32.toNat_toUInt32 b.height
  have hlt : a.height.toUInt32.toNat < b.height.toUInt32.toNat := by
    have := a.height.lt; have := b.height.ge
    split_ifs at hau hbu <;> omega
  rw [indexKey_eq, indexKey_eq, List.append_assoc, List.append_assoc]
  exact putUint32_lt hlt _ _

/-- A genesis node and its child: the child's key is the larger, although its hash is the
smaller. -/
theorem indexKey_lt_of_height_lt_child :
    let g := newBlockNode ⟨⟨List.replicate 32 7, by decide⟩⟩ none
    let c := newBlockNode ⟨⟨List.replicate 32 0, by decide⟩⟩ (some g)
    0 ≤ g.height.val ∧ (g.height.val < c.height.val ∨ c.height.val < 0) ∧
      List.lt g.indexKey c.indexKey :=
  ⟨by decide, .inl (by decide), indexKey_lt_of_height_lt (by decide) (.inl (by decide))⟩

end ThunderDB.Sqlchain.BlockNode
