/-
**Block nodes and the ancestor walk of `sqlchain/blockindex.go`.**

A `blockNode` holds a block hash, an `int32` height and a pointer to its parent, nil at a
genesis block.  `newBlockNode` and `initBlockNode` build a node on top of a parent and give it
the height `parent.height + 1`, computed in `int32`; `ancestor` walks parent pointers until it
meets the requested height.

The walk only checks the height of each node it visits, so its correctness rests on an
invariant of the chain the constructors build: along the chain, heights go down by exactly one
per parent link.  That is true even where `parent.height + 1` wraps: a wrapped height is
negative, and the walk never starts below a non-negative target.

The height of a built node is its number of parent links truncated to `int32`.  Below `2 ^ 31`
links it is that number; the block `2 ^ 31` links above the genesis has the height `-2 ^ 31`.

Main definitions:

* `ThunderDB.Sqlchain.BlockNode` — `blockNode`, its parent pointer nil (`root`) or not
  (`child`);
* `ThunderDB.Sqlchain.newBlockNode`, `ThunderDB.Sqlchain.BlockNode.initBlockNode` — the two
  constructors;
* `ThunderDB.Sqlchain.BlockNode.ancestor` — `ancestor`, with its loop
  `ThunderDB.Sqlchain.BlockNode.walk`;
* `ThunderDB.Sqlchain.BlockNode.parentN` — the node reached by a number of parent steps;
* `ThunderDB.Sqlchain.BlockNode.depth` — the number of parent links to the root;
* `ThunderDB.Sqlchain.Built` — the nodes whose chain the constructors built from a genesis
  header, and `ThunderDB.Sqlchain.chainOf` — one such chain of each length.

Main results:

* `ThunderDB.Sqlchain.walk_of_built` — on a built chain, the walk to an in-range height takes
  exactly `height - h` parent steps and stops at a node of height `h`;
* `ThunderDB.Sqlchain.ancestor_of_built` — **`ancestor` is correct on every built chain**: it
  is nil exactly for heights outside `[0, n.height]`, and otherwise the node `n.height - h`
  parent steps up, of height `h`;
* `ThunderDB.Sqlchain.height_eq_depth_of_built` — **the height of a built node is its depth
  truncated to `int32`; below depth `2 ^ 31` it is its depth, and non-negative**;
* `ThunderDB.Sqlchain.height_wraps_at_depth_two_pow_31` — at depth `2 ^ 31` the height wraps to
  `-2 ^ 31`;
* `ThunderDB.Sqlchain.ancestor_none_of_wrapped` — a tip whose height has wrapped is negative
  and finds no ancestor;
* `ThunderDB.Sqlchain.ancestor_ancestor` — **ancestor lookups compose** on every built chain.
-/

import ThunderDB.Go

set_option autoImplicit false

namespace ThunderDB.Sqlchain

/-! ### Hashes and headers -/

/-- Modelled from the spec: `hash.HashSize`, declared in the package `crypto/hash`, which the
sources import but do not include.  Block hashes are 32 bytes. -/
def HashSize : Nat := 32

/-- `hash.Hash`: an array of `HashSize` bytes. -/
structure Hash where
  bytes : List UInt8
  length_bytes : bytes.length = HashSize
  deriving DecidableEq

/-- `SignedHeader`, of which the block index reads only the block hash. -/
structure SignedHeader where
  blockHash : Hash

/-! ### Block nodes -/

/-- `blockNode`: a hash, an `int32` height and a parent pointer, nil for a `root` node. -/
inductive BlockNode where
  | root (hash : Hash) (height : Int32)
  | child (parent : BlockNode) (hash : Hash) (height : Int32)
  deriving DecidableEq

namespace BlockNode

/-- The field `parent`. -/
def parent : BlockNode → Option BlockNode
  | root .. => none
  | child p .. => some p

/-- The field `hash`. -/
def hash : BlockNode → Hash
  | root h _ => h
  | child _ h _ => h

/-- The field `height`. -/
def height : BlockNode → Int32
  | root _ x => x
  | child _ _ x => x

@[simp] theorem parent_root (h : Hash) (x : Int32) : (root h x).parent = none := rfl
@[simp] theorem parent_child (p : BlockNode) (h : Hash) (x : Int32) :
    (child p h x).parent = some p := rfl
@[simp] theorem hash_root (h : Hash) (x : Int32) : (root h x).hash = h := rfl
@[simp] theorem hash_child (p : BlockNode) (h : Hash) (x : Int32) : (child p h x).hash = h := rfl
@[simp] theorem height_root (h : Hash) (x : Int32) : (root h x).height = x := rfl
@[simp] theorem height_child (p : BlockNode) (h : Hash) (x : Int32) :
    (child p h x).height = x := rfl

end BlockNode

open BlockNode

/-- `newBlockNode(header, parent)`: height `0` without a parent, `parent.height + 1` (in
`int32`) with one. -/
def newBlockNode (header : SignedHeader) : Option BlockNode → BlockNode
  | none => root header.blockHash 0
  | some parent => child parent header.blockHash (parent.height + 1)

/-- `bn.initBlockNode(head, parent)` overwrites every field of `bn`, so the node it leaves does
not depend on what `bn` held. -/
def BlockNode.initBlockNode (_bn : BlockNode) (head : SignedHeader) :
    Option BlockNode → BlockNode
  | none => root head.blockHash 0
  | some parent => child parent head.blockHash (parent.height + 1)

theorem initBlockNode_eq (bn : BlockNode) (head : SignedHeader) (parent : Option BlockNode) :
    bn.initBlockNode head parent = newBlockNode head parent := by
  cases parent <;> rfl

/-! ### The ancestor walk -/

namespace BlockNode

/-- The loop of `ancestor`, started at `a`: `for ancestor != nil && ancestor.height != height
{ ancestor = ancestor.parent }`.  Stepping past a `root` node reaches nil. -/
def walk (height : Int32) : BlockNode → Option BlockNode
  | a@(root _ x) => if x ≠ height then none else some a
  | a@(child p _ x) => if x ≠ height then p.walk height else some a

/-- `bn.ancestor(height)`: nil outside `[0, bn.height]`, the loop's result inside. -/
def ancestor (bn : BlockNode) (height : Int32) : Option BlockNode :=
  if height < 0 ∨ height > bn.height then none else bn.walk height

/-- The node reached from `n` by `k` parent steps, if the chain is that long. -/
def parentN : Nat → BlockNode → Option BlockNode
  | 0, n => some n
  | _ + 1, root .. => none
  | k + 1, child p .. => p.parentN k

@[simp] theorem parentN_zero (n : BlockNode) : n.parentN 0 = some n := by cases n <;> rfl

@[simp] theorem parentN_succ_child (k : Nat) (p : BlockNode) (h : Hash) (x : Int32) :
    (child p h x).parentN (k + 1) = p.parentN k := rfl

/-- The number of parent links from a node to the root of its chain. -/
def depth : BlockNode → Nat
  | root .. => 0
  | child p .. => p.depth + 1

@[simp] theorem depth_root (h : Hash) (x : Int32) : (root h x).depth = 0 := rfl

@[simp] theorem depth_child (p : BlockNode) (h : Hash) (x : Int32) :
    (child p h x).depth = p.depth + 1 := rfl

theorem walk_child_of_ne {p : BlockNode} {h : Hash} {x height : Int32} (hx : x ≠ height) :
    (child p h x).walk height = p.walk height := by
  simp [walk, hx]

end BlockNode

/-! ### Chains built from a genesis header -/

/-- The nodes whose whole parent chain was built by `newBlockNode` (or `initBlockNode`, see
`ThunderDB.Sqlchain.initBlockNode_eq`), starting from a genesis header with no parent. -/
inductive Built : BlockNode → Prop
  | genesis (header : SignedHeader) : Built (newBlockNode header none)
  | child (header : SignedHeader) {parent : BlockNode} :
      Built parent → Built (newBlockNode header (some parent))

/-- On a built chain, the walk to a height in `[0, n.height]` takes exactly `n.height - h`
parent steps and stops at a node of height `h`. -/
theorem walk_of_built {n : BlockNode} (hn : Built n) {h : Int32} (h₀ : 0 ≤ h.val)
    (hle : h.val ≤ n.height.val) :
    n.walk h = n.parentN (n.height.val - h.val).toNat ∧ ∃ m, n.walk h = some m ∧ m.height = h := by
  induction hn with
  | genesis header =>
      have hh : h = 0 := Int32.ext (by simp [newBlockNode] at hle; simp; omega)
      subst hh
      simp [newBlockNode, walk]
  | child header hp ih =>
      rename_i p
      by_cases hx : p.height + 1 = h
      · subst hx
        simp [newBlockNode, walk]
      · -- the target lies strictly below, so `p.height + 1` did not wrap
        have hpos : 0 < (p.height + 1).val := by
          simp only [newBlockNode, height_child] at hle
          have : (p.height + 1).val ≠ h.val := fun e => hx (Int32.ext e)
          omega
        have hval := Int32.val_add_one_of_pos hpos
        have hne : h.val ≠ p.height.val + 1 := fun e => hx (Int32.ext (by rw [hval, e]))
        simp only [newBlockNode, height_child, hval] at hle ⊢
        obtain ⟨k, hk⟩ : ∃ k, (p.height.val + 1 - h.val).toNat = k + 1 :=
          ⟨(p.height.val - h.val).toNat, by omega⟩
        rw [walk_child_of_ne hx, hk, parentN_succ_child,
          show k = (p.height.val - h.val).toNat by omega]
        exact ih (by omega)

/-- **`ancestor` is correct on every built chain.**  `n.ancestor h` is nil exactly when
`h < 0` or `h > n.height`; otherwise it is the node `n.height - h` parent steps up from `n`,
and its height is `h`. -/
theorem ancestor_of_built {n : BlockNode} (hn : Built n) (h : Int32) :
    (n.ancestor h = none ↔ h < 0 ∨ h > n.height) ∧
      (0 ≤ h → h ≤ n.height → ∃ m, n.ancestor h = some m ∧
        n.parentN (n.height.val - h.val).toNat = some m ∧ m.height = h) := by
  by_cases hr : h < 0 ∨ h > n.height
  · refine ⟨⟨fun _ => hr, fun _ => if_pos hr⟩, fun h₀ hle => ?_⟩
    simp only [Int32.lt_iff, gt_iff_lt, Int32.le_iff, Int32.val_zero] at hr h₀ hle
    omega
  · have h₀ : 0 ≤ h.val := by simp at hr; omega
    have hle : h.val ≤ n.height.val := by simp at hr; omega
    obtain ⟨hw, m, hm, hmh⟩ := walk_of_built hn h₀ hle
    have hanc : n.ancestor h = n.walk h := if_neg hr
    refine ⟨⟨fun e => by simp [hanc, hm] at e, fun e => absurd e hr⟩, fun _ _ => ⟨m, hanc.trans hm, hw.symm.trans hm, hmh⟩⟩

/-- On a chain of three blocks, the ancestor of the tip at height `1` is its parent. -/
theorem ancestor_of_built_three :
    let g := newBlockNode ⟨⟨List.replicate 32 0, rfl⟩⟩ none
    let b := newBlockNode ⟨⟨List.replicate 32 1, rfl⟩⟩ (some g)
    let c := newBlockNode ⟨⟨List.replicate 32 2, rfl⟩⟩ (some b)
    Built c ∧ ∃ m, c.ancestor 1 = some m ∧
      c.parentN (c.height.val - (1 : Int32).val).toNat = some m ∧ m.height = 1 :=
  have hc := Built.child _ (Built.child _ (Built.genesis _))
  ⟨hc, (ancestor_of_built hc 1).2 (by decide) (by decide)⟩


/-! ### Heights of built chains -/

/-- The constructors give a node its depth, truncated to `int32`, as its height. -/
theorem height_of_built {n : BlockNode} (hn : Built n) : n.height = Int32.ofInt n.depth := by
  induction hn with
  | genesis header => rfl
  | child header hp ih =>
    rename_i p
    simp only [newBlockNode, height_child, depth_child, ih, Int32.add_def, Int32.val_one,
      Int32.ofInt_val_add, Int.natCast_add, Int.natCast_one]

/-- **The height of a built node is its number of parent links truncated to `int32`; below
`2 ^ 31` parent links it is that number**, and so it is non-negative: on the way up from the
genesis, `parent.height + 1` has not wrapped. -/
theorem height_eq_depth_of_built {n : BlockNode} (hn : Built n) :
    n.height = Int32.ofInt n.depth ∧
      (n.depth < 2 ^ 31 → n.height.val = n.depth ∧ 0 ≤ n.height.val) := by
  refine ⟨height_of_built hn, fun hd => ?_⟩
  rw [height_of_built hn, Int32.val_ofInt (by omega) (by omega)]
  exact ⟨rfl, by omega⟩

/-- On a chain of three blocks, the tip has height `2`, its number of parent links. -/
theorem height_eq_depth_of_built_three :
    let g := newBlockNode ⟨⟨List.replicate 32 0, rfl⟩⟩ none
    let c := newBlockNode ⟨⟨List.replicate 32 2, rfl⟩⟩
      (some (newBlockNode ⟨⟨List.replicate 32 1, rfl⟩⟩ (some g)))
    Built c ∧ c.height = Int32.ofInt c.depth ∧ c.depth < 2 ^ 31 ∧ c.height.val = c.depth ∧
      0 ≤ c.height.val :=
  have hc := Built.child _ (Built.child _ (Built.genesis _))
  ⟨hc, (height_eq_depth_of_built hc).1, by decide, (height_eq_depth_of_built hc).2 (by decide)⟩

/-- The chain of `k + 1` blocks over the genesis header `g`, each later block with header
`h`. -/
def chainOf (g h : SignedHeader) : Nat → BlockNode
  | 0 => newBlockNode g none
  | k + 1 => newBlockNode h (some (chainOf g h k))

/-- Every such chain is built by the constructors. -/
theorem built_chainOf (g h : SignedHeader) (k : Nat) : Built (chainOf g h k) := by
  induction k with
  | zero => exact .genesis g
  | succ k ih => exact .child h ih

@[simp] theorem depth_chainOf (g h : SignedHeader) (k : Nat) : (chainOf g h k).depth = k := by
  induction k with
  | zero => rfl
  | succ k ih => simp [chainOf, newBlockNode, ih]

/-- The block `2 ^ 31` parent links above the genesis has the height `-2 ^ 31`: at its parent,
of height `2 ^ 31 - 1`, `parent.height + 1` wraps. -/
theorem height_wraps_at_depth_two_pow_31 :
    ∃ n, Built n ∧ n.depth = 2 ^ 31 ∧ n.height.val = -2 ^ 31 :=
  ⟨chainOf ⟨⟨List.replicate 32 0, rfl⟩⟩ ⟨⟨List.replicate 32 1, rfl⟩⟩ (2 ^ 31),
    built_chainOf _ _ _, depth_chainOf _ _ _, by
      rw [height_of_built (built_chainOf _ _ _), depth_chainOf]
      simp only [Int32.ofInt, Int32.wrap]
      omega⟩

/-- **A tip whose height has wrapped finds no ancestor.**  On every built chain whose tip lies
between `2 ^ 31` and `2 ^ 32 - 1` parent links above the genesis (modulo `2 ^ 32`), the tip's
height is negative, and `ancestor` returns nil for every height. -/
theorem ancestor_none_of_wrapped {n : BlockNode} (hn : Built n) (hd : 2 ^ 31 ≤ n.depth % 2 ^ 32) :
    n.height.val < 0 ∧ ∀ h, n.ancestor h = none := by
  have hv : n.height.val < 0 := by
    rw [height_of_built hn]
    simp only [Int32.ofInt, Int32.wrap]
    omega
  refine ⟨hv, fun h => if_pos ?_⟩
  simp only [Int32.lt_iff, gt_iff_lt, Int32.val_zero]
  omega

/-- The block `2 ^ 31` links above the genesis has a negative height and finds no ancestor,
not even the genesis. -/
theorem ancestor_none_at_depth_two_pow_31 :
    let n := chainOf ⟨⟨List.replicate 32 0, rfl⟩⟩ ⟨⟨List.replicate 32 1, rfl⟩⟩ (2 ^ 31)
    Built n ∧ 2 ^ 31 ≤ n.depth % 2 ^ 32 ∧ n.height.val < 0 ∧ ∀ h, n.ancestor h = none := by
  intro n
  have hd : 2 ^ 31 ≤ n.depth % 2 ^ 32 := by
    show 2 ^ 31 ≤ (chainOf _ _ (2 ^ 31)).depth % 2 ^ 32
    rw [depth_chainOf]
    omega
  exact ⟨built_chainOf _ _ _, hd, ancestor_none_of_wrapped (built_chainOf _ _ _) hd⟩

/-! ### Ancestors of ancestors -/

namespace BlockNode

/-- `a + b` parent steps are `a` steps, then `b` more. -/
theorem parentN_add (a b : Nat) : ∀ n : BlockNode, n.parentN (a + b) = (n.parentN a).bind (·.parentN b) := by
  induction a with
  | zero => intro n; simp
  | succ a ih =>
    intro n
    cases n with
    | root => rw [Nat.succ_add]; rfl
    | child p h x => rw [Nat.succ_add, parentN_succ_child, parentN_succ_child, ih]

end BlockNode

/-- Every node on a built chain is itself built. -/
theorem Built.of_parentN {n m : BlockNode} (hn : Built n) : ∀ {k}, n.parentN k = some m → Built m := by
  induction hn with
  | genesis header =>
    intro k hk
    cases k with
    | zero => cases hk; exact .genesis header
    | succ k => cases hk
  | child header hp ih =>
    intro k hk
    cases k with
    | zero => cases hk; exact .child header hp
    | succ k => exact ih hk

/-- On a built chain, `ancestor` at an in-range height is the walk of `height - h` parent
steps. -/
theorem ancestor_eq_parentN {n : BlockNode} (hn : Built n) {h : Int32} (h₀ : 0 ≤ h.val)
    (hle : h.val ≤ n.height.val) :
    n.ancestor h = n.parentN (n.height.val - h.val).toNat ∧ ∃ m, n.ancestor h = some m ∧ m.height = h := by
  have hr : ¬ (h < 0 ∨ h > n.height) := by
    simp only [Int32.lt_iff, gt_iff_lt, Int32.val_zero, not_or, not_lt]
    omega
  rw [BlockNode.ancestor, if_neg hr]
  exact walk_of_built hn h₀ hle

/-- **Ancestor lookups compose.**  On every built chain, for heights `0 ≤ h' ≤ h ≤ n.height`:
the ancestor at height `h'` of the ancestor at height `h` of `n` is the ancestor of `n` at
height `h'`, so a walk may be resumed from any node it has reached. -/
theorem ancestor_ancestor {n : BlockNode} (hn : Built n) {h h' : Int32} (h₀ : 0 ≤ h'.val)
    (h₁ : h'.val ≤ h.val) (h₂ : h.val ≤ n.height.val) :
    (n.ancestor h).bind (·.ancestor h') = n.ancestor h' := by
  obtain ⟨hw, m, hm, hmh⟩ := ancestor_eq_parentN hn (Int.le_trans h₀ h₁) h₂
  have hbm : Built m := hn.of_parentN (hw ▸ hm)
  obtain ⟨hw', -⟩ := ancestor_eq_parentN hbm h₀ (hmh ▸ h₁)
  obtain ⟨hw'', -⟩ := ancestor_eq_parentN hn h₀ (Int.le_trans h₁ h₂)
  rw [hm, Option.some_bind, hw', hw'', hmh,
    show (n.height.val - h'.val).toNat = (n.height.val - h.val).toNat + (h.val - h'.val).toNat by
      omega, BlockNode.parentN_add, ← hw, hm, Option.some_bind]

/-- On a chain of three blocks, the genesis found through the tip's parent is the genesis
found from the tip. -/
theorem ancestor_ancestor_three :
    let g := newBlockNode ⟨⟨List.replicate 32 0, rfl⟩⟩ none
    let b := newBlockNode ⟨⟨List.replicate 32 1, rfl⟩⟩ (some g)
    let c := newBlockNode ⟨⟨List.replicate 32 2, rfl⟩⟩ (some b)
    Built c ∧ 0 ≤ (0 : Int32).val ∧ (0 : Int32).val ≤ (1 : Int32).val ∧
      (1 : Int32).val ≤ c.height.val ∧ (c.ancestor 1).bind (·.ancestor 0) = c.ancestor 0 :=
  have hc := Built.child _ (Built.child _ (Built.genesis _))
  ⟨hc, by decide, by decide, by decide, ancestor_ancestor hc (by decide) (by decide) (by decide)⟩

end ThunderDB.Sqlchain
