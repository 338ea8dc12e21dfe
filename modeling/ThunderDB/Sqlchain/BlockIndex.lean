/-
**The block index: a map from block hash to block node.**

`blockIndex` keeps a `map[hash.Hash]*blockNode` behind a read-write mutex.  `AddBlock` stores a
node under its own hash, replacing whatever was there; `HasBlock` and `LookupNode` read the map.
Each method holds the mutex for its whole body, so each is one atomic step here, and the mutex
and the configuration pointer `cfg` (which no method reads) are left out.

`AddBlock` does not look at the parent of the node it stores.  So the index is not closed under
parents in general: storing a child whose parent was never stored leaves a dangling chain.  It
is closed under parents as soon as every stored node has no parent or has as parent the very
node the index holds under the parent's hash, and then every ancestor of a stored node is found.

Main definitions:

* `ThunderDB.Sqlchain.BlockIndex` — `blockIndex`, with `newBlockIndex`, `addBlock`, `hasBlock`
  and `lookupNode`;
* `ThunderDB.Sqlchain.BlockNode.ancestors` — the nodes on a node's parent chain;
* `ThunderDB.Sqlchain.BlockIndex.ParentClosed` — every node on the parent chain of a stored
  node has its hash stored;
* `ThunderDB.Sqlchain.Guarded` — a sequence of `addBlock` calls each of whose node has its
  parent stored.

Main results:

* `ThunderDB.Sqlchain.addBlock_orphan` — `addBlock` stores a built node whose parent is not
  stored;
* `ThunderDB.Sqlchain.addBlocks_parentClosed` — **after guarded insertions the index is closed
  under parents**, and `lookupNode` finds the hash of every non-nil ancestor of a stored node.
-/

import ThunderDB.Sqlchain.BlockNode
import Mathlib.Logic.Function.Basic

set_option autoImplicit false

namespace ThunderDB.Sqlchain

/-! ### The index and its operations -/

/-- `blockIndex`: the map `index`. -/
structure BlockIndex where
  index : Hash → Option BlockNode

/-- `newBlockIndex(cfg)`: the empty map. -/
def newBlockIndex : BlockIndex := ⟨fun _ => none⟩

namespace BlockIndex

/-- `bi.AddBlock(newBlock)`: `bi.index[newBlock.hash] = newBlock`. -/
def addBlock (bi : BlockIndex) (newBlock : BlockNode) : BlockIndex :=
  ⟨Function.update bi.index newBlock.hash (some newBlock)⟩

/-- `bi.HasBlock(hash)`: whether the map has the key. -/
def hasBlock (bi : BlockIndex) (hash : Hash) : Bool := (bi.index hash).isSome

/-- `bi.LookupNode(hash)`: the node stored under the key, nil if none. -/
def lookupNode (bi : BlockIndex) (hash : Hash) : Option BlockNode := bi.index hash

theorem lookupNode_addBlock (bi : BlockIndex) (n : BlockNode) (k : Hash) :
    (bi.addBlock n).lookupNode k = if k = n.hash then some n else bi.lookupNode k := by
  simp only [lookupNode, addBlock, Function.update_apply]

theorem hasBlock_addBlock (bi : BlockIndex) (n : BlockNode) (k : Hash) :
    (bi.addBlock n).hasBlock k = (k = n.hash || bi.hasBlock k) := by
  simp only [hasBlock, addBlock, Function.update_apply]
  split <;> simp_all

theorem hasBlock_iff (bi : BlockIndex) (k : Hash) :
    bi.hasBlock k = true ↔ ∃ n, bi.lookupNode k = some n := by
  simp [hasBlock, lookupNode, Option.isSome_iff_exists]

end BlockIndex

/-- The calls `AddBlock(n)` for each `n` of `nodes`, in order. -/
def addBlocks (bi : BlockIndex) (nodes : List BlockNode) : BlockIndex :=
  nodes.foldl BlockIndex.addBlock bi

/-! ### Insertion does not check the parent -/

/-- `AddBlock` stores a node built by `newBlockNode` on a genesis node that was never stored:
the stored node's parent hash is absent from the index. -/
theorem addBlock_orphan :
    let g := newBlockNode ⟨⟨List.replicate 32 0, by decide⟩⟩ none
    let c := newBlockNode ⟨⟨List.replicate 32 1, by decide⟩⟩ (some g)
    Built c ∧ c.parent = some g ∧ (newBlockIndex.addBlock c).lookupNode c.hash = some c ∧
      (newBlockIndex.addBlock c).hasBlock g.hash = false :=
  ⟨Built.child _ (Built.genesis _), rfl, by decide, by decide⟩

/-! ### Closure under parents -/

/-- The nodes on the parent chain of `n`, nearest first; `n` itself is not among them. -/
def BlockNode.ancestors : BlockNode → List BlockNode
  | .root .. => []
  | .child p .. => p :: p.ancestors

/-- The nodes the walk of `ancestor` can stop at: `n` and its parent chain. -/
theorem BlockNode.walk_mem {n a : BlockNode} {h : Int32} (hw : n.walk h = some a) :
    a = n ∨ a ∈ n.ancestors := by
  induction n with
  | root hash x =>
      simp only [BlockNode.walk] at hw
      split at hw <;> simp_all
  | child p hash x ih =>
      simp only [BlockNode.walk] at hw
      split at hw
      · rcases ih hw with rfl | hm <;> simp_all [BlockNode.ancestors]
      · simp_all

namespace BlockIndex

/-- Every node is stored under its own hash. -/
def KeysMatch (bi : BlockIndex) : Prop :=
  ∀ k n, bi.lookupNode k = some n → n.hash = k

/-- Every node on the parent chain of a stored node has its hash stored. -/
def ParentClosed (bi : BlockIndex) : Prop :=
  ∀ k n, bi.lookupNode k = some n → ∀ p ∈ n.ancestors, bi.hasBlock p.hash = true

/-- The node to store has no parent, or its parent is the node stored under the parent's
hash. -/
def ParentStored (bi : BlockIndex) (n : BlockNode) : Prop :=
  ∀ p, n.parent = some p → bi.lookupNode p.hash = some p

theorem keysMatch_newBlockIndex : newBlockIndex.KeysMatch := fun _ _ h => nomatch h

theorem parentClosed_newBlockIndex : newBlockIndex.ParentClosed := fun _ _ h => nomatch h

theorem keysMatch_addBlock {bi : BlockIndex} (h : bi.KeysMatch) (n : BlockNode) :
    (bi.addBlock n).KeysMatch := by
  intro k m hm
  rw [lookupNode_addBlock] at hm
  split at hm
  · cases hm; simp_all
  · exact h k m hm

/-- Storing a node keeps every stored hash stored. -/
theorem hasBlock_addBlock_of_hasBlock {bi : BlockIndex} (n : BlockNode) {k : Hash}
    (h : bi.hasBlock k = true) : (bi.addBlock n).hasBlock k = true := by
  simp [hasBlock_addBlock, h]

/-- One guarded `AddBlock` keeps the index closed under parents. -/
theorem parentClosed_addBlock {bi : BlockIndex} (hc : bi.ParentClosed) {n : BlockNode}
    (hn : bi.ParentStored n) : (bi.addBlock n).ParentClosed := by
  intro k m hm q hq
  apply hasBlock_addBlock_of_hasBlock
  rw [lookupNode_addBlock] at hm
  split at hm
  · cases hm
    cases n with
    | root hash x => simp [BlockNode.ancestors] at hq
    | child p hash x =>
        have hp := hn p rfl
        simp only [BlockNode.ancestors, List.mem_cons] at hq
        rcases hq with rfl | hq
        · exact (hasBlock_iff _ _).2 ⟨_, hp⟩
        · exact hc _ _ hp q hq
  · exact hc k m hm q hq

end BlockIndex

/-- A sequence of `AddBlock` calls each of whose node has its parent stored when it is
added. -/
def Guarded : BlockIndex → List BlockNode → Prop
  | _, [] => True
  | bi, n :: ns => bi.ParentStored n ∧ Guarded (bi.addBlock n) ns

open BlockIndex in
/-- The invariant of guarded insertion, carried along the sequence. -/
theorem addBlocks_invariant {bi : BlockIndex} (hk : bi.KeysMatch) (hc : bi.ParentClosed)
    (nodes : List BlockNode) (hg : Guarded bi nodes) :
    (addBlocks bi nodes).KeysMatch ∧ (addBlocks bi nodes).ParentClosed := by
  induction nodes generalizing bi with
  | nil => exact ⟨hk, hc⟩
  | cons n ns ih =>
      exact ih (keysMatch_addBlock hk n) (parentClosed_addBlock hc hg.1) hg.2

/-- **After guarded insertions the index is closed under parents.**  Starting from
`newBlockIndex`, if every `AddBlock` stores a node with no parent or with the stored parent,
then every node on the parent chain of a stored node has its hash stored, and so does every
non-nil ancestor `n.ancestor h` of a stored node `n`. -/
theorem addBlocks_parentClosed (nodes : List BlockNode) (hg : Guarded newBlockIndex nodes) :
    let bi := addBlocks newBlockIndex nodes
    ∀ k n, bi.lookupNode k = some n →
      (∀ p ∈ n.ancestors, bi.hasBlock p.hash = true) ∧
      ∀ h a, n.ancestor h = some a → bi.hasBlock a.hash = true := by
  intro bi k n hn
  obtain ⟨hk, hc⟩ := addBlocks_invariant BlockIndex.keysMatch_newBlockIndex
    BlockIndex.parentClosed_newBlockIndex nodes hg
  refine ⟨hc k n hn, fun h a ha => ?_⟩
  have hw : n.walk h = some a := by
    simp only [BlockNode.ancestor] at ha
    split at ha
    · cases ha
    · exact ha
  rcases BlockNode.walk_mem hw with rfl | hm
  · exact (BlockIndex.hasBlock_iff _ _).2 ⟨a, by rw [hk k a hn]; exact hn⟩
  · exact hc k n hn a hm

/-- Storing a genesis node and then its child is guarded, and both are found. -/
theorem addBlocks_parentClosed_two :
    let g := newBlockNode ⟨⟨List.replicate 32 0, by decide⟩⟩ none
    let c := newBlockNode ⟨⟨List.replicate 32 1, by decide⟩⟩ (some g)
    Guarded newBlockIndex [g, c] ∧
      (addBlocks newBlockIndex [g, c]).lookupNode c.hash = some c ∧
      ∀ p ∈ c.ancestors, (addBlocks newBlockIndex [g, c]).hasBlock p.hash = true := by
  intro g c
  have hg : Guarded newBlockIndex [g, c] :=
    And.intro (fun _ hp => nomatch hp) (And.intro (fun _ hp => by cases hp; decide) trivial)
  have hc : (addBlocks newBlockIndex [g, c]).lookupNode c.hash = some c := by decide
  refine ⟨hg, hc, ?_⟩
  exact (addBlocks_parentClosed [g, c] hg c.hash c hc).1

end ThunderDB.Sqlchain
