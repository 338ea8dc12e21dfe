/-
**The Raft node of the two-phase-commit tests.**

The tests of package `twopc` run a coordinator against ten `RaftNode`s.  Each is an RPC server
that keeps a transaction ID and a state, and a client whose `Prepare`, `Commit` and `Rollback`
call the server's handlers `RPCPrepare`, `RPCCommit` and `RPCRollback`.

The three handlers share one shape: a consistency check that only writes the error code 1 into
the response, then a failure injected by the test policy, which writes the error code 2 and
returns before any change, then the transition itself, taken whatever the check found.  So a
node that reports an inconsistent state changes its state all the same, and `Rollback`, which
reads no policy, always moves the node to `RolledBack`.  The client turns a positive error code
into an error carrying the response's text; before that, the call can fail on the network: in
`etls.Dial`, `rpc.InitClientConn` or `conn.SetDeadline`, before anything is sent, or in
`client.Call`, whose error says nothing of whether the handler ran.

Main definitions:

* `ThunderDB.Twopc.RaftNodeRPCServer`, `ThunderDB.Twopc.RaftResp` — the node's fields and the
  responses;
* `ThunderDB.Twopc.rpcHandle` — the shape of the three handlers, and
  `ThunderDB.Twopc.rpcPrepare`, `ThunderDB.Twopc.rpcCommit`, `ThunderDB.Twopc.rpcRollback`;
* `ThunderDB.Twopc.RaftNet`, `ThunderDB.Twopc.raftCall` — what the network does to a call, and
  the shape of the client methods `ThunderDB.Twopc.RaftNode.prepare`,
  `ThunderDB.Twopc.RaftNode.commit`, `ThunderDB.Twopc.RaftNode.rollback`;
* `ThunderDB.Twopc.runCalls` — calls answered one after the other, and its instances
  `ThunderDB.Twopc.runRPCs` (a node answering RPCs) and `ThunderDB.Twopc.runClient` (a client
  calling one node).

Main results:

* `ThunderDB.Twopc.rpcHandle_spec` — what a handler answers and leaves;
* `ThunderDB.Twopc.runCalls_invariant` — a run keeps what each call keeps;
* `ThunderDB.Twopc.runRPCs_failOnPrepare` — **under `FailOnPrepare` a node that is not prepared
  never becomes prepared, and answers every RPC with an error**;
* `ThunderDB.Twopc.runClient_failOnPrepare` — **under `FailOnPrepare` every call of the client
  of a node that is not prepared fails, whatever the network does, and the node never becomes
  prepared**.
-/

import ThunderDB.Go

set_option autoImplicit false

namespace ThunderDB.Twopc

/-! ### The node and its handlers -/

/-- `RaftTxState` (with the source's spelling of `Initailized`). -/
inductive RaftTxState
  | initailized
  | prepared
  | committed
  | rolledBack
  deriving DecidableEq

/-- `TestPolicy`, the failure the tests inject. -/
inductive TestPolicy
  | allGood
  | failOnPrepare
  | failOnCommit
  deriving DecidableEq

/-- The fields of `RaftNodeRPCServer` that its handlers read and write. -/
structure RaftNodeRPCServer where
  txid : UInt64
  state : RaftTxState
  deriving DecidableEq

/-- `RaftWriteBatchResp`, `RaftCommitResp` and `RaftRollbackResp`, which have the same fields. -/
structure RaftResp where
  errCode : Int
  errString : String
  deriving DecidableEq

/-- The shape of the three handlers: the response starts zero; an `inconsistent` node gets the
error code 1 without returning; an injected failure `fail` gets the error code 2 and returns
with the node unchanged; otherwise the node moves to `next`. -/
def rpcHandle (inconsistent : Bool) (fail : Option String) (next r : RaftNodeRPCServer) :
    RaftResp × RaftNodeRPCServer :=
  let resp : RaftResp := if inconsistent then ⟨1, "raft node is in inconsistent state"⟩ else ⟨0, ""⟩
  match fail with
  | some msg => (⟨2, msg⟩, r)
  | none => (resp, next)

/-- `RPCPrepare`: inconsistent when prepared for another transaction. -/
def rpcPrepare (policy : TestPolicy) (r : RaftNodeRPCServer) (txID : UInt64) :
    RaftResp × RaftNodeRPCServer :=
  rpcHandle (r.state == .prepared && r.txid != txID)
    (if policy == .failOnPrepare then some ("failed to prepare for txid " ++ toString txID)
      else none)
    ⟨txID, .prepared⟩ r

/-- `RPCCommit`: inconsistent unless prepared for this transaction. -/
def rpcCommit (policy : TestPolicy) (r : RaftNodeRPCServer) (txID : UInt64) :
    RaftResp × RaftNodeRPCServer :=
  rpcHandle (r.state != .prepared || r.txid != txID)
    (if policy == .failOnCommit then some ("failed to commit for txid " ++ toString txID)
      else none)
    { r with state := .committed } r

/-- `RPCRollback`: inconsistent unless prepared for this transaction; it reads no policy. -/
def rpcRollback (r : RaftNodeRPCServer) (txID : UInt64) : RaftResp × RaftNodeRPCServer :=
  rpcHandle (r.state != .prepared || r.txid != txID) none { r with state := .rolledBack } r

/-- What a handler answers and leaves: an injected failure answers 2 and leaves the node; else
the answer is 1 or 0 as the node was inconsistent or not, and the node moves on regardless. -/
theorem rpcHandle_spec (inconsistent : Bool) (fail : Option String) (next r : RaftNodeRPCServer) :
    (rpcHandle inconsistent fail next r).1.errCode =
        (if fail.isSome then 2 else if inconsistent then 1 else 0) ∧
      (rpcHandle inconsistent fail next r).2 = if fail.isSome then r else next := by
  cases fail <;> cases inconsistent <;> simp [rpcHandle]

/-! ### Runs -/

/-- Calls answered one after the other by `step`: the answers, and the state left. -/
def runCalls {σ α β : Type} (step : α → σ → β × σ) : σ → List α → List β × σ
  | s, [] => ([], s)
  | s, c :: cs => (runCalls step (step c s).2 cs).map ((step c s).1 :: ·) id

/-- A run keeps a property `P` of the state that every call keeps, and gives only answers with
`Q` when every call from a state with `P` does. -/
theorem runCalls_invariant {σ α β : Type} {step : α → σ → β × σ} (P : σ → Prop) (Q : β → Prop)
    (hstep : ∀ c s, P s → Q (step c s).1 ∧ P (step c s).2) :
    ∀ (cs : List α) {s : σ}, P s → (∀ b ∈ (runCalls step s cs).1, Q b) ∧ P (runCalls step s cs).2
  | [], _, hs => ⟨by simp [runCalls], hs⟩
  | c :: cs, s, hs => by
    obtain ⟨hq, hp⟩ := hstep c s hs
    obtain ⟨ih₁, ih₂⟩ := runCalls_invariant P Q hstep cs hp
    exact ⟨by simpa [runCalls, hq] using ih₁, by simpa [runCalls] using ih₂⟩

/-! ### Runs of one node -/

/-- An RPC a node answers, with its transaction ID. -/
inductive RaftRPC
  | prepare (txID : UInt64)
  | commit (txID : UInt64)
  | rollback (txID : UInt64)

/-- The handler an RPC runs. -/
def RaftRPC.handle (policy : TestPolicy) : RaftRPC → RaftNodeRPCServer → RaftResp × RaftNodeRPCServer
  | .prepare t, r => rpcPrepare policy r t
  | .commit t, r => rpcCommit policy r t
  | .rollback t, r => rpcRollback r t

/-- A node answering `calls` in order: the responses, and the node it ends as. -/
def runRPCs (policy : TestPolicy) : RaftNodeRPCServer → List RaftRPC → List RaftResp × RaftNodeRPCServer :=
  runCalls (RaftRPC.handle policy)

/-- Under `FailOnPrepare`, one RPC on a node that is not prepared answers a positive code and
leaves the node not prepared. -/
theorem handle_failOnPrepare (c : RaftRPC) {r : RaftNodeRPCServer} (hr : r.state ≠ .prepared) :
    0 < (c.handle .failOnPrepare r).1.errCode ∧ (c.handle .failOnPrepare r).2.state ≠ .prepared := by
  cases c <;> simp [RaftRPC.handle, rpcPrepare, rpcCommit, rpcRollback, rpcHandle, hr]

/-- **Under `FailOnPrepare` a node that is not prepared never becomes prepared, and answers every
RPC with an error.** -/
theorem runRPCs_failOnPrepare (cs : List RaftRPC) :
    ∀ {r : RaftNodeRPCServer}, r.state ≠ .prepared →
      (∀ resp ∈ (runRPCs .failOnPrepare r cs).1, resp.errCode ≠ 0) ∧
        (runRPCs .failOnPrepare r cs).2.state ≠ .prepared :=
  fun hr => runCalls_invariant (fun r : RaftNodeRPCServer => r.state ≠ .prepared)
    (fun resp : RaftResp => resp.errCode ≠ 0)
    (fun c _ hr => (handle_failOnPrepare c hr).imp_left fun h => by omega) cs hr

/-- A fresh node under `FailOnPrepare`, asked to prepare, commit and roll back: three errors,
and the node ends rolled back. -/
theorem runRPCs_failOnPrepare_round :
    let r : RaftNodeRPCServer := ⟨0, .initailized⟩
    let cs := [RaftRPC.prepare 1, .commit 1, .rollback 1]
    r.state ≠ .prepared ∧ (∀ resp ∈ (runRPCs .failOnPrepare r cs).1, resp.errCode ≠ 0) ∧
      (runRPCs .failOnPrepare r cs).2.state ≠ .prepared :=
  ⟨by decide, runRPCs_failOnPrepare _ (by decide)⟩

/-! ### The client -/

/-- The write batch of a call: a `*RaftWriteBatchReq` (its `TxID`; the commands are never read),
or a value of another type. -/
inductive RaftBatch
  | req (txID : UInt64)
  | other

/-- What the network does to one call of the client: `etls.Dial`, `rpc.InitClientConn` or
`conn.SetDeadline` fails with `e` before the RPC is sent; `client.Call` fails with `e`, the
handler having run (`ran`: the reply was lost) or not; or the RPC and its reply go through. -/
inductive RaftNet
  | dialError (e : GoError)
  | callError (e : GoError) (ran : Bool)
  | delivered

/-- The shape of `RaftNode.Prepare`, `Commit` and `Rollback`: the batch must be a
`*RaftWriteBatchReq`; an error of the network is returned as it is; a positive error code in
the response becomes an error with its text. -/
def raftCall (rpc : RaftNodeRPCServer → UInt64 → RaftResp × RaftNodeRPCServer)
    (r : RaftNodeRPCServer) (wb : RaftBatch) (net : RaftNet) :
    Option GoError × RaftNodeRPCServer :=
  match wb with
  | .other => (some ⟨"unexpected WriteBatch type"⟩, r)
  | .req txID =>
    match net with
    | .dialError e => (some e, r)
    | .callError e ran => (some e, if ran then (rpc r txID).2 else r)
    | .delivered =>
      let resp := rpc r txID
      (if resp.1.errCode > 0 then some ⟨resp.1.errString⟩ else none, resp.2)

/-- `RaftNode.Prepare`. -/
def RaftNode.prepare (policy : TestPolicy) : RaftNodeRPCServer → RaftBatch → RaftNet →
    Option GoError × RaftNodeRPCServer :=
  raftCall (rpcPrepare policy)

/-- `RaftNode.Commit`. -/
def RaftNode.commit (policy : TestPolicy) : RaftNodeRPCServer → RaftBatch → RaftNet →
    Option GoError × RaftNodeRPCServer :=
  raftCall (rpcCommit policy)

/-- `RaftNode.Rollback`. -/
def RaftNode.rollback : RaftNodeRPCServer → RaftBatch → RaftNet →
    Option GoError × RaftNodeRPCServer :=
  raftCall rpcRollback

/-- A client call whose RPC would answer a positive code fails, whatever the network does, and
leaves the node as it was or as the RPC leaves it. -/
theorem raftCall_fails {rpc : RaftNodeRPCServer → UInt64 → RaftResp × RaftNodeRPCServer}
    {r : RaftNodeRPCServer} (P : RaftNodeRPCServer → Prop) (hr : P r)
    (hrpc : ∀ t, 0 < (rpc r t).1.errCode ∧ P (rpc r t).2) (wb : RaftBatch) (net : RaftNet) :
    (raftCall rpc r wb net).1.isSome ∧ P (raftCall rpc r wb net).2 := by
  cases wb with
  | other => exact ⟨rfl, hr⟩
  | req t =>
    obtain ⟨hcode, hp⟩ := hrpc t
    cases net with
    | dialError e => exact ⟨rfl, hr⟩
    | callError e ran => cases ran <;> simp [raftCall, hr, hp]
    | delivered => simp [raftCall, hcode, hp]

/-- A call of the client of one node: `Prepare`, `Commit` or `Rollback`, with the write batch it
is given and what the network does to it. -/
inductive RaftClientCall
  | prepare (wb : RaftBatch) (net : RaftNet)
  | commit (wb : RaftBatch) (net : RaftNet)
  | rollback (wb : RaftBatch) (net : RaftNet)

/-- A client call on the node it reaches: the error it returns, and the node it leaves. -/
def RaftClientCall.run (policy : TestPolicy) :
    RaftClientCall → RaftNodeRPCServer → Option GoError × RaftNodeRPCServer
  | .prepare wb net, r => RaftNode.prepare policy r wb net
  | .commit wb net, r => RaftNode.commit policy r wb net
  | .rollback wb net, r => RaftNode.rollback r wb net

/-- Client calls made to one node one after the other: the errors they return, and the node
they leave. -/
def runClient (policy : TestPolicy) :
    RaftNodeRPCServer → List RaftClientCall → List (Option GoError) × RaftNodeRPCServer :=
  runCalls (RaftClientCall.run policy)

/-- Under `FailOnPrepare`, a client call on a node that is not prepared fails and leaves the node
not prepared. -/
theorem RaftClientCall.run_failOnPrepare (c : RaftClientCall) {r : RaftNodeRPCServer}
    (hr : r.state ≠ .prepared) :
    (c.run .failOnPrepare r).1.isSome ∧ (c.run .failOnPrepare r).2.state ≠ .prepared := by
  let P : RaftNodeRPCServer → Prop := fun r => r.state ≠ .prepared
  cases c with
  | prepare wb net => exact raftCall_fails P hr (fun t => handle_failOnPrepare (.prepare t) hr) wb net
  | commit wb net => exact raftCall_fails P hr (fun t => handle_failOnPrepare (.commit t) hr) wb net
  | rollback wb net => exact raftCall_fails P hr (fun t => handle_failOnPrepare (.rollback t) hr) wb net

/-- **Under `FailOnPrepare`, every call of the client of a node that is not prepared fails, and
the node never becomes prepared**, over any sequence of `Prepare`, `Commit` and `Rollback` calls,
whatever their write batches and whatever the network does to each: a dial error, a
`client.Call` error with the handler run or not, or an RPC that goes through. -/
theorem runClient_failOnPrepare (cs : List RaftClientCall) {r : RaftNodeRPCServer}
    (hr : r.state ≠ .prepared) :
    (∀ err ∈ (runClient .failOnPrepare r cs).1, err.isSome) ∧
      (runClient .failOnPrepare r cs).2.state ≠ .prepared :=
  runCalls_invariant (fun r : RaftNodeRPCServer => r.state ≠ .prepared)
    (fun err : Option GoError => err.isSome)
    (fun c _ hr => c.run_failOnPrepare hr) cs hr

/-- A fresh node under `FailOnPrepare`: a prepare that goes through, a commit whose reply is lost
after the handler ran, and a rollback with a batch of another type all fail. -/
theorem runClient_failOnPrepare_round :
    let r : RaftNodeRPCServer := ⟨0, .initailized⟩
    let cs := [RaftClientCall.prepare (.req 1) .delivered,
      .commit (.req 1) (.callError ⟨"read: connection reset by peer"⟩ true),
      .rollback .other .delivered]
    r.state ≠ .prepared ∧ (∀ err ∈ (runClient .failOnPrepare r cs).1, err.isSome) ∧
      (runClient .failOnPrepare r cs).2.state ≠ .prepared :=
  ⟨by decide, runClient_failOnPrepare _ (by decide)⟩

end ThunderDB.Twopc
