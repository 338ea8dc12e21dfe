/-
**Runs of the storage: one open transaction, and every call on it under its own `TxID`.**

Any number of coordinators may call one `Storage` with any `TxID`s; since each method holds the
storage's mutex, what the storage sees is a sequence of calls.  A run here is such a sequence,
each call with the database's answers to it, and the world it leaves records every call the
storage made on the database, tagged with the batch of the method call that made it.  `BeginTx`
either fails or hands out a transaction that was never handed out before.

Over every run, the transaction the storage holds is the only one open in the database, and
every statement run in a transaction, and every rollback of it, comes from a call carrying the
`TxID` of the `Prepare` that began it; the statements themselves are those of a `Prepare` of
that `TxID`.  Since a successful `Commit` leaves its transaction open, it also leaves the
storage refusing every call of another `TxID` until that transaction is rolled back.

Main definitions:

* `ThunderDB.Sqlite.Call`, `ThunderDB.Sqlite.World`, `ThunderDB.Sqlite.World.step`,
  `ThunderDB.Sqlite.run` — calls, the storage with its database, one step and a whole run;
* `ThunderDB.Sqlite.begun`, `ThunderDB.Sqlite.openTxs` — the transactions begun, and those
  begun and not yet rolled back, read off the database's trace;
* `ThunderDB.Sqlite.Inv` — the invariant of runs;
* `ThunderDB.Sqlite.Call.carries` — whether a call carries a given `TxID`.

Main results:

* `ThunderDB.Sqlite.Inv.step` — one call keeps the invariant;
* `ThunderDB.Sqlite.run_inv` — every run keeps it;
* `ThunderDB.Sqlite.run_txID_discipline` — **at most one transaction is open, and calls on it
  carry the `TxID` of the `Prepare` that began it**;
* `ThunderDB.Sqlite.run_open_tx_held` — **no transaction is lost**: the open one is the one the
  storage holds;
* `ThunderDB.Sqlite.commit_blocks_other_txIDs` — **after a successful `Commit` the storage
  serves no other `TxID`**: every later call of another `TxID` fails and changes nothing.
-/

import ThunderDB.Storage.Worker
import Mathlib.Data.List.Nodup

set_option autoImplicit false

namespace ThunderDB.Sqlite

/-! ### Calls, worlds and runs -/

/-- One call on the storage, with the database's answers: `BeginTx` fails with `beginErr` if it
is given, `ExecContext` answers `exec i` to the `i`-th statement. -/
inductive Call
  | prepare (wb : WriteBatch) (beginErr : Option GoError)
  | commit (wb : WriteBatch) (exec : Nat → Option GoError)
  | rollback (wb : WriteBatch)

/-- The batch a call carries. -/
def Call.batch : Call → WriteBatch
  | prepare wb _ => wb
  | commit wb _ => wb
  | rollback wb => wb

/-- The storage and what its database has seen. -/
structure World where
  storage : Storage
  /-- The transactions handed out so far are numbered below `nextTx`. -/
  nextTx : Nat
  /-- Every call made on the database, with the batch of the method call that made it. -/
  trace : List (WriteBatch × DbCall)

/-- A storage fresh from `New`, before any call. -/
def World.init : World := ⟨Storage.idle, 0, []⟩

namespace World

/-- What the database answers to `BeginTx`: the given error, or a fresh transaction. -/
def beginAnswer (w : World) : Option GoError → Except GoError Tx
  | some e => .error e
  | none => .ok ⟨w.nextTx⟩

/-- What the method called does. -/
def reply (w : World) : Call → Reply
  | .prepare wb b => w.storage.prepare wb (w.beginAnswer b)
  | .commit wb exec => w.storage.commit wb exec
  | .rollback wb => w.storage.rollback wb

/-- One call on the storage. -/
def step (w : World) (c : Call) : World :=
  ⟨(w.reply c).next, w.nextTx + 1, w.trace ++ (w.reply c).calls.map (c.batch, ·)⟩

end World

/-- The world after the calls `calls`, in order. -/
def run (calls : List Call) : World := calls.foldl World.step World.init

theorem run_append_single (calls : List Call) (c : Call) :
    run (calls ++ [c]) = (run calls).step c := by
  simp [run, List.foldl_append]

/-! ### Reading the trace -/

/-- The transaction a database call is on. -/
def DbCall.tx : DbCall → Tx
  | .beginTx tx => tx
  | .execContext tx _ => tx
  | .rollback tx => tx

/-- The transaction a call begins, if it is a `BeginTx`. -/
def DbCall.begun? : DbCall → Option Tx
  | .beginTx tx => some tx
  | _ => none

/-- The transactions begun in a trace, in order. -/
def begun (trace : List (WriteBatch × DbCall)) : List Tx := trace.filterMap (·.2.begun?)

/-- The open transactions after one more database call. -/
def openAfter (o : List Tx) : DbCall → List Tx
  | .beginTx tx => o ++ [tx]
  | .execContext .. => o
  | .rollback tx => o.erase tx

/-- The transactions a trace has begun and not rolled back. -/
def openTxs (trace : List (WriteBatch × DbCall)) : List Tx :=
  trace.foldl (fun o e => openAfter o e.2) []

theorem openTxs_append (t l : List (WriteBatch × DbCall)) :
    openTxs (t ++ l) = l.foldl (fun o e => openAfter o e.2) (openTxs t) := by
  simp [openTxs, List.foldl_append]

/-! ### The invariant -/

/-- The invariant of a run of the calls `calls`. -/
structure Inv (calls : List Call) (w : World) : Prop where
  /-- Every transaction in the trace was handed out. -/
  fresh : ∀ e ∈ w.trace, e.2.tx.id < w.nextTx
  /-- No transaction is begun twice. -/
  begun_nodup : (begun w.trace).Nodup
  /-- The storage's transaction is the one open transaction. -/
  open_eq : openTxs w.trace = w.storage.tx.toList
  /-- The storage's transaction was begun by a `Prepare` of the recorded `TxID`. -/
  tx_begun : ∀ tx, w.storage.tx = some tx →
    ∃ el, (.execLog el, .beginTx tx) ∈ w.trace ∧ el.txID = w.storage.id
  /-- The recorded statements are those of a `Prepare` of the recorded `TxID`. -/
  tx_prepared : w.storage.tx.isSome →
    ∃ el b, Call.prepare (.execLog el) b ∈ calls ∧ el.txID = w.storage.id ∧
      el.queries = w.storage.queries
  /-- Every statement ran under the `TxID` of the `Prepare` that began its transaction, and
  comes from a `Prepare` of that `TxID`. -/
  exec_attr : ∀ wb tx q, (wb, .execContext tx q) ∈ w.trace →
    ∃ el el', wb = .execLog el ∧ (.execLog el', .beginTx tx) ∈ w.trace ∧ el'.txID = el.txID ∧
      ∃ el'' b, Call.prepare (.execLog el'') b ∈ calls ∧ el''.txID = el.txID ∧ q ∈ el''.queries
  /-- Every rollback ran under the `TxID` of the `Prepare` that began its transaction. -/
  rollback_attr : ∀ wb tx, (wb, .rollback tx) ∈ w.trace →
    ∃ el el', wb = .execLog el ∧ (.execLog el', .beginTx tx) ∈ w.trace ∧ el'.txID = el.txID

theorem Inv.init : Inv [] World.init where
  fresh _ h := by simp [World.init] at h
  begun_nodup := by simp [World.init, begun]
  open_eq := rfl
  tx_begun _ h := by simp [World.init, Storage.idle] at h
  tx_prepared h := by simp [World.init, Storage.idle] at h
  exec_attr _ _ _ h := by simp [World.init] at h
  rollback_attr _ _ h := by simp [World.init] at h

/-! ### What one call can do -/

/-- Everything one call can do to the storage and its database: nothing; replace the
statements of the open transaction of its `TxID`; begin a fresh transaction and record its
batch; or, on the open transaction of its `TxID`, run a prefix of the recorded statements and
then either stop, or roll back and clear the transaction. -/
theorem World.reply_cases (w : World) (c : Call) :
    ((w.reply c).next = w.storage ∧ (w.reply c).calls = []) ∨
    (∃ el b, c = .prepare (.execLog el) b ∧ w.storage.tx.isSome ∧ el.txID = w.storage.id ∧
      (w.reply c).next = { w.storage with queries := el.queries } ∧ (w.reply c).calls = []) ∨
    (∃ el, c = .prepare (.execLog el) none ∧ w.storage.tx = none ∧
      (w.reply c).next = ⟨some ⟨w.nextTx⟩, el.txID, el.queries⟩ ∧
      (w.reply c).calls = [.beginTx ⟨w.nextTx⟩]) ∨
    (∃ el tx m, c.batch = .execLog el ∧ w.storage.tx = some tx ∧ el.txID = w.storage.id ∧
      (((w.reply c).next = w.storage ∧
          (w.reply c).calls = (w.storage.queries.take m).map (.execContext tx)) ∨
        ((w.reply c).next = { w.storage with tx := none, queries := [] } ∧
          (w.reply c).calls =
            (w.storage.queries.take m).map (.execContext tx) ++ [.rollback tx]))) := by
  cases c with
  | prepare wb b =>
      rcases Storage.prepare_cases w.storage wb (w.beginAnswer b) with h | ⟨el, rfl, h⟩ |
        ⟨el, tx, rfl, hs, hb, hn, hc⟩
      · exact .inl h
      · exact .inr (.inl ⟨el, b, rfl, h⟩)
      · cases b with
        | some e => cases hb
        | none =>
            cases hb
            exact .inr (.inr (.inl ⟨el, rfl, hs, hn, hc⟩))
  | commit wb exec =>
      rcases Storage.commit_cases w.storage wb exec with h | ⟨el, tx, m, rfl, h⟩
      · exact .inl h
      · exact .inr (.inr (.inr ⟨el, tx, m, rfl, h⟩))
  | rollback wb =>
      rcases Storage.rollback_cases w.storage wb with h | ⟨el, tx, rfl, hs, hid, hn, hc⟩
      · exact .inl h
      · exact .inr (.inr (.inr ⟨el, tx, 0, rfl, hs, hid, .inr ⟨hn, by simpa using hc⟩⟩))

/-! ### One call keeps the invariant -/

theorem World.mem_step_trace {w : World} {c : Call} {e : WriteBatch × DbCall} :
    e ∈ (w.step c).trace ↔ e ∈ w.trace ∨ ∃ d ∈ (w.reply c).calls, (c.batch, d) = e := by
  simp [World.step]

theorem World.openTxs_step (w : World) (c : Call) :
    openTxs (w.step c).trace = (w.reply c).calls.foldl openAfter (openTxs w.trace) := by
  simp [World.step, openTxs_append, List.foldl_map]

theorem World.begun_step (w : World) (c : Call) :
    begun (w.step c).trace = begun w.trace ++ (w.reply c).calls.filterMap DbCall.begun? := by
  simp [World.step, begun, List.filterMap_map, Function.comp_def]

/-- Statements leave the open transactions alone. -/
theorem foldl_openAfter_execs (tx : Tx) (qs : List String) (o : List Tx) :
    (qs.map (DbCall.execContext tx)).foldl openAfter o = o := by
  induction qs generalizing o with
  | nil => rfl
  | cons q qs ih => exact ih o

theorem filterMap_begun_execs (tx : Tx) (qs : List String) :
    (qs.map (DbCall.execContext tx)).filterMap DbCall.begun? = [] := by
  induction qs with
  | nil => rfl
  | cons q qs ih => simp [DbCall.begun?, ih]

/-- The invariant only needs more calls to have been made. -/
theorem Inv.weaken {calls : List Call} {w : World} (hi : Inv calls w) (c : Call) :
    Inv (calls ++ [c]) w where
  fresh := hi.fresh
  begun_nodup := hi.begun_nodup
  open_eq := hi.open_eq
  tx_begun := hi.tx_begun
  tx_prepared h := by
    obtain ⟨el, b, hm, h⟩ := hi.tx_prepared h
    exact ⟨el, b, List.mem_append_left _ hm, h⟩
  exec_attr wb tx q h := by
    obtain ⟨el, el', h₁, h₂, h₃, el'', b, hm, h⟩ := hi.exec_attr wb tx q h
    exact ⟨el, el', h₁, h₂, h₃, el'', b, List.mem_append_left _ hm, h⟩
  rollback_attr := hi.rollback_attr

namespace Inv

variable {calls : List Call} {w : World} {c : Call}

/-- A call whose only effect on the storage is `next` and that makes no database call keeps
every part of the invariant that does not read the storage. -/
theorem step_quiet (hi : Inv calls w) (hc : (w.reply c).calls = [])
    (hs : (w.reply c).next.tx = w.storage.tx) (hid : (w.reply c).next.id = w.storage.id)
    (hq : (w.reply c).next.tx.isSome → ∃ el b, Call.prepare (.execLog el) b ∈ calls ∧
      el.txID = w.storage.id ∧ el.queries = (w.reply c).next.queries) :
    Inv calls (w.step c) := by
  have ht : (w.step c).trace = w.trace := by simp [World.step, hc]
  have hs' : (w.step c).storage = (w.reply c).next := rfl
  refine ⟨fun e he => ?_, ?_, ?_, fun tx h => ?_, fun h => ?_, ?_, ?_⟩
  · rw [ht] at he; exact Nat.lt_succ_of_lt (hi.fresh e he)
  · rw [ht]; exact hi.begun_nodup
  · rw [ht, hs', hs]; exact hi.open_eq
  · rw [hs', hs] at h; rw [ht, hs', hid]; exact hi.tx_begun tx h
  · rw [hs'] at h ⊢; rw [hid]; exact hq h
  · rw [ht]; exact hi.exec_attr
  · rw [ht]; exact hi.rollback_attr

/-- A `Prepare` that begins a transaction keeps the invariant. -/
theorem step_begin (hi : Inv calls w) {el : ExecLog} (hcall : c = .prepare (.execLog el) none)
    (hmem : c ∈ calls) (hs : w.storage.tx = none)
    (hn : (w.reply c).next = ⟨some ⟨w.nextTx⟩, el.txID, el.queries⟩)
    (hc : (w.reply c).calls = [.beginTx ⟨w.nextTx⟩]) : Inv calls (w.step c) := by
  subst hcall
  have ht : (w.step (.prepare (.execLog el) none)).trace =
      w.trace ++ [(.execLog el, .beginTx ⟨w.nextTx⟩)] := by simp [World.step, hc, Call.batch]
  have hs' : (w.step (.prepare (.execLog el) none)).storage = _ := hn
  refine ⟨fun e he => ?_, ?_, ?_, fun tx h => ?_, fun _ => ?_, fun wb tx q h => ?_,
    fun wb tx h => ?_⟩
  · rw [ht, List.mem_append, List.mem_singleton] at he
    rcases he with he | rfl
    · exact Nat.lt_succ_of_lt (hi.fresh e he)
    · exact Nat.lt_succ_self _
  · rw [World.begun_step, hc]
    have hfresh : (⟨w.nextTx⟩ : Tx) ∉ begun w.trace := fun ha => by
      obtain ⟨e, he, hea⟩ := List.mem_filterMap.1 ha
      have := hi.fresh e he
      cases h : e.2 <;> simp_all [DbCall.begun?, DbCall.tx]
    exact hi.begun_nodup.append (List.nodup_singleton _) (List.disjoint_singleton.2 hfresh)
  · rw [World.openTxs_step, hc, hi.open_eq, hs, hs']
    rfl
  · rw [hs'] at h; cases h
    exact ⟨el, by rw [ht]; simp, by rw [hs']⟩
  · exact ⟨el, none, hmem, by rw [hs'], by rw [hs']⟩
  · rw [ht, List.mem_append, List.mem_singleton] at h
    rcases h with h | h
    · obtain ⟨el₁, el', h₁, h₂, h₃⟩ := hi.exec_attr wb tx q h
      exact ⟨el₁, el', h₁, by rw [ht]; exact List.mem_append_left _ h₂, h₃⟩
    · cases h
  · rw [ht, List.mem_append, List.mem_singleton] at h
    rcases h with h | h
    · obtain ⟨el₁, el', h₁, h₂, h₃⟩ := hi.rollback_attr wb tx h
      exact ⟨el₁, el', h₁, by rw [ht]; exact List.mem_append_left _ h₂, h₃⟩
    · cases h

/-- A `Commit` or `Rollback` on the open transaction of its `TxID` keeps the invariant,
whether it stops after its statements or rolls back. -/
theorem step_active (hi : Inv calls w) {el : ExecLog} {tx : Tx} {m : Nat}
    (hb : c.batch = .execLog el) (hs : w.storage.tx = some tx) (hid : el.txID = w.storage.id)
    (ho : ((w.reply c).next = w.storage ∧
          (w.reply c).calls = (w.storage.queries.take m).map (.execContext tx)) ∨
        ((w.reply c).next = { w.storage with tx := none, queries := [] } ∧
          (w.reply c).calls =
            (w.storage.queries.take m).map (.execContext tx) ++ [.rollback tx])) :
    Inv calls (w.step c) := by
  have hcalls : ∀ d ∈ (w.reply c).calls,
      (∃ q ∈ w.storage.queries, d = .execContext tx q) ∨ d = .rollback tx := by
    intro d hd
    rcases ho with ⟨-, hc⟩ | ⟨-, hc⟩ <;> rw [hc] at hd <;>
      simp only [List.mem_append, List.mem_map, List.mem_singleton] at hd
    · obtain ⟨q, hq, rfl⟩ := hd; exact .inl ⟨q, List.mem_of_mem_take hq, rfl⟩
    · rcases hd with ⟨q, hq, rfl⟩ | rfl
      · exact .inl ⟨q, List.mem_of_mem_take hq, rfl⟩
      · exact .inr rfl
  have hbegun : (w.reply c).calls.filterMap DbCall.begun? = [] := by
    rcases ho with ⟨-, hc⟩ | ⟨-, hc⟩
    · rw [hc, filterMap_begun_execs]
    · rw [hc, List.filterMap_append, filterMap_begun_execs]; rfl
  have hopen : (w.reply c).calls.foldl openAfter [tx] = (w.reply c).next.tx.toList := by
    rcases ho with ⟨hn, hc⟩ | ⟨hn, hc⟩
    · rw [hc, foldl_openAfter_execs, hn, hs]; rfl
    · rw [hc, List.foldl_append, foldl_openAfter_execs, hn]; simp [openAfter]
  have hnext : (w.reply c).next = w.storage ∨ (w.reply c).next.tx = none := by
    rcases ho with ⟨hn, -⟩ | ⟨hn, -⟩ <;> simp [hn]
  obtain ⟨el', hbeg, hel'⟩ := hi.tx_begun tx hs
  obtain ⟨el'', b, hmem, hel'', hq⟩ := hi.tx_prepared (by simp [hs])
  have hgrow : ∀ e ∈ w.trace, e ∈ (w.step c).trace := fun e he =>
    World.mem_step_trace.2 (.inl he)
  have hs' : (w.step c).storage = (w.reply c).next := rfl
  refine ⟨fun e he => ?_, ?_, ?_, fun tx' h => ?_, fun h => ?_, fun wb tx' q h => ?_,
    fun wb tx' h => ?_⟩
  · rcases World.mem_step_trace.1 he with he | ⟨d, hd, rfl⟩
    · exact Nat.lt_succ_of_lt (hi.fresh e he)
    · have : d.tx = tx := by rcases hcalls d hd with ⟨q, -, rfl⟩ | rfl <;> rfl
      rw [this]; exact Nat.lt_succ_of_lt (hi.fresh _ hbeg)
  · rw [World.begun_step, hbegun, List.append_nil]; exact hi.begun_nodup
  · rw [World.openTxs_step, hi.open_eq, hs, Option.toList_some, hopen]; rfl
  · rcases hnext with hn | hn
    · rw [hs', hn] at h ⊢; obtain ⟨e, he, h'⟩ := hi.tx_begun tx' h; exact ⟨e, hgrow _ he, h'⟩
    · rw [hs', hn] at h; cases h
  · rcases hnext with hn | hn
    · rw [hs', hn] at h ⊢; exact hi.tx_prepared h
    · rw [hs', hn] at h; cases h
  · rcases World.mem_step_trace.1 h with h | ⟨d, hd, hde⟩
    · obtain ⟨el₁, el₂, h₁, h₂, h₃⟩ := hi.exec_attr wb tx' q h
      exact ⟨el₁, el₂, h₁, hgrow _ h₂, h₃⟩
    · rcases hcalls d hd with ⟨q', hq', rfl⟩ | rfl
      · rw [hb] at hde; cases hde
        exact ⟨el, el', rfl, hgrow _ hbeg, by rw [hel', hid], el'', b, hmem,
          by rw [hel'', hid], by rw [hq]; exact hq'⟩
      · cases hde
  · rcases World.mem_step_trace.1 h with h | ⟨d, hd, hde⟩
    · obtain ⟨el₁, el₂, h₁, h₂, h₃⟩ := hi.rollback_attr wb tx' h
      exact ⟨el₁, el₂, h₁, hgrow _ h₂, h₃⟩
    · rcases hcalls d hd with ⟨q', -, rfl⟩ | rfl
      · cases hde
      · rw [hb] at hde; cases hde
        exact ⟨el, el', rfl, hgrow _ hbeg, by rw [hel', hid]⟩

/-- **One call keeps the invariant.** -/
theorem step (hi : Inv calls w) (c : Call) : Inv (calls ++ [c]) (w.step c) := by
  have hi' := hi.weaken c
  have hmem : c ∈ calls ++ [c] := List.mem_append_right _ (List.mem_singleton_self c)
  rcases w.reply_cases c with ⟨hn, hc⟩ | ⟨el, b, rfl, hs, hid, hn, hc⟩ | ⟨el, rfl, hs, hn, hc⟩ |
    ⟨el, tx, m, hb, hs, hid, ho⟩
  · exact hi'.step_quiet hc (by rw [hn]) (by rw [hn]) fun h => by
      rw [hn] at h ⊢; exact hi'.tx_prepared h
  · exact hi'.step_quiet hc (by rw [hn]) (by rw [hn]) fun _ =>
      ⟨el, b, hmem, hid, by rw [hn]⟩
  · exact hi'.step_begin rfl hmem hs hn hc
  · exact hi'.step_active hb hs hid ho

end Inv

/-- **Every run keeps the invariant.** -/
theorem run_inv (calls : List Call) : Inv calls (run calls) := by
  induction calls using List.reverseRecOn with
  | nil => exact Inv.init
  | append_singleton calls c ih => rw [run_append_single]; exact ih.step c

/-- **At most one transaction is open, and every call on it carries the `TxID` of the `Prepare`
that began it.**  After any sequence of `Prepare`, `Commit` and `Rollback` calls with any
batches and any answers of the database: no transaction is begun twice; at most one begun
transaction is not rolled back; every statement run in a transaction was run by a call whose
`ExecLog` has the `TxID` of the `Prepare` that began that transaction, and is a statement of a
`Prepare` with that `TxID`; and every rollback of a transaction was made by a call with that
`TxID`. -/
theorem run_txID_discipline (calls : List Call) :
    let w := run calls
    (begun w.trace).Nodup ∧ (openTxs w.trace).length ≤ 1 ∧
    (∀ wb tx q, (wb, .execContext tx q) ∈ w.trace →
      ∃ el el', wb = .execLog el ∧ (.execLog el', .beginTx tx) ∈ w.trace ∧ el'.txID = el.txID ∧
        ∃ el'' b, Call.prepare (.execLog el'') b ∈ calls ∧ el''.txID = el.txID ∧
          q ∈ el''.queries) ∧
    (∀ wb tx, (wb, .rollback tx) ∈ w.trace →
      ∃ el el', wb = .execLog el ∧ (.execLog el', .beginTx tx) ∈ w.trace ∧
        el'.txID = el.txID) := by
  have hi := run_inv calls
  refine ⟨hi.begun_nodup, ?_, hi.exec_attr, hi.rollback_attr⟩
  rw [hi.open_eq]
  cases (run calls).storage.tx <;> simp

/-- **No transaction is lost.**  After any sequence of calls with any batches and any answers of
the database, the transactions begun and not rolled back are exactly the storage's `tx`: none,
or the one it holds, which a `Prepare` of the recorded `TxID` began and whose statements are
those of a `Prepare` of that `TxID`.  No error path drops a pointer to an open transaction. -/
theorem run_open_tx_held (calls : List Call) :
    let w := run calls
    openTxs w.trace = w.storage.tx.toList ∧
      (∀ tx, w.storage.tx = some tx →
        ∃ el, (.execLog el, .beginTx tx) ∈ w.trace ∧ el.txID = w.storage.id) ∧
      (w.storage.tx.isSome → ∃ el b, Call.prepare (.execLog el) b ∈ calls ∧
        el.txID = w.storage.id ∧ el.queries = w.storage.queries) :=
  have hi := run_inv calls
  ⟨hi.open_eq, hi.tx_begun, hi.tx_prepared⟩

/-! ### An open transaction blocks every other `TxID` -/

/-- Whether call `c` carries the `TxID` `id`: its batch is an `ExecLog` of that `TxID`, as
`equalTxID` compares them. -/
def Call.carries (c : Call) (id : TxID) : Bool :=
  match c.batch with
  | .execLog el => equalTxID id el.txID
  | .other => false

/-- While a transaction is open, a call that does not carry its `TxID` fails, changes nothing
and makes no database call: with `unexpectedBatchType` for a batch of another type, with
`inconsistentState` naming the open transaction's `TxID` for an `ExecLog`. -/
theorem World.reply_foreign {w : World} (hs : w.storage.tx.isSome) {c : Call}
    (hc : c.carries w.storage.id = false) :
    w.reply c = ⟨some (if c.batch = .other then .unexpectedBatchType
      else .inconsistentState w.storage.id), w.storage, []⟩ := by
  have held (el : ExecLog) (h : equalTxID w.storage.id el.txID = false) :=
    Storage.held_other_txID hs (Ne.symm (equalTxID_eq_false.1 h))
  cases c with
  | prepare wb b => cases wb with
    | execLog el => exact (held el hc _ (fun _ => none)).1
    | other => rfl
  | commit wb exec => cases wb with
    | execLog el => exact (held el hc (.ok ⟨0⟩) exec).2.1
    | other => rfl
  | rollback wb => cases wb with
    | execLog el => exact (held el hc (.ok ⟨0⟩) fun _ => none).2.2
    | other => rfl

/-- Calls that do not carry the open transaction's `TxID` leave the storage and the database's
trace as they were. -/
theorem World.foldl_foreign : ∀ (cs : List Call) {w : World}, w.storage.tx.isSome →
    (∀ c ∈ cs, c.carries w.storage.id = false) →
      (cs.foldl World.step w).storage = w.storage ∧ (cs.foldl World.step w).trace = w.trace
  | [], _, _, _ => ⟨rfl, rfl⟩
  | c :: cs, w, hs, hcs => by
    have hr := World.reply_foreign hs (hcs c (List.mem_cons_self _ _))
    have h₁ : (w.step c).storage = w.storage := by simp [World.step, hr]
    have h₂ : (w.step c).trace = w.trace := by simp [World.step, hr]
    obtain ⟨ih₁, ih₂⟩ := World.foldl_foreign cs (h₁ ▸ hs)
      fun c' hc' => h₁ ▸ hcs c' (List.mem_cons_of_mem _ hc')
    exact ⟨ih₁.trans h₁, ih₂.trans h₂⟩

/-- **After a successful `Commit`, the storage serves no other `TxID`.**  From every state of
the storage and its database: once `Commit` of an `ExecLog` has returned nil, its transaction
is still open under its `TxID`, and every later sequence of calls none of which carries that
`TxID` fails call by call — each `Prepare`, `Commit` and `Rollback` with the inconsistent-state
error naming it — and leaves the storage and the database as they were: only a call carrying
that `TxID` can change the storage again. -/
theorem commit_blocks_other_txIDs (w : World) (el : ExecLog) (exec : Nat → Option GoError)
    (h : (w.reply (.commit (.execLog el) exec)).err = none) (cs : List Call)
    (hcs : ∀ c ∈ cs, c.carries el.txID = false) :
    let w' := w.step (.commit (.execLog el) exec)
    w'.storage.tx.isSome ∧ w'.storage.id = el.txID ∧
      (cs.foldl World.step w').storage = w'.storage ∧ (cs.foldl World.step w').trace = w'.trace ∧
      ∀ pre c post, cs = pre ++ c :: post →
        ((pre.foldl World.step w').reply c).err =
          some (if c.batch = .other then .unexpectedBatchType else .inconsistentState el.txID) := by
  intro w'
  obtain ⟨el', he, hs, hid, hn⟩ := Storage.commit_ok h
  cases he
  have hst : w'.storage = w.storage := hn
  have hs' : w'.storage.tx.isSome := hst ▸ hs
  have hid' : w'.storage.id = el.txID := hst ▸ hid.symm
  have hf : ∀ c ∈ cs, c.carries w'.storage.id = false := hid' ▸ hcs
  obtain ⟨hfs, hft⟩ := World.foldl_foreign cs hs' hf
  refine ⟨hs', hid', hfs, hft, fun pre c post hsplit => ?_⟩
  subst hsplit
  obtain ⟨hps, -⟩ := World.foldl_foreign pre hs' fun c hc => hf c (by simp [hc])
  rw [World.reply_foreign (hps ▸ hs') (hps ▸ hf c (by simp)), hps, hid']

/-- `Prepare` and `Commit` of one `ExecLog`: a `Prepare` and a `Rollback` of the next `TxID`
then both fail, and the first transaction stays open. -/
theorem commit_blocks_next_txID :
    let e : ExecLog := ⟨1, 1, 1, ["INSERT INTO t VALUES (1)"]⟩
    let e' : ExecLog := ⟨1, 2, 2, ["INSERT INTO t VALUES (2)"]⟩
    let w := run [.prepare (.execLog e) none]
    let cs := [Call.prepare (.execLog e') none, .rollback (.execLog e')]
    (w.reply (.commit (.execLog e) fun _ => none)).err = none ∧
      (∀ c ∈ cs, c.carries e.txID = false) ∧
      let w' := w.step (.commit (.execLog e) fun _ => none)
      w'.storage.tx.isSome ∧ w'.storage.id = e.txID ∧
        (cs.foldl World.step w').storage = w'.storage ∧ (cs.foldl World.step w').trace = w'.trace ∧
        ∀ pre c post, cs = pre ++ c :: post →
          ((pre.foldl World.step w').reply c).err =
            some (if c.batch = .other then .unexpectedBatchType else .inconsistentState e.txID) := by
  intro e e' w cs
  exact ⟨rfl, by decide, commit_blocks_other_txIDs w e (fun _ => none) rfl cs (by decide)⟩

end ThunderDB.Sqlite
