/-
**The SQL storage as a two-phase-commit worker.**

`storage.Storage` maps the three phases of two-phase commit onto one database transaction.
`Prepare` begins a transaction and records the batch's `TxID` and statements (or, for the
`TxID` already open, replaces the statements); `Commit` executes the recorded statements in
the open transaction, rolling it back at the first failing statement; `Rollback` rolls the open
transaction back.  Each method holds the storage's mutex for its whole body, so each is one
atomic step here: a function from the storage's fields and the database's answers to the error
it returns, the fields it leaves and the calls it makes on the database.

The database is outside the model.  What it answers is an argument of each method: the result
of `BeginTx` for `Prepare`, and for `Commit` the result of the `i`-th `ExecContext`, for every
`i`.  The calls the storage makes are returned as a list of `ThunderDB.Sqlite.DbCall`.

On success `Commit` neither commits the transaction nor clears the fields: the statements have
run, and the transaction stays open with its `TxID` and statements recorded.

Main definitions:

* `ThunderDB.Sqlite.TxID`, `ThunderDB.Sqlite.ExecLog`, `ThunderDB.Sqlite.WriteBatch` — the
  identities and batches of two-phase commit;
* `ThunderDB.Sqlite.Storage` — the fields `tx`, `id` and `queries` of a storage;
* `ThunderDB.Sqlite.Storage.prepare`, `ThunderDB.Sqlite.Storage.commit`,
  `ThunderDB.Sqlite.Storage.rollback` — the three methods, with the loop of `Commit` as
  `ThunderDB.Sqlite.execAll`.

Main results:

* `ThunderDB.Sqlite.Storage.prepare_err`, `ThunderDB.Sqlite.Storage.commit_err`,
  `ThunderDB.Sqlite.Storage.rollback_err` — what an error return leaves behind;
* `ThunderDB.Sqlite.Storage.error_leaves_storage` — **an error that is not a failed statement
  of `Commit` changes nothing and touches no transaction**;
* `ThunderDB.Sqlite.Storage.commit_runs_until_first_failure` — **`Commit` runs the recorded statements in
  order up to the first failure**, then rolls back and clears the transaction;
* `ThunderDB.Sqlite.Storage.commit_leaves_tx_open` — a successful `Commit` leaves the
  transaction open, to be rolled back or run again;
* `ThunderDB.Sqlite.Storage.prepare_rollback_idempotent` — **a `Prepare` or `Rollback` that
  succeeded, presented again, succeeds with no database call and changes nothing**;
* `ThunderDB.Sqlite.Storage.held_other_txID` — while a transaction is open, every method called
  with another `TxID` fails with the inconsistent-state error and changes nothing.
-/

import ThunderDB.Go

set_option autoImplicit false

namespace ThunderDB.Sqlite

/-! ### Transaction identities and write batches -/

/-- `TxID`. -/
structure TxID where
  connectionID : UInt64
  seqNo : UInt64
  timestamp : UInt64
  deriving DecidableEq

/-- `equalTxID(x, y)`: componentwise equality. -/
def equalTxID (x y : TxID) : Bool :=
  x.connectionID == y.connectionID && x.seqNo == y.seqNo && x.timestamp == y.timestamp

@[simp] theorem equalTxID_eq_true {x y : TxID} : equalTxID x y = true ↔ x = y := by
  cases x; cases y; simp [equalTxID, and_assoc]

@[simp] theorem equalTxID_eq_false {x y : TxID} : equalTxID x y = false ↔ x ≠ y := by
  rw [← Bool.not_eq_true, equalTxID_eq_true]

/-- `ExecLog`: a `TxID`, spelled out field by field, and the statements to run. -/
structure ExecLog where
  connectionID : UInt64
  seqNo : UInt64
  timestamp : UInt64
  queries : List String
  deriving DecidableEq

/-- `TxID{el.ConnectionID, el.SeqNo, el.Timestamp}`. -/
def ExecLog.txID (el : ExecLog) : TxID := ⟨el.connectionID, el.seqNo, el.timestamp⟩

/-- `twopc.WriteBatch` as the storage sees it: an `*ExecLog`, or a batch of another type. -/
inductive WriteBatch
  | execLog (el : ExecLog)
  | other
  deriving DecidableEq

/-! ### The database, as the storage sees it -/

/-- A `*sql.Tx`, by identity. -/
structure Tx where
  id : Nat
  deriving DecidableEq

/-- A call the storage makes on the database. -/
inductive DbCall
  /-- `s.db.BeginTx` returned the transaction `tx`. -/
  | beginTx (tx : Tx)
  /-- `s.tx.ExecContext(ctx, query)`. -/
  | execContext (tx : Tx) (query : String)
  /-- `s.tx.Rollback()`. -/
  | rollback (tx : Tx)
  deriving DecidableEq

/-! ### Errors -/

/-- The errors the storage returns. -/
inductive StorageError
  | unexpectedBatchType
  | inconsistentState (current : TxID)
  | txNotPrepared
  /-- An error of `BeginTx` or `ExecContext`, returned as is. -/
  | db (e : GoError)
  deriving DecidableEq

/-- The text of each error, as the source builds it. -/
def StorageError.message : StorageError → String
  | unexpectedBatchType => "unexpected WriteBatch type"
  | inconsistentState id => "twopc: inconsistent state, currently in tx: conn = " ++
      toString id.connectionID ++ ", seq = " ++ toString id.seqNo ++ ", time = " ++
      toString id.timestamp
  | txNotPrepared => "twopc: tx not prepared"
  | db e => e.msg

/-! ### The storage and its methods -/

/-- `Storage`: the current transaction `tx` (nil if none), its `id` and the statements
`queries` recorded for it.  The mutex is the atomicity of each method; `dsn` and `db` are read
only through the database's answers. -/
structure Storage where
  tx : Option Tx
  id : TxID
  queries : List String
  deriving DecidableEq

theorem Storage.with_tx_none {s : Storage} (hs : s.tx = none) : { s with tx := none } = s := by
  cases s; simp_all

/-- The fields of a storage fresh from `New`: no transaction, the zero `TxID`, no
statements. -/
def Storage.idle : Storage := ⟨none, ⟨0, 0, 0⟩, []⟩

/-- What one method call does: the error it returns (`none` for nil), the storage it leaves
and the calls it made on the database, in order. -/
structure Reply where
  err : Option StorageError
  next : Storage
  calls : List DbCall
  deriving DecidableEq

namespace Storage

/-- `s.Prepare(ctx, wb)`, where the database answers `BeginTx` with `beginTx`. -/
def prepare (s : Storage) (wb : WriteBatch) (beginTx : Except GoError Tx) : Reply :=
  match wb with
  | .other => ⟨some .unexpectedBatchType, s, []⟩
  | .execLog el =>
    match s.tx with
    | some _ =>
      if equalTxID s.id el.txID then ⟨none, { s with queries := el.queries }, []⟩
      else ⟨some (.inconsistentState s.id), s, []⟩
    | none =>
      match beginTx with
      | .error e => ⟨some (.db e), { s with tx := none }, []⟩
      | .ok tx => ⟨none, { s with tx := some tx, id := el.txID, queries := el.queries },
          [.beginTx tx]⟩

end Storage

/-- The loop of `Commit`: `for _, q := range queries` on the transaction `tx`, the `i`-th
`ExecContext` answered by `exec i`, stopping at the first error.  The calls made, and the error
that stopped the loop. -/
def execAll (tx : Tx) (exec : Nat → Option GoError) : Nat → List String →
    List DbCall × Option GoError
  | _, [] => ([], none)
  | i, q :: qs =>
    match exec i with
    | some e => ([.execContext tx q], some e)
    | none =>
      let r := execAll tx exec (i + 1) qs
      (.execContext tx q :: r.1, r.2)

namespace Storage

/-- `s.Commit(ctx, wb)`, where the database answers the `i`-th `ExecContext` with `exec i`. -/
def commit (s : Storage) (wb : WriteBatch) (exec : Nat → Option GoError) : Reply :=
  match wb with
  | .other => ⟨some .unexpectedBatchType, s, []⟩
  | .execLog el =>
    match s.tx with
    | some tx =>
      if equalTxID s.id el.txID then
        match execAll tx exec 0 s.queries with
        | (calls, none) => ⟨none, s, calls⟩
        | (calls, some e) =>
          ⟨some (.db e), { s with tx := none, queries := [] }, calls ++ [.rollback tx]⟩
      else ⟨some (.inconsistentState s.id), s, []⟩
    | none => ⟨some .txNotPrepared, s, []⟩

/-- `s.Rollback(ctx, wb)`. -/
def rollback (s : Storage) (wb : WriteBatch) : Reply :=
  match wb with
  | .other => ⟨some .unexpectedBatchType, s, []⟩
  | .execLog el =>
    if !equalTxID s.id el.txID then ⟨some (.inconsistentState s.id), s, []⟩
    else
      match s.tx with
      | some tx => ⟨none, { s with tx := none, queries := [] }, [.rollback tx]⟩
      | none => ⟨none, s, []⟩

end Storage

/-! ### The loop of `Commit` -/

/-- If no statement fails, the loop runs them all, in order. -/
theorem execAll_of_ok (tx : Tx) (exec : Nat → Option GoError) :
    ∀ (i : Nat) (qs : List String), (∀ j < qs.length, exec (i + j) = none) →
      execAll tx exec i qs = (qs.map (DbCall.execContext tx), none)
  | _, [], _ => rfl
  | i, q :: qs, h => by
    have h₀ : exec i = none := h 0 (by simp)
    have ih := execAll_of_ok tx exec (i + 1) qs fun j hj => by
      rw [Nat.add_right_comm]; exact h (j + 1) (by simp [hj])
    simp [execAll, h₀, ih]

/-- The loop runs the statements in order up to the first failing one, `qs[k]`, and stops
there with its error. -/
theorem execAll_of_fail (tx : Tx) (exec : Nat → Option GoError) (e : GoError) :
    ∀ (i k : Nat) (qs : List String), k < qs.length → exec (i + k) = some e →
      (∀ j < k, exec (i + j) = none) →
      execAll tx exec i qs = ((qs.take (k + 1)).map (DbCall.execContext tx), some e)
  | _, _, [], hk, _, _ => absurd hk (by simp)
  | i, 0, q :: qs, _, he, _ => by simp [execAll, show exec i = some e from he]
  | i, k + 1, q :: qs, hk, he, hpre => by
    have h₀ : exec i = none := hpre 0 (by omega)
    have ih := execAll_of_fail tx exec e (i + 1) k qs (by simpa using hk)
      (by rwa [show i + 1 + k = i + (k + 1) by omega])
      fun j hj => by rw [Nat.add_right_comm]; exact hpre (j + 1) (by omega)
    simp [execAll, h₀, ih]

/-- The loop runs a prefix of its statements, in order, on its transaction. -/
theorem execAll_fst_eq_take (tx : Tx) (exec : Nat → Option GoError) :
    ∀ (i : Nat) (qs : List String),
      ∃ m, (execAll tx exec i qs).1 = (qs.take m).map (DbCall.execContext tx)
  | _, [] => ⟨0, rfl⟩
  | i, q :: qs => by
    simp only [execAll]
    split
    · exact ⟨1, by simp⟩
    · obtain ⟨m, hm⟩ := execAll_fst_eq_take tx exec (i + 1) qs
      exact ⟨m + 1, by simp [hm]⟩

namespace Storage

/-! ### What each method can do -/

/-- Everything a `Prepare` can do: fail and change nothing, replace the statements of the open
transaction of the same `TxID`, or begin a transaction and record the batch. -/
theorem prepare_cases (s : Storage) (wb : WriteBatch) (b : Except GoError Tx) :
    ((s.prepare wb b).next = s ∧ (s.prepare wb b).calls = []) ∨
    (∃ el, wb = .execLog el ∧ s.tx.isSome ∧ el.txID = s.id ∧
      (s.prepare wb b).next = { s with queries := el.queries } ∧ (s.prepare wb b).calls = []) ∨
    (∃ el tx, wb = .execLog el ∧ s.tx = none ∧ b = .ok tx ∧
      (s.prepare wb b).next = ⟨some tx, el.txID, el.queries⟩ ∧
      (s.prepare wb b).calls = [.beginTx tx]) := by
  rcases wb with el | _
  · rcases hs : s.tx with _ | tx
    · rcases b with d | tx
      · exact .inl ⟨by simp [prepare, hs, with_tx_none hs], by simp [prepare, hs]⟩
      · exact .inr (.inr ⟨el, tx, rfl, rfl, rfl, by simp [prepare, hs], by simp [prepare, hs]⟩)
    · by_cases hid : s.id = el.txID
      · exact .inr (.inl ⟨el, rfl, by simp [hs], hid.symm, by simp [prepare, hs, hid],
          by simp [prepare, hs, hid]⟩)
      · exact .inl ⟨by simp [prepare, hs, hid], by simp [prepare, hs, hid]⟩
  · exact .inl ⟨rfl, rfl⟩

/-- Everything a `Commit` can do: fail and change nothing, or, on the open transaction of the
same `TxID`, run a prefix of the recorded statements and then either stop, leaving the storage
as it was, or roll back and clear the transaction. -/
theorem commit_cases (s : Storage) (wb : WriteBatch) (exec : Nat → Option GoError) :
    ((s.commit wb exec).next = s ∧ (s.commit wb exec).calls = []) ∨
    ∃ el tx m, wb = .execLog el ∧ s.tx = some tx ∧ el.txID = s.id ∧
      (((s.commit wb exec).next = s ∧
          (s.commit wb exec).calls = (s.queries.take m).map (.execContext tx)) ∨
        ((s.commit wb exec).next = { s with tx := none, queries := [] } ∧
          (s.commit wb exec).calls = (s.queries.take m).map (.execContext tx) ++ [.rollback tx])) := by
  rcases wb with el | _
  · rcases hs : s.tx with _ | tx
    · exact .inl ⟨by simp [commit, hs], by simp [commit, hs]⟩
    · by_cases hid : s.id = el.txID
      · obtain ⟨m, hm⟩ := execAll_fst_eq_take tx exec 0 s.queries
        refine .inr ⟨el, tx, m, rfl, rfl, hid.symm, ?_⟩
        rcases hr : execAll tx exec 0 s.queries with ⟨calls, _ | d⟩
        · have hc : calls = (s.queries.take m).map (.execContext tx) := by rw [hr] at hm; exact hm
          exact .inl (by simp [commit, hs, hid, hr, hc])
        · have hc : calls = (s.queries.take m).map (.execContext tx) := by rw [hr] at hm; exact hm
          exact .inr (by simp [commit, hs, hid, hr, hc])
      · exact .inl ⟨by simp [commit, hs, hid], by simp [commit, hs, hid]⟩
  · exact .inl ⟨rfl, rfl⟩

/-- Everything a `Rollback` can do: change nothing, or roll back the open transaction of the
same `TxID` and clear it. -/
theorem rollback_cases (s : Storage) (wb : WriteBatch) :
    ((s.rollback wb).next = s ∧ (s.rollback wb).calls = []) ∨
    ∃ el tx, wb = .execLog el ∧ s.tx = some tx ∧ el.txID = s.id ∧
      (s.rollback wb).next = { s with tx := none, queries := [] } ∧
      (s.rollback wb).calls = [.rollback tx] := by
  rcases wb with el | _
  · by_cases hid : s.id = el.txID
    · rcases hs : s.tx with _ | tx
      · exact .inl ⟨by simp [rollback, hs, hid], by simp [rollback, hs, hid]⟩
      · exact .inr ⟨el, tx, rfl, rfl, hid.symm, by simp [rollback, hs, hid],
          by simp [rollback, hs, hid]⟩
    · exact .inl ⟨by simp [rollback, hid], by simp [rollback, hid]⟩
  · exact .inl ⟨rfl, rfl⟩

/-! ### Error returns -/

/-- Every error of `Prepare` leaves the storage as it was and makes no call. -/
theorem prepare_err {s : Storage} {wb : WriteBatch} {b : Except GoError Tx} {e : StorageError}
    (h : (s.prepare wb b).err = some e) : (s.prepare wb b).next = s ∧ (s.prepare wb b).calls = [] := by
  rcases wb with el | _
  · rcases hs : s.tx with _ | tx
    · rcases b with d | tx <;> simp_all [prepare, Storage.with_tx_none]
    · by_cases hid : s.id = el.txID <;> simp_all [prepare]
  · exact ⟨rfl, rfl⟩

/-- An error of `Commit` that is not a database error leaves the storage as it was and makes no
call. -/
theorem commit_err {s : Storage} {wb : WriteBatch} {exec : Nat → Option GoError}
    {e : StorageError} (h : (s.commit wb exec).err = some e) (he : ∀ d, e ≠ .db d) :
    (s.commit wb exec).next = s ∧ (s.commit wb exec).calls = [] := by
  rcases wb with el | _
  · rcases hs : s.tx with _ | tx
    · simp_all [commit]
    · by_cases hid : s.id = el.txID
      · rcases hr : execAll tx exec 0 s.queries with ⟨calls, _ | d⟩
        · simp_all [commit]
        · simp only [commit, hs, hid, equalTxID_eq_true, if_true, hr, Option.some.injEq] at h
          exact absurd h.symm (he d)
      · simp_all [commit]
  · exact ⟨rfl, rfl⟩

/-- A database error of `Commit` is the error of one of its statements. -/
theorem commit_err_db {s : Storage} {wb : WriteBatch} {exec : Nat → Option GoError} {d : GoError}
    (h : (s.commit wb exec).err = some (.db d)) :
    ∃ tx calls, s.tx = some tx ∧ execAll tx exec 0 s.queries = (calls, some d) := by
  rcases wb with el | _
  · rcases hs : s.tx with _ | tx
    · simp_all [commit]
    · by_cases hid : s.id = el.txID
      · rcases hr : execAll tx exec 0 s.queries with ⟨calls, _ | d'⟩
        · simp_all [commit]
        · simp_all [commit]
      · simp_all [commit]
  · simp [commit] at h

/-- Every error of `Rollback` leaves the storage as it was and makes no call. -/
theorem rollback_err {s : Storage} {wb : WriteBatch} {e : StorageError}
    (h : (s.rollback wb).err = some e) : (s.rollback wb).next = s ∧ (s.rollback wb).calls = [] := by
  rcases wb with el | _
  · by_cases hid : s.id = el.txID
    · rcases hs : s.tx with _ | tx <;> simp_all [rollback]
    · simp_all [rollback]
  · exact ⟨rfl, rfl⟩

/-- **An error other than a failed statement of `Commit` changes nothing.**  From every
storage and for every batch and every answer of the database, when `Prepare`, `Commit` or
`Rollback` returns an error — the batch is not an `*ExecLog`, its `TxID` is not the recorded
one, `Commit` finds no transaction, or `BeginTx` fails — the fields `tx`, `id` and `queries`
are left as they were and no call reaches the database.  (`Commit`'s database errors are the
errors of its statements, `ThunderDB.Sqlite.Storage.commit_err_db`.) -/
theorem error_leaves_storage (s : Storage) (wb : WriteBatch) (beginTx : Except GoError Tx)
    (exec : Nat → Option GoError) :
    (∀ e, (s.prepare wb beginTx).err = some e →
      (s.prepare wb beginTx).next = s ∧ (s.prepare wb beginTx).calls = []) ∧
    (∀ e, (s.commit wb exec).err = some e → (∀ d, e ≠ .db d) →
      (s.commit wb exec).next = s ∧ (s.commit wb exec).calls = []) ∧
    (∀ e, (s.rollback wb).err = some e →
      (s.rollback wb).next = s ∧ (s.rollback wb).calls = []) :=
  ⟨fun _ h => prepare_err h, fun _ h he => commit_err h he, fun _ h => rollback_err h⟩

/-! ### `Commit` on the open transaction -/

/-- **`Commit` runs the recorded statements in order up to the first failure.**  On the open
transaction `tx` and with the recorded `TxID`: if every statement succeeds, `Commit` runs them
all and returns nil, leaving the storage as it was; if `qs[k]` is the first to fail, it runs
`qs[0..k]`, rolls `tx` back, clears `tx` and `queries`, and returns the error of `qs[k]`. -/
theorem commit_runs_until_first_failure {s : Storage} {tx : Tx} (hs : s.tx = some tx) {el : ExecLog}
    (hid : el.txID = s.id) (exec : Nat → Option GoError) :
    ((∀ j < s.queries.length, exec j = none) →
      s.commit (.execLog el) exec = ⟨none, s, s.queries.map (.execContext tx)⟩) ∧
    (∀ k e, k < s.queries.length → exec k = some e → (∀ j < k, exec j = none) →
      s.commit (.execLog el) exec = ⟨some (.db e), { s with tx := none, queries := [] },
        (s.queries.take (k + 1)).map (.execContext tx) ++ [.rollback tx]⟩) := by
  refine ⟨fun hok => ?_, fun k e hk he hpre => ?_⟩
  · have := execAll_of_ok tx exec 0 s.queries (by simpa using hok)
    simp [commit, hs, hid, this]
  · have := execAll_of_fail tx exec e 0 k s.queries hk (by simpa using he) (by simpa using hpre)
    simp [commit, hs, hid, this]

/-- Three recorded statements of which the second fails: `Commit` runs the first two, then
rolls back. -/
theorem commit_stops_at_second_statement :
    let s : Storage := ⟨some ⟨0⟩, ⟨1, 1, 1⟩, ["a", "b", "c"]⟩
    let exec : Nat → Option GoError := fun i => if i = 1 then some ⟨"busy"⟩ else none
    s.tx = some ⟨0⟩ ∧ (⟨1, 1, 1, []⟩ : ExecLog).txID = s.id ∧
      s.commit (.execLog ⟨1, 1, 1, []⟩) exec = ⟨some (.db ⟨"busy"⟩), ⟨none, ⟨1, 1, 1⟩, []⟩,
        [.execContext ⟨0⟩ "a", .execContext ⟨0⟩ "b", .rollback ⟨0⟩]⟩ :=
  ⟨rfl, rfl, (commit_runs_until_first_failure rfl rfl _).2 1 ⟨"busy"⟩ (by decide) rfl (by decide)⟩

/-- A successful `Commit` leaves the transaction open: after `Prepare` and `Commit` of one
`ExecLog`, `Commit` has returned nil, but the transaction it ran the statement in is still the
recorded one, with its statement.  A following `Rollback` of the same batch rolls that
transaction back, a second `Commit` runs the statement again, and a `Prepare` of another
`TxID` fails with the inconsistent-state error. -/
theorem commit_leaves_tx_open :
    let e : ExecLog := ⟨1, 1, 1, ["INSERT INTO t VALUES (1)"]⟩
    let s := (Storage.idle.prepare (.execLog e) (.ok ⟨0⟩)).next
    let r := s.commit (.execLog e) (fun _ => none)
    r.err = none ∧ r.calls = [.execContext ⟨0⟩ "INSERT INTO t VALUES (1)"] ∧
      r.next.tx = some ⟨0⟩ ∧ r.next.queries = e.queries ∧
      (r.next.rollback (.execLog e)).calls = [.rollback ⟨0⟩] ∧
      (r.next.commit (.execLog e) (fun _ => none)).calls =
        [.execContext ⟨0⟩ "INSERT INTO t VALUES (1)"] ∧
      (r.next.prepare (.execLog ⟨1, 2, 2, []⟩) (.ok ⟨1⟩)).err = some (.inconsistentState e.txID) :=
  ⟨rfl, rfl, rfl, rfl, rfl, rfl, rfl⟩

/-! ### Re-presenting a `TxID` -/

/-- A `Prepare` that succeeds leaves a transaction open under the batch's `TxID`, with the
batch's statements. -/
theorem prepare_ok {s : Storage} {el : ExecLog} {b : Except GoError Tx}
    (h : (s.prepare (.execLog el) b).err = none) :
    ∃ tx, (s.prepare (.execLog el) b).next = ⟨some tx, el.txID, el.queries⟩ := by
  rcases hs : s.tx with _ | tx
  · rcases b with d | tx
    · simp [prepare, hs] at h
    · exact ⟨tx, by simp [prepare, hs]⟩
  · by_cases hid : s.id = el.txID
    · refine ⟨tx, ?_⟩
      cases s
      simp_all [prepare]
    · simp [prepare, hs, hid] at h

/-- `Prepare` of the open transaction's own `TxID` only replaces its statements. -/
theorem prepare_open {s : Storage} {tx : Tx} (hs : s.tx = some tx) {el : ExecLog}
    (hid : s.id = el.txID) (b : Except GoError Tx) :
    s.prepare (.execLog el) b = ⟨none, { s with queries := el.queries }, []⟩ := by
  simp [prepare, hs, hid]

/-- A `Rollback` that succeeds leaves no transaction open, and the batch's `TxID` recorded. -/
theorem rollback_ok {s : Storage} {el : ExecLog} (h : (s.rollback (.execLog el)).err = none) :
    (s.rollback (.execLog el)).next.tx = none ∧ (s.rollback (.execLog el)).next.id = el.txID := by
  by_cases hid : s.id = el.txID
  · rcases hs : s.tx with _ | tx <;> simp [rollback, hs, hid]
  · simp [rollback, hid] at h

/-- `Rollback` of the recorded `TxID` with no transaction open changes nothing and touches no
transaction. -/
theorem rollback_closed {s : Storage} (hs : s.tx = none) {el : ExecLog} (hid : s.id = el.txID) :
    s.rollback (.execLog el) = ⟨none, s, []⟩ := by
  simp [rollback, hs, hid]

/-- **Re-presenting a `TxID` is idempotent.**  From every storage and for every `ExecLog`: if
`Prepare` succeeds, a second `Prepare` of the batch succeeds, whatever `BeginTx` would answer,
with no call on the database (so no new transaction) and the storage the first one left; if
`Rollback` succeeds, a second `Rollback` of the batch succeeds with no call on the database and
changes nothing. -/
theorem prepare_rollback_idempotent (s : Storage) (el : ExecLog) (b : Except GoError Tx) :
    ((s.prepare (.execLog el) b).err = none → ∀ b',
      (s.prepare (.execLog el) b).next.prepare (.execLog el) b' =
        ⟨none, (s.prepare (.execLog el) b).next, []⟩) ∧
    ((s.rollback (.execLog el)).err = none →
      (s.rollback (.execLog el)).next.rollback (.execLog el) =
        ⟨none, (s.rollback (.execLog el)).next, []⟩) := by
  refine ⟨fun h b' => ?_, fun h => rollback_closed (rollback_ok h).1 (rollback_ok h).2⟩
  obtain ⟨tx, hn⟩ := prepare_ok h
  rw [hn]
  exact prepare_open rfl rfl b'

/-- From a fresh storage: `Prepare` begins a transaction and a second `Prepare` of the batch
begins none; `Rollback` then rolls it back, and a second `Rollback` touches nothing. -/
theorem prepare_rollback_idempotent_fresh :
    let e : ExecLog := ⟨1, 1, 1, ["INSERT INTO t VALUES (1)"]⟩
    let s := (Storage.idle.prepare (.execLog e) (.ok ⟨0⟩)).next
    (Storage.idle.prepare (.execLog e) (.ok ⟨0⟩)).err = none ∧
      s.prepare (.execLog e) (.ok ⟨1⟩) = ⟨none, s, []⟩ ∧
      (s.rollback (.execLog e)).err = none ∧
      (s.rollback (.execLog e)).next.rollback (.execLog e) =
        ⟨none, (s.rollback (.execLog e)).next, []⟩ := by
  intro e s
  exact ⟨rfl, (prepare_rollback_idempotent Storage.idle e (.ok ⟨0⟩)).1 rfl _, rfl,
    (prepare_rollback_idempotent s e (.ok ⟨0⟩)).2 rfl⟩

/-! ### A held transaction -/

/-- A `Commit` that succeeds found the open transaction of its batch's `TxID`, and leaves the
storage as it was. -/
theorem commit_ok {s : Storage} {wb : WriteBatch} {exec : Nat → Option GoError}
    (h : (s.commit wb exec).err = none) :
    ∃ el, wb = .execLog el ∧ s.tx.isSome ∧ el.txID = s.id ∧ (s.commit wb exec).next = s := by
  rcases wb with el | _
  · rcases hs : s.tx with _ | tx
    · simp [commit, hs] at h
    · by_cases hid : s.id = el.txID
      · rcases hr : execAll tx exec 0 s.queries with ⟨calls, _ | d⟩
        · exact ⟨el, rfl, rfl, hid.symm, by simp [commit, hs, hid, hr]⟩
        · simp [commit, hs, hid, hr] at h
      · simp [commit, hs, hid] at h
  · simp [commit] at h

/-- While a transaction is open, `Prepare`, `Commit` and `Rollback` of another `TxID` fail with
the inconsistent-state error naming the open transaction's `TxID`, change nothing and make no
call on the database. -/
theorem held_other_txID {s : Storage} (hs : s.tx.isSome) {el : ExecLog} (hid : el.txID ≠ s.id)
    (b : Except GoError Tx) (exec : Nat → Option GoError) :
    s.prepare (.execLog el) b = ⟨some (.inconsistentState s.id), s, []⟩ ∧
      s.commit (.execLog el) exec = ⟨some (.inconsistentState s.id), s, []⟩ ∧
      s.rollback (.execLog el) = ⟨some (.inconsistentState s.id), s, []⟩ := by
  obtain ⟨tx, hs⟩ := Option.isSome_iff_exists.1 hs
  have hne : equalTxID s.id el.txID = false := equalTxID_eq_false.2 (Ne.symm hid)
  simp [prepare, commit, rollback, hs, hne]

end Storage

end ThunderDB.Sqlite
