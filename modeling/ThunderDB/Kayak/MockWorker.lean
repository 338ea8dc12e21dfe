/-
**The mock two-phase-commit worker of the Kayak tests.**

`MockTwoPCWorker` takes `int64` write batches.  `Prepare` records the batch when the worker is
idle (its `state` empty); `Commit` adds the recorded batch to `total`, and `Rollback` drops it,
when the worker is prepared and is given the recorded batch again.  `Commit` and `Rollback`
make the same two checks with the same messages: `Rollback` reports a batch that is not the
recorded one with the text of `Commit`, "commit data not same as last".

Over every sequence of calls the worker is idle or prepared, and `total` is the `int64` sum of
the batches of the commits that succeeded.

Main definitions:

* `ThunderDB.Kayak.MockTwoPCWorker` — the worker's fields `state`, `data` and `total`;
* `ThunderDB.Kayak.MockTwoPCWorker.prepare`, `ThunderDB.Kayak.MockTwoPCWorker.commit`,
  `ThunderDB.Kayak.MockTwoPCWorker.rollback` — its methods, the last two through
  `ThunderDB.Kayak.MockTwoPCWorker.finish`;
* `ThunderDB.Kayak.runWorker` — a sequence of calls.

Main results:

* `ThunderDB.Kayak.MockTwoPCWorker.finish_of_ok` — what a `Commit` or `Rollback` that
  succeeds was given, and `ThunderDB.Kayak.WorkerCall.apply_of_error` — a call that fails
  changes nothing;
* `ThunderDB.Kayak.runWorker_total` — **`total` is the sum of the committed batches**, and the
  worker stays idle or prepared;
* `ThunderDB.Kayak.runWorker_balance` — **every prepared batch is ended once**, by one
  successful `Commit` or `Rollback`.
-/

import ThunderDB.Go
import Mathlib.Algebra.Ring.Int.Defs

set_option autoImplicit false

namespace ThunderDB.Kayak

/-- A `twopc.WriteBatch` given to the worker: an `int64`, or a value of another type. -/
inductive MockBatch
  | int64 (v : Int64)
  | other
  deriving DecidableEq

/-- The fields of `MockTwoPCWorker` its methods read and write. -/
structure MockTwoPCWorker where
  state : String
  data : Int64
  total : Int64
  deriving DecidableEq

namespace MockTwoPCWorker

/-- A new worker: idle, nothing recorded or added. -/
def init : MockTwoPCWorker := ⟨"", 0, 0⟩

/-- `Prepare`. -/
def prepare (w : MockTwoPCWorker) (wb : MockBatch) : Option GoError × MockTwoPCWorker :=
  if w.state ≠ "" then (some ⟨"invalid state"⟩, w)
  else
    match wb with
    | .int64 v => (none, { w with state := "prepared", data := v })
    | .other => (some ⟨"invalid data"⟩, w)

/-- The shape of `Commit` and `Rollback`: the worker must be prepared, and `wb` must be the
recorded batch (`reflect.DeepEqual(wb, w.data)`); then `effect` ends the transaction. -/
def finish (effect : MockTwoPCWorker → MockTwoPCWorker) (w : MockTwoPCWorker) (wb : MockBatch) :
    Option GoError × MockTwoPCWorker :=
  if w.state ≠ "prepared" then (some ⟨"invalid state"⟩, w)
  else if wb ≠ .int64 w.data then (some ⟨"commit data not same as last"⟩, w)
  else (none, effect w)

/-- `Commit`: `w.total += w.data`, and idle again. -/
def commit : MockTwoPCWorker → MockBatch → Option GoError × MockTwoPCWorker :=
  finish fun w => { w with total := w.total + w.data, state := "" }

/-- `Rollback`: `w.data = 0`, and idle again. -/
def rollback : MockTwoPCWorker → MockBatch → Option GoError × MockTwoPCWorker :=
  finish fun w => { w with data := 0, state := "" }

/-- A `Prepare` that fails leaves the worker as it was. -/
theorem prepare_of_error {w : MockTwoPCWorker} {wb : MockBatch} {e : GoError}
    (h : (w.prepare wb).1 = some e) : (w.prepare wb).2 = w := by
  unfold prepare at h ⊢
  split_ifs at h ⊢
  · rfl
  · cases wb
    · cases h
    · rfl

/-- A `Prepare` that succeeds was given an `int64` on an idle worker, and records it. -/
theorem prepare_of_ok {w : MockTwoPCWorker} {wb : MockBatch} (h : (w.prepare wb).1 = none) :
    ∃ v, wb = .int64 v ∧ w.state = "" ∧
      (w.prepare wb).2 = { w with state := "prepared", data := v } := by
  unfold prepare at h ⊢
  split_ifs at h ⊢ with hs
  cases wb
  · exact ⟨_, rfl, not_not.1 hs, rfl⟩
  · cases h

/-- A `Commit` or `Rollback` that fails leaves the worker as it was. -/
theorem finish_of_error {effect : MockTwoPCWorker → MockTwoPCWorker} {w : MockTwoPCWorker}
    {wb : MockBatch} {e : GoError} (h : (finish effect w wb).1 = some e) :
    (finish effect w wb).2 = w := by
  unfold finish at h ⊢
  split_ifs at h ⊢
  · rfl
  · rfl

/-- A `Commit` or `Rollback` that succeeds was given the recorded batch on a prepared worker. -/
theorem finish_of_ok {effect : MockTwoPCWorker → MockTwoPCWorker} {w : MockTwoPCWorker}
    {wb : MockBatch} (h : (finish effect w wb).1 = none) :
    w.state = "prepared" ∧ wb = .int64 w.data ∧ (finish effect w wb).2 = effect w := by
  unfold finish at h ⊢
  split_ifs at h ⊢ with hs hd
  exact ⟨not_not.1 hs, not_not.1 hd, rfl⟩

end MockTwoPCWorker

/-! ### Runs -/

/-- A call of one of the worker's methods. -/
inductive WorkerCall
  | prepare (wb : MockBatch)
  | commit (wb : MockBatch)
  | rollback (wb : MockBatch)

/-- The method a call runs. -/
def WorkerCall.apply : WorkerCall → MockTwoPCWorker → Option GoError × MockTwoPCWorker
  | .prepare wb, w => w.prepare wb
  | .commit wb, w => w.commit wb
  | .rollback wb, w => w.rollback wb

/-- What a call adds to `total` when it returns `res`: its batch, for a commit that succeeded. -/
def WorkerCall.added : WorkerCall → Option GoError → Int
  | .commit (.int64 v), none => v.val
  | _, _ => 0

/-- The calls in order, with their results and the worker they leave. -/
def runWorker : MockTwoPCWorker → List WorkerCall → List (Option GoError) × MockTwoPCWorker
  | w, [] => ([], w)
  | w, c :: cs =>
    ((c.apply w).1 :: (runWorker (c.apply w).2 cs).1, (runWorker (c.apply w).2 cs).2)

/-- The worker is idle or prepared. -/
def MockTwoPCWorker.Settled (w : MockTwoPCWorker) : Prop := w.state = "" ∨ w.state = "prepared"

/-- A call that fails leaves the worker as it was. -/
theorem WorkerCall.apply_of_error {c : WorkerCall} {w : MockTwoPCWorker} {e : GoError}
    (h : (c.apply w).1 = some e) : (c.apply w).2 = w := by
  cases c with
  | prepare wb => exact MockTwoPCWorker.prepare_of_error h
  | commit wb => exact MockTwoPCWorker.finish_of_error h
  | rollback wb => exact MockTwoPCWorker.finish_of_error h

/-- A call that fails adds nothing. -/
@[simp]
theorem WorkerCall.added_some (c : WorkerCall) (e : GoError) : c.added (some e) = 0 := by
  rcases c with _ | (_ | _) | _ <;> rfl

/-- One call adds to `total` what `WorkerCall.added` says, and keeps the worker idle or
prepared. -/
theorem WorkerCall.apply_total (c : WorkerCall) {w : MockTwoPCWorker} (hw : w.Settled) :
    (c.apply w).2.total = Int64.ofInt (w.total.val + c.added (c.apply w).1) ∧
      (c.apply w).2.Settled := by
  cases hr : (c.apply w).1 with
  | some e => simp [apply_of_error hr, hw]
  | none =>
    cases c with
    | prepare wb =>
      obtain ⟨v, -, -, he⟩ := MockTwoPCWorker.prepare_of_ok hr
      simp [apply, he, added, MockTwoPCWorker.Settled]
    | commit wb =>
      obtain ⟨-, rfl, he⟩ := MockTwoPCWorker.finish_of_ok hr
      simp only [apply, MockTwoPCWorker.commit, he]
      simp [added, Int64.add_def, MockTwoPCWorker.Settled]
    | rollback wb =>
      obtain ⟨-, -, he⟩ := MockTwoPCWorker.finish_of_ok hr
      simp [apply, MockTwoPCWorker.rollback, he, added, MockTwoPCWorker.Settled]

/-- **`total` is the `int64` sum of the batches of the commits that succeeded**, and the worker
stays idle or prepared, over every sequence of calls from an idle or prepared worker. -/
theorem runWorker_total (cs : List WorkerCall) :
    ∀ {w : MockTwoPCWorker}, w.Settled →
      (runWorker w cs).2.total = Int64.ofInt (w.total.val +
          ((cs.zip (runWorker w cs).1).map fun p => p.1.added p.2).sum) ∧
        (runWorker w cs).2.Settled := by
  induction cs with
  | nil => exact fun hw => ⟨by simp [runWorker], hw⟩
  | cons c cs ih =>
    intro w hw
    obtain ⟨htot, hset⟩ := c.apply_total hw
    obtain ⟨ih₁, ih₂⟩ := ih hset
    refine ⟨?_, ih₂⟩
    simp only [runWorker, List.zip_cons_cons, List.map_cons, List.sum_cons]
    rw [ih₁, htot, Int64.ofInt_val_add, Int.add_assoc]

/-- A batch committed, then one prepared, rolled back and committed again: the worker ends idle
or prepared with the sum of what the calls added. -/
theorem runWorker_total_commit_rollback :
    let cs : List WorkerCall := [.prepare (.int64 5), .commit (.int64 5), .prepare (.int64 7),
      .rollback (.int64 7), .commit (.int64 7)]
    MockTwoPCWorker.init.Settled ∧
      (runWorker .init cs).2.total = Int64.ofInt (MockTwoPCWorker.init.total.val +
          ((cs.zip (runWorker .init cs).1).map fun p => p.1.added p.2).sum) ∧
        (runWorker .init cs).2.Settled :=
  ⟨.inl rfl, runWorker_total _ (.inl rfl)⟩

/-! ### Each prepared batch is ended once -/

/-- Whether a call that returned `res` began a transaction: a `Prepare` that succeeded. -/
def WorkerCall.began : WorkerCall → Option GoError → Bool
  | .prepare _, none => true
  | _, _ => false

/-- Whether a call that returned `res` ended one: a `Commit` or a `Rollback` that succeeded. -/
def WorkerCall.ended : WorkerCall → Option GoError → Bool
  | .commit _, none => true
  | .rollback _, none => true
  | _, _ => false

/-- Whether the worker holds a prepared batch. -/
def MockTwoPCWorker.pending (w : MockTwoPCWorker) : Nat := if w.state = "prepared" then 1 else 0

/-- One call begins a transaction only on an idle worker and ends one only on a prepared
worker. -/
theorem WorkerCall.apply_balance (c : WorkerCall) (w : MockTwoPCWorker) :
    (if c.began (c.apply w).1 then 1 else 0) + w.pending =
      (if c.ended (c.apply w).1 then 1 else 0) + (c.apply w).2.pending := by
  cases hr : (c.apply w).1 with
  | some e => rcases c with _ | _ | _ <;> simp [began, ended, apply_of_error hr]
  | none =>
    cases c with
    | prepare wb =>
      obtain ⟨v, -, hs, he⟩ := MockTwoPCWorker.prepare_of_ok hr
      simp [began, ended, apply, he, hs, MockTwoPCWorker.pending]
    | commit wb =>
      obtain ⟨hs, -, he⟩ := MockTwoPCWorker.finish_of_ok hr
      simp [began, ended, apply, MockTwoPCWorker.commit, he, hs, MockTwoPCWorker.pending]
    | rollback wb =>
      obtain ⟨hs, -, he⟩ := MockTwoPCWorker.finish_of_ok hr
      simp [began, ended, apply, MockTwoPCWorker.rollback, he, hs, MockTwoPCWorker.pending]

/-- **Every prepared batch is ended once.**  Over every sequence of calls from any worker, the
successful `Prepare`s, with the batch the worker held at the start, are as many as the
successful `Commit`s and `Rollback`s, with the batch it holds at the end: no batch is committed
or rolled back twice, and none is prepared over another. -/
theorem runWorker_balance (cs : List WorkerCall) (w : MockTwoPCWorker) :
    (cs.zip (runWorker w cs).1).countP (fun p => p.1.began p.2) + w.pending =
      (cs.zip (runWorker w cs).1).countP (fun p => p.1.ended p.2) + (runWorker w cs).2.pending := by
  induction cs generalizing w with
  | nil => simp [runWorker]
  | cons c cs ih =>
    have hc := c.apply_balance w
    have ih := ih (c.apply w).2
    simp only [runWorker, List.zip_cons_cons, List.countP_cons] at ih ⊢
    omega

/-- A rolled-back batch is not added, and it cannot be committed afterwards. -/
example : (runWorker MockTwoPCWorker.init
    [.prepare (.int64 5), .commit (.int64 5), .prepare (.int64 7), .rollback (.int64 7),
      .commit (.int64 7)]).2.total = 5 := by decide

end ThunderDB.Kayak
