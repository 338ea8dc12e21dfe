/-
**The mock transport of the Kayak tests.**

`kayak/mock_kayak_test.go` connects the nodes of a test through a `MockTransportRouter`.
`Request` draws a request ID from the router's counter `reqSeq` (an atomic `uint64`
increment), puts the request on the target's `queue`, and then waits in a loop: when its
context is done it marks its ID in the target's `giveUp` map and returns the context's error;
when it takes a response from the target's shared `waitQueue`, it returns it if the ID is its
own, and otherwise puts it back, or drops it if that ID is marked in `giveUp` (removing the
mark).  A handler takes requests from `Process()` and answers one with `SendResponse`, which puts
a response with the request's ID on the same `waitQueue`.

Each call of `Request` is here a process of atomic steps over the state the calls share, and
calls, handlers and context cancellations interleave in any order.  Both channels of a transport
are made with a buffer of 1000 (`make(chan Request, 1000)`, `make(chan *MockResponse, 1000)`):
they are FIFO lists, and a send on a full one is not enabled.  Go hands the slot a receive frees
to a sender blocked on that channel in the same operation; here any enabled step may come
between, so each run of the test program is a run of the model (the blocked send taken right
after the receive), and what holds over every run of the model holds of the program.  The map
`giveUp` is read and written by the loops of `sendRequest` without a lock (a data race in the
source); each access is here one atomic step.  Every transport exists from the start
(`getTransport` creates one on first use; `ResetTransport` is not modelled).  A context is named by the call it belongs to; calls that share a context in Go are
calls whose contexts are cancelled together, which this model allows.  Ghost data follow what
the Go values do not carry: the number of the `getReqID` call that named a request, the call a
response answers, how many IDs were drawn, the responses dropped as given up, and the request,
payload and error of every `SendResponse` call.

Main definitions:

* `ThunderDB.Kayak.MockRequest`, `ThunderDB.Kayak.MockResponse`,
  `ThunderDB.Kayak.MockTransport` — the values on the channels, and a transport;
* `ThunderDB.Kayak.CallPc`, `ThunderDB.Kayak.Mock` — where a call of `Request` stands, and the
  shared state;
* `ThunderDB.Kayak.Mock.step`, `ThunderDB.Kayak.runMock`, `ThunderDB.Kayak.Reachable` — the
  atomic steps, schedules, and the states they reach;
* `ThunderDB.Kayak.Mock.Inv` — what holds in every reachable state, however many IDs were drawn.

Main results:

* `ThunderDB.Kayak.Mock.step_grows`, `ThunderDB.Kayak.Mock.step_returnedMono` — a call's
  request never changes, no `SendResponse` call is forgotten, and a returned call stays
  returned;
* `ThunderDB.Kayak.Reachable.inv` — **every reachable state satisfies the invariant**: each
  request on a queue or with a handler is its caller's, each response in flight or returned
  carries the ID of the call it answers and what its `SendResponse` was given, and each mark in `giveUp` was left by a call that gave up.
-/

import ThunderDB.Go
import Mathlib.Logic.Function.Basic

set_option autoImplicit false

namespace ThunderDB.Kayak

/-! ### Requests, responses and transports -/

/-- `proto.NodeID`. -/
structure NodeID where
  id : String
  deriving DecidableEq

/-- A `*MockRequest`.  `transport` is the transport it was sent through (the target's, set by
`sendRequest`), `ctx` the call whose context it carries, and `issue` (ghost) the number of the
`getReqID` call that named it. -/
structure MockRequest where
  transport : NodeID
  ctx : Nat
  requestID : UInt64
  nodeID : NodeID
  method : String
  payload : Option String
  issue : Nat
  deriving DecidableEq

/-- A `*MockResponse`; `answers` (ghost) is the call whose request `SendResponse` answered. -/
structure MockResponse where
  responseID : UInt64
  payload : Option String
  error : Option GoError
  answers : Nat
  deriving DecidableEq

/-- The channels `queue` and `waitQueue` and the map `giveUp` of a `*MockTransport` (an absent
key reads `false`). -/
structure MockTransport where
  queue : List MockRequest
  waitQueue : List MockResponse
  giveUp : UInt64 → Bool

/-- The buffer of both channels, as `getTransport` makes them. -/
def MockTransport.capacity : Nat := 1000

/-- How a call of `Request` returned. -/
inductive Outcome
  /-- `return res.Payload, res.Error`. -/
  | response (res : MockResponse)
  /-- `return nil, r.ctx.Err()`. -/
  | cancelled (e : GoError)
  deriving DecidableEq

/-- What a call of `Request` returns. -/
def Outcome.result : Outcome → Option String × Option GoError
  | .response res => (res.payload, res.error)
  | .cancelled e => (none, some e)

/-- Where one call of `Request` stands. -/
inductive CallPc
  /-- Not called yet. -/
  | start
  /-- `getReqID` returned; `m.queue <- r` comes next. -/
  | sending (r : MockRequest)
  /-- In the `for`/`select` loop. -/
  | waiting (r : MockRequest)
  /-- Took `res`, not its own, from `waitQueue`; reads `giveUp` next. -/
  | pulled (r : MockRequest) (res : MockResponse)
  /-- `res` is not given up; `m.waitQueue <- res` comes next. -/
  | putting (r : MockRequest) (res : MockResponse)
  /-- Returned. -/
  | returned (r : MockRequest) (out : Outcome)
  deriving DecidableEq

/-- The request of a call that has drawn its ID. -/
def CallPc.req? : CallPc → Option MockRequest
  | .start => none
  | .sending r | .waiting r | .pulled r _ | .putting r _ | .returned r _ => some r

/-! ### The shared state and its steps -/

/-- What the calls and handlers share: the router's `reqSeq` and transports, where each call
stands, the cause each context was cancelled with, and the requests handlers took from
`Process()` and have not answered; `issued`, `discarded` and `replied` (ghost) count the IDs
drawn, list the responses dropped as given up, and list the request, payload and error of each
`SendResponse` call. -/
structure Mock where
  reqSeq : UInt64
  transports : NodeID → MockTransport
  pc : Nat → CallPc
  cause : Nat → Option GoError
  received : List MockRequest
  issued : Nat
  discarded : List MockResponse
  replied : List (MockRequest × Option String × Option GoError)

/-- A fresh router: no ID drawn, every transport empty, no call started. -/
def Mock.init : Mock :=
  ⟨0, fun _ => ⟨[], [], fun _ => false⟩, fun _ => .start, fun _ => none, [], 0, [], []⟩

/-- An atomic step. -/
inductive MockAct
  /-- Call `c` of `Request` on the transport of `src`, to `dst`: `getReqID()`. -/
  | getReqID (c : Nat) (src dst : NodeID) (method : String) (args : Option String)
  /-- `sendRequest`: `m.queue <- r`. -/
  | enqueue (c : Nat)
  /-- A handler of `t` takes a request from `Process()`. -/
  | receive (t : NodeID)
  /-- A handler answers the `k`-th request taken and not answered: `SendResponse(v, err)`. -/
  | sendResponse (k : Nat) (v : Option String) (err : Option GoError)
  /-- The context of call `c` is done, with cause `e`. -/
  | cancel (c : Nat) (e : GoError)
  /-- `case <-r.ctx.Done()`. -/
  | timeout (c : Nat)
  /-- `case res := <-m.waitQueue`, and the comparison of the IDs. -/
  | pull (c : Nat)
  /-- `if !m.giveUp[res.ResponseID]`, or else `delete(m.giveUp, res.ResponseID)`. -/
  | check (c : Nat)
  /-- `m.waitQueue <- res`. -/
  | putBack (c : Nat)

namespace Mock

/-- `s` with the transport of `t` changed by `f`. -/
def modify (s : Mock) (t : NodeID) (f : MockTransport → MockTransport) : Mock :=
  { s with transports := Function.update s.transports t (f (s.transports t)) }

/-- `s` with call `c` moved to `p`. -/
def setPc (s : Mock) (c : Nat) (p : CallPc) : Mock :=
  { s with pc := Function.update s.pc c p }

@[simp] theorem modify_pc (s : Mock) (t : NodeID) (f : MockTransport → MockTransport) :
    (s.modify t f).pc = s.pc := rfl

@[simp] theorem modify_cause (s : Mock) (t : NodeID) (f : MockTransport → MockTransport) :
    (s.modify t f).cause = s.cause := rfl

@[simp] theorem modify_received (s : Mock) (t : NodeID) (f : MockTransport → MockTransport) :
    (s.modify t f).received = s.received := rfl

@[simp] theorem modify_issued (s : Mock) (t : NodeID) (f : MockTransport → MockTransport) :
    (s.modify t f).issued = s.issued := rfl

@[simp] theorem modify_discarded (s : Mock) (t : NodeID) (f : MockTransport → MockTransport) :
    (s.modify t f).discarded = s.discarded := rfl

@[simp] theorem modify_replied (s : Mock) (t : NodeID) (f : MockTransport → MockTransport) :
    (s.modify t f).replied = s.replied := rfl

theorem modify_transports (s : Mock) (t u : NodeID) (f : MockTransport → MockTransport) :
    (s.modify t f).transports u = if u = t then f (s.transports t) else s.transports u := by
  simp only [modify, Function.update_apply]

@[simp] theorem modify_reqSeq (s : Mock) (t : NodeID) (f : MockTransport → MockTransport) :
    (s.modify t f).reqSeq = s.reqSeq := rfl

@[simp] theorem setPc_reqSeq (s : Mock) (c : Nat) (p : CallPc) :
    (s.setPc c p).reqSeq = s.reqSeq := rfl

@[simp] theorem setPc_transports (s : Mock) (c : Nat) (p : CallPc) :
    (s.setPc c p).transports = s.transports := rfl

@[simp] theorem setPc_cause (s : Mock) (c : Nat) (p : CallPc) :
    (s.setPc c p).cause = s.cause := rfl

@[simp] theorem setPc_received (s : Mock) (c : Nat) (p : CallPc) :
    (s.setPc c p).received = s.received := rfl

@[simp] theorem setPc_issued (s : Mock) (c : Nat) (p : CallPc) :
    (s.setPc c p).issued = s.issued := rfl

@[simp] theorem setPc_discarded (s : Mock) (c : Nat) (p : CallPc) :
    (s.setPc c p).discarded = s.discarded := rfl

@[simp] theorem setPc_replied (s : Mock) (c : Nat) (p : CallPc) :
    (s.setPc c p).replied = s.replied := rfl

theorem setPc_pc (s : Mock) (c : Nat) (p : CallPc) (d : Nat) :
    (s.setPc c p).pc d = if d = c then p else s.pc d := by
  simp only [setPc, Function.update_apply]

/-- One atomic step; `none` when it is not enabled. -/
def step (s : Mock) : MockAct → Option Mock
  | .getReqID c src dst method args =>
    match s.pc c with
    | .start =>
      some ({ s with reqSeq := s.reqSeq + 1, issued := s.issued + 1 }.setPc c
        (.sending ⟨dst, c, s.reqSeq + 1, src, method, args, s.issued + 1⟩))
    | _ => none
  | .enqueue c =>
    match s.pc c with
    | .sending r =>
      if (s.transports r.transport).queue.length < MockTransport.capacity then
        some ((s.modify r.transport fun m => { m with queue := m.queue ++ [r] }).setPc c
          (.waiting r))
      else none
    | _ => none
  | .receive t =>
    match (s.transports t).queue with
    | r :: rest =>
      some { s.modify t (fun m => { m with queue := rest }) with received := s.received ++ [r] }
    | [] => none
  | .sendResponse k v err =>
    match s.received[k]? with
    | some r =>
      if (s.transports r.transport).waitQueue.length < MockTransport.capacity then
        some { s.modify r.transport (fun m =>
            { m with waitQueue := m.waitQueue ++ [⟨r.requestID, v, err, r.ctx⟩] }) with
          received := s.received.eraseIdx k, replied := s.replied ++ [(r, v, err)] }
      else none
    | none => none
  | .cancel c e =>
    match s.cause c with
    | none => some { s with cause := Function.update s.cause c (some e) }
    | some _ => none
  | .timeout c =>
    match s.pc c, s.cause c with
    | .waiting r, some e =>
      some ((s.modify r.transport fun m =>
          { m with giveUp := Function.update m.giveUp r.requestID true }).setPc c
        (.returned r (.cancelled e)))
    | _, _ => none
  | .pull c =>
    match s.pc c with
    | .waiting r =>
      match (s.transports r.transport).waitQueue with
      | res :: rest =>
        if res.responseID ≠ r.requestID then
          some ((s.modify r.transport fun m => { m with waitQueue := rest }).setPc c
            (.pulled r res))
        else
          some ((s.modify r.transport fun m => { m with waitQueue := rest }).setPc c
            (.returned r (.response res)))
      | [] => none
    | _ => none
  | .check c =>
    match s.pc c with
    | .pulled r res =>
      if !(s.transports r.transport).giveUp res.responseID then
        some (s.setPc c (.putting r res))
      else
        some { (s.modify r.transport fun m =>
            { m with giveUp := Function.update m.giveUp res.responseID false }).setPc c
          (.waiting r) with discarded := s.discarded ++ [res] }
    | _ => none
  | .putBack c =>
    match s.pc c with
    | .putting r res =>
      if (s.transports r.transport).waitQueue.length < MockTransport.capacity then
        some ((s.modify r.transport fun m => { m with waitQueue := m.waitQueue ++ [res] }).setPc c
          (.waiting r))
      else none
    | _ => none

/-! ### What one step does -/

section Inversion

variable {s t : Mock}

theorem step_getReqID {c : Nat} {src dst : NodeID} {method : String} {args : Option String}
    (h : s.step (.getReqID c src dst method args) = some t) :
    s.pc c = .start ∧ t = { s with reqSeq := s.reqSeq + 1, issued := s.issued + 1 }.setPc c
      (.sending ⟨dst, c, s.reqSeq + 1, src, method, args, s.issued + 1⟩) := by
  simp only [step] at h
  split at h
  next hc => exact ⟨hc, (Option.some.inj h).symm⟩
  next => cases h

theorem step_enqueue {c : Nat} (h : s.step (.enqueue c) = some t) :
    ∃ r, s.pc c = .sending r ∧
      t = (s.modify r.transport fun m => { m with queue := m.queue ++ [r] }).setPc c
        (.waiting r) := by
  simp only [step] at h
  split at h
  next r hc =>
    split at h
    next => exact ⟨r, hc, (Option.some.inj h).symm⟩
    next => cases h
  next => cases h

theorem step_receive {u : NodeID} (h : s.step (.receive u) = some t) :
    ∃ r rest, (s.transports u).queue = r :: rest ∧
      t = { s.modify u (fun m => { m with queue := rest }) with received := s.received ++ [r] } := by
  simp only [step] at h
  split at h
  next r rest hq => exact ⟨r, rest, hq, (Option.some.inj h).symm⟩
  next => cases h

theorem step_sendResponse {k : Nat} {v : Option String} {err : Option GoError}
    (h : s.step (.sendResponse k v err) = some t) :
    ∃ r, s.received[k]? = some r ∧
      t = { s.modify r.transport (fun m =>
          { m with waitQueue := m.waitQueue ++ [⟨r.requestID, v, err, r.ctx⟩] }) with
        received := s.received.eraseIdx k, replied := s.replied ++ [(r, v, err)] } := by
  simp only [step] at h
  split at h
  next r hk =>
    split at h
    next => exact ⟨r, hk, (Option.some.inj h).symm⟩
    next => cases h
  next => cases h

theorem step_cancel {c : Nat} {e : GoError} (h : s.step (.cancel c e) = some t) :
    s.cause c = none ∧ t = { s with cause := Function.update s.cause c (some e) } := by
  simp only [step] at h
  split at h
  next hc => exact ⟨hc, (Option.some.inj h).symm⟩
  next => cases h

theorem step_timeout {c : Nat} (h : s.step (.timeout c) = some t) :
    ∃ r e, s.pc c = .waiting r ∧ s.cause c = some e ∧
      t = (s.modify r.transport fun m =>
          { m with giveUp := Function.update m.giveUp r.requestID true }).setPc c
        (.returned r (.cancelled e)) := by
  simp only [step] at h
  split at h
  next r e hc he => exact ⟨r, e, hc, he, (Option.some.inj h).symm⟩
  next => cases h

theorem step_pull {c : Nat} (h : s.step (.pull c) = some t) :
    ∃ r res rest, s.pc c = .waiting r ∧ (s.transports r.transport).waitQueue = res :: rest ∧
      t = (s.modify r.transport fun m => { m with waitQueue := rest }).setPc c
        (if res.responseID = r.requestID then .returned r (.response res) else .pulled r res) := by
  simp only [step] at h
  split at h
  next r hc =>
    split at h
    next res rest hq =>
      refine ⟨r, res, rest, hc, hq, ?_⟩
      split at h <;> simp_all
    next => cases h
  next => cases h

theorem step_check {c : Nat} (h : s.step (.check c) = some t) :
    ∃ r res, s.pc c = .pulled r res ∧
      (((s.transports r.transport).giveUp res.responseID = false ∧
          t = s.setPc c (.putting r res)) ∨
        ((s.transports r.transport).giveUp res.responseID = true ∧
          t = { (s.modify r.transport fun m =>
              { m with giveUp := Function.update m.giveUp res.responseID false }).setPc c
            (.waiting r) with discarded := s.discarded ++ [res] })) := by
  simp only [step] at h
  split at h
  next r res hc =>
    refine ⟨r, res, hc, ?_⟩
    split at h
    next hg => exact .inl ⟨by simpa using hg, (Option.some.inj h).symm⟩
    next hg => exact .inr ⟨by simpa using hg, (Option.some.inj h).symm⟩
  next => cases h

theorem step_putBack {c : Nat} (h : s.step (.putBack c) = some t) :
    ∃ r res, s.pc c = .putting r res ∧
      t = (s.modify r.transport fun m => { m with waitQueue := m.waitQueue ++ [res] }).setPc c
        (.waiting r) := by
  simp only [step] at h
  split at h
  next r res hc =>
    split at h
    next => exact ⟨r, res, hc, (Option.some.inj h).symm⟩
    next => cases h
  next => cases h

end Inversion

/-! ### What no step undoes -/

section Mono

variable {s t : Mock}

/-- Moving a call to a position with the same request changes no call's request. -/
theorem req?_setPc {c : Nat} {p : CallPc} (hp : p.req? = (s.pc c).req?) (d : Nat) :
    ((s.setPc c p).pc d).req? = (s.pc d).req? := by
  rw [setPc_pc]
  split_ifs with hd
  · subst hd; exact hp
  · rfl

theorem setPc_pc_of_ne {c d : Nat} (p : CallPc) (hd : d ≠ c) : (s.setPc c p).pc d = s.pc d := by
  rw [setPc_pc, if_neg hd]

/-- **A call's request never changes** once its ID is drawn. -/
theorem step_reqMono {a : MockAct} (h : s.step a = some t) :
    ∀ d r, (s.pc d).req? = some r → (t.pc d).req? = some r := by
  intro d r hd
  cases a with
  | getReqID c =>
    obtain ⟨hc, rfl⟩ := step_getReqID h
    have hdc : d ≠ c := by rintro rfl; simp [hc, CallPc.req?] at hd
    rwa [setPc_pc_of_ne _ hdc]
  | enqueue c =>
    obtain ⟨r', hc, rfl⟩ := step_enqueue h
    rwa [req?_setPc (by simp [hc, CallPc.req?])]
  | receive u => obtain ⟨_, _, _, rfl⟩ := step_receive h; exact hd
  | sendResponse k => obtain ⟨_, _, rfl⟩ := step_sendResponse h; exact hd
  | cancel c => obtain ⟨_, rfl⟩ := step_cancel h; exact hd
  | timeout c =>
    obtain ⟨r', e, hc, -, rfl⟩ := step_timeout h
    rwa [req?_setPc (by simp [hc, CallPc.req?])]
  | pull c =>
    obtain ⟨r', res, rest, hc, -, rfl⟩ := step_pull h
    rwa [req?_setPc (by split <;> simp [hc, CallPc.req?])]
  | check c =>
    obtain ⟨r', res, hc, ⟨-, rfl⟩ | ⟨-, rfl⟩⟩ := step_check h <;>
      rwa [req?_setPc (by simp [hc, CallPc.req?])]
  | putBack c =>
    obtain ⟨r', res, hc, rfl⟩ := step_putBack h
    rwa [req?_setPc (by simp [hc, CallPc.req?])]

/-- **A returned call stays returned**, with what it returned. -/
theorem step_returnedMono {a : MockAct} (h : s.step a = some t) :
    ∀ d r out, s.pc d = .returned r out → t.pc d = .returned r out := by
  intro d r out hd
  cases a with
  | getReqID c =>
    obtain ⟨hc, rfl⟩ := step_getReqID h
    rw [setPc_pc_of_ne _ (by rintro rfl; simp [hc] at hd)]; exact hd
  | enqueue c =>
    obtain ⟨r', hc, rfl⟩ := step_enqueue h
    rw [setPc_pc_of_ne _ (by rintro rfl; simp [hc] at hd)]; exact hd
  | receive u => obtain ⟨_, _, _, rfl⟩ := step_receive h; exact hd
  | sendResponse k => obtain ⟨_, _, rfl⟩ := step_sendResponse h; exact hd
  | cancel c => obtain ⟨_, rfl⟩ := step_cancel h; exact hd
  | timeout c =>
    obtain ⟨r', e, hc, -, rfl⟩ := step_timeout h
    rw [setPc_pc_of_ne _ (by rintro rfl; simp [hc] at hd)]; exact hd
  | pull c =>
    obtain ⟨r', res, rest, hc, -, rfl⟩ := step_pull h
    rw [setPc_pc_of_ne _ (by rintro rfl; simp [hc] at hd)]; exact hd
  | check c =>
    obtain ⟨r', res, hc, ⟨-, rfl⟩ | ⟨-, rfl⟩⟩ := step_check h <;>
      rw [setPc_pc_of_ne _ (by rintro rfl; simp [hc] at hd)] <;> exact hd
  | putBack c =>
    obtain ⟨r', res, hc, rfl⟩ := step_putBack h
    rw [setPc_pc_of_ne _ (by rintro rfl; simp [hc] at hd)]; exact hd

/-- **No `SendResponse` call is forgotten**: only `SendResponse` writes the record, at its end. -/
theorem step_replied {a : MockAct} (h : s.step a = some t) : ∀ x ∈ s.replied, x ∈ t.replied := by
  intro x hx
  cases a with
  | getReqID => obtain ⟨_, rfl⟩ := step_getReqID h; exact hx
  | enqueue => obtain ⟨_, _, rfl⟩ := step_enqueue h; exact hx
  | receive => obtain ⟨_, _, _, rfl⟩ := step_receive h; exact hx
  | sendResponse => obtain ⟨_, _, rfl⟩ := step_sendResponse h; exact List.mem_append_left _ hx
  | cancel => obtain ⟨_, rfl⟩ := step_cancel h; exact hx
  | timeout => obtain ⟨_, _, _, _, rfl⟩ := step_timeout h; exact hx
  | pull => obtain ⟨_, _, _, _, _, rfl⟩ := step_pull h; exact hx
  | check => obtain ⟨_, _, _, ⟨_, rfl⟩ | ⟨_, rfl⟩⟩ := step_check h <;> exact hx
  | putBack => obtain ⟨_, _, _, rfl⟩ := step_putBack h; exact hx

/-- What a step keeps: each call's request, and each `SendResponse` call recorded. -/
structure Grows (s t : Mock) : Prop where
  req : ∀ d r, (s.pc d).req? = some r → (t.pc d).req? = some r
  replied : ∀ x ∈ s.replied, x ∈ t.replied

theorem step_grows {a : MockAct} (h : s.step a = some t) : Grows s t :=
  ⟨step_reqMono h, step_replied h⟩

end Mono

/-! ### The invariant -/

/-- Response `res` on the transport of `u` carries the ID of the request of call
`res.answers`, which was sent to `u`, and the payload and error of a `SendResponse` call on that
request. -/
def Owned (s : Mock) (u : NodeID) (res : MockResponse) : Prop :=
  ∃ r, (s.pc res.answers).req? = some r ∧ r.requestID = res.responseID ∧ r.transport = u ∧
    (r, res.payload, res.error) ∈ s.replied

theorem Owned.mono {s t : Mock} (hg : Grows s t) {u : NodeID} {res : MockResponse}
    (h : s.Owned u res) : t.Owned u res :=
  let ⟨r, hr, hid, hu, hrep⟩ := h
  ⟨r, hg.req _ r hr, hid, hu, hg.replied _ hrep⟩

/-- How the IDs were drawn: `reqSeq` counts the IDs drawn modulo `2 ^ 64`, and the request of a
call names the call, and carries the ID its `getReqID` call returned, each such call being
made once. -/
structure Ids (s : Mock) : Prop where
  seq : s.reqSeq.toNat = s.issued % 2 ^ 64
  req : ∀ c r, (s.pc c).req? = some r →
    r.ctx = c ∧ 0 < r.issue ∧ r.issue ≤ s.issued ∧ r.requestID.toNat = r.issue % 2 ^ 64
  issue_inj : ∀ c d r q, (s.pc c).req? = some r → (s.pc d).req? = some q →
    r.issue = q.issue → c = d

/-- What holds in every reachable state, however many IDs were drawn. -/
structure Inv (s : Mock) extends s.Ids : Prop where
  /-- A request on a queue is its caller's. -/
  queued : ∀ u r, r ∈ (s.transports u).queue → (s.pc r.ctx).req? = some r
  /-- A request with a handler is its caller's. -/
  received : ∀ r ∈ s.received, (s.pc r.ctx).req? = some r
  /-- A response on a `waitQueue` answers a request sent there, with its ID. -/
  waiting : ∀ u res, res ∈ (s.transports u).waitQueue → s.Owned u res
  /-- So does a response a waiter holds or returned. -/
  held : ∀ c r res,
    (s.pc c = .pulled r res ∨ s.pc c = .putting r res ∨ s.pc c = .returned r (.response res)) →
    s.Owned r.transport res
  /-- A mark in `giveUp` was left by a call that gave up its request of that ID. -/
  giveUp : ∀ u x, (s.transports u).giveUp x = true →
    ∃ c r e, s.pc c = .returned r (.cancelled e) ∧ r.requestID = x ∧ r.transport = u
  /-- A call that gave up returned its context's cause. -/
  cause : ∀ c r e, s.pc c = .returned r (.cancelled e) → s.cause c = some e

theorem inv_init : Mock.init.Inv := by
  refine ⟨⟨rfl, ?_, ?_⟩, ?_, ?_, ?_, ?_, ?_, ?_⟩ <;> simp [Mock.init, CallPc.req?]

section Preservation

variable {s t : Mock}

/-- A step that draws no ID keeps the bookkeeping of IDs. -/
theorem Ids.of_req_eq (hs : s.Ids) (hreq : ∀ d, (t.pc d).req? = (s.pc d).req?)
    (hi : t.issued = s.issued) (hr : t.reqSeq = s.reqSeq) : t.Ids where
  seq := by rw [hi, hr]; exact hs.seq
  req c r h := by rw [hi]; exact hs.req c r (by rwa [← hreq])
  issue_inj c d r q hc hd := hs.issue_inj c d r q (by rwa [← hreq]) (by rwa [← hreq])

/-- A position the step did not move to was held before. -/
theorem pc_of_setPc {c d : Nat} {p q : CallPc} (h : (s.setPc c p).pc d = q) (hq : p ≠ q) :
    s.pc d = q := by
  rw [setPc_pc] at h
  split_ifs at h with hd
  · exact absurd h hq
  · exact h

theorem req?_setPc_eq {c d : Nat} {p : CallPc} :
    ((s.setPc c p).pc d).req? = if d = c then p.req? else (s.pc d).req? := by
  rw [setPc_pc]; split_ifs <;> rfl

section Fields

variable {u : NodeID} {f : MockTransport → MockTransport}

theorem queue_modify (hf : ∀ m, (f m).queue = m.queue) (v : NodeID) :
    ((s.modify u f).transports v).queue = (s.transports v).queue := by
  rw [modify_transports]; split_ifs with hv
  · subst hv; exact hf _
  · rfl

theorem waitQueue_modify (hf : ∀ m, (f m).waitQueue = m.waitQueue) (v : NodeID) :
    ((s.modify u f).transports v).waitQueue = (s.transports v).waitQueue := by
  rw [modify_transports]; split_ifs with hv
  · subst hv; exact hf _
  · rfl

theorem giveUp_modify (hf : ∀ m, (f m).giveUp = m.giveUp) (v : NodeID) :
    ((s.modify u f).transports v).giveUp = (s.transports v).giveUp := by
  rw [modify_transports]; split_ifs with hv
  · subst hv; exact hf _
  · rfl

end Fields

section Transfer

variable (hs : s.Inv)
include hs

/-- Responses held or returned by calls stay attributed across a step that moves one call to a
position holding none. -/
theorem Inv.held_of (hg : Grows s t) {c : Nat} {p : CallPc}
    (hpc : t.pc = Function.update s.pc c p)
    (hp : ∀ r res, p ≠ .pulled r res ∧ p ≠ .putting r res ∧ p ≠ .returned r (.response res)) :
    ∀ d r res,
      (t.pc d = .pulled r res ∨ t.pc d = .putting r res ∨ t.pc d = .returned r (.response res)) →
      t.Owned r.transport res := by
  intro d r res hd
  rw [hpc, Function.update_apply] at hd
  split_ifs at hd
  · obtain ⟨h₁, h₂, h₃⟩ := hp r res
    rcases hd with hd | hd | hd
    exacts [absurd hd h₁, absurd hd h₂, absurd hd h₃]
  · exact (hs.held d r res hd).mono hg

/-- A mark in `giveUp` before a step is attributed to a call that gave up after it. -/
theorem Inv.giveUp_from
    (hret : ∀ d r out, s.pc d = .returned r out → t.pc d = .returned r out) :
    ∀ u x, (s.transports u).giveUp x = true →
      ∃ c r e, t.pc c = .returned r (.cancelled e) ∧ r.requestID = x ∧ r.transport = u := by
  intro u x hx
  obtain ⟨d, r, e, hd, hx⟩ := hs.giveUp u x hx
  exact ⟨d, r, e, hret d r _ hd, hx⟩

/-- Calls that gave up keep their causes across a step that moves one call to a position other
than giving up, and cancels no context. -/
theorem Inv.cause_of {c : Nat} {p : CallPc} (hpc : t.pc = Function.update s.pc c p)
    (hcause : t.cause = s.cause) (hp : ∀ r e, p ≠ .returned r (.cancelled e)) :
    ∀ d r e, t.pc d = .returned r (.cancelled e) → t.cause d = some e := by
  intro d r e hd
  rw [hpc, Function.update_apply] at hd
  split_ifs at hd
  · exact absurd hd (hp r e)
  · rw [hcause]; exact hs.cause d r e hd

end Transfer

theorem Inv.getReqID (hs : s.Inv) {c : Nat} {src dst : NodeID} {method : String}
    {args : Option String} (h : s.step (.getReqID c src dst method args) = some t) : t.Inv := by
  have hg := step_grows h
  have hret := step_returnedMono h
  obtain ⟨hc, rfl⟩ := step_getReqID h
  have hseq : (s.reqSeq + 1).toNat = (s.issued + 1) % 2 ^ 64 := by
    simp only [UInt64.toNat, UInt64.add_def, BitVec.toNat_add]
    have := hs.seq
    simp only [UInt64.toNat] at this
    simp only [this, UInt64.toBitVec_ofNat, BitVec.toNat_ofNat]
    omega
  refine ⟨⟨hseq, ?_, ?_⟩, fun u r hr => hg.req _ r (hs.queued u r hr),
    fun r hr => hg.req _ r (hs.received r hr), fun u res hr => (hs.waiting u res hr).mono hg,
    hs.held_of hg rfl (by simp), hs.giveUp_from hret,
    hs.cause_of rfl rfl (by simp)⟩
  · intro d r hd
    rw [req?_setPc_eq] at hd
    split_ifs at hd with hdc
    · cases hd
      exact ⟨hdc.symm, by simp, le_refl _, hseq⟩
    · obtain ⟨h1, h2, h3, h4⟩ := hs.req d r hd
      exact ⟨h1, h2, Nat.le_succ_of_le h3, h4⟩
  · intro d d' r q hd hd' heq
    rw [req?_setPc_eq] at hd hd'
    split_ifs at hd hd' with h1 h2 h2
    · exact h1.trans h2.symm
    · cases hd; have := (hs.req d' q hd').2.2.1; simp at heq; omega
    · cases hd'; have := (hs.req d r hd).2.2.1; simp at heq; omega
    · exact hs.issue_inj d d' r q hd hd' heq

theorem Inv.enqueue (hs : s.Inv) {c : Nat} (h : s.step (.enqueue c) = some t) : t.Inv := by
  have hg := step_grows h
  have hret := step_returnedMono h
  obtain ⟨r, hc, rfl⟩ := step_enqueue h
  have hrc : r.ctx = c := (hs.req c r (by simp [hc, CallPc.req?])).1
  refine ⟨hs.toIds.of_req_eq (req?_setPc (by simp [hc, CallPc.req?])) rfl rfl, ?_,
    fun r' hr' => hg.req _ r' (hs.received r' hr'), fun u res hres => ?_,
    hs.held_of hg rfl (by simp),
    fun u x hx => hs.giveUp_from hret u x
      (by rwa [setPc_transports, giveUp_modify (by intro; rfl)] at hx),
    hs.cause_of rfl rfl (by simp)⟩
  · intro u r' hr'
    simp only [setPc_transports, modify_transports] at hr'
    split_ifs at hr' with hu
    · rcases List.mem_append.1 hr' with hr' | hr'
      · exact hg.req _ r' (hs.queued u r' (hu ▸ hr'))
      · rw [List.mem_singleton.1 hr', hrc, setPc_pc, if_pos rfl]; rfl
    · exact hg.req _ r' (hs.queued u r' hr')
  · rw [setPc_transports, waitQueue_modify (by intro; rfl)] at hres
    exact (hs.waiting u res hres).mono hg

theorem Inv.receive (hs : s.Inv) {v : NodeID} (h : s.step (.receive v) = some t) : t.Inv := by
  obtain ⟨r, rest, hq, rfl⟩ := step_receive h
  refine ⟨hs.toIds.of_req_eq (fun _ => rfl) rfl rfl, ?_, ?_, fun u res hres => ?_, hs.held,
    fun u x hx => ?_, hs.cause⟩
  · intro u r' hr'
    simp only [modify_transports] at hr'
    split_ifs at hr' with hu
    · subst hu; exact hs.queued _ r' (by rw [hq]; exact List.mem_cons_of_mem r hr')
    · exact hs.queued u r' hr'
  · intro r' hr'
    rcases List.mem_append.1 hr' with hr' | hr'
    · exact hs.received r' hr'
    · rw [List.mem_singleton.1 hr']
      exact hs.queued v r (by rw [hq]; exact List.mem_cons_self r rest)
  · rw [waitQueue_modify (by intro; rfl)] at hres
    exact hs.waiting u res hres
  · rw [giveUp_modify (by intro; rfl)] at hx
    exact hs.giveUp u x hx

theorem Inv.sendResponse (hs : s.Inv) {k : Nat} {v : Option String} {err : Option GoError}
    (h : s.step (.sendResponse k v err) = some t) : t.Inv := by
  have hg := step_grows h
  obtain ⟨r, hk, rfl⟩ := step_sendResponse h
  have hr : (s.pc r.ctx).req? = some r := hs.received r (List.getElem?_mem hk)
  refine ⟨hs.toIds.of_req_eq (fun _ => rfl) rfl rfl, fun u r' hr' => ?_,
    fun r' hr' => hs.received r' (List.mem_of_mem_eraseIdx hr'), ?_,
    fun d r' res hd => (hs.held d r' res hd).mono hg, fun u x hx => ?_, hs.cause⟩
  · rw [queue_modify (by intro; rfl)] at hr'
    exact hs.queued u r' hr'
  · intro u res hres
    simp only [modify_transports] at hres
    split_ifs at hres with hu
    · rcases List.mem_append.1 hres with hres | hres
      · exact (hs.waiting u res (hu ▸ hres)).mono hg
      · -- the response just sent, with what `SendResponse` was given
        rw [List.mem_singleton.1 hres]
        exact ⟨r, hr, rfl, hu.symm, List.mem_append_right _ (List.mem_singleton_self _)⟩
    · exact (hs.waiting u res hres).mono hg
  · rw [giveUp_modify (by intro; rfl)] at hx
    exact hs.giveUp u x hx

theorem Inv.cancel (hs : s.Inv) {c : Nat} {e : GoError} (h : s.step (.cancel c e) = some t) :
    t.Inv := by
  obtain ⟨hc, rfl⟩ := step_cancel h
  refine ⟨hs.toIds.of_req_eq (fun _ => rfl) rfl rfl, hs.queued, hs.received, hs.waiting, hs.held,
    hs.giveUp, fun d r e' hd => ?_⟩
  have hd' := hs.cause d r e' hd
  have hdc : d ≠ c := by rintro rfl; rw [hc] at hd'; cases hd'
  simpa [Function.update_noteq hdc] using hd'

theorem Inv.timeout (hs : s.Inv) {c : Nat} (h : s.step (.timeout c) = some t) : t.Inv := by
  have hg := step_grows h
  have hret := step_returnedMono h
  obtain ⟨r, e, hc, he, rfl⟩ := step_timeout h
  refine ⟨hs.toIds.of_req_eq (req?_setPc (by simp [hc, CallPc.req?])) rfl rfl,
    fun u r' hr' => ?_, fun r' hr' => hg.req _ r' (hs.received r' hr'), fun u res hres => ?_,
    hs.held_of hg rfl (by simp), fun u x hx => ?_, fun d r' e' hd => ?_⟩
  · rw [setPc_transports, queue_modify (by intro; rfl)] at hr'
    exact hg.req _ r' (hs.queued u r' hr')
  · rw [setPc_transports, waitQueue_modify (by intro; rfl)] at hres
    exact (hs.waiting u res hres).mono hg
  · simp only [setPc_transports, modify_transports] at hx
    split_ifs at hx with hu
    · by_cases hxr : x = r.requestID
      · exact ⟨c, r, e, by rw [setPc_pc, if_pos rfl], hxr.symm, hu.symm⟩
      · dsimp only at hx
        rw [Function.update_noteq hxr] at hx
        exact hs.giveUp_from hret u x (hu ▸ hx)
    · exact hs.giveUp_from hret u x hx
  · rw [setPc_pc] at hd
    split_ifs at hd with hdc
    · cases hd; subst hdc; exact he
    · exact hs.cause d r' e' hd

theorem Inv.pull (hs : s.Inv) {c : Nat} (h : s.step (.pull c) = some t) : t.Inv := by
  have hg := step_grows h
  have hret := step_returnedMono h
  obtain ⟨r, res, rest, hc, hq, rfl⟩ := step_pull h
  refine ⟨hs.toIds.of_req_eq (req?_setPc (by split <;> simp [hc, CallPc.req?])) rfl rfl,
    fun u r' hr' => ?_, fun r' hr' => hg.req _ r' (hs.received r' hr'), fun u res' hres => ?_, ?_,
    fun u x hx => hs.giveUp_from hret u x
      (by rwa [setPc_transports, giveUp_modify (by intro; rfl)] at hx),
    hs.cause_of rfl rfl (by split <;> simp)⟩
  · rw [setPc_transports, queue_modify (by intro; rfl)] at hr'
    exact hg.req _ r' (hs.queued u r' hr')
  · simp only [setPc_transports, modify_transports] at hres
    split_ifs at hres with hu
    · exact (hs.waiting u res' (by rw [hu, hq]; exact List.mem_cons_of_mem res hres)).mono hg
    · exact (hs.waiting u res' hres).mono hg
  · intro d r' res' hd
    by_cases hdc : d = c
    · -- the call holds or returns the response it took
      have hres : s.Owned r.transport res :=
        hs.waiting r.transport res (by rw [hq]; exact List.mem_cons_self _ _)
      rw [hdc, setPc_pc, if_pos rfl] at hd
      split at hd <;> rcases hd with hd | hd | hd <;> cases hd <;> exact hres.mono hg
    · rw [setPc_pc_of_ne _ hdc] at hd
      exact (hs.held d r' res' hd).mono hg

theorem Inv.check (hs : s.Inv) {c : Nat} (h : s.step (.check c) = some t) : t.Inv := by
  have hg := step_grows h
  have hret := step_returnedMono h
  obtain ⟨r, res, hc, ⟨hg, rfl⟩ | ⟨hg, rfl⟩⟩ := step_check h
  · refine ⟨hs.toIds.of_req_eq (req?_setPc (by simp [hc, CallPc.req?])) rfl rfl,
      fun u r' hr' => hg.req _ r' (hs.queued u r' hr'), fun r' hr' => hg.req _ r' (hs.received r' hr'),
      fun u res' hres => (hs.waiting u res' hres).mono hg, fun d r' res' hd => ?_,
      hs.giveUp_from hret, hs.cause_of rfl rfl (by simp)⟩
    simp only [setPc_pc] at hd
    split_ifs at hd with hdc
    · rcases hd with hd | hd | hd <;> cases hd
      exact (hs.held c r res (.inl hc)).mono hg
    · exact (hs.held d r' res' hd).mono hg
  · refine ⟨hs.toIds.of_req_eq (req?_setPc (by simp [hc, CallPc.req?])) rfl rfl,
      fun u r' hr' => ?_, fun r' hr' => hg.req _ r' (hs.received r' hr'), fun u res' hres => ?_,
      hs.held_of hg rfl (by simp), fun u x hx => ?_, hs.cause_of rfl rfl (by simp)⟩
    · rw [setPc_transports, queue_modify (by intro; rfl)] at hr'
      exact hg.req _ r' (hs.queued u r' hr')
    · rw [setPc_transports, waitQueue_modify (by intro; rfl)] at hres
      exact (hs.waiting u res' hres).mono hg
    · simp only [setPc_transports, modify_transports] at hx
      split_ifs at hx with hu
      · dsimp only at hx
        have hxr : x ≠ res.responseID := by rintro rfl; simp at hx
        rw [Function.update_noteq hxr] at hx
        exact hs.giveUp_from hret u x (hu ▸ hx)
      · exact hs.giveUp_from hret u x hx

theorem Inv.putBack (hs : s.Inv) {c : Nat} (h : s.step (.putBack c) = some t) : t.Inv := by
  have hg := step_grows h
  have hret := step_returnedMono h
  obtain ⟨r, res, hc, rfl⟩ := step_putBack h
  refine ⟨hs.toIds.of_req_eq (req?_setPc (by simp [hc, CallPc.req?])) rfl rfl,
    fun u r' hr' => ?_, fun r' hr' => hg.req _ r' (hs.received r' hr'), fun u res' hres => ?_,
    hs.held_of hg rfl (by simp),
    fun u x hx => hs.giveUp_from hret u x
      (by rwa [setPc_transports, giveUp_modify (by intro; rfl)] at hx),
    hs.cause_of rfl rfl (by simp)⟩
  · rw [setPc_transports, queue_modify (by intro; rfl)] at hr'
    exact hg.req _ r' (hs.queued u r' hr')
  · simp only [setPc_transports, modify_transports] at hres
    split_ifs at hres with hu
    · rcases List.mem_append.1 hres with hres | hres
      · exact (hs.waiting u res' (hu ▸ hres)).mono hg
      · rw [List.mem_singleton.1 hres, hu]; exact (hs.held c r res (.inr (.inl hc))).mono hg
    · exact (hs.waiting u res' hres).mono hg

/-- One step keeps the invariant. -/
theorem Inv.step (hs : s.Inv) {a : MockAct} (h : s.step a = some t) : t.Inv := by
  cases a with
  | getReqID => exact hs.getReqID h
  | enqueue => exact hs.enqueue h
  | receive => exact hs.receive h
  | sendResponse => exact hs.sendResponse h
  | cancel => exact hs.cancel h
  | timeout => exact hs.timeout h
  | pull => exact hs.pull h
  | check => exact hs.check h
  | putBack => exact hs.putBack h

end Preservation

end Mock

/-- A schedule of steps, `none` as soon as one is not enabled. -/
def runMock (s : Mock) : List MockAct → Option Mock
  | [] => some s
  | a :: as => (s.step a).bind fun t => runMock t as

theorem runMock_append (s : Mock) (as bs : List MockAct) :
    runMock s (as ++ bs) = (runMock s as).bind fun t => runMock t bs := by
  induction as generalizing s with
  | nil => rfl
  | cons a as ih =>
    show ((s.step a).bind fun t => runMock t (as ++ bs)) = _
    simp only [runMock, Option.bind_assoc, ih]

/-- The states a fresh router reaches. -/
inductive Reachable : Mock → Prop
  | init : Reachable Mock.init
  | step {s t : Mock} (a : MockAct) : Reachable s → s.step a = some t → Reachable t

theorem Reachable.runMock {s t : Mock} (hs : Reachable s) :
    ∀ {acts : List MockAct}, runMock s acts = some t → Reachable t := by
  intro acts
  induction acts generalizing s with
  | nil => intro h; cases h; exact hs
  | cons a as ih =>
    intro h
    obtain ⟨u, hu, h⟩ := Option.bind_eq_some.1 h
    exact ih (hs.step a hu) h

/-- **Every reachable state satisfies the invariant.** -/
theorem Reachable.inv {s : Mock} (hs : Reachable s) : s.Inv := by
  induction hs with
  | init => exact Mock.inv_init
  | step _ _ h ih => exact ih.step h

end ThunderDB.Kayak
