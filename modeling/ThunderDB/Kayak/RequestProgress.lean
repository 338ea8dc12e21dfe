/-
**A waiting call takes the response to its request.**

`ThunderDB/Kayak/RequestSafety.lean` says what a call of `Request` may return; this module says
that it does return once its request is answered.  The `for`/`select` loop of `sendRequest`
pulls the responses of its transport's `waitQueue` one at a time: a response for another request
goes back to the end of the queue, or is dropped when its ID is marked in `giveUp`.  Each turn
over such a response brings the first response with the call's ID one place nearer the front,
so a waiting call reaches it by its own steps, however many responses for other calls are ahead
of it and whatever their marks.

This needs room on the `waitQueue`.  A send on a full channel blocks, and in Go the slot a
receive frees goes at once to a blocked sender: with 1000 responses queued, a `SendResponse`
of another handler may take the slot the loop frees, and the loop then blocks on putting its
response back.  Below the capacity no sender is blocked, and a turn of the loop puts back at
most what it took, so the queue never fills while the call's own steps run.

`ThunderDB/Kayak/ResponseOnce.lean` shows which response that is: the one its handler sent.

Main definitions:

* `ThunderDB.Kayak.MockAct.inLoop` — the steps of one call's loop.

Main results:

* `ThunderDB.Kayak.Mock.loop_skip` — one turn of the loop over a response for another call;
* `ThunderDB.Kayak.Mock.loop_reaches` — the loop past the responses ahead of the first with
  the call's ID;
* `ThunderDB.Kayak.Mock.waiting_takes_response` — **a waiting call whose transport holds a
  response with its ID, below the capacity of its `waitQueue`, returns a response with its ID,
  by its own steps**.
-/

import ThunderDB.Kayak.MockTransport

set_option autoImplicit false

namespace ThunderDB.Kayak

open Mock

/-- The steps of the loop of call `c`: pull a response, read its mark, put it back. -/
def MockAct.inLoop (c : Nat) : MockAct → Prop
  | .pull d | .check d | .putBack d => d = c
  | _ => False

namespace Mock

/-! ### The loop of `sendRequest` -/

section Loop

variable {s : Mock} {c : Nat} {r : MockRequest}

/-- One turn of the loop over a response `x` for another call: `x` is dropped, or put back at
the end of the queue, and the call waits again. -/
theorem loop_skip {x : MockResponse} {rest : List MockResponse}
    (hc : s.pc c = .waiting r) (hq : (s.transports r.transport).waitQueue = x :: rest)
    (hcap : (x :: rest).length ≤ MockTransport.capacity) (hx : x.responseID ≠ r.requestID) :
    ∃ acts, (∀ a ∈ acts, a.inLoop c) ∧ ∃ t, runMock s acts = some t ∧
      t.pc c = .waiting r ∧ t.issued = s.issued ∧
      ∃ extra, (t.transports r.transport).waitQueue = rest ++ extra ∧ extra.length ≤ 1 := by
  cases hg : (s.transports r.transport).giveUp x.responseID
  · -- not marked: pulled, checked, put back in the slot the pull freed
    have hroom : rest.length < MockTransport.capacity := Nat.lt_of_succ_le hcap
    refine ⟨[.pull c, .check c, .putBack c], by simp [MockAct.inLoop], ?_⟩
    simp [runMock, step, hc, hq, hx, hg, hroom, setPc_pc, modify_transports]
  · -- marked: pulled, checked, dropped
    refine ⟨[.pull c, .check c], by simp [MockAct.inLoop], ?_⟩
    simp [runMock, step, hc, hq, hx, hg, setPc_pc, modify_transports]

/-- The loop reaches the response `res` with the call's ID past the responses `pre` for other
calls ahead of it. -/
theorem loop_reaches {res : MockResponse} (hid : res.responseID = r.requestID) :
    ∀ (pre post : List MockResponse) {s : Mock}, s.pc c = .waiting r →
      (s.transports r.transport).waitQueue = pre ++ res :: post →
      (pre ++ res :: post).length ≤ MockTransport.capacity →
      (∀ x ∈ pre, x.responseID ≠ r.requestID) →
      ∃ acts, (∀ a ∈ acts, a.inLoop c) ∧ ∃ t, runMock s acts = some t ∧
        t.pc c = .returned r (.response res) ∧ t.issued = s.issued
  | [], post, s, hc, hq, _, _ => ⟨[.pull c], by simp [MockAct.inLoop], by
      simp [runMock, step, hc, hq, hid, setPc_pc]⟩
  | x :: pre, post, s, hc, hq, hcap, hpre => by
    obtain ⟨acts, hl, t, ht, htc, hti, extra, htq, hextra⟩ :=
      loop_skip hc hq hcap (hpre x (List.mem_cons_self _ _))
    obtain ⟨acts', hl', u, hu, huc, hui⟩ := loop_reaches hid pre (post ++ extra) htc
      (by rw [htq]; simp) (by simp at hcap ⊢; omega) (fun y hy => hpre y (List.mem_cons_of_mem _ hy))
    refine ⟨acts ++ acts', fun a ha => ?_, u, by rw [runMock_append, ht]; exact hu, huc,
      hui.trans hti⟩
    rcases List.mem_append.1 ha with ha | ha
    · exact hl a ha
    · exact hl' a ha

/-- **A waiting call whose transport holds a response with its ID, below the capacity of the
`waitQueue`, returns a response with its ID, by the steps of its own loop.** -/
theorem waiting_takes_response (hc : s.pc c = .waiting r)
    (hcap : (s.transports r.transport).waitQueue.length < MockTransport.capacity)
    (h : ∃ res ∈ (s.transports r.transport).waitQueue, res.responseID = r.requestID) :
    ∃ acts, (∀ a ∈ acts, a.inLoop c) ∧ ∃ t res, runMock s acts = some t ∧
      t.pc c = .returned r (.response res) ∧ res.responseID = r.requestID ∧
      t.issued = s.issued := by
  -- the first response with the call's ID, and the ones for other calls ahead of it
  obtain ⟨res, hfind⟩ : ∃ res, ((s.transports r.transport).waitQueue.find?
      fun x => x.responseID == r.requestID) = some res :=
    Option.isSome_iff_exists.1 (List.find?_isSome.2 (by simpa using h))
  obtain ⟨hid, pre, post, hq, hpre⟩ := List.find?_eq_some.1 hfind
  obtain ⟨acts, hl, t, ht, htc, hti⟩ :=
    loop_reaches (by simpa using hid) pre post hc hq (hq ▸ hcap.le)
      (fun x hx => by simpa using hpre x hx)
  exact ⟨acts, hl, t, res, ht, htc, by simpa using hid, hti⟩

/-- Two calls to one node, answered in the opposite order: the first call's response waits
behind the second's, and the first call still takes it. -/
theorem waiting_takes_response_behind_other :
    let acts : List MockAct :=
      [.getReqID 0 ⟨"a"⟩ ⟨"b"⟩ "m" none, .enqueue 0, .getReqID 1 ⟨"a"⟩ ⟨"b"⟩ "m" none, .enqueue 1,
        .receive ⟨"b"⟩, .receive ⟨"b"⟩, .sendResponse 1 none none, .sendResponse 0 (some "ok") none]
    let r : MockRequest := ⟨⟨"b"⟩, 0, 1, ⟨"a"⟩, "m", none, 1⟩
    ∃ s, runMock Mock.init acts = some s ∧ s.pc 0 = .waiting r ∧
      (s.transports r.transport).waitQueue.length < MockTransport.capacity ∧
      (∃ res ∈ (s.transports r.transport).waitQueue, res.responseID = r.requestID) ∧
      ∃ acts, (∀ a ∈ acts, a.inLoop 0) ∧ ∃ t res, runMock s acts = some t ∧
        t.pc 0 = .returned r (.response res) ∧ res.responseID = r.requestID ∧
        t.issued = s.issued :=
  ⟨_, rfl, rfl, by decide, by decide, waiting_takes_response rfl (by decide) (by decide)⟩

end Loop

end Mock

end ThunderDB.Kayak
