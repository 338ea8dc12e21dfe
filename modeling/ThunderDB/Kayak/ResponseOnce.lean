/-
**Each request is answered once, and its call returns that answer.**

`ThunderDB/Kayak/RequestSafety.lean` shows that a call returns a response made for its own
request; here it returns the payload and the error its handler gave `SendResponse`.  What rules
out an older response with the same ID is where the requests are: each call's request is being
sent, or waits on the queue of its node, or is held by a handler, at most one of these at a time
and each at most once (`ThunderDB.Kayak.Mock.Single`); and a response in flight answers a call
whose request is no longer pending (`ThunderDB.Kayak.Mock.Once`).  Both hold in every reachable
state, however many IDs were drawn.  With at most `2 ^ 64` IDs drawn, a response ahead of a new
one with the same ID would answer the same call, whose request a handler still holds.

Main definitions:

* `ThunderDB.Kayak.Mock.Pending`, `ThunderDB.Kayak.Mock.InFlight` — a call's request not yet
  answered, and a response not yet taken or dropped;
* `ThunderDB.Kayak.Mock.Single`, `ThunderDB.Kayak.Mock.Once` — the two invariants.

Main results:

* `ThunderDB.Kayak.Mock.step_pending`, `ThunderDB.Kayak.Mock.step_inFlight` — a step makes a
  request pending only by drawing its ID, and puts a response in flight only by
  `SendResponse`;
* `ThunderDB.Kayak.Reachable.once` — **each request is answered once**, in every reachable
  state, and `ThunderDB.Kayak.requests_single_answered_once` — no call has two requests queued
  or held, and no response in flight answers a pending request;
* `ThunderDB.Kayak.request_returns_answer` — **a call whose request a handler answers returns
  exactly that answer**, when its `waitQueue` has room for it.
-/

import ThunderDB.Kayak.RequestProgress
import ThunderDB.Kayak.RequestSafety
import Mathlib.Data.List.Nodup

set_option autoImplicit false

namespace ThunderDB.Kayak

open Mock

namespace Mock

/-! ### Pending requests and responses in flight -/

/-- The request of call `c` is pending: the call is still sending it, it waits on a queue, or a
handler holds it unanswered. -/
def Pending (s : Mock) (c : Nat) : Prop :=
  (∃ r, s.pc c = .sending r) ∨ (∃ u, ∃ r ∈ (s.transports u).queue, r.ctx = c) ∨
    ∃ r ∈ s.received, r.ctx = c

/-- Response `res` is in flight: on a `waitQueue`, or held by a call that pulled it. -/
def InFlight (s : Mock) (res : MockResponse) : Prop :=
  (∃ u, res ∈ (s.transports u).waitQueue) ∨
    ∃ c r, s.pc c = .pulled r res ∨ s.pc c = .putting r res

/-- Where the requests are: each on the queue of its node, each call with at most one queued or
held by a handler, and none of them still being sent. -/
structure Single (s : Mock) : Prop where
  /-- A request waits on the queue of the node it was sent to. -/
  queue_transport : ∀ u, ∀ r ∈ (s.transports u).queue, r.transport = u
  /-- No call has two requests on one queue. -/
  queue_nodup : ∀ u, ((s.transports u).queue.map MockRequest.ctx).Nodup
  /-- No call has two requests held by handlers. -/
  received_nodup : (s.received.map MockRequest.ctx).Nodup
  /-- No call has a request queued and one held. -/
  queue_received : ∀ u, ∀ r ∈ (s.transports u).queue, ∀ r' ∈ s.received, r.ctx ≠ r'.ctx
  /-- A call with a request queued has sent it. -/
  queued_sent : ∀ u, ∀ r ∈ (s.transports u).queue, ∀ q, s.pc r.ctx ≠ .sending q
  /-- So has a call with a request held. -/
  received_sent : ∀ r ∈ s.received, ∀ q, s.pc r.ctx ≠ .sending q

/-- Each request is answered once: a response in flight answers a call whose request is no
longer pending. -/
structure Once (s : Mock) extends s.Single : Prop where
  answered : ∀ res, s.InFlight res → ¬ s.Pending res.answers

theorem once_init : Mock.init.Once :=
  ⟨⟨by simp [Mock.init], by simp [Mock.init], by simp [Mock.init], by simp [Mock.init],
    by simp [Mock.init], by simp [Mock.init]⟩, by simp [Mock.init, InFlight]⟩

section Steps

variable {s t : Mock}

/-! ### Steps that shrink -/

theorem ne_start_of_req {d : Nat} {r : MockRequest} (h : (s.pc d).req? = some r) :
    s.pc d ≠ .start := fun h' => by rw [h'] at h; cases h

/-- What every step but `enqueue` and `receive` does to the requests: the queues and the
handlers' requests only shrink, and a call is sending only if it was, or has just drawn its
ID. -/
structure Shrinks (s t : Mock) : Prop where
  queue : ∀ u, List.Sublist (t.transports u).queue (s.transports u).queue
  received : List.Sublist t.received s.received
  sending : ∀ d q, t.pc d = .sending q → s.pc d = .sending q ∨ s.pc d = .start

/-- A step that moves one call to a position other than `sending`, and leaves the queues and the
handlers' requests, shrinks. -/
theorem Shrinks.of_setPc {c : Nat} {p : CallPc} (hp : ∀ q, p ≠ .sending q)
    (hq : ∀ u, ((t.setPc c p).transports u).queue = (s.transports u).queue)
    (hr : t.received = s.received) (hpc : ∀ d, t.pc d = s.pc d) : Shrinks s (t.setPc c p) where
  queue u := by rw [hq]
  received := by rw [setPc_received, hr]
  sending d q hd := .inl (by rw [← hpc]; exact pc_of_setPc hd (hp q))

/-- Every step but `enqueue` and `receive` shrinks. -/
theorem step_shrinks {a : MockAct} (h : s.step a = some t) :
    Shrinks s t ∨ (∃ c, a = .enqueue c) ∨ ∃ v, a = .receive v := by
  cases a with
  | getReqID c =>
    obtain ⟨hc, rfl⟩ := step_getReqID h
    refine .inl ⟨fun _ => .refl _, .refl _, fun d q hd => ?_⟩
    rw [setPc_pc] at hd
    split_ifs at hd with hdc
    · exact .inr (hdc ▸ hc)
    · exact .inl hd
  | enqueue c => exact .inr (.inl ⟨c, rfl⟩)
  | receive v => exact .inr (.inr ⟨v, rfl⟩)
  | sendResponse k =>
    obtain ⟨r, -, rfl⟩ := step_sendResponse h
    exact .inl ⟨fun u => by rw [queue_modify (by intro; rfl)],
      List.eraseIdx_sublist _ _, fun _ _ => .inl⟩
  | cancel c =>
    obtain ⟨-, rfl⟩ := step_cancel h
    exact .inl ⟨fun _ => .refl _, .refl _, fun _ _ => .inl⟩
  | timeout c =>
    obtain ⟨r, e, -, -, rfl⟩ := step_timeout h
    exact .inl (Shrinks.of_setPc (by simp) (fun u => by
      rw [setPc_transports, queue_modify (by intro; rfl)]) rfl (fun _ => rfl))
  | pull c =>
    obtain ⟨r, res, rest, -, -, rfl⟩ := step_pull h
    exact .inl (Shrinks.of_setPc (by split <;> simp) (fun u => by
      rw [setPc_transports, queue_modify (by intro; rfl)]) rfl (fun _ => rfl))
  | check c =>
    obtain ⟨r, res, -, ⟨-, rfl⟩ | ⟨-, rfl⟩⟩ := step_check h
    · exact .inl (Shrinks.of_setPc (by simp) (fun _ => rfl) rfl (fun _ => rfl))
    · exact .inl ⟨fun u => by rw [setPc_transports, queue_modify (by intro; rfl)],
        .refl _, fun d q hd => .inl (pc_of_setPc hd (by simp))⟩
  | putBack c =>
    obtain ⟨r, res, -, rfl⟩ := step_putBack h
    exact .inl (Shrinks.of_setPc (by simp) (fun u => by
      rw [setPc_transports, queue_modify (by intro; rfl)]) rfl (fun _ => rfl))

/-- A step that shrinks keeps `Single`. -/
theorem Single.of_shrinks (hi : s.Inv) (ho : s.Single) (hs : Shrinks s t) : t.Single where
  queue_transport u r h := ho.queue_transport u r ((hs.queue u).subset h)
  queue_nodup u := (ho.queue_nodup u).sublist ((hs.queue u).map _)
  received_nodup := ho.received_nodup.sublist (hs.received.map _)
  queue_received u r h r' h' :=
    ho.queue_received u r ((hs.queue u).subset h) r' (hs.received.subset h')
  queued_sent u r h q hd := by
    rcases hs.sending _ q hd with hd | hd
    · exact ho.queued_sent u r ((hs.queue u).subset h) q hd
    · exact ne_start_of_req (hi.queued u r ((hs.queue u).subset h)) hd
  received_sent r h q hd := by
    rcases hs.sending _ q hd with hd | hd
    · exact ho.received_sent r (hs.received.subset h) q hd
    · exact ne_start_of_req (hi.received r (hs.received.subset h)) hd

/-- After a step that shrinks, a pending request was pending before, or its call has just drawn
its ID. -/
theorem Pending.of_shrinks (hs : Shrinks s t) {d : Nat} (hd : t.Pending d) :
    s.Pending d ∨ s.pc d = .start := by
  rcases hd with ⟨q, hq⟩ | ⟨u, r, hr, he⟩ | ⟨r, hr, he⟩
  · exact (hs.sending d q hq).imp_left fun h => .inl ⟨q, h⟩
  · exact .inl (.inr (.inl ⟨u, r, (hs.queue u).subset hr, he⟩))
  · exact .inl (.inr (.inr ⟨r, hs.received.subset hr, he⟩))

/-! ### `enqueue` and `receive` -/

theorem queue_enqueue {r : MockRequest} {c : Nat} {p : CallPc} (u : NodeID) :
    (((s.modify r.transport fun m => { m with queue := m.queue ++ [r] }).setPc c p).transports
      u).queue =
      if u = r.transport then (s.transports u).queue ++ [r] else (s.transports u).queue := by
  simp only [setPc_transports, modify_transports]
  split_ifs with hu
  · subst hu; rfl
  · rfl

/-- `m.queue <- r` keeps `Single`: the call was still sending, so it had nothing queued or
held. -/
theorem Single.enqueue (hi : s.Inv) (ho : s.Single) {c : Nat} (h : s.step (.enqueue c) = some t) :
    t.Single := by
  obtain ⟨r, hc, rfl⟩ := step_enqueue h
  have hrc : r.ctx = c := (hi.req c r (by simp [hc, CallPc.req?])).1
  have hq : ∀ u, ∀ r' ∈ (s.transports u).queue, r'.ctx ≠ c :=
    fun u r' hr' he => ho.queued_sent u r' hr' r (he ▸ hc)
  have hrv : ∀ r' ∈ s.received, r'.ctx ≠ c :=
    fun r' hr' he => ho.received_sent r' hr' r (he ▸ hc)
  refine ⟨fun u r' hr' => ?_, fun u => ?_, ho.received_nodup, fun u r' hr' r'' hr'' => ?_,
    fun u r' hr' q hd => ?_,
    fun r' hr' q hd => ho.received_sent r' hr' q (pc_of_setPc hd (by simp))⟩
  · rw [queue_enqueue] at hr'
    split_ifs at hr' with hu
    · rcases List.mem_append.1 hr' with hr' | hr'
      · exact ho.queue_transport u r' hr'
      · rw [List.mem_singleton.1 hr', hu]
    · exact ho.queue_transport u r' hr'
  · rw [queue_enqueue]
    split_ifs
    · rw [List.map_append]
      refine (ho.queue_nodup u).append (List.nodup_singleton _) (List.disjoint_singleton.2 ?_)
      intro hm
      obtain ⟨r', hr', he⟩ := List.mem_map.1 hm
      exact hq u r' hr' (he.trans hrc)
    · exact ho.queue_nodup u
  · rw [queue_enqueue] at hr'
    split_ifs at hr'
    · rcases List.mem_append.1 hr' with hr' | hr'
      · exact ho.queue_received u r' hr' r'' hr''
      · rw [List.mem_singleton.1 hr', hrc]; exact fun he => hrv r'' hr'' he.symm
    · exact ho.queue_received u r' hr' r'' hr''
  · rw [setPc_pc] at hd
    split_ifs at hd with hdc
    rw [queue_enqueue] at hr'
    split_ifs at hr'
    · rcases List.mem_append.1 hr' with hr' | hr'
      · exact ho.queued_sent u r' hr' q hd
      · exact hdc (by rw [List.mem_singleton.1 hr', hrc])
    · exact ho.queued_sent u r' hr' q hd

theorem queue_receive {v : NodeID} {rest : List MockRequest} (u : NodeID) :
    ((s.modify v fun m => { m with queue := rest }).transports u).queue =
      if u = v then rest else (s.transports u).queue := by
  simp only [modify_transports]
  split_ifs <;> rfl

/-- A handler taking the request at the front of a queue keeps `Single`. -/
theorem Single.receive (hi : s.Inv) (ho : s.Single) {v : NodeID}
    (h : s.step (.receive v) = some t) : t.Single := by
  obtain ⟨r, rest, hq, rfl⟩ := step_receive h
  have hr : r ∈ (s.transports v).queue := by rw [hq]; exact List.mem_cons_self r rest
  have hnd := ho.queue_nodup v
  rw [hq, List.map_cons, List.nodup_cons] at hnd
  -- the requests left on the queues were there, and none is of the call of `r`
  have hleft : ∀ u,
      ∀ r' ∈ ((s.modify v fun m => { m with queue := rest }).transports u).queue,
        r' ∈ (s.transports u).queue ∧ r'.ctx ≠ r.ctx := by
    intro u r' hr'
    rw [queue_receive] at hr'
    split_ifs at hr' with hu
    · subst hu
      exact ⟨by rw [hq]; exact List.mem_cons_of_mem r hr',
        fun he => hnd.1 (he ▸ List.mem_map_of_mem _ hr')⟩
    · refine ⟨hr', fun he => hu ?_⟩
      have h₁ := hi.queued u r' hr'
      rw [he, hi.queued v r hr] at h₁
      rw [← ho.queue_transport u r' hr', ← Option.some.inj h₁, ho.queue_transport v r hr]
  refine ⟨fun u r' hr' => ho.queue_transport u r' (hleft u r' hr').1, fun u => ?_, ?_,
    fun u r' hr' r'' hr'' => ?_, fun u r' hr' => ho.queued_sent u r' (hleft u r' hr').1,
    fun r' hr' => ?_⟩
  · rw [queue_receive]
    split_ifs
    · exact hnd.2
    · exact ho.queue_nodup u
  · rw [List.map_append]
    refine ho.received_nodup.append (List.nodup_singleton _) (List.disjoint_singleton.2 ?_)
    intro hm
    obtain ⟨r', hr', he⟩ := List.mem_map.1 hm
    exact ho.queue_received v r hr r' hr' he.symm
  · rcases List.mem_append.1 hr'' with hr'' | hr''
    · exact ho.queue_received u r' (hleft u r' hr').1 r'' hr''
    · rw [List.mem_singleton.1 hr'']; exact (hleft u r' hr').2
  · rcases List.mem_append.1 hr' with hr' | hr'
    · exact ho.received_sent r' hr'
    · rw [List.mem_singleton.1 hr']; exact ho.queued_sent v r hr

/-- One step keeps `Single`. -/
theorem Single.step (hi : s.Inv) (ho : s.Single) {a : MockAct} (h : s.step a = some t) :
    t.Single := by
  rcases step_shrinks h with hs | ⟨c, rfl⟩ | ⟨v, rfl⟩
  · exact ho.of_shrinks hi hs
  · exact ho.enqueue hi h
  · exact ho.receive hi h

/-- A request pending after a step was pending before, or its call has just drawn its ID. -/
theorem step_pending (hi : s.Inv) {a : MockAct} (h : s.step a = some t) {d : Nat}
    (hd : t.Pending d) : s.Pending d ∨ s.pc d = .start := by
  rcases step_shrinks h with hs | ⟨c, rfl⟩ | ⟨v, rfl⟩
  · exact Pending.of_shrinks hs hd
  · -- `enqueue`: the request put on the queue was being sent
    obtain ⟨r, hc, rfl⟩ := step_enqueue h
    have hrc : r.ctx = c := (hi.req c r (by simp [hc, CallPc.req?])).1
    refine .inl ?_
    rcases hd with ⟨q, hq⟩ | ⟨u, r', hr', he⟩ | hr'
    · exact .inl ⟨q, pc_of_setPc hq (by simp)⟩
    · rw [queue_enqueue] at hr'
      split_ifs at hr'
      · rcases List.mem_append.1 hr' with hr' | hr'
        · exact .inr (.inl ⟨u, r', hr', he⟩)
        · rw [List.mem_singleton.1 hr', hrc] at he; exact .inl ⟨r, he ▸ hc⟩
      · exact .inr (.inl ⟨u, r', hr', he⟩)
    · exact .inr (.inr hr')
  · -- `receive`: the request a handler takes was queued
    obtain ⟨r, rest, hq, rfl⟩ := step_receive h
    refine .inl ?_
    rcases hd with hs | ⟨u, r', hr', he⟩ | ⟨r', hr', he⟩
    · exact .inl hs
    · rw [queue_receive] at hr'
      split_ifs at hr' with hu
      · subst hu; exact .inr (.inl ⟨_, r', by rw [hq]; exact List.mem_cons_of_mem r hr', he⟩)
      · exact .inr (.inl ⟨u, r', hr', he⟩)
    · rcases List.mem_append.1 hr' with hr' | hr'
      · exact .inr (.inr ⟨r', hr', he⟩)
      · rw [List.mem_singleton.1 hr'] at he
        exact .inr (.inl ⟨v, r, by rw [hq]; exact List.mem_cons_self r rest, he⟩)

/-! ### Responses in flight -/

/-- Moving one call to a position that holds no response, and leaving the `waitQueue`s, keeps
the responses in flight. -/
theorem InFlight.of_setPc {u : NodeID} {f : MockTransport → MockTransport} {c : Nat}
    {p : CallPc} {res : MockResponse} (h : ((s.modify u f).setPc c p).InFlight res)
    (hf : ∀ m, (f m).waitQueue = m.waitQueue)
    (hp : ∀ r res, p ≠ .pulled r res ∧ p ≠ .putting r res) : s.InFlight res := by
  rcases h with ⟨v, hv⟩ | ⟨d, r, hd⟩
  · rw [setPc_transports, waitQueue_modify hf] at hv
    exact .inl ⟨v, hv⟩
  · exact .inr ⟨d, r, hd.imp (fun hd => pc_of_setPc hd (hp r res).1)
      (fun hd => pc_of_setPc hd (hp r res).2)⟩

/-- A response in flight after a step was in flight before, or is the one `SendResponse` has
just made. -/
theorem step_inFlight {a : MockAct} (h : s.step a = some t) {res : MockResponse}
    (hres : t.InFlight res) :
    s.InFlight res ∨ ∃ k v err r, a = .sendResponse k v err ∧ s.received[k]? = some r ∧
      res = ⟨r.requestID, v, err, r.ctx⟩ := by
  cases a with
  | getReqID c =>
    obtain ⟨-, rfl⟩ := step_getReqID h
    rcases hres with hv | ⟨d, r, hd⟩
    · exact .inl (.inl hv)
    · exact .inl (.inr ⟨d, r, hd.imp (fun hd => pc_of_setPc hd (by simp))
        (fun hd => pc_of_setPc hd (by simp))⟩)
  | enqueue c =>
    obtain ⟨r, -, rfl⟩ := step_enqueue h
    exact .inl (hres.of_setPc (fun _ => rfl) (by simp))
  | receive v =>
    obtain ⟨r, rest, -, rfl⟩ := step_receive h
    rcases hres with ⟨u, hu⟩ | hd
    · rw [waitQueue_modify (by intro; rfl)] at hu
      exact .inl (.inl ⟨u, hu⟩)
    · exact .inl (.inr hd)
  | sendResponse k v err =>
    obtain ⟨r, hk, rfl⟩ := step_sendResponse h
    rcases hres with ⟨u, hu⟩ | hd
    · simp only [modify_transports] at hu
      split_ifs at hu with hu'
      · rcases List.mem_append.1 hu with hu | hu
        · exact .inl (.inl ⟨_, hu⟩)
        · exact .inr ⟨k, v, err, r, rfl, hk, List.mem_singleton.1 hu⟩
      · exact .inl (.inl ⟨u, hu⟩)
    · exact .inl (.inr hd)
  | cancel c e =>
    obtain ⟨-, rfl⟩ := step_cancel h
    exact .inl hres
  | timeout c =>
    obtain ⟨r, e, -, -, rfl⟩ := step_timeout h
    exact .inl (hres.of_setPc (fun _ => rfl) (by simp))
  | pull c =>
    obtain ⟨r, res₀, rest, hc, hq, rfl⟩ := step_pull h
    have hmem : res₀ ∈ (s.transports r.transport).waitQueue := by
      rw [hq]; exact List.mem_cons_self _ _
    refine .inl ?_
    rcases hres with ⟨u, hu⟩ | ⟨d, r', hd⟩
    · rw [setPc_transports, modify_transports] at hu
      split_ifs at hu with hu'
      · subst hu'; exact .inl ⟨_, by rw [hq]; exact List.mem_cons_of_mem _ hu⟩
      · exact .inl ⟨u, hu⟩
    · simp only [setPc_pc, modify_pc] at hd
      split_ifs at hd
      · simp at hd
      · -- the call that pulled `res₀` holds it
        obtain ⟨-, rfl⟩ : r = r' ∧ res₀ = res := by simpa using hd
        exact .inl ⟨_, hmem⟩
      · exact .inr ⟨d, r', hd⟩
  | check c =>
    obtain ⟨r, res₀, hc, ⟨-, rfl⟩ | ⟨-, rfl⟩⟩ := step_check h
    · refine .inl ?_
      rcases hres with hv | ⟨d, r', hd⟩
      · exact .inl hv
      · simp only [setPc_pc] at hd
        split_ifs at hd
        · obtain ⟨-, rfl⟩ : r = r' ∧ res₀ = res := by simpa using hd
          exact .inr ⟨c, r, .inl hc⟩
        · exact .inr ⟨d, r', hd⟩
    · have hres' : ((s.modify r.transport fun m =>
          { m with giveUp := Function.update m.giveUp res₀.responseID false }).setPc c
            (.waiting r)).InFlight res := hres
      exact .inl (hres'.of_setPc (fun _ => rfl) (by simp))
  | putBack c =>
    obtain ⟨r, res₀, hc, rfl⟩ := step_putBack h
    refine .inl ?_
    rcases hres with ⟨u, hu⟩ | ⟨d, r', hd⟩
    · rw [setPc_transports, modify_transports] at hu
      split_ifs at hu with hu'
      · rcases List.mem_append.1 hu with hu | hu
        · exact .inl ⟨_, hu⟩
        · rw [List.mem_singleton.1 hu]; exact .inr ⟨c, r, .inr hc⟩
      · exact .inl ⟨u, hu⟩
    · exact .inr ⟨d, r', hd.imp (fun hd => pc_of_setPc hd (by simp))
        (fun hd => pc_of_setPc hd (by simp))⟩

/-! ### Each request answered once -/

/-- A list with distinct images has no element besides its `k`-th with the image of that
one. -/
theorem not_mem_map_eraseIdx {α β : Type} {f : α → β} {l : List α} {k : Nat} {a : α}
    (hl : (l.map f).Nodup) (hk : l[k]? = some a) : f a ∉ (l.eraseIdx k).map f := by
  obtain ⟨hlt, rfl⟩ := List.getElem?_eq_some_iff.1 hk
  have hsplit : l = l.take k ++ l[k] :: l.drop (k + 1) := by
    rw [← List.drop_eq_getElem_cons, List.take_append_drop]
  rw [hsplit, List.map_append, List.map_cons, List.nodup_middle, List.nodup_cons] at hl
  rw [List.eraseIdx_eq_take_drop_succ, List.map_append]
  exact hl.1

/-- A response in flight answers a call that has drawn its ID. -/
theorem Inv.ne_start_of_inFlight (hi : s.Inv) {res : MockResponse} (h : s.InFlight res) :
    s.pc res.answers ≠ .start := by
  rcases h with ⟨u, hu⟩ | ⟨c, r, hc⟩
  · obtain ⟨q, hq, -⟩ := hi.waiting u res hu
    exact ne_start_of_req hq
  · obtain ⟨q, hq, -⟩ := hi.held c r res (hc.imp_right .inl)
    exact ne_start_of_req hq

/-- The request `SendResponse` answers is no longer pending: it was its call's only request
held by a handler, and none of its call's is queued or being sent. -/
theorem Single.answered_sendResponse (ho : s.Single) {k : Nat} {v : Option String}
    {err : Option GoError} {r : MockRequest} (hk : s.received[k]? = some r)
    (h : s.step (.sendResponse k v err) = some t) : ¬ t.Pending r.ctx := by
  obtain ⟨r', hk', rfl⟩ := step_sendResponse h
  rw [hk] at hk'
  cases hk'
  have hr : r ∈ s.received := List.getElem?_mem hk
  rintro (⟨q, hq⟩ | ⟨u, r', hr', he⟩ | ⟨r', hr', he⟩)
  · exact ho.received_sent r hr q hq
  · dsimp only at hr'
    rw [queue_modify (by intro; rfl)] at hr'
    exact ho.queue_received u r' hr' r hr he
  · exact not_mem_map_eraseIdx ho.received_nodup hk (he ▸ List.mem_map_of_mem _ hr')

/-- One step keeps `Once`. -/
theorem Once.step (hi : s.Inv) (ho : s.Once) {a : MockAct} (h : s.step a = some t) : t.Once where
  toSingle := ho.toSingle.step hi h
  answered res hres hp := by
    rcases step_inFlight h hres with hres | ⟨k, v, err, r, rfl, hk, rfl⟩
    · -- a response in flight before: its call was not pending, and had drawn its ID
      rcases step_pending hi h hp with hp | hst
      · exact ho.answered res hres hp
      · exact hi.ne_start_of_inFlight hres hst
    · -- the response just made
      exact ho.answered_sendResponse hk h hp

end Steps

end Mock

/-- **In every reachable state each request is answered once.** -/
theorem Reachable.once {s : Mock} (hs : Reachable s) : s.Once := by
  induction hs with
  | init => exact Mock.once_init
  | step _ hr h ih => exact ih.step hr.inv h

/-- **No request is duplicated and no request is answered twice.**  In every reachable state,
however many IDs were drawn: among the requests waiting on the queue of any node and those held
by handlers, no two belong to the same call; and every response on a `waitQueue` or held by a
call's loop answers a call whose request is no longer being sent, queued or held, so it cannot
be followed by a second answer to the same request. -/
theorem requests_single_answered_once {s : Mock} (hs : Reachable s) :
    (∀ u, (((s.transports u).queue ++ s.received).map MockRequest.ctx).Nodup) ∧
      ∀ res, s.InFlight res → ¬ s.Pending res.answers := by
  have ho := hs.once
  refine ⟨fun u => ?_, ho.answered⟩
  rw [List.map_append]
  exact (ho.queue_nodup u).append ho.received_nodup fun c hq hh => by
    obtain ⟨r, hr, rfl⟩ := List.mem_map.1 hq
    obtain ⟨r', hr', he⟩ := List.mem_map.1 hh
    exact ho.queue_received u r hr r' hr' he.symm

/-- Two calls to one node, one request held by a handler and one queued, the first answered. -/
theorem requests_single_answered_once_two_calls :
    let acts : List MockAct :=
      [.getReqID 0 ⟨"a"⟩ ⟨"b"⟩ "m" none, .enqueue 0, .getReqID 1 ⟨"a"⟩ ⟨"b"⟩ "m" none, .enqueue 1,
        .receive ⟨"b"⟩, .sendResponse 0 (some "ok") none]
    ∃ s, runMock Mock.init acts = some s ∧ Reachable s ∧
      (∀ u, (((s.transports u).queue ++ s.received).map MockRequest.ctx).Nodup) ∧
      ∀ res, s.InFlight res → ¬ s.Pending res.answers := by
  intro acts
  have hs := Reachable.init.runMock (show runMock Mock.init acts = some _ from rfl)
  exact ⟨_, rfl, hs, requests_single_answered_once hs⟩

/-- **A call whose request a handler answers returns exactly that answer**, the payload and the
error given to `SendResponse`, by the steps of its own loop, in every run in which at most
`2 ^ 64` IDs are drawn, when the `waitQueue` has room for the answer (so that no sender is
blocked on it). -/
theorem request_returns_answer {s : Mock} (hs : Reachable s) (hb : s.issued ≤ 2 ^ 64)
    {c k : Nat} {r : MockRequest} (hc : s.pc c = .waiting r) (hk : s.received[k]? = some r)
    (hcap : (s.transports r.transport).waitQueue.length < MockTransport.capacity)
    (v : Option String) (err : Option GoError) :
    ∃ acts, (∀ a ∈ acts, a.inLoop c) ∧
      ∃ t, runMock s (.sendResponse k v err :: acts) = some t ∧ t.pc c = .returned r (.response ⟨r.requestID, v, err, c⟩) := by
  have hi := hs.inv
  have hrc : r.ctx = c := (hi.req c r (by simp [hc, CallPc.req?])).1
  let s' : Mock := { s.modify r.transport (fun m =>
      { m with waitQueue := m.waitQueue ++ [⟨r.requestID, v, err, r.ctx⟩] }) with
    received := s.received.eraseIdx k, replied := s.replied ++ [(r, v, err)] }
  have hstep : s.step (.sendResponse k v err) = some s' := by simp [step, hk, hcap, s']
  -- a response ahead of the new one with the call's ID would answer the call, whose request
  -- is still pending
  have hpre : ∀ x ∈ (s.transports r.transport).waitQueue, x.responseID ≠ r.requestID := by
    intro x hx hid
    obtain ⟨q, hq, hqid, -⟩ := hi.waiting _ x hx
    have hx' : x.answers = c :=
      hi.toIds.eq_of_requestID hb hq (by simp [hc, CallPc.req?]) (hqid.trans hid)
    exact hs.once.answered x (.inl ⟨_, hx⟩)
      (hx' ▸ .inr (.inr ⟨r, List.getElem?_mem hk, hrc⟩))
  obtain ⟨acts, hl, t, ht, htc, -⟩ := loop_reaches
    (show (⟨r.requestID, v, err, r.ctx⟩ : MockResponse).responseID = r.requestID from rfl)
    (s.transports r.transport).waitQueue [] (show s'.pc c = .waiting r from hc)
    (by simp [s', modify_transports]) (by simpa using hcap) hpre
  refine ⟨acts, hl, t, by simp only [runMock, hstep, Option.some_bind, ht], ?_⟩
  rw [htc, hrc]

/-- One call whose request a handler of the target node holds: answered, the call returns the
handler's payload. -/
theorem request_returns_answer_first_call :
    let acts : List MockAct := [.getReqID 0 ⟨"a"⟩ ⟨"b"⟩ "m" none, .enqueue 0, .receive ⟨"b"⟩]
    let r : MockRequest := ⟨⟨"b"⟩, 0, 1, ⟨"a"⟩, "m", none, 1⟩
    ∃ s, runMock Mock.init acts = some s ∧ Reachable s ∧ s.issued ≤ 2 ^ 64 ∧
      s.pc 0 = .waiting r ∧ s.received[0]? = some r ∧
      (s.transports r.transport).waitQueue.length < MockTransport.capacity ∧
      ∃ acts, (∀ a ∈ acts, a.inLoop 0) ∧ ∃ t, runMock s (.sendResponse 0 (some "ok") none :: acts) =
        some t ∧ t.pc 0 = .returned r (.response ⟨r.requestID, some "ok", none, 0⟩) := by
  intro acts r
  have hs := Reachable.init.runMock (show runMock Mock.init acts = some _ from rfl)
  exact ⟨_, rfl, hs, by decide, rfl, rfl, by decide,
    @request_returns_answer _ hs (by decide) 0 0 r rfl rfl (by decide) (some "ok") none⟩

end ThunderDB.Kayak
