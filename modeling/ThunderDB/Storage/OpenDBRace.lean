/-
**Concurrent calls of `openDB`.**

`openDB` holds the mutex of `index` only around the lookup and around the insert: in between,
it calls `sql.Open` with the mutex released.  Here each call is a process of three atomic steps
over the shared process state — the locked lookup (together with the local parsing before it;
for a private in-memory DSN, this step is the `sql.Open` and the return), `sql.Open` after a
miss, and the locked insert — and the calls interleave in any order.

Two calls on the same file name that both miss before either inserts each open their own
handle, each insert their own, and each return their own: the cache keeps the last one.  When
no two calls are ever between a miss and their insert at the same time — in particular when
the calls do not overlap — every call that succeeds returns the handle left in the cache.

Main definitions:

* `ThunderDB.Sqlite.OpenPc`, `ThunderDB.Sqlite.Race`, `ThunderDB.Sqlite.RaceAct` — where each
  call stands, the shared state, and the atomic steps;
* `ThunderDB.Sqlite.Race.step`, `ThunderDB.Sqlite.runRace` — one step, and a schedule;
* `ThunderDB.Sqlite.Race.OneMiss`, `ThunderDB.Sqlite.Reach` — at most one call between a miss
  and its insert, and the states reachable through such states.

Main results:

* `ThunderDB.Sqlite.runRace_solo` — a call run alone, from a state where it has not started,
  does exactly what `ThunderDB.Sqlite.openDB` does;
* `ThunderDB.Sqlite.race_two_misses` — two overlapping calls on one file name return two
  different handles;
* `ThunderDB.Sqlite.reach_oneMiss_shared` — **without overlapping misses, every successful
  call returns the handle left in the cache**.
-/

import ThunderDB.Storage.OpenDB

set_option autoImplicit false

namespace ThunderDB.Sqlite

/-! ### Calls as processes -/

/-- Where one call of `openDB` stands. -/
inductive OpenPc
  /-- Not started. -/
  | start
  /-- The locked lookup found no handle for `d.filename`; `sql.Open` comes next. -/
  | missed (d : DSN)
  /-- `sql.Open` returned `db`; the locked insert comes next. -/
  | opened (d : DSN) (db : DB)
  /-- Returned `r`. -/
  | done (r : Except GoError DB)

/-- Whether a call is between a missing lookup and its insert. -/
def OpenPc.inWindow : OpenPc → Bool
  | .missed _ => true
  | .opened .. => true
  | _ => false

/-- The process state shared by the calls, and where each call stands. -/
structure Race where
  proc : Process
  pc : Nat → OpenPc

/-- No call started yet, over the process state `p`. -/
def Race.begin (p : Process) : Race := ⟨p, fun _ => .start⟩

/-- An atomic step of call `i`; `sql.Open` fails with `openErr` if it is given. -/
inductive RaceAct
  /-- Parse, then either open and return (private in-memory), or the locked lookup. -/
  | lookup (i : Nat) (openErr : Option GoError)
  /-- `sql.Open` after a miss. -/
  | sqlOpen (i : Nat) (openErr : Option GoError)
  /-- The locked insert, then return. -/
  | insert (i : Nat)

/-- The call a step belongs to. -/
def RaceAct.call : RaceAct → Nat
  | lookup i _ => i
  | sqlOpen i _ => i
  | insert i => i

/-- One atomic step, where call `i` runs `openDB(dsn i)`; `none` if the step is not enabled. -/
def Race.step (dsn : Nat → String) (s : Race) : RaceAct → Option Race
  | .lookup i err =>
    match s.pc i with
    | .start =>
      match newDSN (dsn i) with
      | .error e => some ⟨s.proc, Function.update s.pc i (.done (.error e))⟩
      | .ok d =>
        let d := d.rebuild
        if d.privateMemory then
          some ⟨(s.proc.sqlOpen d err).2, Function.update s.pc i (.done (s.proc.sqlOpen d err).1)⟩
        else
          match s.proc.index d.filename with
          | some db => some ⟨s.proc, Function.update s.pc i (.done (.ok db))⟩
          | none => some ⟨s.proc, Function.update s.pc i (.missed d)⟩
    | _ => none
  | .sqlOpen i err =>
    match s.pc i with
    | .missed d =>
      match s.proc.sqlOpen d err with
      | (.error e, p') => some ⟨p', Function.update s.pc i (.done (.error e))⟩
      | (.ok db, p') => some ⟨p', Function.update s.pc i (.opened d db)⟩
    | _ => none
  | .insert i =>
    match s.pc i with
    | .opened d db =>
      some ⟨{ s.proc with index := Function.update s.proc.index d.filename (some db) },
        Function.update s.pc i (.done (.ok db))⟩
    | _ => none

/-- `sql.Open` leaves the cache alone. -/
@[simp] theorem Process.index_sqlOpen (p : Process) (d : DSN) (err : Option GoError) :
    (p.sqlOpen d err).2.index = p.index := by
  cases err <;> rfl

/-- Everything one step can do: it moves only its own call, from `start` to a result or to a
miss, from a miss to a result or to an open handle, or from an open handle to a result; only
the insert writes the cache. -/
theorem Race.step_cases {dsn : Nat → String} {s t : Race} {a : RaceAct}
    (h : s.step dsn a = some t) :
    ∃ q, t.pc = Function.update s.pc a.call q ∧
      ((s.pc a.call = .start ∧ t.proc.index = s.proc.index ∧
          ((∃ e, newDSN (dsn a.call) = .error e ∧ q = .done (.error e)) ∨
            (∃ d, newDSN (dsn a.call) = .ok d ∧ d.privateMemory = true ∧ ∃ r, q = .done r) ∨
            (∃ d db, newDSN (dsn a.call) = .ok d ∧ d.privateMemory = false ∧
              s.proc.index d.filename = some db ∧ q = .done (.ok db)) ∨
            (∃ d, newDSN (dsn a.call) = .ok d ∧ d.privateMemory = false ∧
              s.proc.index d.filename = none ∧ q = .missed d.rebuild))) ∨
        (∃ d, s.pc a.call = .missed d ∧ t.proc.index = s.proc.index ∧
          ((∃ e, q = .done (.error e)) ∨ ∃ db, q = .opened d db)) ∨
        (∃ d db, s.pc a.call = .opened d db ∧
          t.proc.index = Function.update s.proc.index d.filename (some db) ∧
          q = .done (.ok db))) := by
  cases a with
  | lookup i err =>
    simp only [Race.step] at h
    split at h
    next hi =>
      split at h
      next e he => cases h; exact ⟨_, rfl, .inl ⟨hi, rfl, .inl ⟨e, he, rfl⟩⟩⟩
      next d hd =>
        split at h
        next hpm =>
          cases h
          exact ⟨_, rfl, .inl ⟨hi, by simp, .inr (.inl ⟨d, hd, by simpa using hpm, _, rfl⟩)⟩⟩
        next hpm =>
          have hpm' : d.privateMemory = false := by simpa using hpm
          split at h
          next db hdb =>
            cases h; exact ⟨_, rfl, .inl ⟨hi, rfl, .inr (.inr (.inl ⟨d, db, hd, hpm', hdb, rfl⟩))⟩⟩
          next hdb =>
            cases h; exact ⟨_, rfl, .inl ⟨hi, rfl, .inr (.inr (.inr ⟨d, hd, hpm', hdb, rfl⟩))⟩⟩
    next => cases h
  | sqlOpen i err =>
    simp only [Race.step] at h
    split at h
    next d hi =>
      have hidx : ∀ r p', s.proc.sqlOpen d err = (r, p') → p'.index = s.proc.index :=
        fun r p' he => by rw [← s.proc.index_sqlOpen d err, he]
      split at h
      next e p' he => cases h; exact ⟨_, rfl, .inr (.inl ⟨d, hi, hidx _ _ he, .inl ⟨e, rfl⟩⟩)⟩
      next db p' he => cases h; exact ⟨_, rfl, .inr (.inl ⟨d, hi, hidx _ _ he, .inr ⟨db, rfl⟩⟩)⟩
    next => cases h
  | insert i =>
    simp only [Race.step] at h
    split at h
    next d db hi => cases h; exact ⟨_, rfl, .inr (.inr ⟨d, db, hi, rfl, rfl⟩)⟩
    next => cases h

/-- A schedule of steps, `none` as soon as one is not enabled. -/
def runRace (dsn : Nat → String) (s : Race) : List RaceAct → Option Race
  | [] => some s
  | a :: as => (s.step dsn a).bind fun t => runRace dsn t as

/-! ### A call run alone is `openDB` -/

/-- A call run alone, from a state where it has not started, does exactly what `openDB` does:
its steps, taken back to back, return `openDB`'s result and leave `openDB`'s process state. -/
theorem runRace_solo (dsn : Nat → String) (s : Race) (i : Nat) (err : Option GoError)
    (hi : s.pc i = .start) :
    ∃ acts : List RaceAct, (∀ a ∈ acts, a.call = i) ∧
      runRace dsn s acts = some ⟨(openDB s.proc (dsn i) err).2,
        Function.update s.pc i (.done (openDB s.proc (dsn i) err).1)⟩ := by
  rcases hd : newDSN (dsn i) with e | d
  · exact ⟨[.lookup i err], by simp [RaceAct.call],
      by simp [runRace, Race.step, hi, hd, openDB]⟩
  · by_cases hpm : d.rebuild.privateMemory = true
    · exact ⟨[.lookup i err], by simp [RaceAct.call],
        by simp [runRace, Race.step, hi, hd, openDB, hpm]⟩
    · have hpm' : d.rebuild.privateMemory = false := by simpa using hpm
      rcases hx : s.proc.index d.filename with _ | db
      · rcases err with _ | e
        · exact ⟨[.lookup i none, .sqlOpen i none, .insert i], by simp [RaceAct.call], by
            simp [runRace, Race.step, hi, hd, openDB, hpm', hx, Process.sqlOpen,
              Function.update_idem]⟩
        · exact ⟨[.lookup i (some e), .sqlOpen i (some e)], by simp [RaceAct.call], by
            simp [runRace, Race.step, hi, hd, openDB, hpm', hx, Process.sqlOpen,
              Function.update_idem]⟩
      · exact ⟨[.lookup i err], by simp [RaceAct.call],
          by simp [runRace, Race.step, hi, hd, openDB, hpm', hx]⟩

/-! ### Two overlapping misses -/

/-- Two calls on `file:test.db` (not private in-memory) that both miss before either inserts:
the first returns handle `0`, the second handle `1`, and the cache keeps handle `1`. -/
theorem race_two_misses :
    newDSN "file:test.db" = .ok ⟨"file:test.db", []⟩ ∧
      (⟨"file:test.db", []⟩ : DSN).privateMemory = false ∧
      ∃ s, runRace (fun _ => "file:test.db") (Race.begin Process.init)
        [.lookup 0 none, .lookup 1 none, .sqlOpen 0 none, .sqlOpen 1 none, .insert 0, .insert 1]
          = some s ∧
        s.pc 0 = .done (.ok ⟨0⟩) ∧ s.pc 1 = .done (.ok ⟨1⟩) ∧
        s.proc.index "file:test.db" = some ⟨1⟩ :=
  ⟨rfl, rfl, _, rfl, rfl, rfl, rfl⟩

/-! ### Without overlapping misses, the handle is shared -/

/-- At most one call is between a missing lookup and its insert. -/
def Race.OneMiss (s : Race) : Prop :=
  ∀ i j, (s.pc i).inWindow → (s.pc j).inWindow → i = j

/-- The states reached from `s₀` by steps of the calls, through states that all satisfy `P`. -/
inductive Reach (dsn : Nat → String) (s₀ : Race) (P : Race → Prop) : Race → Prop
  | begin : P s₀ → Reach dsn s₀ P s₀
  | step {s t : Race} (a : RaceAct) : Reach dsn s₀ P s → s.step dsn a = some t → P t →
      Reach dsn s₀ P t

theorem Reach.holds {dsn : Nat → String} {s₀ : Race} {P : Race → Prop} {s : Race}
    (hs : Reach dsn s₀ P s) : P s := by
  cases hs <;> assumption

/-- What a call's position says about the cache slot `cached` of the file name `fn`, when all
calls open `fn`: a call between its miss and its insert sees the slot empty, and a call that
returned a handle returned the one in the slot. -/
def OpenPc.Agrees (fn : String) (cached : Option DB) : OpenPc → Prop
  | .start => True
  | .missed d => d.filename = fn ∧ cached = none
  | .opened d _ => d.filename = fn ∧ cached = none
  | .done (.ok db) => cached = some db
  | .done (.error _) => True

/-- Every call agrees with the cache slot of `fn`. -/
def Race.Shared (fn : String) (s : Race) : Prop :=
  ∀ i, (s.pc i).Agrees fn (s.proc.index fn)

theorem Race.oneMiss_begin (p : Process) : (Race.begin p).OneMiss :=
  fun i _ hi => by simp [Race.begin, OpenPc.inWindow] at hi

theorem Race.shared_begin (fn : String) (p : Process) : (Race.begin p).Shared fn :=
  fun _ => trivial

section Shared

variable {dsn : Nat → String} {fn : String} {s t : Race}

/-- A step that leaves the slot of `fn` alone keeps every call in agreement, if the call that
moved agrees. -/
theorem Race.Shared.update_of_index (hs : s.Shared fn) {i : Nat} {q : OpenPc}
    (hpc : t.pc = Function.update s.pc i q) (hidx : t.proc.index = s.proc.index)
    (hq : q.Agrees fn (s.proc.index fn)) : t.Shared fn := by
  intro j
  rw [hpc, hidx]
  rcases eq_or_ne j i with rfl | hj
  · rwa [Function.update_same]
  · rw [Function.update_noteq hj]
    exact hs j

/-- One step keeps every call in agreement with the slot of `fn`, when every DSN names `fn`
and is not private in-memory, and no other call is between a miss and its insert. -/
theorem Race.Shared.step
    (hdsn : ∀ i d, newDSN (dsn i) = .ok d → d.filename = fn ∧ d.privateMemory = false)
    (hs : s.Shared fn) (hone : s.OneMiss) {a : RaceAct} (h : s.step dsn a = some t) :
    t.Shared fn := by
  obtain ⟨q, hpc, hcase⟩ := Race.step_cases h
  rcases hcase with ⟨-, hidx, ⟨e, -, rfl⟩ | ⟨d, hd, hpm, -⟩ | ⟨d, db, hd, -, hdb, rfl⟩ |
      ⟨d, hd, -, hdb, rfl⟩⟩ | ⟨d, hi, hidx, ⟨e, rfl⟩ | ⟨db, rfl⟩⟩ | ⟨d, db, hi, hidx, rfl⟩
  -- the lookup: a parse error, a private DSN (ruled out), a hit, a miss
  · exact hs.update_of_index hpc hidx trivial
  · simp [(hdsn _ d hd).2] at hpm
  · exact hs.update_of_index hpc hidx (by rwa [← (hdsn _ d hd).1])
  · exact hs.update_of_index hpc hidx ⟨by simp [(hdsn _ d hd).1], by rwa [← (hdsn _ d hd).1]⟩
  -- `sql.Open`: an error, or a handle
  · exact hs.update_of_index hpc hidx trivial
  · have := hs a.call
    rw [hi] at this
    exact hs.update_of_index hpc hidx this
  -- the insert fills the slot, which no other call is waiting on
  · obtain ⟨hfn, hnone⟩ : d.filename = fn ∧ s.proc.index fn = none := by
      simpa [hi, OpenPc.Agrees] using hs a.call
    intro j
    rw [hpc, hidx, hfn, Function.update_same]
    rcases eq_or_ne j a.call with rfl | hj
    · simp [OpenPc.Agrees]
    · have hwin : (s.pc j).inWindow = false := by
        cases hw : (s.pc j).inWindow
        · rfl
        · exact absurd (hone j a.call hw (by simp [hi, OpenPc.inWindow])) hj
      have hj' := hs j
      rw [Function.update_noteq hj]
      rw [hnone] at hj'
      rcases hpj : s.pc j with _ | _ | _ | (_ | _) <;>
        simp_all [OpenPc.Agrees, OpenPc.inWindow]

/-- Along a run through states with at most one call between a miss and its insert, every
call agrees with the slot of `fn`. -/
theorem Reach.shared
    (hdsn : ∀ i d, newDSN (dsn i) = .ok d → d.filename = fn ∧ d.privateMemory = false)
    {p₀ : Process} (hs : Reach dsn (Race.begin p₀) Race.OneMiss s) : s.Shared fn := by
  induction hs with
  | begin _ => exact Race.shared_begin fn p₀
  | step a hr h _ ih =>
    exact ih.step hdsn hr.holds h

/-- **Without overlapping misses, every call that returned a handle returned the same one, the
one left in the cache**, when every DSN names the file `fn` and is not private in-memory. -/
theorem reach_oneMiss_shared (dsn : Nat → String) (fn : String) (p₀ : Process)
    (hdsn : ∀ i d, newDSN (dsn i) = .ok d → d.filename = fn ∧ d.privateMemory = false)
    (s : Race) (hs : Reach dsn (Race.begin p₀) Race.OneMiss s) (i j : Nat) (dbi dbj : DB)
    (hi : s.pc i = .done (.ok dbi)) (hj : s.pc j = .done (.ok dbj)) :
    dbi = dbj ∧ s.proc.index fn = some dbi := by
  have hci : s.proc.index fn = some dbi := by simpa [hi, OpenPc.Agrees] using hs.shared hdsn i
  have hcj : s.proc.index fn = some dbj := by simpa [hj, OpenPc.Agrees] using hs.shared hdsn j
  exact ⟨Option.some.inj (hci.symm.trans hcj), hci⟩

end Shared

/-! ### Calls that do not overlap -/

/-- While every call but `i` is out of its window, at most one call is in its window. -/
theorem Race.oneMiss_of_solo {s : Race} {i : Nat}
    (hw : ∀ j, j ≠ i → (s.pc j).inWindow = false) : s.OneMiss := by
  have key : ∀ j, (s.pc j).inWindow → j = i := fun j hj => by
    by_contra h
    simp [hw j h] at hj
  exact fun j k hj hk => (key j hj).trans (key k hk).symm

/-- The steps of call `i` alone, from a reachable state where every other call is out of its
window, pass only through states with at most one call in its window. -/
theorem Reach.of_soloRun {dsn : Nat → String} {s₀ : Race} {i : Nat} :
    ∀ {s t : Race} (acts : List RaceAct), Reach dsn s₀ Race.OneMiss s →
      (∀ j, j ≠ i → (s.pc j).inWindow = false) → (∀ a ∈ acts, a.call = i) →
      runRace dsn s acts = some t → Reach dsn s₀ Race.OneMiss t
  | _, _, [], hs, _, _, h => by cases h; exact hs
  | _, _, a :: as, hs, hw, ha, h => by
    obtain ⟨u, hu, h⟩ := Option.bind_eq_some.1 h
    obtain ⟨q, hpc, -⟩ := Race.step_cases hu
    have hw' : ∀ j, j ≠ i → (u.pc j).inWindow = false := fun j hj => by
      rw [hpc, ha a (List.mem_cons_self a as), Function.update_noteq hj]
      exact hw j hj
    exact Reach.of_soloRun as (hs.step a hu (Race.oneMiss_of_solo hw')) hw'
      (fun b hb => ha b (List.mem_cons_of_mem a hb)) h

/-- A call run alone from a reachable state where no call is in its window reaches `openDB`'s
result through states with at most one call in its window: calls that do not overlap meet the
condition of `reach_oneMiss_shared`. -/
theorem Reach.solo {dsn : Nat → String} {s₀ s : Race} (hs : Reach dsn s₀ Race.OneMiss s)
    (hw : ∀ j, (s.pc j).inWindow = false) (i : Nat) (hi : s.pc i = .start)
    (err : Option GoError) :
    Reach dsn s₀ Race.OneMiss ⟨(openDB s.proc (dsn i) err).2,
      Function.update s.pc i (.done (openDB s.proc (dsn i) err).1)⟩ := by
  obtain ⟨acts, hacts, hrun⟩ := runRace_solo dsn s i err hi
  exact Reach.of_soloRun acts hs (fun j _ => hw j) hacts hrun

/-- A returned call is out of its window. -/
theorem inWindow_update_done {pc : Nat → OpenPc} (hw : ∀ j, (pc j).inWindow = false) (i : Nat)
    (r : Except GoError DB) (j : Nat) : (Function.update pc i (.done r) j).inWindow = false := by
  rcases eq_or_ne j i with rfl | hj
  · rw [Function.update_same]; rfl
  · rw [Function.update_noteq hj]; exact hw j

/-- Two calls on `file:test.db`, one after the other, both return handle `0`, the cached one. -/
theorem reach_oneMiss_shared_sequential :
    let dsn : Nat → String := fun _ => "file:test.db"
    let s₀ := Race.begin Process.init
    let s₁ : Race := ⟨(openDB s₀.proc (dsn 0) none).2,
      Function.update s₀.pc 0 (.done (openDB s₀.proc (dsn 0) none).1)⟩
    let s₂ : Race := ⟨(openDB s₁.proc (dsn 1) none).2,
      Function.update s₁.pc 1 (.done (openDB s₁.proc (dsn 1) none).1)⟩
    (∀ i d, newDSN (dsn i) = .ok d → d.filename = "file:test.db" ∧ d.privateMemory = false) ∧
      Reach dsn s₀ Race.OneMiss s₂ ∧ s₂.pc 0 = .done (.ok ⟨0⟩) ∧ s₂.pc 1 = .done (.ok ⟨0⟩) ∧
      s₂.proc.index "file:test.db" = some ⟨0⟩ := by
  intro dsn s₀ s₁ s₂
  have hdsn : ∀ i d, newDSN (dsn i) = .ok d →
      d.filename = "file:test.db" ∧ d.privateMemory = false := fun _ d hd => by
    have h : newDSN "file:test.db" = .ok ⟨"file:test.db", []⟩ := rfl
    change newDSN "file:test.db" = _ at hd
    rw [h] at hd
    cases hd
    exact ⟨rfl, rfl⟩
  have hw₀ : ∀ j, (s₀.pc j).inWindow = false := fun _ => rfl
  have hs₁ : Reach dsn s₀ Race.OneMiss s₁ :=
    (Reach.begin (Race.oneMiss_begin _)).solo hw₀ 0 rfl none
  have hs₂ : Reach dsn s₀ Race.OneMiss s₂ :=
    hs₁.solo (inWindow_update_done hw₀ 0 _) 1 rfl none
  exact ⟨hdsn, hs₂, rfl, rfl,
    (reach_oneMiss_shared dsn "file:test.db" Process.init hdsn s₂ hs₂ 0 1 ⟨0⟩ ⟨0⟩ rfl rfl).2⟩

end ThunderDB.Sqlite
