/-
**Opening databases: the process-wide handle cache.**

`openDB(dsn)` parses the DSN, forces two parameters, and then either opens a fresh handle (for
a private in-memory database: file name `:memory:` or `mode=memory`, without `cache=shared`)
or looks the parsed file name up in the process-wide map `index.db`, opening and storing a
handle on a miss.  Here each call is one step of the process; `ThunderDB.Storage.OpenDBRace`
takes the three atomic parts of a call apart.

The cache is keyed by the file name alone.  A DSN for an on-disk database and one for a shared
in-memory database with the same file name therefore share one handle, whichever was opened
first; a private in-memory DSN always gets a fresh handle that never enters the cache.

Main definitions:

* `ThunderDB.Sqlite.DB`, `ThunderDB.Sqlite.Process` — handles, and the process-wide state
  (the cache, and what `sql.Open` has opened);
* `ThunderDB.Sqlite.Process.sqlOpen` — `sql.Open("sqlite3", d.Format())`;
* `ThunderDB.Sqlite.openDB`, `ThunderDB.Sqlite.runOpens` — one call, and a sequence of calls.

Main results:

* `ThunderDB.Sqlite.openDB_cases` — everything one call can do;
* `ThunderDB.Sqlite.openDB_disk_then_shared_memory` — a shared in-memory DSN receives the
  handle of the on-disk database of the same file name;
* `ThunderDB.Sqlite.openDB_handle_origin` — **private in-memory DSNs get fresh handles that are
  never cached; every other DSN gets a handle opened for a non-private DSN of its file name, and
  every later call on that file name gets it too**;
* `ThunderDB.Sqlite.openDB_memoized` — **calls in sequence share one handle per file name**:
  once cached, a handle is returned to every later call on that file name;
* `ThunderDB.Sqlite.runOpens_opens_once` — **calls in sequence open each database at most
  once with success**.
-/

import ThunderDB.Storage.DSN
import Mathlib.Logic.Function.Basic
import Mathlib.Data.List.Nodup

set_option autoImplicit false

namespace ThunderDB.Sqlite

/-! ### The process -/

/-- A `*sql.DB`, by identity. -/
structure DB where
  id : Nat
  deriving DecidableEq

/-- The process-wide state `openDB` reads and writes: the cache `index.db`, keyed by file name,
and the DSNs `sql.Open` has opened, the handle numbered `i` on `opened[i]`. -/
structure Process where
  index : String → Option DB
  opened : List DSN

/-- A process before any call: the cache is empty. -/
def Process.init : Process := ⟨fun _ => none, []⟩

/-- `sql.Open("sqlite3", d.Format())`: a fresh handle on `d`, or the driver's error `err`. -/
def Process.sqlOpen (p : Process) (d : DSN) : Option GoError → Except GoError DB × Process
  | some e => (.error e, p)
  | none => (.ok ⟨p.opened.length⟩, { p with opened := p.opened ++ [d] })

/-- `openDB(dsn)`, where `sql.Open` fails with `openErr` if it is given. -/
def openDB (p : Process) (dsn : String) (openErr : Option GoError) : Except GoError DB × Process :=
  match newDSN dsn with
  | .error e => (.error e, p)
  | .ok d =>
    let d := d.rebuild
    if d.privateMemory then p.sqlOpen d openErr
    else
      match p.index d.filename with
      | some db => (.ok db, p)
      | none =>
        match p.sqlOpen d openErr with
        | (.error e, p') => (.error e, p')
        | (.ok db, p') => (.ok db, { p' with index := Function.update p'.index d.filename (some db) })

/-- The calls `openDB(dsn)` for each `(dsn, openErr)` of `calls`, in order. -/
def runOpens (p : Process) (calls : List (String × Option GoError)) : Process :=
  calls.foldl (fun p c => (openDB p c.1 c.2).2) p

/-! ### What one call can do -/

/-- Everything one call can do: fail and change nothing; open a fresh handle for a private
in-memory DSN; return the cached handle of the file name; or open a fresh handle and cache it
under the file name. -/
theorem openDB_cases (p : Process) (dsn : String) (err : Option GoError) :
    ((openDB p dsn err).2 = p ∧ ∀ db, (openDB p dsn err).1 ≠ .ok db) ∨
    ∃ d, newDSN dsn = .ok d ∧
      ((d.privateMemory = true ∧ (openDB p dsn err).1 = .ok ⟨p.opened.length⟩ ∧
          (openDB p dsn err).2 = { p with opened := p.opened ++ [d.rebuild] }) ∨
        (d.privateMemory = false ∧ ∃ db, p.index d.filename = some db ∧
          (openDB p dsn err).1 = .ok db ∧ (openDB p dsn err).2 = p) ∨
        (d.privateMemory = false ∧ p.index d.filename = none ∧
          (openDB p dsn err).1 = .ok ⟨p.opened.length⟩ ∧
          (openDB p dsn err).2 = ⟨Function.update p.index d.filename (some ⟨p.opened.length⟩),
            p.opened ++ [d.rebuild]⟩)) := by
  rcases hd : newDSN dsn with e | d
  · exact .inl ⟨by simp [openDB, hd], by simp [openDB, hd]⟩
  · by_cases hpm : d.privateMemory = true
    · rcases err with _ | e
      · exact .inr ⟨d, rfl, .inl ⟨hpm, by simp [openDB, hd, hpm, Process.sqlOpen],
          by simp [openDB, hd, hpm, Process.sqlOpen]⟩⟩
      · exact .inl ⟨by simp [openDB, hd, hpm, Process.sqlOpen],
          by simp [openDB, hd, hpm, Process.sqlOpen]⟩
    · have hpm' : d.privateMemory = false := by simpa using hpm
      rcases hi : p.index d.filename with _ | db
      · rcases err with _ | e
        · exact .inr ⟨d, rfl, .inr (.inr ⟨hpm', hi, by simp [openDB, hd, hpm', hi,
            Process.sqlOpen], by simp [openDB, hd, hpm', hi, Process.sqlOpen]⟩)⟩
        · exact .inl ⟨by simp [openDB, hd, hpm', hi, Process.sqlOpen],
            by simp [openDB, hd, hpm', hi, Process.sqlOpen]⟩
      · exact .inr ⟨d, rfl, .inr (.inl ⟨hpm', db, hi, by simp [openDB, hd, hpm', hi],
          by simp [openDB, hd, hpm', hi]⟩)⟩

/-! ### Sharing by file name -/

/-- An on-disk DSN, then a shared in-memory DSN with the same file name: both receive the
handle opened for the on-disk database. -/
theorem openDB_disk_then_shared_memory :
    let p₁ := (openDB Process.init "file:test.db" none).2
    newDSN "file:test.db" = .ok ⟨"file:test.db", []⟩ ∧
      newDSN "file:test.db?mode=memory&cache=shared" =
        .ok ⟨"file:test.db", [("mode", "memory"), ("cache", "shared")]⟩ ∧
      (openDB Process.init "file:test.db" none).1 = .ok ⟨0⟩ ∧
      (openDB p₁ "file:test.db?mode=memory&cache=shared" none).1 = .ok ⟨0⟩ :=
  ⟨rfl, rfl, rfl, rfl⟩

/-! ### One handle per file name -/

/-- A call never changes a cache entry that is there. -/
theorem openDB_index_of_some {p : Process} {fn : String} {db : DB} (h : p.index fn = some db)
    (dsn : String) (err : Option GoError) : (openDB p dsn err).2.index fn = some db := by
  rcases openDB_cases p dsn err with ⟨hp, -⟩ | ⟨d, -, ⟨-, -, hp⟩ | ⟨-, -, -, -, hp⟩ | ⟨-, hi, -, hp⟩⟩ <;>
    rw [hp]
  · exact h
  · exact h
  · exact h
  · have hfn : fn ≠ d.filename := fun he => by rw [he, hi] at h; cases h
    simp [Function.update_noteq hfn, h]

theorem runOpens_index_of_some {fn : String} {db : DB} :
    ∀ (calls : List (String × Option GoError)) {p : Process}, p.index fn = some db →
      (runOpens p calls).index fn = some db
  | [], _, h => h
  | c :: cs, _, h => runOpens_index_of_some cs (openDB_index_of_some h c.1 c.2)

/-- A call on a DSN that is not private in-memory and returns `db` leaves `db` cached under the
DSN's file name. -/
theorem openDB_cached {p : Process} {dsn : String} {err : Option GoError} {d : DSN} {db : DB}
    (hd : newDSN dsn = .ok d) (hpm : d.privateMemory = false) (h : (openDB p dsn err).1 = .ok db) :
    (openDB p dsn err).2.index d.filename = some db := by
  rcases openDB_cases p dsn err with ⟨-, hne⟩ | ⟨d₀, hd₀, hc⟩
  · exact absurd h (hne db)
  rw [hd, Except.ok.injEq] at hd₀
  subst hd₀
  rcases hc with ⟨hpm', -⟩ | ⟨-, db', hi, hr, hp⟩ | ⟨-, -, hr, hp⟩
  · simp [hpm] at hpm'
  · rw [hp, hi, Except.ok.inj (hr.symm.trans h)]
  · rw [hp, ← Except.ok.inj (hr.symm.trans h)]
    simp

/-- A call on a DSN that is not private in-memory, whose file name is cached, returns the cached
handle and changes nothing, whatever `sql.Open` would answer. -/
theorem openDB_hit {p : Process} {dsn : String} {d : DSN} {db : DB} (hd : newDSN dsn = .ok d)
    (hpm : d.privateMemory = false) (hi : p.index d.filename = some db) (err : Option GoError) :
    openDB p dsn err = (.ok db, p) := by
  simp [openDB, hd, hpm, hi]

/-! ### Where a handle comes from -/

/-- Every cached handle was opened for a DSN that is not private in-memory and whose file name
is its key. -/
def Process.CacheWF (p : Process) : Prop :=
  ∀ fn db, p.index fn = some db →
    ∃ d, p.opened[db.id]? = some d ∧ d.filename = fn ∧ d.privateMemory = false

theorem Process.cacheWF_init : Process.init.CacheWF := fun _ _ h => nomatch h

/-- A call only adds to what `sql.Open` has opened. -/
theorem openDB_opened (p : Process) (dsn : String) (err : Option GoError) :
    ∃ l, (openDB p dsn err).2.opened = p.opened ++ l := by
  rcases openDB_cases p dsn err with ⟨h, -⟩ | ⟨d, -, ⟨-, -, h⟩ | ⟨-, db, -, -, h⟩ | ⟨-, -, -, h⟩⟩ <;>
    rw [h]
  exacts [⟨[], by simp⟩, ⟨[d.rebuild], rfl⟩, ⟨[], by simp⟩, ⟨[d.rebuild], rfl⟩]

theorem runOpens_opened (p : Process) (calls : List (String × Option GoError)) :
    ∃ l, (runOpens p calls).opened = p.opened ++ l := by
  induction calls generalizing p with
  | nil => exact ⟨[], by simp [runOpens]⟩
  | cons c cs ih =>
      obtain ⟨l₁, h₁⟩ := openDB_opened p c.1 c.2
      obtain ⟨l₂, h₂⟩ := ih (openDB p c.1 c.2).2
      exact ⟨l₁ ++ l₂, by simp [runOpens] at h₂ ⊢; rw [h₂, h₁, List.append_assoc]⟩

/-- One call keeps the cache well formed. -/
theorem openDB_cacheWF {p : Process} (hp : p.CacheWF) (dsn : String) (err : Option GoError) :
    (openDB p dsn err).2.CacheWF := by
  have hold : ∀ fn db, p.index fn = some db → ∃ d, (openDB p dsn err).2.opened[db.id]? = some d ∧
      d.filename = fn ∧ d.privateMemory = false := by
    intro fn db h
    obtain ⟨d, hd, h⟩ := hp fn db h
    obtain ⟨l, hl⟩ := openDB_opened p dsn err
    exact ⟨d, by rw [hl, List.getElem?_append_left (List.getElem?_eq_some_iff.1 hd).1, hd], h⟩
  rcases openDB_cases p dsn err with ⟨h, -⟩ | ⟨d, -, ⟨-, -, h⟩ | ⟨-, db, -, -, h⟩ | ⟨hpm, -, -, h⟩⟩
  · rw [h]; exact hp
  · intro fn db hdb; rw [h] at hdb; exact hold fn db hdb
  · rw [h]; exact hp
  · intro fn db hdb
    rw [h] at hdb ⊢
    dsimp only at hdb ⊢
    by_cases hfn : fn = d.filename
    · subst hfn
      simp only [Function.update_same, Option.some.injEq] at hdb
      subst hdb
      exact ⟨d.rebuild, by simp, by simp, by simp [hpm]⟩
    · rw [Function.update_noteq hfn] at hdb
      have := hold fn db hdb
      rwa [h] at this

theorem runOpens_cacheWF {p : Process} (hp : p.CacheWF) (calls : List (String × Option GoError)) :
    (runOpens p calls).CacheWF := by
  induction calls generalizing p with
  | nil => exact hp
  | cons c cs ih => exact ih (openDB_cacheWF hp c.1 c.2)

/-- A handle opened for a private in-memory DSN is not in a well-formed cache. -/
theorem not_cached_of_privateMemory {p : Process} (hp : p.CacheWF) {db : DB} {d : DSN}
    (hd : p.opened[db.id]? = some d) (hpm : d.privateMemory = true) (fn : String) :
    p.index fn ≠ some db := by
  intro h
  obtain ⟨d', hd', -, hpm'⟩ := hp fn db h
  rw [hd, Option.some.injEq] at hd'
  subst hd'
  simp_all

/-- **Private in-memory DSNs get fresh handles that are never cached; every other DSN gets a
handle opened for a DSN of its file name that is not private in-memory, and shares it with every
later call on that file name.**  Take any sequence of `openDB` calls, then one more call on
`dsn` that returns the handle `db`.  If `dsn` is private in-memory, `db` is a handle never
handed out before, and no later sequence of calls puts it in the cache.  Otherwise `db` was
opened for a DSN with the file name of `dsn` that is not private in-memory — possibly with other
`mode` and `cache` parameters — and after any later calls, a call on any DSN of that file name
that is not private in-memory returns `db`: the cache key is the file name alone. -/
theorem openDB_handle_origin (pre post : List (String × Option GoError)) (dsn : String)
    (err : Option GoError) (d : DSN) (db : DB) (hd : newDSN dsn = .ok d)
    (h : (openDB (runOpens .init pre) dsn err).1 = .ok db) :
    let p := runOpens .init pre
    let p' := (openDB p dsn err).2
    (d.privateMemory = true →
      db.id = p.opened.length ∧ ∀ fn, (runOpens p' post).index fn ≠ some db) ∧
    (d.privateMemory = false →
      (∃ d', p'.opened[db.id]? = some d' ∧ d'.filename = d.filename ∧ d'.privateMemory = false) ∧
      ∀ dsn' err' d', newDSN dsn' = .ok d' → d'.privateMemory = false → d'.filename = d.filename →
        openDB (runOpens p' post) dsn' err' = (.ok db, runOpens p' post)) := by
  dsimp only
  generalize hpdef : runOpens Process.init pre = p at h ⊢
  have hp : p.CacheWF := hpdef ▸ runOpens_cacheWF Process.cacheWF_init pre
  rcases openDB_cases p dsn err with ⟨-, hne⟩ | ⟨d₀, hd₀, hc⟩
  · exact absurd h (hne db)
  rw [hd, Except.ok.injEq] at hd₀
  subst hd₀
  -- a later call on the file name finds `db` where this call cached it
  refine ⟨fun hpm => ?_, fun hpm => ⟨?_, fun _ err' _ hd' hpm' hfn =>
    openDB_hit hd' hpm' (hfn ▸ runOpens_index_of_some post (openDB_cached hd hpm h)) err'⟩⟩
  · -- private in-memory: a handle numbered after every handle opened before, never cached
    rcases hc with ⟨-, hr, hp'⟩ | ⟨hpm', -⟩ | ⟨hpm', -⟩
    · rw [h, Except.ok.injEq] at hr
      subst hr
      obtain ⟨l, hl⟩ := runOpens_opened (openDB p dsn err).2 post
      refine ⟨rfl, not_cached_of_privateMemory (runOpens_cacheWF (openDB_cacheWF hp dsn err) post)
        (d := d.rebuild) ?_ (by simp [hpm])⟩
      rw [hl, hp']
      simp [List.getElem_append_right]
    all_goals simp [hpm] at hpm'
  · -- otherwise: the cached handle, or the one this call opened and cached
    rcases hc with ⟨hpm', -⟩ | ⟨-, db', hi, hr, hp'⟩ | ⟨-, -, hr, hp'⟩
    · simp [hpm] at hpm'
    · rw [h, Except.ok.injEq] at hr
      subst hr
      obtain ⟨d', hd', hfn, hpm'⟩ := hp _ _ hi
      exact ⟨d', by rw [hp']; exact hd', hfn, hpm'⟩
    · rw [h, Except.ok.injEq] at hr
      subst hr
      exact ⟨d.rebuild, by rw [hp']; simp, by simp, by simp [hpm]⟩

/-- An on-disk DSN, then a shared in-memory DSN of the same file name: the second call returns
the handle opened for the first DSN, which has that file name and is not private in-memory; after
a call on another database, the on-disk DSN gets that handle again, even where `sql.Open` would
fail. -/
theorem openDB_handle_origin_shared :
    let pre := [("file:test.db", none)]
    let p' := (openDB (runOpens .init pre) "file:test.db?mode=memory&cache=shared" none).2
    let q := runOpens p' [("file:other.db", none)]
    newDSN "file:test.db?mode=memory&cache=shared" =
        .ok ⟨"file:test.db", [("mode", "memory"), ("cache", "shared")]⟩ ∧
      (openDB (runOpens .init pre) "file:test.db?mode=memory&cache=shared" none).1 = .ok ⟨0⟩ ∧
      (∃ d', p'.opened[0]? = some d' ∧ d'.filename = "file:test.db" ∧ d'.privateMemory = false) ∧
      openDB q "file:test.db" (some ⟨"unable to open database file"⟩) = (.ok ⟨0⟩, q) := by
  have h := (openDB_handle_origin [("file:test.db", none)] [("file:other.db", none)]
    "file:test.db?mode=memory&cache=shared" none
    ⟨"file:test.db", [("mode", "memory"), ("cache", "shared")]⟩ ⟨0⟩ rfl rfl).2 rfl
  exact ⟨rfl, rfl, h.1, h.2 "file:test.db" _ ⟨"file:test.db", []⟩ rfl rfl rfl⟩

/-- **Calls in sequence share one handle per file name.**  From any state of the process: once
a call on a DSN that is not private in-memory has returned the handle `db`, every later call on
a DSN with the same file name that is not private in-memory — whatever other calls come between
and whatever its `mode` and `cache` parameters — returns `db` again, opens nothing and changes
nothing, even if `sql.Open` would have failed. -/
theorem openDB_memoized (p : Process) (mid : List (String × Option GoError)) (dsn₁ dsn₂ : String)
    (err₁ err₂ : Option GoError) {d₁ d₂ : DSN} (hd₁ : newDSN dsn₁ = .ok d₁)
    (hd₂ : newDSN dsn₂ = .ok d₂) (hpm₁ : d₁.privateMemory = false)
    (hpm₂ : d₂.privateMemory = false) (hfn : d₂.filename = d₁.filename) {db : DB}
    (h : (openDB p dsn₁ err₁).1 = .ok db) :
    let q := runOpens (openDB p dsn₁ err₁).2 mid
    openDB q dsn₂ err₂ = (.ok db, q) :=
  openDB_hit hd₂ hpm₂ (hfn ▸ runOpens_index_of_some mid (openDB_cached hd₁ hpm₁ h)) err₂

/-- Every DSN `sql.Open` opened that is not private in-memory has its handle cached under its
file name. -/
def Process.Cached (p : Process) : Prop :=
  ∀ i d, p.opened[i]? = some d → d.privateMemory = false → p.index d.filename = some ⟨i⟩

theorem Process.cached_init : Process.init.Cached := fun _ _ h => nomatch h

theorem getElem?_concat_eq_some {l : List DSN} {x d : DSN} {i : Nat} (h : (l ++ [x])[i]? = some d) :
    l[i]? = some d ∨ (i = l.length ∧ d = x) := by
  rcases Nat.lt_or_ge i l.length with hi | hi
  · exact .inl (by rwa [List.getElem?_append_left hi] at h)
  · rw [List.getElem?_append_right hi] at h
    obtain ⟨hi', rfl⟩ : i - l.length = 0 ∧ x = d := by simpa [List.getElem?_cons] using h
    exact .inr ⟨by omega, rfl⟩

/-- One call keeps every opened DSN that is not private in-memory cached. -/
theorem openDB_cached_all {p : Process} (hp : p.Cached) (dsn : String) (err : Option GoError) :
    (openDB p dsn err).2.Cached := by
  rcases openDB_cases p dsn err with ⟨h, -⟩ | ⟨d, -, ⟨hpm, -, h⟩ | ⟨-, -, -, -, h⟩ | ⟨-, hi, -, h⟩⟩ <;>
    rw [h]
  · exact hp
  · intro i d' hd' hpm'
    rcases getElem?_concat_eq_some hd' with hd' | ⟨-, rfl⟩
    · exact hp i d' hd' hpm'
    · simp [hpm] at hpm'
  · exact hp
  · intro i d' hd' hpm'
    rcases getElem?_concat_eq_some hd' with hd' | ⟨rfl, rfl⟩
    · have hne : d'.filename ≠ d.filename := fun he => by
        have := hp i d' hd' hpm'
        rw [he, hi] at this
        cases this
      simp [Function.update_noteq hne, hp i d' hd' hpm']
    · simp

/-- The file names of the DSNs `sql.Open` opened that are not private in-memory, in order. -/
def Process.sharedNames (p : Process) : List String :=
  (p.opened.filter fun d => !d.privateMemory).map DSN.filename

/-- A call opens a DSN that is not private in-memory only on a miss, and a file name a
successful open left behind is cached: the file names opened stay distinct. -/
theorem openDB_sharedNames {p : Process} (hp : p.Cached) (hn : p.sharedNames.Nodup)
    (dsn : String) (err : Option GoError) : (openDB p dsn err).2.sharedNames.Nodup := by
  rcases openDB_cases p dsn err with ⟨h, -⟩ | ⟨d, -, ⟨hpm, -, h⟩ | ⟨-, -, -, -, h⟩ | ⟨hpm, hi, -, h⟩⟩ <;>
    rw [h]
  · exact hn
  · simpa [Process.sharedNames, hpm] using hn
  · exact hn
  · -- the miss: the new file name had no entry, so no handle opened before has it
    have hnew : d.filename ∉ p.sharedNames := fun hmem => by
      obtain ⟨e, he, hfn⟩ := List.mem_map.1 hmem
      obtain ⟨he, hpe⟩ := List.mem_filter.1 he
      obtain ⟨i, hei⟩ := List.mem_iff_getElem?.1 he
      have := hp i e hei (by simpa using hpe)
      rw [hfn, hi] at this
      cases this
    have : (⟨Function.update p.index d.filename (some ⟨p.opened.length⟩),
        p.opened ++ [d.rebuild]⟩ : Process).sharedNames = p.sharedNames ++ [d.filename] := by
      simp [Process.sharedNames, List.filter_append, hpm]
    rw [this, List.nodup_append_comm]
    exact List.nodup_cons.2 ⟨hnew, hn⟩

theorem runOpens_sharedNames {p : Process} (hp : p.Cached) (hn : p.sharedNames.Nodup) :
    ∀ calls, (runOpens p calls).sharedNames.Nodup
  | [] => hn
  | c :: cs => runOpens_sharedNames (openDB_cached_all hp c.1 c.2) (openDB_sharedNames hp hn c.1 c.2) cs

/-- **Calls in sequence open each database at most once with success.**  Over every sequence of
`openDB` calls in one process, no two successful `sql.Open` calls are for DSNs of the same file
name that are not private in-memory, whatever their `mode` and `cache` parameters and whatever
`sql.Open` answers: a successful open is cached and found by every later call.  A failed open
leaves nothing behind, so the next call on its file name calls `sql.Open` again.  (Calls that
overlap can open a file twice, `ThunderDB.Sqlite.race_two_misses`.) -/
theorem runOpens_opens_once (calls : List (String × Option GoError)) :
    (runOpens .init calls).sharedNames.Nodup :=
  runOpens_sharedNames Process.cached_init List.nodup_nil calls

example : (runOpens .init [("file:test.db", some ⟨"unable to open database file"⟩),
    ("file:test.db?mode=memory&cache=shared", none), ("file:test.db", none)]).sharedNames =
    ["file:test.db"] := by decide

/-- An on-disk DSN, another database, then a shared in-memory DSN of the first file name whose
`sql.Open` would fail: the third call returns the first handle. -/
theorem openDB_memoized_shared_after_disk :
    let d₁ : DSN := ⟨"file:test.db", []⟩
    let d₂ : DSN := ⟨"file:test.db", [("mode", "memory"), ("cache", "shared")]⟩
    let q := runOpens (openDB .init "file:test.db" none).2 [("file:other.db", none)]
    newDSN "file:test.db" = .ok d₁ ∧ newDSN "file:test.db?mode=memory&cache=shared" = .ok d₂ ∧
      d₁.privateMemory = false ∧ d₂.privateMemory = false ∧ d₂.filename = d₁.filename ∧
      (openDB .init "file:test.db" none).1 = .ok ⟨0⟩ ∧
      openDB q "file:test.db?mode=memory&cache=shared" (some ⟨"unable to open database file"⟩) =
        (.ok ⟨0⟩, q) :=
  ⟨rfl, rfl, rfl, rfl, rfl, rfl, openDB_memoized .init [("file:other.db", none)] "file:test.db"
    "file:test.db?mode=memory&cache=shared" none (some ⟨"unable to open database file"⟩) rfl rfl
    rfl rfl rfl rfl⟩

end ThunderDB.Sqlite
