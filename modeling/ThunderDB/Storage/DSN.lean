/-
**Data source names of the storage.**

`openDB` parses its data source name with `NewDSN` and reads it through `GetFileName`,
`GetParam` and `AddParam`, all from `storage/dsn.go`, which the sources do not include (only
its test, `TestDSN`, is there).  This module models that part from the spec: a DSN is
`<filename>[?<k>=<v>[&<k>=<v>…]]`, its parameters keep their insertion order, repeated keys are
kept, and `AddParam` appends.  As `TestDSN` sets the file name `file:/dev/null`, the file name
is everything before the first `?`, prefix included.

Main definitions:

* `ThunderDB.Sqlite.DSN`, `ThunderDB.Sqlite.newDSN` — a parsed DSN and the parser;
* `ThunderDB.Sqlite.DSN.addParam`, `ThunderDB.Sqlite.DSN.getParam`,
  `ThunderDB.Sqlite.DSN.getFileName` — the accessors `openDB` uses;
* `ThunderDB.Sqlite.DSN.rebuild`, `ThunderDB.Sqlite.DSN.privateMemory` — the two parameters
  `openDB` forces, and its test for a private in-memory database.

Main results:

* `ThunderDB.Sqlite.DSN.filename_rebuild`, `ThunderDB.Sqlite.DSN.privateMemory_rebuild` — the
  forced parameters change neither the file name nor the test.
-/

import ThunderDB.Storage.Worker

set_option autoImplicit false

namespace ThunderDB.Sqlite

/-! ### Parsing -/

/-- `s` cut at the first `c`: what comes before it, and what comes after it if it occurs. -/
def cutAt (c : Char) : List Char → List Char × Option (List Char)
  | [] => ([], none)
  | x :: xs => if x = c then ([], some xs) else ((x :: (cutAt c xs).1), (cutAt c xs).2)

/-- `s` cut at every `c`. -/
def splitAll (c : Char) : List Char → List (List Char)
  | [] => [[]]
  | x :: xs =>
    if x = c then [] :: splitAll c xs
    else ((x :: (splitAll c xs).headD []) :: (splitAll c xs).tail)

/-- Modelled from the spec: `DSN` of `storage/dsn.go`, a file name and its parameters in
insertion order, repeated keys kept. -/
structure DSN where
  filename : String
  params : List (String × String)
  deriving DecidableEq

/-- Modelled from the spec: one parameter `k=v` (a key alone has the empty value). -/
def parseParam (p : List Char) : String × String :=
  match cutAt '=' p with
  | (k, some v) => (String.mk k, String.mk v)
  | (k, none) => (String.mk k, "")

/-- Modelled from the spec: `NewDSN(s)` parses `<filename>[?<k>=<v>[&<k>=<v>…]]`, and the
empty string denotes the default in-memory database, `:memory:`.  The spec names no string that
fails to parse, so this model always succeeds; `openDB` keeps its failure branch all the
same. -/
def newDSN (s : String) : Except GoError DSN :=
  if s = "" then .ok ⟨":memory:", []⟩ else
  match cutAt '?' s.toList with
  | (fn, none) => .ok ⟨String.mk fn, []⟩
  | (fn, some q) => .ok ⟨String.mk fn, ((splitAll '&' q).filter (· ≠ [])).map parseParam⟩

namespace DSN

/-- Modelled from the spec: `d.AddParam(key, value)` appends a parameter. -/
def addParam (d : DSN) (key value : String) : DSN := { d with params := d.params ++ [(key, value)] }

/-- Modelled from the spec: `d.GetParam(key)`, the value of the first parameter `key` and
whether there is one. -/
def getParam (d : DSN) (key : String) : String × Bool :=
  match d.params.lookup key with
  | some v => (v, true)
  | none => ("", false)

/-- Modelled from the spec: `d.GetFileName()`. -/
def getFileName (d : DSN) : String := d.filename

/-- The DSN `openDB` opens: `d` after `d.AddParam("_journal_mode", "WAL")` and
`d.AddParam("_synchronous", "FULL")`. -/
def rebuild (d : DSN) : DSN := (d.addParam "_journal_mode" "WAL").addParam "_synchronous" "FULL"

/-- The test of `openDB` for a private in-memory database:
`(fn == ":memory:" || mode == "memory") && cache != "shared"`, where `mode, _ :=
d.GetParam("mode")` and `cache, _ := d.GetParam("cache")`. -/
def privateMemory (d : DSN) : Bool :=
  (d.getFileName == ":memory:" || (d.getParam "mode").1 == "memory") &&
    (d.getParam "cache").1 != "shared"

@[simp] theorem filename_rebuild (d : DSN) : d.rebuild.filename = d.filename := rfl

/-- The parameters `openDB` forces do not change its test. -/
@[simp] theorem privateMemory_rebuild (d : DSN) : d.rebuild.privateMemory = d.privateMemory := by
  have hmode : (d.rebuild.params).lookup "mode" = d.params.lookup "mode" := by
    simp only [rebuild, addParam, List.append_assoc, List.lookup_append]
    cases d.params.lookup "mode" <;> rfl
  have hcache : (d.rebuild.params).lookup "cache" = d.params.lookup "cache" := by
    simp only [rebuild, addParam, List.append_assoc, List.lookup_append]
    cases d.params.lookup "cache" <;> rfl
  simp only [privateMemory, getFileName, getParam, hmode, hcache, filename_rebuild]

end DSN

end ThunderDB.Sqlite
