/-
**Go's `int32` and `int64`, byte slices and errors.**

`sqlchain/blockindex.go` keeps a block height in an `int32`, computes a child's height as
`parent.height + 1` in that type, and builds an index key with `binary.BigEndian.PutUint32`
and `copy` on a byte slice.  This module gives those pieces their Go meaning, so that the block
index can be read against the source line by line.  The storage and the mock transports pass
`error` values on without looking into them; `ThunderDB.GoError` is such a value.

An `int32` is an integer in `[-2^31, 2^31)` that carries its range as a field; arithmetic and
conversions go through `ThunderDB.Int32.ofInt`, the two's-complement truncation, so an
overflowing `+ 1` wraps exactly as it does in Go.  An `int64`, which the mock worker of the
Kayak tests adds up, is the same at 64 bits.

Main definitions:

* `ThunderDB.Int32`, `ThunderDB.Int32.ofInt` — Go's `int32` and the truncation to it;
* `ThunderDB.Int32.toUInt32` — the conversion `uint32(x)`;
* `ThunderDB.Int64` — Go's `int64`, with its wrapping addition;
* `ThunderDB.putUint32` — `binary.BigEndian.PutUint32`;
* `ThunderDB.copySlice` — the built-in `copy` into a window `b[lo:hi]` of a byte slice;
* `ThunderDB.GoError` — an `error` value, passed on and never looked into.

Main results:

* `ThunderDB.Int32.val_ofInt` — truncation is the identity on the range of `int32`;
* `ThunderDB.Int32.val_add_one_of_pos` — if `x + 1` is positive, the addition did not wrap;
* `ThunderDB.Int32.ofInt_val_add`, `ThunderDB.Int64.ofInt_val_add` — `int32` and `int64`
  addition is addition modulo `2 ^ 32` and `2 ^ 64`;
* `ThunderDB.putUint32_lt` — big-endian encodings compare byte by byte as the numbers they
  encode.
-/

import Mathlib.Data.List.Basic
import Mathlib.Algebra.Group.Int
import Mathlib.Algebra.Group.Nat.Basic

set_option autoImplicit false

namespace ThunderDB

/-! ### `int32` -/

/-- Go's `int32`: an integer in `[-2^31, 2^31)`. -/
structure Int32 where
  /-- The value, as an integer. -/
  val : Int
  ge : -2 ^ 31 ≤ val
  lt : val < 2 ^ 31
  deriving DecidableEq

namespace Int32

/-- Two's-complement truncation of an integer to 32 bits. -/
def wrap (x : Int) : Int := (x + 2 ^ 31) % 2 ^ 32 - 2 ^ 31

/-- The `int32` an integer truncates to: what Go's overflowing arithmetic produces. -/
def ofInt (x : Int) : Int32 := ⟨wrap x, by unfold wrap; omega, by unfold wrap; omega⟩

instance : Add Int32 := ⟨fun a b => ofInt (a.val + b.val)⟩
instance (n : Nat) : OfNat Int32 n := ⟨ofInt n⟩
instance : LT Int32 := ⟨fun a b => a.val < b.val⟩
instance : LE Int32 := ⟨fun a b => a.val ≤ b.val⟩
instance (a b : Int32) : Decidable (a < b) := inferInstanceAs (Decidable (a.val < b.val))
instance (a b : Int32) : Decidable (a ≤ b) := inferInstanceAs (Decidable (a.val ≤ b.val))

@[ext] theorem ext {a b : Int32} (h : a.val = b.val) : a = b := by
  cases a; cases b; cases h; rfl

@[simp] theorem lt_iff (a b : Int32) : a < b ↔ a.val < b.val := Iff.rfl

@[simp] theorem le_iff (a b : Int32) : a ≤ b ↔ a.val ≤ b.val := Iff.rfl

theorem add_def (a b : Int32) : a + b = ofInt (a.val + b.val) := rfl

/-- Truncation is the identity on the range of `int32`. -/
theorem val_ofInt {x : Int} (h₁ : -2 ^ 31 ≤ x) (h₂ : x < 2 ^ 31) : (ofInt x).val = x := by
  simp only [ofInt, wrap]; omega

@[simp] theorem val_zero : (0 : Int32).val = 0 := rfl

@[simp] theorem val_one : (1 : Int32).val = 1 := rfl

/-- `x + 1` either did not wrap or wrapped to the least `int32`. -/
theorem val_add_one (a : Int32) :
    (a + 1).val = if a.val = 2 ^ 31 - 1 then -2 ^ 31 else a.val + 1 := by
  have := a.ge; have := a.lt
  simp only [add_def, val_one, ofInt, wrap]
  split <;> omega

/-- If `x + 1` is positive, the addition did not wrap. -/
theorem val_add_one_of_pos {a : Int32} (h : 0 < (a + 1).val) : (a + 1).val = a.val + 1 := by
  rw [val_add_one] at h ⊢
  split at h <;> simp_all

/-- Truncating in the middle of a sum changes nothing: `int32` addition is addition modulo
`2 ^ 32`. -/
theorem ofInt_val_add (x y : Int) : ofInt ((ofInt x).val + y) = ofInt (x + y) := by
  ext; simp only [ofInt, wrap]; omega

/-- The conversion `uint32(x)`: the same 32 bits, read without sign. -/
def toUInt32 (a : Int32) : UInt32 := UInt32.ofNat (a.val % 2 ^ 32).toNat

/-- `uint32(x)` reads a non-negative `x` as itself and a negative one as `x + 2 ^ 32`. -/
theorem toNat_toUInt32 (a : Int32) :
    (a.toUInt32.toNat : Int) = if 0 ≤ a.val then a.val else a.val + 2 ^ 32 := by
  show (((a.val % 2 ^ 32).toNat % 2 ^ 32 : Nat) : Int) = _
  have := a.ge; have := a.lt
  split <;> omega

/-- `uint32(x)` is one-to-one on `int32`. -/
theorem toUInt32_injective {a b : Int32} (h : a.toUInt32 = b.toUInt32) : a = b := by
  have ha := toNat_toUInt32 a
  have hb := toNat_toUInt32 b
  rw [h] at ha
  have := a.ge; have := a.lt; have := b.ge; have := b.lt
  ext
  split_ifs at ha hb <;> omega

end Int32

/-! ### `int64` -/

/-- Go's `int64`: an integer in `[-2^63, 2^63)`. -/
structure Int64 where
  /-- The value, as an integer. -/
  val : Int
  ge : -2 ^ 63 ≤ val
  lt : val < 2 ^ 63
  deriving DecidableEq

namespace Int64

/-- Two's-complement truncation of an integer to 64 bits. -/
def wrap (x : Int) : Int := (x + 2 ^ 63) % 2 ^ 64 - 2 ^ 63

/-- The `int64` an integer truncates to. -/
def ofInt (x : Int) : Int64 := ⟨wrap x, by unfold wrap; omega, by unfold wrap; omega⟩

instance : Add Int64 := ⟨fun a b => ofInt (a.val + b.val)⟩
instance (n : Nat) : OfNat Int64 n := ⟨ofInt n⟩

@[ext] theorem ext {a b : Int64} (h : a.val = b.val) : a = b := by
  cases a; cases b; cases h; rfl

theorem add_def (a b : Int64) : a + b = ofInt (a.val + b.val) := rfl

/-- Truncating is the identity on `int64` values. -/
@[simp] theorem ofInt_val (a : Int64) : ofInt a.val = a := by
  have := a.ge; have := a.lt
  ext; simp only [ofInt, wrap]; omega

/-- Truncating in the middle of a sum changes nothing: `int64` addition is addition modulo
`2 ^ 64`. -/
theorem ofInt_val_add (x y : Int) : ofInt ((ofInt x).val + y) = ofInt (x + y) := by
  ext; simp only [ofInt, wrap]; omega

end Int64

/-! ### Byte slices -/

/-- `binary.BigEndian.PutUint32`: the four bytes of `v`, most significant first. -/
def putUint32 (v : UInt32) : List UInt8 :=
  [(v >>> 24).toUInt8, (v >>> 16).toUInt8, (v >>> 8).toUInt8, v.toUInt8]

@[simp] theorem length_putUint32 (v : UInt32) : (putUint32 v).length = 4 := rfl

theorem toNat_shiftRight_uint32 (v w : UInt32) : (v >>> w).toNat = v.toNat / 2 ^ (w.toNat % 32) := by
  show (v.toBitVec >>> (w % 32).toBitVec).toNat = _
  rw [BitVec.ushiftRight_eq', BitVec.toNat_ushiftRight, Nat.shiftRight_eq_div_pow]
  rfl

/-- The bytes `PutUint32` writes are the base-256 digits of `v`, most significant first. -/
theorem putUint32_toNat (v : UInt32) :
    (putUint32 v).map UInt8.toNat =
      [v.toNat / 2 ^ 24 % 256, v.toNat / 2 ^ 16 % 256, v.toNat / 2 ^ 8 % 256, v.toNat % 256] := by
  simp only [putUint32, List.map_cons, List.map_nil]
  refine congrArg₂ _ ?_ (congrArg₂ _ ?_ (congrArg₂ _ ?_ rfl)) <;>
    exact congrArg (· % 256) (toNat_shiftRight_uint32 _ _)

/-- The base-256 digits of two numbers below `2 ^ 32`, most significant first, compare
lexicographically as the numbers do. -/
theorem digits_lt_of_lt {m n : Nat} (hn : n < 2 ^ 32) (h : m < n) :
    m / 2 ^ 24 % 256 < n / 2 ^ 24 % 256 ∨ m / 2 ^ 24 % 256 = n / 2 ^ 24 % 256 ∧
      (m / 2 ^ 16 % 256 < n / 2 ^ 16 % 256 ∨ m / 2 ^ 16 % 256 = n / 2 ^ 16 % 256 ∧
        (m / 2 ^ 8 % 256 < n / 2 ^ 8 % 256 ∨ m / 2 ^ 8 % 256 = n / 2 ^ 8 % 256 ∧
          m % 256 < n % 256)) := by
  refine or_iff_not_imp_left.2 fun h₀ => ?_
  have e₀ : m / 2 ^ 24 % 256 = n / 2 ^ 24 % 256 := by omega
  refine ⟨e₀, or_iff_not_imp_left.2 fun h₁ => ?_⟩
  have e₁ : m / 2 ^ 16 % 256 = n / 2 ^ 16 % 256 := by omega
  exact ⟨e₁, or_iff_not_imp_left.2 fun h₂ => ⟨by omega, by omega⟩⟩

/-- `PutUint32` loses nothing: its four bytes give the number back. -/
theorem putUint32_injective {u v : UInt32} (h : putUint32 u = putUint32 v) : u = v := by
  have hu := putUint32_toNat u
  rw [h, putUint32_toNat v] at hu
  simp only [List.cons.injEq, and_true] at hu
  have := u.toNat_lt_size; have := v.toNat_lt_size
  simp only [UInt32.size] at *
  exact UInt32.toNat.inj (by omega)

theorem lt_cons_of_toNat_eq {a b : UInt8} {as bs : List UInt8} (h : a.toNat = b.toNat)
    (hl : List.lt as bs) : List.lt (a :: as) (b :: bs) :=
  .tail (show ¬ a.toNat < b.toNat by omega) (show ¬ b.toNat < a.toNat by omega) hl

/-- **Big-endian bytes order as the numbers they encode**: whatever follows them, the bytes of
`PutUint32(u)` come before those of `PutUint32(v)` in the lexicographic order of byte slices
whenever `u < v`. -/
theorem putUint32_lt {u v : UInt32} (h : u.toNat < v.toNat) (x y : List UInt8) :
    List.lt (putUint32 u ++ x) (putUint32 v ++ y) := by
  have hd := digits_lt_of_lt v.toNat_lt_size h
  have hu := putUint32_toNat u
  have hv := putUint32_toNat v
  simp only [putUint32, List.map_cons, List.map_nil, List.cons.injEq, and_true] at hu hv
  rw [← hu.1, ← hu.2.1, ← hu.2.2.1, ← hu.2.2.2, ← hv.1, ← hv.2.1, ← hv.2.2.1, ← hv.2.2.2] at hd
  rcases hd with h₀ | ⟨e₀, h₁ | ⟨e₁, h₂ | ⟨e₂, h₃⟩⟩⟩
  · exact .head _ _ h₀
  · exact lt_cons_of_toNat_eq e₀ (.head _ _ h₁)
  · exact lt_cons_of_toNat_eq e₀ (lt_cons_of_toNat_eq e₁ (.head _ _ h₂))
  · exact lt_cons_of_toNat_eq e₀ (lt_cons_of_toNat_eq e₁ (lt_cons_of_toNat_eq e₂ (.head _ _ h₃)))

/-- The built-in `copy(b[lo:hi], src)`: it writes the first `min (hi - lo) (len src)` bytes of
`src` into `b` from index `lo`, and leaves the rest of `b` alone. -/
def copySlice (b : List UInt8) (lo hi : Nat) (src : List UInt8) : List UInt8 :=
  let n := min (hi - lo) src.length
  b.take lo ++ src.take n ++ b.drop (lo + n)

/-! ### Errors -/

/-- An `error` value that the code passes on without looking into it. -/
structure GoError where
  msg : String
  deriving DecidableEq

end ThunderDB
