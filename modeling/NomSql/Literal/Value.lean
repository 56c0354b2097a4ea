import NomSql.Std.Float
import NomSql.Std.Utf8

/-!
# Literal — values

`Literal`, the value model of `common.rs`, with `Float` and `Double`, the wrappers that pair
a binary floating-point value with the number of fractional digits to render it with.

`Float` and `Double` compare and hash the bit pattern of their value, not its IEEE value,
so that a literal can key a hash map: a NaN equals itself and `0.0` differs from `-0.0`.
A `Hash` implementation is the sequence of calls it makes on its `Hasher` (`HashWrite`);
a hasher is any function folded over them.

* `eq_iff_hash_eq`: two values are `==` exactly when their hashes make the same calls.
* `real_hash_matches_eq`: for `Float` and for `Double`, `==` is an equivalence relation that
  agrees with the hash under every hasher.
-/

namespace NomSql

/-- `Float`: an `f32` and the fractional digits it renders with. -/
structure Float where
  value : F32
  precision : UInt8
deriving DecidableEq

/-- `Double`: an `f64` and the fractional digits it renders with. -/
structure Double where
  value : F64
  precision : UInt8
deriving DecidableEq

/-- A call of a `Hash` implementation on its `Hasher`. -/
inductive HashWrite
  | u8 (v : UInt8)
  | u32 (v : UInt32)
  | u64 (v : UInt64)
deriving DecidableEq

/-- `impl PartialEq for Float`. -/
def Float.eq (a b : Float) : Bool :=
  a.value.toBits == b.value.toBits && a.precision == b.precision

/-- `impl Hash for Float`. -/
def Float.hash (a : Float) : List HashWrite := [.u32 a.value.toBits, .u8 a.precision]

/-- `impl PartialEq for Double`. -/
def Double.eq (a b : Double) : Bool :=
  a.value.toBits == b.value.toBits && a.precision == b.precision

/-- `impl Hash for Double`. -/
def Double.hash (a : Double) : List HashWrite := [.u64 a.value.toBits, .u8 a.precision]

/-- `ItemPlaceholder`: `?`, `$n` or `:n`. -/
inductive ItemPlaceholder
  | questionMark
  | dollarNumber (n : UInt32)
  | colonNumber (n : UInt32)
deriving DecidableEq

/-- `Literal`. -/
inductive Literal
  | null
  | boolean (b : Bool)
  | integer (i : I64)
  | float (f : Float)
  | double (d : Double)
  | numeric (mantissa : I128) (scale : UInt32)
  | string (s : Utf8String)
  | blob (b : Bytes)
  | currentTime
  | currentDate
  | currentTimestamp
  | byteArray (b : Bytes)
  | placeholder (p : ItemPlaceholder)
  | bitVector (b : Bytes)
deriving DecidableEq

/-! ### The conversions into `Literal` -/

/-- `impl From<bool> for Literal`. -/
def Literal.ofBool (b : Bool) : Literal := .boolean b

/-- `impl From<i64> for Literal`. -/
def Literal.ofI64 (i : I64) : Literal := .integer i

/-- `impl From<u64> for Literal`: `i as _`, a cast to `i64`, which wraps from `2^63` on. -/
def Literal.ofU64 (i : UInt64) : Literal := .integer (I64.wrap i.toNat)

/-- `impl From<i32> for Literal`: `i.into()`, which keeps the value. -/
def Literal.ofI32 (i : I32) : Literal :=
  .integer ⟨i.val, by have := i.ge; omega, by have := i.lt; omega⟩

/-- `impl From<u32> for Literal`: `i.into()`, which keeps the value. -/
def Literal.ofU32 (i : UInt32) : Literal :=
  .integer ⟨i.toNat, by omega, by have : i.toNat < 2 ^ 32 := i.toNat_lt_size; omega⟩

/-- `impl From<String> for Literal` and `impl From<&str> for Literal`. -/
def Literal.ofString (s : Utf8String) : Literal := .string s

/-! ### Equality and hashing of the floating-point wrappers -/

/-- What `Eq` and `Hash` promise each other, and what a hash-map key needs: `==` is an
equivalence relation, and it holds exactly when the hash makes the same calls, so that
equal values hash alike under every hasher. -/
structure HashConsistent {α : Type} (eq : α → α → Bool) (hash : α → List HashWrite) : Prop where
  equivalence : Equivalence fun a b => eq a b = true
  iff_hash : ∀ a b, eq a b = true ↔ hash a = hash b
  hasher : ∀ {σ : Type} (write : σ → HashWrite → σ) (s : σ) (a b : α),
    eq a b = true → (hash a).foldl write s = (hash b).foldl write s

/-- An equality that holds exactly when the hashes agree is consistent with them. -/
theorem HashConsistent.of_iff {α : Type} {eq : α → α → Bool} {hash : α → List HashWrite}
    (h : ∀ a b, eq a b = true ↔ hash a = hash b) : HashConsistent eq hash where
  equivalence :=
    ⟨fun a => (h a a).mpr rfl, fun hab => (h _ _).mpr ((h _ _).mp hab).symm,
      fun hab hbc => (h _ _).mpr (((h _ _).mp hab).trans ((h _ _).mp hbc))⟩
  iff_hash := h
  hasher write s a b hab := by rw [(h a b).mp hab]

theorem Float.eq_iff_hash_eq (a b : Float) : a.eq b = true ↔ a.hash = b.hash := by
  simp [Float.eq, Float.hash]

theorem Double.eq_iff_hash_eq (a b : Double) : a.eq b = true ↔ a.hash = b.hash := by
  simp [Double.eq, Double.hash]

/-- `+0.0` and `-0.0`, as `f64`s. -/
def F64.zero : F64 := ⟨0⟩

/-- `-0.0`. -/
def F64.negZero : F64 := ⟨0x8000000000000000⟩

theorem real_hash_matches_eq :
    HashConsistent Float.eq Float.hash ∧ HashConsistent Double.eq Double.hash ∧
      ∀ p, Double.eq ⟨F64.zero, p⟩ ⟨F64.negZero, p⟩ = false :=
  ⟨.of_iff Float.eq_iff_hash_eq, .of_iff Double.eq_iff_hash_eq, fun _ => by
    simp [Double.eq, F64.zero, F64.negZero]⟩

end NomSql
