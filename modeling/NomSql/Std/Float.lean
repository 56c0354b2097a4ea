import NomSql.Std.Integer

/-!
# Std — binary floating point

`f32` and `f64` as their bit patterns.  What `common.rs` does with them goes through the
standard library: `to_bits`, the pattern itself; `format!("{:.*}", p, v)`, the exact value
rounded to `p` fractional digits; and `f64::from_str`, a decimal rounded to the nearest
representable value.  Both roundings are to nearest with ties to even, as IEEE 754 and the
exact mode of `core::num::flt2dec` round.

Both widths share one description, `IeeeFormat`: a pattern decodes to what it stands for
(`IeeeFormat.decode`), and a rational encodes to the pattern nearest it (`IeeeFormat.encode`).
-/

namespace NomSql

/-- A binary IEEE 754 interchange format: `expBits` exponent bits, `mantBits` stored
significand bits. -/
structure IeeeFormat where
  expBits : Nat
  mantBits : Nat

/-- What a bit pattern stands for: a finite value is `±num / den` exactly. -/
inductive FloatClass
  | nan
  | infinite (neg : Bool)
  | finite (neg : Bool) (num den : Nat)

/-- `n / d` rounded to the nearest integer, ties to the even one. -/
def roundHalfEven (n d : Nat) : Nat :=
  if 2 * (n % d) < d then n / d
  else if d < 2 * (n % d) then n / d + 1
  else if n / d % 2 = 0 then n / d else n / d + 1

/-- The number of binary digits of `n`, with `fuel` bounding the halvings. -/
def bitLengthAux : Nat → Nat → Nat
  | 0, _ => 0
  | fuel + 1, n => if n = 0 then 0 else bitLengthAux fuel (n / 2) + 1

/-- The number of binary digits of `n`. -/
def bitLength (n : Nat) : Nat := bitLengthAux n n

/-- `⌊log₂ (num / den)⌋`, for positive `num` and `den`. -/
def floorLog2 (num den : Nat) : Int :=
  let k : Int := (bitLength num : Int) - bitLength den
  let ge := if 0 ≤ k then den * 2 ^ k.toNat ≤ num else den ≤ num * 2 ^ (-k).toNat
  if ge then k else k - 1

/-- `num / den · 2 ^ k`, rounded to the nearest integer, ties to even. -/
def scaleRound (num den : Nat) (k : Int) : Nat :=
  if 0 ≤ k then roundHalfEven (num * 2 ^ k.toNat) den else roundHalfEven num (den * 2 ^ (-k).toNat)

namespace IeeeFormat

/-- `f32`. -/
def binary32 : IeeeFormat := ⟨8, 23⟩

/-- `f64`. -/
def binary64 : IeeeFormat := ⟨11, 52⟩

/-- The exponent bias. -/
def bias (f : IeeeFormat) : Nat := 2 ^ (f.expBits - 1) - 1

/-- The exponent field of infinities and NaNs. -/
def expMax (f : IeeeFormat) : Nat := 2 ^ f.expBits - 1

/-- The sign bit. -/
def signBit (f : IeeeFormat) : Nat := 2 ^ (f.expBits + f.mantBits)

/-- What the pattern `bits` stands for. -/
def decode (f : IeeeFormat) (bits : Nat) : FloatClass :=
  let frac := bits % 2 ^ f.mantBits
  let e := bits / 2 ^ f.mantBits % 2 ^ f.expBits
  let neg := bits / f.signBit % 2 == 1
  if e = f.expMax then if frac = 0 then .infinite neg else .nan
  else
    let sig := if e = 0 then frac else 2 ^ f.mantBits + frac
    let k := max e 1
    if sig = 0 then .finite neg 0 1
    else if f.bias + f.mantBits ≤ k then .finite neg (sig * 2 ^ (k - f.bias - f.mantBits)) 1
    else .finite neg sig (2 ^ (f.bias + f.mantBits - k))

/-- The pattern of the representable value nearest `±num / den` (`den > 0`), ties to the
even significand: past the largest finite value it is infinite, and below the smallest
normal one it is subnormal or zero. -/
def encode (f : IeeeFormat) (neg : Bool) (num den : Nat) : Nat :=
  let sign := if neg then f.signBit else 0
  if num = 0 then sign
  else
    let e := floorLog2 num den + f.bias
    if e ≤ 0 then sign + roundHalfEven (num * 2 ^ (f.bias + f.mantBits - 1)) den
    else
      let m := scaleRound num den ((f.mantBits : Int) - (e - f.bias))
      let (m, e) := if m = 2 ^ (f.mantBits + 1) then (2 ^ f.mantBits, e + 1) else (m, e)
      if f.expMax ≤ e then sign + f.expMax * 2 ^ f.mantBits
      else sign + e.toNat * 2 ^ f.mantBits + (m - 2 ^ f.mantBits)

/-- `ds` with a decimal point in front of its last `p` digits, zeros added in front so that
one digit stays before the point. -/
def pointDigits (ds : Bytes) (p : Nat) : Bytes :=
  let ds := List.replicate (p + 1 - ds.length) 48 ++ ds
  if p = 0 then ds else ds.take (ds.length - p) ++ 46 :: ds.drop (ds.length - p)

/-- `format!("{:.*}", p, v)` of the value with pattern `bits`. -/
def formatFixed (f : IeeeFormat) (bits p : Nat) : Bytes :=
  match f.decode bits with
  | .nan => ascii "NaN"
  | .infinite neg => (if neg then ascii "-" else []) ++ ascii "inf"
  | .finite neg num den =>
    (if neg then ascii "-" else []) ++ pointDigits (decimal (roundHalfEven (num * 10 ^ p) den)) p

/-- With no fractional digits the text has no point. -/
theorem point_not_mem_formatFixed_zero (f : IeeeFormat) (bits : Nat) :
    (46 : UInt8) ∉ f.formatFixed bits 0 := by
  have hsign : ∀ neg : Bool, (46 : UInt8) ∉ (if neg then ascii "-" else []) := by decide
  unfold formatFixed
  generalize f.decode bits = c
  cases c with
  | nan => decide
  | infinite neg => cases neg <;> decide
  | finite neg num den =>
    simp only [List.mem_append, pointDigits, if_true, not_or]
    refine ⟨hsign neg, fun h => ?_, fun h => ?_⟩
    · simp [List.mem_replicate] at h
    · exact absurd (isDigit_of_mem_decimal _ h) (by decide)

end IeeeFormat

/-- An `f32`, by its bit pattern. -/
structure F32 where
  toBits : UInt32
deriving DecidableEq

/-- An `f64`, by its bit pattern. -/
structure F64 where
  toBits : UInt64
deriving DecidableEq

/-- `format!("{:.*}", p, v)` of an `f32`. -/
def F32.formatFixed (v : F32) (p : Nat) : Bytes :=
  IeeeFormat.binary32.formatFixed v.toBits.toNat p

/-- `format!("{:.*}", p, v)` of an `f64`. -/
def F64.formatFixed (v : F64) (p : Nat) : Bytes :=
  IeeeFormat.binary64.formatFixed v.toBits.toNat p

/-- `f64::from_str` on the decimal forms the grammar hands it: a sign, digits, and a point
with more digits, at least one digit in all.  The exponent and the words `inf` and `NaN`,
which no caller in `common.rs` can pass, are not modelled. -/
def F64.fromStr (s : Bytes) : Option F64 :=
  let (neg, t) : Bool × Bytes := match s with
    | 43 :: t => (false, t)
    | 45 :: t => (true, t)
    | _ => (false, s)
  let ip := t.takeWhile isDigit
  let (fp, rest) : Bytes × Bytes := match t.dropWhile isDigit with
    | 46 :: r => (r.takeWhile isDigit, r.dropWhile isDigit)
    | r => ([], r)
  if rest.isEmpty && !(ip ++ fp).isEmpty then
    some ⟨UInt64.ofNat (IeeeFormat.binary64.encode neg (digitsValue (ip ++ fp)) (10 ^ fp.length))⟩
  else none

end NomSql
