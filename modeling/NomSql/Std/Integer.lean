import NomSql.Nom.Bytes

/-!
# Std — decimal integers

What `common.rs` takes from Rust's standard library for integers: `{}` of an integer, which
writes its decimal digits, and `from_str` of the integer types, which reads them back and
fails where the value leaves the type's range.  `i32`, `i64` and `i128`, which Lean 4.14
lacks, are integers that carry their range (`I32`, `I64`, `I128`).

* `digitsValue_decimal`: reading the digits `{}` writes gives the number back.
* `fromStrRange_decimal`: `from_str` of those digits is the number, inside the range.
-/

namespace NomSql

/-! ### Bounded signed integers -/

/-- An `i64`. -/
structure I64 where
  val : Int
  ge : -2 ^ 63 ≤ val
  lt : val < 2 ^ 63
deriving DecidableEq

/-- An `i32`. -/
structure I32 where
  val : Int
  ge : -2 ^ 31 ≤ val
  lt : val < 2 ^ 31
deriving DecidableEq

/-- An `i128`. -/
structure I128 where
  val : Int
  ge : -2 ^ 127 ≤ val
  lt : val < 2 ^ 127
deriving DecidableEq

/-- The `i64` of `v`, if it is one. -/
def I64.ofInt? (v : Int) : Option I64 :=
  if h : -2 ^ 63 ≤ v ∧ v < 2 ^ 63 then some ⟨v, h.1, h.2⟩ else none

/-- `v` reduced into the `i64` range, as release builds' arithmetic wraps it. -/
def I64.wrap (v : Int) : I64 where
  val := (v + 2 ^ 63) % 2 ^ 64 - 2 ^ 63
  ge := by omega
  lt := by omega

/-- `i64::MIN`. -/
def I64.min : I64 := ⟨-2 ^ 63, by decide, by decide⟩

theorem I64.ext_val {a b : I64} (h : a.val = b.val) : a = b := by
  cases a; cases b; cases h; rfl

theorem I64.ofInt?_val {v : Int} (h₁ : -2 ^ 63 ≤ v) (h₂ : v < 2 ^ 63) :
    (I64.ofInt? v).map I64.val = some v := by
  rw [I64.ofInt?, dif_pos ⟨h₁, h₂⟩]; rfl

theorem I64.wrap_val {v : Int} (h₁ : -2 ^ 63 ≤ v) (h₂ : v < 2 ^ 63) : (I64.wrap v).val = v := by
  simp only [I64.wrap]; omega

/-! ### Unsigned integers through `Nat` -/

theorem UInt8.ofNat_toNat' (v : UInt8) : UInt8.ofNat v.toNat = v :=
  UInt8.toNat.inj (UInt8.toNat_ofNat_of_lt v.toNat_lt_size)

theorem UInt16.ofNat_toNat' (v : UInt16) : UInt16.ofNat v.toNat = v :=
  UInt16.toNat.inj (UInt16.toNat_ofNat_of_lt v.toNat_lt_size)

theorem UInt32.ofNat_toNat' (v : UInt32) : UInt32.ofNat v.toNat = v :=
  UInt32.toNat.inj (UInt32.toNat_ofNat_of_lt v.toNat_lt_size)

theorem UInt64.ofNat_toNat' (v : UInt64) : UInt64.ofNat v.toNat = v :=
  UInt64.toNat.inj (UInt64.toNat_ofNat_of_lt v.toNat_lt_size)

/-! ### Writing digits -/

/-- The byte of the digit `d`. -/
def digitByte (d : Nat) : UInt8 := UInt8.ofNat (48 + d)

/-- The digits of `n` in front of `acc`, with `fuel` bounding the divisions. -/
def decimalAux : Nat → Nat → Bytes → Bytes
  | 0, _, acc => acc
  | fuel + 1, n, acc =>
    if n < 10 then digitByte n :: acc else decimalAux fuel (n / 10) (digitByte (n % 10) :: acc)

/-- `{}` of an unsigned integer: its decimal digits, most significant first. -/
def decimal (n : Nat) : Bytes := decimalAux (n + 1) n []

theorem decimalAux_eq : ∀ (fuel n : Nat) (acc : Bytes), n < fuel →
    decimalAux fuel n acc = decimal n ++ acc
  | 0, _, _, h => absurd h (Nat.not_lt_zero _)
  | fuel + 1, n, acc, h => by
    have hd : decimal n = decimalAux (n + 1) n [] := rfl
    by_cases hn : n < 10
    · simp [decimalAux, hd, hn]
    · have h₁ : n / 10 < fuel := by omega
      have h₂ : n / 10 < n := by omega
      rw [decimalAux, if_neg hn, decimalAux_eq fuel _ _ h₁, hd, decimalAux, if_neg hn,
        decimalAux_eq n _ _ h₂]
      simp

theorem decimal_of_lt {n : Nat} (h : n < 10) : decimal n = [digitByte n] := by
  simp [decimal, decimalAux, h]

theorem decimal_of_ge {n : Nat} (h : 10 ≤ n) :
    decimal n = decimal (n / 10) ++ [digitByte (n % 10)] := by
  rw [decimal, decimalAux, if_neg (by omega), decimalAux_eq _ _ _ (by omega)]

theorem decimal_ne_nil (n : Nat) : decimal n ≠ [] := by
  by_cases h : n < 10
  · simp [decimal_of_lt h]
  · simp [decimal_of_ge (Nat.le_of_not_lt h)]

theorem toNat_digitByte {d : Nat} (h : d < 10) : (digitByte d).toNat = 48 + d :=
  UInt8.toNat_ofNat_of_lt (by change 48 + d < 256; omega)

theorem isDigit_digitByte {d : Nat} (h : d < 10) : isDigit (digitByte d) = true := by
  simp only [isDigit, toNat_digitByte h, Bool.and_eq_true, decide_eq_true_eq]; omega

theorem isDigit_of_mem_decimal {n : Nat} : ∀ b ∈ decimal n, isDigit b = true := by
  induction n using Nat.strong_induction_on with
  | _ n ih =>
    by_cases h : n < 10
    · simp [decimal_of_lt h, isDigit_digitByte h]
    · intro b hb
      rw [decimal_of_ge (by omega), List.mem_append, List.mem_singleton] at hb
      rcases hb with hb | rfl
      · exact ih _ (by omega) b hb
      · exact isDigit_digitByte (Nat.mod_lt _ (by omega))

/-! ### Reading digits -/

/-- The number a run of digits writes, most significant first. -/
def digitsValue (ds : Bytes) : Nat := ds.foldl (fun v b => 10 * v + (b.toNat - 48)) 0

theorem digitsValue_append (ds : Bytes) (b : UInt8) :
    digitsValue (ds ++ [b]) = 10 * digitsValue ds + (b.toNat - 48) := by
  simp [digitsValue]

theorem digitsValue_decimal (n : Nat) : digitsValue (decimal n) = n := by
  induction n using Nat.strong_induction_on with
  | _ n ih =>
    by_cases h : n < 10
    · simp [decimal_of_lt h, digitsValue, toNat_digitByte h]
    · rw [decimal_of_ge (by omega), digitsValue_append, ih _ (by omega),
        toNat_digitByte (Nat.mod_lt _ (by omega))]
      omega

/-- `from_str` of the Rust integer type whose values are `lo ..= hi`: an optional sign, `-`
only where the type is signed, then one or more digits.  The digits accumulate through
`checked_mul` and `checked_add`, which fail exactly when the value leaves the range. -/
def fromStrRange (lo hi : Int) (s : Bytes) : Option Int :=
  let (neg, ds) : Bool × Bytes := match s with
    | 43 :: ds => (false, ds)
    | 45 :: ds => if lo < 0 then (true, ds) else (false, s)
    | _ => (false, s)
  if !ds.isEmpty && ds.all isDigit then
    let v : Int := if neg then -(digitsValue ds : Int) else digitsValue ds
    if lo ≤ v ∧ v ≤ hi then some v else none
  else none

/-- `u8::from_str`. -/
def fromStrU8 (s : Bytes) : Option UInt8 := (fromStrRange 0 255 s).map fun v => UInt8.ofNat v.toNat

/-- `u16::from_str`. -/
def fromStrU16 (s : Bytes) : Option UInt16 :=
  (fromStrRange 0 65535 s).map fun v => UInt16.ofNat v.toNat

/-- `u32::from_str`. -/
def fromStrU32 (s : Bytes) : Option UInt32 :=
  (fromStrRange 0 4294967295 s).map fun v => UInt32.ofNat v.toNat

/-- `u64::from_str`. -/
def fromStrU64 (s : Bytes) : Option UInt64 :=
  (fromStrRange 0 18446744073709551615 s).map fun v => UInt64.ofNat v.toNat

/-- `i64::from_str`. -/
def fromStrI64 (s : Bytes) : Option I64 := (fromStrRange (-2 ^ 63) (2 ^ 63 - 1) s).bind I64.ofInt?

/-- A run of digits has no sign in front: `from_str` reads it as it stands. -/
theorem fromStrRange_of_digits {lo hi : Int} {ds : Bytes} (hne : ds ≠ [])
    (hd : ∀ b ∈ ds, isDigit b = true) :
    fromStrRange lo hi ds =
      if lo ≤ (digitsValue ds : Int) ∧ (digitsValue ds : Int) ≤ hi then some (digitsValue ds : Int)
      else none := by
  have hall : ds.all isDigit = true := List.all_eq_true.mpr hd
  obtain ⟨b, bs, rfl⟩ := List.exists_cons_of_ne_nil hne
  have hb := hd b (List.mem_cons_self _ _)
  have h43 : b ≠ 43 := by rintro rfl; exact absurd hb (by decide)
  have h45 : b ≠ 45 := by rintro rfl; exact absurd hb (by decide)
  simp only [fromStrRange]
  split <;> simp_all

theorem fromStrRange_decimal {lo hi : Int} {n : Nat} (h₁ : lo ≤ n) (h₂ : n ≤ hi) :
    fromStrRange lo hi (decimal n) = some (n : Int) := by
  rw [fromStrRange_of_digits (decimal_ne_nil n) isDigit_of_mem_decimal, digitsValue_decimal]
  simp [h₁, h₂]

theorem fromStrRange_decimal_of_gt {lo hi : Int} {n : Nat} (h : hi < n) :
    fromStrRange lo hi (decimal n) = none := by
  rw [fromStrRange_of_digits (decimal_ne_nil n) isDigit_of_mem_decimal, digitsValue_decimal]
  simp only [if_neg (show ¬(lo ≤ (n : Int) ∧ (n : Int) ≤ hi) by omega)]

/-- `i64::from_str` of a run of digits: its value, if below `2 ^ 63`. -/
theorem fromStrI64_of_digits {ds : Bytes} (hne : ds ≠ []) (hd : ∀ b ∈ ds, isDigit b = true) :
    fromStrI64 ds = if digitsValue ds < 2 ^ 63 then I64.ofInt? (digitsValue ds) else none := by
  rw [fromStrI64, fromStrRange_of_digits hne hd]
  by_cases h : digitsValue ds < 2 ^ 63
  · rw [if_pos (by omega), if_pos h, Option.some_bind]
  · rw [if_neg (by omega), if_neg h, Option.none_bind]

/-- `u64::from_str` of a run of digits: its value, if below `2 ^ 64`. -/
theorem fromStrU64_of_digits {ds : Bytes} (hne : ds ≠ []) (hd : ∀ b ∈ ds, isDigit b = true) :
    fromStrU64 ds = if digitsValue ds < 2 ^ 64 then some (UInt64.ofNat (digitsValue ds)) else none := by
  rw [fromStrU64, fromStrRange_of_digits hne hd]
  by_cases h : digitsValue ds < 2 ^ 64
  · rw [if_pos (by omega), if_pos h]; rfl
  · rw [if_neg (by omega), if_neg h]; rfl

theorem fromStrU8_decimal (n : UInt8) : fromStrU8 (decimal n.toNat) = some n := by
  have h : n.toNat < 256 := n.toNat_lt_size
  rw [fromStrU8, fromStrRange_decimal (by omega) (by omega)]
  simp [UInt8.ofNat_toNat']

theorem fromStrU16_decimal (n : UInt16) : fromStrU16 (decimal n.toNat) = some n := by
  have h : n.toNat < 65536 := n.toNat_lt_size
  rw [fromStrU16, fromStrRange_decimal (by omega) (by omega)]
  simp [UInt16.ofNat_toNat']

theorem fromStrU8_decimal_of_ge {n : Nat} (h : 256 ≤ n) : fromStrU8 (decimal n) = none := by
  rw [fromStrU8, fromStrRange_decimal_of_gt (by omega), none_map]

theorem fromStrU16_decimal_of_ge {n : Nat} (h : 65536 ≤ n) : fromStrU16 (decimal n) = none := by
  rw [fromStrU16, fromStrRange_decimal_of_gt (by omega), none_map]

end NomSql
