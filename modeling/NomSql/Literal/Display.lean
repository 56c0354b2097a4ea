import NomSql.Literal.Value

/-!
# Literal — rendering

`impl Display for Literal`: the canonical text of each value, as its UTF-8 bytes.  Numeric
values go through `rust_decimal`, whose `Decimal::from_i128_with_scale` panics outside its
range; `Literal.fmt` is `none` there, and `some` text everywhere else.

The pieces:
* `writeReal`, the `write_real!` macro: the value with at most thirty fractional digits,
  trailing zeros trimmed, and a zero put back after a bare point (`trimRestore`).
* `escapeString`: the two `str::replace` calls that double `'` and `\`.
* `lowerHex`, `{:x}` of a byte; `bitsOfBytes`, `bit_vec`'s `BitVec::from_bytes` read bit by
  bit; `bytesOfBits`, its `to_bytes`.
-/

namespace NomSql

/-! ### Integers and placeholders -/

/-- `{}` of a signed integer. -/
def intText (v : Int) : Bytes := if v < 0 then ascii "-" ++ decimal v.natAbs else decimal v.toNat

/-- `impl ToString for ItemPlaceholder`. -/
def ItemPlaceholder.toString : ItemPlaceholder → Bytes
  | .questionMark => ascii "?"
  | .dollarNumber n => ascii "$" ++ decimal n.toNat
  | .colonNumber n => ascii ":" ++ decimal n.toNat

/-! ### Reals -/

/-- `trim_end_matches('0')`. -/
def trimEndZeros (s : Bytes) : Bytes := (s.reverse.dropWhile (· == 48)).reverse

/-- The last two steps of `write_real!`: trim the trailing zeros, and if that leaves the
text ending in a point, write one zero after it. -/
def trimRestore (fstr : Bytes) : Bytes :=
  let res := trimEndZeros fstr
  if res.getLast? = some 46 then res ++ [48] else res

/-- `write_real!(real, prec)`: `format` is `format!("{:.*}", _, real)`, applied to the
precision capped at thirty. -/
def writeReal (format : Nat → Bytes) (prec : UInt8) : Bytes :=
  trimRestore (format (if prec.toNat < 30 then prec.toNat else 30))

/-- Trimming adds no point, and restores a zero only after one. -/
theorem point_not_mem_trimRestore {s : Bytes} (h : (46 : UInt8) ∉ s) :
    (46 : UInt8) ∉ trimRestore s := by
  have ht : (46 : UInt8) ∉ trimEndZeros s := fun hx =>
    h (List.mem_reverse.mp ((List.dropWhile_suffix _).subset (List.mem_reverse.mp hx)))
  have hl : (trimEndZeros s).getLast? ≠ some 46 := fun hl => ht (List.mem_of_getLast?_eq_some hl)
  simp only [trimRestore, if_neg hl]; exact ht

/-- A `Double` of precision zero is written with no point. -/
theorem point_not_mem_writeReal_zero (v : F64) : (46 : UInt8) ∉ writeReal v.formatFixed 0 :=
  point_not_mem_trimRestore (IeeeFormat.point_not_mem_formatFixed_zero _ _)

/-! ### Numerics -/

/-- `{}` of `Decimal::from_i128_with_scale(m, s)`: the digits of `|m|` with a point in front
of the last `s`, after a minus sign when `m < 0`; `none` where `from_i128_with_scale`
panics, a scale past 28 or a mantissa of more than 96 bits. -/
def numericText (m : I128) (s : UInt32) : Option Bytes :=
  if 28 < s.toNat ∨ 2 ^ 96 ≤ m.val.natAbs then none
  else some ((if m.val < 0 then ascii "-" else []) ++
    IeeeFormat.pointDigits (decimal m.val.natAbs) s.toNat)

/-! ### Strings and bytes -/

/-- `str::replace(c, by)` for an ASCII character `c`: in well-formed UTF-8 its byte occurs
only as that character. -/
def replaceByte (c : UInt8) (by_ : Bytes) (s : Bytes) : Bytes :=
  s.flatMap fun x => if x = c then by_ else [x]

/-- `s.replace('\'', "''").replace('\\', "\\\\")`. -/
def escapeString (s : Bytes) : Bytes := replaceByte 92 [92, 92] (replaceByte 39 [39, 39] s)

/-- A digit of base sixteen, in lowercase. -/
def hexDigit (d : Nat) : UInt8 := if d < 10 then UInt8.ofNat (48 + d) else UInt8.ofNat (87 + d)

/-- `format!("{:x}", v)` of a byte: lowercase hexadecimal with no leading zero. -/
def lowerHex (v : UInt8) : Bytes :=
  if v.toNat < 16 then [hexDigit v.toNat] else [hexDigit (v.toNat / 16), hexDigit (v.toNat % 16)]

/-- The bits of a byte, most significant first. -/
def bitsOfByte (v : UInt8) : List Bool := [7, 6, 5, 4, 3, 2, 1, 0].map fun k => v.toNat / 2 ^ k % 2 == 1

/-- `BitVec::from_bytes(b)`, bit by bit: eight bits a byte, most significant first. -/
def bitsOfBytes (b : Bytes) : List Bool := b.flatMap bitsOfByte

/-- The byte of up to eight bits, most significant first, zeros filling the low bits. -/
def packByte (bs : List Bool) : UInt8 :=
  UInt8.ofNat (bs.foldl (fun v b => 2 * v + b.toNat) 0 * 2 ^ (8 - bs.length))

/-- `BitVec::to_bytes`: eight bits a byte, most significant first, the last byte filled with
zeros. -/
def bytesOfBits : List Bool → Bytes
  | b₀ :: b₁ :: b₂ :: b₃ :: b₄ :: b₅ :: b₆ :: b₇ :: bs =>
    packByte [b₀, b₁, b₂, b₃, b₄, b₅, b₆, b₇] :: bytesOfBits bs
  | [] => []
  | bs => [packByte bs]

/-- The text of a bit string, `0` and `1`. -/
def bitText (bs : List Bool) : Bytes := bs.map fun b => if b then 49 else 48

/-! ### `impl Display for Literal` -/

/-- `lit.to_string()`, as bytes; `none` where formatting panics. -/
def Literal.fmt : Literal → Option Bytes
  | .null => some (ascii "NULL")
  | .boolean true => some (ascii "TRUE")
  | .boolean false => some (ascii "FALSE")
  | .integer i => some (intText i.val)
  | .float f => some (writeReal f.value.formatFixed f.precision)
  | .double d => some (writeReal d.value.formatFixed d.precision)
  | .numeric m s => numericText m s
  | .string s => some (ascii "'" ++ escapeString s.bytes ++ ascii "'")
  | .blob b => some ((ascii " ").intercalate (b.map lowerHex))
  | .currentTime => some (ascii "CURRENT_TIME")
  | .currentDate => some (ascii "CURRENT_DATE")
  | .currentTimestamp => some (ascii "CURRENT_TIMESTAMP")
  | .byteArray b => some (ascii "E'\\x" ++ (b.map lowerHex).flatten ++ ascii "'")
  | .placeholder p => some p.toString
  | .bitVector b => some (ascii "B'" ++ bitText (bitsOfBytes b) ++ ascii "'")

/-- `From<u64>` casts with `as`, which wraps: from `2^63` on, the literal holds `i - 2^64`, and
its display is that negative number. -/
theorem from_u64_display (i : UInt64) :
    (Literal.ofU64 i).fmt =
      some (if i.toNat < 2 ^ 63 then decimal i.toNat else ascii "-" ++ decimal (2 ^ 64 - i.toNat)) := by
  have hi : i.toNat < 2 ^ 64 := i.toNat_lt_size
  simp only [Literal.ofU64, Literal.fmt, intText, I64.wrap]
  by_cases h : i.toNat < 2 ^ 63
  · have hv : ((i.toNat : Int) + 2 ^ 63) % 2 ^ 64 - 2 ^ 63 = i.toNat := by omega
    rw [hv, if_pos h, if_neg (by omega), Int.toNat_ofNat]
  · have hv : ((i.toNat : Int) + 2 ^ 63) % 2 ^ 64 - 2 ^ 63 = -((2 ^ 64 - i.toNat : Nat) : Int) := by
      omega
    rw [hv, if_neg h, if_pos (by omega), Int.natAbs_neg, Int.natAbs_ofNat]

/-- `Decimal::from_i128_with_scale` panics on a scale past 28 and on a mantissa of 96 bits or
more, and `Display` of a `Numeric` with it. -/
theorem numeric_display_panics :
    Literal.fmt (.numeric ⟨0, by omega, by omega⟩ 29) = none ∧
      Literal.fmt (.numeric ⟨2 ^ 96, by omega, by omega⟩ 0) = none := by
  constructor <;> simp only [Literal.fmt, numericText] <;> rw [if_pos]
  · exact .inl (by decide)
  · refine .inr (Nat.le_of_eq ?_)
    rw [show (2 : Int) ^ 96 = ((2 ^ 96 : Nat) : Int) from (Int.natCast_pow 2 96).symm,
      Int.natAbs_ofNat]

/-! ### What the trimming of `write_real!` keeps -/

theorem trimEndZeros_point (A fp : Bytes) :
    trimEndZeros (A ++ 46 :: fp) = A ++ 46 :: trimEndZeros fp := by
  simp only [trimEndZeros, List.reverse_append, List.reverse_cons, List.append_assoc,
    List.singleton_append, List.dropWhile_append]
  split
  · rename_i h
    simp only [List.isEmpty_iff] at h
    simp [List.dropWhile_cons, h]
  · simp

/-- With a point in the text, trimming removes only zeros after it, and leaves at least one
digit there. -/
theorem trimRestore_point_trim (A fp : Bytes) (hfp : ∀ b ∈ fp, isDigit b = true) :
    trimRestore (A ++ 46 :: fp) =
      A ++ 46 :: (if trimEndZeros fp = [] then [48] else trimEndZeros fp) := by
  simp only [trimRestore, trimEndZeros_point]
  by_cases h : trimEndZeros fp = []
  · simp [h]
  · have hsub : ∀ b ∈ trimEndZeros fp, b ∈ fp := fun b hb =>
      List.mem_reverse.mp ((List.dropWhile_suffix _).subset (List.mem_reverse.mp hb))
    obtain ⟨t, ht⟩ : ∃ t, (trimEndZeros fp).getLast? = some t := by
      cases hl : (trimEndZeros fp).getLast? <;> simp_all
    have h46 : t ≠ 46 := by
      rintro rfl
      exact absurd (hfp _ (hsub _ (List.mem_of_getLast?_eq_some ht))) (by decide)
    have hlast : (46 :: trimEndZeros fp).getLast? = some t := by
      rw [← List.singleton_append, List.getLast?_append, ht]; rfl
    simp [h, hlast, h46]

theorem trimEndZeros_append_zero (s : Bytes) : trimEndZeros (s ++ [48]) = trimEndZeros s := by
  simp [trimEndZeros]

/-- Trimming removes exactly the zeros after the last other byte. -/
theorem trimEndZeros_append_zeros {t : Bytes} (ht : t.getLast? ≠ some 48) :
    ∀ k, trimEndZeros (t ++ List.replicate k 48) = t
  | 0 => by
    rw [List.replicate_zero, List.append_nil, trimEndZeros]
    cases h : t.reverse with
    | nil => simpa using h
    | cons b bs =>
      have hb : b ≠ 48 := by rintro rfl; exact ht (by rw [← List.head?_reverse, h]; rfl)
      rw [List.dropWhile_cons, if_neg (by simpa using hb), ← h, List.reverse_reverse]
  | k + 1 => by
    rw [List.replicate_succ', ← List.append_assoc, trimEndZeros_append_zero,
      trimEndZeros_append_zeros ht k]

/-- On a number `A.t` followed by zeros, where `t` is a run of digits that does not end in `0`,
`write_real!` keeps `A.` and `t` and drops the zeros, and writes `A.0` where `t` is empty. -/
theorem trimRestore_point (A t : Bytes) (k : Nat) (hd : ∀ b ∈ t, isDigit b = true)
    (ht : t.getLast? ≠ some 48) :
    trimRestore (A ++ 46 :: (t ++ List.replicate k 48)) =
      A ++ 46 :: (if t = [] then [48] else t) := by
  have hfp : ∀ b ∈ t ++ List.replicate k 48, isDigit b = true := by
    simp only [List.mem_append, List.mem_replicate]
    rintro b (hb | ⟨-, rfl⟩)
    exacts [hd b hb, rfl]
  rw [trimRestore_point_trim A _ hfp, trimEndZeros_append_zeros ht]

/-- `1.00` is written `1.0`. -/
theorem trimRestore_point_at_100 :
    (∀ b ∈ ([] : Bytes), isDigit b = true) ∧ ([] : Bytes).getLast? ≠ some 48 ∧
      trimRestore (ascii "1" ++ 46 :: ([] ++ List.replicate 2 48)) =
        ascii "1" ++ 46 :: (if ([] : Bytes) = [] then [48] else []) :=
  ⟨by decide, by decide, trimRestore_point _ [] 2 (by decide) (by decide)⟩

/-- At precision zero the formatted text has no point, and trimming eats digits of the
integer part: `10.0` is written `1`, and `0.0` as nothing at all. -/
theorem write_real_precision_zero :
    Literal.fmt (.double ⟨⟨0x4024000000000000⟩, 0⟩) = some (ascii "1") ∧
      Literal.fmt (.double ⟨⟨0⟩, 0⟩) = some [] := by
  decide

/-! ### Byte arrays -/

/-- `{:x}` writes a byte below `0x10` as one digit, so the text of a byte array does not
determine it: a byte of one digit followed by one of two reads the same as a byte of two
followed by one of one. -/
theorem bytea_text_collides (x y : UInt8) (hx : 1 ≤ x.toNat ∧ x.toNat < 16) (hy : 16 ≤ y.toNat) :
    Literal.fmt (.byteArray [x, y]) = Literal.fmt (.byteArray
        [UInt8.ofNat (16 * x.toNat + y.toNat / 16), UInt8.ofNat (y.toNat % 16)]) ∧
      [x, y] ≠ [UInt8.ofNat (16 * x.toNat + y.toNat / 16), UInt8.ofNat (y.toNat % 16)] := by
  have hy₁ : y.toNat < 256 := y.toNat_lt_size
  have ha : (UInt8.ofNat (16 * x.toNat + y.toNat / 16)).toNat = 16 * x.toNat + y.toNat / 16 :=
    UInt8.toNat_ofNat_of_lt (by change _ < 256; omega)
  have hb : (UInt8.ofNat (y.toNat % 16)).toNat = y.toNat % 16 :=
    UInt8.toNat_ofNat_of_lt (by change _ < 256; omega)
  have e₁ : (16 * x.toNat + y.toNat / 16) / 16 = x.toNat := by omega
  have e₂ : (16 * x.toNat + y.toNat / 16) % 16 = y.toNat / 16 := by omega
  refine ⟨?_, fun h => ?_⟩
  · simp only [Literal.fmt, List.map_cons, List.map_nil, List.flatten_cons, List.flatten_nil,
      lowerHex, ha, hb, e₁, e₂, if_pos hx.2, if_neg (show ¬y.toNat < 16 by omega),
      if_neg (show ¬16 * x.toNat + y.toNat / 16 < 16 by omega),
      if_pos (show y.toNat % 16 < 16 by omega), List.append_nil, List.singleton_append,
      List.cons_append, List.nil_append]
  · have := congrArg (fun l : Bytes => (l.head?).map UInt8.toNat) h
    simp only [List.head?_cons, some_map, ha, Option.some.injEq] at this
    omega

theorem bytea_text_collides_at_0123 :
    (1 ≤ (1 : UInt8).toNat ∧ (1 : UInt8).toNat < 16) ∧ 16 ≤ (0x23 : UInt8).toNat ∧
      (Literal.fmt (.byteArray [1, 0x23]) = Literal.fmt (.byteArray
        [UInt8.ofNat (16 * (1 : UInt8).toNat + (0x23 : UInt8).toNat / 16),
          UInt8.ofNat ((0x23 : UInt8).toNat % 16)]) ∧
      [(1 : UInt8), 0x23] ≠ [UInt8.ofNat (16 * (1 : UInt8).toNat + (0x23 : UInt8).toNat / 16),
          UInt8.ofNat ((0x23 : UInt8).toNat % 16)]) :=
  ⟨⟨by decide, by decide⟩, by decide, bytea_text_collides 1 0x23 ⟨by decide, by decide⟩ (by decide)⟩

/-- `ls.iter().join(", ")`: the texts of the literals, separated by `, `. -/
def joinComma (ls : List Literal) : Option Bytes :=
  (ls.mapM Literal.fmt).map (ascii ", ").intercalate

end NomSql
