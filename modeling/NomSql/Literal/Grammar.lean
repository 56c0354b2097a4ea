import NomSql.Dialect
import NomSql.Nom.Lists

/-!
# Literal — the grammar

`literal(dialect)`, the ordered alternation over the forms a literal takes, and
`value_list(dialect)`, literals separated by commas.  Numbers are read by `float_literal` and
`integer_literal`; strings, byte arrays and bit strings by the dialect's lexers; the rest by
keyword.

* `integerLiteral_run`: `integer_literal` reads a run of digits as an `i64`, and negates it
  after a `-`.  The digits alone must fit, so the text of `i64::MIN` is not read.
* `floatLiteral_run`: `float_literal` reads `-`? digits `.` digits, with the number of
  fractional digits, cast to `u8`, as the precision; `float_lots_of_digits` is the cast
  wrapping to zero.
-/

namespace NomSql

open Parser

/-! ### Numbers -/

/-- `map_res(map_res(digit1, str::from_utf8), T::from_str)`: a run of digits read by
`from_str`. -/
def digitsFromStr {α : Type} (fromStr : Bytes → Option α) : Parser α :=
  (digit1.mapRes strFromUtf8).mapRes fromStr

/-- `integer_literal`.  The digits carry no sign, so `intval *= -1` never overflows. -/
def integerLiteral : Parser Literal :=
  (pair (opt (tag "-")) (digitsFromStr fromStrI64)).map fun tup =>
    .integer (if tup.1.isSome then I64.wrap (tup.2.val * -1) else tup.2)

/-- `float`: `-`?, digits, `.`, digits, as the four slices. -/
def float : Parser (Option Bytes × Bytes × Bytes × Bytes) := do
  let sign ← opt (tag "-")
  let int ← digit1
  let point ← tag "."
  let frac ← digit1
  pure (sign, int, point, frac)

/-- `float_literal`: the text `float` recognizes, read by `f64::from_str`, with its number of
fractional digits as the precision; `frac.len() as _` casts that length to `u8`. -/
def floatLiteral : Parser Literal :=
  (pair (peek float) (((recognize float).mapRes strFromUtf8).mapRes F64.fromStr)).map fun f =>
    .double ⟨f.2, UInt8.ofNat f.1.2.2.2.length⟩

/-- `boolean_literal`. -/
def booleanLiteral : Parser Literal :=
  alt [(tagNoCase "true").map fun _ => .boolean true,
    (tagNoCase "false").map fun _ => .boolean false]

/-- `literal(dialect)`: the first of its forms that matches.  A string that is not UTF-8
becomes a `Blob` of its bytes. -/
def literal (L : Lexers) (d : Dialect) : Parser Literal :=
  alt [floatLiteral,
    integerLiteral,
    (L.stringLiteral d).map fun bytes =>
      match Utf8String.fromUtf8 bytes with
      | some s => .string s
      | none => .blob bytes,
    (L.bytesLiteral d).map .byteArray,
    (L.bitvecLiteral d).map fun bits => .bitVector (bytesOfBits bits),
    (tagNoCase "null").map fun _ => .null,
    (tagNoCase "current_timestamp").map fun _ => .currentTimestamp,
    (tagNoCase "current_date").map fun _ => .currentDate,
    (tagNoCase "current_time").map fun _ => .currentTime,
    (tag "?").map fun _ => .placeholder .questionMark,
    (preceded (tag ":") (digitsFromStr fromStrU32)).map fun num =>
      .placeholder (.colonNumber num),
    (preceded (tag "$") (digitsFromStr fromStrU32)).map fun num =>
      .placeholder (.dollarNumber num),
    booleanLiteral]

/-- `ws_sep_comma`. -/
def wsSepComma : Parser Bytes := delimited whitespace0 (tag ",") whitespace0

/-- `value_list(dialect)`. -/
def valueList (L : Lexers) (d : Dialect) : Parser (List Literal) :=
  separatedList0 wsSepComma (literal L d)

/-! ### Reading numbers

Each lemma takes a run of digits `ds` followed by a rest `r` that does not go on with a
digit; `neg` says whether a `-` comes first. -/

section Numbers

variable {ds r : Bytes}

/-- The optional sign in front of a number. -/
def minusSign (neg : Bool) : Bytes := if neg then ascii "-" else []

theorem digitsFromStr_run {α : Type} (fromStr : Bytes → Option α) (hne : ds ≠ [])
    (hd : ∀ b ∈ ds, isDigit b = true) (hr : ∀ b ∈ r.head?, isDigit b = false) :
    (digitsFromStr fromStr).run (ds ++ r) = (fromStr ds).map fun v => (r, v) := by
  simp [digitsFromStr, run_digit1_append hne hd hr, strFromUtf8_of_digits hd]

theorem head?_digits_append (hne : ds ≠ []) (hd : ∀ b ∈ ds, isDigit b = true) :
    ∀ b ∈ (ds ++ r).head?, isDigit b = true := by
  obtain ⟨c, cs, rfl⟩ := List.exists_cons_of_ne_nil hne
  simpa using hd c (List.mem_cons_self _ _)

/-- `opt(tag("-"))` takes the sign, and nothing from a run of digits. -/
theorem opt_minus_run (neg : Bool) (hne : ds ≠ []) (hd : ∀ b ∈ ds, isDigit b = true) :
    (opt (tag "-")).run (minusSign neg ++ (ds ++ r)) =
      some (ds ++ r, if neg then some (ascii "-") else none) := by
  cases neg with
  | false =>
    simp [minusSign, @run_tagBy_of_head id "-" _ isDigit (fun _ _ => rfl)
      (head?_digits_append hne hd) (by decide)]
  | true => simp [minusSign, @run_tagBy_self id "-" (ascii "-") _ (by decide) (by decide)]

/-- `integer_literal` on a run of digits, after a `-` or not. -/
theorem integerLiteral_run (neg : Bool) (hne : ds ≠ []) (hd : ∀ b ∈ ds, isDigit b = true)
    (hr : ∀ b ∈ r.head?, isDigit b = false) :
    integerLiteral.run (minusSign neg ++ (ds ++ r)) =
      (fromStrI64 ds).map fun v => (r, .integer (if neg then I64.wrap (v.val * -1) else v)) := by
  simp only [integerLiteral, pair, run_map, run_bind, run_pure, opt_minus_run _ hne hd,
    Option.some_bind, digitsFromStr_run _ hne hd hr]
  cases fromStrI64 ds <;> cases neg <;> rfl

/-- `digit1` fails where no digit comes first. -/
theorem run_digit1_of_head (hr : ∀ b ∈ r.head?, isDigit b = false) : digit1.run r = none := by
  cases r with
  | nil => rfl
  | cons b bs => exact run_digit1_of_not_digit (u := [b]) bs (by simpa using hr)

/-- `float` on a run of digits that a point and a digit do not follow fails. -/
theorem float_run_of_no_fraction (neg : Bool) (hne : ds ≠ []) (hd : ∀ b ∈ ds, isDigit b = true)
    (hr : ∀ b ∈ r.head?, isDigit b = false)
    (hpt : ∀ r', r = ascii "." ++ r' → ∀ b ∈ r'.head?, isDigit b = false) :
    float.run (minusSign neg ++ (ds ++ r)) = none := by
  simp only [float, run_bind, opt_minus_run _ hne hd, Option.some_bind,
    run_digit1_append hne hd hr]
  rcases r with _ | ⟨b, r'⟩
  · rfl
  by_cases hb : b = 46
  · subst hb
    rw [show (46 :: r' : Bytes) = ascii "." ++ r' from rfl,
      run_tagBy_self _ (by decide : prefixBy id (ascii ".") (ascii ".") = true) rfl,
      Option.some_bind, run_digit1_of_head (hpt r' rfl), Option.none_bind]
  · simp [tagBy, ascii, prefixBy, hb]

theorem floatLiteral_run_of_no_fraction (neg : Bool) (hne : ds ≠ [])
    (hd : ∀ b ∈ ds, isDigit b = true) (hr : ∀ b ∈ r.head?, isDigit b = false)
    (hpt : ∀ r', r = ascii "." ++ r' → ∀ b ∈ r'.head?, isDigit b = false) :
    floatLiteral.run (minusSign neg ++ (ds ++ r)) = none := by
  simp [floatLiteral, pair, float_run_of_no_fraction neg hne hd hr hpt]

variable {m f : Bytes}

theorem head?_point_append : ∀ b ∈ (ascii "." ++ r).head?, isDigit b = false :=
  head?_append_of_head r (by decide)

theorem float_run (neg : Bool) (hm : m ≠ []) (hmd : ∀ b ∈ m, isDigit b = true) (hf : f ≠ [])
    (hfd : ∀ b ∈ f, isDigit b = true) (hr : ∀ b ∈ r.head?, isDigit b = false) :
    float.run (minusSign neg ++ (m ++ (ascii "." ++ (f ++ r)))) =
      some (r, (if neg then some (ascii "-") else none, m, ascii ".", f)) := by
  simp only [float, run_bind, run_pure, opt_minus_run _ hm hmd, Option.some_bind,
    run_digit1_append hm hmd head?_point_append,
    run_tagBy_self _ (by decide : prefixBy id (ascii ".") (ascii ".") = true) rfl,
    run_digit1_append hf hfd hr]

/-- `f64::from_str` reads every text `float` recognizes. -/
theorem fromStr_float_isSome (neg : Bool) (hm : m ≠ []) (hmd : ∀ b ∈ m, isDigit b = true)
    (hfd : ∀ b ∈ f, isDigit b = true) :
    (F64.fromStr (minusSign neg ++ (m ++ (ascii "." ++ f)))).isSome := by
  obtain ⟨b, bs, rfl⟩ := List.exists_cons_of_ne_nil hm
  have hb : isDigit b = true := hmd b (List.mem_cons_self _ _)
  have hbs : ∀ x ∈ bs, isDigit x = true := fun x hx => hmd x (List.mem_cons_of_mem _ hx)
  have hstop : ∀ x ∈ (46 :: f).head?, isDigit x = false := head?_append_of_head (u := [46]) f rfl
  have h43 : b ≠ 43 := by rintro rfl; exact absurd hb (by decide)
  have h45 : b ≠ 45 := by rintro rfl; exact absurd hb (by decide)
  have hpoint : ascii "." ++ f = 46 :: f := rfl
  have hminus : ∀ x, ascii "-" ++ x = 45 :: x := fun _ => rfl
  cases neg <;>
    simp [F64.fromStr, minusSign, hpoint, hminus, List.takeWhile_cons, List.dropWhile_cons, hb,
      takeWhile_append_of_stop hbs hstop, dropWhile_append_of_stop hbs hstop, h43, h45,
      List.takeWhile_eq_self_iff.mpr hfd, List.dropWhile_eq_nil_iff.mpr hfd]

/-- `float_literal` on `-`? digits `.` digits: the value `f64::from_str` reads from the text,
and the number of fractional digits modulo 256. -/
theorem floatLiteral_run (neg : Bool) (hm : m ≠ []) (hmd : ∀ b ∈ m, isDigit b = true)
    (hf : f ≠ []) (hfd : ∀ b ∈ f, isDigit b = true) (hr : ∀ b ∈ r.head?, isDigit b = false) :
    floatLiteral.run (minusSign neg ++ (m ++ (ascii "." ++ (f ++ r)))) =
      (F64.fromStr (minusSign neg ++ (m ++ (ascii "." ++ f)))).map fun v =>
        (r, .double ⟨v, UInt8.ofNat f.length⟩) := by
  have htext : minusSign neg ++ (m ++ (ascii "." ++ (f ++ r))) =
      (minusSign neg ++ (m ++ (ascii "." ++ f))) ++ r := by simp
  have htake : (minusSign neg ++ (m ++ (ascii "." ++ (f ++ r)))).take
      ((minusSign neg ++ (m ++ (ascii "." ++ (f ++ r)))).length - r.length) =
      minusSign neg ++ (m ++ (ascii "." ++ f)) := by
    rw [htext, List.take_left' (by simp; omega)]
  have hascii : ∀ x ∈ minusSign neg ++ (m ++ (ascii "." ++ f)), x.toNat < 0x80 := by
    have hdig : ∀ x, isDigit x = true → x.toNat < 0x80 := fun x hx => by
      simp only [isDigit, Bool.and_eq_true, decide_eq_true_eq] at hx; omega
    intro x hx
    simp only [List.mem_append] at hx
    rcases hx with hx | hx | hx | hx
    · cases neg
      · cases hx
      · exact (by decide : ∀ x ∈ ascii "-", x.toNat < 0x80) x hx
    · exact hdig x (hmd x hx)
    · exact (by decide : ∀ x ∈ ascii ".", x.toNat < 0x80) x hx
    · exact hdig x (hfd x hx)
  simp only [floatLiteral, pair, run_map, run_bind, run_pure, run_peek, run_mapRes,
    run_recognize, float_run neg hm hmd hf hfd hr, some_map, Option.some_bind, htake,
    strFromUtf8_of_ascii hascii]
  cases F64.fromStr (minusSign neg ++ (m ++ (ascii "." ++ f))) <;> rfl

end Numbers

/-- A literal with 256 fractional digits gets precision 0, and is written back without its
point and fractional digits. -/
theorem float_lots_of_digits (L : Lexers) (d : Dialect) :
    ∃ v, (literal L d).run (ascii "1." ++ List.replicate 256 48) =
      some ([], .double ⟨v, 0⟩) ∧ ∀ s, Literal.fmt (.double ⟨v, 0⟩) = some s → (46 : UInt8) ∉ s := by
  have hzeros : ∀ b ∈ List.replicate 256 (48 : UInt8), isDigit b = true := fun b hb => by
    rw [List.eq_of_mem_replicate hb]; rfl
  have hne : List.replicate 256 (48 : UInt8) ≠ [] :=
    List.ne_nil_of_length_pos (by rw [List.length_replicate]; decide)
  obtain ⟨v, hv⟩ := Option.isSome_iff_exists.mp
    (fromStr_float_isSome false (m := ascii "1") (by decide) (by decide) hzeros)
  have h := floatLiteral_run (r := []) false (m := ascii "1") (by decide) (by decide) hne hzeros
    (by simp)
  have hin : minusSign false ++ (ascii "1" ++ (ascii "." ++ List.replicate 256 48)) =
      ascii "1." ++ List.replicate 256 48 := rfl
  rw [List.append_nil, hv, hin, List.length_replicate] at h
  refine ⟨v, ?_, fun s hs => ?_⟩
  · rw [literal, alt_cons, run_orElse, h]; rfl
  · cases hs; exact point_not_mem_writeReal_zero v

end NomSql
