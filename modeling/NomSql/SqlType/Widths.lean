import NomSql.SqlType.RoundTrip

/-!
# SqlType — widths, precisions and scales the grammar cannot read

`opt(delim_u16)` and `opt(precision)` read nothing where the number in parentheses does not
fit its type, and `SqlType::from_str` keeps the type that was read and drops what is left.  A
width out of range is therefore no error: `int(70000)` is `Int(None)`, `decimal(300,2)` is
`Decimal(32, 0)` and `numeric(10, 300)` is `Numeric(None)`.

`precision` reads a scale only right after the digits of the precision, where
`numeric_precision` also skips spaces before the comma: `decimal(10 ,2)` is `Decimal(32, 0)`
with `(10 ,2)` left, `numeric(10 ,2)` is `Numeric(Some((10, Some(2))))`.
-/

namespace NomSql

open Parser

section Widths

variable (L : Lexers)

/-- A width, precision or scale out of range is dropped, and `from_str` still succeeds. -/
theorem from_str_drops_unreadable_width :
    (∀ n : Nat, 65536 ≤ n →
      SqlType.fromStr L (ascii "int(" ++ decimal n ++ ascii ")") = .ok (.int none)) ∧
    (∀ (m : Nat) (b : UInt8), 256 ≤ m →
      SqlType.fromStr L (ascii "decimal(" ++ decimal m ++ ascii "," ++ decimal b.toNat ++
        ascii ")") = .ok (.decimal 32 0)) ∧
    (∀ (a : UInt16) (m : Nat), 256 ≤ m →
      SqlType.fromStr L (ascii "numeric(" ++ decimal a.toNat ++ ascii ", " ++ decimal m ++
        ascii ")") = .ok (.numeric none)) := by
  have split_int : ascii "int(" = ascii "int" ++ ascii "(" := rfl
  have split_decimal : ascii "decimal(" = ascii "decimal" ++ ascii "(" := rfl
  have split_numeric : ascii "numeric(" = ascii "numeric" ++ ascii "(" := rfl
  have split_comma : ascii ", " = ascii "," ++ ascii " " := rfl
  have end_close : ascii ")" = ascii ")" ++ [] := rfl
  refine ⟨fun n hn => ?_, fun m b hm => ?_, fun a m hm => ?_⟩
  all_goals
    simp only [SqlType.fromStr]
    rw [end_close]
    simp (disch := decide) only [split_int, split_decimal, split_numeric, split_comma,
      List.append_assoc, run_typeIdentifier, typeIdentifierFirstHalf_run_stop, none_or]
    dsimp only [typeIdentifierFirstHalf, typeIdentifierSecondHalf, intType, optSigned,
      decimalOrNumeric, preceded, terminated, delimited]
    simp (disch := first | decide | omega) only [run_alt_cons, run_alt_nil, run_orElse, run_map, run_bind_elim,
      run_pure, run_fail, run_opt, some_or, none_or, some_elim,
      none_elim, some_map, none_map, some_getD, none_getD,
      Option.some_bind, Option.none_bind, run_tagBy_self, run_tagBy_of_incompatible,
      run_tagBy_of_incompatible_append, run_whitespace0_of_not_space,
      delimU16_run (decimal_ne_nil _) isDigit_of_mem_decimal,
      precision_run_tight (decimal_ne_nil _) isDigit_of_mem_decimal (decimal_ne_nil _)
        isDigit_of_mem_decimal,
      numericPrecision_run_spaced (decimal_ne_nil _) isDigit_of_mem_decimal (decimal_ne_nil _)
        isDigit_of_mem_decimal, fromStrU16_decimal, fromStrU16_decimal_of_ge,
      fromStrU8_decimal_of_ge]

end Widths

section Spacing

variable (L : Lexers) (d : Dialect)

/-- Spaces before the comma: `precision` fails on them, so `DECIMAL` keeps its defaults and
leaves the parenthesis unread, while `numeric_precision` reads past them. -/
theorem decimal_precision_rejects_space_before_comma (a b : UInt8) {w₁ w₂ : Bytes}
    (hw₁ : ∀ c ∈ w₁, isSpace c = true) (hne : w₁ ≠ []) (hw₂ : ∀ c ∈ w₂, isSpace c = true)
    (r : Bytes) :
    (typeIdentifier L d).run
        (ascii "decimal" ++ (precisionText (decimal a.toNat) w₁ w₂ (decimal b.toNat) ++ r)) =
      some (precisionText (decimal a.toNat) w₁ w₂ (decimal b.toNat) ++ r, .decimal 32 0) ∧
    (typeIdentifier L d).run
        (ascii "numeric" ++ (precisionText (decimal a.toNat) w₁ w₂ (decimal b.toNat) ++ r)) =
      some (r, .numeric (some (UInt16.ofNat a.toNat, some b))) := by
  have ha : fromStrU16 (decimal a.toNat) = some (UInt16.ofNat a.toNat) := by
    have h := fromStrU16_decimal (UInt16.ofNat a.toNat)
    rwa [UInt16.toNat_ofNat_of_lt (Nat.lt_of_lt_of_le a.toNat_lt_size (by decide))] at h
  rw [precisionText_append]
  constructor
  all_goals
    simp (disch := decide) only [run_typeIdentifier, typeIdentifierFirstHalf_run_stop,
      none_or]
    dsimp only [typeIdentifierFirstHalf, typeIdentifierSecondHalf, intType, optSigned,
      decimalOrNumeric, preceded, terminated, delimited]
    simp (disch := decide) only [run_alt_cons, run_alt_nil, run_orElse, run_map, run_bind_elim,
      run_pure, run_fail, run_opt, some_or, none_or, some_elim,
      none_elim, some_map, none_map, some_getD, none_getD,
      Option.some_bind, run_tagBy_self, run_tagBy_of_incompatible,
      run_tagBy_of_incompatible_append, run_whitespace0_of_not_space,
      precision_run (decimal_ne_nil _) isDigit_of_mem_decimal (decimal_ne_nil _)
        isDigit_of_mem_decimal hw₁ hw₂, if_neg hne,
      numericPrecision_run (decimal_ne_nil _) isDigit_of_mem_decimal (decimal_ne_nil _)
        isDigit_of_mem_decimal hw₁ hw₂, ha, fromStrU8_decimal]

end Spacing

theorem decimal_precision_rejects_space_before_comma_at_10_2 :
    (∀ c ∈ ascii " ", isSpace c = true) ∧ ascii " " ≠ [] ∧ (∀ c ∈ ([] : Bytes), isSpace c = true) ∧
    ((typeIdentifier Lexers.reference .mySQL).run
        (ascii "decimal" ++ (precisionText (decimal 10) (ascii " ") [] (decimal 2) ++ [])) =
      some (precisionText (decimal 10) (ascii " ") [] (decimal 2) ++ [], .decimal 32 0) ∧
    (typeIdentifier Lexers.reference .mySQL).run
        (ascii "numeric" ++ (precisionText (decimal 10) (ascii " ") [] (decimal 2) ++ [])) =
      some ([], .numeric (some (10, some 2)))) :=
  ⟨by decide, by decide, by decide, decimal_precision_rejects_space_before_comma Lexers.reference
    .mySQL 10 2 (by decide) (by decide) (by decide) []⟩

end NomSql
