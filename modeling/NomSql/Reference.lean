import NomSql.Literal.RoundTrip

/-!
# Field references

`field_reference(dialect)`: a `GROUP BY` or `ORDER BY` target, a position in the `SELECT`
list or an expression.  PostgreSQL reads an expression; MySQL first tries a position, a run
of digits read by `u64::from_str`, and reads an expression only where that fails.  The
expression grammar is `crate::expression`, which is not part of this core: it is a parameter.

The choice looks at nothing after the digits: MySQL reads a position exactly where the input
opens with a run of digits that fits a `u64`, and the position is the whole run, whatever
follows (`fieldReference_mySQL_run_digits`).  So `1.5` is the position `1` with `.5` left,
where `literal` reads the float `1.5`, since it tries `float_literal` before
`integer_literal`.

`Display` writes a position as its decimal digits, and a list of field references joined by
`, ` (as `ORDER BY` and `GROUP BY` write them): MySQL reads every nonempty list of positions
back from that text, whole, one position a round (`sepLoop_positions`), whatever the expression
grammar, which is never reached.
-/

namespace NomSql

open Parser

/-- `FieldReference`, over the type of expressions. -/
inductive FieldReference (Expr : Type)
  | numeric (n : UInt64)
  | expression (e : Expr)
deriving DecidableEq

variable {Expr : Type}

/-- `field_reference(dialect)`, given `expression(dialect)`. -/
def fieldReference (expression : Dialect → Parser Expr) :
    Dialect → Parser (FieldReference Expr)
  | .postgreSQL => (expression .postgreSQL).map .expression
  | .mySQL => alt [((digit1.mapRes strFromUtf8).mapRes fromStrU64).map .numeric,
      (expression .mySQL).map .expression]

/-- `impl Display for FieldReference`, given the `Display` of expressions. -/
def FieldReference.fmt (exprFmt : Expr → Bytes) : FieldReference Expr → Bytes
  | .numeric n => decimal n.toNat
  | .expression e => exprFmt e

/-- `field_reference_list(dialect)`. -/
def fieldReferenceList (expression : Dialect → Parser Expr) (d : Dialect) :
    Parser (List (FieldReference Expr)) :=
  separatedList0 wsSepComma (fieldReference expression d)

/-- MySQL reads every run of digits whose value fits a `u64` as a position, whatever follows
the digits and whatever the expression grammar. -/
theorem fieldReference_mySQL_run_digits (expression : Dialect → Parser Expr) {ds rest : Bytes}
    (hne : ds ≠ []) (hd : ∀ b ∈ ds, isDigit b = true) (hr : ∀ b ∈ rest.head?, isDigit b = false)
    (hv : digitsValue ds < 2 ^ 64) :
    (fieldReference expression .mySQL).run (ds ++ rest) =
      some (rest, .numeric (UInt64.ofNat (digitsValue ds))) := by
  simp only [fieldReference, alt_cons, alt_nil, run_orElse, run_map, run_mapRes,
    run_digit1_append hne hd hr, Option.some_bind, strFromUtf8_of_digits hd,
    fromStrU64_of_digits hne hd, if_pos hv, some_map, some_or]

/-- MySQL reads a position exactly where the input opens with a run of digits whose value fits
a `u64`: the position is that whole run and its value, and what follows is left, whatever it
is. -/
theorem field_reference_numeric_is_leading_digits (expression : Dialect → Parser Expr)
    (i rest : Bytes) (n : UInt64) :
    (fieldReference expression .mySQL).run i = some (rest, .numeric n) ↔
      ∃ ds, ds ≠ [] ∧ (∀ b ∈ ds, isDigit b = true) ∧ i = ds ++ rest ∧
        (∀ b ∈ rest.head?, isDigit b = false) ∧ n.toNat = digitsValue ds := by
  constructor
  case mpr =>
    rintro ⟨ds, hne, hd, rfl, hr, hn⟩
    rw [fieldReference_mySQL_run_digits expression hne hd hr (hn ▸ n.toNat_lt_size), ← hn,
      UInt64.ofNat_toNat']
  case mp =>
    intro h
    simp only [fieldReference, alt_cons, alt_nil, run_orElse, run_map, run_mapRes, run_fail] at h
    cases hd : digit1.run i with
    | none => simp [hd] at h
    | some x =>
      obtain ⟨r, ds⟩ := x
      obtain ⟨hne, hdig, rfl, hr⟩ := run_digit1_eq_some hd
      simp only [hd, Option.some_bind, strFromUtf8_of_digits hdig, some_map,
        fromStrU64_of_digits hne hdig] at h
      split at h
      · simp only [some_map, some_or, Option.some.injEq, Prod.mk.injEq,
          FieldReference.numeric.injEq] at h
        obtain ⟨rfl, rfl⟩ := h
        exact ⟨ds, hne, hdig, rfl, hr, UInt64.toNat_ofNat_of_lt ‹_›⟩
      · simp at h

/-- MySQL reads `1.5` as the position `1` and leaves `.5`. -/
theorem field_reference_cuts_one_point_five :
    (fieldReference (fun _ => (fail : Parser Unit)) .mySQL).run (ascii "1.5") =
      some (ascii ".5", .numeric 1) :=
  @fieldReference_mySQL_run_digits Unit _ (ascii "1") (ascii ".5") (by decide) (by decide)
    (by decide) (by decide)

/-! ### Positions read back -/

/-- MySQL reads the text `Display` writes for a position back, up to a byte that is not a
digit. -/
theorem fieldReference_mySQL_run_fmt (expression : Dialect → Parser Expr) (exprFmt : Expr → Bytes)
    (n : UInt64) {rest : Bytes} (hr : ∀ b ∈ rest.head?, isDigit b = false) :
    (fieldReference expression .mySQL).run ((FieldReference.numeric n).fmt exprFmt ++ rest) =
      some (rest, .numeric n) := by
  have hv : digitsValue (decimal n.toNat) < 2 ^ 64 := by
    rw [digitsValue_decimal]
    exact n.toNat_lt_size
  rw [FieldReference.fmt, fieldReference_mySQL_run_digits expression (decimal_ne_nil _)
    isDigit_of_mem_decimal hr hv, digitsValue_decimal, UInt64.ofNat_toNat']

/-- The rounds of `field_reference_list` after the first position read one `, ` and one
position each, up to the end. -/
theorem sepLoop_positions (expression : Dialect → Parser Expr) (exprFmt : Expr → Bytes) :
    ∀ (ns : List UInt64) (acc : List (FieldReference Expr)),
      sepLoop wsSepComma (fieldReference expression .mySQL)
          (ns.map fun n => ascii ", " ++ (FieldReference.numeric n).fmt exprFmt).flatten acc =
        some ([], acc ++ ns.map .numeric)
  | [], acc => by simpa using sepLoop_of_sep_none acc wsSepComma_run_nil
  | n :: ns, acc => by
    have hsp : ∀ b ∈ ((FieldReference.numeric n).fmt exprFmt ++
        (ns.map fun n => ascii ", " ++ (FieldReference.numeric n).fmt exprFmt).flatten).head?,
        isSpace b = false := by
      obtain ⟨b, bs, hb⟩ := List.exists_cons_of_ne_nil (decimal_ne_nil n.toNat)
      simp only [FieldReference.fmt, hb, List.cons_append, List.head?_cons, Option.mem_def,
        Option.some.injEq, forall_eq']
      exact isSpace_of_isDigit (isDigit_of_mem_decimal b (hb ▸ List.mem_cons_self _ _))
    have htext := tokenEnd_commaText
      (ns.map fun n => (FieldReference.numeric n : FieldReference Expr).fmt exprFmt)
    rw [List.map_map] at htext
    rw [List.map_cons, List.flatten_cons, List.append_assoc,
      sepLoop_of_elem_some acc (wsSepComma_run hsp) (by simp [ascii]; omega)
        (fieldReference_mySQL_run_fmt expression exprFmt n (TokenEnd.not_digit htext))]
    have ih := sepLoop_positions expression exprFmt ns (acc ++ [.numeric n])
    rw [List.append_assoc, List.singleton_append] at ih
    rwa [List.map_cons]

theorem field_reference_list_numeric_round_trip (expression : Dialect → Parser Expr)
    (exprFmt : Expr → Bytes) {ns : List UInt64} (hns : ns ≠ []) :
    (fieldReferenceList expression .mySQL).run
        ((ascii ", ").intercalate (ns.map fun n => (FieldReference.numeric n).fmt exprFmt)) =
      some ([], ns.map .numeric) := by
  obtain ⟨n, ns, rfl⟩ := List.exists_cons_of_ne_nil hns
  have htext := tokenEnd_commaText
    (ns.map fun n => (FieldReference.numeric n : FieldReference Expr).fmt exprFmt)
  rw [List.map_map] at htext
  simp only [fieldReferenceList, separatedList0, List.map_cons, intercalate_cons_eq, List.map_map]
  rw [fieldReference_mySQL_run_fmt expression exprFmt n (TokenEnd.not_digit htext)]
  exact sepLoop_positions expression exprFmt ns [.numeric n]

/-- `1, 2` reads back as the positions `1` and `2`. -/
theorem field_reference_list_numeric_round_trip_at_1_2 :
    [(1 : UInt64), 2] ≠ [] ∧
      (fieldReferenceList (fun _ => (fail : Parser Unit)) .mySQL).run ((ascii ", ").intercalate
          ([(1 : UInt64), 2].map fun n => (FieldReference.numeric n : FieldReference Unit).fmt
            fun _ => [])) =
        some ([], [(1 : UInt64), 2].map .numeric) :=
  ⟨by decide, field_reference_list_numeric_round_trip _ _ (by decide)⟩

end NomSql
