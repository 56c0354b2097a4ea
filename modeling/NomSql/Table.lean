import NomSql.Literal.Grammar
import NomSql.Nom.Keywords

/-!
# Column and table references

The reference grammars of `common.rs`: qualified columns, aliases, table references with and
without a schema, and the lists and assignments built from them.  Names are read by the
dialect's `identifier()`, which is not part of this core (§4.1): it is a parameter, and the
column reference and the schema-qualified table reference are characterised on every input in
terms of what that lexer reads.

* `column_identifier_no_alias_run_eq_some_iff`: a `table.` prefix, whitespace allowed on both
  sides of the dot, is taken whenever it can be.  Once taken, the column's name must follow:
  on `t.*` the parser fails, with no return to reading `t` as the column's name;
* `schema_table_reference_run_eq_some_iff`: a schema is read only where a dot follows its
  name directly.  On `s . c`, with whitespace before the dot, a column reference is qualified
  by `s` while a table reference takes `s` as the table's name, with no schema.
-/

namespace NomSql

open Parser

/-- `dialect.identifier()` and `dialect.function_identifier()`: the dialect's lexers of names,
which are not part of this core.  A `SqlIdentifier` and a `&str` are both their bytes. -/
structure Names where
  identifier : Dialect → Parser Bytes
  functionIdentifier : Dialect → Parser Bytes

/-- `Column`: the two fields `column_identifier_no_alias` fills. -/
structure Column where
  name : Bytes
  table : Option Bytes
deriving DecidableEq

/-- `Table`. -/
structure Table where
  name : Bytes
  «alias» : Option Bytes
  schema : Option Bytes
deriving DecidableEq

variable (N : Names) (d : Dialect)

/-! ### The grammars -/

/-- `column_identifier_no_alias(dialect)`: an optional `table.` prefix, with whitespace allowed
around the dot, then the column's name. -/
def columnIdentifierNoAlias : Parser Column := do
  let table ← opt (terminated (N.identifier d) (delimited whitespace0 (tag ".") whitespace0))
  let name ← N.identifier d
  pure { name, table }

/-- `as_alias(dialect)`: whitespace, an optional `AS` and whitespace, then the alias. -/
def asAlias : Parser Bytes := do
  let _ ← whitespace1
  let _ ← opt (pair (tagNoCase "as") whitespace1)
  N.identifier d

/-- `table_reference(dialect)`: a table's name and an optional alias. -/
def tableReference : Parser Table :=
  (pair (N.identifier d) (opt (asAlias N d))).map fun tup =>
    { name := tup.1, «alias» := tup.2, schema := none }

/-- `schema_table_reference(dialect)`: an optional `schema.` prefix, a table's name and an
optional alias. -/
def schemaTableReference : Parser Table := do
  let schema ← opt (pair (N.identifier d) (tag "."))
  let name ← N.identifier d
  let «alias» ← opt (asAlias N d)
  pure { name, «alias», schema := schema.map Prod.fst }

/-- `schema_table_reference_no_alias(dialect)`. -/
def schemaTableReferenceNoAlias : Parser Table := do
  let schema ← opt (pair (N.identifier d) (tag "."))
  let name ← N.identifier d
  pure { name, «alias» := none, schema := schema.map Prod.fst }

/-- `field_list(dialect)`. -/
def fieldList : Parser (List Column) := separatedList0 wsSepComma (columnIdentifierNoAlias N d)

/-- `table_list(dialect)`. -/
def tableList : Parser (List Table) := separatedList1 wsSepComma (schemaTableReference N d)

/-- `ws_sep_equals`. -/
def wsSepEquals : Parser Bytes := delimited whitespace0 (tag "=") whitespace0

/-- `assignment_expr(dialect)`, given `expression(dialect)`: a column, `=` between whitespace,
and an expression. -/
def assignmentExpr {Expr : Type} (expression : Dialect → Parser Expr) : Parser (Column × Expr) := do
  let col ← columnIdentifierNoAlias N d
  let _ ← delimited whitespace0 (tag "=") whitespace0
  let expr ← expression d
  pure (col, expr)

/-- `assignment_expr_list(dialect)`. -/
def assignmentExprList {Expr : Type} (expression : Dialect → Parser Expr) :
    Parser (List (Column × Expr)) :=
  separatedList1 wsSepComma (assignmentExpr N d expression)

/-! ### What each reads -/

/-- `j₀` is a dot with whitespace on both sides, then `j`. -/
def DotBetweenSpaces (j₀ j : Bytes) : Prop :=
  ∃ w w', j₀ = w ++ 46 :: (w' ++ j) ∧ (∀ b ∈ w, isSpace b = true) ∧
    (∀ b ∈ w', isSpace b = true) ∧ ∀ b ∈ j.head?, isSpace b = false

theorem run_dot_between_spaces {j₀ j x : Bytes} :
    (delimited whitespace0 (tag ".") whitespace0).run j₀ = some (j, x) ↔
      DotBetweenSpaces j₀ j ∧ x = [46] := by
  simp only [delimited, run_bind_eq_some_iff, run_pure, Option.some.injEq, Prod.mk.injEq,
    run_whitespace0_eq_some_iff, run_tagBy_eq_some_iff, List.map_id, DotBetweenSpaces]
  constructor
  · rintro ⟨j₁, w, ⟨rfl, hw, -⟩, j₂, x, ⟨rfl, rfl⟩, j₃, w', ⟨rfl, hw', hj⟩, rfl, rfl⟩
    exact ⟨⟨w, w', rfl, hw, hw', hj⟩, rfl⟩
  · rintro ⟨⟨w, w', rfl, hw, hw', hj⟩, rfl⟩
    exact ⟨_, w, ⟨rfl, hw, by simp; decide⟩, _, _, ⟨rfl, rfl⟩, _, w', ⟨rfl, hw', hj⟩, rfl, rfl⟩

theorem column_identifier_no_alias_run_eq_some_iff {i r : Bytes} {c : Column} :
    (columnIdentifierNoAlias N d).run i = some (r, c) ↔
      (∃ t j₀ j, (N.identifier d).run i = some (j₀, t) ∧ DotBetweenSpaces j₀ j ∧
          (N.identifier d).run j = some (r, c.name) ∧ c.table = some t) ∨
        ((∀ t j₀ j, (N.identifier d).run i = some (j₀, t) → ¬ DotBetweenSpaces j₀ j) ∧
          (N.identifier d).run i = some (r, c.name) ∧ c.table = none) := by
  have hprefix : ∀ {j t}, (terminated (N.identifier d)
      (delimited whitespace0 (tag ".") whitespace0)).run i = some (j, t) ↔
      ∃ j₀, (N.identifier d).run i = some (j₀, t) ∧ DotBetweenSpaces j₀ j := by
    intro j t
    simp only [terminated, run_bind_eq_some_iff, run_pure, Option.some.injEq, Prod.mk.injEq,
      run_dot_between_spaces]
    constructor
    · rintro ⟨j₀, t, h, j', x, ⟨hd, -⟩, rfl, rfl⟩
      exact ⟨j₀, h, hd⟩
    · rintro ⟨j₀, h, hd⟩
      exact ⟨j₀, t, h, j, [46], ⟨hd, rfl⟩, rfl, rfl⟩
  obtain ⟨name, table⟩ := c
  rw [columnIdentifierNoAlias, run_opt_bind_eq_some_iff]
  simp only [run_bind_eq_some_iff, run_pure, Option.some.injEq, Prod.mk.injEq, Column.mk.injEq,
    run_eq_none_iff, ne_eq, hprefix]
  constructor
  · rintro (⟨j, t, ⟨j₀, h, hd⟩, r', n, hn, rfl, rfl, rfl⟩ | ⟨hno, r', n, hn, rfl, rfl, rfl⟩)
    · exact .inl ⟨t, j₀, j, h, hd, hn, rfl⟩
    · exact .inr ⟨fun t j₀ j h hd => hno j t ⟨j₀, h, hd⟩, hn, rfl⟩
  · rintro (⟨t, j₀, j, h, hd, hn, rfl⟩ | ⟨hno, hn, rfl⟩)
    · exact .inl ⟨j, t, ⟨j₀, h, hd⟩, r, name, hn, rfl, rfl, rfl⟩
    · exact .inr ⟨fun j t ⟨j₀, h, hd⟩ => hno t j₀ j h hd, r, name, hn, rfl, rfl, rfl⟩

/-- The `table.` prefix, read by `column_identifier_no_alias`. -/
theorem run_table_prefix {i j₀ j t : Bytes} (ht : (N.identifier d).run i = some (j₀, t))
    (hdot : DotBetweenSpaces j₀ j) :
    (terminated (N.identifier d) (delimited whitespace0 (tag ".") whitespace0)).run i =
      some (j, t) := by
  simp only [terminated, run_bind, ht, Option.some_bind, run_dot_between_spaces.mpr ⟨hdot, rfl⟩,
    run_pure]

/-- `i` is a schema's name, read by the dialect, and a dot right after it; `j` follows. -/
def SchemaPrefix (i : Bytes) (s : Option Bytes) (j : Bytes) : Prop :=
  (∃ s', s = some s' ∧ (N.identifier d).run i = some (46 :: j, s')) ∨
    (s = none ∧ j = i ∧ ∀ s' j', (N.identifier d).run i ≠ some (46 :: j', s'))

theorem schema_table_reference_run_eq_some_iff {i r : Bytes} {t : Table} :
    (schemaTableReference N d).run i = some (r, t) ↔
      ∃ j j₂, SchemaPrefix N d i t.schema j ∧ (N.identifier d).run j = some (j₂, t.name) ∧
        (opt (asAlias N d)).run j₂ = some (r, t.«alias») := by
  have hdot : ∀ {j a}, (pair (N.identifier d) (tag ".")).run i = some (j, a) ↔
      (N.identifier d).run i = some (46 :: j, a.1) ∧ a.2 = [46] := by
    intro j a
    obtain ⟨s, x⟩ := a
    simp only [pair, run_bind_eq_some_iff, run_pure, Option.some.injEq, Prod.mk.injEq,
      run_tag_single_eq_some_iff (rfl : ascii "." = [46])]
    constructor
    · rintro ⟨j₁, s, h, r', x, ⟨rfl, rfl⟩, rfl, rfl, rfl⟩
      exact ⟨h, rfl⟩
    · rintro ⟨h, rfl⟩
      exact ⟨_, s, h, j, [46], ⟨rfl, rfl⟩, rfl, rfl, rfl⟩
  have hnone : (pair (N.identifier d) (tag ".")).run i = none ↔
      ∀ s' j', (N.identifier d).run i ≠ some (46 :: j', s') := by
    rw [run_eq_none_iff]
    exact ⟨fun h s' j' hs => h j' (s', [46]) (hdot.mpr ⟨hs, rfl⟩),
      fun h j a ha => h a.1 j (hdot.mp ha).1⟩
  obtain ⟨name, al, sch⟩ := t
  rw [schemaTableReference, run_opt_bind_eq_some_iff]
  simp only [run_bind_eq_some_iff, run_pure, Option.some.injEq, Prod.mk.injEq, Table.mk.injEq,
    hdot, hnone, SchemaPrefix, Option.map_some', Option.map_none']
  constructor
  · rintro (⟨j, ⟨s, x⟩, ⟨h, -⟩, j₂, n, hn, r', al', hal, rfl, rfl, rfl, rfl⟩ |
      ⟨hno, j₂, n, hn, r', al', hal, rfl, rfl, rfl, rfl⟩)
    · exact ⟨j, j₂, .inl ⟨s, rfl, h⟩, hn, hal⟩
    · exact ⟨i, j₂, .inr ⟨rfl, rfl, hno⟩, hn, hal⟩
  · rintro ⟨j, j₂, (⟨s, rfl, h⟩ | ⟨rfl, rfl, hno⟩), hn, hal⟩
    · exact .inl ⟨j, (s, [46]), ⟨h, rfl⟩, j₂, name, hn, r, al, hal, rfl, rfl, rfl, rfl⟩
    · exact .inr ⟨hno, j₂, name, hn, r, al, hal, rfl, rfl, rfl, rfl⟩

/-- Whitespace before the dot: `column_identifier_no_alias` reads `s . c` as the column `c` of
the table `s`, while `schema_table_reference` reads no schema there, and takes `s` as the
table's name. -/
theorem spaced_dot_qualifies_column_not_table {i w w' j r s c : Bytes}
    (hs : (N.identifier d).run i = some (w ++ 46 :: (w' ++ j), s)) (hw : w ≠ [])
    (hsp : ∀ b ∈ w, isSpace b = true) (hsp' : ∀ b ∈ w', isSpace b = true)
    (hj : ∀ b ∈ j.head?, isSpace b = false) (hc : (N.identifier d).run j = some (r, c)) :
    (columnIdentifierNoAlias N d).run i = some (r, ⟨c, some s⟩) ∧
      ∀ r' t, (schemaTableReference N d).run i = some (r', t) → t.schema = none ∧ t.name = s := by
  refine ⟨?column, fun r' t h => ?table⟩
  case column =>
    simp only [columnIdentifierNoAlias, run_bind, run_opt,
      run_table_prefix N d hs ⟨w, w', rfl, hsp, hsp', hj⟩, Option.map_some', Option.getD_some,
      Option.some_bind, hc, run_pure]
  case table =>
    obtain ⟨j', j₂, hpre, hn, -⟩ := (schema_table_reference_run_eq_some_iff N d).mp h
    rcases hpre with ⟨s', -, h'⟩ | ⟨hnone, rfl, -⟩
    · obtain ⟨b, bs, rfl⟩ := List.exists_cons_of_ne_nil hw
      simp only [hs, List.cons_append, Option.some.injEq, Prod.mk.injEq, List.cons.injEq] at h'
      exact absurd (hsp b (List.mem_cons_self _ _)) (by rw [h'.1.1]; decide)
    · exact ⟨hnone, (Prod.mk.inj (Option.some.inj (hs.symm.trans hn))).2.symm⟩

/-- With digits for names, `1 . 2` is the column `2` of the table `1`, and the table `1`. -/
theorem spaced_dot_qualifies_column_not_table_at_1_2 :
    ((⟨fun _ => digit1, fun _ => digit1⟩ : Names).identifier .mySQL).run (ascii "1 . 2") =
        some (ascii " " ++ 46 :: (ascii " " ++ ascii "2"), ascii "1") ∧ ascii " " ≠ [] ∧
      (∀ b ∈ ascii " ", isSpace b = true) ∧ (∀ b ∈ ascii " ", isSpace b = true) ∧
      (∀ b ∈ (ascii "2").head?, isSpace b = false) ∧
      ((⟨fun _ => digit1, fun _ => digit1⟩ : Names).identifier .mySQL).run (ascii "2") =
        some ([], ascii "2") ∧
      (columnIdentifierNoAlias ⟨fun _ => digit1, fun _ => digit1⟩ .mySQL).run (ascii "1 . 2") =
          some ([], ⟨ascii "2", some (ascii "1")⟩) ∧
        ∀ r' t, (schemaTableReference ⟨fun _ => digit1, fun _ => digit1⟩ .mySQL).run
          (ascii "1 . 2") = some (r', t) → t.schema = none ∧ t.name = ascii "1" :=
  have hs : ((⟨fun _ => digit1, fun _ => digit1⟩ : Names).identifier .mySQL).run
      (ascii "1 . 2") = some (ascii " " ++ 46 :: (ascii " " ++ ascii "2"), ascii "1") := by decide
  have hw : ascii " " ≠ [] := by decide
  have hsp : ∀ b ∈ ascii " ", isSpace b = true := by decide
  have hj : ∀ b ∈ (ascii "2").head?, isSpace b = false := by decide
  have hc : ((⟨fun _ => digit1, fun _ => digit1⟩ : Names).identifier .mySQL).run (ascii "2") =
      some ([], ascii "2") := by decide
  ⟨hs, hw, hsp, hsp, hj, hc, spaced_dot_qualifies_column_not_table _ _ hs hw hsp hsp hj hc⟩

end NomSql
