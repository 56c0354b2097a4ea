import NomSql.Table

/-!
# Field definitions

One entry of a `SELECT` list, `FieldDefinitionExpression`, its `Display`, and
`field_definition_expr(dialect)`, the list of entries: `*`, `table.*` or an expression with an
optional alias, separated by commas, with an optional comma after the last.  The expression
grammar is `crate::expression`, a parameter as in `Reference.lean`.

The optional comma is tried after the list whether or not it has an entry: where no entry can
begin, at a comma, the list is empty and the comma is consumed
(`field_definition_expr_lone_comma`).
-/

namespace NomSql

open Parser

/-- `FieldDefinitionExpression`, over the type of expressions. -/
inductive FieldDefinitionExpression (Expr : Type)
  | all
  | allInTable (table : Bytes)
  | expression (expr : Expr) («alias» : Option Bytes)
deriving DecidableEq

variable {Expr : Type}

/-- `impl Default for FieldDefinitionExpression`. -/
def FieldDefinitionExpression.default : FieldDefinitionExpression Expr := .all

/-- `impl From<Expression> for FieldDefinitionExpression`: the expression, with no alias. -/
def FieldDefinitionExpression.ofExpression (expr : Expr) : FieldDefinitionExpression Expr :=
  .expression expr none

/-- `impl From<Column> for FieldDefinitionExpression`: the column as an expression, given
`Expression::Column`, with no alias. -/
def FieldDefinitionExpression.ofColumn (column : Column → Expr) (col : Column) :
    FieldDefinitionExpression Expr :=
  .expression (column col) none

/-- `impl From<Literal> for FieldDefinitionExpression`: the literal as an expression, given
`Expression::Literal`, with no alias. -/
def FieldDefinitionExpression.ofLiteral (literal : Literal → Expr) (lit : Literal) :
    FieldDefinitionExpression Expr :=
  .expression (literal lit) none

/-- `impl Display for FieldDefinitionExpression`, given the `Display` of expressions: names are
written between backquotes, whatever the dialect. -/
def FieldDefinitionExpression.fmt (exprFmt : Expr → Bytes) :
    FieldDefinitionExpression Expr → Bytes
  | .all => ascii "*"
  | .allInTable table => ascii "`" ++ table ++ ascii "`.*"
  | .expression expr «alias» =>
    exprFmt expr ++ match «alias» with
      | some a => ascii " AS `" ++ a ++ ascii "`"
      | none => []

variable (N : Names) (expression : Dialect → Parser Expr) (d : Dialect)

/-- `expression_field(dialect)`: an expression and an optional alias. -/
def expressionField : Parser (FieldDefinitionExpression Expr) := do
  let expr ← expression d
  let «alias» ← opt (asAlias N d)
  pure (.expression expr «alias»)

/-- The entries `field_definition_expr` tries, in order. -/
def fieldDefinition : Parser (FieldDefinitionExpression Expr) :=
  alt [(tag "*").map fun _ => .all,
    (terminated (tableReference N d) (tag ".*")).map fun t => .allInTable t.name,
    expressionField N expression d]

/-- `field_definition_expr(dialect)`. -/
def fieldDefinitionExpr : Parser (List (FieldDefinitionExpression Expr)) :=
  terminated (separatedList0 wsSepComma (fieldDefinition N expression d)) (opt wsSepComma)

/-- No entry begins where neither a name nor an expression does, at a byte other than `*`. -/
theorem fieldDefinition_run_eq_none {i : Bytes} (hstar : ∀ b ∈ i.head?, b ≠ 42)
    (hid : (N.identifier d).run i = none) (hexpr : (expression d).run i = none) :
    (fieldDefinition N expression d).run i = none := by
  have htag : (tag "*").run i = none := by
    rw [run_eq_none_iff]
    intro r x h
    obtain ⟨-, rfl⟩ := (run_tag_single_eq_some_iff (rfl : ascii "*" = [42])).mp h
    exact hstar 42 rfl rfl
  simp only [fieldDefinition, expressionField, tableReference, terminated, pair, alt_cons, alt_nil,
    run_orElse, run_map, run_bind, htag, hid, hexpr, Option.map_none', Option.none_bind, none_or,
    run_fail]

theorem field_definition_expr_lone_comma {r : Bytes}
    (hid : (N.identifier d).run (ascii "," ++ r) = none)
    (hexpr : (expression d).run (ascii "," ++ r) = none) :
    (fieldDefinitionExpr N expression d).run (ascii "," ++ r) = some (r.dropWhile isSpace, []) := by
  have hnone := fieldDefinition_run_eq_none N expression d
    (by rw [show ascii "," = [44] from rfl]; rintro b ⟨⟩; decide) hid hexpr
  have hcomma : wsSepComma.run (ascii "," ++ r) = some (r.dropWhile isSpace, ascii ",") := by
    have h0 : whitespace0.run (ascii "," ++ r) = some (ascii "," ++ r, []) :=
      run_whitespace0_of_not_space r (by decide)
    simp (disch := decide) only [wsSepComma, delimited, run_bind, run_pure, h0, Option.some_bind,
      run_tagBy_self, run_whitespace0]
  simp only [fieldDefinitionExpr, terminated, separatedList0, run_bind, hnone, Option.some_bind,
    run_opt, hcomma, Option.map_some', Option.getD_some, run_pure]

/-- `, FROM t`, where neither a name nor an expression begins, is an empty list of fields. -/
theorem field_definition_expr_lone_comma_at_from :
    ((⟨fun _ => fail, fun _ => fail⟩ : Names).identifier .mySQL).run (ascii "," ++ ascii " FROM t") =
        none ∧
      ((fun _ => (fail : Parser Unit)) Dialect.mySQL).run (ascii "," ++ ascii " FROM t") = none ∧
      (fieldDefinitionExpr ⟨fun _ => fail, fun _ => fail⟩ (fun _ => (fail : Parser Unit)) .mySQL).run
          (ascii "," ++ ascii " FROM t") = some ((ascii " FROM t").dropWhile isSpace, []) :=
  ⟨rfl, rfl, field_definition_expr_lone_comma _ _ _ rfl rfl⟩

end NomSql
