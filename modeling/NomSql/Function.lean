import NomSql.Table

/-!
# Function calls

`column_function(dialect)`: `COUNT(*)`, then the aggregates `COUNT`, `SUM`, `AVG`, `MAX` and
`MIN`, then `GROUP_CONCAT`, then a call of any function the dialect names.  The expression
grammar is `crate::expression`, which is not part of this core: it is a parameter, with the
constructor `Expression::Column` that `GROUP_CONCAT` builds its argument with.

The named forms are an alternation keyed by their names (`namedForms`), so on a function's
name, in any case, `column_function` is decided by that name's form, and where the form fails
only the generic call is left (`column_function_named_form`).  A form reads its argument list
only right after its name: with whitespace between, every named form fails and the name is
read by the generic call (`column_function_spaced_name`).  Inside the arguments,
`DISTINCT` is the keyword only with whitespace after it: `COUNT(DISTINCT(x))` is not a distinct
count.  Over a whole
`GROUP_CONCAT(col …)`, the separator is `,` with no clause, the string with
`SEPARATOR 's'`, and the empty string with a bare `SEPARATOR` (`group_concat_separator`).
-/

namespace NomSql

open Parser

/-- The forms of `FunctionExpression` that `column_function` builds; a `Box<Expression>` is
the expression itself. -/
inductive FunctionExpression (Expr : Type)
  | countStar
  | count (expr : Expr) (distinct : Bool) (countNulls : Bool)
  | sum (expr : Expr) (distinct : Bool)
  | avg (expr : Expr) (distinct : Bool)
  | max (expr : Expr)
  | min (expr : Expr)
  | groupConcat (expr : Expr) (separator : Utf8String)
  | call (name : Bytes) (arguments : List Expr)
deriving DecidableEq

variable {Expr : Type} (L : Lexers) (N : Names) (expression : Dialect → Parser Expr)
  (column : Column → Expr) (d : Dialect)

/-! ### The grammar -/

/-- `agg_function_arguments(dialect)`: an optional `DISTINCT` and whitespace, then an
expression, with whether `DISTINCT` was there. -/
def aggFunctionArguments : Parser (Expr × Bool) :=
  (pair (opt (pair (tagNoCase "distinct") whitespace1)) (expression d)).map fun x =>
    (x.2, x.1.isSome)

/-- `group_concat_fx_helper(dialect)`: `SEPARATOR` between whitespace, an optional string that
is UTF-8, and whitespace; that string, or the empty one. -/
def groupConcatFxHelper : Parser Utf8String := do
  let sep ← delimited (delimited whitespace0 (tagNoCase "separator") whitespace0)
    (opt ((L.stringLiteral d).mapRes Utf8String.fromUtf8)) whitespace0
  pure (sep.getD Utf8String.empty)

/-- `group_concat_fx(dialect)`: a column, then an optional separator clause. -/
def groupConcatFx : Parser (Column × Option Utf8String) :=
  pair (columnIdentifierNoAlias N d) (opt (groupConcatFxHelper L d))

/-- `agg_fx_args(dialect)`. -/
def aggFxArgs : Parser (Expr × Bool) :=
  delimited (tag "(") (aggFunctionArguments expression d) (tag ")")

/-- `delim_fx_args(dialect)`. -/
def delimFxArgs : Parser (List Expr) :=
  delimited (tag "(") (separatedList0 (tag ",") (delimited whitespace0 (expression d) whitespace0))
    (tag ")")

/-- An aggregate form of `column_function`: the function's name, its arguments in parentheses
right after it, and what `build` makes of them. -/
def aggregate (name : String) (build : Expr × Bool → FunctionExpression Expr) :
    Parser (FunctionExpression Expr) :=
  (preceded (tagNoCase name) (aggFxArgs expression d)).map build

/-- The aggregates of `column_function`, in the order `alt` tries them, with what each builds;
`COUNT` never counts nulls. -/
def aggregates : List (String × (Expr × Bool → FunctionExpression Expr)) :=
  [("count", fun args => .count args.1 args.2 false),
    ("sum", fun args => .sum args.1 args.2),
    ("avg", fun args => .avg args.1 args.2),
    ("max", fun args => .max args.1),
    ("min", fun args => .min args.1)]

/-- `String::from(",")`: `GROUP_CONCAT`'s separator when the call gives none. -/
def defaultSeparator : Utf8String := ⟨ascii ",", by decide⟩

/-- The `GROUP_CONCAT` form of `column_function`. -/
def groupConcat : Parser (FunctionExpression Expr) :=
  (preceded (tagNoCase "group_concat") (delimited (tag "(") (groupConcatFx L N d) (tag ")"))).map
    fun spec => .groupConcat (column spec.1) (spec.2.getD defaultSeparator)

/-- The last form of `column_function`: a function's name, whitespace, and its arguments. -/
def functionCall : Parser (FunctionExpression Expr) := do
  let name ← N.functionIdentifier d
  let _ ← whitespace0
  let arguments ← delimFxArgs expression d
  pure (.call name arguments)

/-- The forms of `column_function` that open with a function's name, each with its name. -/
def namedForms : List (String × Parser (FunctionExpression Expr)) :=
  aggregates.map (fun a => (a.1, aggregate expression d a.1 a.2)) ++
    [("group_concat", groupConcat L N column d)]

/-- `column_function(dialect)`. -/
def columnFunction : Parser (FunctionExpression Expr) :=
  alt ((tagNoCase "count(*)").map (fun _ => .countStar) ::
    ((namedForms L N expression column d).map Prod.snd ++ [functionCall N expression d]))

/-! ### The named forms -/

/-- The names of the named forms, in order. -/
theorem namedForms_names : (namedForms L N expression column d).map Prod.fst =
    ["count", "sum", "avg", "max", "min", "group_concat"] := rfl

/-- Each named form opens with its name, in parentheses right after it. -/
theorem namedForms_shape {k : String} {p : Parser (FunctionExpression Expr)}
    (h : (k, p) ∈ namedForms L N expression column d) :
    ∃ (β : Type) (q : Parser β) (f : β → FunctionExpression Expr),
      p = (preceded (tagNoCase k) (delimited (tag "(") q (tag ")"))).map f := by
  simp only [namedForms, aggregates, List.map_cons, List.map_nil, List.cons_append,
    List.nil_append, List.mem_cons, Prod.mk.injEq, List.not_mem_nil, or_false] at h
  rcases h with ⟨rfl, rfl⟩ | ⟨rfl, rfl⟩ | ⟨rfl, rfl⟩ | ⟨rfl, rfl⟩ | ⟨rfl, rfl⟩ | ⟨rfl, rfl⟩ <;>
    exact ⟨_, _, _, rfl⟩

theorem namedForms_opens {kp : String × Parser (FunctionExpression Expr)}
    (h : kp ∈ namedForms L N expression column d) : Opens kp.2 [kp.1] := by
  obtain ⟨k, p⟩ := kp
  obtain ⟨β, q, f, rfl⟩ := namedForms_shape L N expression column d h
  exact ((Opens.of_tagNoCase k).bind _).map f

/-- Any two of the names disagree within the shorter of them, in any case. -/
theorem names_incompatible : ∀ o ∈ ["count", "sum", "avg", "max", "min", "group_concat"],
    ∀ k ∈ ["count", "sum", "avg", "max", "min", "group_concat"], o ≠ k →
      compatibleBy id ((ascii o).map lowercaseByte) (ascii k) = false := by
  decide

theorem column_function_named_form {k : String} {p : Parser (FunctionExpression Expr)}
    (hk : (k, p) ∈ namedForms L N expression column d) {u x : Bytes}
    (hu : u.map lowercaseByte = ascii k) (hstar : (tagNoCase "count(*)").run (u ++ x) = none) :
    (columnFunction L N expression column d).run (u ++ x) =
      (p.run (u ++ x)).or ((functionCall N expression d).run (u ++ x)) := by
  have hkn : k ∈ (namedForms L N expression column d).map Prod.fst :=
    List.mem_map.mpr ⟨(k, p), hk, rfl⟩
  rw [namedForms_names] at hkn
  simp only [columnFunction, alt_cons, run_orElse, run_map, hstar, Option.map_none', none_or]
  refine run_alt_keyed (fun kp h => namedForms_opens L N expression column d h) ?_ _ hk ?_
  · rw [namedForms_names]
    decide
  · rw [namedForms_names]
    exact fun o ho hne => run_tagNoCase_of_spelled hu (names_incompatible o ho k hkn hne) x

/-- `SUM(x)` is decided by the `SUM` form, and where that fails, by the generic call. -/
theorem column_function_named_form_at_sum :
    ("sum", aggregate (fun _ => (fail : Parser Unit)) .mySQL "sum" fun args => .sum args.1 args.2) ∈
        namedForms Lexers.reference ⟨fun _ => fail, fun _ => fail⟩ (fun _ => fail) (fun _ => ())
          .mySQL ∧
      (ascii "SUM").map lowercaseByte = ascii "sum" ∧
      (tagNoCase "count(*)").run (ascii "SUM" ++ ascii "(x)") = none ∧
      (columnFunction Lexers.reference ⟨fun _ => fail, fun _ => fail⟩ (fun _ => fail) (fun _ => ())
          .mySQL).run (ascii "SUM" ++ ascii "(x)") =
        ((aggregate (fun _ => fail) .mySQL "sum" fun args => .sum args.1 args.2).run
          (ascii "SUM" ++ ascii "(x)")).or
          ((functionCall ⟨fun _ => fail, fun _ => fail⟩ (fun _ => fail) .mySQL).run
            (ascii "SUM" ++ ascii "(x)")) := by
  refine ⟨?hk, by decide, by decide,
    column_function_named_form Lexers.reference _ _ _ .mySQL ?hk (by decide) (by decide)⟩
  exact List.mem_append_left _ (List.mem_cons_of_mem _ (List.mem_cons_self _ _))

theorem names_lowercase : ∀ k ∈ ["count", "sum", "avg", "max", "min", "group_concat"],
    (ascii k).map lowercaseByte = ascii k := by
  decide

/-- A named form fails where whitespace, not `(`, follows its name. -/
theorem run_named_form_of_space {β : Type} {k : String} {q : Parser β}
    {f : β → FunctionExpression Expr} (hk : (ascii k).map lowercaseByte = ascii k) {u w x : Bytes}
    (hu : u.map lowercaseByte = ascii k) (hw : w ≠ []) (hws : ∀ b ∈ w, isSpace b = true) :
    ((preceded (tagNoCase k) (delimited (tag "(") q (tag ")"))).map f).run (u ++ (w ++ x)) =
      none := by
  have htag : (tagNoCase k).run (u ++ (w ++ x)) = some (w ++ x, u) :=
    run_tagBy_eq_some_iff.mpr ⟨rfl, by rw [hu, hk]⟩
  have hparen : (tag "(").run (w ++ x) = none := by
    obtain ⟨b, bs, rfl⟩ := List.exists_cons_of_ne_nil hw
    rw [run_eq_none_iff]
    intro r y h
    obtain ⟨rfl, -⟩ := List.cons.inj ((run_tag_single_eq_some_iff (rfl : ascii "(" = [40])).mp h).2
    exact absurd (hws 40 (List.mem_cons_self _ _)) (by decide)
  simp only [run_map, preceded, delimited, run_bind, htag, Option.some_bind, hparen,
    Option.none_bind, Option.map_none']

/-- `COUNT(*)` agrees with none of the names followed by a space. -/
theorem count_star_incompatible : ∀ k ∈ ["count", "sum", "avg", "max", "min", "group_concat"],
    ∀ b ∈ ([32, 9, 13, 10] : Bytes),
      compatibleBy id ((ascii "count(*)").map lowercaseByte) (ascii k ++ [b]) = false := by
  decide

theorem column_function_spaced_name {k : String}
    (hk : k ∈ ["count", "sum", "avg", "max", "min", "group_concat"]) {u w x : Bytes}
    (hu : u.map lowercaseByte = ascii k) (hw : w ≠ []) (hws : ∀ b ∈ w, isSpace b = true) :
    (columnFunction L N expression column d).run (u ++ (w ++ x)) =
      (functionCall N expression d).run (u ++ (w ++ x)) := by
  obtain ⟨⟨k', p⟩, hp, rfl⟩ := List.mem_map.mp ((namedForms_names L N expression column d).symm ▸ hk)
  obtain ⟨β, q, f, rfl⟩ := namedForms_shape L N expression column d hp
  have hlow : (ascii k').map lowercaseByte = ascii k' := names_lowercase k' hk
  have hstar : (tagNoCase "count(*)").run (u ++ (w ++ x)) = none := by
    obtain ⟨b, bs, rfl⟩ := List.exists_cons_of_ne_nil hw
    have hb : b ∈ ([32, 9, 13, 10] : Bytes) := by
      simpa only [isSpace, Bool.or_eq_true, beq_iff_eq, or_assoc, List.mem_cons, List.mem_singleton,
        List.not_mem_nil, or_false] using hws b (List.mem_cons_self _ _)
    rw [show u ++ (b :: bs ++ x) = (u ++ [b]) ++ (bs ++ x) by simp]
    refine run_tagBy_of_incompatible _ ?_
    rw [compatibleBy_eq_map, List.map_append, hu, List.map_singleton,
      lowercaseByte_of_isSpace (hws b (List.mem_cons_self _ _))]
    exact count_star_incompatible k' hk b hb
  rw [column_function_named_form L N expression column d hp hu hstar,
    run_named_form_of_space hlow hu hw hws, none_or]

/-- `COUNT (x)`, with a space before the parenthesis, is read by the generic call. -/
theorem column_function_spaced_name_at_count :
    "count" ∈ ["count", "sum", "avg", "max", "min", "group_concat"] ∧
      (ascii "COUNT").map lowercaseByte = ascii "count" ∧ ascii " " ≠ [] ∧
      (∀ b ∈ ascii " ", isSpace b = true) ∧
      (columnFunction Lexers.reference ⟨fun _ => fail, fun _ => fail⟩ (fun _ => fail) (fun _ => ())
          .mySQL).run (ascii "COUNT" ++ (ascii " " ++ ascii "(x)")) =
        (functionCall ⟨fun _ => fail, fun _ => fail⟩ (fun _ => (fail : Parser Unit)) .mySQL).run
          (ascii "COUNT" ++ (ascii " " ++ ascii "(x)")) :=
  ⟨by decide, by decide, by decide, by decide,
    column_function_spaced_name Lexers.reference _ _ _ .mySQL
      (by decide : "count" ∈ ["count", "sum", "avg", "max", "min", "group_concat"])
      (by decide : (ascii "COUNT").map lowercaseByte = ascii "count") (by decide) (by decide)⟩

/-! ### Arguments and separators -/

/-- `SEPARATOR` after one space, before whitespace `w'` and a byte that is not a space. -/
theorem exists_run_separator_keyword (w' j : Bytes) (hw' : ∀ b ∈ w', isSpace b = true)
    (hj : ∀ b ∈ j.head?, isSpace b = false) :
    ∃ u, (delimited whitespace0 (tagNoCase "separator") whitespace0).run
      (ascii " SEPARATOR" ++ (w' ++ j)) = some (j, u) :=
  (run_keyword_between_spaces (by decide) (by decide) (by decide)).mpr
    ⟨ascii " ", ascii "SEPARATOR", w', by simp only [List.append_assoc]; rfl, by decide, by decide,
      hw', hj⟩

theorem run_whitespace0_close (r : Bytes) : whitespace0.run (41 :: r) = some (41 :: r, []) :=
  run_whitespace0_of_not_space (u := [41]) r rfl

/-- With no `SEPARATOR` before the closing parenthesis, the clause is not there. -/
theorem groupConcatFxHelper_run_close (r : Bytes) : (groupConcatFxHelper L d).run (41 :: r) = none := by
  have hsep : (tagNoCase "separator").run (41 :: r) = none :=
    run_tagBy_of_incompatible (u := [41]) r (by decide)
  simp only [groupConcatFxHelper, delimited, run_bind, run_whitespace0_close, Option.some_bind,
    hsep, Option.none_bind]

/-- `SEPARATOR 's'`: the string, when it is UTF-8. -/
theorem groupConcatFxHelper_run_string (hL : L.Contract d) {s : Bytes} (hs : validUtf8 s = true)
    (r : Bytes) :
    (groupConcatFxHelper L d).run (ascii " SEPARATOR " ++ (quoted s ++ 41 :: r)) =
      some (41 :: r, ⟨s, hs⟩) := by
  obtain ⟨u, hK⟩ := exists_run_separator_keyword (ascii " ") (quoted s ++ 41 :: r) (by decide) (by simp only [quoted, List.append_assoc]; intro b hb; cases hb; rfl)
  rw [show ascii " SEPARATOR " = ascii " SEPARATOR" ++ ascii " " from rfl, List.append_assoc]
  rw [groupConcatFxHelper]
  generalize delimited whitespace0 (tagNoCase "separator") whitespace0 = K at hK ⊢
  simp only [delimited, run_bind, hK, Option.some_bind, run_opt, run_mapRes,
    hL.string_token s (41 :: r) (by simp), Utf8String.fromUtf8, dif_pos hs, Option.map_some',
    Option.getD_some, run_whitespace0_close, run_pure]

/-- `SEPARATOR` with no string after it: the empty string. -/
theorem groupConcatFxHelper_run_no_string (hL : L.Contract d) (r : Bytes) :
    (groupConcatFxHelper L d).run (ascii " SEPARATOR" ++ 41 :: r) =
      some (41 :: r, Utf8String.empty) := by
  obtain ⟨u, hK⟩ := exists_run_separator_keyword [] (41 :: r) (by simp) (fun b hb => by cases hb; rfl)
  have hstr : (L.stringLiteral d).run (41 :: r) = none := hL.string_fails _ (by simp) (by simp)
  rw [List.nil_append] at hK
  rw [groupConcatFxHelper]
  generalize delimited whitespace0 (tagNoCase "separator") whitespace0 = K at hK ⊢
  simp only [delimited, run_bind, hK, Option.some_bind, run_opt, run_mapRes, hstr,
    Option.none_bind, Option.map_none', Option.getD_none, run_whitespace0_close, run_pure]

/-- A `GROUP_CONCAT` whose arguments `groupConcatFx` reads up to the closing parenthesis. -/
theorem groupConcat_run_of {u j r : Bytes} {col : Column} {sep : Option Utf8String}
    (hu : u.map lowercaseByte = ascii "group_concat")
    (h : (groupConcatFx L N d).run j = some (41 :: r, (col, sep))) :
    (groupConcat L N column d).run (u ++ 40 :: j) =
      some (r, .groupConcat (column col) (sep.getD defaultSeparator)) := by
  have htag : (tagNoCase "group_concat").run (u ++ 40 :: j) = some (40 :: j, u) :=
    run_tagBy_eq_some_iff.mpr ⟨rfl, by rw [hu]; decide⟩
  have hopen : (tag "(").run (40 :: j) = some (j, [40]) :=
    run_tagBy_eq_some_iff.mpr ⟨rfl, rfl⟩
  have hclose : (tag ")").run (41 :: r) = some (r, [41]) :=
    run_tagBy_eq_some_iff.mpr ⟨rfl, rfl⟩
  simp only [groupConcat, preceded, delimited, run_map, run_bind, htag, hopen, h, hclose,
    Option.some_bind, run_pure, Option.map_some']

theorem group_concat_separator (hL : L.Contract d) {u x r s : Bytes} {col : Column}
    (hu : u.map lowercaseByte = ascii "group_concat") (hs : validUtf8 s = true)
    (hcol : ∀ t ∈ [[], ascii " SEPARATOR " ++ quoted s, ascii " SEPARATOR"],
      (columnIdentifierNoAlias N d).run (x ++ t ++ 41 :: r) = some (t ++ 41 :: r, col)) :
    (groupConcat L N column d).run (u ++ 40 :: (x ++ 41 :: r)) =
        some (r, .groupConcat (column col) defaultSeparator) ∧
      (groupConcat L N column d).run (u ++ 40 :: (x ++ ascii " SEPARATOR " ++ quoted s ++ 41 :: r)) =
        some (r, .groupConcat (column col) ⟨s, hs⟩) ∧
      (groupConcat L N column d).run (u ++ 40 :: (x ++ ascii " SEPARATOR" ++ 41 :: r)) =
        some (r, .groupConcat (column col) Utf8String.empty) := by
  have hfx : ∀ t sep, t ∈ [[], ascii " SEPARATOR " ++ quoted s, ascii " SEPARATOR"] →
      (opt (groupConcatFxHelper L d)).run (t ++ 41 :: r) = some (41 :: r, sep) →
      (groupConcatFx L N d).run (x ++ t ++ 41 :: r) = some (41 :: r, (col, sep)) := by
    intro t sep ht h
    simp only [groupConcatFx, pair, run_bind, hcol t ht, Option.some_bind, h, run_pure]
  refine ⟨?_, ?_, ?_⟩
  · have h := hfx [] none (by simp)
      (by simp only [List.nil_append, run_opt, groupConcatFxHelper_run_close, Option.map_none',
        Option.getD_none])
    rw [List.append_nil] at h
    exact groupConcat_run_of L N column d hu h
  · have h := hfx (ascii " SEPARATOR " ++ quoted s) (some ⟨s, hs⟩) (by simp)
      (by simp only [run_opt, List.append_assoc, groupConcatFxHelper_run_string L d hL hs,
        Option.map_some', Option.getD_some])
    rw [← List.append_assoc] at h
    exact groupConcat_run_of L N column d hu h
  · have h := hfx (ascii " SEPARATOR") (some Utf8String.empty) (by simp)
      (by simp only [run_opt, groupConcatFxHelper_run_no_string L d hL, Option.map_some',
        Option.getD_some])
    exact groupConcat_run_of L N column d hu h

/-- `GROUP_CONCAT(7)`, `GROUP_CONCAT(7 SEPARATOR ';')` and `GROUP_CONCAT(7 SEPARATOR)`, with
digits for names. -/
theorem group_concat_separator_at_7 :
    (ascii "GROUP_CONCAT").map lowercaseByte = ascii "group_concat" ∧
      validUtf8 (ascii ";") = true ∧
      (∀ t ∈ [[], ascii " SEPARATOR " ++ quoted (ascii ";"), ascii " SEPARATOR"],
        (columnIdentifierNoAlias ⟨fun _ => digit1, fun _ => digit1⟩ .mySQL).run
          (ascii "7" ++ t ++ [41]) = some (t ++ [41], ⟨ascii "7", none⟩)) ∧
      (groupConcat Lexers.reference ⟨fun _ => digit1, fun _ => digit1⟩ (fun c => c) .mySQL).run
          (ascii "GROUP_CONCAT" ++ 40 :: (ascii "7" ++ [41])) =
        some ([], .groupConcat ⟨ascii "7", none⟩ defaultSeparator) ∧
      (groupConcat Lexers.reference ⟨fun _ => digit1, fun _ => digit1⟩ (fun c => c) .mySQL).run
          (ascii "GROUP_CONCAT" ++
            40 :: (ascii "7" ++ ascii " SEPARATOR " ++ quoted (ascii ";") ++ [41])) =
        some ([], .groupConcat ⟨ascii "7", none⟩ ⟨ascii ";", by decide⟩) ∧
      (groupConcat Lexers.reference ⟨fun _ => digit1, fun _ => digit1⟩ (fun c => c) .mySQL).run
          (ascii "GROUP_CONCAT" ++ 40 :: (ascii "7" ++ ascii " SEPARATOR" ++ [41])) =
        some ([], .groupConcat ⟨ascii "7", none⟩ Utf8String.empty) :=
  ⟨by decide, by decide, by decide,
    group_concat_separator Lexers.reference _ _ .mySQL (reference_contract .mySQL) (by decide)
      (by decide) (by decide)⟩

end NomSql
