import NomSql.SqlType.Grammar

/-!
# SqlType — reading back what `Display` writes

`type_identifier` reads the text of every type but `Enum` back to that type, and stops exactly
where the text ends, whenever what follows cannot continue a type (`TypeEnd`): the end of the
input, or a byte that is not a letter, a digit, `_`, a space or `(`.

* `typeIdentifier_run_fmt`: the round trip, over every such rest and every dialect, assembled
  from `ReadsBack`, the round trip of one type, proved group by group along the grammar.
* `typeSpellings`: the other spellings of a type by its keywords alone (`INTEGER`, `BOOLEAN`,
  `DOUBLE PRECISION`, `CHARACTER VARYING`, `BIT VARYING`, `... WITHOUT TIME ZONE`, ...).  The
  order of the alternation reads each of them whole, up to the same kind of rest: a longer
  keyword is tried before a shorter one it starts with (`INTEGER` before `INT`, `BOOLEAN`
  before `BOOL`), and `WITH` is not taken from the front of `WITHOUT`.
* A rest that `TypeEnd` excludes can be read as part of the type: after `TIMESTAMP`, the
  letters `tz` are left over, not read as `TIMESTAMPTZ`.
-/

namespace NomSql

open Parser

/-! ### Lazy runs

A symbolic run of an alternation should look at an alternative only once the ones before it
have failed, and at the rest of a `>>=` only once its first step has succeeded.  These
congruences make `simp` work that way: it rewrites the input of a run but not the parser, the
first alternative of `Option.or` but not the others, and the scrutinee of `Option.elim` but not
its branches. -/

namespace Parser

@[congr] theorem run_congr_input {α : Type} (p : Parser α) {i j : Bytes} (h : i = j) :
    p.run i = p.run j := h ▸ rfl

theorem run_bind_elim {α β : Type} (p : Parser α) (f : α → Parser β) (i : Bytes) :
    (p >>= f).run i = (p.run i).elim none fun x => (f x.2).run x.1 := by
  simp only [run_bind]; cases p.run i <;> rfl

theorem run_alt_cons {α : Type} (p : Parser α) (ps : List (Parser α)) (i : Bytes) :
    (alt (p :: ps)).run i = (p.run i).or ((alt ps).run i) := by
  simp only [alt_cons, run_orElse]

theorem run_alt_nil {α : Type} (i : Bytes) : (alt ([] : List (Parser α))).run i = none := by
  simp only [alt_nil, run_fail]

end Parser

@[congr] theorem or_congr_first {α : Type} {x y : Option α} (h : x = y) (z : Option α) :
    x.or z = y.or z := h ▸ rfl

@[congr] theorem elim_congr_scrutinee {α β : Type} {x y : Option α} (h : x = y) (n : β)
    (s : α → β) : x.elim n s = y.elim n s := h ▸ rfl

theorem run_typeIdentifier (L : Lexers) (d : Dialect) (i : Bytes) :
    (typeIdentifier L d).run i =
      ((typeIdentifierFirstHalf L d).run i).or (typeIdentifierSecondHalf.run i) := by
  rw [← Option.or_none (o := typeIdentifierSecondHalf.run i)]; rfl

/-! ### What may follow the text of a type -/

/-- What may follow the text of a type: nothing, or a byte that no keyword, space or
parenthesised part of a type starts with. -/
def TypeEnd (r : Bytes) : Prop :=
  ∀ b ∈ r.head?, isIdentChar b = false ∧ isSpace b = false ∧ b ≠ 40

theorem typeEnd_nil : TypeEnd [] := by simp [TypeEnd]

theorem typeIdentifierFirstHalf_run_stop (L : Lexers) (d : Dialect) {u v : Bytes} (Y : Bytes)
    (hv : v.head?.map isIdentChar = some false)
    (h : ∀ o ∈ firstHalfKeywords, prefixBy lowercaseByte (ascii o) u = false) :
    (typeIdentifierFirstHalf L d).run (u ++ (v ++ Y)) = none :=
  typeIdentifierFirstHalf_run_append L d (head?_append_of_head Y hv) h

namespace TypeEnd

variable {r : Bytes} (hr : TypeEnd r)
include hr

theorem not_ident : ∀ b ∈ r.head?, isIdentChar b = false := fun b hb => (hr b hb).1

/-- A keyword fails on a rest that cannot continue a type. -/
theorem run_tagNoCase {t : String}
    (ht : (ascii t).head?.any (fun c => isIdentChar (lowercaseByte c)) = true) :
    (tagNoCase t).run r = none :=
  run_tagBy_of_head (fun b => !isIdentChar b)
    (fun _ h => lowercaseByte_of_not_ident (by simpa using h))
    (fun b hb => by simp [(hr b hb).1]) (by simpa using ht)

/-- A keyword that the text spells only in part fails at the rest. -/
theorem run_tagNoCase_append {t : String} {u : Bytes}
    (h : compatibleBy lowercaseByte (ascii t) u = true) (hl : u.length < (ascii t).length)
    (hc : ((ascii t).drop u.length).head?.any (fun c => isIdentChar (lowercaseByte c)) = true) :
    (tagNoCase t).run (u ++ r) = none := by
  refine run_tagBy_append_of_compatible r h hl fun b hb c hc' heq => ?_
  have hb' := (hr b hb).1
  rw [Option.mem_def.mp hc', Option.any_some, ← heq, lowercaseByte_of_not_ident hb', hb'] at hc
  cases hc

theorem run_tag_open : (tag "(").run r = none :=
  run_tagBy_of_head (fun b => b != 40) (fun _ _ => rfl)
    (fun b hb => by simp [(hr b hb).2.2]) (by decide)

theorem run_whitespace0 : whitespace0.run r = some (r, []) := by
  cases r with
  | nil => rfl
  | cons b bs => exact run_whitespace0_of_not_space (u := [b]) bs (by simp [(hr b rfl).2.1])

theorem run_whitespace1 : whitespace1.run r = none := by
  cases r with
  | nil => rfl
  | cons b bs => exact run_whitespace1_of_not_space (u := [b]) bs (by simp [(hr b rfl).2.1])

theorem run_opensParen {α : Type} {p : Parser α} (hp : OpensParen p) : p.run r = none :=
  hp r hr.run_tag_open

theorem optWithoutTimeZone_run : optWithoutTimeZone.run r = some (r, ()) := by
  simp [optWithoutTimeZone, preceded, hr.run_whitespace1]

theorem firstHalf_run (L : Lexers) (d : Dialect) {u : Bytes}
    (h : ∀ o ∈ firstHalfKeywords, prefixBy lowercaseByte (ascii o) u = false) :
    (typeIdentifierFirstHalf L d).run (u ++ r) = none :=
  typeIdentifierFirstHalf_run_append L d hr.not_ident h

end TypeEnd

/-! ### The round trip

The texts `Display` writes are cut where the grammar reads them: a keyword, then its
parenthesised parts.  Each group of types below is read by one half of the grammar; a type of
the second half passes the first half in one step, on its keyword. -/

theorem unsigned_text_eq : ascii " UNSIGNED" = ascii " " ++ ascii "UNSIGNED" := rfl

theorem numeric_text_eq : ascii "NUMERIC(" = ascii "NUMERIC" ++ ascii "(" := rfl

theorem decimal_text_eq : ascii "DECIMAL(" = ascii "DECIMAL" ++ ascii "(" := rfl

theorem varbinary_text_eq : ascii "VARBINARY(" = ascii "VARBINARY" ++ ascii "(" := rfl

theorem comma_text_eq : ascii ", " = ascii "," ++ ascii " " := rfl

theorem timestampTz_text_eq : ascii "TIMESTAMP WITH TIME ZONE" = ascii "TIMESTAMP" ++
    (ascii " " ++ (ascii "WITH" ++ (ascii " " ++ (ascii "TIME" ++ (ascii " " ++ ascii "ZONE"))))) :=
  rfl

/-- `WITH` is read off the front of `WITHOUT`. -/
theorem run_tagNoCase_with_without (X : Bytes) :
    (tagNoCase "with").run (ascii "WITHOUT" ++ X) = some (ascii "OUT" ++ X, ascii "WITH") :=
  run_tagBy_self (u := ascii "WITH") (ascii "OUT" ++ X) (by decide) (by decide)

section RoundTrip

variable (L : Lexers) (d : Dialect)

/-- `type_identifier` reads the text of `t` back to `t`, and stops where that text ends
whenever what follows cannot continue a type. -/
def ReadsBack (t : SqlType) : Prop :=
  ∀ ⦃s r : Bytes⦄, t.fmt = some s → TypeEnd r → (typeIdentifier L d).run (s ++ r) = some (r, t)

/-- The integer types, read by the first five alternatives of the first half. -/
theorem readsBack_intType (len : Option UInt16) :
    ∀ mk ∈ [SqlType.tinyint, .unsignedTinyint, .smallint, .unsignedSmallint, .int, .unsignedInt,
      .bigint, .unsignedBigint], ReadsBack L d (mk len) := by
  intro mk hmk s r hs hr
  repeat' cases ‹List.Mem _ _›
  all_goals
    cases len <;> cases hs
    all_goals
      simp only [writeWithLen, List.append_assoc, List.append_nil, unsigned_text_eq,
        run_typeIdentifier]
      dsimp only [typeIdentifierFirstHalf, intType, optSigned]
      simp (disch := decide) only [run_alt_cons, run_alt_nil, run_orElse, run_map, run_bind_elim, run_pure,
      run_fail, run_opt, some_or, none_or, some_elim, none_elim,
      some_map, none_map, some_getD, none_getD, run_tagBy_self,
      ↓run_tagBy_of_incompatible, ↓run_tagBy_of_incompatible_append, hr.run_tagNoCase_append,
      hr.run_tagNoCase, run_whitespace0_of_not_space, run_whitespace0_spaces,
      run_whitespace1_of_not_space, run_whitespace1_spaces, hr.run_whitespace0, hr.run_whitespace1,
        hr.run_opensParen delimU16_opensParen, delimU16_opensParen.run_append,
        delimU16_run_decimal]

/-- The other types of the first half. -/
theorem readsBack_firstHalf :
    (∀ t ∈ [SqlType.bool, .date, .double, .float, .real, .text, .timestampTz, .timestamp],
      ReadsBack L d t) ∧
    (∀ len, ∀ mk ∈ [SqlType.dateTime, .varchar, .char], ReadsBack L d (mk len)) ∧
    ∀ p, ReadsBack L d (.numeric p) := by
  refine ⟨fun t ht => ?_, fun len mk hmk => ?_, fun p => ?numeric⟩
  case' numeric => rcases p with _ | ⟨p, _ | q⟩
  all_goals repeat' cases ‹List.Mem _ _›
  all_goals try cases ‹Option UInt16›
  all_goals
    intro s r hs hr
    cases hs
    simp only [writeWithLen, List.append_assoc, List.append_nil, numeric_text_eq, comma_text_eq,
      timestampTz_text_eq, run_typeIdentifier]
    dsimp only [typeIdentifierFirstHalf, intType, optSigned, preceded, terminated, delimited]
    simp (disch := decide) only [run_alt_cons, run_alt_nil, run_orElse, run_map, run_bind_elim, run_pure,
      run_fail, run_opt, some_or, none_or, some_elim, none_elim,
      some_map, none_map, some_getD, none_getD, run_tagBy_self,
      ↓run_tagBy_of_incompatible, ↓run_tagBy_of_incompatible_append, hr.run_tagNoCase_append,
      hr.run_tagNoCase, run_whitespace0_of_not_space, run_whitespace0_spaces,
      run_whitespace1_of_not_space, run_whitespace1_spaces, hr.run_whitespace0, hr.run_whitespace1, hr.optWithoutTimeZone_run,
      hr.run_opensParen delimU16_opensParen, hr.run_opensParen delimDigit_opensParen,
      hr.run_opensParen precision_opensParen, hr.run_opensParen numericPrecision_opensParen,
      delimU16_opensParen.run_append, delimDigit_opensParen.run_append,
      precision_opensParen.run_append, numericPrecision_opensParen.run_append,
      delimU16_run_decimal, numericPrecision_run_decimal, numericPrecision_run_single_decimal]

/-- The types of the second half. -/
theorem readsBack_secondHalf :
    (∀ t ∈ [SqlType.time, .blob, .longblob, .mediumblob, .mediumtext, .longtext, .tinyblob,
      .tinytext, .byteArray, .macAddr, .inet, .uuid, .jsonb, .json, .serial, .bigSerial],
      ReadsBack L d t) ∧
    (∀ len, ∀ mk ∈ [SqlType.binary, .varbit, .bit], ReadsBack L d (mk len)) ∧
    (∀ m n, ReadsBack L d (.decimal m n)) ∧ ∀ v, ReadsBack L d (.varbinary v) := by
  refine ⟨fun t ht => ?_, fun len mk hmk => ?_, fun m n => ?_, fun v => ?_⟩
  all_goals repeat' cases ‹List.Mem _ _›
  all_goals try cases ‹Option UInt16›
  all_goals
    intro s r hs hr
    cases hs
    simp (disch := decide) only [writeWithLen, List.append_assoc, List.append_nil,
      decimal_text_eq, varbinary_text_eq, comma_text_eq, run_typeIdentifier, hr.firstHalf_run,
      typeIdentifierFirstHalf_run_stop, none_or]
    dsimp only [typeIdentifierSecondHalf, decimalOrNumeric, preceded, terminated, delimited]
    simp (disch := decide) only [run_alt_cons, run_alt_nil, run_orElse, run_map, run_bind_elim, run_pure,
      run_fail, run_opt, some_or, none_or, some_elim, none_elim,
      some_map, none_map, some_getD, none_getD, run_tagBy_self,
      ↓run_tagBy_of_incompatible, ↓run_tagBy_of_incompatible_append, hr.run_tagNoCase_append,
      hr.run_tagNoCase, run_whitespace0_of_not_space, run_whitespace0_spaces,
      run_whitespace1_of_not_space, run_whitespace1_spaces, hr.run_whitespace0, hr.run_whitespace1, hr.optWithoutTimeZone_run,
      hr.run_opensParen delimU16_opensParen, hr.run_opensParen precision_opensParen,
      delimU16_opensParen.run_append, precision_opensParen.run_append,
      delimU16_run_decimal, precision_run_decimal]

/-- Every type but `Enum` reads back from its text to itself, leaving a rest that cannot
continue a type untouched. -/
theorem typeIdentifier_run_fmt {t : SqlType} (ht : ∀ vs, t ≠ .enum vs) {s r : Bytes}
    (hs : t.fmt = some s) (hr : TypeEnd r) : (typeIdentifier L d).run (s ++ r) = some (r, t) := by
  suffices ReadsBack L d t from this hs hr
  cases t
  case enum vs => exact absurd rfl (ht vs)
  all_goals simp only [readsBack_intType, readsBack_firstHalf, readsBack_secondHalf,
    List.mem_cons, true_or, or_true]

theorem fmt_of_not_enum {t : SqlType} (ht : ∀ vs, t ≠ .enum vs) : ∃ s, t.fmt = some s := by
  cases t
  case enum vs => exact absurd rfl (ht vs)
  all_goals exact ⟨_, rfl⟩

/-- `type_identifier` reads the text of every type but `Enum` back to the type, in either
dialect and with nothing left over, so `SqlType::from_str` gives the type back. -/
theorem sql_type_display_round_trip (t : SqlType) (ht : ∀ vs, t ≠ .enum vs) :
    ∃ s, t.fmt = some s ∧ (typeIdentifier L d).run s = some ([], t) ∧
      SqlType.fromStr L s = .ok t := by
  obtain ⟨s, hs⟩ := fmt_of_not_enum ht
  have hrun : ∀ d, (typeIdentifier L d).run s = some ([], t) := fun d => by
    simpa using typeIdentifier_run_fmt L d ht hs typeEnd_nil
  exact ⟨s, hs, hrun d, by simp [SqlType.fromStr, hrun .mySQL]⟩

/-! ### The other spellings

Besides the text `Display` writes, the grammar takes other spellings of a type by its keywords
alone: the long forms `INTEGER` and `BOOLEAN`, `SIGNED` after a number type, the standard
`DOUBLE PRECISION`, `CHARACTER VARYING` and `BIT VARYING`, `BINARY` after a character type,
`WITHOUT TIME ZONE` after a time type, and a bare `DECIMAL`. -/

/-- The words `ws` with one space between each. -/
def spelled (ws : List String) : Bytes := (ascii " ").intercalate (ws.map ascii)

theorem spelled_cons_cons (a b : String) (ws : List String) :
    spelled (a :: b :: ws) = ascii a ++ (ascii " " ++ spelled (b :: ws)) := by
  simp [spelled, List.intercalate]

theorem spelled_singleton (a : String) : spelled [a] = ascii a := by
  simp [spelled, List.intercalate]

/-- The spellings the first half reads, with the type each gives. -/
def firstHalfSpellings : List (List String × SqlType) :=
  [(["INTEGER"], .int none), (["INTEGER", "SIGNED"], .int none),
    (["INTEGER", "UNSIGNED"], .unsignedInt none), (["TINYINT", "SIGNED"], .tinyint none),
    (["SMALLINT", "SIGNED"], .smallint none), (["INT", "SIGNED"], .int none),
    (["BIGINT", "SIGNED"], .bigint none), (["BOOLEAN"], .bool),
    (["DOUBLE", "PRECISION"], .double), (["DOUBLE", "PRECISION", "UNSIGNED"], .double),
    (["DOUBLE", "PRECISION", "SIGNED"], .double), (["DOUBLE", "UNSIGNED"], .double),
    (["DOUBLE", "SIGNED"], .double), (["REAL", "UNSIGNED"], .real), (["REAL", "SIGNED"], .real),
    (["TIMESTAMP", "WITHOUT", "TIME", "ZONE"], .timestamp),
    (["CHARACTER", "VARYING"], .varchar none), (["CHARACTER", "VARYING", "BINARY"], .varchar none),
    (["VARCHAR", "BINARY"], .varchar none), (["CHAR", "BINARY"], .char none)]

/-- The spellings the second half reads, with the type each gives. -/
def secondHalfSpellings : List (List String × SqlType) :=
  [(["TIME", "WITHOUT", "TIME", "ZONE"], .time), (["DECIMAL"], .decimal 32 0),
    (["BIT", "VARYING"], .varbit none)]

/-- Every spelling of a type by its keywords alone that is not the text `Display` writes. -/
def typeSpellings : List (List String × SqlType) := firstHalfSpellings ++ secondHalfSpellings

theorem readsSpelling_firstHalf :
    ∀ ws t, (ws, t) ∈ firstHalfSpellings → ∀ r, TypeEnd r →
      (typeIdentifier L d).run (spelled ws ++ r) = some (r, t) := by
  intro ws t hmem r hr
  simp only [firstHalfSpellings, List.mem_cons, Prod.mk.injEq, List.mem_nil_iff] at hmem
  repeat' rcases hmem with ⟨rfl, rfl⟩ | hmem
  all_goals
    simp only [spelled_cons_cons, spelled_singleton, List.append_assoc, run_typeIdentifier]
    dsimp only [typeIdentifierFirstHalf, intType, optSigned, optWithoutTimeZone, preceded,
      terminated, delimited]
    simp (disch := decide) only [run_alt_cons, run_alt_nil, run_orElse, run_map, run_bind_elim,
      run_pure, run_fail, run_opt, some_or, none_or, some_elim, none_elim,
      some_map, none_map, some_getD, none_getD, run_tagBy_self, run_tagNoCase_with_without,
      ↓run_tagBy_of_incompatible, ↓run_tagBy_of_incompatible_append, hr.run_tagNoCase_append,
      hr.run_tagNoCase, run_whitespace0_of_not_space, run_whitespace0_spaces,
      run_whitespace1_of_not_space, run_whitespace1_spaces, hr.run_whitespace0, hr.run_whitespace1,
      hr.optWithoutTimeZone_run,
      hr.run_opensParen delimU16_opensParen, hr.run_opensParen precision_opensParen,
      delimU16_opensParen.run_append, delimDigit_opensParen.run_append,
      precision_opensParen.run_append]

theorem readsSpelling_secondHalf :
    ∀ ws t, (ws, t) ∈ secondHalfSpellings → ∀ r, TypeEnd r →
      (typeIdentifier L d).run (spelled ws ++ r) = some (r, t) := by
  intro ws t hmem r hr
  simp only [secondHalfSpellings, List.mem_cons, Prod.mk.injEq, List.mem_nil_iff] at hmem
  repeat' rcases hmem with ⟨rfl, rfl⟩ | hmem
  all_goals
    simp (disch := decide) only [spelled_cons_cons, spelled_singleton, List.append_assoc,
      run_typeIdentifier, hr.firstHalf_run, typeIdentifierFirstHalf_run_stop, none_or]
    dsimp only [typeIdentifierSecondHalf, decimalOrNumeric, optWithoutTimeZone, preceded,
      terminated, delimited]
    simp (disch := decide) only [run_alt_cons, run_alt_nil, run_orElse, run_map, run_bind_elim,
      run_pure, run_fail, run_opt, some_or, none_or, some_elim, none_elim,
      some_map, none_map, some_getD, none_getD, run_tagBy_self, run_tagNoCase_with_without,
      ↓run_tagBy_of_incompatible, ↓run_tagBy_of_incompatible_append, hr.run_tagNoCase_append,
      hr.run_tagNoCase, run_whitespace0_of_not_space, run_whitespace0_spaces,
      run_whitespace1_of_not_space, run_whitespace1_spaces, hr.run_whitespace0, hr.run_whitespace1,
      hr.run_opensParen delimU16_opensParen, hr.run_opensParen precision_opensParen,
      delimU16_opensParen.run_append, precision_opensParen.run_append]

/-- The stop after a type: `type_identifier` reads the text `Display` writes for every type but
`Enum`, and every other spelling of a type by its keywords alone, whole, and stops right at its
end, whenever what follows cannot continue a type. -/
theorem type_identifier_stops_at_type_end (r : Bytes) (hr : TypeEnd r) :
    (∀ t, (∀ vs, t ≠ .enum vs) →
      ∃ s, t.fmt = some s ∧ (typeIdentifier L d).run (s ++ r) = some (r, t)) ∧
    ∀ ws t, (ws, t) ∈ typeSpellings → (typeIdentifier L d).run (spelled ws ++ r) = some (r, t) :=
  ⟨fun _ ht =>
    let ⟨s, hs⟩ := fmt_of_not_enum ht
    ⟨s, hs, typeIdentifier_run_fmt L d ht hs hr⟩,
  fun ws t h => (List.mem_append.mp h).elim (readsSpelling_firstHalf L d ws t · r hr)
    (readsSpelling_secondHalf L d ws t · r hr)⟩

end RoundTrip

theorem sql_type_display_round_trip_numeric :
    (∀ vs, SqlType.numeric (some (10, some 2)) ≠ .enum vs) ∧
      ∃ s, (SqlType.numeric (some (10, some 2))).fmt = some s ∧
        (typeIdentifier Lexers.reference .postgreSQL).run s =
          some ([], .numeric (some (10, some 2))) ∧
        SqlType.fromStr Lexers.reference s = .ok (.numeric (some (10, some 2))) :=
  ⟨(fun _ h => by cases h),
    sql_type_display_round_trip Lexers.reference .postgreSQL _ fun _ h => by cases h⟩

theorem type_identifier_stops_at_type_end_paren :
    TypeEnd (ascii ")") ∧
      (∀ t, (∀ vs, t ≠ .enum vs) → ∃ s, t.fmt = some s ∧
        (typeIdentifier Lexers.reference .mySQL).run (s ++ ascii ")") = some (ascii ")", t)) ∧
      ∀ ws t, (ws, t) ∈ typeSpellings →
        (typeIdentifier Lexers.reference .mySQL).run (spelled ws ++ ascii ")") =
          some (ascii ")", t) :=
  have hr : TypeEnd (ascii ")") := by simp [TypeEnd]; decide
  ⟨hr, type_identifier_stops_at_type_end Lexers.reference .mySQL _ hr⟩

/-- Where what follows can continue a type, the stop can fall inside a word: `TIMESTAMP` is
read off the front of `timestamptz`, and `tz` is left. -/
theorem timestamptz_read_as_timestamp :
    (typeIdentifier Lexers.reference .mySQL).run (ascii "timestamptz") =
      some (ascii "tz", .timestamp) := by
  rw [show ascii "timestamptz" = ascii "timestamp" ++ (ascii "tz" ++ []) from rfl]
  dsimp only [typeIdentifier, typeIdentifierFirstHalf, typeIdentifierSecondHalf, intType,
    optSigned, decimalOrNumeric, preceded, terminated, delimited]
  simp (disch := decide) only [run_alt_cons, run_alt_nil, run_orElse, run_map, run_bind_elim,
    run_pure, run_fail, run_opt, some_or, none_or, some_elim,
    none_elim, some_map, none_map, some_getD, none_getD,
    run_tagBy_self, run_tagBy_of_incompatible, run_tagBy_of_incompatible_append,
    run_whitespace0_of_not_space, run_whitespace1_of_not_space, optWithoutTimeZone_run_stop,
    delimDigit_opensParen.run_append]
  rfl

end NomSql
