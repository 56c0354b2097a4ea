import NomSql.SqlType.Basic
import NomSql.Literal.Grammar
import NomSql.Nom.Keywords

/-!
# SqlType — the grammar

`type_identifier(dialect)`: an ordered alternation over the type keywords, in two halves,
each keyword followed by the optional parts its type takes.  Widths, precisions and scales
are runs of digits read by `u16::from_str` or `u8::from_str` (`digitAs`); a run that does
not fit fails, and the `opt` around it then reads nothing.  `SqlType::from_str` runs the
MySQL grammar and keeps the type, whatever input is left.
-/

namespace NomSql

open Parser

/-! ### Numeric parts -/

/-- `digit_as_u16` and `digit_as_u8`: the whole slice, read by `T::from_str`; the slice
itself is handed back as the rest. -/
def digitAs {α : Type} (fromStr : Bytes → Option α) : Parser α where
  run len := ((strFromUtf8 len).bind fromStr).map fun v => (len, v)
  suffix := by
    intro i r a h
    obtain ⟨v, -, h⟩ := Option.map_eq_some'.mp h
    cases h; exact List.suffix_refl i

/-- `digit_as_u16`. -/
def digitAsU16 : Parser UInt16 := digitAs fromStrU16

/-- `digit_as_u8`. -/
def digitAsU8 : Parser UInt8 := digitAs fromStrU8

/-- `precision_helper`: digits, then optionally `,`, spaces and digits, read as `u8`s. -/
def precisionHelper : Parser (UInt8 × Option UInt8) :=
  (pair digit1 (opt (preceded (tag ",") (preceded whitespace0 digit1)))).mapRes fun (m, d) => do
    let m ← (digitAsU8.run m).map Prod.snd
    let d ← match d with
      | none => some none
      | some v => (digitAsU8.run v).map fun x : Bytes × UInt8 => some x.2
    pure (m, d)

/-- `precision`. -/
def precision : Parser (UInt8 × Option UInt8) := delimited (tag "(") precisionHelper (tag ")")

/-- `numeric_precision_inner`: digits read as a `u16`, spaces, then optionally `,`, spaces and
digits read as a `u8`. -/
def numericPrecisionInner : Parser (UInt16 × Option UInt8) :=
  (do
    let m ← digit1
    let _ ← whitespace0
    let d ← opt (preceded (tag ",") (preceded whitespace0 digit1))
    pure (m, d)).mapRes fun (m, d) => do
    let m ← (digitAsU16.run m).map Prod.snd
    let d ← match d with
      | none => some none
      | some v => (digitAsU8.run v).map fun x : Bytes × UInt8 => some x.2
    pure (m, d)

/-- `numeric_precision`. -/
def numericPrecision : Parser (UInt16 × Option UInt8) :=
  delimited (tag "(") numericPrecisionInner (tag ")")

/-- `Sign`. -/
inductive Sign
  | unsigned
  | signed

/-- `opt_signed`. -/
def optSigned : Parser (Option Sign) :=
  opt (alt [(tagNoCase "unsigned").map fun _ => .unsigned,
    (tagNoCase "signed").map fun _ => .signed])

/-- `delim_digit`. -/
def delimDigit : Parser Bytes := delimited (tag "(") digit1 (tag ")")

/-- `delim_u16`. -/
def delimU16 : Parser UInt16 := mapParser delimDigit digitAsU16

/-! ### Type keywords -/

/-- `int_type(tag, mk_unsigned, mk_signed)`. -/
def intType (t : String) (mkUnsigned mkSigned : Option UInt16 → SqlType) : Parser SqlType :=
  (do
    let _ ← tagNoCase t
    let len ← opt delimU16
    let _ ← whitespace0
    let signed ← optSigned
    pure (len, signed)).map fun (len, signed) =>
      match signed with
      | some .unsigned => mkUnsigned len
      | _ => mkSigned len

/-- `decimal_or_numeric`: `DECIMAL` and `NUMERIC` both give `Decimal`, by default of
precision 32 and scale 0. -/
def decimalOrNumeric : Parser SqlType :=
  (delimited (alt [tagNoCase "decimal", tagNoCase "numeric"]) (opt precision) whitespace0).map
    fun
    | none => .decimal 32 0
    | some (m, none) => .decimal m 0
    | some (m, some d) => .decimal m d

/-- `opt_without_time_zone`. -/
def optWithoutTimeZone : Parser Unit :=
  (opt (preceded whitespace1 (do
    let _ ← tagNoCase "without"
    let _ ← whitespace1
    let _ ← tagNoCase "time"
    let _ ← whitespace1
    tagNoCase "zone"))).map fun _ => ()

/-- `type_identifier_first_half(dialect)`. -/
def typeIdentifierFirstHalf (L : Lexers) (d : Dialect) : Parser SqlType :=
  alt [intType "tinyint" .unsignedTinyint .tinyint,
    intType "smallint" .unsignedSmallint .smallint,
    intType "integer" .unsignedInt .int,
    intType "int" .unsignedInt .int,
    intType "bigint" .unsignedBigint .bigint,
    (alt [tagNoCase "boolean", tagNoCase "bool"]).map fun _ => .bool,
    (preceded (tagNoCase "datetime") (opt delimU16)).map .dateTime,
    (tagNoCase "date").map fun _ => .date,
    (do
      let _ ← tagNoCase "double"
      let _ ← opt (preceded whitespace1 (tagNoCase "precision"))
      let _ ← whitespace0
      let _ ← opt precision
      let _ ← whitespace0
      optSigned).map fun _ => .double,
    (do
      let _ ← tagNoCase "numeric"
      let _ ← whitespace0
      opt numericPrecision).map .numeric,
    (terminated (preceded (tagNoCase "enum") (delimited (tag "(") (valueList L d) (tag ")")))
      whitespace0).map .enum,
    (do
      let _ ← tagNoCase "float"
      let _ ← whitespace0
      let _ ← opt precision
      whitespace0).map fun _ => .float,
    (do
      let _ ← tagNoCase "real"
      let _ ← whitespace0
      optSigned).map fun _ => .real,
    (tagNoCase "text").map fun _ => .text,
    (do
      let _ ← tagNoCase "timestamp"
      let _ ← opt (preceded whitespace0 delimDigit)
      preceded whitespace1 (do
        let _ ← tagNoCase "with"
        let _ ← whitespace1
        let _ ← tagNoCase "time"
        let _ ← whitespace1
        tagNoCase "zone")).map fun _ => .timestampTz,
    (do
      let _ ← tagNoCase "timestamp"
      let _ ← opt (preceded whitespace0 delimDigit)
      optWithoutTimeZone).map fun _ => .timestamp,
    (do
      let _ ← alt [(do
          let _ ← tagNoCase "varchar"
          let _ ← whitespace0
          whitespace0),
        (do
          let _ ← tagNoCase "character"
          let _ ← whitespace1
          tagNoCase "varying")]
      let len ← opt delimU16
      let _ ← whitespace0
      let _ ← opt (tagNoCase "binary")
      pure len).map .varchar,
    (do
      let _ ← tagNoCase "char"
      let len ← opt delimU16
      let _ ← whitespace0
      let _ ← opt (tagNoCase "binary")
      pure len).map .char]

/-- `type_identifier_second_half`. -/
def typeIdentifierSecondHalf : Parser SqlType :=
  alt [(terminated (tagNoCase "time") optWithoutTimeZone).map fun _ => .time,
    decimalOrNumeric,
    (do
      let _ ← tagNoCase "binary"
      let len ← opt delimU16
      let _ ← whitespace0
      pure len).map .binary,
    (tagNoCase "blob").map fun _ => .blob,
    (tagNoCase "longblob").map fun _ => .longblob,
    (tagNoCase "mediumblob").map fun _ => .mediumblob,
    (tagNoCase "mediumtext").map fun _ => .mediumtext,
    (tagNoCase "longtext").map fun _ => .longtext,
    (tagNoCase "tinyblob").map fun _ => .tinyblob,
    (tagNoCase "tinytext").map fun _ => .tinytext,
    (do
      let _ ← tagNoCase "varbinary"
      let len ← delimU16
      let _ ← whitespace0
      pure len).map .varbinary,
    (tagNoCase "bytea").map fun _ => .byteArray,
    (tagNoCase "macaddr").map fun _ => .macAddr,
    (tagNoCase "inet").map fun _ => .inet,
    (tagNoCase "uuid").map fun _ => .uuid,
    (tagNoCase "jsonb").map fun _ => .jsonb,
    (tagNoCase "json").map fun _ => .json,
    (do
      let _ ← alt [(do
          let _ ← tagNoCase "varbit"
          let _ ← whitespace0
          pure ()),
        (do
          let _ ← tagNoCase "bit"
          let _ ← whitespace1
          let _ ← tagNoCase "varying"
          let _ ← whitespace0
          pure ())]
      opt delimU16).map .varbit,
    (preceded (tagNoCase "bit") (opt delimU16)).map .bit,
    (tagNoCase "serial").map fun _ => .serial,
    (tagNoCase "bigserial").map fun _ => .bigSerial]

/-- `type_identifier(dialect)`. -/
def typeIdentifier (L : Lexers) (d : Dialect) : Parser SqlType :=
  alt [typeIdentifierFirstHalf L d, typeIdentifierSecondHalf]

/-- `SqlType::from_str`: the MySQL grammar on the bytes of the string; what it leaves is
dropped. -/
def SqlType.fromStr (L : Lexers) (s : Bytes) : Except String SqlType :=
  match (typeIdentifier L .mySQL).run s with
  | some (_, t) => .ok t
  | none => .error "failed to parse"

/-- `opt_without_time_zone` reads nothing where no space follows. -/
theorem optWithoutTimeZone_run_stop {u : Bytes} (r : Bytes) (h : u.head?.map isSpace = some false) :
    optWithoutTimeZone.run (u ++ r) = some (u ++ r, ()) := by
  simp [optWithoutTimeZone, preceded, run_whitespace1_of_not_space r h]

/-! ### The keywords of the first half -/

/-- The keywords the alternatives of `type_identifier_first_half` open with, in order. -/
def firstHalfKeywords : List String :=
  ["tinyint", "smallint", "integer", "int", "bigint", "boolean", "bool", "datetime", "date",
    "double", "numeric", "enum", "float", "real", "text", "timestamp", "timestamp", "varchar",
    "character", "char"]

theorem firstHalfKeywords_words :
    ∀ o ∈ firstHalfKeywords, (ascii o).all (fun c => isIdentChar (lowercaseByte c)) = true := by
  decide

theorem intType_opens (t : String) (mkUnsigned mkSigned : Option UInt16 → SqlType) :
    Opens (intType t mkUnsigned mkSigned) [t] :=
  ((Opens.of_tagNoCase t).bind _).map _

/-- Every alternative of the first half opens with its keywords. -/
theorem typeIdentifierFirstHalf_opens (L : Lexers) (d : Dialect) :
    Opens (typeIdentifierFirstHalf L d) firstHalfKeywords :=
  have keywordThen {β : Type} (o : String) (f : Bytes → Parser β) (g : β → SqlType) :
      Opens ((tagNoCase o >>= f).map g) [o] := ((Opens.of_tagNoCase o).bind f).map g
  have keyword (o : String) (g : Bytes → SqlType) : Opens ((tagNoCase o).map g) [o] :=
    (Opens.of_tagNoCase o).map g
  (intType_opens _ _ _).orElse <| (intType_opens _ _ _).orElse <| (intType_opens _ _ _).orElse <|
    (intType_opens _ _ _).orElse <| (intType_opens _ _ _).orElse <|
    (((Opens.of_tagNoCase _).orElse ((Opens.of_tagNoCase _).orElse .of_fail)).map _).orElse <|
    (keywordThen _ _ _).orElse <| (keyword _ _).orElse <| (keywordThen _ _ _).orElse <|
    (keywordThen _ _ _).orElse <| ((((Opens.of_tagNoCase _).bind _).bind _).map _).orElse <|
    (keywordThen _ _ _).orElse <| (keywordThen _ _ _).orElse <| (keyword _ _).orElse <|
    (keywordThen _ _ _).orElse <| (keywordThen _ _ _).orElse <|
    (((((Opens.of_tagNoCase _).bind _).orElse (((Opens.of_tagNoCase _).bind _).orElse .of_fail)).bind
      _).map _).orElse <|
    (keywordThen _ _ _).orElse .of_fail

/-- The first half fails at once on a word that none of its keywords spells the start of. -/
theorem typeIdentifierFirstHalf_run_append (L : Lexers) (d : Dialect) {u X : Bytes}
    (hX : ∀ b ∈ X.head?, isIdentChar b = false)
    (h : ∀ o ∈ firstHalfKeywords, prefixBy lowercaseByte (ascii o) u = false) :
    (typeIdentifierFirstHalf L d).run (u ++ X) = none :=
  (typeIdentifierFirstHalf_opens L d).run_append firstHalfKeywords_words hX h

/-! ### What the numeric parts read

Each lemma takes runs of digits `m` and `n` and runs of spaces `w₁` and `w₂`. -/

section Parts

variable {ds m n w₁ w₂ r : Bytes}

theorem digitAs_run {α : Type} (fromStr : Bytes → Option α) (hd : ∀ b ∈ ds, isDigit b = true) :
    (digitAs fromStr).run ds = (fromStr ds).map fun v => (ds, v) := by
  simp [digitAs, strFromUtf8_of_digits hd]

theorem run_tag_open (r : Bytes) : (tag "(").run (ascii "(" ++ r) = some (r, ascii "(") :=
  run_tagBy_self r (by decide) rfl

theorem run_tag_close (r : Bytes) : (tag ")").run (ascii ")" ++ r) = some (r, ascii ")") :=
  run_tagBy_self r (by decide) rfl

theorem run_tag_comma (r : Bytes) : (tag ",").run (ascii "," ++ r) = some (r, ascii ",") :=
  run_tagBy_self r (by decide) rfl

theorem delimDigit_run (hne : ds ≠ []) (hd : ∀ b ∈ ds, isDigit b = true) :
    delimDigit.run (ascii "(" ++ (ds ++ (ascii ")" ++ r))) = some (r, ds) := by
  simp (disch := decide) only [delimDigit, delimited, run_bind, run_pure, run_tag_open, Option.some_bind,
    run_digit1_append_stop hne hd, run_tag_close]

/-- `delim_u16` on `(digits)`: their value, where it fits a `u16`. -/
theorem delimU16_run (hne : ds ≠ []) (hd : ∀ b ∈ ds, isDigit b = true) :
    delimU16.run (ascii "(" ++ (ds ++ (ascii ")" ++ r))) = (fromStrU16 ds).map fun v => (r, v) := by
  simp only [delimU16, run_mapParser, delimDigit_run hne hd, Option.some_bind, digitAsU16,
    digitAs_run _ hd, Option.map_map]
  rfl

/-- The text `(m w₁,w₂n)` of a precision and a scale, with spaces around the comma. -/
def precisionText (m w₁ w₂ n : Bytes) : Bytes :=
  ascii "(" ++ (m ++ (w₁ ++ (ascii "," ++ (w₂ ++ (n ++ ascii ")")))))

theorem precisionText_append (m w₁ w₂ n r : Bytes) : precisionText m w₁ w₂ n ++ r =
    ascii "(" ++ (m ++ (w₁ ++ (ascii "," ++ (w₂ ++ (n ++ (ascii ")" ++ r)))))) := by
  simp [precisionText]

/-- `precision` on `(m w₁,w₂n)`: the scale is read only right after the digits of the
precision, so spaces before the comma make `precision` fail. -/
theorem precision_run (hm : m ≠ []) (hmd : ∀ b ∈ m, isDigit b = true) (hn : n ≠ [])
    (hnd : ∀ b ∈ n, isDigit b = true) (hw₁ : ∀ b ∈ w₁, isSpace b = true)
    (hw₂ : ∀ b ∈ w₂, isSpace b = true) :
    precision.run (ascii "(" ++ (m ++ (w₁ ++ (ascii "," ++ (w₂ ++ (n ++ (ascii ")" ++ r))))))) =
      if w₁ = [] then
        (fromStrU8 m).bind fun a => (fromStrU8 n).map fun b => (r, (a, some b))
      else none := by
  have hnsp : ∀ b ∈ (n ++ (ascii ")" ++ r)).head?, isSpace b = false := fun b hb =>
    isSpace_of_isDigit (head?_digits_append hn hnd b hb)
  cases w₁ with
  | nil =>
    simp (disch := decide) only [precision, precisionHelper, delimited, pair, preceded, run_bind,
      run_pure, run_mapRes, run_opt, run_tag_open, Option.some_bind, List.nil_append,
      run_digit1_append_stop hm hmd, run_tag_comma,
      run_whitespace0_append hw₂ hnsp, run_digit1_append_stop hn hnd,
      some_map, some_getD, digitAsU8, digitAs_run _ hmd, digitAs_run _ hnd,
      if_true]
    cases fromStrU8 m <;> cases fromStrU8 n <;> simp [run_tag_close]
  | cons w ws =>
    have hw : isSpace w = true := hw₁ w (List.mem_cons_self _ _)
    have hrest : ∀ b ∈ (w :: (ws ++ (ascii "," ++ (w₂ ++ (n ++ (ascii ")" ++ r)))))).head?,
        isDigit b = false := by simp [isDigit_of_isSpace hw]
    have hcomma : (tag ",").run (w :: (ws ++ (ascii "," ++ (w₂ ++ (n ++ (ascii ")" ++ r)))))) =
        none := run_tagBy_of_head isSpace (fun _ _ => rfl) (by simpa using hw) (by decide)
    have hclose : (tag ")").run (w :: (ws ++ (ascii "," ++ (w₂ ++ (n ++ (ascii ")" ++ r)))))) =
        none := run_tagBy_of_head isSpace (fun _ _ => rfl) (by simpa using hw) (by decide)
    simp only [precision, precisionHelper, delimited, pair, preceded, run_bind, run_pure,
      run_mapRes, run_opt, run_tag_open, Option.some_bind, List.cons_append,
      run_digit1_append hm hmd hrest, hcomma, Option.bind_none, none_map, none_getD, digitAsU8,
      digitAs_run _ hmd, reduceCtorEq, if_false]
    cases fromStrU8 m <;> simp [hclose]

/-- `numeric_precision` on `(m w₁,w₂n)`: spaces on both sides of the comma are read. -/
theorem numericPrecision_run (hm : m ≠ []) (hmd : ∀ b ∈ m, isDigit b = true) (hn : n ≠ [])
    (hnd : ∀ b ∈ n, isDigit b = true) (hw₁ : ∀ b ∈ w₁, isSpace b = true)
    (hw₂ : ∀ b ∈ w₂, isSpace b = true) :
    numericPrecision.run (ascii "(" ++ (m ++ (w₁ ++ (ascii "," ++ (w₂ ++ (n ++ (ascii ")" ++ r))))))) =
      (fromStrU16 m).bind fun a => (fromStrU8 n).map fun b => (r, (a, some b)) := by
  have hnsp : ∀ b ∈ (n ++ (ascii ")" ++ r)).head?, isSpace b = false := fun b hb =>
    isSpace_of_isDigit (head?_digits_append hn hnd b hb)
  have hmrest : ∀ b ∈ (w₁ ++ (ascii "," ++ (w₂ ++ (n ++ (ascii ")" ++ r))))).head?,
      isDigit b = false := by
    cases w₁ with
    | nil => exact head?_append_of_head (u := ascii ",") _ (by decide)
    | cons w ws => simp [isDigit_of_isSpace (hw₁ w (List.mem_cons_self _ _))]
  simp (disch := decide) only [numericPrecision, numericPrecisionInner, delimited, preceded,
    run_bind, run_pure, run_mapRes, run_opt, run_tag_open, Option.some_bind, run_digit1_append hm hmd hmrest,
    run_whitespace0_append_stop hw₁, run_tag_comma,
    run_whitespace0_append hw₂ hnsp, run_digit1_append_stop hn hnd,
    some_map, some_getD, digitAsU16, digitAsU8, digitAs_run _ hmd,
    digitAs_run _ hnd]
  cases fromStrU16 m <;> cases fromStrU8 n <;> simp [run_tag_close]

/-- `precision` on `(m,n)`. -/
theorem precision_run_tight (hm : m ≠ []) (hmd : ∀ b ∈ m, isDigit b = true) (hn : n ≠ [])
    (hnd : ∀ b ∈ n, isDigit b = true) :
    precision.run (ascii "(" ++ (m ++ (ascii "," ++ (n ++ (ascii ")" ++ r))))) =
      (fromStrU8 m).bind fun a => (fromStrU8 n).map fun b => (r, (a, some b)) :=
  (@precision_run m n [] [] r hm hmd hn hnd (by simp) (by simp)).trans (if_pos rfl)

/-- `precision` on `(m, n)`, spaced as `Display` writes it. -/
theorem precision_run_spaced (hm : m ≠ []) (hmd : ∀ b ∈ m, isDigit b = true) (hn : n ≠ [])
    (hnd : ∀ b ∈ n, isDigit b = true) :
    precision.run (ascii "(" ++ (m ++ (ascii "," ++ (ascii " " ++ (n ++ (ascii ")" ++ r)))))) =
      (fromStrU8 m).bind fun a => (fromStrU8 n).map fun b => (r, (a, some b)) :=
  (@precision_run m n [] (ascii " ") r hm hmd hn hnd (by simp) (by decide)).trans (if_pos rfl)

/-- `numeric_precision` on `(m, n)`, spaced as `Display` writes it. -/
theorem numericPrecision_run_spaced (hm : m ≠ []) (hmd : ∀ b ∈ m, isDigit b = true)
    (hn : n ≠ []) (hnd : ∀ b ∈ n, isDigit b = true) :
    numericPrecision.run (ascii "(" ++ (m ++ (ascii "," ++ (ascii " " ++ (n ++ (ascii ")" ++ r)))))) =
      (fromStrU16 m).bind fun a => (fromStrU8 n).map fun b => (r, (a, some b)) :=
  @numericPrecision_run m n [] (ascii " ") r hm hmd hn hnd (by simp) (by decide)

/-- `numeric_precision` on `(m)`. -/
theorem numericPrecision_run_single (hm : m ≠ []) (hmd : ∀ b ∈ m, isDigit b = true) :
    numericPrecision.run (ascii "(" ++ (m ++ (ascii ")" ++ r))) =
      (fromStrU16 m).map fun a => (r, (a, none)) := by
  simp (disch := decide) only [numericPrecision, numericPrecisionInner, delimited, preceded,
    run_bind, run_pure, run_mapRes, run_opt, run_tag_open, Option.some_bind,
    run_digit1_append_stop hm hmd, run_whitespace0_of_not_space,
    run_tagBy_of_incompatible, Option.none_bind, none_map, none_getD,
    digitAsU16, digitAs_run _ hmd]
  cases fromStrU16 m <;> simp [run_tag_close]

/-! ### On the text `Display` writes -/

theorem delimU16_run_decimal (v : UInt16) (r : Bytes) :
    delimU16.run (ascii "(" ++ (decimal v.toNat ++ (ascii ")" ++ r))) = some (r, v) := by
  rw [delimU16_run (decimal_ne_nil _) isDigit_of_mem_decimal, fromStrU16_decimal, some_map]

theorem precision_run_decimal (a b : UInt8) (r : Bytes) :
    precision.run (ascii "(" ++ (decimal a.toNat ++ (ascii "," ++ (ascii " " ++
      (decimal b.toNat ++ (ascii ")" ++ r)))))) = some (r, (a, some b)) := by
  rw [precision_run_spaced (decimal_ne_nil _) isDigit_of_mem_decimal (decimal_ne_nil _)
    isDigit_of_mem_decimal, fromStrU8_decimal, fromStrU8_decimal]
  rfl

theorem numericPrecision_run_decimal (a : UInt16) (b : UInt8) (r : Bytes) :
    numericPrecision.run (ascii "(" ++ (decimal a.toNat ++ (ascii "," ++ (ascii " " ++
      (decimal b.toNat ++ (ascii ")" ++ r)))))) = some (r, (a, some b)) := by
  rw [numericPrecision_run_spaced (decimal_ne_nil _) isDigit_of_mem_decimal (decimal_ne_nil _)
    isDigit_of_mem_decimal, fromStrU16_decimal, fromStrU8_decimal]
  rfl

theorem numericPrecision_run_single_decimal (a : UInt16) (r : Bytes) :
    numericPrecision.run (ascii "(" ++ (decimal a.toNat ++ (ascii ")" ++ r))) =
      some (r, (a, none)) := by
  rw [numericPrecision_run_single (decimal_ne_nil _) isDigit_of_mem_decimal, fromStrU16_decimal,
    some_map]

end Parts

/-! ### Parts that open with `(` -/

/-- A parser whose first step is `tag("(")`: it fails wherever that tag fails. -/
def OpensParen {α : Type} (p : Parser α) : Prop := ∀ i, (tag "(").run i = none → p.run i = none

theorem opensParen_delimited {β γ : Type} (q : Parser β) (c : Parser γ) :
    OpensParen (delimited (tag "(") q c) := fun i h => by simp [delimited, h]

theorem delimDigit_opensParen : OpensParen delimDigit := opensParen_delimited _ _

theorem delimU16_opensParen : OpensParen delimU16 := fun i h => by
  simp [delimU16, delimDigit_opensParen i h]

theorem precision_opensParen : OpensParen precision := opensParen_delimited _ _

theorem numericPrecision_opensParen : OpensParen numericPrecision := opensParen_delimited _ _

theorem OpensParen.run_append {α : Type} {p : Parser α} (hp : OpensParen p) {u : Bytes}
    (r : Bytes) (h : compatibleBy id (ascii "(") u = false) : p.run (u ++ r) = none :=
  hp _ (run_tagBy_of_incompatible r h)

end NomSql
