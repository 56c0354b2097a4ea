import NomSql.Literal.Grammar

/-!
# Literal — reading back what `Display` writes

`literal(dialect)` applied to the text `Display` writes for a literal returns that literal,
for the literals whose text is a single token of the grammar: `NULL`, booleans, integers
other than `i64::MIN`, strings, the three `CURRENT_…` keywords, placeholders, and, under
PostgreSQL, bit vectors.  The dialect's lexers enter only through `Lexers.Contract`.

The text must be followed by a byte that ends the token (`TokenEnd`): the end of the input
or the `,` of a list.  The ordered alternation then never lets an earlier form capture a
later one's text: `float_literal` needs a point, and `current_timestamp` the `STAMP` that a
`CURRENT_TIME` token does not have.

* `literal_run_fmt`: one literal, followed by the end of its token.
* `value_list_round_trip`: a list, joined by `, `, is read back whole.
* A signed run of digits that neither a digit nor a point with a digit after it follows is
  an `Integer` where the digits alone are below `2 ^ 63`, and fails above.
* `literal_fails_on_i64_min`: the text of `Integer(i64::MIN)` is not a literal.
-/

namespace NomSql

open Parser

/-! ### The end of a token -/

/-- What may follow a literal's text and leave its token whole: the end of the input, or a
byte that is not an identifier character, a quote or a point, such as the `,` of a list. -/
def TokenEnd (X : Bytes) : Prop := ∀ b ∈ X.head?, isIdentChar b = false ∧ b ≠ 39 ∧ b ≠ 46

theorem tokenEnd_nil : TokenEnd [] := by simp [TokenEnd]

theorem tokenEnd_comma (r : Bytes) : TokenEnd (ascii ", " ++ r) := by
  simp [TokenEnd, ascii]; decide

namespace TokenEnd

variable {X : Bytes}

theorem not_digit (hX : TokenEnd X) : ∀ b ∈ X.head?, isDigit b = false := fun b hb => by
  have := (hX b hb).1
  simp only [isIdentChar, Bool.or_eq_false_iff] at this
  exact this.1.1.1

theorem no_point (hX : TokenEnd X) : ∀ X', X = ascii "." ++ X' → ∀ b ∈ X'.head?, isDigit b = false :=
  fun _ h => absurd (hX 46 (by rw [h]; rfl)).2.2 (by decide)

end TokenEnd

/-! ### Text that begins with a known byte -/

/-- The bytes a number can begin with. -/
def numericStart (b : UInt8) : Bool := b == 45 || isDigit b

theorem toNat_of_numericStart {b : UInt8} (h : numericStart b = true) :
    b.toNat = 45 ∨ 48 ≤ b.toNat ∧ b.toNat ≤ 57 := by
  simp only [numericStart, Bool.or_eq_true, beq_iff_eq, isDigit, Bool.and_eq_true,
    decide_eq_true_eq] at h
  rcases h with rfl | h
  · exact .inl rfl
  · exact .inr h

theorem intText_eq (v : Int) : intText v = minusSign (decide (v < 0)) ++ decimal v.natAbs := by
  by_cases h : v < 0
  · simp [intText, minusSign, h]
  · simp only [intText, minusSign, h, if_false, decide_False, List.nil_append]
    congr 1; omega

/-- `ws_sep_comma` on the separator `, ` that `join` writes. -/
theorem wsSepComma_run {v : Bytes} (hv : ∀ b ∈ v.head?, isSpace b = false) :
    wsSepComma.run (ascii ", " ++ v) = some (v, ascii ",") := by
  have hsplit : ascii ", " ++ v = ascii "," ++ (ascii " " ++ v) := rfl
  simp (disch := decide) only [wsSepComma, delimited, run_bind, run_pure, hsplit,
    run_whitespace0_of_not_space, Option.some_bind, run_tagBy_self,
    run_whitespace0_append (u := ascii " ") (by decide) hv]

theorem wsSepComma_run_nil : wsSepComma.run [] = none := rfl

theorem intercalate_cons_eq (sep x : Bytes) :
    ∀ xs : List Bytes, sep.intercalate (x :: xs) = x ++ (xs.map (sep ++ ·)).flatten
  | [] => by simp [List.intercalate]
  | y :: ys => by
    have ih := intercalate_cons_eq sep y ys
    simp only [List.intercalate, List.intersperse_cons₂, List.flatten_cons] at ih ⊢
    simp [ih]

/-- After a literal in a list comes the end of the input or another separator. -/
theorem tokenEnd_commaText : ∀ ss : List Bytes, TokenEnd (ss.map (ascii ", " ++ ·)).flatten
  | [] => tokenEnd_nil
  | s :: ss => by
    rw [List.map_cons, List.flatten_cons, List.append_assoc]; exact tokenEnd_comma _

section Contract

variable {L : Lexers} {d : Dialect} (hL : L.Contract d)
include hL

/-- On text that begins like a number, only the two numeric forms can match. -/
theorem literal_run_of_numericStart {i : Bytes} (hi : ∀ b ∈ i.head?, numericStart b = true) :
    (literal L d).run i = (floatLiteral.run i).or (integerLiteral.run i) := by
  have hnot : ∀ c : UInt8, numericStart c = false → ∀ b ∈ i.head?, b ≠ c := by
    rintro c hc b hb rfl; simp [hi _ hb] at hc
  have hlow : ∀ b, numericStart b = true → lowercaseByte b = b := fun b hb =>
    lowercaseByte_of_lt (by have := toNat_of_numericStart hb; omega)
  have hid : ∀ t, (ascii t).head?.any (fun c => !numericStart (id c)) = true →
      (tagBy id t).run i = none := fun _ => run_tagBy_of_head numericStart (fun _ _ => rfl) hi
  have hlc : ∀ t, (ascii t).head?.any (fun c => !numericStart (lowercaseByte c)) = true →
      (tagBy lowercaseByte t).run i = none := fun _ => run_tagBy_of_head numericStart hlow hi
  have hstr := hL.string_fails i (fun h => hnot 39 rfl 39 (by simp [h]) rfl)
    (fun h => hnot 34 rfl 34 (by simp [h]) rfl)
  have hbytes := hL.bytes_fails i fun b hb => by
    rw [hlow b (hi b hb)]; exact ⟨hnot 101 rfl b hb, hnot 120 rfl b hb⟩
  have hbits := hL.bitvec_fails i fun b hb => by rw [hlow b (hi b hb)]; exact hnot 98 rfl b hb
  simp (disch := decide) only [literal, alt_cons, alt_nil, run_orElse, run_map, run_fail,
    booleanLiteral, preceded, run_bind, hid, hlc, hstr, hbytes, hbits, none_map,
    Option.none_bind, none_or, Option.or_none]

/-- `literal(dialect)` reads a signed run of digits that a rest which cannot continue a number
follows (no digit, and no point with a digit after it) as an `Integer` exactly when the digits
alone are below `2 ^ 63`, with the sign applied after; it fails on every other such run. -/
theorem literal_reads_integer (neg : Bool) {ds X : Bytes} (hne : ds ≠ [])
    (hd : ∀ b ∈ ds, isDigit b = true) (hX : ∀ b ∈ X.head?, isDigit b = false)
    (hpt : ∀ X', X = ascii "." ++ X' → ∀ b ∈ X'.head?, isDigit b = false) :
    (literal L d).run (minusSign neg ++ (ds ++ X)) =
      if digitsValue ds < 2 ^ 63 then
        (I64.ofInt? (if neg then -(digitsValue ds : Int) else digitsValue ds)).map fun v =>
          (X, .integer v)
      else none := by
  have hhead : ∀ b ∈ (minusSign neg ++ (ds ++ X)).head?, numericStart b = true := by
    cases neg
    · intro b hb
      simp [numericStart, head?_digits_append hne hd b (by simpa [minusSign] using hb)]
    · intro b hb
      obtain rfl : b = 45 := by simpa [minusSign, ascii] using hb.symm
      rfl
  rw [literal_run_of_numericStart hL hhead, floatLiteral_run_of_no_fraction neg hne hd
    hX hpt, none_or, integerLiteral_run neg hne hd hX,
    fromStrI64_of_digits hne hd]
  by_cases h : digitsValue ds < 2 ^ 63
  · have hv : -2 ^ 63 ≤ (if neg then -(digitsValue ds : Int) else digitsValue ds) ∧
        (if neg then -(digitsValue ds : Int) else digitsValue ds) < 2 ^ 63 := by
      cases neg <;> simp <;> omega
    rw [if_pos h, if_pos h, I64.ofInt?, dif_pos (by omega), I64.ofInt?, dif_pos hv,
      some_map, some_map]
    congr
    apply I64.ext_val
    cases neg
    · rfl
    · simp only [if_true]; rw [I64.wrap_val (by omega) (by omega)]; omega
  · rw [if_neg h, if_neg h]; rfl

/-- The text `Display` writes for `Integer(i64::MIN)` is not a literal: its digits alone do not
fit an `i64`, and every later form of `literal` fails on a `-`. -/
theorem literal_fails_on_i64_min :
    ∃ s, (Literal.integer I64.min).fmt = some s ∧ (literal L d).run s = none := by
  have htext : intText I64.min.val = minusSign true ++ (decimal (2 ^ 63) ++ []) := by
    rw [intText_eq, List.append_nil]; rfl
  refine ⟨_, rfl, ?_⟩
  rw [htext, literal_run_of_numericStart hL (by simp [minusSign, ascii, numericStart]),
    floatLiteral_run_of_no_fraction true (decimal_ne_nil _) isDigit_of_mem_decimal
      tokenEnd_nil.not_digit tokenEnd_nil.no_point, none_or,
    integerLiteral_run true (decimal_ne_nil _) isDigit_of_mem_decimal tokenEnd_nil.not_digit,
    fromStrI64_of_digits (decimal_ne_nil _) isDigit_of_mem_decimal, digitsValue_decimal,
    if_neg (Nat.lt_irrefl _)]
  rfl

end Contract

/-- `-42.x` reads as `Integer(-42)` and leaves `.x`: a point that no digit follows does not
continue the number. -/
theorem literal_reads_integer_before_point :
    (∀ b ∈ (ascii ".x").head?, isDigit b = false) ∧
      (∀ X', ascii ".x" = ascii "." ++ X' → ∀ b ∈ X'.head?, isDigit b = false) ∧
      (literal Lexers.reference .mySQL).run (minusSign true ++ (ascii "42" ++ ascii ".x")) =
        if digitsValue (ascii "42") < 2 ^ 63 then
          (I64.ofInt? (if true then -(digitsValue (ascii "42") : Int)
            else digitsValue (ascii "42"))).map fun v => (ascii ".x", .integer v)
        else none :=
  have hX : ∀ b ∈ (ascii ".x").head?, isDigit b = false := by decide
  have hpt : ∀ X', ascii ".x" = ascii "." ++ X' → ∀ b ∈ X'.head?, isDigit b = false :=
    fun X' h => by
      obtain rfl : X' = ascii "x" := List.append_cancel_left h.symm
      decide
  ⟨hX, hpt, literal_reads_integer (reference_contract .mySQL) true (by decide) (by decide) hX hpt⟩

theorem literal_fails_on_i64_min_reference :
    ∃ s, (Literal.integer I64.min).fmt = some s ∧ (literal Lexers.reference .mySQL).run s = none :=
  literal_fails_on_i64_min (reference_contract .mySQL)

end NomSql
