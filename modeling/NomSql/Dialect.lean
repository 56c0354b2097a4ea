import NomSql.Literal.Display

/-!
# Dialect — the lexical contract

`Dialect` names the SQL flavour a grammar parses.  Its lexers, one per lexical primitive,
are in `crate::dialect`, which is not part of this core (§4.1): the grammar calls them and
relies only on their contract.  `Lexers` holds them as data, and `Lexers.Contract` states
what each dialect's lexers promise:

* each fails unless the input begins with its own opening quote or prefix — `'` or `"` for
  strings, `E` or `X` for byte arrays, `B` for bit strings, in either case;
* the string lexer reads one quoted token, undoing the doubled quotes and backslashes
  `Display` writes;
* PostgreSQL's bit-string lexer reads one `B'…'` token.

`Lexers.reference` is one set of lexers that keeps the contract (`reference_contract`).
-/

namespace NomSql

/-- `Dialect`. -/
inductive Dialect
  | mySQL
  | postgreSQL
deriving DecidableEq

/-- `dialect.string_literal()`, `dialect.bytes_literal()` and `dialect.bitvec_literal()`. -/
structure Lexers where
  stringLiteral : Dialect → Parser Bytes
  bytesLiteral : Dialect → Parser Bytes
  bitvecLiteral : Dialect → Parser (List Bool)

/-- `'s'`: the string with bytes `s` as `Display` writes it. -/
def quoted (s : Bytes) : Bytes := ascii "'" ++ escapeString s ++ ascii "'"

/-- `B'…'`: the bit string as `Display` writes it. -/
def bitQuoted (bits : List Bool) : Bytes := ascii "B'" ++ bitText bits ++ ascii "'"

/-- What the lexers of dialect `d` promise. -/
structure Lexers.Contract (L : Lexers) (d : Dialect) : Prop where
  string_fails : ∀ i, i.head? ≠ some 39 → i.head? ≠ some 34 → (L.stringLiteral d).run i = none
  string_token : ∀ s r, r.head? ≠ some 39 → (L.stringLiteral d).run (quoted s ++ r) = some (r, s)
  bytes_fails : ∀ i, (∀ b ∈ i.head?, lowercaseByte b ≠ 101 ∧ lowercaseByte b ≠ 120) →
    (L.bytesLiteral d).run i = none
  bitvec_fails : ∀ i, (∀ b ∈ i.head?, lowercaseByte b ≠ 98) → (L.bitvecLiteral d).run i = none
  bitvec_token : d = .postgreSQL → ∀ bits r,
    (L.bitvecLiteral d).run (bitQuoted bits ++ r) = some (r, bits)

namespace Lexers.Contract

variable {L : Lexers} {d : Dialect}

/-! The contract on text whose first byte is known, for `decide` to settle. -/

theorem stringLiteral_run_nil (hL : L.Contract d) : (L.stringLiteral d).run [] = none :=
  hL.string_fails [] (by simp) (by simp)

theorem bytesLiteral_run_nil (hL : L.Contract d) : (L.bytesLiteral d).run [] = none :=
  hL.bytes_fails [] (by simp)

theorem bitvecLiteral_run_nil (hL : L.Contract d) : (L.bitvecLiteral d).run [] = none :=
  hL.bitvec_fails [] (by simp)

end Lexers.Contract

/-! ### A reference lexer -/

/-- The rest of a token quoted by `q`, after the opening quote, and its bytes: a doubled
quote is one quote, a backslash takes the next byte as it is. -/
def unquote (q : UInt8) : Bytes → Option (Bytes × Bytes)
  | [] => none
  | [b] => if b = q then some ([], []) else none
  | b :: c :: cs =>
    if b = q then
      if c = q then (unquote q cs).map fun x => (x.1, q :: x.2) else some (c :: cs, [])
    else if b = 92 then (unquote q cs).map fun x => (x.1, c :: x.2)
    else (unquote q (c :: cs)).map fun x => (x.1, b :: x.2)

theorem unquote_suffix (q : UInt8) : ∀ {i r s : Bytes}, unquote q i = some (r, s) → r <:+ i
  | [], _, _, h => by simp [unquote] at h
  | [b], r, s, h => by
    rw [unquote] at h
    split_ifs at h
    cases h
    exact List.nil_suffix
  | b :: c :: cs, r, s, h => by
    have two : cs <:+ b :: c :: cs := (List.suffix_cons _ _).trans (List.suffix_cons _ _)
    rw [unquote] at h
    split_ifs at h
    · obtain ⟨⟨r', s'⟩, hx, hxe⟩ := Option.map_eq_some'.mp h
      obtain ⟨rfl, -⟩ := Prod.mk.inj hxe
      exact (unquote_suffix q hx).trans two
    · cases h; exact List.suffix_cons _ _
    · obtain ⟨⟨r', s'⟩, hx, hxe⟩ := Option.map_eq_some'.mp h
      obtain ⟨rfl, -⟩ := Prod.mk.inj hxe
      exact (unquote_suffix q hx).trans two
    · obtain ⟨⟨r', s'⟩, hx, hxe⟩ := Option.map_eq_some'.mp h
      obtain ⟨rfl, -⟩ := Prod.mk.inj hxe
      exact (unquote_suffix q hx).trans (List.suffix_cons _ _)

/-- The bits of a `B'…'` token after its opening quote, and the rest. -/
def unquoteBits : Bytes → Option (Bytes × List Bool)
  | [] => none
  | b :: bs =>
    if b = 39 then some (bs, [])
    else if b = 48 ∨ b = 49 then (unquoteBits bs).map fun x => (x.1, (b = 49) :: x.2)
    else none

theorem unquoteBits_suffix : ∀ {i r : Bytes} {s : List Bool}, unquoteBits i = some (r, s) → r <:+ i
  | [], _, _, h => by simp [unquoteBits] at h
  | b :: bs, r, s, h => by
    rw [unquoteBits] at h
    split_ifs at h
    · cases h; exact List.suffix_cons _ _
    · obtain ⟨⟨r', s'⟩, hx, hxe⟩ := Option.map_eq_some'.mp h
      obtain ⟨rfl, -⟩ := Prod.mk.inj hxe
      exact (unquoteBits_suffix hx).trans (List.suffix_cons _ _)

/-- A string token in `'` or `"`. -/
def referenceString : Parser Bytes where
  run i := match i with
    | q :: bs => if q = 39 ∨ q = 34 then unquote q bs else none
    | [] => none
  suffix := by
    intro i r a h
    cases i with
    | nil => cases h
    | cons q bs =>
      dsimp only at h
      split_ifs at h
      exact (unquote_suffix q h).trans (List.suffix_cons _ _)

/-- A bit-string token `B'…'`. -/
def referenceBits : Parser (List Bool) where
  run i := match i with
    | b :: c :: bs => if lowercaseByte b = 98 ∧ c = 39 then unquoteBits bs else none
    | _ => none
  suffix := by
    intro i r a h
    match i, h with
    | b :: c :: bs, h =>
      dsimp only at h
      split_ifs at h
      exact ((unquoteBits_suffix h).trans (List.suffix_cons _ _)).trans (List.suffix_cons _ _)

/-- Reference lexers: strings in `'` or `"`, bit strings `B'…'`, and no byte-array syntax,
which the contract allows. -/
def Lexers.reference : Lexers where
  stringLiteral _ := referenceString
  bytesLiteral _ := Parser.fail
  bitvecLiteral _ := referenceBits

/-- What the two `replace` calls of `Display` make of one byte. -/
def escapeByte (x : UInt8) : Bytes := if x = 39 then [39, 39] else if x = 92 then [92, 92] else [x]

theorem escapeString_cons (x : UInt8) (xs : Bytes) :
    escapeString (x :: xs) = escapeByte x ++ escapeString xs := by
  by_cases h₁ : x = 39
  · subst h₁; simp [escapeString, replaceByte, escapeByte]
  · by_cases h₂ : x = 92
    · subst h₂; simp [escapeString, replaceByte, escapeByte]
    · simp [escapeString, replaceByte, escapeByte, h₁, h₂]

theorem unquote_escapeString (r : Bytes) (hr : r.head? ≠ some 39) :
    ∀ s, unquote 39 (escapeString s ++ 39 :: r) = some (r, s)
  | [] => by
    cases r with
    | nil => rfl
    | cons c cs =>
      have hc : c ≠ 39 := fun h => hr (by simp [h])
      simp [escapeString, replaceByte, unquote, hc]
  | x :: xs => by
    have ih := unquote_escapeString r hr xs
    rw [escapeString_cons]
    by_cases h₁ : x = 39
    · simp [escapeByte, h₁, unquote, ← h₁ ▸ ih]
    · by_cases h₂ : x = 92
      · simp [escapeByte, h₁, h₂, unquote, ih]
      · obtain ⟨c, cs, hcs⟩ : ∃ c cs, escapeString xs ++ 39 :: r = c :: cs :=
          List.exists_cons_of_ne_nil (by simp)
        simp only [escapeByte, h₁, h₂, if_false, List.singleton_append, List.cons_append,
          List.append_assoc, hcs, unquote] at ih ⊢
        rw [ih]; rfl

theorem unquoteBits_bitText (r : Bytes) : ∀ bits, unquoteBits (bitText bits ++ 39 :: r) = some (r, bits)
  | [] => rfl
  | b :: bs => by
    have ih := unquoteBits_bitText r bs
    have h : bitText (b :: bs) = (if b then 49 else 48) :: bitText bs := rfl
    rw [h, List.cons_append]
    cases b <;> simp [unquoteBits, ih]

theorem reference_contract (d : Dialect) : Lexers.reference.Contract d where
  string_fails i h₁ h₂ := by
    cases i with
    | nil => rfl
    | cons q bs =>
      simp only [List.head?_cons, ne_eq, Option.some.injEq] at h₁ h₂
      simp [Lexers.reference, referenceString, h₁, h₂]
  string_token s r hr := by
    simp only [Lexers.reference, referenceString, quoted, ascii, List.append_assoc]
    simp [unquote_escapeString r hr]
  bytes_fails _ _ := rfl
  bitvec_fails i h := by
    match i with
    | [] => rfl
    | [_] => rfl
    | b :: c :: bs =>
      have : lowercaseByte b ≠ 98 := h b rfl
      simp [Lexers.reference, referenceBits, this]
  bitvec_token _ bits r := by
    have hB : lowercaseByte 66 = 98 := by decide
    simp only [Lexers.reference, referenceBits, bitQuoted, ascii, List.append_assoc]
    simp [hB, unquoteBits_bitText]

end NomSql
