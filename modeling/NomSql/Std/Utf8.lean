import NomSql.Nom.Bytes

/-!
# Std — UTF-8

A Rust `String` is a vector of bytes that is well-formed UTF-8; `String::from_utf8` and
`str::from_utf8` check that and wrap the bytes, copying nothing.  `validUtf8` is the check
of `core::str::validations::run_utf8_validation`, and `Utf8String` carries it.

* `validUtf8_of_ascii`: bytes below `0x80` are well-formed, so `from_utf8` of a run of
  digits, as the numeric helpers of `common.rs` take, always succeeds.
-/

namespace NomSql

/-- `run_utf8_validation`, a byte at a time: `need` continuation bytes are still due, the
next of them within `lo ..= hi`.  A character is one byte below `0x80`, or a lead byte of
width two, three or four and its continuation bytes, with no overlong form, surrogate or
value past `U+10FFFF`. -/
def validUtf8Go : Nat → Nat → Nat → Bytes → Bool
  | 0, _, _, [] => true
  | _ + 1, _, _, [] => false
  | 0, _, _, b :: bs =>
    if b.toNat < 0x80 then validUtf8Go 0 0 0 bs
    else if 0xC2 ≤ b.toNat ∧ b.toNat ≤ 0xDF then validUtf8Go 1 0x80 0xBF bs
    else if b.toNat = 0xE0 then validUtf8Go 2 0xA0 0xBF bs
    else if b.toNat = 0xED then validUtf8Go 2 0x80 0x9F bs
    else if 0xE1 ≤ b.toNat ∧ b.toNat ≤ 0xEF then validUtf8Go 2 0x80 0xBF bs
    else if b.toNat = 0xF0 then validUtf8Go 3 0x90 0xBF bs
    else if b.toNat = 0xF4 then validUtf8Go 3 0x80 0x8F bs
    else if 0xF1 ≤ b.toNat ∧ b.toNat ≤ 0xF3 then validUtf8Go 3 0x80 0xBF bs
    else false
  | need + 1, lo, hi, b :: bs => lo ≤ b.toNat && b.toNat ≤ hi && validUtf8Go need 0x80 0xBF bs

/-- The bytes are well-formed UTF-8. -/
def validUtf8 (b : Bytes) : Bool := validUtf8Go 0 0 0 b

/-- A Rust `String`: bytes that are well-formed UTF-8. -/
structure Utf8String where
  bytes : Bytes
  valid : validUtf8 bytes = true
deriving DecidableEq

/-- `String::default()`: the empty string. -/
def Utf8String.empty : Utf8String := ⟨[], rfl⟩

/-- `String::from_utf8`: the bytes as a `String`; on failure they come back unchanged
(`FromUtf8Error::into_bytes`). -/
def Utf8String.fromUtf8 (b : Bytes) : Option Utf8String :=
  if h : validUtf8 b = true then some ⟨b, h⟩ else none

/-- `str::from_utf8`: the same check, borrowing the bytes. -/
def strFromUtf8 (b : Bytes) : Option Bytes := if validUtf8 b then some b else none

theorem validUtf8_of_ascii : ∀ {b : Bytes}, (∀ x ∈ b, x.toNat < 0x80) → validUtf8 b = true
  | [], _ => rfl
  | x :: xs, h => by
    rw [validUtf8, validUtf8Go, if_pos (h x (List.mem_cons_self _ _))]
    exact validUtf8_of_ascii fun y hy => h y (List.mem_cons_of_mem _ hy)

theorem strFromUtf8_of_ascii {b : Bytes} (h : ∀ x ∈ b, x.toNat < 0x80) : strFromUtf8 b = some b := by
  simp [strFromUtf8, validUtf8_of_ascii h]

theorem strFromUtf8_of_digits {b : Bytes} (h : ∀ x ∈ b, isDigit x = true) : strFromUtf8 b = some b :=
  strFromUtf8_of_ascii fun x hx => by
    have := h x hx; simp only [isDigit, Bool.and_eq_true, decide_eq_true_eq] at this; omega

end NomSql
