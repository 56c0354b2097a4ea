import Mathlib.Algebra.Group.Int
import Mathlib.Algebra.Group.Nat.Basic
import Mathlib.Data.List.Infix

/-!
# Nom — parsers over byte slices

The grammar of `common.rs` is written with nom 7's complete combinators over `&[u8]`.  A
parser there is a function from the remaining input to `IResult`: either the rest of the
input together with an output, or an error.  Every combinator the file uses hands back a
sub-slice of its input, so the rest is always a suffix of the input; `Parser` carries that
as a field, and each combinator below proves it once.

Errors are recoverable throughout (`Err::Error`: no combinator of the file uses `cut`, and
the complete combinators never report `Incomplete`), so a failure is `none`.  The error
kind and position nom attaches are not modelled: no function of the file reads them.

* `alt` is nom's `alt` over a tuple of alternatives: the first that succeeds, each tried on
  the input `alt` was given.
* `tagNoCase` compares ASCII letters without regard to case, byte by byte, as nom's
  `Compare::compare_no_case` for `&[u8]` does.

The `run` equation of each combinator that runs another parser is proved by unfolding the
combinator with `simp only` rather than by `rfl`: `simp` then records the rewrite, where a step
taken by `rfl` would be left to the kernel to re-derive by unfolding the parsers around it.

The two `Algebra.Group` imports make `^` on `Nat` and `Int` elaborate as it does with the whole
of Mathlib in scope.
-/

namespace NomSql

/-- A byte slice, `&[u8]`. -/
abbrev Bytes := List UInt8

/-- The bytes of an ASCII string literal of the source: UTF-8 gives one byte a character. -/
def ascii (s : String) : Bytes := s.toList.map fun c => UInt8.ofNat c.toNat

/-- A parser: on success the unconsumed rest of the input, always a suffix of it, and the
output. -/
structure Parser (α : Type) where
  run : Bytes → Option (Bytes × α)
  suffix : ∀ {i r : Bytes} {a : α}, run i = some (r, a) → r <:+ i

namespace Parser

variable {α β γ : Type}

theorem length_le (p : Parser α) {i r : Bytes} {a : α} (h : p.run i = some (r, a)) :
    r.length ≤ i.length :=
  (p.suffix h).length_le

/-- Succeed with `a`, consuming nothing. -/
protected def pure (a : α) : Parser α where
  run i := some (i, a)
  suffix := by rintro i r a' ⟨⟩; exact List.suffix_refl i

/-- Run `p`, then the parser `f` chooses from its output on what `p` left. -/
protected def bind (p : Parser α) (f : α → Parser β) : Parser β where
  run i := (p.run i).bind fun x => (f x.2).run x.1
  suffix := by
    intro i r b h
    obtain ⟨⟨r₁, a⟩, h₁, h₂⟩ := Option.bind_eq_some.mp h
    exact ((f a).suffix h₂).trans (p.suffix h₁)

instance : Monad Parser where
  pure := Parser.pure
  bind := Parser.bind

/-- The parser that always fails. -/
def fail : Parser α where
  run _ := none
  suffix := by intro i r a h; cases h

@[simp] theorem run_pure (a : α) (i : Bytes) : (pure a : Parser α).run i = some (i, a) := rfl

@[simp] theorem run_bind (p : Parser α) (f : α → Parser β) (i : Bytes) :
    (p >>= f).run i = (p.run i).bind fun x => (f x.2).run x.1 := by
  simp only [Bind.bind, Parser.bind]

@[simp] theorem run_fail (i : Bytes) : (fail : Parser α).run i = none := rfl

/-- `map(p, f)`. -/
def map (p : Parser α) (f : α → β) : Parser β where
  run i := (p.run i).map fun x => (x.1, f x.2)
  suffix := by
    intro i r b h
    obtain ⟨⟨r₁, a⟩, h₁, h₂⟩ := Option.map_eq_some'.mp h
    cases h₂
    exact p.suffix h₁

@[simp] theorem run_map (p : Parser α) (f : α → β) (i : Bytes) :
    (p.map f).run i = (p.run i).map fun x => (x.1, f x.2) := by
  simp only [map]

/-- `map_res(p, f)`: fails, on the input it was given, where `f` rejects the output. -/
def mapRes (p : Parser α) (f : α → Option β) : Parser β where
  run i := (p.run i).bind fun x => (f x.2).map fun b => (x.1, b)
  suffix := by
    intro i r b h
    obtain ⟨⟨r₁, a⟩, h₁, h₂⟩ := Option.bind_eq_some.mp h
    obtain ⟨b', -, h₃⟩ := Option.map_eq_some'.mp h₂
    cases h₃
    exact p.suffix h₁

@[simp] theorem run_mapRes (p : Parser α) (f : α → Option β) (i : Bytes) :
    (p.mapRes f).run i = (p.run i).bind fun x => (f x.2).map fun b => (x.1, b) := by
  simp only [mapRes]

/-- `opt(p)`: `p`'s output if it succeeds, and otherwise `None` with nothing consumed. -/
def opt (p : Parser α) : Parser (Option α) where
  run i := some (((p.run i).map fun x => (x.1, some x.2)).getD (i, none))
  suffix := by
    intro i r a h
    cases hp : p.run i with
    | none => simp only [hp, Option.map_none', Option.getD_none, Option.some.injEq,
        Prod.mk.injEq] at h; exact h.1 ▸ List.suffix_refl i
    | some x =>
      obtain ⟨r', a'⟩ := x
      simp only [hp, Option.map_some', Option.getD_some, Option.some.injEq, Prod.mk.injEq] at h
      exact h.1 ▸ p.suffix hp

@[simp] theorem run_opt (p : Parser α) (i : Bytes) :
    (opt p).run i = some (((p.run i).map fun x => (x.1, some x.2)).getD (i, none)) := by
  simp only [opt]

/-- Two alternatives: `q` is tried on the same input when `p` fails. -/
def orElse (p q : Parser α) : Parser α where
  run i := (p.run i).or (q.run i)
  suffix := by
    intro i r a h
    rcases Option.or_eq_some.mp h with hp | ⟨-, hq⟩
    · exact p.suffix hp
    · exact q.suffix hq

@[simp] theorem run_orElse (p q : Parser α) (i : Bytes) :
    (orElse p q).run i = (p.run i).or (q.run i) := by
  simp only [orElse]

/-- `alt((p₁, …, pₙ))`: the first alternative that succeeds. -/
def alt : List (Parser α) → Parser α
  | [] => fail
  | p :: ps => orElse p (alt ps)

@[simp] theorem alt_nil : alt ([] : List (Parser α)) = fail := rfl

@[simp] theorem alt_cons (p : Parser α) (ps : List (Parser α)) :
    alt (p :: ps) = orElse p (alt ps) := rfl

/-- `peek(p)`: `p`'s output, with nothing consumed. -/
def peek (p : Parser α) : Parser α where
  run i := (p.run i).map fun x => (i, x.2)
  suffix := by
    intro i r a h
    obtain ⟨_, -, h₂⟩ := Option.map_eq_some'.mp h
    cases h₂
    exact List.suffix_refl i

@[simp] theorem run_peek (p : Parser α) (i : Bytes) :
    (peek p).run i = (p.run i).map fun x => (i, x.2) := by
  simp only [peek]

/-- `recognize(p)`: the slice of the input that `p` consumed. -/
def recognize (p : Parser α) : Parser Bytes where
  run i := (p.run i).map fun x => (x.1, i.take (i.length - x.1.length))
  suffix := by
    intro i r a h
    obtain ⟨_, h₁, h₂⟩ := Option.map_eq_some'.mp h
    cases h₂
    exact p.suffix h₁

@[simp] theorem run_recognize (p : Parser α) (i : Bytes) :
    (recognize p).run i = (p.run i).map fun x => (x.1, i.take (i.length - x.1.length)) := by
  simp only [recognize]

/-- `map_parser(p, q)`: `q` run on the slice `p` produced; the input continues after `p`. -/
def mapParser (p : Parser Bytes) (q : Parser α) : Parser α where
  run i := (p.run i).bind fun x => (q.run x.2).map fun y => (x.1, y.2)
  suffix := by
    intro i r a h
    obtain ⟨⟨r₁, o⟩, h₁, h₂⟩ := Option.bind_eq_some.mp h
    obtain ⟨_, -, h₃⟩ := Option.map_eq_some'.mp h₂
    cases h₃
    exact p.suffix h₁

@[simp] theorem run_mapParser (p : Parser Bytes) (q : Parser α) (i : Bytes) :
    (mapParser p q).run i = (p.run i).bind fun x => (q.run x.2).map fun y => (x.1, y.2) := by
  simp only [mapParser]

/-- `pair(p, q)`. -/
def pair (p : Parser α) (q : Parser β) : Parser (α × β) := do
  let a ← p
  let b ← q
  pure (a, b)

/-- `preceded(p, q)`: `q`'s output. -/
def preceded (p : Parser α) (q : Parser β) : Parser β := do
  let _ ← p
  q

/-- `terminated(p, q)`: `p`'s output. -/
def terminated (p : Parser α) (q : Parser β) : Parser α := do
  let a ← p
  let _ ← q
  pure a

/-- `delimited(p, q, r)`: `q`'s output. -/
def delimited (p : Parser α) (q : Parser β) (r : Parser γ) : Parser β := do
  let _ ← p
  let b ← q
  let _ ← r
  pure b

/-! ### Successful runs, step by step -/

theorem run_bind_eq_some_iff {p : Parser α} {f : α → Parser β} {i r : Bytes} {b : β} :
    (p >>= f).run i = some (r, b) ↔ ∃ i₁ a, p.run i = some (i₁, a) ∧ (f a).run i₁ = some (r, b) := by
  simp only [run_bind, Option.bind_eq_some, Prod.exists]

theorem run_eq_none_iff {p : Parser α} {i : Bytes} :
    p.run i = none ↔ ∀ r a, p.run i ≠ some (r, a) := by
  simp only [Option.eq_none_iff_forall_not_mem, Option.mem_def, Prod.forall, ne_eq]

/-- A step `opt(p)`: either `p` read a prefix, or it failed and nothing was consumed. -/
theorem run_opt_bind_eq_some_iff {p : Parser α} {f : Option α → Parser β} {i r : Bytes} {b : β} :
    (opt p >>= f).run i = some (r, b) ↔
      (∃ j a, p.run i = some (j, a) ∧ (f (some a)).run j = some (r, b)) ∨
        (p.run i = none ∧ (f none).run i = some (r, b)) := by
  simp only [run_bind, run_opt]
  cases p.run i with
  | none => simp
  | some x =>
    obtain ⟨j, a⟩ := x
    simp only [Option.map_some', Option.getD_some, Option.some_bind, Option.some.injEq,
      Prod.mk.injEq, reduceCtorEq, false_and, or_false]
    exact ⟨fun h => ⟨j, a, ⟨rfl, rfl⟩, h⟩, by rintro ⟨_, _, ⟨rfl, rfl⟩, h⟩; exact h⟩

end Parser

/-! ### The steps a run takes on `Option`

Stated again with proofs that `simp` records, for the reason the `run` equations are: the
library proves them by `rfl`. -/

section OptionSteps

variable {α β : Type}

theorem some_or (a : α) (o : Option α) : (some a).or o = some a := by cases o <;> rfl

theorem none_or (o : Option α) : none.or o = o := by cases o <;> rfl

theorem some_map (a : α) (f : α → β) : (some a).map f = some (f a) := by simp

theorem none_map (f : α → β) : none.map f = none := by simp

theorem some_elim (a : α) (n : β) (s : α → β) : (some a).elim n s = s a := by simp

theorem none_elim (n : β) (s : α → β) : none.elim n s = n := by simp

theorem some_getD (a b : α) : (some a).getD b = a := by simp

theorem none_getD (b : α) : none.getD b = b := by simp

end OptionSteps

end NomSql
