import NomSql.Nom.Parser

/-!
# Nom — byte-level parsers

The leaves every grammar of `common.rs` is built from: `tag`, `tag_no_case`, `digit1`,
`line_ending` and `take_until` of nom, and the whitespace primitives of `crate::whitespace`,
which are not part of this core.

A grammar is run on text whose first bytes are known, `u ++ r` with `u` closed.  The lemmas
here decide each leaf on such input from `u` alone, so that `decide` settles their side
conditions:
* `run_tagBy_self`, `run_tagBy_of_incompatible`: a tag consumes exactly its own bytes, and
  fails on a prefix that disagrees with it;
* `run_digit1_append`, `run_whitespace0_append`: a run stops at the first byte outside it.

On any input, `run_tagBy_eq_some_iff`, `run_whitespace0_eq_some_iff` and
`run_takeUntil_eq_some_iff` say exactly what a leaf reads, for the grammars whose every input
is characterised.
-/

namespace NomSql

/-! ### Byte classes -/

/-- ASCII `0`–`9`, nom's `is_dec_digit`. -/
def isDigit (b : UInt8) : Bool := 48 ≤ b.toNat && b.toNat ≤ 57

/-- The bytes `crate::whitespace` skips. -/
def isSpace (b : UInt8) : Bool := b == 32 || b == 9 || b == 13 || b == 10

/-- An identifier character, `[A-Za-z0-9_]`. -/
def isIdentChar (b : UInt8) : Bool :=
  isDigit b || (65 ≤ b.toNat && b.toNat ≤ 90) || (97 ≤ b.toNat && b.toNat ≤ 122) || b == 95

/-- nom's `lowercase_byte`: ASCII capitals to small letters, every other byte unchanged. -/
def lowercaseByte (b : UInt8) : UInt8 := if 65 ≤ b.toNat ∧ b.toNat ≤ 90 then b + 32 else b

/-- `t` and the input agree through `norm` as far as both go. -/
def compatibleBy (norm : UInt8 → UInt8) : Bytes → Bytes → Bool
  | [], _ => true
  | _, [] => true
  | c :: cs, b :: bs => norm b == norm c && compatibleBy norm cs bs

/-- `t` is a prefix of the input, bytes compared through `norm`. -/
def prefixBy (norm : UInt8 → UInt8) : Bytes → Bytes → Bool
  | [], _ => true
  | _ :: _, [] => false
  | c :: cs, b :: bs => norm b == norm c && prefixBy norm cs bs

namespace Parser

/-! ### Tags -/

/-- A tag, the bytes compared through `norm`: the matched slice of the input is the output. -/
def tagBy (norm : UInt8 → UInt8) (t : String) : Parser Bytes where
  run i := if prefixBy norm (ascii t) i then
      some (i.drop (ascii t).length, i.take (ascii t).length) else none
  suffix := by
    intro i r a h
    dsimp only at h
    split at h
    · cases h; exact List.drop_suffix _ _
    · cases h

/-- `tag(t)`. -/
abbrev tag (t : String) : Parser Bytes := tagBy id t

/-- `tag_no_case(t)`, comparing as nom's `Compare::compare_no_case` for `&[u8]` does. -/
abbrev tagNoCase (t : String) : Parser Bytes := tagBy lowercaseByte t

/-- `digit1`: the longest run of digits at the front, failing when it is empty. -/
def digit1 : Parser Bytes where
  run i := if i.takeWhile isDigit = [] then none else some (i.dropWhile isDigit, i.takeWhile isDigit)
  suffix := by
    intro i r a h
    dsimp only at h
    split at h
    · cases h
    · cases h; exact (List.dropWhile_suffix isDigit)

/-- `whitespace0` of `crate::whitespace`, which is not part of this core: the spec lists the
whitespace-scanning primitives among its external collaborators, and their code is not here.
Taken to be the longest run of spaces, tabs, carriage returns and line feeds at the front of
the input, possibly empty. -/
def whitespace0 : Parser Bytes where
  run i := some (i.dropWhile isSpace, i.takeWhile isSpace)
  suffix := by intro i r a h; cases h; exact List.dropWhile_suffix isSpace

/-- `whitespace1` of `crate::whitespace`, taken to be the run `whitespace0` reads, failing
where that run is empty. -/
def whitespace1 : Parser Bytes where
  run i := if i.takeWhile isSpace = [] then none else some (i.dropWhile isSpace, i.takeWhile isSpace)
  suffix := by
    intro i r a h
    dsimp only at h
    split at h
    · cases h
    · cases h; exact List.dropWhile_suffix isSpace

/-- nom's complete `line_ending`: `\n`, or else `\r\n`. -/
def lineEnding : Parser Bytes := alt [tag "\n", tag "\r\n"]

theorem prefixBy_append_of_incompatible (norm : UInt8 → UInt8) :
    ∀ (t u r : Bytes), compatibleBy norm t u = false → prefixBy norm t (u ++ r) = false
  | [], _, _, h => by simp [compatibleBy] at h
  | _ :: _, [], _, h => by simp [compatibleBy] at h
  | c :: cs, b :: bs, r, h => by
    simp only [compatibleBy, Bool.and_eq_false_iff] at h
    simp only [List.cons_append, prefixBy, Bool.and_eq_false_iff]
    exact h.imp id (prefixBy_append_of_incompatible norm cs bs r)

theorem prefixBy_append (norm : UInt8 → UInt8) :
    ∀ (t u r : Bytes), prefixBy norm t u = true → prefixBy norm t (u ++ r) = true
  | [], _, _, _ => rfl
  | _ :: _, [], _, h => by simp [prefixBy] at h
  | c :: cs, b :: bs, r, h => by
    simp only [prefixBy, Bool.and_eq_true] at h
    simp only [List.cons_append, prefixBy, Bool.and_eq_true]
    exact ⟨h.1, prefixBy_append norm cs bs r h.2⟩

theorem run_tagBy_of_incompatible {norm : UInt8 → UInt8} {t : String} {u : Bytes} (r : Bytes)
    (h : compatibleBy norm (ascii t) u = false) : (tagBy norm t).run (u ++ r) = none := by
  simp [tagBy, prefixBy_append_of_incompatible _ _ _ _ h]

theorem run_tagBy_of_prefixBy {norm : UInt8 → UInt8} {t : String} {u : Bytes} (r : Bytes)
    (h : prefixBy norm (ascii t) u = true) (hl : (ascii t).length ≤ u.length) :
    (tagBy norm t).run (u ++ r) =
      some (u.drop (ascii t).length ++ r, u.take (ascii t).length) := by
  simp [tagBy, prefixBy_append _ _ _ _ h, List.drop_append_of_le_length hl,
    List.take_append_of_le_length hl]

/-- A known prefix that spells the whole tag is consumed, and is the output. -/
theorem run_tagBy_self {norm : UInt8 → UInt8} {t : String} {u : Bytes} (r : Bytes)
    (h : prefixBy norm (ascii t) u = true) (hl : u.length = (ascii t).length) :
    (tagBy norm t).run (u ++ r) = some (r, u) := by
  rw [run_tagBy_of_prefixBy r h hl.ge, ← hl, List.drop_length, List.take_length, List.nil_append]

/-- A prefix that agrees with the tag as far as it goes is decided by the next piece. -/
theorem run_tagBy_of_incompatible_append {norm : UInt8 → UInt8} {t : String} {u : Bytes}
    (v r : Bytes) (h : compatibleBy norm (ascii t) (u ++ v) = false) :
    (tagBy norm t).run (u ++ (v ++ r)) = none := by
  rw [← List.append_assoc]; exact run_tagBy_of_incompatible r h

/-- At the end of the input, a tag the rest does not spell fails. -/
theorem run_tagBy_append_nil {norm : UInt8 → UInt8} {t : String} {u : Bytes}
    (h : prefixBy norm (ascii t) u = false) : (tagBy norm t).run (u ++ []) = none := by
  simp [tagBy, h]

theorem run_tagBy_nil {norm : UInt8 → UInt8} {t : String} (h : ascii t ≠ []) :
    (tagBy norm t).run [] = none := by
  obtain ⟨c, cs, hc⟩ := List.exists_cons_of_ne_nil h
  simp [tagBy, hc, prefixBy]

theorem prefixBy_append_of_compatible (norm : UInt8 → UInt8) :
    ∀ (t u X : Bytes), compatibleBy norm t u = true → u.length ≤ t.length →
      prefixBy norm t (u ++ X) = prefixBy norm (t.drop u.length) X
  | _, [], _, _, _ => rfl
  | [], _ :: _, _, _, h => absurd h (by simp)
  | c :: cs, b :: bs, X, h, hl => by
    simp only [compatibleBy, Bool.and_eq_true] at h
    simp only [List.cons_append, prefixBy, h.1, Bool.true_and, List.length_cons, List.drop_succ_cons]
    exact prefixBy_append_of_compatible norm cs bs X h.2 (by simpa using hl)

/-- A known prefix that spells the start of the tag leaves the decision to the next byte. -/
theorem run_tagBy_append_of_compatible {norm : UInt8 → UInt8} {t : String} {u : Bytes}
    (X : Bytes) (h : compatibleBy norm (ascii t) u = true) (hl : u.length < (ascii t).length)
    (hX : ∀ b ∈ X.head?, ∀ c ∈ ((ascii t).drop u.length).head?, norm b ≠ norm c) :
    (tagBy norm t).run (u ++ X) = none := by
  have hp : prefixBy norm ((ascii t).drop u.length) X = false := by
    obtain ⟨c, cs, hc⟩ : ∃ c cs, (ascii t).drop u.length = c :: cs :=
      List.exists_cons_of_ne_nil (by simp; omega)
    rw [hc] at hX ⊢
    cases X with
    | nil => rfl
    | cons b bs => simp [prefixBy, hX b rfl c rfl]
  simp [tagBy, prefixBy_append_of_compatible _ _ _ _ h hl.le, hp]

theorem lowercaseByte_of_lt {b : UInt8} (h : b.toNat < 65) : lowercaseByte b = b :=
  if_neg (by omega)

theorem lowercaseByte_of_not_ident {b : UInt8} (h : isIdentChar b = false) : lowercaseByte b = b := by
  simp only [isIdentChar, Bool.or_eq_false_iff, Bool.and_eq_false_iff, decide_eq_false_iff_not] at h
  exact if_neg (by omega)

/-- A tag fails on input whose first byte is of a class `P` its own first byte is not of,
where `norm` leaves that class alone. -/
theorem run_tagBy_of_head {norm : UInt8 → UInt8} {t : String} {i : Bytes} (P : UInt8 → Bool)
    (hn : ∀ b, P b = true → norm b = b) (hi : ∀ b ∈ i.head?, P b = true)
    (ht : (ascii t).head?.any (fun c => !P (norm c)) = true) :
    (tagBy norm t).run i = none := by
  obtain ⟨c, cs, hc⟩ : ∃ c cs, ascii t = c :: cs := by cases h : ascii t <;> simp_all
  rw [hc] at ht
  cases i with
  | nil => simp [tagBy, hc, prefixBy]
  | cons b bs =>
    have hb := hi b rfl
    have hne : norm b ≠ norm c := fun h => by simp_all
    simp [tagBy, hc, prefixBy, hne]

/-- A tag that does not spell the start of `u` fails on `u ++ X` when `X` cannot continue it:
the tag's bytes are all of a class `P`, and `X` starts with a byte outside `P` that `norm`
keeps. -/
theorem prefixBy_append_of_not_prefixBy (norm : UInt8 → UInt8) (P : UInt8 → Bool) {X : Bytes}
    (hX : ∀ b ∈ X.head?, P b = false ∧ norm b = b) :
    ∀ (t u : Bytes), t.all (fun c => P (norm c)) = true → prefixBy norm t u = false →
      prefixBy norm t (u ++ X) = false
  | [], _, _, h => by simp [prefixBy] at h
  | c :: cs, [], ht, _ => by
    cases X with
    | nil => rfl
    | cons b bs =>
      obtain ⟨hb, hnb⟩ := hX b rfl
      have hc : P (norm c) = true := by simp_all
      have hne : norm b ≠ norm c := fun h => by rw [hnb] at h; simp [h, hc] at hb
      simp [prefixBy, hne]
  | c :: cs, b :: bs, ht, h => by
    simp only [List.all_cons, Bool.and_eq_true] at ht
    simp only [prefixBy, Bool.and_eq_false_iff] at h
    simp only [List.cons_append, prefixBy, Bool.and_eq_false_iff]
    exact h.imp id (prefixBy_append_of_not_prefixBy norm P hX cs bs ht.2)

theorem run_tagBy_of_not_prefixBy {norm : UInt8 → UInt8} {t : String} {u X : Bytes}
    (P : UInt8 → Bool) (hX : ∀ b ∈ X.head?, P b = false ∧ norm b = b)
    (ht : (ascii t).all (fun c => P (norm c)) = true) (h : prefixBy norm (ascii t) u = false) :
    (tagBy norm t).run (u ++ X) = none := by
  simp [tagBy, prefixBy_append_of_not_prefixBy norm P hX _ _ ht h]

/-- A keyword fails on `u ++ X` where it does not spell the start of `u` and `X` starts with
a byte that cannot continue a word. -/
theorem run_tagNoCase_of_not_prefixBy {t : String} {u X : Bytes}
    (hX : ∀ b ∈ X.head?, isIdentChar b = false)
    (ht : (ascii t).all (fun c => isIdentChar (lowercaseByte c)) = true)
    (h : prefixBy lowercaseByte (ascii t) u = false) : (tagNoCase t).run (u ++ X) = none :=
  run_tagBy_of_not_prefixBy isIdentChar
    (fun b hb => ⟨hX b hb, lowercaseByte_of_not_ident (hX b hb)⟩) ht h

theorem isSpace_of_isDigit {b : UInt8} (h : isDigit b = true) : isSpace b = false := by
  simp only [isDigit, Bool.and_eq_true, decide_eq_true_eq] at h
  simp only [isSpace, Bool.or_eq_false_iff, beq_eq_false_iff_ne]
  refine ⟨⟨⟨?_, ?_⟩, ?_⟩, ?_⟩ <;> rintro rfl <;> exact absurd h (by decide)

theorem isDigit_of_isSpace {b : UInt8} (h : isSpace b = true) : isDigit b = false := by
  cases hd : isDigit b
  · rfl
  · simp [isSpace_of_isDigit hd] at h

/-- The first byte of `u ++ r` is `u`'s, when `u` has one. -/
theorem head?_append_of_head {p : UInt8 → Bool} {u : Bytes} (r : Bytes)
    (h : u.head?.map p = some false) : ∀ b ∈ (u ++ r).head?, p b = false := by
  obtain ⟨c, cs, rfl⟩ : ∃ c cs, u = c :: cs := by cases u <;> simp_all
  simpa using h

/-! ### Runs of digits and spaces on a known prefix -/

/-- What `digit1` reads is the whole run of digits at the front of its input. -/
theorem run_digit1_eq_some {i r ds : Bytes} (h : digit1.run i = some (r, ds)) :
    ds ≠ [] ∧ (∀ b ∈ ds, isDigit b = true) ∧ i = ds ++ r ∧ ∀ b ∈ r.head?, isDigit b = false := by
  simp only [digit1] at h
  split at h
  · cases h
  · obtain ⟨rfl, rfl⟩ := Prod.mk.inj (Option.some.inj h)
    refine ⟨‹_›, fun b hb => List.mem_takeWhile_imp hb, (List.takeWhile_append_dropWhile _ _).symm,
      fun b hb => ?_⟩
    have := List.head?_dropWhile_not isDigit i
    rw [Option.mem_def.mp hb] at this
    exact this

theorem run_digit1_of_not_digit {u : Bytes} (r : Bytes) (h : u.head?.map isDigit = some false) :
    digit1.run (u ++ r) = none := by
  obtain ⟨b, bs, rfl⟩ : ∃ b bs, u = b :: bs := by cases u <;> simp_all
  simp_all [digit1, List.takeWhile_cons]

theorem takeWhile_append_of_stop {p : UInt8 → Bool} {ds r : Bytes} (hd : ∀ b ∈ ds, p b = true)
    (hr : ∀ b ∈ r.head?, p b = false) : (ds ++ r).takeWhile p = ds := by
  rw [List.takeWhile_append_of_pos hd]
  cases r with
  | nil => simp
  | cons b bs => simp_all [List.takeWhile_cons]

theorem dropWhile_append_of_stop {p : UInt8 → Bool} {ds r : Bytes} (hd : ∀ b ∈ ds, p b = true)
    (hr : ∀ b ∈ r.head?, p b = false) : (ds ++ r).dropWhile p = r := by
  rw [List.dropWhile_append_of_pos hd]
  cases r with
  | nil => rfl
  | cons b bs => simp_all [List.dropWhile_cons]

/-- `digit1` takes a nonempty run of digits up to a byte that is not one. -/
theorem run_digit1_append {ds r : Bytes} (hne : ds ≠ []) (hd : ∀ b ∈ ds, isDigit b = true)
    (hr : ∀ b ∈ r.head?, isDigit b = false) : digit1.run (ds ++ r) = some (r, ds) := by
  simp only [digit1, takeWhile_append_of_stop hd hr, dropWhile_append_of_stop hd hr, if_neg hne]

/-- `digit1` stops at a known byte that is not a digit. -/
theorem run_digit1_append_stop {ds : Bytes} (hne : ds ≠ []) (hd : ∀ b ∈ ds, isDigit b = true)
    {v : Bytes} (r : Bytes) (hv : v.head?.map isDigit = some false) :
    digit1.run (ds ++ (v ++ r)) = some (v ++ r, ds) :=
  run_digit1_append hne hd (head?_append_of_head r hv)

theorem run_whitespace0_of_not_space {u : Bytes} (r : Bytes)
    (h : u.head?.map isSpace = some false) : whitespace0.run (u ++ r) = some (u ++ r, []) := by
  obtain ⟨b, bs, rfl⟩ : ∃ b bs, u = b :: bs := by cases u <;> simp_all
  simp_all [whitespace0, List.takeWhile_cons, List.dropWhile_cons]

@[simp] theorem run_whitespace0_nil : whitespace0.run [] = some ([], []) := rfl

/-- `whitespace0` takes a run of spaces up to a byte that is not one. -/
theorem run_whitespace0_append {u r : Bytes} (hu : ∀ b ∈ u, isSpace b = true)
    (hr : ∀ b ∈ r.head?, isSpace b = false) : whitespace0.run (u ++ r) = some (r, u) := by
  simp only [whitespace0, takeWhile_append_of_stop hu hr, dropWhile_append_of_stop hu hr]

/-- `whitespace0` stops at a known byte that is not a space. -/
theorem run_whitespace0_append_stop {u : Bytes} (hu : ∀ b ∈ u, isSpace b = true) {v : Bytes}
    (r : Bytes) (hv : v.head?.map isSpace = some false) :
    whitespace0.run (u ++ (v ++ r)) = some (v ++ r, u) :=
  run_whitespace0_append hu (head?_append_of_head r hv)

theorem run_whitespace0_spaces {u : Bytes} (v r : Bytes) (hu : u.all isSpace = true)
    (hv : v.head?.map isSpace = some false) : whitespace0.run (u ++ (v ++ r)) = some (v ++ r, u) := by
  obtain ⟨b, bs, rfl⟩ : ∃ b bs, v = b :: bs := by cases v <;> simp_all
  exact run_whitespace0_append (by simpa using hu) (by simp_all)

theorem run_whitespace1_eq {i : Bytes} (h : i.takeWhile isSpace ≠ []) :
    whitespace1.run i = whitespace0.run i := by
  simp only [whitespace1, whitespace0, if_neg h]

theorem run_whitespace1_of_not_space {u : Bytes} (r : Bytes)
    (h : u.head?.map isSpace = some false) : whitespace1.run (u ++ r) = none := by
  obtain ⟨b, bs, rfl⟩ : ∃ b bs, u = b :: bs := by cases u <;> simp_all
  simp_all [whitespace1, List.takeWhile_cons]

@[simp] theorem run_whitespace1_nil : whitespace1.run [] = none := rfl

theorem run_whitespace1_spaces {u : Bytes} (v r : Bytes) (hu : u.all isSpace = true)
    (hne : u ≠ []) (hv : v.head?.map isSpace = some false) :
    whitespace1.run (u ++ (v ++ r)) = some (v ++ r, u) := by
  have h := run_whitespace0_spaces v r hu hv
  obtain ⟨b, bs, rfl⟩ := List.exists_cons_of_ne_nil hne
  have hb : isSpace b = true := by simp_all
  rw [run_whitespace1_eq (by simp [List.takeWhile_cons, hb]), h]

/-! ### What a leaf reads, on any input

Each leaf's successful runs, in both directions: the input is what the leaf read followed by
the rest, and the leaf is maximal where it scans a run. -/

/-- `i` starts with bytes that `norm` sends to `t`'s. -/
theorem prefixBy_eq_true_iff (norm : UInt8 → UInt8) :
    ∀ (t i : Bytes), prefixBy norm t i = true ↔ ∃ m r, i = m ++ r ∧ m.map norm = t.map norm
  | [], i => by simp [prefixBy]
  | c :: cs, [] => by simp [prefixBy]
  | c :: cs, b :: bs => by
    simp only [prefixBy, Bool.and_eq_true, beq_iff_eq, prefixBy_eq_true_iff norm cs bs]
    constructor
    · rintro ⟨h, m, r, rfl, hm⟩
      exact ⟨b :: m, r, rfl, by simp [h, hm]⟩
    · rintro ⟨_ | ⟨b', m⟩, r, h, hm⟩
      · simp at hm
      · simp only [List.cons_append, List.cons.injEq, List.map_cons] at h hm
        obtain ⟨rfl, rfl⟩ := h
        exact ⟨hm.1, m, r, rfl, hm.2⟩

/-- A tag reads exactly a prefix that `norm` sends to the tag's own bytes. -/
theorem run_tagBy_eq_some_iff {norm : UInt8 → UInt8} {t : String} {i r m : Bytes} :
    (tagBy norm t).run i = some (r, m) ↔ i = m ++ r ∧ m.map norm = (ascii t).map norm := by
  simp only [tagBy]
  constructor
  · intro h
    split at h
    · rename_i hp
      obtain ⟨rfl, rfl⟩ := Prod.mk.inj (Option.some.inj h)
      obtain ⟨m', r', rfl, hm⟩ := (prefixBy_eq_true_iff norm _ _).mp hp
      have hl : m'.length = (ascii t).length := by simpa using congrArg List.length hm
      rw [← hl, List.take_left, List.drop_left]
      exact ⟨rfl, hm⟩
    · cases h
  · rintro ⟨rfl, hm⟩
    have hl : m.length = (ascii t).length := by simpa using congrArg List.length hm
    rw [if_pos ((prefixBy_eq_true_iff norm _ _).mpr ⟨m, r, rfl, hm⟩), ← hl, List.take_left,
      List.drop_left]

/-- A one-byte tag reads exactly that byte. -/
theorem run_tag_single_eq_some_iff {t : String} {c : UInt8} (ht : ascii t = [c]) {i r q : Bytes} :
    (tag t).run i = some (r, q) ↔ q = [c] ∧ i = c :: r := by
  rw [run_tagBy_eq_some_iff, List.map_id, List.map_id, ht]
  constructor
  · rintro ⟨rfl, rfl⟩
    exact ⟨rfl, rfl⟩
  · rintro ⟨rfl, rfl⟩
    exact ⟨rfl, rfl⟩

theorem run_whitespace0 (i : Bytes) :
    whitespace0.run i = some (i.dropWhile isSpace, i.takeWhile isSpace) := by
  simp only [whitespace0]

/-- `whitespace0` reads exactly the whole run of spaces at the front. -/
theorem run_whitespace0_eq_some_iff {i r w : Bytes} :
    whitespace0.run i = some (r, w) ↔
      i = w ++ r ∧ (∀ b ∈ w, isSpace b = true) ∧ ∀ b ∈ r.head?, isSpace b = false := by
  constructor
  · intro h
    obtain ⟨rfl, rfl⟩ := Prod.mk.inj (Option.some.inj h)
    refine ⟨(List.takeWhile_append_dropWhile _ _).symm, fun b hb => List.mem_takeWhile_imp hb,
      fun b hb => ?_⟩
    have := List.head?_dropWhile_not isSpace i
    rwa [Option.mem_def.mp hb] at this
  · rintro ⟨rfl, hw, hr⟩
    exact run_whitespace0_append hw hr

theorem lowercaseByte_of_isSpace {b : UInt8} (h : isSpace b = true) : lowercaseByte b = b :=
  lowercaseByte_of_lt (by
    simp only [isSpace, Bool.or_eq_true, beq_iff_eq] at h
    rcases h with ((h | h) | h) | h <;> subst h <;> decide)

/-- A line ending opens with a space, so it fails where the next byte is not one. -/
theorem run_lineEnding_of_not_space {i : Bytes} (hi : ∀ b ∈ i.head?, isSpace b = false) :
    lineEnding.run i = none := by
  have hP : ∀ b ∈ i.head?, (!isSpace b) = true := fun b hb => by simp [hi b hb]
  have hlf : (tag "\n").run i = none := run_tagBy_of_head _ (fun _ _ => rfl) hP (by decide)
  have hcrlf : (tag "\r\n").run i = none := run_tagBy_of_head _ (fun _ _ => rfl) hP (by decide)
  simp only [lineEnding, alt_cons, alt_nil, run_orElse, run_fail, hlf, hcrlf, none_or]

end Parser

end NomSql
