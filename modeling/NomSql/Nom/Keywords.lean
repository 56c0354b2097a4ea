import NomSql.Nom.Bytes

/-!
# Nom — alternatives that open with a keyword

Most alternatives of a grammar begin with `tag_no_case` of a keyword.  `Opens p kws` says so
of `p`: where none of the keywords `kws` can be read, `p` fails.  The property goes through
`>>=`, `map` and `alt`, so a whole alternation opens with the keywords of its alternatives,
and on a word none of them spells the start of (`Opens.run_append`) it fails at once: one
decision about the keywords instead of a run of every alternative.

`KeywordBetweenSpaces k i j`: `i` is the keyword `k`, in any case, with whitespace on both
sides, then `j`; `run_keyword_between_spaces` reads the `whitespace0`, `tag_no_case(k)`,
`whitespace0` steps of a grammar as that.
-/

namespace NomSql

namespace Parser

variable {α β : Type}

/-- `p` begins by reading one of the keywords `kws`, in any case: where none of them can be
read, `p` fails. -/
def Opens (p : Parser α) (kws : List String) : Prop :=
  ∀ i, (∀ o ∈ kws, (tagNoCase o).run i = none) → p.run i = none

namespace Opens

variable {p q : Parser α} {kws k₁ k₂ : List String}

theorem of_tagNoCase (o : String) : Opens (tagNoCase o) [o] :=
  fun _ h => h o (List.mem_singleton_self o)

theorem bind (hp : Opens p kws) (f : α → Parser β) : Opens (p >>= f) kws :=
  fun i h => by simp [hp i h]

theorem map (hp : Opens p kws) (f : α → β) : Opens (p.map f) kws :=
  fun i h => by simp [hp i h]

theorem orElse (hp : Opens p k₁) (hq : Opens q k₂) : Opens (orElse p q) (k₁ ++ k₂) :=
  fun i h => by
    simp [hp i fun o ho => h o (List.mem_append_left _ ho),
      hq i fun o ho => h o (List.mem_append_right _ ho)]

theorem of_fail : Opens (fail : Parser α) [] := fun _ _ => rfl

/-- On a word that none of the keywords spells the start of, followed by a byte that cannot
continue a word, an alternative that opens with them fails. -/
theorem run_append (hp : Opens p kws)
    (hk : ∀ o ∈ kws, (ascii o).all (fun c => isIdentChar (lowercaseByte c)) = true) {u X : Bytes}
    (hX : ∀ b ∈ X.head?, isIdentChar b = false)
    (h : ∀ o ∈ kws, prefixBy lowercaseByte (ascii o) u = false) : p.run (u ++ X) = none :=
  hp _ fun o ho => run_tagNoCase_of_not_prefixBy hX (hk o ho) (h o ho)

end Opens

theorem compatibleBy_eq_map (norm : UInt8 → UInt8) : ∀ t u : Bytes,
    compatibleBy norm t u = compatibleBy id (t.map norm) (u.map norm)
  | [], _ => by simp [compatibleBy]
  | _ :: _, [] => by simp [compatibleBy]
  | c :: cs, b :: bs => by simp [compatibleBy, compatibleBy_eq_map norm cs bs]

/-- A keyword fails on a word spelling another one, in any case, where the two disagree
within the shorter of them. -/
theorem run_tagNoCase_of_spelled {k o : String} {u : Bytes} (hu : u.map lowercaseByte = ascii k)
    (h : compatibleBy id ((ascii o).map lowercaseByte) (ascii k) = false) (X : Bytes) :
    (tagNoCase o).run (u ++ X) = none :=
  run_tagBy_of_incompatible X (by rw [compatibleBy_eq_map, hu]; exact h)

/-! ### Alternatives keyed by their keywords -/

theorem run_alt_append_of_fail {ps : List (Parser α)} (q : Parser α) {i : Bytes}
    (h : ∀ p ∈ ps, p.run i = none) : (alt (ps ++ [q])).run i = q.run i := by
  induction ps with
  | nil => simp only [List.nil_append, alt_cons, alt_nil, run_orElse, run_fail, Option.or_none]
  | cons p ps ih =>
    simp only [List.cons_append, alt_cons, run_orElse, h p (List.mem_cons_self _ _), none_or]
    exact ih fun p' hp => h p' (List.mem_cons_of_mem _ hp)

/-- In an alternation of forms that each open with their own keyword, then a last
alternative `q`, on input that no other form's keyword can read, the form of `k` decides,
and where it fails only `q` is left. -/
theorem run_alt_keyed {ps : List (String × Parser α)} (hps : ∀ kp ∈ ps, Opens kp.2 [kp.1])
    (hnd : (ps.map Prod.fst).Nodup) (q : Parser α) {i : Bytes} {k : String} {p : Parser α}
    (hk : (k, p) ∈ ps) (hi : ∀ o ∈ ps.map Prod.fst, o ≠ k → (tagNoCase o).run i = none) :
    (alt (ps.map Prod.snd ++ [q])).run i = (p.run i).or (q.run i) := by
  have hfail : ∀ kp ∈ ps, kp.1 ≠ k → kp.2.run i = none := fun kp h hne =>
    hps kp h i fun o ho => by
      rw [List.mem_singleton.mp ho]
      exact hi _ (List.mem_map_of_mem _ h) hne
  induction ps with
  | nil => cases hk
  | cons kp ps ih =>
    rw [List.map_cons, List.nodup_cons] at hnd
    simp only [List.map_cons, List.cons_append, alt_cons, run_orElse]
    rcases List.mem_cons.mp hk with rfl | h
    · rw [run_alt_append_of_fail q fun p' hp' => ?_]
      obtain ⟨kp', hkp', rfl⟩ := List.mem_map.mp hp'
      exact hfail kp' (List.mem_cons_of_mem _ hkp') fun e =>
        hnd.1 (e ▸ List.mem_map.mpr ⟨kp', hkp', rfl⟩)
    · have hne : kp.1 ≠ k := fun e => hnd.1 (by rw [e]; exact List.mem_map.mpr ⟨(k, p), h, rfl⟩)
      rw [hfail kp (List.mem_cons_self _ _) hne, none_or]
      exact ih (fun kp h => hps kp (List.mem_cons_of_mem _ h)) hnd.2 h
        (fun o ho => hi o (List.mem_cons_of_mem _ ho)) fun kp h => hfail kp (List.mem_cons_of_mem _ h)

/-! ### A keyword between whitespace -/

/-- What `tag_no_case` matched does not open with a space, when the tag itself does not. -/
theorem head_not_space_of_lowercase {k : String} (hk : ∀ c ∈ (ascii k).head?, isSpace c = false) :
    ∀ {u : Bytes}, u.map lowercaseByte = ascii k → ∀ b ∈ u.head?, isSpace b = false
  | [], _ => by simp
  | c :: cs, hu => by
    intro b hb
    obtain rfl : c = b := Option.some.inj hb
    have hc := hk (lowercaseByte c) (by rw [← hu]; rfl)
    cases h : isSpace c
    · rfl
    · rwa [lowercaseByte_of_isSpace h, h] at hc

/-- `i` is the keyword `k`, in any case, with whitespace, possibly none, on both sides; `j`
follows. -/
def KeywordBetweenSpaces (k : String) (i j : Bytes) : Prop :=
  ∃ w u w', i = w ++ u ++ w' ++ j ∧ (∀ b ∈ w, isSpace b = true) ∧
    u.map lowercaseByte = (ascii k).map lowercaseByte ∧ (∀ b ∈ w', isSpace b = true) ∧
    ∀ b ∈ j.head?, isSpace b = false

theorem run_keyword_between_spaces {k : String} (hk : (ascii k).map lowercaseByte = ascii k)
    (hs : ∀ c ∈ (ascii k).head?, isSpace c = false) (hne : ascii k ≠ []) {i j : Bytes} :
    (∃ u, (delimited whitespace0 (tagNoCase k) whitespace0).run i = some (j, u)) ↔
      KeywordBetweenSpaces k i j := by
  simp only [delimited, run_bind_eq_some_iff, run_pure, Option.some.injEq, Prod.mk.injEq,
    run_whitespace0_eq_some_iff, run_tagBy_eq_some_iff, KeywordBetweenSpaces, hk]
  constructor
  · rintro ⟨u, i₁, w, ⟨rfl, hw, -⟩, i₂, u, ⟨rfl, hu⟩, i₃, w', ⟨rfl, hw', hj⟩, rfl, rfl⟩
    exact ⟨w, u, w', by simp, hw, hu, hw', hj⟩
  · rintro ⟨w, u, w', rfl, hw, hu, hw', hj⟩
    obtain ⟨c, cs, rfl⟩ : ∃ c cs, u = c :: cs := by
      cases u with
      | nil => exact absurd hu.symm (by simpa using hne)
      | cons c cs => exact ⟨c, cs, rfl⟩
    have hc : ∀ b ∈ (c :: cs).head?, isSpace b = false := head_not_space_of_lowercase hs hu
    exact ⟨c :: cs, c :: cs ++ (w' ++ j), w, ⟨by simp, hw, hc⟩,
      w' ++ j, c :: cs, ⟨rfl, hu⟩, j, w', ⟨rfl, hw', hj⟩, rfl, rfl⟩

end Parser

end NomSql
