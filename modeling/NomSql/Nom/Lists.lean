import NomSql.Nom.Bytes

/-!
# Nom — separated lists

`separated_list0(sep, f)` and `separated_list1(sep, f)`: one element, then separator and
element as long as both succeed.  After a separator the loop checks that it consumed
something (nom's infinite-loop check, an error if not), and returns the input from before
a separator whose element fails.  Since a parser's rest is a suffix of its input, that check
makes every round shorten the input, which is what `sepLoop` recurses on.

* `sepLoop_of_sep_none`, `sepLoop_of_elem_none`, `sepLoop_of_elem_some`: one round.
-/

namespace NomSql

namespace Parser

variable {α β : Type}

/-- The rounds of a separated list after its first element, `res` the elements so far. -/
def sepLoop (sep : Parser β) (f : Parser α) (i : Bytes) (res : List α) : Option (Bytes × List α) :=
  match hs : sep.run i with
  | none => some (i, res)
  | some (i₁, _) =>
    if h₁ : i₁.length = i.length then none
    else
      match hf : f.run i₁ with
      | none => some (i, res)
      | some (i₂, o) =>
        have : i₂.length < i.length := by
          have := (f.suffix hf).length_le; have := (sep.suffix hs).length_le; omega
        sepLoop sep f i₂ (res ++ [o])
termination_by i.length

theorem sepLoop_of_sep_none {sep : Parser β} {f : Parser α} {i : Bytes} (res : List α)
    (h : sep.run i = none) : sepLoop sep f i res = some (i, res) := by
  rw [sepLoop]; split <;> simp_all

theorem sepLoop_of_elem_none {sep : Parser β} {f : Parser α} {i i₁ : Bytes} {s : β}
    (res : List α) (hs : sep.run i = some (i₁, s)) (hl : i₁.length ≠ i.length)
    (hf : f.run i₁ = none) : sepLoop sep f i res = some (i, res) := by
  rw [sepLoop]; split
  · simp_all
  · obtain ⟨rfl, rfl⟩ : _ ∧ _ := Prod.mk.inj (Option.some.inj (hs.symm.trans ‹_›))
    rw [dif_neg hl]; split <;> simp_all

theorem sepLoop_of_elem_some {sep : Parser β} {f : Parser α} {i i₁ i₂ : Bytes} {s : β} {o : α}
    (res : List α) (hs : sep.run i = some (i₁, s)) (hl : i₁.length ≠ i.length)
    (hf : f.run i₁ = some (i₂, o)) :
    sepLoop sep f i res = sepLoop sep f i₂ (res ++ [o]) := by
  rw [sepLoop]; split
  · simp_all
  · obtain ⟨rfl, rfl⟩ : _ ∧ _ := Prod.mk.inj (Option.some.inj (hs.symm.trans ‹_›))
    rw [dif_neg hl]; split <;> simp_all

theorem sepLoop_suffix (sep : Parser β) (f : Parser α) :
    ∀ (i : Bytes) (res : List α) {r : Bytes} {out : List α},
      sepLoop sep f i res = some (r, out) → r <:+ i := by
  intro i
  induction i using (measure List.length).wf.induction with
  | h i ih =>
    intro res r out h
    rw [sepLoop] at h
    split at h
    · cases h; exact List.suffix_refl i
    · rename_i i₁ s hs
      split at h
      · cases h
      · split at h
        · cases h; exact List.suffix_refl i
        · rename_i i₂ o hf
          have h₁ := (f.suffix hf).trans (sep.suffix hs)
          have hlt : i₂.length < i.length := by
            have := h₁.length_le; have := (sep.suffix hs).length_le
            have := (f.suffix hf).length_le; omega
          exact (ih i₂ hlt _ h).trans h₁

/-- `separated_list0(sep, f)`. -/
def separatedList0 (sep : Parser β) (f : Parser α) : Parser (List α) where
  run i := match f.run i with
    | none => some (i, [])
    | some (i₁, o) => sepLoop sep f i₁ [o]
  suffix := by
    intro i r out h
    dsimp only at h
    split at h
    · cases h; exact List.suffix_refl i
    · rename_i i₁ o hf
      exact (sepLoop_suffix sep f _ _ h).trans (f.suffix hf)

/-- `separated_list1(sep, f)`: as `separated_list0`, but failing when the first element does. -/
def separatedList1 (sep : Parser β) (f : Parser α) : Parser (List α) where
  run i := match f.run i with
    | none => none
    | some (i₁, o) => sepLoop sep f i₁ [o]
  suffix := by
    intro i r out h
    dsimp only at h
    split at h
    · cases h
    · rename_i i₁ o hf
      exact (sepLoop_suffix sep f _ _ h).trans (f.suffix hf)

end Parser

end NomSql
