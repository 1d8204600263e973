/-!
# Splitting

`splitWhere p` cuts a list at every item where `p` holds and drops those items. There is one part
more than there are cuts, so the parts are never none, and each part holds other items of the list
alone (`mem_of_mem_splitWhere`). Joining the parts gives the list back (`intercalate_splitWhere`), and
cutting joined parts gives the parts back (`splitWhere_intercalate`).
-/

namespace Herald.Text

/-- The parts of a list between the items where `p` holds. -/
def splitWhere (p : α → Bool) : List α → List (List α)
  | [] => [[]]
  | a :: rest =>
    if p a then [] :: splitWhere p rest
    else
      match splitWhere p rest with
      | [] => [[a]]
      | part :: parts => (a :: part) :: parts

theorem splitWhere_ne_nil (p : α → Bool) (l : List α) : splitWhere p l ≠ [] := by
  cases l with
  | nil => simp [splitWhere]
  | cons a l =>
    simp only [splitWhere]
    split
    · simp
    · split <;> simp

/-- The parts hold what is left without the items where the list is cut. -/
theorem flatten_splitWhere (p : α → Bool) (l : List α) :
    (splitWhere p l).flatten = l.filter fun a => !p a := by
  induction l with
  | nil => rfl
  | cons a l ih =>
    simp only [splitWhere]
    split
    · next ha => simp [ha, ih]
    · next ha =>
      rw [List.filter_cons_of_pos (by simpa using ha), ← ih]
      cases hparts : splitWhere p l with
      | nil => exact absurd hparts (splitWhere_ne_nil p l)
      | cons part parts => rfl

/-- What is in a part is in the list, and none of the items where that is cut. -/
theorem mem_of_mem_splitWhere {p : α → Bool} {l part : List α} (h : part ∈ splitWhere p l) {a : α}
    (ha : a ∈ part) : a ∈ l ∧ p a = false := by
  have hflat : a ∈ (splitWhere p l).flatten := List.mem_flatten.mpr ⟨part, h, ha⟩
  rw [flatten_splitWhere, List.mem_filter] at hflat
  simpa using hflat

/-- Joining the parts gives the list back. -/
theorem intercalate_splitWhere [DecidableEq α] (a : α) (l : List α) :
    [a].intercalate (splitWhere (· = a) l) = l := by
  induction l with
  | nil => rfl
  | cons b l ih =>
    have hne := splitWhere_ne_nil (· = a) l
    simp only [splitWhere]
    cases hs : splitWhere (· = a) l with
    | nil => exact absurd hs hne
    | cons part parts =>
      rw [hs] at ih
      by_cases hb : b = a
      · subst hb
        simp [List.intercalate] at ih ⊢
        exact ih
      · simp only [hb, decide_false, Bool.false_eq_true, if_false]
        cases parts <;> simp_all [List.intercalate]

theorem splitWhere_of_not_mem {p : α → Bool} {l : List α} (h : ∀ a ∈ l, p a = false) :
    splitWhere p l = [l] := by
  induction l with
  | nil => rfl
  | cons a l ih =>
    have ha : p a = false := h a List.mem_cons_self
    have hl := ih fun b hb => h b (List.mem_cons_of_mem a hb)
    simp [splitWhere, ha, hl]

/-- The parts in front of an item where the list is cut, and those behind it. -/
theorem splitWhere_append {p : α → Bool} {a : α} (ha : p a = true) (front rest : List α) :
    splitWhere p (front ++ a :: rest) = splitWhere p front ++ splitWhere p rest := by
  induction front with
  | nil => simp [splitWhere, ha]
  | cons b front ih =>
    rw [List.cons_append, splitWhere, splitWhere, ih]
    split
    · rfl
    · cases hparts : splitWhere p front with
      | nil => exact absurd hparts (splitWhere_ne_nil p front)
      | cons part parts => rfl

theorem splitWhere_append_cons {p : α → Bool} {part rest : List α} {a : α}
    (h : ∀ b ∈ part, p b = false) (ha : p a = true) :
    splitWhere p (part ++ a :: rest) = part :: splitWhere p rest := by
  rw [splitWhere_append ha, splitWhere_of_not_mem h, List.singleton_append]

/-- Cutting joined parts gives the parts back. -/
theorem splitWhere_intercalate [DecidableEq α] {a : α} {parts : List (List α)}
    (hne : parts ≠ []) (h : ∀ part ∈ parts, a ∉ part) :
    splitWhere (· = a) ([a].intercalate parts) = parts := by
  induction parts with
  | nil => exact absurd rfl hne
  | cons part rest ih =>
    have hpart : ∀ b ∈ part, decide (b = a) = false := by
      intro b hb
      have hba : b ≠ a := fun e => h part List.mem_cons_self (e ▸ hb)
      exact decide_eq_false hba
    cases rest with
    | nil =>
      have hone : [a].intercalate [part] = part := by simp [List.intercalate]
      rw [hone]
      exact splitWhere_of_not_mem hpart
    | cons next rest =>
      have hrest := ih (List.cons_ne_nil _ _) fun q hq => h q (List.mem_cons_of_mem part hq)
      have hcons : [a].intercalate (part :: next :: rest) =
          part ++ a :: [a].intercalate (next :: rest) := by simp [List.intercalate]
      rw [hcons, splitWhere_append_cons hpart (decide_eq_true rfl), hrest]

end Herald.Text
