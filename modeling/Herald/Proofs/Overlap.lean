import Herald.Proofs.Conduct

/-!
# Look-ups at once

Two look-ups that are made at once are begun one after the other, and then both of them are under
way. Their answers come in any order, or one of them is there before the other look-up is begun.

* `told`: what the exchanges of a job tell of its look-ups, in the order in which it comes.
* `Attempt.Comes`: what two look-ups at once come to by what is told of them.
* `Attempt.course_overlap`: so it is on all their courses, and both are begun before either is
  waited for.
-/

namespace Herald

/-- Work that has failed. -/
def Failed (x : Except Failure α) : Prop :=
  ∃ f, x = .error f

@[simp] theorem failed_error (f : Failure) : Failed (.error f : Except Failure α) := ⟨f, rfl⟩

@[simp] theorem not_failed_ok (a : α) : ¬ Failed (.ok a : Except Failure α) := nofun

/-! ## What is told of look-ups -/

/-- A query that waits for what has been begun before. -/
def Query.isWait : Query → Bool
  | .await _ => true
  | .race _ _ => true
  | _ => false

/-- A look-up and what it has come to. -/
abbrev Finding := (l : LookUp) × l.Answer

/-- The look-up that an exchange tells of. -/
def Exchange.told? : Exchange → Option Finding
  | ⟨.channel id, found⟩ => some ⟨.channel id, found⟩
  | ⟨.user id, found⟩ => some ⟨.user id, found⟩
  | ⟨.start l, soon⟩ => soon.map (⟨l, ·⟩)
  | ⟨.await l, found⟩ => some ⟨l, found⟩
  | ⟨.race l _, .inl found⟩ => some ⟨l, found⟩
  | ⟨.race _ r, .inr found⟩ => some ⟨r, found⟩
  | _ => none

/-- What is told of look-ups, in its order. -/
def told (xs : List Exchange) : List Finding :=
  xs.filterMap Exchange.told?

theorem eq_error_of_map {g : α → β} {x : Except Failure α} {f : Failure}
    (h : .error f = g <$> x) : x = .error f := by
  cases x with
  | error e =>
    cases h
    rfl
  | ok a => cases h

theorem exists_of_map {g : α → β} {x : Except Failure α} {b : β} (h : .ok b = g <$> x) :
    ∃ a, x = .ok a ∧ b = g a := by
  cases x with
  | error e => cases h
  | ok a =>
    cases h
    exact ⟨a, rfl, rfl⟩

namespace Attempt

section

variable {F : LookUp → Type} (take : (l : LookUp) → l.Answer → Except Failure (F l))
  {l r : LookUp} {xs : List Exchange}

/-- What two look-ups at once come to by what is told of them: nothing is told behind a failure, and
without one both are told of. -/
inductive Comes (l r : LookUp) : List Finding → Except Failure (F l × F r) → Prop where
  | both {found : l.Answer} {found' : r.Answer} {a : F l} {b : F r} {findings : List Finding}
      (hl : take l found = .ok a) (hr : take r found' = .ok b)
      (h : findings.Perm [⟨l, found⟩, ⟨r, found'⟩]) : Comes l r findings (.ok (a, b))
  | failed {front : List Finding} {last : Finding} {f : Failure}
      (hmem : ∀ x ∈ front ++ [last], x.1 = l ∨ x.1 = r)
      (hfront : ∀ x ∈ front, ¬ Failed (take x.1 x.2)) (hlast : take last.1 last.2 = .error f) :
      Comes l r (front ++ [last]) (.error f)

/-- The way of two look-ups at once. -/
structure Overlapped (l r : LookUp) (xs : List Exchange) (made : Except Failure (F l × F r)) :
    Prop where
  comes : Comes take l r (told xs) made
  /-- Both are begun before either is waited for, unless the first one fails at once. -/
  order : (∃ found, xs = [⟨.start l, some found⟩] ∧ Failed (take l found)) ∨
    ∃ soon soon' waits, xs = ⟨.start l, soon⟩ :: ⟨.start r, soon'⟩ :: waits ∧
      (∀ found, soon = some found → ¬ Failed (take l found)) ∧
      ∀ x ∈ waits, x.1.isWait = true

variable {take}

/-! ## The courses of two look-ups at once -/

theorem course_start {made : Except Failure (Option (F l))}
    (h : (start take l).run.Course xs (.done made)) :
    (xs = [⟨.start l, none⟩] ∧ made = .ok none) ∨
      ∃ found, xs = [⟨.start l, some found⟩] ∧ made = some <$> take l found := by
  obtain ⟨soon, rfl, rfl⟩ := course_query (q := .start l) h
  cases soon with
  | none => exact .inl ⟨rfl, rfl⟩
  | some found => exact .inr ⟨found, rfl, rfl⟩

theorem course_race {made : Except Failure (F l ⊕ F r)}
    (h : (race take l r).run.Course xs (.done made)) :
    (∃ found, xs = [⟨.race l r, .inl found⟩] ∧ made = .inl <$> take l found) ∨
      ∃ found, xs = [⟨.race l r, .inr found⟩] ∧ made = .inr <$> take r found := by
  obtain ⟨first, rfl, rfl⟩ := course_query (q := .race l r) h
  cases first with
  | inl found => exact .inl ⟨found, rfl, rfl⟩
  | inr found => exact .inr ⟨found, rfl, rfl⟩

/-- The last look-up that is waited for decides. -/
theorem course_await_pure {g : F l → β} {made : Except Failure β}
    (h : (await take l >>= fun a => (pure (g a) : Attempt β)).run.Course xs (.done made)) :
    ∃ found, xs = [⟨.await l, found⟩] ∧ made = g <$> take l found := by
  rcases course_bind h with ⟨e, hawait, rfl⟩ | ⟨ys, zs, a, rfl, hawait, hrest⟩
  · obtain ⟨found, rfl, hfound⟩ := course_query (q := .await l) hawait
    exact ⟨found, rfl, by rw [← hfound]; rfl⟩
  · obtain ⟨found, rfl, hfound⟩ := course_query (q := .await l) hawait
    obtain ⟨rfl, rfl⟩ := course_pure hrest
    exact ⟨found, rfl, by rw [← hfound]; rfl⟩

/-- A failure that is told first is told alone. -/
theorem comes_of_error {k : LookUp} {found : k.Answer} {f : Failure} (hk : k = l ∨ k = r)
    (h : take k found = .error f) : Comes take l r [⟨k, found⟩] (.error f) := by
  refine @Comes.failed _ take l r [] ⟨k, found⟩ f ?_ ?_ h
  · intro x hx
    rw [List.mem_singleton.mp hx]
    exact hk
  · intro x hx
    cases hx

/-- The second look-up is told of behind the first one. -/
theorem comes_of_left {found : l.Answer} {a : F l} (h : take l found = .ok a) (found' : r.Answer) :
    Comes take l r [⟨l, found⟩, ⟨r, found'⟩] ((a, ·) <$> take r found') := by
  cases hr : take r found' with
  | ok b => exact .both h hr (.refl _)
  | error f =>
    refine @Comes.failed _ take l r [⟨l, found⟩] ⟨r, found'⟩ f ?_ ?_ hr
    · simp
    · simp [h]

/-- Or the other way round. -/
theorem comes_of_right {found' : r.Answer} {b : F r} (h : take r found' = .ok b)
    (found : l.Answer) : Comes take l r [⟨r, found'⟩, ⟨l, found⟩] ((·, b) <$> take l found) := by
  cases hl : take l found with
  | ok a => exact .both hl h (.swap _ _ _)
  | error f =>
    refine @Comes.failed _ take l r [⟨r, found'⟩] ⟨l, found⟩ f ?_ ?_ hl
    · simp
    · simp [h]

theorem overlapped_of_waits {soon : Option l.Answer} {soon' : Option r.Answer}
    {waits : List Exchange} {made : Except Failure (F l × F r)}
    (hcomes : Comes take l r (told (⟨.start l, soon⟩ :: ⟨.start r, soon'⟩ :: waits)) made)
    (hsoon : ∀ found, soon = some found → ¬ Failed (take l found))
    (hwaits : ∀ x ∈ waits, x.1.isWait = true) :
    Overlapped take l r (⟨.start l, soon⟩ :: ⟨.start r, soon'⟩ :: waits) made :=
  ⟨hcomes, .inr ⟨soon, soon', waits, rfl, hsoon, hwaits⟩⟩

/-- Two look-ups that are both under way: one of them comes first, and the other is waited for
unless that fails. -/
theorem course_both {made : Except Failure (F l × F r)}
    (h : (do
      match ← race take l r with
      | .inl a => return (a, ← await take r)
      | .inr b => return (← await take l, b) : Attempt (F l × F r)).run.Course xs (.done made)) :
    Comes take l r (told xs) made ∧ ∀ x ∈ xs, x.1.isWait = true := by
  rcases course_bind h with ⟨e, hrace, rfl⟩ | ⟨ys, zs, first, rfl, hrace, hrest⟩
  · rcases course_race hrace with ⟨found, rfl, hfound⟩ | ⟨found, rfl, hfound⟩
    · exact ⟨comes_of_error (.inl rfl) (eq_error_of_map hfound), by simp [Query.isWait]⟩
    · exact ⟨comes_of_error (.inr rfl) (eq_error_of_map hfound), by simp [Query.isWait]⟩
  · rcases course_race hrace with ⟨found, rfl, hfound⟩ | ⟨found, rfl, hfound⟩
    · obtain ⟨a, htake, rfl⟩ := exists_of_map hfound
      obtain ⟨found', rfl, rfl⟩ := course_await_pure hrest
      exact ⟨comes_of_left htake found', by simp [Query.isWait]⟩
    · obtain ⟨b, htake, rfl⟩ := exists_of_map hfound
      obtain ⟨found', rfl, rfl⟩ := course_await_pure hrest
      exact ⟨comes_of_right htake found', by simp [Query.isWait]⟩

/-- Whatever is answered and in whatever order, two look-ups at once come to what they should. -/
theorem course_overlap {made : Except Failure (F l × F r)}
    (h : (overlap take l r).run.Course xs (.done made)) : Overlapped take l r xs made := by
  rcases course_bind h with ⟨e, hfirst, rfl⟩ | ⟨ys, zs, a?, rfl, hfirst, hbehind⟩
  · -- the first look-up fails at once
    rcases course_start hfirst with ⟨-, hnone⟩ | ⟨found, rfl, hfound⟩
    · cases hnone
    · have htake := eq_error_of_map hfound
      exact ⟨comes_of_error (.inl rfl) htake, .inl ⟨found, rfl, e, htake⟩⟩
  rcases course_bind hbehind with ⟨e, hsecond, rfl⟩ | ⟨ys', zs', b?, rfl, hsecond, hrest⟩
  · -- the second one does
    rcases course_start hsecond with ⟨-, hnone⟩ | ⟨found', rfl, hfound'⟩
    · cases hnone
    · have htake' := eq_error_of_map hfound'
      rcases course_start hfirst with ⟨rfl, -⟩ | ⟨found, rfl, hfound⟩
      · exact overlapped_of_waits (comes_of_error (.inr rfl) htake') nofun
          (List.forall_mem_nil _)
      · obtain ⟨a, htake, -⟩ := exists_of_map hfound
        have hcomes := comes_of_left htake found'
        rw [htake'] at hcomes
        refine overlapped_of_waits hcomes ?_ (List.forall_mem_nil _)
        rintro _ ⟨⟩
        simp [htake]
  -- neither fails at once, and what is not there yet is waited for
  rcases course_start hfirst with ⟨rfl, hnone⟩ | ⟨found, rfl, hfound⟩ <;>
    rcases course_start hsecond with ⟨rfl, hnone'⟩ | ⟨found', rfl, hfound'⟩
  · cases hnone
    cases hnone'
    obtain ⟨hcomes, hwaits⟩ := course_both hrest
    exact overlapped_of_waits hcomes nofun hwaits
  · cases hnone
    obtain ⟨b, htake', rfl⟩ := exists_of_map hfound'
    obtain ⟨found, rfl, rfl⟩ := course_await_pure hrest
    exact overlapped_of_waits (comes_of_right htake' found) nofun (by simp [Query.isWait])
  · cases hnone'
    obtain ⟨a, htake, rfl⟩ := exists_of_map hfound
    obtain ⟨found', rfl, rfl⟩ := course_await_pure hrest
    refine overlapped_of_waits (comes_of_left htake found') ?_ (by simp [Query.isWait])
    rintro _ ⟨⟩
    simp [htake]
  · obtain ⟨a, htake, rfl⟩ := exists_of_map hfound
    obtain ⟨b, htake', rfl⟩ := exists_of_map hfound'
    obtain ⟨rfl, rfl⟩ := course_pure hrest
    refine overlapped_of_waits (.both htake htake' (.refl _)) ?_ (List.forall_mem_nil _)
    rintro _ ⟨⟩
    simp [htake]

/-- They fail just if something is told that is taken for a failure. -/
theorem Comes.failed_iff {findings : List Finding} {made : Except Failure (F l × F r)}
    (h : Comes take l r findings made) :
    Failed made ↔ ∃ x ∈ findings, Failed (take x.1 x.2) := by
  cases h with
  | both hl hr hperm =>
    refine iff_of_false (not_failed_ok _) ?_
    rintro ⟨x, hx, hfailed⟩
    have hmem := hperm.mem_iff.mp hx
    simp only [List.mem_cons, List.not_mem_nil, or_false] at hmem
    rcases hmem with rfl | rfl
    · simp [hl] at hfailed
    · simp [hr] at hfailed
  | @failed front last f hmem hfront hlast =>
    exact iff_of_true (failed_error f) ⟨last, by simp, f, hlast⟩

/-- If no answer is taken for a failure both are begun in any case. -/
theorem Overlapped.begun {made : Except Failure (F l × F r)} (h : Overlapped take l r xs made)
    (htake : ∀ found, ¬ Failed (take l found)) : ∃ soon soon' waits,
      xs = ⟨.start l, soon⟩ :: ⟨.start r, soon'⟩ :: waits ∧ ∀ x ∈ waits, x.1.isWait = true := by
  rcases h.order with ⟨found, -, hfailed⟩ | ⟨soon, soon', waits, hxs, -, hwaits⟩
  · exact absurd hfailed (htake found)
  · exact ⟨soon, soon', waits, hxs, hwaits⟩

/-- To begin a look-up or to wait for it is all that they ask. -/
theorem Overlapped.asks {made : Except Failure (F l × F r)} (h : Overlapped take l r xs made)
    {asks : Query → Prop} (hstart : ∀ k, asks (.start k))
    (hwait : ∀ q : Query, q.isWait = true → asks q) : ∀ x ∈ xs, asks x.1 := by
  rcases h.order with ⟨found, rfl, -⟩ | ⟨soon, soon', waits, rfl, -, hwaits⟩
  · exact List.forall_mem_singleton.mpr (hstart l)
  · exact List.forall_mem_cons.mpr ⟨hstart l, List.forall_mem_cons.mpr
      ⟨hstart r, fun x hx => hwait x.1 (hwaits x hx)⟩⟩

/-- Two look-ups at once keep the rules if each of their queries does. -/
theorem keeps_overlap {allowed : (q : Query) → q.Answer → Prop} {asks : Query → Prop}
    {failure : Failure → Prop}
    (hstart : ∀ l, (start take l).Keeps allowed asks (fun _ => True) failure)
    (hawait : ∀ l, (await take l).Keeps allowed asks (fun _ => True) failure)
    (hrace : ∀ l r, (race take l r).Keeps allowed asks (fun _ => True) failure) (l r : LookUp) :
    (overlap take l r).Keeps allowed asks (fun _ => True) failure := by
  refine (hstart l).bind fun a? _ => (hstart r).bind fun b? _ => ?_
  cases a? <;> cases b?
  · refine (hrace l r).bind fun first _ => ?_
    cases first with
    | inl a => exact (hawait r).bind fun _ _ => keeps_pure trivial
    | inr b => exact (hawait l).bind fun _ _ => keeps_pure trivial
  · exact (hawait l).bind fun _ _ => keeps_pure trivial
  · exact (hawait r).bind fun _ _ => keeps_pure trivial
  · exact keeps_pure trivial

end

end Attempt

end Herald
