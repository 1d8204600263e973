/-!
# First occurrences

`afterPrefix?` takes a pattern off the start of a text. `splitAround pattern text` cuts a text at
the first place where `pattern` occurs, and `replaceFirst` puts another text in that place. Main
facts: a pattern and what follows it make up the text (`afterPrefix?_eq_some_iff`), a text without
the pattern is left as it is (`replaceFirst_of_none`), and to occur is to be a piece of the text
(`occurs_iff_infix`).
-/

namespace Herald.Text

/-- What follows a pattern at the start of a text. -/
def afterPrefix? : (pattern text : List Char) → Option (List Char)
  | [], text => some text
  | _ :: _, [] => none
  | p :: ps, c :: cs => if p = c then afterPrefix? ps cs else none

/-- What stands before and behind the first occurrence of `pattern`. -/
def splitAround (pattern : List Char) : List Char → Option (List Char × List Char)
  | [] => (afterPrefix? pattern []).map fun rest => ([], rest)
  | c :: cs =>
    match afterPrefix? pattern (c :: cs) with
    | some rest => some ([], rest)
    | none => (splitAround pattern cs).map fun (before, rest) => (c :: before, rest)

/-- The text with the first occurrence of `pattern` replaced. -/
def replaceFirst (pattern replacement text : List Char) : List Char :=
  match splitAround pattern text with
  | some (before, rest) => before ++ replacement ++ rest
  | none => text

/-- Whether `pattern` occurs somewhere in the text. -/
def occurs (pattern text : List Char) : Bool :=
  (splitAround pattern text).isSome

/-- A pattern and what follows it make up the text. -/
theorem afterPrefix?_eq_some_iff {pattern text rest : List Char} :
    afterPrefix? pattern text = some rest ↔ text = pattern ++ rest := by
  fun_induction afterPrefix? pattern text with
  | case1 text => simp
  | case2 p ps => simp
  | case3 ps p cs ih => simpa using ih
  | case4 p ps c cs h => simp [Ne.symm h]

/-- A text without the pattern stays as it is. -/
theorem replaceFirst_of_none {pattern replacement text : List Char}
    (h : splitAround pattern text = none) : replaceFirst pattern replacement text = text := by
  simp [replaceFirst, h]

/-- A pattern occurs where the text holds it as a piece. -/
theorem occurs_iff_infix {pattern text : List Char} :
    occurs pattern text = true ↔ pattern <:+: text := by
  induction text with
  | nil =>
    cases pattern with
    | nil => simp [occurs, splitAround, afterPrefix?]
    | cons p ps => simp [occurs, splitAround, afterPrefix?]
  | cons c cs ih =>
    rw [List.infix_cons_iff, ← ih]
    cases h : afterPrefix? pattern (c :: cs) with
    | some rest =>
      have hpre : pattern <+: c :: cs := ⟨rest, (afterPrefix?_eq_some_iff.mp h).symm⟩
      simp [occurs, splitAround, h, hpre]
    | none =>
      have hpre : ¬ pattern <+: c :: cs := by
        rintro ⟨rest, hrest⟩
        have hsome := afterPrefix?_eq_some_iff.mpr hrest.symm
        rw [h] at hsome
        cases hsome
      simp [occurs, splitAround, h, hpre]

end Herald.Text
