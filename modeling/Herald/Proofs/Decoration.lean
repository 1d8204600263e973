import Herald.Action.Ojichat
import Herald.Proofs.FirstPlace
import Mathlib.Data.List.Count

/-!
# Linking a name and censoring a text

A text about someone is edited twice before it is posted: the name becomes a link where it stands
first, and then the first 裸 is censored, in the text as the link has left it. `Censored` says what
the second edit makes of a text, without a search.

* `link_of_absent` and `link_of_first`: what the first edit makes of it.
* `censor_append_of_mem` and `censor_append_of_not_mem`: the censor acts on the part where the first
  裸 stands, so it never enters a name that is free of it.
* `decorate_edits`: both edits together.
-/

namespace Herald.Action.Ojichat

/-- A text, and the same with its first 裸 censored if it has any. -/
inductive Censored : String → String → Prop where
  | clean {text : String} (h : '裸' ∉ text.toList) : Censored text text
  | first {before behind : String} (h : '裸' ∉ before.toList) :
      Censored (before ++ "裸" ++ behind) (before ++ "<CENSORED #8>" ++ behind)

/-! ## Censoring -/

section

variable {text before behind : List Char}

theorem censor_of_not_mem (h : '裸' ∉ text) : censor text = text := by
  apply Text.replaceFirst_of_not_infix
  rintro ⟨before, behind, rfl⟩
  exact h (by simp)

theorem censor_of_first (h : '裸' ∉ before) :
    censor (before ++ '裸' :: behind) = before ++ "<CENSORED #8>".toList ++ behind :=
  Text.replaceFirst_of_firstCut _ (Text.firstCut_char_iff.mpr ⟨rfl, h⟩)

/-- The censor acts on the front part if that has a 裸. -/
theorem censor_append_of_mem (h : '裸' ∈ before) (behind : List Char) :
    censor (before ++ behind) = censor before ++ behind := by
  obtain ⟨front, back, rfl, hfront⟩ := List.eq_append_cons_of_mem h
  rw [censor_of_first hfront, List.append_assoc front, List.cons_append, censor_of_first hfront]
  simp only [List.append_assoc]

/-- Otherwise it acts on the rest. -/
theorem censor_append_of_not_mem (h : '裸' ∉ before) (behind : List Char) :
    censor (before ++ behind) = before ++ censor behind := by
  by_cases hmem : '裸' ∈ behind
  · obtain ⟨front, back, rfl, hfront⟩ := List.eq_append_cons_of_mem hmem
    have hboth : '裸' ∉ before ++ front := by simp [h, hfront]
    rw [censor_of_first hfront, ← List.append_assoc, censor_of_first hboth]
    simp only [List.append_assoc]
  · have hboth : '裸' ∉ before ++ behind := by simp [h, hmem]
    rw [censor_of_not_mem hmem, censor_of_not_mem hboth]

/-- The censor takes one 裸 away, and puts none in its place. -/
theorem count_censor (text : List Char) : (censor text).count '裸' = text.count '裸' - 1 := by
  by_cases hmem : '裸' ∈ text
  · obtain ⟨front, back, rfl, hfront⟩ := List.eq_append_cons_of_mem hmem
    have hmark : "<CENSORED #8>".toList.count '裸' = 0 := by decide
    have hnone : front.count '裸' = 0 := List.count_eq_zero.mpr hfront
    rw [censor_of_first hfront, List.count_append, List.count_append, List.count_append,
      List.count_cons_self]
    omega
  · rw [censor_of_not_mem hmem, List.count_eq_zero.mpr hmem]

/-- The censor does to a text what it should. -/
theorem censored_censor (text : String) : Censored text (String.ofList (censor text.toList)) := by
  by_cases hmem : '裸' ∈ text.toList
  · obtain ⟨front, back, htext, hfront⟩ := List.eq_append_cons_of_mem hmem
    have hjoin : text = String.ofList front ++ "裸" ++ String.ofList back :=
      String.toList_inj.mp (by simp [htext])
    have hresult : String.ofList (censor text.toList) =
        String.ofList front ++ "<CENSORED #8>" ++ String.ofList back := by
      rw [htext, censor_of_first hfront]
      exact String.toList_inj.mp (by simp)
    rw [hresult, hjoin]
    exact .first (by simpa using hfront)
  · rw [censor_of_not_mem hmem, String.ofList_toList]
    exact .clean hmem

end

/-! ## Linking -/

section

variable {name text before behind : List Char}

/-- A text without the name has no link. -/
theorem link_of_absent (h : name = [] ∨ ¬ name <:+: text) : link name text = text := by
  unfold link
  split
  · rfl
  · next hne =>
    rcases h with rfl | habsent
    · exact absurd rfl hne
    · exact Text.replaceFirst_of_not_infix _ habsent

/-- The name becomes a link where it stands first. -/
theorem link_of_first (hne : name ≠ [])
    (h : Text.FirstCut (name <+: ·) text before (name ++ behind)) :
    link name text = before ++ (" @".toList ++ name ++ [' ']) ++ behind := by
  rw [link, if_neg (by simpa using hne), Text.replaceFirst_of_firstCut _ h]

/-- A link has no 裸 but those of the name. -/
theorem count_link (name text : List Char) : (link name text).count '裸' = text.count '裸' := by
  by_cases habsent : name = [] ∨ ¬ name <:+: text
  · rw [link_of_absent habsent]
  · obtain ⟨hne, hinfix⟩ := not_or.mp habsent
    obtain ⟨before, behind, hcut⟩ := Text.exists_firstCut_of_infix (not_not.mp hinfix)
    have hat : " @".toList.count '裸' = 0 := by decide
    have hspace : [' '].count '裸' = 0 := by decide
    rw [link_of_first hne hcut, hcut.join]
    simp only [List.count_append, hat, hspace]
    omega

end

/-! ## Both edits -/

/-- What becomes of a text about someone of a name. -/
structure Decorates (generated name result : String) : Prop where
  /-- One 裸 is censored if there is any, also if it belongs to the name. -/
  count_eq : result.toList.count '裸' = generated.toList.count '裸' - 1
  /-- Without the name in it, the text is only censored. -/
  unlinked : (name = "" ∨ ∀ before behind, generated ≠ before ++ name ++ behind) →
    Censored generated result
  /-- The name becomes a link where it stands first, and the text is censored in front of it, or else
  behind it. All that stands elsewhere stays as it is. -/
  linked : ∀ before behind, name ≠ "" → '裸' ∉ name.toList →
    generated = before ++ name ++ behind →
    (∀ before' behind', generated = before' ++ name ++ behind' →
      before.length ≤ before'.length) →
    ('裸' ∈ before.toList → ∃ censored, Censored before censored ∧
      result = censored ++ " @" ++ name ++ " " ++ behind) ∧
    ('裸' ∉ before.toList → ∃ censored, Censored behind censored ∧
      result = before ++ " @" ++ name ++ " " ++ censored)

theorem toList_decorate (generated name : String) :
    (decorate generated name).toList = censor (link name.toList generated.toList) :=
  String.toList_ofList

/-- The first place of a name in a text, in characters. -/
theorem firstCut_toList {generated name before behind : String}
    (hjoin : generated = before ++ name ++ behind)
    (hfirst : ∀ before' behind', generated = before' ++ name ++ behind' →
      before.length ≤ before'.length) :
    Text.FirstCut (name.toList <+: ·) generated.toList before.toList
      (name.toList ++ behind.toList) := by
  apply Text.firstCut_prefix_iff.mpr
  refine ⟨by simp [hjoin], fun before' behind' hjoin' => ?_⟩
  have hlength := hfirst (String.ofList before') (String.ofList behind')
    (String.toList_inj.mp (by simp [hjoin']))
  rwa [← String.length_toList, ← String.length_toList, String.toList_ofList] at hlength

/-- The name is linked once, where it stands first, and one 裸 is censored, the first one. -/
theorem decorate_edits (generated name : String) :
    Decorates generated name (decorate generated name) := by
  constructor
  case count_eq => rw [toList_decorate, count_censor, count_link]
  case unlinked =>
    intro habsent
    have hlink : link name.toList generated.toList = generated.toList := by
      apply link_of_absent
      rcases habsent with rfl | habsent
      · exact .inl rfl
      · right
        rintro ⟨before, behind, hjoin⟩
        apply habsent (String.ofList before) (String.ofList behind)
        exact String.toList_inj.mp (by simp [← hjoin])
    rw [decorate, hlink]
    exact censored_censor generated
  case linked =>
    intro before behind hname hclean hjoin hfirst
    have hne : name.toList ≠ [] := fun h => hname (String.toList_eq_nil_iff.mp h)
    have hlink := link_of_first hne (firstCut_toList hjoin hfirst)
    constructor
    · intro hmem
      refine ⟨_, censored_censor before, String.toList_inj.mp ?_⟩
      rw [toList_decorate, hlink, List.append_assoc, censor_append_of_mem hmem]
      simp
    · intro hmem
      refine ⟨_, censored_censor behind, String.toList_inj.mp ?_⟩
      -- the link has no 裸 of its own, so the censor passes it
      have hfront : '裸' ∉ before.toList ++ (" @".toList ++ name.toList ++ [' ']) := by
        simp [hmem, hclean]
      rw [toList_decorate, hlink, censor_append_of_not_mem hfront]
      simp

/-- The name is not looked for in what the censor writes. -/
example : decorate "裸#8 #8、裸" "#8" = "<CENSORED #8> @#8  #8、裸" := by decide

end Herald.Action.Ojichat
