import Herald.Command

/-!
# Texts and their tokens

Words are set apart by one or more spaces, so a row of tokens has many texts. `Spaced` relates the
two, and reading goes the other way:

* `tokenize_spaced`: each text of a row of tokens is read as that row, if no token holds a space and
  only the last may be empty (`Separable`);
* `separable_tail_tokenize`: the tokens of any text are such a row behind the first one, as
  squeezing leaves no two spaces side by side;
* `spaced_tokenize`: every text, less one period at its end, is a text of its own tokens. So the two
  directions fit together (`tokenize_eq_iff`).
-/

namespace Herald.Command

/-- The texts of a row of tokens: neighbours are set apart by one or more spaces. -/
inductive Spaced : List String → List Char → Prop where
  | last (token : String) : Spaced [token] token.toList
  | cons (token : String) (gap : Nat) {rest : List String} {text : List Char}
      (h : Spaced rest text) :
      Spaced (token :: rest) (token.toList ++ List.replicate (gap + 1) ' ' ++ text)

/-- A row of tokens that spaces can set apart. -/
structure Separable (tokens : List String) : Prop where
  spaceless : ∀ token ∈ tokens, ' ' ∉ token.toList
  nonempty : ∀ token ∈ tokens.dropLast, token ≠ ""

theorem Spaced.ne_nil {tokens : List String} {text : List Char} (h : Spaced tokens text) :
    tokens ≠ [] := by
  cases h <;> simp

/-- A text begins with its first token. -/
theorem Spaced.head_prefix {token : String} {rest : List String} {text : List Char}
    (h : Spaced (token :: rest) text) : token.toList <+: text := by
  cases h with
  | last => exact List.prefix_rfl
  | cons _ gap hrest =>
    rw [List.append_assoc]
    exact List.prefix_append _ _

/-- The text with single spaces is one of them. -/
theorem spaced_intercalate {tokens : List String} (h : tokens ≠ []) :
    Spaced tokens ([' '].intercalate (tokens.map String.toList)) := by
  induction tokens with
  | nil => exact absurd rfl h
  | cons token rest ih =>
    cases rest with
    | nil => simpa [List.intercalate] using Spaced.last token
    | cons next rest =>
      have hrest := Spaced.cons token 0 (ih (List.cons_ne_nil next rest))
      simpa [List.intercalate] using hrest

theorem Separable.tail {token : String} {rest : List String} (h : Separable (token :: rest)) :
    Separable rest := by
  refine ⟨fun t ht => h.spaceless t (List.mem_cons_of_mem token ht), fun t ht => h.nonempty t ?_⟩
  cases rest with
  | nil => cases ht
  | cons next rest => exact List.mem_cons_of_mem token ht

theorem Separable.cons {token : String} {tokens : List String} (h : Separable tokens)
    (hspaceless : ' ' ∉ token.toList) (hne : token ≠ "") : Separable (token :: tokens) := by
  constructor
  · intro t ht
    rcases List.mem_cons.mp ht with rfl | ht
    · exact hspaceless
    · exact h.spaceless t ht
  · intro t ht
    cases tokens with
    | nil => cases ht
    | cons next tokens =>
      rcases List.mem_cons.mp ht with rfl | ht
      · exact hne
      · exact h.nonempty t ht

theorem dropLast_sublist_dropLast {l l' : List α} (h : l.Sublist l') :
    l.dropLast.Sublist l'.dropLast := by
  have htail := h.reverse.tail
  rw [List.tail_reverse, List.tail_reverse] at htail
  exact List.reverse_sublist.mp htail

/-- Taking tokens out leaves a row that spaces can set apart. -/
theorem Separable.sublist {tokens tokens' : List String} (h : Separable tokens')
    (hsub : tokens.Sublist tokens') : Separable tokens :=
  ⟨fun t ht => h.spaceless t (hsub.subset ht),
    fun t ht => h.nonempty t ((dropLast_sublist_dropLast hsub).subset ht)⟩

/-! ## Squeezing -/

theorem squeeze_spaces (n : Nat) (text : List Char) :
    squeeze true (List.replicate n ' ' ++ text) = squeeze true text := by
  induction n with
  | zero => rfl
  | succ n ih => simpa [List.replicate_succ, squeeze] using ih

/-- A run of spaces becomes one space. -/
theorem squeeze_gap (gap : Nat) (text : List Char) :
    squeeze false (List.replicate (gap + 1) ' ' ++ text) = ' ' :: squeeze true text := by
  simp [List.replicate_succ, squeeze, squeeze_spaces]

/-- A word stays as it is, and what follows it does not follow a space. -/
theorem squeeze_word {word : List Char} (h : ' ' ∉ word) (hne : word ≠ []) (afterSpace : Bool)
    (text : List Char) : squeeze afterSpace (word ++ text) = word ++ squeeze false text := by
  induction word generalizing afterSpace with
  | nil => exact absurd rfl hne
  | cons c word ih =>
    have hc : c ≠ ' ' := fun e => h (e ▸ List.mem_cons_self)
    have hword : ' ' ∉ word := fun hm => h (List.mem_cons_of_mem c hm)
    cases word with
    | nil => simp [squeeze, hc]
    | cons d word =>
      have hrest := ih hword (List.cons_ne_nil d word) false
      simp only [List.cons_append] at hrest ⊢
      rw [squeeze, if_neg hc, hrest]

/-- Squeezing leaves single spaces between the tokens. -/
theorem squeeze_spaced {tokens : List String} {text : List Char} (h : Spaced tokens text)
    (hs : Separable tokens) (afterSpace : Bool) :
    squeeze afterSpace text = [' '].intercalate (tokens.map String.toList) := by
  induction h generalizing afterSpace with
  | last token =>
    have hspaceless := hs.spaceless token List.mem_cons_self
    by_cases hempty : token.toList = []
    · simp [hempty, squeeze, List.intercalate]
    · have hword := squeeze_word hspaceless hempty afterSpace []
      simpa [squeeze, List.intercalate] using hword
  | @cons token gap rest text hrest ih =>
    have hspaceless := hs.spaceless token List.mem_cons_self
    have hne : token ≠ "" := by
      apply hs.nonempty
      cases rest with
      | nil => exact absurd rfl hrest.ne_nil
      | cons next rest => exact List.mem_cons_self
    have hlist : token.toList ≠ [] := fun e => hne (String.toList_eq_nil_iff.mp e)
    rw [List.append_assoc, squeeze_word hspaceless hlist, squeeze_gap, ih hs.tail true]
    cases rest with
    | nil => exact absurd rfl hrest.ne_nil
    | cons next rest => simp [List.intercalate]

/-- Each text of a row of tokens is read as that row. -/
theorem tokenize_spaced {raw : String} {tokens : List String} {text : List Char}
    (hraw : dropPeriod raw.toList = text) (h : Spaced tokens text) (hs : Separable tokens) :
    tokenize raw = tokens := by
  have hparts : ∀ part ∈ tokens.map String.toList, ' ' ∉ part := by
    intro part hpart
    obtain ⟨token, htoken, rfl⟩ := List.mem_map.mp hpart
    exact hs.spaceless token htoken
  have hne : tokens.map String.toList ≠ [] := by
    simpa using h.ne_nil
  rw [tokenize, trim, String.toList_ofList, hraw, squeeze_spaced h hs,
    Text.splitWhere_intercalate hne hparts, List.map_map]
  simp [Function.comp_def]

/-! ## The tokens of any text -/

/-- The parts of a text between its spaces, once runs of spaces are squeezed. -/
def parts (afterSpace : Bool) (text : List Char) : List (List Char) :=
  Text.splitWhere (· = ' ') (squeeze afterSpace text)

theorem tokenize_eq_parts (raw : String) :
    tokenize raw = (parts false (dropPeriod raw.toList)).map String.ofList := by
  rw [tokenize, trim, String.toList_ofList, parts]

theorem parts_letter {c : Char} (hc : c ≠ ' ') (afterSpace : Bool) (text : List Char) :
    ∃ part rest, parts false text = part :: rest ∧
      parts afterSpace (c :: text) = (c :: part) :: rest := by
  obtain ⟨part, rest, hparts⟩ := List.exists_cons_of_ne_nil
    (Text.splitWhere_ne_nil (· = ' ') (squeeze false text))
  refine ⟨part, rest, hparts, ?_⟩
  rw [parts, squeeze, if_neg hc, Text.splitWhere, hparts]
  simp [hc]

/-- No part between two others is empty, and behind a space not even the first one is. -/
theorem parts_nonempty (afterSpace : Bool) (text : List Char) :
    (∀ part ∈ (parts afterSpace text).tail.dropLast, part ≠ []) ∧
      (afterSpace = true → ∀ part ∈ (parts afterSpace text).dropLast, part ≠ []) := by
  induction text generalizing afterSpace with
  | nil => simp [parts, squeeze, Text.splitWhere]
  | cons c text ih =>
    by_cases hc : c = ' '
    · subst hc
      cases afterSpace with
      | true =>
        -- one more space behind a space is dropped
        have hparts : parts true (' ' :: text) = parts true text := by simp [parts, squeeze]
        rw [hparts]
        exact ih true
      | false =>
        -- the first part ends here, and what follows is behind a space
        have hparts : parts false (' ' :: text) = [] :: parts true text := by
          simp [parts, squeeze, Text.splitWhere]
        rw [hparts]
        exact ⟨(ih true).2 rfl, fun h => by cases h⟩
    · obtain ⟨part, rest, hfalse, hparts⟩ := parts_letter hc afterSpace text
      have hrest := (ih false).1
      rw [hfalse, List.tail_cons] at hrest
      rw [hparts, List.tail_cons]
      refine ⟨hrest, fun _ => ?_⟩
      cases rest with
      | nil => simp
      | cons next rest =>
        intro p hp
        rcases List.mem_cons.mp hp with rfl | hp
        · exact List.cons_ne_nil c part
        · exact hrest p hp

/-- Behind the first one, the tokens of a text are such as spaces can set apart. -/
theorem separable_tail_tokenize (raw : String) : Separable (tokenize raw).tail := by
  rw [tokenize_eq_parts, ← List.map_tail]
  constructor
  · intro token htoken
    obtain ⟨part, hpart, rfl⟩ := List.mem_map.mp htoken
    rw [String.toList_ofList]
    intro hspace
    simpa using (Text.mem_of_mem_splitWhere (List.mem_of_mem_tail hpart) hspace).2
  · intro token htoken
    rw [← List.map_dropLast] at htoken
    obtain ⟨part, hpart, rfl⟩ := List.mem_map.mp htoken
    have hne := (parts_nonempty false (dropPeriod raw.toList)).1 part hpart
    intro hempty
    exact hne (by simpa using congrArg String.toList hempty)

/-- A letter in front of a text goes to its first token. -/
theorem Spaced.letter {token : String} {rest : List String} {text : List Char}
    (h : Spaced (token :: rest) text) (c : Char) :
    Spaced (String.ofList (c :: token.toList) :: rest) (c :: text) := by
  have hlist : (String.ofList (c :: token.toList)).toList = c :: token.toList :=
    String.toList_ofList
  cases h with
  | last =>
    have hlast := Spaced.last (String.ofList (c :: token.toList))
    rwa [hlist] at hlast
  | cons _ gap hrest =>
    have hcons := Spaced.cons (String.ofList (c :: token.toList)) gap hrest
    rwa [hlist] at hcons

/-- A text is one of its parts; behind a token and some spaces it is one of that token and its
parts, as the spaces that it begins with belong to the gap. -/
theorem spaced_parts (text : List Char) :
    Spaced ((parts false text).map String.ofList) text ∧
      ∀ (token : String) (gap : Nat),
        Spaced (token :: (parts true text).map String.ofList)
          (token.toList ++ List.replicate (gap + 1) ' ' ++ text) := by
  induction text with
  | nil => exact ⟨Spaced.last "", fun token gap => Spaced.cons token gap (Spaced.last "")⟩
  | cons c text ih =>
    by_cases hc : c = ' '
    · subst hc
      constructor
      · -- the first part is empty and ends here
        have hparts : parts false (' ' :: text) = [] :: parts true text := by
          simp [parts, squeeze, Text.splitWhere]
        rw [hparts]
        exact ih.2 "" 0
      · -- the gap in front grows by one space
        intro token gap
        have hparts : parts true (' ' :: text) = parts true text := by simp [parts, squeeze]
        have hgap : token.toList ++ List.replicate (gap + 1) ' ' ++ ' ' :: text =
            token.toList ++ List.replicate (gap + 1 + 1) ' ' ++ text := by
          rw [List.replicate_succ' (n := gap + 1)]
          simp
        rw [hparts, hgap]
        exact ih.2 token (gap + 1)
    · have hword : ∀ afterSpace : Bool,
          Spaced ((parts afterSpace (c :: text)).map String.ofList) (c :: text) := by
        intro afterSpace
        obtain ⟨part, rest, hfalse, hparts⟩ := parts_letter hc afterSpace text
        have htext := ih.1
        rw [hfalse, List.map_cons] at htext
        have hletter := htext.letter c
        rw [String.toList_ofList] at hletter
        rw [hparts, List.map_cons]
        exact hletter
      exact ⟨hword false, fun token gap => Spaced.cons token gap (hword true)⟩

/-- Every text, less one period at its end, is a text of its tokens. -/
theorem spaced_tokenize (raw : String) : Spaced (tokenize raw) (dropPeriod raw.toList) := by
  rw [tokenize_eq_parts]
  exact (spaced_parts (dropPeriod raw.toList)).1

/-- The texts that are read as a row of tokens are its texts. -/
theorem tokenize_eq_iff {raw : String} {tokens : List String} (hs : Separable tokens) :
    tokenize raw = tokens ↔ Spaced tokens (dropPeriod raw.toList) := by
  constructor
  · rintro rfl
    exact spaced_tokenize raw
  · intro h
    exact tokenize_spaced rfl h hs

end Herald.Command
