import Herald.Proofs.CommandWriting
import Mathlib.Logic.Relation

/-!
# What a text is read as

* `extractCount_takes`: the count is taken out of the tokens with the first flag, unless nothing
  would be left, and so a text is read as a command just if some token stands behind its trigger.
* `parse_of_noisy`: doubled spaces, a period at the end and a reminder in front (`Noise`) change
  nothing about what a text is read as. The step is `Noise.stripReminder_eq`: the tokens from the
  trigger on stay the same.
* `empty_name_iff`: spaces at the end of a text make an empty last token. If nothing else stands
  behind the trigger, or nothing but a flag and its count, this token is the name.
-/

namespace Herald.Command

/-! ## Taking out the count -/

theorem left_eq_nil_iff {before behind : List String} :
    before ++ behind.drop 1 = [] ↔ before = [] ∧ behind.length ≤ 1 := by
  rw [List.append_eq_nil_iff, List.drop_eq_nil_iff]

section Flagged

variable {before behind : List String} {flag : String}

/-- If something is left, the flag and the token behind it are gone. -/
theorem extractCount_of_left (hbefore : ∀ token ∈ before, ¬ HoldsFlag token)
    (hflag : HoldsFlag flag) (hleft : before ++ behind.drop 1 ≠ []) :
    extractCount (before ++ flag :: behind) = (before ++ behind.drop 1, countOf behind.head?) := by
  rw [extractCount_of_flag hbefore hflag, if_neg fun h => hleft (List.isEmpty_iff.mp h)]

/-- If nothing would be left, all tokens stay. -/
theorem extractCount_of_alone (hbefore : ∀ token ∈ before, ¬ HoldsFlag token)
    (hflag : HoldsFlag flag) (hleft : before ++ behind.drop 1 = []) :
    extractCount (before ++ flag :: behind) = (before ++ flag :: behind, countOf behind.head?) := by
  rw [extractCount_of_flag hbefore hflag, if_pos (List.isEmpty_iff.mpr hleft)]

end Flagged

/-- Some token is always left of a row that has one. -/
theorem extractCount_ne_nil {tokens : List String} (h : tokens ≠ []) :
    (extractCount tokens).1 ≠ [] := by
  rcases flag_cases tokens with hnone | ⟨before, flag, behind, rfl, hbefore, hflag⟩
  · rw [extractCount_of_no_flag hnone]
    exact h
  · by_cases hleft : before ++ behind.drop 1 = []
    · rw [extractCount_of_alone hbefore hflag hleft]
      exact h
    · rw [extractCount_of_left hbefore hflag hleft]
      exact hleft

/-- A command is read from any row of tokens that is not empty. -/
theorem isSome_ofTokens_iff (input : String) (tokens : List String) :
    (ofTokens input tokens).isSome = true ↔ tokens ≠ [] := by
  constructor
  · rintro h rfl
    cases h
  · intro hne
    obtain ⟨name, args, hleft⟩ := List.exists_cons_of_ne_nil (extractCount_ne_nil hne)
    have hextract : extractCount tokens = (name :: args, (extractCount tokens).2) :=
      Prod.ext hleft rfl
    rw [ofTokens_of_extractCount hne hextract]
    rfl

/-- A text is read as a command just if some token stands behind its trigger. -/
theorem isSome_parse_iff (raw : String) :
    (parse raw).isSome = true ↔
      ∃ first rest, stripReminder (tokenize raw) = trigger :: first :: rest := by
  constructor
  · intro h
    obtain ⟨c, hc⟩ := Option.isSome_iff_exists.mp h
    obtain ⟨behind, hstrip, hof⟩ := ofTokens_of_parse hc
    have hne : behind ≠ [] := (isSome_ofTokens_iff raw behind).mp (by rw [hof]; rfl)
    obtain ⟨first, rest, rfl⟩ := List.exists_cons_of_ne_nil hne
    exact ⟨first, rest, hstrip⟩
  · rintro ⟨first, rest, hstrip⟩
    rw [parse, hstrip]
    exact (isSome_ofTokens_iff raw (first :: rest)).mpr (List.cons_ne_nil first rest)

/-- What taking the count out of a row of tokens comes to. -/
structure Extraction (tokens left : List String) (count : UInt32) : Prop where
  /-- Without the flag nothing is taken out. -/
  of_unflagged : (∀ token ∈ tokens, ¬ HoldsFlag token) → left = tokens ∧ count = 1
  /-- The first flag is taken out with the token behind it, which gives the count. All others are
  left as they stand, unless they are none: then nothing is taken out. -/
  of_flagged : ∀ before flag behind, tokens = before ++ flag :: behind →
    (∀ token ∈ before, ¬ HoldsFlag token) → HoldsFlag flag →
      count = behind.head?.elim 1 (fun token => countOf (some token)) ∧
      (before ++ behind.drop 1 ≠ [] → left = before ++ behind.drop 1) ∧
      (before ++ behind.drop 1 = [] → left = tokens) ∧
      (before ++ behind.drop 1 = [] ↔ before = [] ∧ behind.length ≤ 1)
  /-- There is no third case. -/
  unflagged_or_flagged : (∀ token ∈ tokens, ¬ HoldsFlag token) ∨
    ∃ before flag behind, tokens = before ++ flag :: behind ∧
      (∀ token ∈ before, ¬ HoldsFlag token) ∧ HoldsFlag flag
  left_ne_nil : tokens ≠ [] → left ≠ []
  one_le_count : 1 ≤ count.toNat
  count_lt : count.toNat < UInt32.size

/-- The count is taken out of the tokens together with the first flag, and what is left of a row
that has a token is never empty: a text is read as a command just if its trigger is not the last
token. -/
theorem extractCount_takes (tokens : List String) (raw : String) :
    Extraction tokens (extractCount tokens).1 (extractCount tokens).2 ∧
      ((parse raw).isSome = true ↔
        ∃ first rest, stripReminder (tokenize raw) = trigger :: first :: rest) := by
  refine ⟨?_, isSome_parse_iff raw⟩
  constructor
  case of_unflagged =>
    intro hnone
    rw [extractCount_of_no_flag hnone]
    exact ⟨rfl, rfl⟩
  case of_flagged =>
    intro before flag behind htokens hbefore hflag
    subst htokens
    refine ⟨?_, fun hleft => ?_, fun hleft => ?_, left_eq_nil_iff⟩
    · rw [extractCount_of_flag hbefore hflag]
      cases behind with
      | nil => rfl
      | cons value rest => rfl
    · rw [extractCount_of_left hbefore hflag hleft]
    · rw [extractCount_of_alone hbefore hflag hleft]
  case unflagged_or_flagged => exact flag_cases tokens
  case left_ne_nil => exact extractCount_ne_nil
  case one_le_count => exact UInt32.le_iff_toNat_le.mp (one_le_extractCount tokens)
  case count_lt => exact (extractCount tokens).2.toNat_lt

/-! ## Noise -/

/-- The text of a reminder in front of the trigger. -/
def Reminder.text : Reminder → String
  | none => ""
  | english => "Reminder: "
  | japanese => "リマインダー : "

/-- A text, and the same with some noise added to it. -/
inductive Noise : String → String → Prop where
  /-- A space is doubled. -/
  | space (before behind : String) :
      Noise (before ++ " " ++ behind) (before ++ "  " ++ behind)
  /-- A period is put at the end, where there is none. -/
  | period {raw : String} (h : raw.toList.getLast? ≠ some '.') : Noise raw (raw ++ ".")
  /-- A reminder is put in front of a text that has none and does not begin with a space. -/
  | reminder {raw : String} (r : Reminder) (hspace : raw.toList.head? ≠ some ' ')
      (hmarker : ∀ other : Reminder, other ≠ .none → ¬ other.tokens <+: tokenize raw) :
      Noise raw (r.text ++ raw)

/-! The period is looked for at the very end, so only the end of a text matters to it. -/

theorem dropPeriod_append {text : List Char} (front : List Char) (h : text ≠ []) :
    dropPeriod (front ++ text) = front ++ dropPeriod text := by
  have hlast : (front ++ text).getLast? = text.getLast? := by
    rw [List.getLast?_append, List.getLast?_eq_some_getLast h, Option.some_or]
  unfold dropPeriod
  rw [hlast]
  by_cases hdot : text.getLast? = some '.'
  · rw [if_pos hdot, if_pos hdot, List.dropLast_append_of_ne_nil h]
  · rw [if_neg hdot, if_neg hdot]

theorem dropPeriod_space (text : List Char) : dropPeriod (' ' :: text) = ' ' :: dropPeriod text := by
  cases text with
  | nil => rfl
  | cons c text => exact dropPeriod_append [' '] (List.cons_ne_nil c text)

/-- A second space behind a space is squeezed away. -/
theorem squeeze_double (afterSpace : Bool) (front text : List Char) :
    squeeze afterSpace (front ++ ' ' :: ' ' :: text) = squeeze afterSpace (front ++ ' ' :: text) := by
  induction front generalizing afterSpace with
  | nil => cases afterSpace <;> simp [squeeze]
  | cons c front ih => simp only [List.cons_append, squeeze, ih]

theorem tokenize_double (before behind : String) :
    tokenize (before ++ "  " ++ behind) = tokenize (before ++ " " ++ behind) := by
  have htwo : (before ++ "  " ++ behind).toList =
      before.toList ++ ' ' :: ' ' :: behind.toList := by simp
  have hone : (before ++ " " ++ behind).toList = before.toList ++ ' ' :: behind.toList := by simp
  rw [tokenize_eq_parts, tokenize_eq_parts, parts, parts, htwo, hone,
    dropPeriod_append _ (List.cons_ne_nil _ _), dropPeriod_append _ (List.cons_ne_nil _ _),
    dropPeriod_space, dropPeriod_space, squeeze_double]

theorem tokenize_period {raw : String} (h : raw.toList.getLast? ≠ some '.') :
    tokenize (raw ++ ".") = tokenize raw := by
  have hdot : (raw ++ ".").toList = raw.toList ++ ['.'] := by simp
  rw [tokenize_eq_parts, tokenize_eq_parts, hdot, dropPeriod_concat, dropPeriod, if_neg h]

/-- A text that does not begin with a space is squeezed in the same way behind a space. -/
theorem squeeze_true_eq {text : List Char} (h : text.head? ≠ some ' ') :
    squeeze true text = squeeze false text := by
  cases text with
  | nil => rfl
  | cons c text =>
    have hc : c ≠ ' ' := fun e => h (congrArg some e)
    rw [squeeze, squeeze, if_neg hc, if_neg hc]

theorem head?_dropPeriod {text : List Char} {c : Char} (h : text.head? ≠ some c) :
    (dropPeriod text).head? ≠ some c := by
  unfold dropPeriod
  split
  · rw [List.head?_dropLast]
    split
    · exact h
    · simp
  · exact h

/-- A word with a space behind it, in front of a text that does not begin with one, is one more
token. -/
theorem tokenize_word {word raw : String} (hword : ' ' ∉ word.toList) (hne : word ≠ "")
    (hspace : raw.toList.head? ≠ some ' ') :
    tokenize (word ++ " " ++ raw) = word :: tokenize raw := by
  have hlist : (word ++ " " ++ raw).toList = word.toList ++ ' ' :: raw.toList := by simp
  have hletters : word.toList ≠ [] := fun e => hne (String.toList_eq_nil_iff.mp e)
  have hcut : ∀ b ∈ word.toList, decide (b = ' ') = false := by
    intro b hb
    apply decide_eq_false
    rintro rfl
    exact hword hb
  have hsqueeze : squeeze false (word.toList ++ ' ' :: dropPeriod raw.toList) =
      word.toList ++ ' ' :: squeeze false (dropPeriod raw.toList) := by
    rw [squeeze_word hword hletters, ← squeeze_true_eq (head?_dropPeriod hspace)]
    rfl
  rw [tokenize_eq_parts, tokenize_eq_parts, parts, parts, hlist,
    dropPeriod_append _ (List.cons_ne_nil _ _), dropPeriod_space, hsqueeze,
    Text.splitWhere_append_cons hcut (decide_eq_true rfl), List.map_cons, String.ofList_toList]

/-- The words of a reminder come in front of the tokens. -/
theorem tokenize_reminder (r : Reminder) {raw : String} (hspace : raw.toList.head? ≠ some ' ') :
    tokenize (r.text ++ raw) = r.tokens ++ tokenize raw := by
  cases r with
  | none => rw [Reminder.text, Reminder.tokens, String.empty_append, List.nil_append]
  | english =>
    have htext : Reminder.text .english ++ raw = "Reminder:" ++ " " ++ raw := by
      apply String.toList_inj.mp
      simp [Reminder.text]
    rw [htext, tokenize_word (by decide) (by decide) hspace, Reminder.tokens, List.singleton_append]
  | japanese =>
    have htext : Reminder.text .japanese ++ raw = "リマインダー" ++ " " ++ (":" ++ " " ++ raw) := by
      apply String.toList_inj.mp
      simp [Reminder.text]
    have hcolon : (":" ++ " " ++ raw).toList.head? ≠ some ' ' := by simp
    rw [htext, tokenize_word (by decide +kernel) (by decide +kernel) hcolon,
      tokenize_word (by decide) (by decide) hspace, Reminder.tokens, List.cons_append,
      List.singleton_append]

/-- Tokens that do not begin with a reminder stay as they are. -/
theorem stripReminder_of_unmarked {tokens : List String}
    (h : ∀ r : Reminder, r ≠ .none → ¬ r.tokens <+: tokens) : stripReminder tokens = tokens := by
  unfold stripReminder
  split
  · next rest => exact absurd ⟨rest, rfl⟩ (h .english (by simp))
  · next rest => exact absurd ⟨rest, rfl⟩ (h .japanese (by simp))
  · rfl

theorem stripReminder_reminder (r : Reminder) {tokens : List String}
    (h : ∀ r : Reminder, r ≠ .none → ¬ r.tokens <+: tokens) :
    stripReminder (r.tokens ++ tokens) = tokens := by
  cases r with
  | none => exact stripReminder_of_unmarked h
  | english => simp only [Reminder.tokens, List.cons_append, List.nil_append, stripReminder]
  | japanese => simp only [Reminder.tokens, List.cons_append, List.nil_append, stripReminder]

/-- Noise does not change the tokens from the trigger on. -/
theorem Noise.stripReminder_eq {raw noisy : String} (h : Noise raw noisy) :
    stripReminder (tokenize noisy) = stripReminder (tokenize raw) := by
  cases h with
  | space before behind => rw [tokenize_double]
  | period h => rw [tokenize_period h]
  | reminder r hspace hmarker =>
    rw [tokenize_reminder r hspace, stripReminder_reminder r hmarker,
      stripReminder_of_unmarked hmarker]

/-- Nor does any amount of it. -/
theorem stripReminder_of_noisy {raw noisy : String} (h : Relation.ReflTransGen Noise raw noisy) :
    stripReminder (tokenize noisy) = stripReminder (tokenize raw) := by
  induction h with
  | refl => rfl
  | tail _ hstep ih => rw [hstep.stripReminder_eq, ih]

theorem ofTokens_input (input other : String) (tokens : List String) :
    ofTokens other tokens = (ofTokens input tokens).map fun c => { c with input := other } := by
  unfold ofTokens
  split
  · rfl
  · split <;> rfl

theorem input_of_ofTokens {input : String} {tokens : List String} {c : Command}
    (h : ofTokens input tokens = some c) : c.input = input := by
  have hself := ofTokens_input input input tokens
  rw [h] at hself
  exact congrArg Command.input (Option.some.inj hself)

/-- What a text is read as depends on its tokens from the trigger on, the text itself apart. -/
theorem parse_congr {raw other : String}
    (h : stripReminder (tokenize other) = stripReminder (tokenize raw)) :
    parse other = (parse raw).map fun c => { c with input := other } := by
  rw [parse, parse, h]
  split
  · next first rest _ =>
    by_cases hfirst : first = trigger
    · rw [if_pos hfirst, if_pos hfirst, ofTokens_input raw other]
    · rw [if_neg hfirst, if_neg hfirst]
      rfl
  · rfl

/-- Noise changes nothing about what a text is read as, or whether it is a command at all, but for
the text that the command was read from. -/
theorem parse_of_noisy {raw noisy : String} (h : Relation.ReflTransGen Noise raw noisy) :
    parse noisy = (parse raw).map fun c => { c with input := noisy } :=
  parse_congr (stripReminder_of_noisy h)

/-- Noise of all three kinds. -/
theorem parse_of_noisy_reminder :
    Relation.ReflTransGen Noise "$ me a" "リマインダー : $ me  a." ∧
      parse "$ me a" = some ⟨"$ me a", "me", ["a"], 1⟩ ∧
      parse "リマインダー : $ me  a." = some ⟨"リマインダー : $ me  a.", "me", ["a"], 1⟩ := by
  have hspace : Noise "$ me a" "$ me  a" := Noise.space "$ me" "a"
  have hperiod : Noise "$ me  a" "$ me  a." := Noise.period (by decide)
  have hreminder : Noise "$ me  a." "リマインダー : $ me  a." := by
    refine Noise.reminder .japanese (by decide) fun other hother => ?_
    have htokens : tokenize "$ me  a." = ["$", "me", "a"] := by decide
    rw [htokens]
    cases other with
    | none => exact absurd rfl hother
    | english => decide
    | japanese => decide +kernel
  have hnoisy := ((Relation.ReflTransGen.single hspace).tail hperiod).tail hreminder
  have hparse : parse "$ me a" = some ⟨"$ me a", "me", ["a"], 1⟩ := by decide
  refine ⟨hnoisy, hparse, ?_⟩
  rw [parse_of_noisy hnoisy, hparse]
  rfl

/-! ## Commands without a name -/

/-- The tokens behind a trigger that leave an empty name, and the count they give. The last token is
empty, as spaces end the text, and nothing stands in front of it but a flag and its count. -/
inductive Nameless : List String → UInt32 → Prop where
  | spaces : Nameless [""] 1
  | counted {flag value : String} (hflag : HoldsFlag flag) (hspaceless : ' ' ∉ flag.toList)
      (hvalue : value ≠ "" ∧ ' ' ∉ value.toList) :
      Nameless [flag, value, ""] (countOf (some value))

theorem Nameless.separable {behind : List String} {runs : UInt32} (h : Nameless behind runs) :
    Separable behind := by
  have hempty : Separable [""] := ⟨by simp, by simp⟩
  cases h with
  | spaces => exact hempty
  | counted hflag hspaceless hvalue =>
    exact (hempty.cons hvalue.2 hvalue.1).cons hspaceless hflag.ne_empty

theorem Nameless.extractCount_eq {behind : List String} {runs : UInt32} (h : Nameless behind runs) :
    extractCount behind = ([""], runs) := by
  cases h with
  | spaces => decide
  | counted hflag hspaceless hvalue =>
    have hbefore : ∀ token ∈ ([] : List String), ¬ HoldsFlag token := by simp
    exact extractCount_of_flag hbefore hflag

/-- An empty token that is not the last one cannot be set apart by spaces. -/
theorem Separable.tail_eq_nil {rest : List String} (h : Separable ("" :: rest)) : rest = [] := by
  cases rest with
  | nil => rfl
  | cons next rest => exact absurd rfl (h.nonempty "" List.mem_cons_self)

/-- If an empty name is left of a row of tokens, the row is one of these. -/
theorem nameless_of_extractCount {behind args : List String} {runs : UInt32}
    (hs : Separable behind) (h : extractCount behind = ("" :: args, runs)) :
    args = [] ∧ Nameless behind runs := by
  have hargs : args = [] := by
    have hsub := extractCount_sublist behind
    rw [h] at hsub
    exact (hs.sublist hsub).tail_eq_nil
  refine ⟨hargs, ?_⟩
  subst hargs
  rcases flag_cases behind with hnone | ⟨before, flag, rest, rfl, hbefore, hflag⟩
  · rw [extractCount_of_no_flag hnone] at h
    obtain ⟨rfl, rfl⟩ := Prod.mk.inj h
    exact Nameless.spaces
  · cases before with
    | cons first before =>
      -- the first token is left as well, so it is the empty one, with the flag behind it
      rw [extractCount_of_left hbefore hflag (by simp)] at h
      have hfirst : first = "" := (List.cons.inj (Prod.mk.inj h).1).1
      subst hfirst
      exact absurd hs.tail_eq_nil (by simp)
    | nil =>
      by_cases hrest : rest.drop 1 = []
      · -- the flag would be the name
        rw [extractCount_of_alone hbefore hflag hrest] at h
        exact absurd (List.cons.inj (Prod.mk.inj h).1).1 hflag.ne_empty
      · rw [extractCount_of_left hbefore hflag hrest] at h
        obtain ⟨hlast, rfl⟩ := Prod.mk.inj h
        cases rest with
        | nil => exact absurd rfl hrest
        | cons value rest =>
          have hempty : rest = [""] := hlast
          subst hempty
          refine Nameless.counted hflag (hs.spaceless flag (by simp)) ⟨?_, ?_⟩
          · exact hs.nonempty value (by simp)
          · exact hs.spaceless value (by simp)

theorem Separable.behind_reminder {behind : List String} (h : Separable behind) (r : Reminder) :
    Separable (r.tokens ++ "$" :: behind) := by
  have htrigger : Separable ("$" :: behind) := h.cons (by decide) (by decide)
  cases r with
  | none => exact htrigger
  | english => exact htrigger.cons (by decide) (by decide)
  | japanese =>
    exact (htrigger.cons (by decide) (by decide)).cons (by decide +kernel) (by decide +kernel)

/-- A text is read as a command without a name just if it is written with such tokens behind the
trigger. -/
theorem nameless_iff (raw : String) (c : Command) :
    parse raw = some c ∧ c.name = "" ↔
      ∃ (r : Reminder) (behind : List String) (runs : UInt32), Nameless behind runs ∧
        Spaced (r.tokens ++ "$" :: behind) (dropPeriod raw.toList) ∧ c = ⟨raw, "", [], runs⟩ := by
  constructor
  · rintro ⟨hparse, hname⟩
    obtain ⟨behind, hstrip, hof⟩ := ofTokens_of_parse hparse
    have hextract := extractCount_of_ofTokens hof
    rw [hname] at hextract
    obtain ⟨hargs, hnameless⟩ := nameless_of_extractCount (separable_behind hstrip) hextract
    obtain ⟨r, htokens⟩ := exists_reminder (tokenize raw)
    have hinput : c.input = raw := input_of_ofTokens hof
    refine ⟨r, behind, c.runs, hnameless, ?_, ?_⟩
    · have hspaced := spaced_tokenize raw
      rw [htokens, hstrip] at hspaced
      exact hspaced
    · rw [← hinput, ← hname, ← hargs]
  · rintro ⟨r, behind, runs, hnameless, hspaced, rfl⟩
    have hs := hnameless.separable
    have hne : behind ≠ [] := by cases hnameless <;> simp
    have htokens := (tokenize_eq_iff (hs.behind_reminder r)).mpr hspaced
    rw [parse_of_tokenize r htokens]
    exact ⟨ofTokens_of_extractCount hne hnameless.extractCount_eq, rfl⟩

/-- The trigger with some spaces behind it, and a period or none. -/
def bareTrigger (spaces : Nat) (period : Bool) : String :=
  "$" ++ String.ofList (List.replicate spaces ' ') ++ (if period then "." else "")

theorem dropPeriod_bareTrigger (spaces : Nat) (period : Bool) :
    dropPeriod (bareTrigger spaces period).toList = '$' :: List.replicate spaces ' ' := by
  cases period with
  | true =>
    have htext : (bareTrigger spaces true).toList = '$' :: List.replicate spaces ' ' ++ ['.'] := by
      simp [bareTrigger]
    rw [htext, dropPeriod_concat]
  | false =>
    have htext : (bareTrigger spaces false).toList = '$' :: List.replicate spaces ' ' := by
      simp [bareTrigger]
    rw [htext, dropPeriod, if_neg]
    intro hdot
    rcases List.mem_cons.mp (List.mem_of_getLast? hdot) with h | h
    · exact absurd h (by decide)
    · exact absurd (List.eq_of_mem_replicate h) (by decide)

theorem tokenize_bareTrigger (spaces : Nat) (period : Bool) :
    tokenize (bareTrigger spaces period) = "$" :: if spaces = 0 then [] else [""] := by
  cases spaces with
  | zero =>
    have hs : Separable ["$"] := ⟨by decide, by decide⟩
    apply (tokenize_eq_iff hs).mpr
    rw [dropPeriod_bareTrigger]
    exact Spaced.last "$"
  | succ spaces =>
    have hs : Separable ["$", ""] := Nameless.spaces.separable.behind_reminder .none
    apply (tokenize_eq_iff hs).mpr
    rw [dropPeriod_bareTrigger]
    have hspaced := Spaced.cons "$" spaces (Spaced.last "")
    simpa using hspaced

/-- The trigger alone is no command, but with spaces behind it it is one. -/
theorem parse_bareTrigger (r : Reminder) (spaces : Nat) (period : Bool) :
    parse (r.text ++ bareTrigger spaces period) =
      if spaces = 0 then none else some ⟨r.text ++ bareTrigger spaces period, "", [], 1⟩ := by
  have hspace : (bareTrigger spaces period).toList.head? ≠ some ' ' := by simp [bareTrigger]
  have htokens := tokenize_reminder r hspace
  rw [tokenize_bareTrigger] at htokens
  rw [parse_of_tokenize r htokens]
  by_cases h : spaces = 0
  · rw [if_pos h, if_pos h]
    rfl
  · rw [if_neg h, if_neg h]
    exact ofTokens_of_extractCount (List.cons_ne_nil _ _) Nameless.spaces.extractCount_eq

/-- A command has an empty name just if it is written as a trigger with spaces behind it at the end
of the text, less one period, and nothing else but a flag and its count between the two. With
nothing at all behind the trigger a text is no command. -/
theorem empty_name_iff (raw : String) (c : Command) :
    (parse raw = some c ∧ c.name = "" ↔
      ∃ (r : Reminder) (behind : List String) (runs : UInt32), Nameless behind runs ∧
        Spaced (r.tokens ++ "$" :: behind) (dropPeriod raw.toList) ∧ c = ⟨raw, "", [], runs⟩) ∧
    ∀ (r : Reminder) (spaces : Nat) (period : Bool),
      parse (r.text ++ bareTrigger spaces period) =
        if spaces = 0 then none else some ⟨r.text ++ bareTrigger spaces period, "", [], 1⟩ :=
  ⟨nameless_iff raw c, parse_bareTrigger⟩

/-- One space behind the trigger makes a command without a name. -/
theorem empty_name_of_trailing_space :
    parse "$ " = some ⟨"$ ", "", [], 1⟩ ∧
      ¬ ∀ (raw : String) (c : Command), parse raw = some c → c.name ≠ "" := by
  have hparse : parse "$ " = some ⟨"$ ", "", [], 1⟩ := by decide
  exact ⟨hparse, fun h => h "$ " _ hparse rfl⟩

end Herald.Command
