import Herald.Proofs.RepeatCount
import Herald.Proofs.Tokens

/-!
# Writing and reading commands

A command can be written in many ways. A `Phrase` is one of them up to spaces and the period at the
end, and `Phrase.Writes` adds these.

* `parse_writes`: reading undoes writing, for every phrase and every text of it.
* `parse_spelling`: the canonical text of a command that has been read is read as the same command.
  What this rests on is `separable_of_parse`: the tokens of a command that has been read are such as
  spaces can set apart.
-/

namespace Herald.Command

/-! ## Phrases -/

/-- A flag and the count behind it: a numeral, which may have a plus sign and zeros in front and
anything behind that is no digit. -/
structure CountPair where
  flag : String
  plus : Bool
  zeros : Nat
  count : UInt32
  suffix : List Char
  holdsFlag : HoldsFlag flag
  flag_spaceless : ' ' ∉ flag.toList
  one_le_count : 1 ≤ count
  suffix_no_digit : ∀ c ∈ suffix.head?, c.isDigit = false
  suffix_spaceless : ' ' ∉ suffix

/-- The token behind the flag. -/
def CountPair.token (p : CountPair) : String :=
  String.ofList ((if p.plus then ['+'] else []) ++
    (List.replicate p.zeros '0' ++ (toString p.count.toNat).toList) ++ p.suffix)

/-- How a text may begin in front of the trigger. -/
inductive Reminder where
  | none
  | english
  | japanese

def Reminder.tokens : Reminder → List String
  | none => []
  | english => ["Reminder:"]
  | japanese => ["リマインダー", ":"]

/-- A command as someone may write it. -/
structure Phrase where
  reminder : Reminder
  name : String
  args : List String
  /-- The flag with its count, and how many of the words stand in front of it. -/
  count : Option (CountPair × Nat)
  word : ∀ w ∈ name :: args, w ≠ "" ∧ ' ' ∉ w.toList
  /-- No word holds the flag in front of its place, or at all if there is no count. -/
  unflagged : ∀ w ∈ (name :: args).take (count.elim (name :: args).length Prod.snd), ¬ HoldsFlag w

namespace Phrase

/-- The tokens behind the trigger. -/
def behind (p : Phrase) : List String :=
  match p.count with
  | none => p.name :: p.args
  | some (pair, position) =>
    (p.name :: p.args).take position ++ pair.flag :: pair.token :: (p.name :: p.args).drop position

def tokens (p : Phrase) : List String :=
  p.reminder.tokens ++ "$" :: p.behind

/-- How often the command is to run. -/
def runs (p : Phrase) : UInt32 :=
  p.count.elim 1 fun (pair, _) => pair.count

/-- The texts of a phrase: they end in a period of their own, unless the last token has none that
would be taken for it. -/
def Writes (p : Phrase) (raw : String) : Prop :=
  ∃ text, Spaced p.tokens text ∧
    (raw.toList = text ++ ['.'] ∨
      raw.toList = text ∧ ∀ token ∈ p.tokens.getLast?, token.toList.getLast? ≠ some '.')

end Phrase

/-! ## The period -/

theorem dropPeriod_concat (text : List Char) : dropPeriod (text ++ ['.']) = text := by
  simp [dropPeriod]

/-- A text ends as its last token does, if that is not empty. -/
theorem Spaced.getLast? {tokens : List String} {text : List Char} (h : Spaced tokens text)
    (hne : ∀ token ∈ tokens, token ≠ "") :
    text.getLast? = tokens.getLast?.bind (·.toList.getLast?) := by
  induction h with
  | last token => rfl
  | @cons token gap rest text hrest ih =>
    have hrest' := ih fun t ht => hne t (List.mem_cons_of_mem token ht)
    obtain ⟨next, others, rfl⟩ := List.exists_cons_of_ne_nil hrest.ne_nil
    have htext : text ≠ [] := by
      have hnext := hne next (List.mem_cons_of_mem token List.mem_cons_self)
      have hlist : next.toList ≠ [] := fun e => hnext (String.toList_eq_nil_iff.mp e)
      cases hrest with
      | last _ => exact hlist
      | cons _ gap _ => simp [hlist]
    rw [List.getLast?_append, List.getLast?_eq_some_getLast htext, Option.some_or,
      ← List.getLast?_eq_some_getLast htext, hrest', List.getLast?_cons_cons]

/-! ## Reading undoes writing -/

/-- With the trigger in its place, the command is read from the tokens behind it. -/
theorem parse_of_tokenize {raw : String} (reminder : Reminder) {behind : List String}
    (h : tokenize raw = reminder.tokens ++ "$" :: behind) : parse raw = ofTokens raw behind := by
  have hstrip : stripReminder (tokenize raw) = "$" :: behind := by
    rw [h]
    cases reminder <;> rfl
  rw [parse, hstrip]
  exact if_pos rfl

/-- What is read from the tokens behind the trigger. -/
theorem ofTokens_of_extractCount {input name : String} {args tokens : List String} {runs : UInt32}
    (hne : tokens ≠ []) (h : extractCount tokens = (name :: args, runs)) :
    ofTokens input tokens = some ⟨input, name, args, runs⟩ := by
  have hempty : tokens.isEmpty = false := by simpa using hne
  simp [ofTokens, hempty, h]

theorem CountPair.token_toList (pair : CountPair) :
    pair.token.toList = (if pair.plus then ['+'] else []) ++
      (List.replicate pair.zeros '0' ++ (toString pair.count.toNat).toList) ++ pair.suffix :=
  String.toList_ofList

theorem space_notMem_toDigits (n : Nat) : ' ' ∉ Nat.toDigits 10 n := by
  intro h
  have hdigit := Nat.isDigit_of_mem_toDigits (by decide) (by decide) h
  exact absurd hdigit (by decide)

theorem CountPair.token_word (pair : CountPair) : pair.token ≠ "" ∧ ' ' ∉ pair.token.toList := by
  constructor
  · intro h
    have hlist := congrArg String.toList h
    rw [token_toList, Text.toString_toList] at hlist
    simp [Nat.toDigits_ne_nil] at hlist
  · rw [token_toList, Text.toString_toList]
    intro h
    have hnumeral := space_notMem_toDigits pair.count.toNat
    have hzeros : ' ' ∉ List.replicate pair.zeros '0' := by simp
    have hplus : ' ' ∉ (if pair.plus then ['+'] else []) := by split <;> simp
    simp [hnumeral, hzeros, hplus, pair.suffix_spaceless] at h

theorem CountPair.flag_word (pair : CountPair) : pair.flag ≠ "" ∧ ' ' ∉ pair.flag.toList :=
  ⟨pair.holdsFlag.ne_empty, pair.flag_spaceless⟩

namespace Phrase

/-- No token of a phrase is empty or holds a space. -/
theorem token_word (p : Phrase) : ∀ token ∈ p.tokens, token ≠ "" ∧ ' ' ∉ token.toList := by
  have hbehind : ∀ token ∈ p.behind, token ≠ "" ∧ ' ' ∉ token.toList := by
    intro token htoken
    unfold behind at htoken
    split at htoken
    · exact p.word token htoken
    · next pair position _ =>
      rcases List.mem_append.mp htoken with h | h
      · exact p.word token (List.mem_of_mem_take h)
      · rcases List.mem_cons.mp h with rfl | h
        · exact pair.flag_word
        · rcases List.mem_cons.mp h with rfl | h
          · exact pair.token_word
          · exact p.word token (List.mem_of_mem_drop h)
  intro token htoken
  rcases List.mem_append.mp htoken with h | h
  · -- the words of a reminder
    cases hr : p.reminder with
    | none => simp [hr, Reminder.tokens] at h
    | english =>
      simp only [hr, Reminder.tokens, List.mem_singleton] at h
      subst h
      decide
    | japanese =>
      simp only [hr, Reminder.tokens, List.mem_cons, List.not_mem_nil, or_false] at h
      rcases h with rfl | rfl <;> decide
  · rcases List.mem_cons.mp h with rfl | h
    · decide
    · exact hbehind token h

/-- The words and the count are found among the tokens behind the trigger. -/
theorem extractCount_behind (p : Phrase) : extractCount p.behind = (p.name :: p.args, p.runs) := by
  have hunflagged := p.unflagged
  unfold behind runs
  cases hcount : p.count with
  | none =>
    rw [hcount] at hunflagged
    simp only [Option.elim_none, List.take_length] at hunflagged
    exact extractCount_of_no_flag hunflagged
  | some placed =>
    obtain ⟨pair, position⟩ := placed
    rw [hcount] at hunflagged
    have hwords := List.take_append_drop position (p.name :: p.args)
    have hpair : countOf (some pair.token) = pair.count :=
      countOf_numeral pair.one_le_count pair.plus pair.zeros pair.suffix_no_digit
    simp only [Option.elim_some] at hunflagged ⊢
    rw [extractCount_of_flag hunflagged pair.holdsFlag, List.drop_one, List.tail_cons, hwords,
      List.head?_cons, hpair]
    simp

end Phrase

/-- Each text of a phrase is read as the command of the phrase. -/
theorem parse_writes {p : Phrase} {raw : String} (h : p.Writes raw) :
    parse raw = some ⟨raw, p.name, p.args, p.runs⟩ := by
  obtain ⟨text, hspaced, hend⟩ := h
  have hseparable : Separable p.tokens :=
    ⟨fun token htoken => (p.token_word token htoken).2,
      fun token htoken => (p.token_word token (List.dropLast_subset _ htoken)).1⟩
  have hperiod : dropPeriod raw.toList = text := by
    rcases hend with hraw | ⟨hraw, hlast⟩
    · rw [hraw, dropPeriod_concat]
    · rw [hraw, dropPeriod, if_neg]
      rw [hspaced.getLast? fun token htoken => (p.token_word token htoken).1]
      intro hdot
      obtain ⟨token, htoken, hdot⟩ := Option.bind_eq_some_iff.mp hdot
      exact hlast token htoken hdot
  have htokens := tokenize_spaced hperiod hspaced hseparable
  have hne : p.behind ≠ [] := by
    intro hnil
    have hextract := p.extractCount_behind
    rw [hnil] at hextract
    cases hextract
  rw [parse_of_tokenize p.reminder htokens]
  exact ofTokens_of_extractCount hne p.extractCount_behind

/-- A phrase with the flag in front of the name, and with another one in an argument. -/
def Phrase.flagFirst : Phrase where
  reminder := .japanese
  name := "me"
  args := ["x-c."]
  count := some
    ({ flag := "--count", plus := true, zeros := 2, count := 12, suffix := ['a', 'b', 'c'],
       holdsFlag := isCountFlag_iff.mp (by decide), flag_spaceless := by decide +kernel,
       one_le_count := by decide, suffix_no_digit := by simp, suffix_spaceless := by decide }, 0)
  word := by decide +kernel
  unflagged := by simp

/-- A flag that stands in front of the name, with a sign and letters about its digits. -/
theorem parse_writes_flagFirst :
    Phrase.flagFirst.Writes "リマインダー : $  --count +0012abc me   x-c.." ∧
      parse "リマインダー : $  --count +0012abc me   x-c.." =
        some ⟨"リマインダー : $  --count +0012abc me   x-c..", "me", ["x-c."], 12⟩ := by
  have hwrites : Phrase.flagFirst.Writes "リマインダー : $  --count +0012abc me   x-c.." :=
    ⟨_, .cons "リマインダー" 0 (.cons ":" 0 (.cons "$" 1 (.cons "--count" 0
      (.cons "+0012abc" 0 (.cons "me" 2 (.last "x-c.")))))), Or.inl (by decide)⟩
  exact ⟨hwrites, parse_writes hwrites⟩

/-! ## The canonical text -/

/-- What is dropped in front are the words of a reminder, or none. -/
theorem exists_reminder (tokens : List String) :
    ∃ r : Reminder, tokens = r.tokens ++ stripReminder tokens := by
  unfold stripReminder
  split
  · exact ⟨.english, rfl⟩
  · exact ⟨.japanese, rfl⟩
  · exact ⟨.none, rfl⟩

/-- What has been read: the tokens behind the trigger. -/
theorem ofTokens_of_parse {raw : String} {c : Command} (h : parse raw = some c) :
    ∃ behind, stripReminder (tokenize raw) = trigger :: behind ∧ ofTokens raw behind = some c := by
  unfold parse at h
  split at h
  · next first behind htokens =>
    by_cases hfirst : first = trigger
    · rw [if_pos hfirst] at h
      exact ⟨behind, by rw [htokens, hfirst], h⟩
    · rw [if_neg hfirst] at h
      cases h
  · cases h

theorem extractCount_of_ofTokens {input : String} {tokens : List String} {c : Command}
    (h : ofTokens input tokens = some c) : extractCount tokens = (c.name :: c.args, c.runs) := by
  unfold ofTokens at h
  split at h
  · cases h
  · split at h
    · next hextract =>
      cases h
      exact hextract
    · cases h

/-- The tokens behind the trigger can be set apart by spaces. -/
theorem separable_behind {raw : String} {behind : List String}
    (h : stripReminder (tokenize raw) = trigger :: behind) : Separable behind := by
  -- they are the end of those behind the first one
  obtain ⟨r, htokens⟩ := exists_reminder (tokenize raw)
  apply (separable_tail_tokenize raw).sublist
  rw [htokens, h]
  cases r.tokens with
  | nil => exact List.Sublist.refl _
  | cons first front =>
    rw [List.cons_append, List.tail_cons]
    exact (List.sublist_cons_self trigger behind).trans (List.sublist_append_right _ _)

/-- The tokens of a command that has been read can be set apart by spaces, and it runs at least
once. -/
theorem separable_of_parse {raw : String} {c : Command} (h : parse raw = some c) :
    Separable (c.name :: c.args) ∧ 1 ≤ c.runs := by
  obtain ⟨behind, hstrip, hof⟩ := ofTokens_of_parse h
  have hextract := extractCount_of_ofTokens hof
  have hsub := extractCount_sublist behind
  have hruns := one_le_extractCount behind
  rw [hextract] at hsub hruns
  exact ⟨(separable_behind hstrip).sublist hsub, hruns⟩

/-- The tokens of the canonical text. -/
def spelled (c : Command) : List String :=
  trigger :: countFlag :: toString c.runs.toNat :: c.name :: c.args

theorem toList_spelling (c : Command) :
    c.spelling.toList = [' '].intercalate (c.spelled.map String.toList) ++ ['.'] := by
  have hname : (" ".intercalate (c.name :: c.args)).toList =
      [' '].intercalate ((c.name :: c.args).map String.toList) := by
    rw [String.toList_intercalate]
    rfl
  have hflag : countFlag.toList = ['-', 'c'] := by decide
  have htrigger : trigger.toList = ['$'] := by decide
  simp only [spelling, String.toList_append, hname]
  simp [spelled, List.intercalate, List.intersperse, hflag, htrigger]

/-- The count of the canonical text. -/
theorem extractCount_spelled {c : Command} (h : 1 ≤ c.runs) :
    extractCount c.spelled.tail = (c.name :: c.args, c.runs) := by
  have hsuffix : ∀ x ∈ ([] : List Char).head?, x.isDigit = false := by simp
  have hcount := countOf_numeral h false 0 hsuffix
  simp only [Bool.false_eq_true, if_false, List.replicate_zero, List.nil_append, List.append_nil,
    String.ofList_toList] at hcount
  have hbefore : ∀ token ∈ ([] : List String), ¬ HoldsFlag token := by simp
  have hflag : HoldsFlag countFlag := List.infix_rfl
  have hextract : extractCount c.spelled.tail = _ := extractCount_of_flag hbefore hflag
  rw [hextract, List.head?_cons, hcount]
  rfl

/-- The canonical text of a command that has been read is read as the same command. -/
theorem parse_spelling {raw : String} {c : Command} (h : parse raw = some c) :
    parse c.spelling = some { c with input := c.spelling } := by
  obtain ⟨hwords, hruns⟩ := separable_of_parse h
  have hnumeral : ' ' ∉ (toString c.runs.toNat).toList := by
    rw [Text.toString_toList]
    exact space_notMem_toDigits c.runs.toNat
  have hne : toString c.runs.toNat ≠ "" := by
    intro hempty
    have hlist := congrArg String.toList hempty
    rw [Text.toString_toList] at hlist
    exact Nat.toDigits_ne_nil hlist
  have hseparable : Separable c.spelled :=
    ((hwords.cons hnumeral hne).cons (by decide) (by decide)).cons (by decide) (by decide)
  have hperiod : dropPeriod c.spelling.toList =
      [' '].intercalate (c.spelled.map String.toList) := by
    rw [toList_spelling, dropPeriod_concat]
  have htokens := tokenize_spaced hperiod (spaced_intercalate (List.cons_ne_nil _ _)) hseparable
  rw [parse_of_tokenize .none htokens]
  exact ofTokens_of_extractCount (List.cons_ne_nil _ _) (extractCount_spelled hruns)

/-- Where a flag and its count are all there is, they are the name and the argument as well. -/
theorem parse_spelling_flag_alone :
    parse "$ -c 3" = some ⟨"$ -c 3", "-c", ["3"], 3⟩ ∧
      parse "$ -c 3 -c 3." = some ⟨"$ -c 3 -c 3.", "-c", ["3"], 3⟩ := by
  have hparse : parse "$ -c 3" = some ⟨"$ -c 3", "-c", ["3"], 3⟩ := by decide
  have hspelling : spelling ⟨"$ -c 3", "-c", ["3"], 3⟩ = "$ -c 3 -c 3." := by decide
  have hagain := parse_spelling hparse
  rw [hspelling] at hagain
  exact ⟨hparse, hagain⟩

end Herald.Command
