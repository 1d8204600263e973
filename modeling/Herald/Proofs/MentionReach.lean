import Herald.Proofs.CommandWriting
import Herald.Proofs.Mentions
import Herald.Proofs.Targets

/-!
# Whom a mention in a command reaches

A mention is an argument like any other: it goes through the tokens of a command before the action
sees it. No part of it is split off, as it has no space, but a label that holds the flag makes the
whole mention the flag before a count.

* `holdsFlag_spelling`: a mention holds the flag just if its label does.
* `parse_mention`: what is read from a text that asks for a user.
* `handle_mention`: that user is looked up, and nobody else, unless the label holds the flag: then
  the mention is lost, and the text is handled as if it had no argument.
-/

namespace Herald

/-! ## The flag in a mention -/

section

variable {a b : Char} {text : List Char}

/-- A pair of characters does not begin in a text without the first one. -/
theorem infix_append_of_not_mem {front : List Char} (h : a ∉ front) :
    [a, b] <:+: front ++ text ↔ [a, b] <:+: text := by
  induction front with
  | nil => rfl
  | cons c front ih =>
    have hc : a ≠ c := fun e => h (e ▸ List.mem_cons_self)
    have hfront : a ∉ front := fun hmem => h (List.mem_cons_of_mem c hmem)
    rw [List.cons_append, List.infix_cons_iff, ih hfront, List.cons_prefix_cons]
    simp [hc]

/-- A pair of characters does not end with another one than its second. -/
theorem infix_concat_of_ne {c : Char} (h : b ≠ c) :
    [a, b] <:+: text ++ [c] ↔ [a, b] <:+: text := by
  rw [List.infix_concat_iff]
  constructor
  · rintro (⟨front, hfront⟩ | hinfix)
    · have hlast := congrArg List.getLast? hfront
      simp [h] at hlast
    · exact hinfix
  · exact .inr

end

/-- A mention holds the flag just if its label does. -/
theorem holdsFlag_spelling {id : String} (hid : Mention.IsId id.toList) (label : Option String) :
    Command.HoldsFlag (Mention.spelling id label) ↔ ∃ l ∈ label, Command.HoldsFlag l := by
  have hdash : '-' ∉ ['<', '@'] ++ id.toList := by
    intro hmem
    rcases List.mem_append.mp hmem with hmem | hmem
    · exact absurd hmem (by decide)
    · exact absurd (hid.of_mem hmem) (by decide)
  have hflag : "-c".toList = ['-', 'c'] := rfl
  have hbar : '-' ∉ ['|'] := by decide
  rw [Command.HoldsFlag, hflag, Mention.toList_spelling, infix_append_of_not_mem hdash,
    infix_concat_of_ne (by decide)]
  cases label with
  | none => simp
  | some l => simpa [Command.HoldsFlag] using infix_append_of_not_mem hbar

/-! ## Reading the text -/

namespace Command

variable {id : String} {label : Option String}

theorem space_notMem_spelling (hid : Mention.IsId id.toList)
    (hlabel : ∀ l ∈ label, ' ' ∉ l.toList) : ' ' ∉ (Mention.spelling id label).toList := by
  have hspace : ' ' ∉ id.toList := fun hmem => absurd (hid.of_mem hmem) (by decide)
  rw [Mention.toList_spelling]
  cases label with
  | none => simpa using hspace
  | some l => simpa using ⟨hspace, hlabel l rfl⟩

/-- No part of a mention is split off. -/
theorem tokenize_mention (hid : Mention.IsId id.toList) (hlabel : ∀ l ∈ label, ' ' ∉ l.toList) :
    tokenize ("$ ojichat " ++ Mention.spelling id label) =
      ["$", "ojichat", Mention.spelling id label] := by
  have hlast : Separable [Mention.spelling id label] := by
    refine ⟨?_, by simp⟩
    simpa using space_notMem_spelling hid hlabel
  have hs : Separable ["$", "ojichat", Mention.spelling id label] :=
    (hlast.cons (by decide) (by decide)).cons (by decide) (by decide)
  have htext : ("$ ojichat " ++ Mention.spelling id label).toList =
      "$".toList ++ [' '] ++ ("ojichat".toList ++ [' '] ++ (Mention.spelling id label).toList) := by
    simp
  -- a mention does not end in a period
  have hperiod : ("$ ojichat " ++ Mention.spelling id label).toList.getLast? ≠ some '.' := by
    rw [String.toList_append, Mention.toList_spelling, ← List.append_assoc, ← List.append_assoc,
      List.getLast?_concat]
    decide
  rw [tokenize_eq_iff hs, dropPeriod, if_neg hperiod, htext]
  exact .cons "$" 0 (.cons "ojichat" 0 (.last _))

/-- A mention is the argument of the command, unless its label holds the flag: then there is no
argument. -/
theorem parse_mention (hid : Mention.IsId id.toList) (hlabel : ∀ l ∈ label, ' ' ∉ l.toList) :
    ((∀ l ∈ label, ¬ HoldsFlag l) → parse ("$ ojichat " ++ Mention.spelling id label) =
      some ⟨"$ ojichat " ++ Mention.spelling id label, "ojichat", [Mention.spelling id label], 1⟩) ∧
    ((∃ l ∈ label, HoldsFlag l) → parse ("$ ojichat " ++ Mention.spelling id label) =
      some ⟨"$ ojichat " ++ Mention.spelling id label, "ojichat", [], 1⟩) := by
  have hname : ¬ HoldsFlag "ojichat" := fun h => absurd (isCountFlag_iff.mpr h) (by decide)
  rw [parse_of_tokenize .none (tokenize_mention hid hlabel)]
  constructor
  · intro hclean
    have hmention : ¬ HoldsFlag (Mention.spelling id label) := by
      rw [holdsFlag_spelling hid]
      rintro ⟨l, hl, hflag⟩
      exact hclean l hl hflag
    refine ofTokens_of_extractCount (List.cons_ne_nil _ _) (extractCount_of_no_flag ?_)
    simp [hname, hmention]
  · intro hflag
    have hextract : extractCount (["ojichat"] ++ Mention.spelling id label :: []) =
        (["ojichat"], 1) :=
      extractCount_of_flag (by simpa using hname) ((holdsFlag_spelling hid label).mpr hflag)
    exact ofTokens_of_extractCount (List.cons_ne_nil _ _) hextract

end Command

/-! ## Handling the text -/

/-- The id that a user is looked up by. -/
def Exchange.lookedUp? (x : Exchange) : Option String :=
  match x.1 with
  | .user id => some id
  | _ => none

namespace Action.Ojichat

/-- The user that a text is about is looked up once, and no other. -/
theorem Tells.lookedUp {m : Incoming} {id : String} {xs : List Exchange}
    {made : Except Failure Message} (h : Tells m id xs made) :
    xs.filterMap Exchange.lookedUp? = [id] := by
  cases h <;> rfl

end Action.Ojichat

namespace Schedule

/-- Nobody is looked up for a message that has been made. -/
theorem Turn.Ends.lookedUp {delay : UInt64} {made : Except Failure Message} {xs : List Exchange}
    (h : Turn.Ends delay made xs) : xs.filterMap Exchange.lookedUp? = [] := by
  cases h <;> rfl

/-- What is found when a turn of the action `ojichat` begins, is found for the channel. -/
theorem Turn.found_of_mem {s : Schedule} {args : List String} {m : Incoming} {turn : Turn}
    (htargeted : Action.Ojichat.Targeted args m turn.asked turn.made)
    (hends : Turn.Ends s.delay turn.made turn.ending) {channel : Channel}
    (hfound : ⟨.channel m.channel, .ok channel⟩ ∈ turn.exchanges) :
    ∃ channel rest, turn.asked = ⟨.channel m.channel, .ok channel⟩ :: rest := by
  obtain ⟨found, rest, hasked⟩ := htargeted.channel_first
  cases found with
  | ok channel => exact ⟨channel, rest, hasked⟩
  | error f =>
    -- the turn has come to its end with the channel
    obtain ⟨rfl, hmade⟩ := htargeted.no_channel f rest hasked
    rw [hmade] at hends
    rw [Turn.exchanges, hasked] at hfound
    generalize turn.ending = ending at hends hfound
    cases hends
    simp at hfound

/-- A command that asks for one run gets it, unless none at all is allowed. -/
theorem clamp_one {s : Schedule} (h : s.maxRuns ≠ some 0) : s.clamp 1 = 1 := by
  unfold clamp
  cases hmax : s.maxRuns with
  | none => rfl
  | some max =>
    have hle : ¬ max < 1 := by
      intro hlt
      have hzero : max.toNat = 0 := Nat.lt_one_iff.mp (UInt32.lt_iff_toNat_lt.mp hlt)
      have hmaxzero : max = 0 := UInt32.toNat_inj.mp hzero
      exact h (by rw [hmax, hmaxzero])
    exact if_neg hle

end Schedule

namespace Bot

variable {announce : String} {schedule : Schedule}

theorem handle_ojichat (m : Incoming) {args : List String}
    (hparse : Command.parse m.text = some ⟨m.text, "ojichat", args, 1⟩) :
    Bot.handle { announce, schedule } m =
      some <$> schedule.run outlet Action.ojichat.name (Action.ojichat.run args m).run 1 := by
  rw [handle, hparse]
  rfl

variable {m : Incoming}

/-- A command that mentions a user looks up that user alone. -/
theorem lookedUp_of_mention {mention id : String}
    (hparse : Command.parse m.text = some ⟨m.text, "ojichat", [mention], 1⟩)
    (hmention : Mention.user? mention = some id) (hmax : schedule.maxRuns ≠ some 0)
    {xs : List Exchange} {result : Option RunReport}
    (hcourse : (Bot.handle { announce, schedule } m).Course xs (.done result)) {channel : Channel}
    (hfound : ⟨.channel m.channel, .ok channel⟩ ∈ xs) :
    xs.filterMap Exchange.lookedUp? = [id] := by
  rw [handle_ojichat m hparse] at hcourse
  obtain ⟨report, hrun, -⟩ := hcourse.of_map
  rw [Schedule.run, Schedule.clamp_one hmax] at hrun
  -- there is one turn
  obtain ⟨turns, rfl, hlength, hnil, hturns⟩ := schedule.exists_turns _ hrun
  have hne : turns ≠ [] := fun h => absurd (hnil.mp h) (by decide)
  obtain ⟨turn, rest, rfl⟩ := List.exists_cons_of_ne_nil hne
  obtain rfl : rest = [] := by
    apply List.eq_nil_of_length_eq_zero
    simpa using hlength
  obtain ⟨hinvoked, hends⟩ := hturns turn List.mem_cons_self
  have htargeted := Action.Ojichat.targeted_of_course hinvoked
  rw [List.flatMap_singleton] at hfound ⊢
  obtain ⟨channel, rest, hasked⟩ := Schedule.Turn.found_of_mem htargeted hends hfound
  have htells := htargeted.mentioned channel rest mention [] id hasked rfl hmention
  rw [Schedule.Turn.exchanges, hasked, List.filterMap_append, hends.lookedUp, List.append_nil]
  exact htells.lookedUp

/-- A command that mentions a user looks up that user alone, unless the label holds the flag: then it
is handled as a command without an argument. -/
theorem handle_mention {id : String} {label : Option String} (hid : Mention.IsId id.toList)
    (hlabel : ∀ l ∈ label, '>' ∉ l.toList ∧ ' ' ∉ l.toList)
    (htext : m.text = "$ ojichat " ++ Mention.spelling id label)
    (answer : (q : Query) → σ → q.Answer × σ) (world : σ) :
    let exchanges := ((Bot.handle { announce, schedule } m).conclude answer world).2.1
    ((∀ l ∈ label, ¬ Command.HoldsFlag l) → schedule.maxRuns ≠ some 0 →
      (∃ channel, ⟨.channel m.channel, .ok channel⟩ ∈ exchanges) →
        exchanges.filterMap Exchange.lookedUp? = [id]) ∧
    ((∃ l ∈ label, Command.HoldsFlag l) →
      Bot.handle { announce, schedule } m =
        Bot.handle { announce, schedule } { m with text := "$ ojichat" }) := by
  intro exchanges
  have hmention := Mention.user?_spelling hid fun l hl => (hlabel l hl).1
  obtain ⟨hclean, hflagged⟩ := Command.parse_mention hid fun l hl => (hlabel l hl).2
  rw [← htext] at hclean hflagged
  constructor
  · rintro hflag hmax ⟨channel, hfound⟩
    have hcourse := Job.course_conclude answer (Bot.handle { announce, schedule } m) world
    exact lookedUp_of_mention (hclean hflag) hmention hmax hcourse hfound
  · intro hflag
    have hbare : Command.parse "$ ojichat" = some ⟨"$ ojichat", "ojichat", [], 1⟩ := by decide
    rw [handle_ojichat m (hflagged hflag), handle_ojichat { m with text := "$ ojichat" } hbare]
    rfl

/-- A message that mentions someone by a name with a hyphen. -/
def hyphenated : Incoming :=
  ⟨"U1", "C1", "$ ojichat <@W0123ABCD|jean-luc>"⟩

/-- Someone is mentioned by a name with a hyphen. -/
theorem handle_mention_hyphen :
    Mention.IsId "W0123ABCD".toList ∧ '>' ∉ "jean-luc".toList ∧ ' ' ∉ "jean-luc".toList ∧
      ¬ Command.HoldsFlag "jean-luc" ∧
      ((Bot.handle { announce := "C0", schedule := ⟨1000, none⟩ } hyphenated).conclude
          (fun q (n : Nat) => (Pool.village.answer none q, n + 1)) 0).2.1.filterMap
            Exchange.lookedUp? = ["W0123ABCD"] := by
  have hid : Mention.IsId "W0123ABCD".toList := by decide
  have hlabel : ∀ l ∈ some "jean-luc",
      ('>' ∉ l.toList ∧ ' ' ∉ l.toList) ∧ ¬ Command.HoldsFlag l := by
    rintro _ ⟨⟩
    exact ⟨by decide, fun h => absurd (Command.isCountFlag_iff.mpr h) (by decide)⟩
  have htext : hyphenated.text =
      "$ ojichat " ++ Mention.spelling "W0123ABCD" (some "jean-luc") := by decide
  have hparse : Command.parse hyphenated.text =
      some ⟨hyphenated.text, "ojichat", ["<@W0123ABCD|jean-luc>"], 1⟩ := by
    decide +kernel
  refine ⟨hid, (hlabel _ rfl).1.1, (hlabel _ rfl).1.2, (hlabel _ rfl).2, ?_⟩
  refine (handle_mention hid (fun l hl => (hlabel l hl).1) htext _ _).1
    (fun l hl => (hlabel l hl).2) (by decide) ?_
  rw [handle_ojichat hyphenated hparse]
  exact ⟨_, List.mem_cons_self⟩

/-- Someone whose name holds the flag is mentioned, and someone else is looked up. -/
theorem mention_lost_with_flag :
    let m : Incoming := ⟨"U1", "C1", "$ ojichat <@W0123ABCD|jean-claude>"⟩
    let exchanges := ((Bot.handle { announce := "C0", schedule := ⟨1000, none⟩ } m).conclude
      (fun q (n : Nat) => (Pool.village.answer (some ⟨"UBOT", "herald"⟩) q, n + 1)) 0).2.1
    Mention.IsId "W0123ABCD".toList ∧ '>' ∉ "jean-claude".toList ∧ ' ' ∉ "jean-claude".toList ∧
      m.text = "$ ojichat " ++ Mention.spelling "W0123ABCD" (some "jean-claude") ∧
      (∃ channel, ⟨.channel m.channel, .ok channel⟩ ∈ exchanges) ∧
      exchanges.filterMap Exchange.lookedUp? = ["U1"] := by
  intro m exchanges
  have hid : Mention.IsId "W0123ABCD".toList := by decide
  have hparse : Command.parse m.text = some ⟨m.text, "ojichat", [], 1⟩ := by decide +kernel
  refine ⟨hid, by decide, by decide, by decide, ?_, ?_⟩ <;> simp only [exchanges]
  · rw [handle_ojichat m hparse]
    exact ⟨_, List.mem_cons_self⟩
  · rw [handle_ojichat m hparse]
    rfl

end Bot

end Herald
