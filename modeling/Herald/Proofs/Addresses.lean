import Herald.Proofs.FormQuery
import Mathlib.Data.List.Basic
import Mathlib.Data.List.TakeWhile

/-!
# Addresses in ASCII

Most names of hosts are written in lower-case letters, digits, hyphens and points. Such a name is
already in its one spelling, and an address that begins with it is read as it is written.

* `Name.composed_of_ascii`: nothing is taken apart or joined in ASCII.
* `hostText?_of_plain`: a plain name is the host that it names.
* `ofText?_of_plain`: an address of a plain host, with all that stands behind it.
-/

namespace Herald.Url

/-- What holds of each item by evaluation. -/
theorem forall_mem_of_all {p : α → Prop} [DecidablePred p] {l : List α}
    (h : l.all (fun a => decide (p a)) = true) : ∀ a ∈ l, p a :=
  fun a ha => of_decide_eq_true (List.all_eq_true.mp h a ha)

namespace Name

/-! ## Nothing to compose -/

/-- The composites of a row. -/
def compositesOf (mark : Nat) (words : List Char) : List Composite :=
  (Text.splitWhere (· = ' ') words).filterMap fun
    | [first, whole] => some ⟨first, Char.ofNat mark, whole⟩
    | _ => none

set_option maxRecDepth 4096 in
theorem outside_ascii_rows : ∀ row ∈ compositeRows, ∃ words, row.2 = String.ofList words ∧
    ((compositesOf row.1 words).all fun p =>
      128 ≤ p.second.toNat && 128 ≤ p.whole.toNat) = true := by
  simp only [compositeRows, List.forall_mem_cons]
  and_intros
  all_goals first | exact ⟨_, rfl, by decide +kernel⟩ | exact List.forall_mem_nil _

/-- Neither a mark nor a character that stands for others is in ASCII. -/
theorem outside_ascii {p : Composite} (h : p ∈ composites) :
    128 ≤ p.second.toNat ∧ 128 ≤ p.whole.toNat := by
  obtain ⟨⟨mark, text⟩, hrow, hp⟩ := List.mem_flatMap.mp h
  obtain ⟨words, rfl, hall⟩ := outside_ascii_rows _ hrow
  change p ∈ compositesOf mark (String.ofList words).toList at hp
  rw [String.toList_ofList] at hp
  simpa using List.all_eq_true.mp hall p hp

theorem outside_ascii_markClasses :
    (markClasses.all fun (_, ranges) => ranges.all fun (first, _) => 128 ≤ first) = true := by
  decide +kernel

section

variable {c : Char} (hc : c.toNat < 128)

include hc

theorem markClass_of_ascii : markClass c = 0 := by
  have hnone : markClasses.find? (fun (_, ranges) => ranges.holds c) = none := by
    rw [List.find?_eq_none]
    rintro ⟨n, ranges⟩ hmem hholds
    obtain ⟨⟨first, last⟩, hrange, hin⟩ := List.any_eq_true.mp hholds
    have hfirst := List.all_eq_true.mp
      (List.all_eq_true.mp outside_ascii_markClasses _ hmem) _ hrange
    simp only [Bool.and_eq_true, decide_eq_true_eq] at hin hfirst
    omega
  rw [markClass, hnone]
  rfl

theorem split?_of_ascii : split? c = none := by
  have hnone : composites.find? (·.whole = c) = none := by
    rw [List.find?_eq_none]
    intro p hp hwhole
    obtain ⟨-, houtside⟩ := outside_ascii hp
    rw [of_decide_eq_true hwhole] at houtside
    omega
  have hsyllable : splitSyllable? c = none := by
    refine if_neg ?_
    rintro ⟨hlow, -⟩
    exact absurd (Nat.le_trans hlow (Nat.le_of_lt hc)) (by decide)
  rw [split?, hnone, hsyllable]
  rfl

theorem join?_of_ascii (base : Char) : join? base c = none := by
  have hnone : composites.find? (fun p => p.first = base && p.second = c) = none := by
    rw [List.find?_eq_none]
    intro p hp hsame
    obtain ⟨houtside, -⟩ := outside_ascii hp
    simp only [Bool.and_eq_true, decide_eq_true_eq] at hsame
    rw [hsame.2] at houtside
    omega
  have hsyllable : joinSyllable? base c = none := by
    refine (if_neg ?_).trans (if_neg ?_)
    · rintro ⟨-, -, hvowel, -⟩
      exact absurd (Nat.le_trans hvowel (Nat.le_of_lt hc)) (by decide)
    · rintro ⟨-, -, -, htail, -⟩
      exact absurd (Nat.le_trans (Nat.le_of_lt htail) (Nat.le_of_lt hc)) (by decide)
  rw [join?, hnone, hsyllable]
  rfl

end

variable {text : List Char}

theorem joinOn_of_ascii (h : ∀ c ∈ text, c.toNat < 128) (base : Char) :
    joinOn base [] text = base :: text := by
  induction text generalizing base with
  | nil => rfl
  | cons c rest ih =>
    obtain ⟨hc, hrest⟩ := List.forall_mem_cons.mp h
    simp only [joinOn, List.getLast?_nil, if_true, join?_of_ascii hc, markClass_of_ascii hc,
      ih hrest, List.nil_append, List.cons_append]

theorem insertMark_of_ascii {c : Char} (hc : c.toNat < 128) : insertMark c text = c :: text := by
  cases text with
  | nil => rfl
  | cons d rest => rw [insertMark, markClass_of_ascii hc, if_neg (by omega)]

/-- A text in ASCII is in its one spelling. -/
theorem composed_of_ascii (h : ∀ c ∈ text, c.toNat < 128) : composed text = text := by
  have happart : text.flatMap (apart apartLimit) = text := by
    have hone : ∀ c ∈ text, apart apartLimit c = [c] := by
      intro c hc
      rw [apartLimit, apart, split?_of_ascii (h c hc)]
    rw [List.flatMap_congr hone, List.flatMap_singleton']
  have hinsert : text.foldr insertMark [] = text := by
    clear happart
    induction text with
    | nil => rfl
    | cons c rest ih =>
      obtain ⟨hc, hrest⟩ := List.forall_mem_cons.mp h
      rw [List.foldr_cons, ih hrest, insertMark_of_ascii hc]
  rw [composed, happart, hinsert]
  cases text with
  | nil => rfl
  | cons c rest => exact joinOn_of_ascii (List.forall_mem_cons.mp h).2 c

/-! ## Plain names -/

/-- The characters of plain names. -/
def plainChars : List Char := "abcdefghijklmnopqrstuvwxyz0123456789-.".toList

theorem plainChars_spec : ∀ c ∈ plainChars, c.toNat < 128 ∧ foldChar? c = some [c] ∧
    turns [c] = false ∧ isNameChar c = true ∧ c ∉ ['%', '[', ':', '@', '/', '\\', '?', '#'] :=
  forall_mem_of_all (by decide +kernel)

/-- A name of plain characters, none of whose labels comes in Punycode. -/
structure Plain (name : List Char) : Prop where
  plain : ∀ c ∈ name, c ∈ plainChars
  labels : ∀ label ∈ Text.splitWhere (· = '.') name, Text.afterPrefix? punycodeMark label = none

theorem mapM_eq_map {f : α → Option β} {g : α → β} {l : List α}
    (h : ∀ a ∈ l, f a = some (g a)) : l.mapM f = some (l.map g) := by
  induction l with
  | nil => rfl
  | cons a l ih =>
    obtain ⟨ha, hl⟩ := List.forall_mem_cons.mp h
    rw [List.mapM_cons, ha, ih hl]
    rfl

/-- A plain name is written as it is. -/
theorem Plain.ofText?_eq {name : List Char} (h : Plain name) : ofText? name = some name := by
  have hascii : ∀ c ∈ name, c.toNat < 128 := fun c hc => (plainChars_spec c (h.plain c hc)).1
  have hfolded : folded? name = some name := by
    have hfold : ∀ c ∈ name, foldChar? c = some [c] :=
      fun c hc => (plainChars_spec c (h.plain c hc)).2.1
    rw [folded?, mapM_eq_map hfold, Option.map_some, ← List.flatMap_def, List.flatMap_singleton']
  have hmade : (Text.splitWhere (· = '.') name).mapM Label.ofText? =
      some ((Text.splitWhere (· = '.') name).map fun label => ⟨label, label⟩) := by
    refine mapM_eq_map fun label hlabel => ?_
    have hall : isAscii label = true := by
      refine List.all_eq_true.mpr fun c hc => ?_
      exact decide_eq_true (hascii c (Text.mem_of_mem_splitWhere hlabel hc).1)
    simp [Label.ofText?, h.labels label hlabel, hall]
  have hturns : ((Text.splitWhere (· = '.') name).map fun label => (⟨label, label⟩ : Label)).any
      (turns ·.shown) = false := by
    rw [List.any_map, List.any_eq_false]
    intro label hlabel hturn
    obtain ⟨c, hc, hdirection⟩ := List.any_eq_true.mp hturn
    have hmem := (Text.mem_of_mem_splitWhere hlabel hc).1
    have hplain := (plainChars_spec c (h.plain c hmem)).2.2.1
    rw [turns, List.any_cons, hdirection] at hplain
    cases hplain
  simp only [ofText?, hfolded, Option.bind_eq_bind, Option.bind_some, composed_of_ascii hascii,
    hmade, hturns]
  simp [Function.comp_def, Text.intercalate_splitWhere]

end Name

/-! ## Hosts -/

theorem decode_of_no_percent {text : List Char} (h : '%' ∉ text) :
    Text.Percent.decode text = Text.Utf8.encode text := by
  induction text with
  | nil => rfl
  | cons c rest ih =>
    rw [List.mem_cons, not_or] at h
    rw [Text.Percent.decode_plain (Ne.symm h.1), ih h.2]
    rfl

/-- A plain name is a host, if it is not empty and does not end like an address of numbers. -/
structure PlainHost (host : List Char) : Prop extends Name.Plain host where
  ne_nil : host ≠ []
  no_number : endsInNumber host = false

/-- Nothing that ends a part of an address stands in a plain host. -/
theorem Name.Plain.not_mem {name : List Char} (h : Name.Plain name) {mark : Char}
    (hmark : mark ∈ ['%', '[', ':', '@', '/', '\\', '?', '#']) : mark ∉ name := fun hmem =>
  (Name.plainChars_spec mark (h.plain mark hmem)).2.2.2.2 hmark

theorem PlainHost.hostText?_eq {host : List Char} (h : PlainHost host) :
    hostText? host = some host := by
  have hdecoded : Text.Utf8.decode? (Text.Percent.decode host) = some host := by
    rw [decode_of_no_percent (h.not_mem (by decide))]
    exact Text.Utf8.decode?_eq_some_iff.mpr rfl
  have hchars : ∀ c ∈ host, isNameChar c = true :=
    fun c hc => (Name.plainChars_spec c (h.plain c hc)).2.2.2.1
  have hbracket : ∀ rest, host ≠ '[' :: rest := by
    rintro rest rfl
    exact h.not_mem (by decide) List.mem_cons_self
  rw [hostText?]
  · simpa [hdecoded, h.ofText?_eq, h.ne_nil, h.no_number] using hchars
  · exact hbracket

/-! ## Addresses -/

/-- Nothing is left out of a text without blanks and control characters. -/
theorem cleaned_eq {text : List Char} (h : ∀ c ∈ text, ' ' < c) : cleaned text = text := by
  have hedge : ∀ l : List Char, (∀ c ∈ l, ' ' < c) → l.dropWhile (· ≤ ' ') = l := by
    intro l hl
    rw [List.dropWhile_eq_self_iff]
    intro hpos
    simpa using hl _ (List.getElem_mem hpos)
  have hreverse : ∀ c ∈ text.reverse, ' ' < c := fun c hc => h c (List.mem_reverse.mp hc)
  simp only [cleaned]
  rw [hedge text h, hedge text.reverse hreverse, List.reverse_reverse, List.filter_eq_self]
  intro c hc
  have hne : ∀ blank : Char, blank ≤ ' ' → c ≠ blank := by
    rintro _ hblank rfl
    exact absurd (h _ hc) (Char.not_lt.mpr hblank)
  simp [hne '\t' (by decide), hne '\n' (by decide), hne '\r' (by decide)]

theorem splitHost_of_plain {host : List Char} (h : Name.Plain host) :
    splitHost host = (host, none) := by
  have hmarks : ∀ c ∈ host, c ≠ ':' ∧ c ≠ '[' := by
    intro c hc
    constructor
    · rintro rfl
      exact h.not_mem (by decide) hc
    · rintro rfl
      exact h.not_mem (by decide) hc
  rw [splitHost]
  clear h
  induction host with
  | nil => rfl
  | cons c rest ih =>
    obtain ⟨hc, hrest⟩ := List.forall_mem_cons.mp hmarks
    simp [splitHost.go, hc, ih hrest]

/-- The host of an address goes on through all of a plain name. -/
theorem Name.Plain.goes_on {host : List Char} (h : Name.Plain host) :
    ∀ c ∈ host, (!(isSlash c || decide (c = '?') || decide (c = '#'))) = true := by
  intro c hc
  have hmarks := (Name.plainChars_spec c (h.plain c hc)).2.2.2.2
  simp only [List.mem_cons, List.not_mem_nil, or_false, not_or] at hmarks
  simp [isSlash, hmarks]

/-- Nobody is named in front of a plain host. -/
theorem Name.Plain.no_user {host : List Char} (h : Name.Plain host) :
    ∀ c ∈ host.reverse, decide (c ≠ '@') = true := by
  intro c hc
  refine decide_eq_true ?_
  rintro rfl
  exact h.not_mem (by decide) (List.mem_reverse.mp hc)

/-- A plain host does not begin with a slash. -/
theorem PlainHost.dropWhile_isSlash {host : List Char} (h : PlainHost host) (rest : List Char) :
    (host ++ rest).dropWhile isSlash = host ++ rest := by
  obtain ⟨c, host, rfl⟩ := List.exists_cons_of_ne_nil h.ne_nil
  have hc := h.toPlain.goes_on c List.mem_cons_self
  simp only [Bool.not_eq_true', Bool.or_eq_false_iff] at hc
  rw [List.cons_append, List.dropWhile_cons, if_neg (by simp [hc.1.1])]

/-- An address of a plain host, behind which only a path stands, is read as it is written. -/
theorem ofText?_of_plainHost {host path : List Char} (hhost : PlainHost host)
    (hpath : ∀ c ∈ path, ' ' < c ∧ c ≠ '?' ∧ c ≠ '#') :
    ofText? (String.ofList ("https://".toList ++ host ++ '/' :: path)) =
      some { secure := true, host, path := pathText ('/' :: path) } := by
  have hvisible : ∀ c ∈ Name.plainChars, ' ' < c := forall_mem_of_all (by decide)
  have hclean : cleaned ("https://".toList ++ host ++ '/' :: path) =
      "https://".toList ++ host ++ '/' :: path := by
    refine cleaned_eq ?_
    simp only [List.forall_mem_append, List.forall_mem_cons]
    exact ⟨⟨forall_mem_of_all (by decide), fun c hc => hvisible c (hhost.plain c hc)⟩, by decide,
      fun c hc => (hpath c hc).1⟩
  have hscheme : splitScheme? ("https://".toList ++ host ++ '/' :: path) =
      some ("https".toList, '/' :: '/' :: (host ++ '/' :: path)) := by
    simp [splitScheme?]
  have hslashes : ('/' :: '/' :: (host ++ '/' :: path)).dropWhile isSlash =
      host ++ '/' :: path := by
    rw [List.dropWhile_cons_of_pos rfl, List.dropWhile_cons_of_pos rfl, hhost.dropWhile_isSlash]
  have hend := hhost.toPlain.goes_on
  have hat := hhost.toPlain.no_user
  have hfragment : ∀ c ∈ '/' :: path, decide (c ≠ '#') = true :=
    List.forall_mem_cons.mpr ⟨by decide, fun c hc => decide_eq_true (hpath c hc).2.2⟩
  have hquery : ∀ c ∈ '/' :: path, decide (c ≠ '?') = true :=
    List.forall_mem_cons.mpr ⟨by decide, fun c hc => decide_eq_true (hpath c hc).2.1⟩
  -- the text is cut behind the scheme and behind the host, neither of which is empty
  simp only [ofText?, String.toList_ofList, hclean, hscheme, Option.bind_eq_bind, Option.bind_some,
    hslashes, List.takeWhile_append_of_pos hend, List.dropWhile_append_of_pos hend]
  rw [if_neg (by decide), if_pos trivial, List.takeWhile_cons_of_neg (by decide),
    List.dropWhile_cons_of_neg (by decide)]
  -- there is no user, no port, no query and no fragment
  simp only [List.append_nil, List.takeWhile_eq_self_iff.mpr hat, List.dropWhile_eq_nil_iff.mpr hat,
    List.takeWhile_eq_self_iff.mpr hfragment, List.takeWhile_eq_self_iff.mpr hquery,
    List.dropWhile_eq_nil_iff.mpr hfragment, List.dropWhile_eq_nil_iff.mpr hquery,
    List.reverse_reverse, splitHost_of_plain hhost.toPlain, hhost.hostText?_eq]
  rfl

end Herald.Url
