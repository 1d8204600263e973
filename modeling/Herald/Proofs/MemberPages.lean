import Herald.Proofs.Answers
import Herald.Proofs.Requests

/-!
# The members of a channel, page by page

The look-up of a channel asks for the channel once and then for page after page of its members, each
time from where the page before has said that the next one starts. It ends at the first page that
names no next one, or at the first request that fails.

* `Collects` says in terms of the answers what has been asked for and what has come of it.
* `Dialogue.run_append`: a dialogue goes on where it has stood.
* `members_collected`: a look-up of a channel asks and returns what `Collects` says.
-/

namespace Herald.Slack

/-! ## Requests -/

/-- The request for the page that follows another one, or for the first page. -/
def pageRequest (c : Client) (id : String) : Option MembersPage → Exchange
  | none => c.get .channelMembers [("channel", id), ("limit", "1000")]
  | some page =>
    c.get .channelMembers [("channel", id), ("limit", "1000"), ("cursor", page.cursor)]

/-- The requests of a look-up that has got these pages and asks for one more. -/
def requests (c : Client) (id : String) (pages : List MembersPage) : List Exchange :=
  c.get .channelInfo [("channel", id)] :: pageRequest c id none ::
    pages.map fun page => pageRequest c id (some page)

/-- Where the page after these starts. -/
def cursorAfter (pages : List MembersPage) : String :=
  (pages.getLast?.map (·.cursor)).getD ""

section

variable (c : Client) (id : String)

@[simp] theorem length_requests (pages : List MembersPage) :
    (requests c id pages).length = pages.length + 2 := by
  simp [requests]

@[simp] theorem requests_concat (pages : List MembersPage) (page : MembersPage) :
    requests c id (pages ++ [page]) = requests c id pages ++ [pageRequest c id (some page)] := by
  simp [requests]

/-- The last request is for the page after the last one. -/
theorem dropLast_requests_append (pages : List MembersPage) :
    (requests c id pages).dropLast ++ [pageRequest c id pages.getLast?] = requests c id pages := by
  cases pages using List.reverseRecOn with
  | nil => rfl
  | append_singleton pages page => simp

end

/-! ## What comes of the answers -/

/-- The answers bring pages that all name a next one. -/
inductive Leading : List Http.Outcome → List MembersPage → Prop where
  | nil : Leading [] []
  | concat {outcomes : List Http.Outcome} {pages : List MembersPage} {outcome : Http.Outcome}
      {page : MembersPage} (h : Leading outcomes pages)
      (hpage : Judged .channelMembers MembersPage.Describes outcome (.ok page))
      (hcursor : page.cursor ≠ "") : Leading (outcomes ++ [outcome]) (pages ++ [page])

theorem Leading.length_eq {outcomes : List Http.Outcome} {pages : List MembersPage}
    (h : Leading outcomes pages) : outcomes.length = pages.length := by
  induction h with
  | nil => rfl
  | concat _ _ _ ih => simp [ih]

/-- The look-up of a channel over the answers that it has got: what it has asked for, and how far it
has come. -/
inductive Collects (c : Client) (id : String) :
    List Http.Outcome → List Exchange → Progress ChannelLookup Channel → Prop where
  | fresh : Collects c id [] [] (.asking .info)
  /-- Without the channel itself nothing else is asked for. -/
  | notFound {first : Http.Outcome} {f : Failure}
      (hfirst : Judged .channelInfo AboutChannel first (.error f)) :
      Collects c id [first] [c.get .channelInfo [("channel", id)]]
        (.finished (.error (f.within (.fetchingChannel id))))
  /-- As long as every page names a next one the look-up asks for it, and has no result. -/
  | leading {first : Http.Outcome} {channel : Channel} {outcomes : List Http.Outcome}
      {pages : List MembersPage} (hfirst : Judged .channelInfo AboutChannel first (.ok channel))
      (hpages : Leading outcomes pages) :
      Collects c id (first :: outcomes) (requests c id pages).dropLast
        (.asking (.members channel (pages.flatMap (·.members)) (cursorAfter pages)))
  /-- A page that cannot be got is what the look-up fails with, whatever it has got before. -/
  | lost {first last : Http.Outcome} {channel : Channel} {outcomes : List Http.Outcome}
      {pages : List MembersPage} {f : Failure}
      (hfirst : Judged .channelInfo AboutChannel first (.ok channel))
      (hpages : Leading outcomes pages)
      (hlast : Judged .channelMembers MembersPage.Describes last (.error f)) :
      Collects c id (first :: outcomes ++ [last]) (requests c id pages) (.finished (.error f))
  /-- The first page that names no next one completes the members. -/
  | complete {first last : Http.Outcome} {channel : Channel} {outcomes : List Http.Outcome}
      {pages : List MembersPage} {page : MembersPage}
      (hfirst : Judged .channelInfo AboutChannel first (.ok channel))
      (hpages : Leading outcomes pages)
      (hlast : Judged .channelMembers MembersPage.Describes last (.ok page))
      (hcursor : page.cursor = "") :
      Collects c id (first :: outcomes ++ [last]) (requests c id pages)
        (.finished (.ok { channel with members := (pages ++ [page]).flatMap (·.members) }))

/-! ## Running on -/

section

variable {d : Dialogue σ α} {s t : σ} {front : List Http.Outcome} {asked : List Exchange}

/-- A dialogue goes on where it has stood; one that has a result asks no more. -/
theorem Dialogue.run_append (back : List Http.Outcome) :
    d.run s (front ++ back) =
      match d.run s front with
      | (asked, .asking t) => (asked ++ (d.run t back).1, (d.run t back).2)
      | (asked, .finished result) => (asked, .finished result) := by
  induction front generalizing s with
  | nil => rfl
  | cons outcome front ih =>
    rw [List.cons_append, run, run]
    cases d.next s outcome with
    | inl s' =>
      dsimp only
      rw [ih]
      rcases d.run s' front with ⟨asked, _ | _⟩ <;> rfl
    | inr result => rfl

theorem Dialogue.run_append_of_finished {result : Except Failure α}
    (h : d.run s front = (asked, .finished result)) (back : List Http.Outcome) :
    d.run s (front ++ back) = (asked, .finished result) := by
  rw [run_append, h]

theorem Dialogue.run_concat {outcome : Http.Outcome} {u : σ ⊕ Except Failure α}
    (h : d.run s front = (asked, .asking t)) (hnext : d.next t outcome = u) :
    d.run s (front ++ [outcome]) = (asked ++ [d.ask t], u.elim .asking .finished) := by
  rw [run_append, h]
  dsimp only
  rw [run_one_eq_iff.mpr hnext]

end

section

variable {c : Client} {id : String}

/-- What is asked for after pages that lead on. -/
theorem ask_of_leading {outcomes : List Http.Outcome} {pages : List MembersPage}
    (h : Leading outcomes pages) (channel : Channel) (gathered : List String) :
    (c.channel id).ask (.members channel gathered (cursorAfter pages)) =
      pageRequest c id pages.getLast? := by
  cases h with
  | nil => rfl
  | concat _ _ hcursor =>
    simp [Client.channel, memberPairs, cursorAfter, pageRequest, hcursor]

/-- One more answer for a look-up that stands behind pages that lead on. -/
theorem run_concat_of_leading {front outcomes : List Http.Outcome} {pages : List MembersPage}
    {channel : Channel} {outcome : Http.Outcome} {x : Except Failure MembersPage}
    (hpages : Leading outcomes pages)
    (h : (c.channel id).run .info front = ((requests c id pages).dropLast,
      .asking (.members channel (pages.flatMap (·.members)) (cursorAfter pages))))
    (hx : Judged .channelMembers MembersPage.Describes outcome x) :
    (c.channel id).run .info (front ++ [outcome]) = (requests c id pages,
      (afterPage channel (pages.flatMap (·.members)) x).elim .asking .finished) := by
  rw [Dialogue.run_concat h ((next_members_eq_iff c id).mpr hx), ask_of_leading hpages,
    dropLast_requests_append]

/-- The invariant of the look-up: behind pages that lead on it is asking for the next one. -/
theorem run_of_leading {first : Http.Outcome} {channel : Channel} {outcomes : List Http.Outcome}
    {pages : List MembersPage} (hfirst : Judged .channelInfo AboutChannel first (.ok channel))
    (h : Leading outcomes pages) :
    (c.channel id).run .info (first :: outcomes) = ((requests c id pages).dropLast,
      .asking (.members channel (pages.flatMap (·.members)) (cursorAfter pages))) := by
  induction h with
  | nil => exact run_one_eq_iff.mpr ((next_info_eq_iff c id).mpr hfirst)
  | concat hpages hpage hcursor ih =>
    rw [← List.cons_append, run_concat_of_leading hpages ih hpage, afterPage, if_neg hcursor]
    simp [cursorAfter]

/-- What a look-up is said to come to is what it comes to. -/
theorem Collects.run_eq {consumed : List Http.Outcome} {asked : List Exchange}
    {progress : Progress ChannelLookup Channel} (h : Collects c id consumed asked progress) :
    (c.channel id).run .info consumed = (asked, progress) := by
  cases h with
  | fresh => rfl
  | notFound hfirst => exact run_one_eq_iff.mpr ((next_info_eq_iff c id).mpr hfirst)
  | leading hfirst hpages => exact run_of_leading hfirst hpages
  | lost hfirst hpages hlast =>
    exact run_concat_of_leading hpages (run_of_leading hfirst hpages) hlast
  | complete hfirst hpages hlast hcursor =>
    rw [run_concat_of_leading hpages (run_of_leading hfirst hpages) hlast, afterPage,
      if_pos hcursor]
    simp

/-- A look-up that is asking takes one more answer. -/
theorem Collects.step {consumed : List Http.Outcome} {asked : List Exchange} {s : ChannelLookup}
    (h : Collects c id consumed asked (.asking s)) (outcome : Http.Outcome) :
    ∃ asked progress, Collects c id (consumed ++ [outcome]) asked progress := by
  cases h with
  | fresh =>
    have hjudged : Judged .channelInfo AboutChannel outcome _ :=
      judged_receive (fun _ _ => channelOf?_lastWins) outcome
    cases hx : receive .channelInfo channelOf? outcome with
    | error f => exact ⟨_, _, .notFound (hx ▸ hjudged)⟩
    | ok channel => exact ⟨_, _, .leading (hx ▸ hjudged) .nil⟩
  | leading hfirst hpages =>
    have hjudged : Judged .channelMembers MembersPage.Describes outcome _ :=
      judged_receive (fun _ _ => MembersPage.ofJson?_lastWins) outcome
    cases hx : receive .channelMembers MembersPage.ofJson? outcome with
    | error f => exact ⟨_, _, .lost hfirst hpages (hx ▸ hjudged)⟩
    | ok page =>
      by_cases hcursor : page.cursor = ""
      · exact ⟨_, _, .complete hfirst hpages (hx ▸ hjudged) hcursor⟩
      · exact ⟨_, _, .leading hfirst (.concat hpages (hx ▸ hjudged) hcursor)⟩

/-- Whatever the answers are, the look-up comes to something over the first ones: to a result, or
over all of them. -/
theorem exists_collects (c : Client) (id : String) (outcomes : List Http.Outcome) :
    ∃ consumed more asked progress, outcomes = consumed ++ more ∧
      Collects c id consumed asked progress ∧ (∀ s, progress = .asking s → more = []) := by
  induction outcomes using List.reverseRecOn with
  | nil => exact ⟨[], [], [], _, rfl, .fresh, fun _ _ => rfl⟩
  | append_singleton outcomes outcome ih =>
    obtain ⟨consumed, more, asked, progress, rfl, h, hmore⟩ := ih
    cases progress with
    | asking s =>
      obtain rfl := hmore s rfl
      obtain ⟨asked, progress, hstep⟩ := h.step outcome
      exact ⟨_, [], asked, progress, by simp, hstep, fun _ _ => rfl⟩
    | finished result =>
      exact ⟨consumed, more ++ [outcome], asked, _, by simp, h, nofun⟩

end

/-! ## The look-up of a channel -/

/-- The look-up of a channel over the answers of a server. -/
structure Collected (c : Client) (id : String) (outcomes : List Http.Outcome) : Prop where
  /-- It asks and returns what it is said to, over as many answers as it takes. -/
  exact : ∀ asked progress, (c.channel id).run .info outcomes = (asked, progress) ↔
    ∃ consumed more, outcomes = consumed ++ more ∧ Collects c id consumed asked progress ∧
      (∀ s, progress = .asking s → more = [])
  /-- Every answer that it takes is to one request. -/
  one_each : ∀ consumed asked progress, Collects c id consumed asked progress →
    asked.length = consumed.length
  /-- Pages that all name a next one keep it asking, each time for that one. -/
  endless : ∀ first channel rest pages, outcomes = first :: rest →
    Judged .channelInfo AboutChannel first (.ok channel) → Leading rest pages →
    ∃ s, (c.channel id).run .info outcomes = ((requests c id pages).dropLast, .asking s) ∧
      (requests c id pages).dropLast ++ [(c.channel id).ask s] = requests c id pages
  /-- The pages that name no next one. -/
  last_page : ∀ metadata, NextCursor metadata "" ↔ metadata = none ∨ metadata = some .null ∨
    ∃ v field, metadata = some v ∧ Json.Record ["next_cursor"] v field ∧
      (field "next_cursor" = none ∨ field "next_cursor" = some (.string ""))
  /-- What is asked for stands in the request as it is. -/
  verbatim : ∀ method pairs r, (c.get method pairs).request = some r → AsksFor c method pairs r
  /-- There is such a request wherever the method can be reached. -/
  built : ∀ method pairs, c.Reaches method (1 + (Text.Percent.formPairs pairs).length) →
    ∃ r, (c.get method pairs).request = some r ∧ AsksFor c method pairs r

theorem Collects.length_eq {c : Client} {id : String} {consumed : List Http.Outcome}
    {asked : List Exchange} {progress : Progress ChannelLookup Channel}
    (h : Collects c id consumed asked progress) : asked.length = consumed.length := by
  cases h with
  | fresh | notFound => rfl
  | leading _ hpages | lost _ hpages | complete _ hpages => simp [hpages.length_eq]

/-- The pages that name no next one. -/
theorem nextCursor_empty_iff {metadata : Option Json} :
    NextCursor metadata "" ↔ metadata = none ∨ metadata = some .null ∨
      ∃ v field, metadata = some v ∧ Json.Record ["next_cursor"] v field ∧
        (field "next_cursor" = none ∨ field "next_cursor" = some (.string "")) := by
  constructor
  · intro h
    cases h with
    | absent => exact .inl rfl
    | null => exact .inr (.inl rfl)
    | @record v field _ hrecord hcursor =>
      refine .inr (.inr ⟨v, field, rfl, hrecord, ?_⟩)
      generalize field "next_cursor" = given at hcursor
      cases hcursor with
      | absent => exact .inl rfl
      | given h => exact .inr (congrArg some h)
  · rintro (rfl | rfl | ⟨v, field, rfl, hrecord, hgiven | hgiven⟩)
    · exact .absent
    · exact .null
    · exact .record hrecord (hgiven ▸ .absent)
    · exact .record hrecord (hgiven ▸ .given rfl)

/-- Whatever the answers are, the look-up of a channel asks for the channel and then for page after
page, each by a request of its own, and returns the members of all pages or the first failure. -/
theorem members_collected (c : Client) (id : String) (outcomes : List Http.Outcome) :
    Collected c id outcomes := by
  have hrun : ∀ consumed more asked progress, Collects c id consumed asked progress →
      (∀ s, progress = .asking s → more = []) →
        (c.channel id).run .info (consumed ++ more) = (asked, progress) := by
    intro consumed more asked progress h hmore
    cases progress with
    | asking s => rw [hmore s rfl, List.append_nil, h.run_eq]
    | finished result => exact Dialogue.run_append_of_finished h.run_eq more
  constructor
  case exact =>
    intro asked progress
    constructor
    · intro h
      obtain ⟨consumed, more, asked', progress', rfl, hcollects, hmore⟩ :=
        exists_collects c id outcomes
      obtain ⟨rfl, rfl⟩ := Prod.mk.inj ((hrun _ _ _ _ hcollects hmore).symm.trans h)
      exact ⟨consumed, more, rfl, hcollects, hmore⟩
    · rintro ⟨consumed, more, rfl, hcollects, hmore⟩
      exact hrun _ _ _ _ hcollects hmore
  case one_each => exact fun _ _ _ h => h.length_eq
  case endless =>
    rintro first channel rest pages rfl hfirst hpages
    refine ⟨_, run_of_leading hfirst hpages, ?_⟩
    rw [ask_of_leading hpages, dropLast_requests_append]
  case last_page => exact fun _ => nextCursor_empty_iff
  case verbatim => exact fun _ _ _ => Client.asksFor_get
  case built => exact fun _ _ => Client.exists_get

/-- Two pages, of which the first one names the next. -/
theorem members_collected_pages :
    let c : Client := ⟨"https://slack.com/api", "xoxb-1"⟩
    let answer (text : String) : Http.Outcome := .answered { body := Text.Utf8.encode text.toList }
    let outcomes := [
      answer ("\x7b\"ok\":true,\"channel\":\x7b\"id\":\"C1\",\"name\":\"general\",\"created\":1," ++
        "\"creator\":\"U1\"\x7d\x7d"),
      answer ("\x7b\"ok\":true,\"members\":[\"U1\",\"U2\"]," ++
        "\"response_metadata\":\x7b\"next_cursor\":\"dGVhbQ==&é\"\x7d\x7d"),
      answer "\x7b\"ok\":true,\"members\":[\"U3\",\"U1\"]\x7d"]
    let asked := requests c "C1" [⟨["U1", "U2"], "dGVhbQ==&é"⟩]
    Collected c "C1" outcomes ∧
      (c.channel "C1").run .info outcomes = (asked, .finished (.ok
        { id := "C1", name := "general", created := 1, creator := "U1",
          members := ["U1", "U2", "U3", "U1"] })) ∧
      asked.map (fun x => x.request.map fun r => (String.ofList r.url.toText, r.authorization)) = [
        some ("https://slack.com/api/conversations.info?channel=C1", ["Bearer xoxb-1"]),
        some ("https://slack.com/api/conversations.members?channel=C1&limit=1000",
          ["Bearer xoxb-1"]),
        some ("https://slack.com/api/conversations.members?channel=C1&limit=1000" ++
          "&cursor=dGVhbQ%3D%3D%26%C3%A9", ["Bearer xoxb-1"])] := by
  intro c answer outcomes asked
  have hcollected := members_collected c "C1" outcomes
  refine ⟨hcollected, (hcollected.exact _ _).mpr ⟨outcomes, [], rfl, ?_, nofun⟩, ?_⟩
  · have hfirst : Judged .channelInfo AboutChannel outcomes[0] (.ok ⟨"C1", "general", 1, "U1", []⟩) :=
      (receive_eq_iff fun _ _ => channelOf?_lastWins).mp (by decide +kernel)
    have hpage : Judged .channelMembers MembersPage.Describes outcomes[1]
        (.ok ⟨["U1", "U2"], "dGVhbQ==&é"⟩) :=
      (receive_eq_iff fun _ _ => MembersPage.ofJson?_lastWins).mp (by decide +kernel)
    have hlast : Judged .channelMembers MembersPage.Describes outcomes[2]
        (.ok ⟨["U3", "U1"], ""⟩) :=
      (receive_eq_iff fun _ _ => MembersPage.ofJson?_lastWins).mp (by decide +kernel)
    exact .complete hfirst (.concat .nil hpage (by decide)) hlast rfl
  · simp only [asked, requests, pageRequest, c, Client.get_slack, List.map_cons, List.map_nil]
    decide +kernel

end Herald.Slack
