import Herald.Proofs.AnswerShapes
import Herald.Proofs.BodyText
import Herald.Slack.Client

/-!
# How answers are taken

An answer of the Web API is checked in one fixed order, and the first check that it does not pass
decides what the call fails with. `Judged` is that order as a relation, in terms of the bytes of the
body and the members of the object that they spell; it speaks of no reader. The body of an answer
without success is told as the text that `Http.Response.Shows` says.

* `receive_eq_iff`: what a request comes to is what its answer is judged to be.
* `answers_classified`: so it is for every call of a client, in the contexts that the call adds.
-/

namespace Herald.Slack

/-! ## Bodies -/

/-- The bytes are a JSON document. -/
def IsBody (bytes : List UInt8) (body : Json) : Prop :=
  ∃ text : String, bytes = Text.Utf8.encode text.toList ∧ Json.IsText text body

/-- The body is an object, and its last member of a name has a value. -/
def HasMember (body : Json) (name : String) (v : Json) : Prop :=
  ∃ members, body = .object members ∧ Json.IsLast members name v

theorem body?_eq_some_iff {bytes : List UInt8} {body : Json} :
    body? bytes = some body ↔ IsBody bytes body := by
  simp only [body?, Option.bind_eq_some_iff, Text.Utf8.decode?_eq_some_iff]
  constructor
  · rintro ⟨text, rfl, hread⟩
    refine ⟨String.ofList text, by rw [String.toList_ofList], Json.ofText?_eq_some_iff.mp ?_⟩
    rwa [Json.ofText?, String.toList_ofList]
  · rintro ⟨text, rfl, htext⟩
    exact ⟨text.toList, rfl, Json.ofText?_of_isText htext⟩

theorem member?_eq_some_iff {name : String} {body v : Json} :
    member? name body = some v ↔ HasMember body name v := by
  cases body with
  | object members =>
    rw [member?, Json.last?_eq_some_iff]
    constructor
    · exact fun h => ⟨members, rfl, h⟩
    · rintro ⟨_, ⟨⟩, h⟩
      exact h
  | _ => exact iff_of_false nofun nofun

theorem saysOk_iff {body : Json} : saysOk body = true ↔ HasMember body "ok" (.bool true) := by
  rw [← member?_eq_some_iff, saysOk]
  split
  · next h => simp [h]
  · next h => exact iff_of_false Bool.false_ne_true h

/-- Why a body refuses what was asked: the text that it gives, if it gives one. -/
inductive Reason (body : Json) : String → Prop where
  | given {reason : String} (h : HasMember body "error" (.string reason)) : Reason body reason
  | unknown (h : ∀ reason, ¬ HasMember body "error" (.string reason)) : Reason body "unknown"

theorem reasonOf_eq_iff {body : Json} {reason : String} :
    reasonOf body = reason ↔ Reason body reason := by
  unfold reasonOf
  split
  · next given hmember =>
    have hgiven := member?_eq_some_iff.mp hmember
    constructor
    · rintro rfl
      exact .given hgiven
    · rintro (h | h)
      · have hsame := hmember.symm.trans (member?_eq_some_iff.mpr h)
        exact Json.string.inj (Option.some.inj hsame)
      · exact absurd hgiven (h given)
  · next hmember =>
    constructor
    · rintro rfl
      exact .unknown fun reason h => hmember reason (member?_eq_some_iff.mpr h)
    · rintro (h | h)
      · exact absurd (member?_eq_some_iff.mpr h) (hmember reason)
      · rfl

/-! ## The checks -/

/-- The status says that the request succeeded. -/
def Succeeded (r : Http.Response) : Prop :=
  200 ≤ r.status ∧ r.status < 300

/-- What an answer is judged to be, by the first check that it does not pass. -/
inductive Judged (method : Method) (shape : Json → α → Prop) :
    Http.Outcome → Except Failure α → Prop where
  | unanswered : Judged method shape .unanswered (.error (.outside (.sending method.name)))
  | badStatus {r : Http.Response} {text : String} (hstatus : ¬ Succeeded r) (htext : r.Shows text) :
      Judged method shape (.answered r)
        (.error (.of (.badStatus method.name (Http.statusText r.status) text)))
  | unreadable {r : Http.Response} (hstatus : Succeeded r) (hbody : ∀ body, ¬ IsBody r.body body) :
      Judged method shape (.answered r) (.error (.outside (.readingAnswer method.name)))
  | refused {r : Http.Response} {body : Json} {reason : String} (hstatus : Succeeded r)
      (hbody : IsBody r.body body) (hok : ¬ HasMember body "ok" (.bool true))
      (hreason : Reason body reason) :
      Judged method shape (.answered r) (.error (.of (.refused method.name reason)))
  | misshapen {r : Http.Response} {body : Json} (hstatus : Succeeded r)
      (hbody : IsBody r.body body) (hok : HasMember body "ok" (.bool true))
      (hshape : ∀ a, ¬ shape body a) :
      Judged method shape (.answered r) (.error (.outside (.readingShape method.name)))
  | taken {r : Http.Response} {body : Json} {a : α} (hstatus : Succeeded r)
      (hbody : IsBody r.body body) (hok : HasMember body "ok" (.bool true))
      (hshape : shape body a) : Judged method shape (.answered r) (.ok a)

section

variable {method : Method} {r : Http.Response} {body : Json}

theorem isSuccess_iff : Http.isSuccess r.status = true ↔ Succeeded r := by
  simp [Http.isSuccess, Succeeded]

theorem accept_of_not_succeeded (h : ¬ Succeeded r) {text : String} (htext : r.Shows text) :
    accept method (.answered r) =
      .error (.of (.badStatus method.name (Http.statusText r.status) text)) := by
  rw [← Http.Response.text_eq_iff.mpr htext]
  exact if_neg fun hsuccess => h (isSuccess_iff.mp hsuccess)

theorem accept_of_succeeded (h : Succeeded r) : accept method (.answered r) =
    match body? r.body with
    | none => .error (.outside (.readingAnswer method.name))
    | some body =>
      if saysOk body then .ok body else .error (.of (.refused method.name (reasonOf body))) :=
  if_pos (isSuccess_iff.mpr h)

theorem accept_of_unreadable (h : Succeeded r) (hbody : ∀ body, ¬ IsBody r.body body) :
    accept method (.answered r) = .error (.outside (.readingAnswer method.name)) := by
  have hnone : body? r.body = none :=
    Option.eq_none_iff_forall_ne_some.mpr fun body h => hbody body (body?_eq_some_iff.mp h)
  rw [accept_of_succeeded h, hnone]

theorem accept_of_refused (h : Succeeded r) (hbody : IsBody r.body body)
    (hok : ¬ HasMember body "ok" (.bool true)) :
    accept method (.answered r) = .error (.of (.refused method.name (reasonOf body))) := by
  rw [accept_of_succeeded h, body?_eq_some_iff.mpr hbody]
  exact if_neg fun hsays => hok (saysOk_iff.mp hsays)

theorem accept_of_ok (h : Succeeded r) (hbody : IsBody r.body body)
    (hok : HasMember body "ok" (.bool true)) : accept method (.answered r) = .ok body := by
  rw [accept_of_succeeded h, body?_eq_some_iff.mpr hbody]
  exact if_pos (saysOk_iff.mpr hok)

end

section

variable {method : Method} {shape : Json → α → Prop} {read : Json → Option α}

theorem receive_of_accept_error {outcome : Http.Outcome} {f : Failure}
    (h : accept method outcome = .error f) : receive method read outcome = .error f := by
  rw [receive, h]
  rfl

theorem receive_of_accept_ok {outcome : Http.Outcome} {body : Json}
    (h : accept method outcome = .ok body) : receive method read outcome =
      (read body.lastWins).elim (.error (.outside (.readingShape method.name))) .ok := by
  rw [receive, h]
  cases hread : read body.lastWins <;> simp only [bind, Except.bind, hread, Option.elim]

/-- An answer is judged in some way, and by what it is judged to be the request ends. -/
theorem judged_receive (hread : ∀ v a, read (Json.lastWins v) = some a ↔ shape v a)
    (outcome : Http.Outcome) : Judged method shape outcome (receive method read outcome) := by
  cases outcome with
  | unanswered => exact .unanswered
  | answered r =>
    by_cases hstatus : Succeeded r
    · by_cases hsome : ∃ body, IsBody r.body body
      · obtain ⟨body, hbody⟩ := hsome
        by_cases hok : HasMember body "ok" (.bool true)
        · rw [receive_of_accept_ok (accept_of_ok hstatus hbody hok)]
          cases hshape : read body.lastWins with
          | none =>
            refine .misshapen hstatus hbody hok fun a ha => ?_
            rw [(hread body a).mpr ha] at hshape
            cases hshape
          | some a => exact .taken hstatus hbody hok ((hread body a).mp hshape)
        · rw [receive_of_accept_error (accept_of_refused hstatus hbody hok)]
          exact .refused hstatus hbody hok (reasonOf_eq_iff.mp rfl)
      · have hnone := not_exists.mp hsome
        rw [receive_of_accept_error (accept_of_unreadable hstatus hnone)]
        exact .unreadable hstatus hnone
    · have htext := Http.Response.text_eq_iff.mp (rfl : r.text = r.text)
      rw [receive_of_accept_error (accept_of_not_succeeded hstatus htext)]
      exact .badStatus hstatus htext

theorem receive_of_judged (hread : ∀ v a, read (Json.lastWins v) = some a ↔ shape v a)
    {outcome : Http.Outcome} {x : Except Failure α} (h : Judged method shape outcome x) :
    receive method read outcome = x := by
  cases h with
  | unanswered => rfl
  | badStatus hstatus htext =>
    exact receive_of_accept_error (accept_of_not_succeeded hstatus htext)
  | unreadable hstatus hbody => exact receive_of_accept_error (accept_of_unreadable hstatus hbody)
  | refused hstatus hbody hok hreason =>
    rw [receive_of_accept_error (accept_of_refused hstatus hbody hok),
      reasonOf_eq_iff.mpr hreason]
  | misshapen hstatus hbody hok hshape =>
    have hnone : read (Json.lastWins _) = none :=
      Option.eq_none_iff_forall_ne_some.mpr fun a ha => hshape a ((hread _ a).mp ha)
    rw [receive_of_accept_ok (accept_of_ok hstatus hbody hok), hnone]
    rfl
  | taken hstatus hbody hok hshape =>
    rw [receive_of_accept_ok (accept_of_ok hstatus hbody hok), (hread _ _).mpr hshape]
    rfl

/-- What a request comes to is what its answer is judged to be. -/
theorem receive_eq_iff (hread : ∀ v a, read (Json.lastWins v) = some a ↔ shape v a)
    {outcome : Http.Outcome} {x : Except Failure α} :
    receive method read outcome = x ↔ Judged method shape outcome x := by
  constructor
  · rintro rfl
    exact judged_receive hread outcome
  · exact receive_of_judged hread

end

/-! ## What failures say -/

theorem within_inj {context : Context} {f g : Failure} :
    f.within context = g.within context ↔ f = g := by
  obtain ⟨_, _⟩ := f
  obtain ⟨_, _⟩ := g
  simp [Failure.within]

/-- What comes of the answer to the first request of the look-up of a channel. -/
def afterInfo (id : String) : Except Failure Channel → ChannelLookup ⊕ Except Failure Channel
  | .error f => .inr (.error (f.within (.fetchingChannel id)))
  | .ok channel => .inl (.members channel [] "")

/-- What comes of the answer to a further one. -/
def afterPage (channel : Channel) (gathered : List String) :
    Except Failure MembersPage → ChannelLookup ⊕ Except Failure Channel
  | .error f => .inr (.error f)
  | .ok page =>
    if page.cursor = "" then .inr (.ok { channel with members := gathered ++ page.members })
    else .inl (.members channel (gathered ++ page.members) page.cursor)

theorem afterInfo_inj {id : String} {x y : Except Failure Channel} :
    afterInfo id x = afterInfo id y ↔ x = y := by
  cases x <;> cases y <;> simp [afterInfo, within_inj]

theorem afterPage_inj {channel : Channel} {gathered : List String}
    {x y : Except Failure MembersPage} :
    afterPage channel gathered x = afterPage channel gathered y ↔ x = y := by
  refine ⟨fun h => ?_, congrArg _⟩
  rcases x with f | ⟨members, cursor⟩ <;> rcases y with g | ⟨members', cursor'⟩ <;>
    simp only [afterPage] at h
  · cases h
    rfl
  · split at h <;> cases h
  · split at h <;> cases h
  · split at h <;> split at h <;> simp_all

section

variable (c : Client) (id : String) {outcome : Http.Outcome}

/-- The first step of the look-up of a channel. -/
theorem next_info_eq_iff {x : Except Failure Channel} :
    (c.channel id).next .info outcome = afterInfo id x ↔
      Judged .channelInfo AboutChannel outcome x := by
  have hnext : (c.channel id).next .info outcome =
      afterInfo id (receive .channelInfo channelOf? outcome) := by
    cases h : receive .channelInfo channelOf? outcome <;>
      simp only [Client.channel, h, inContext_error, inContext_ok, afterInfo]
  rw [hnext, afterInfo_inj]
  exact receive_eq_iff fun _ _ => channelOf?_lastWins

/-- A further step of it. -/
theorem next_members_eq_iff {channel : Channel} {gathered : List String} {cursor : String}
    {x : Except Failure MembersPage} :
    (c.channel id).next (.members channel gathered cursor) outcome =
      afterPage channel gathered x ↔
        Judged .channelMembers MembersPage.Describes outcome x := by
  have hnext : (c.channel id).next (.members channel gathered cursor) outcome =
      afterPage channel gathered (receive .channelMembers MembersPage.ofJson? outcome) := by
    cases h : receive .channelMembers MembersPage.ofJson? outcome <;>
      simp only [Client.channel, h, afterPage, String.isEmpty_iff]
  rw [hnext, afterPage_inj]
  exact receive_eq_iff fun _ _ => MembersPage.ofJson?_lastWins

/-- A dialogue that has got one outcome has taken one step. -/
theorem run_one_eq_iff {d : Dialogue σ α} {s : σ} {t : σ ⊕ Except Failure α} :
    d.run s [outcome] = ([d.ask s], t.elim Progress.asking Progress.finished) ↔
      d.next s outcome = t := by
  rw [Dialogue.run]
  cases d.next s outcome <;> cases t <;> simp [Dialogue.run]

end

end Herald.Slack
