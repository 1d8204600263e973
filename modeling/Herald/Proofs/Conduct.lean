import Herald.Job

/-!
# What a job asks and what becomes of it

The answers to the queries of a job are not known beforehand, but what may come is: `allowed` says
which answers a query may get. `Job.Keeps` says that a job, whatever it is told of these, asks only
what it should and ends in a result that has some property, and `Job.Course` that it can exchange a list
of questions and answers, and what is left of it then.

* `Job.Keeps.bind`, `Attempt.Keeps.bind`: the rules go through a job from front to back.
* `Job.Keeps.of_course`: a job that has gone a part of its way has kept the rules, and keeps them.
* `Job.Course.of_bind`: the way of a job with a continuation begins with its own.
* `Job.course_conclude`: every job gets to an end, whoever answers.
-/

namespace Herald

/-- A query and what it was answered with. -/
abbrev Exchange := (q : Query) × q.Answer

section

variable (allowed : (q : Query) → q.Answer → Prop) (asks : Query → Prop)

/-- The job asks only what it should, and its result has the property, for all answers that may
come. -/
inductive Job.Keeps (result : α → Prop) : Job α → Prop where
  | done {a : α} (h : result a) : Keeps result (.done a)
  | ask {q : Query} {resume : q.Answer → Job α} (hq : asks q)
      (h : ∀ a, allowed q a → Keeps result (resume a)) : Keeps result (.ask q resume)

/-- A result of work that may fail: what it succeeds with has a property, and so has the failure. -/
def Attempt.Ends (result : α → Prop) (failure : Failure → Prop) : Except Failure α → Prop
  | .ok a => result a
  | .error f => failure f

/-- The same of work that may fail. -/
def Attempt.Keeps (result : α → Prop) (failure : Failure → Prop) (work : Attempt α) : Prop :=
  Job.Keeps allowed asks (Ends result failure) work.run

end

variable {allowed : (q : Query) → q.Answer → Prop} {asks : Query → Prop}

namespace Job

theorem Keeps.mono {result result' : α → Prop} {t : Job α} (h : t.Keeps allowed asks result)
    (hresult : ∀ a, result a → result' a) : t.Keeps allowed asks result' := by
  induction h with
  | done h => exact .done (hresult _ h)
  | ask hq _ ih => exact .ask hq ih

theorem Keeps.mono_asks {asks' : Query → Prop} {result : α → Prop} {t : Job α}
    (h : t.Keeps allowed asks result) (hasks : ∀ q, asks q → asks' q) :
    t.Keeps allowed asks' result := by
  induction h with
  | done h => exact .done h
  | ask hq _ ih => exact .ask (hasks _ hq) ih

theorem Keeps.bind {result : α → Prop} {result' : β → Prop} {t : Job α} {f : α → Job β}
    (h : t.Keeps allowed asks result) (hf : ∀ a, result a → (f a).Keeps allowed asks result') :
    (t >>= f).Keeps allowed asks result' := by
  induction h with
  | done h => exact hf _ h
  | ask hq _ ih => exact .ask hq ih

theorem Keeps.map {result : α → Prop} {result' : β → Prop} {t : Job α} {f : α → β}
    (h : t.Keeps allowed asks result) (hf : ∀ a, result a → result' (f a)) :
    (f <$> t).Keeps allowed asks result' := by
  rw [map_eq_pure_bind]
  exact h.bind fun a ha => .done (hf a ha)

theorem keeps_query {q : Query} (hq : asks q) : (query q).Keeps allowed asks (allowed q) :=
  .ask hq fun _ ha => .done ha

/-! ## Courses -/

/-- The job asks and is told one after another, and this is left of it. -/
inductive Course : Job α → List Exchange → Job α → Prop where
  | nil (t : Job α) : Course t [] t
  | ask {q : Query} {resume : q.Answer → Job α} {a : q.Answer} {rest : List Exchange} {left : Job α}
      (h : Course (resume a) rest left) : Course (.ask q resume) (⟨q, a⟩ :: rest) left

theorem Course.concat {t : Job α} {xs : List Exchange} {q : Query} {resume : q.Answer → Job α}
    (h : t.Course xs (.ask q resume)) (a : q.Answer) : t.Course (xs ++ [⟨q, a⟩]) (resume a) := by
  generalize hleft : Job.ask q resume = left at h
  induction h with
  | nil t =>
    subst hleft
    exact .ask (.nil _)
  | ask _ ih => exact .ask (ih hleft)

/-- A course that is gone on with. -/
theorem Course.append {t left left' : Job α} {xs ys : List Exchange} (h : t.Course xs left)
    (h' : left.Course ys left') : t.Course (xs ++ ys) left' := by
  induction h with
  | nil t => exact h'
  | ask _ ih => exact .ask (ih h')

theorem Course.of_query {q : Query} {xs : List Exchange} {a : q.Answer}
    (h : (query q).Course xs (.done a)) : xs = [⟨q, a⟩] := by
  cases h with
  | ask h =>
    cases h with
    | nil => rfl

/-- A job that is allowed a part of its way keeps the rules on it, and on the rest. -/
theorem Keeps.of_course {result : α → Prop} {t left : Job α} {xs : List Exchange}
    (h : t.Keeps allowed asks result) (hcourse : t.Course xs left)
    (hallowed : ∀ x ∈ xs, allowed x.1 x.2) :
    (∀ x ∈ xs, asks x.1) ∧ left.Keeps allowed asks result := by
  induction hcourse with
  | nil t => exact ⟨List.forall_mem_nil _, h⟩
  | ask hcourse ih =>
    cases h with
    | ask hq h =>
      obtain ⟨ha, hrest⟩ := List.forall_mem_cons.mp hallowed
      obtain ⟨hasks, hleft⟩ := ih (h _ ha) hrest
      exact ⟨List.forall_mem_cons.mpr ⟨hq, hasks⟩, hleft⟩

/-- The course of a job with a continuation: it is still on the first job, or goes on behind the
result of that. -/
theorem Course.of_bind {t : Job α} {f : α → Job β} {xs : List Exchange} {left : Job β}
    (h : (t >>= f).Course xs left) :
    (∃ left', t.Course xs left' ∧ left = left' >>= f) ∨
      ∃ ys zs a, xs = ys ++ zs ∧ t.Course ys (.done a) ∧ (f a).Course zs left := by
  induction t generalizing xs with
  | done a => exact .inr ⟨[], xs, a, rfl, .nil _, h⟩
  | ask q resume ih =>
    cases h with
    | nil => exact .inl ⟨.ask q resume, .nil _, rfl⟩
    | @ask _ _ a rest _ h =>
      rcases ih a h with ⟨left', hcourse, hleft⟩ | ⟨ys, zs, b, rfl, hfirst, hsecond⟩
      · exact .inl ⟨left', .ask hcourse, hleft⟩
      · exact .inr ⟨⟨q, a⟩ :: ys, zs, b, rfl, .ask hfirst, hsecond⟩

/-- To get to its end, a job with a continuation gets to the end of both parts. -/
theorem Course.split {t : Job α} {f : α → Job β} {xs : List Exchange} {b : β}
    (h : (t >>= f).Course xs (.done b)) :
    ∃ ys zs a, xs = ys ++ zs ∧ t.Course ys (.done a) ∧ (f a).Course zs (.done b) := by
  rcases h.of_bind with ⟨left, hcourse, hleft⟩ | hsplit
  · cases left with
    | done a =>
      have hdone : f a = .done b := hleft.symm
      refine ⟨xs, [], a, (List.append_nil xs).symm, hcourse, ?_⟩
      rw [hdone]
      exact .nil _
    | ask q resume => cases hleft
  · exact hsplit

/-- What a job comes to whose result is changed in the end. -/
theorem Course.of_map {t : Job α} {f : α → β} {xs : List Exchange} {b : β}
    (h : (f <$> t).Course xs (.done b)) : ∃ a, t.Course xs (.done a) ∧ b = f a := by
  rw [map_eq_pure_bind] at h
  obtain ⟨ys, zs, a, rfl, hfirst, hrest⟩ := h.split
  cases hrest with
  | nil => exact ⟨a, by rwa [List.append_nil], rfl⟩

/-- A job whose result is thrown away takes the course that it takes alone. -/
theorem Course.of_bind_done {t : Job α} {b : β} {xs : List Exchange} {left : Job β}
    (h : (t >>= fun _ => .done b).Course xs left) :
    ∃ left', t.Course xs left' ∧ left = left' >>= fun _ => .done b := by
  rcases h.of_bind with hfirst | ⟨ys, zs, a, rfl, hcourse, hrest⟩
  · exact hfirst
  · cases hrest with
    | nil => exact ⟨.done a, by rwa [List.append_nil], rfl⟩

/-- What the job may end in, for some answers. -/
def Yields (t : Job α) (a : α) : Prop :=
  ∃ xs, t.Course xs (.done a)

/-- The result of a job has whatever property it is shown to have, and is one that the job may end
in. -/
theorem Keeps.and_yields {result : α → Prop} {t : Job α} (h : t.Keeps allowed asks result) :
    t.Keeps allowed asks fun a => result a ∧ t.Yields a := by
  induction h with
  | done h => exact .done ⟨h, [], .nil _⟩
  | ask hq _ ih =>
    refine .ask hq fun a ha => (ih a ha).mono ?_
    rintro b ⟨hb, xs, hcourse⟩
    exact ⟨hb, _, .ask hcourse⟩

/-- A job that is brought to its end: its result, what it has asked and been told, and the state that
whoever answers is in then. -/
def conclude (answer : (q : Query) → σ → q.Answer × σ) : Job α → σ → α × List Exchange × σ
  | done a, s => (a, [], s)
  | ask q resume, s =>
    let (a, s) := answer q s
    let (result, xs, s) := (resume a).conclude answer s
    (result, ⟨q, a⟩ :: xs, s)

/-- A job is brought to its end on one of its courses. -/
theorem course_conclude (answer : (q : Query) → σ → q.Answer × σ) (t : Job α) (s : σ) :
    t.Course (t.conclude answer s).2.1 (.done (t.conclude answer s).1) := by
  induction t generalizing s with
  | done a => exact .nil _
  | ask q resume ih => exact .ask (ih _ _)

/-- A job with a continuation is brought to its end one part after the other. -/
theorem conclude_bind (answer : (q : Query) → σ → q.Answer × σ) (t : Job α) (f : α → Job β)
    (s : σ) : (t >>= f).conclude answer s =
      let (a, xs, s') := t.conclude answer s
      let (b, ys, s'') := (f a).conclude answer s'
      (b, xs ++ ys, s'') := by
  induction t generalizing s with
  | done a => rfl
  | ask q resume ih => simp only [ask_bind, conclude, ih, List.cons_append]

/-- What is asked is answered by what is asked alone, if whoever answers keeps no state. -/
theorem answer_of_mem_conclude (answer : (q : Query) → q.Answer) (t : Job α) (s : σ) :
    ∀ x ∈ (t.conclude (fun q s => (answer q, s)) s).2.1, x.2 = answer x.1 := by
  induction t with
  | done a => exact List.forall_mem_nil _
  | ask q resume ih => exact List.forall_mem_cons.mpr ⟨rfl, ih (answer q)⟩

end Job

namespace Attempt

variable {failure : Failure → Prop}

theorem Keeps.bind {result : α → Prop} {result' : β → Prop} {work : Attempt α}
    {f : α → Attempt β} (h : work.Keeps allowed asks result failure)
    (hf : ∀ a, result a → (f a).Keeps allowed asks result' failure) :
    Attempt.Keeps allowed asks result' failure (work >>= f) := by
  refine Job.Keeps.bind h fun r hr => ?_
  cases r with
  | ok a => exact hf a hr
  | error f => exact .done hr

theorem Keeps.mono {result result' : α → Prop} {work : Attempt α}
    (h : work.Keeps allowed asks result failure) (hresult : ∀ a, result a → result' a) :
    work.Keeps allowed asks result' failure := by
  refine Job.Keeps.mono h ?_
  rintro (f | a) hr
  · exact hr
  · exact hresult a hr

/-- What work succeeds with is something that it may succeed with. -/
theorem Keeps.and_yields {result : α → Prop} {work : Attempt α}
    (h : work.Keeps allowed asks result failure) :
    work.Keeps allowed asks (fun a => result a ∧ work.run.Yields (.ok a)) failure := by
  refine Job.Keeps.mono (Job.Keeps.and_yields h) ?_
  rintro (f | a) ⟨hr, hyields⟩
  · exact hr
  · exact ⟨hr, hyields⟩

/-- What work may succeed with when it may be told anything. -/
theorem Keeps.of_yields {result : α → Prop} {work : Attempt α}
    (h : work.Keeps (fun _ _ => True) asks result failure) {a : α}
    (hyields : work.run.Yields (.ok a)) : result a := by
  obtain ⟨xs, hcourse⟩ := hyields
  have hdone := (Job.Keeps.of_course h hcourse fun _ _ => trivial).2
  cases hdone with
  | done hresult => exact hresult

/-- A failure stays what it is when what else comes of the work is changed. -/
theorem Ends.map {result : α → Prop} {result' : β → Prop} {g : α → β} {r : Except Failure α}
    (h : Ends result failure r) (hg : ∀ a, result a → result' (g a)) :
    Ends result' failure (g <$> r) := by
  cases r with
  | ok a => exact hg a h
  | error f => exact h

theorem keeps_pure {result : α → Prop} {a : α} (h : result a) :
    Attempt.Keeps allowed asks result failure (pure a) :=
  .done h

theorem keeps_fail {result : α → Prop} {cause : Cause} (h : failure (.of cause)) :
    (fail cause : Attempt α).Keeps allowed asks result failure :=
  .done h

/-- Work with a continuation gets to its end by failing before that, or by going through both. -/
theorem course_bind {work : Attempt α} {f : α → Attempt β} {xs : List Exchange}
    {r : Except Failure β} (h : (work >>= f).run.Course xs (.done r)) :
    (∃ e, work.run.Course xs (.done (.error e)) ∧ r = .error e) ∨
      ∃ ys zs a, xs = ys ++ zs ∧ work.run.Course ys (.done (.ok a)) ∧
        (f a).run.Course zs (.done r) := by
  obtain ⟨ys, zs, made, rfl, hfirst, hrest⟩ := Job.Course.split h
  cases made with
  | error e =>
    cases hrest with
    | nil => exact .inl ⟨e, by rwa [List.append_nil], rfl⟩
  | ok a => exact .inr ⟨ys, zs, a, rfl, hfirst, hrest⟩

theorem course_pure {a : α} {xs : List Exchange} {r : Except Failure α}
    (h : (pure a : Attempt α).run.Course xs (.done r)) : xs = [] ∧ r = .ok a := by
  change Job.Course (.done (.ok a)) xs (.done r) at h
  cases h with
  | nil => exact ⟨rfl, rfl⟩

theorem course_fail {cause : Cause} {xs : List Exchange} {r : Except Failure α}
    (h : (fail cause : Attempt α).run.Course xs (.done r)) : xs = [] ∧ r = .error (.of cause) := by
  change Job.Course (.done (.error (.of cause))) xs (.done r) at h
  cases h with
  | nil => exact ⟨rfl, rfl⟩

/-- Work that asks one query comes to what becomes of its answer. -/
theorem course_query {q : Query} {f : q.Answer → Except Failure α} {xs : List Exchange}
    {r : Except Failure α}
    (h : (ExceptT.mk (f <$> Job.query q) : Attempt α).run.Course xs (.done r)) :
    ∃ a, xs = [⟨q, a⟩] ∧ r = f a := by
  obtain ⟨a, hquery, rfl⟩ := Job.Course.of_map h
  exact ⟨a, Job.Course.of_query hquery, rfl⟩

/-- What a query is answered with is the result of the work. -/
theorem keeps_query {q : Query} {f : q.Answer → Except Failure α} {result : α → Prop}
    (hq : asks q) (hf : ∀ a, allowed q a → Ends result failure (f a)) :
    Attempt.Keeps allowed asks result failure (ExceptT.mk (f <$> Job.query q)) :=
  (Job.keeps_query hq).map hf

theorem Keeps.within {result : α → Prop} {work : Attempt α} {failure' : Failure → Prop}
    {context : Context} (h : work.Keeps allowed asks result failure)
    (hf : ∀ f, failure f → failure' (f.within context)) :
    (work.within context).Keeps allowed asks result failure' := by
  refine Job.Keeps.map h fun r hr => ?_
  cases r with
  | ok a => exact hr
  | error f => exact hf f hr

end Attempt

end Herald
