import Herald.Proofs.Replies

/-!
# What is told of an event

To tell of an event the bot may have to look up a channel and users. If one of these look-ups fails
there is no notice at all; otherwise the number of the messages, where they go and what they show
depend on the event alone.

* `Notice.Inquires` says what is looked up for an event, and `Notice.Misses` when that fails in a
  world which stays the same.
* `Notice.course_channelAndUser`: a channel and a user are looked up both at once, and the failure
  names what was not found.
* `Notice.render_account`: what is looked up and made for any event, whatever is answered and in
  whatever order.
-/

namespace Herald

namespace Notice

/-! ## What is looked up -/

/-- The event reports a channel without its creator. -/
def Unnamed : Event → Prop
  | .channelCreated ref => ref.creator = none
  | _ => False

/-- Two look-ups are made at once, and both are waited for, whatever becomes of either. -/
abbrev Joined (l r : LookUp) (asked : List Exchange) (found : l.Answer) (found' : r.Answer) : Prop :=
  Attempt.Overlapped (F := LookUp.Answer) (fun _ => .ok) l r asked (.ok (found, found'))

/-- Two look-ups are made at once, until one of them fails. -/
abbrev TryJoined (l r : LookUp) (asked : List Exchange)
    (made : Except Failure (l.Found × r.Found)) : Prop :=
  Attempt.Overlapped (F := LookUp.Found) (fun _ a => a) l r asked made

/-- What is looked up for an event. For an archived channel the channel and the user are looked up
both at once, whatever comes of either; for a member who has left, the creator of the channel and the
member, once the channel is found. -/
def Inquires : Event → List Exchange → Prop
  | .channelArchive channel user, asked | .channelUnarchive channel user, asked =>
    ∃ found found', Joined (.channel channel) (.user user) asked found found'
  | .channelCreated ref, asked =>
    (ref.creator = none ∧ asked = []) ∨
      ∃ id found, ref.creator = some id ∧ asked = [⟨.user id, found⟩]
  | .memberJoined user _, asked => ∃ found, asked = [⟨.user user, found⟩]
  | .memberLeft user channel, asked =>
    (∃ f, asked = [⟨.channel channel, .error f⟩]) ∨
    ∃ info behind made, asked = ⟨.channel channel, .ok info⟩ :: behind ∧
      TryJoined (.user info.creator) (.user user) behind made
  | _, asked => asked = []

/-- A look-up that an event needs fails in a world, or cannot be made. -/
def Misses (world : World) : Event → Prop
  | .channelArchive channel user | .channelUnarchive channel user =>
    Failed (world.channel channel) ∨ Failed (world.user user)
  | .channelCreated ref => ∀ id ∈ ref.creator, Failed (world.user id)
  | .memberJoined user _ => Failed (world.user user)
  | .memberLeft user channel =>
    Failed (world.channel channel) ∨ Failed (world.user user) ∨
      ∃ info, world.channel channel = .ok info ∧ Failed (world.user info.creator)
  | _ => False

/-- What a failure says about a channel and a user: which of them could not be found. -/
def blame (channel user : String) (found : Except Failure Channel) (found' : Except Failure User) :
    String :=
  "Cannot find " ++ " and ".intercalate
    ((match found' with
      | .error _ => ["user: " ++ user]
      | .ok _ => []) ++
    match found with
      | .error _ => ["channel: " ++ channel]
      | .ok _ => [])

/-! ## What is made -/

/-- How many messages tell of an event. -/
def size : Event → Nat
  | .emojiChanged (.remove names) => names.length
  | .emojiChanged .other | .message _ | .other => 0
  | _ => 1

/-- Where they go. -/
def place (announce : String) : Event → String
  | .memberJoined _ channel | .memberLeft _ channel => channel
  | _ => announce

/-- What they show. -/
def pictures : Event → List Attachment
  | .emojiChanged (.add name value) => [⟨emojiColor, name, value⟩]
  | _ => []

/-- A message about an event: it is the bot's own, goes where it belongs, and shows what it should.
-/
structure Fits (announce : String) (event : Event) (m : Message) : Prop where
  channel_eq : m.channel = place announce event
  asUser : m.asUser = true
  linkNames : m.linkNames = true
  username : m.username = none
  icon : m.icon = none
  attachments : m.attachments = pictures event

/-- The messages about an event. -/
structure Tells (announce : String) (event : Event) (messages : List Message) : Prop where
  size_eq : messages.length = size event
  fits : ∀ m ∈ messages, Fits announce event m
  /-- The emoji that are gone are told of one by one. -/
  removed : ∀ names, event = .emojiChanged (.remove names) → messages = names.map fun name =>
    { channel := announce, text := ":" ++ name ++ ": has been removed" }

/-- The event is of a channel that goes into the archive or comes out of it. -/
def OfArchive (channel user : String) (event : Event) : Prop :=
  event = .channelArchive channel user ∨ event = .channelUnarchive channel user

theorem OfArchive.unique {channel channel' user user' : String} {event : Event}
    (h : OfArchive channel user event) (h' : OfArchive channel' user' event) :
    channel = channel' ∧ user = user' := by
  rcases h with rfl | rfl <;> rcases h' with h | h <;> cases h <;> exact ⟨rfl, rfl⟩

/-- What has been looked up for an event, and what has been made of it. -/
structure Rendered (announce : String) (event : Event) (asked : List Exchange)
    (made : Except Failure (List Message)) : Prop where
  inquires : Inquires event asked
  /-- Whatever is not found, there is no message at all. -/
  failed_iff : Failed made ↔ Unnamed event ∨ ∃ x ∈ told asked, Failed x.2
  tells : ∀ messages, made = .ok messages → Tells announce event messages
  /-- For an archived channel both look-ups are begun, whatever comes of them, before either is waited
  for. -/
  both : ∀ channel user, OfArchive channel user event → ∃ soon soon' waits,
    asked = ⟨.start (.channel channel), soon⟩ :: ⟨.start (.user user), soon'⟩ :: waits ∧
      ∀ x ∈ waits, x.1.isWait = true
  /-- The failure for it names what could not be found, and nothing else. -/
  blames : ∀ channel user found found' f, OfArchive channel user event →
    ⟨.channel channel, found⟩ ∈ told asked → ⟨.user user, found'⟩ ∈ told asked →
    made = .error f → f.message = blame channel user found found'
  /-- For any other event the first failure that is told ends it all. -/
  ended : ∀ f, made = .error f → (∀ channel user, ¬ OfArchive channel user event) →
    ¬ Unnamed event → ∃ front last, told asked = front ++ [last] ∧ (∀ x ∈ front, ¬ Failed x.2) ∧
      last.2 = .error f

section

variable {announce : String} {event : Event} {asked : List Exchange}

theorem tells_single {m : Message} (hsize : size event = 1)
    (hother : ∀ names, event ≠ .emojiChanged (.remove names)) (hfits : Fits announce event m) :
    Tells announce event [m] where
  size_eq := hsize.symm
  fits := by simpa using hfits
  removed := fun names h => absurd h (hother names)

theorem tells_nil (hsize : size event = 0)
    (hother : ∀ names, event ≠ .emojiChanged (.remove names)) : Tells announce event [] where
  size_eq := hsize.symm
  fits := nofun
  removed := fun names h => absurd h (hother names)

/-- Everything has been found, and the messages could be made. -/
theorem rendered_of_tells {messages : List Message} (hinquires : Inquires event asked)
    (hother : ∀ channel user, ¬ OfArchive channel user event)
    (hfound : ¬ (Unnamed event ∨ ∃ x ∈ told asked, Failed x.2))
    (htells : Tells announce event messages) : Rendered announce event asked (.ok messages) where
  inquires := hinquires
  failed_iff := iff_of_false (not_failed_ok _) hfound
  tells := by
    rintro _ ⟨⟩
    exact htells
  both := fun channel user h => absurd h (hother channel user)
  blames := by rintro _ _ _ _ _ - - - ⟨⟩
  ended := by rintro _ ⟨⟩

/-- Something has not been found, and nothing is told behind that. -/
theorem rendered_of_miss {f : Failure} (hinquires : Inquires event asked)
    (hother : ∀ channel user, ¬ OfArchive channel user event) (front : List Finding)
    {last : Finding} (htold : told asked = front ++ [last]) (hfront : ∀ x ∈ front, ¬ Failed x.2)
    (hlast : last.2 = .error f) : Rendered announce event asked (.error f) where
  inquires := hinquires
  failed_iff := by
    refine iff_of_true (failed_error f) (.inr ⟨last, ?_, f, hlast⟩)
    simp [htold]
  tells := nofun
  both := fun channel user h => absurd h (hother channel user)
  blames := fun channel user _ _ _ h => absurd h (hother channel user)
  ended := by
    rintro _ ⟨⟩ - -
    exact ⟨front, last, htold, hfront, hlast⟩

/-- Nobody is named to be looked up. -/
theorem rendered_of_unnamed {f : Failure} (hinquires : Inquires event asked)
    (hunnamed : Unnamed event) (hother : ∀ channel user, ¬ OfArchive channel user event) :
    Rendered announce event asked (.error f) where
  inquires := hinquires
  failed_iff := iff_of_true (failed_error f) (.inl hunnamed)
  tells := nofun
  both := fun channel user h => absurd h (hother channel user)
  blames := fun channel user _ _ _ h => absurd h (hother channel user)
  ended := fun _ _ _ hnamed => absurd hunnamed hnamed

end

/-! ## The courses of rendering -/

/-- Work that begins with the look-up of a user ends there if it fails. -/
theorem course_user {id : String} {f : User → Attempt β} {xs : List Exchange} {r : Except Failure β}
    (h : (Attempt.user id >>= f).run.Course xs (.done r)) :
    (∃ e, xs = [⟨.user id, .error e⟩] ∧ r = .error e) ∨
      ∃ user zs, xs = ⟨.user id, .ok user⟩ :: zs ∧ (f user).run.Course zs (.done r) := by
  rcases Attempt.course_bind h with ⟨e, hquery, rfl⟩ | ⟨ys, zs, user, rfl, hquery, hrest⟩
  · exact .inl ⟨e, Job.Course.of_query hquery, rfl⟩
  · obtain rfl := Job.Course.of_query hquery
    exact .inr ⟨user, zs, rfl, hrest⟩

/-- So does work that begins with that of a channel. -/
theorem course_channel {id : String} {f : Channel → Attempt β} {xs : List Exchange}
    {r : Except Failure β} (h : (Attempt.channel id >>= f).run.Course xs (.done r)) :
    (∃ e, xs = [⟨.channel id, .error e⟩] ∧ r = .error e) ∨
      ∃ channel zs, xs = ⟨.channel id, .ok channel⟩ :: zs ∧
        (f channel).run.Course zs (.done r) := by
  rcases Attempt.course_bind h with ⟨e, hquery, rfl⟩ | ⟨ys, zs, channel, rfl, hquery, hrest⟩
  · exact .inl ⟨e, Job.Course.of_query hquery, rfl⟩
  · obtain rfl := Job.Course.of_query hquery
    exact .inr ⟨channel, zs, rfl, hrest⟩

/-- Of two look-ups that are both waited for, both are told of, and nothing else. -/
theorem Joined.mem_told_iff {l r : LookUp} {asked : List Exchange} {found : l.Answer}
    {found' : r.Answer} (h : Joined l r asked found found') {x : Finding} :
    x ∈ told asked ↔ x = ⟨l, found⟩ ∨ x = ⟨r, found'⟩ := by
  have hcomes := h.comes
  generalize told asked = findings at hcomes ⊢
  cases hcomes with
  | both hl hr hperm =>
    cases hl
    cases hr
    rw [hperm.mem_iff]
    simp

/-- To wait for both look-ups does not fail. -/
theorem course_join {l r : LookUp} {xs : List Exchange}
    {made : Except Failure (l.Answer × r.Answer)}
    (h : (Attempt.join l r).run.Course xs (.done made)) :
    ∃ found found', made = .ok (found, found') ∧ Joined l r xs found found' := by
  have hoverlapped := Attempt.course_overlap h
  -- no answer is taken for a failure, be it one or not
  cases made with
  | ok p => exact ⟨p.1, p.2, rfl, hoverlapped⟩
  | error f =>
    obtain ⟨x, -, e, htake⟩ := hoverlapped.comes.failed_iff.mp (failed_error f)
    cases htake

/-- The channel and the user are both looked up, and a failure names what of them has not been
found. -/
theorem course_channelAndUser {channel user : String} {xs : List Exchange}
    {r : Except Failure (String × String)}
    (h : (channelAndUser channel user).run.Course xs (.done r)) :
    ∃ found found', Joined (.channel channel) (.user user) xs found found' ∧
      (Failed r ↔ Failed found ∨ Failed found') ∧
      ∀ f, r = .error f → f.message = blame channel user found found' := by
  rcases Attempt.course_bind h with ⟨e, hboth, -⟩ | ⟨ys, zs, p, rfl, hboth, hlast⟩
  · obtain ⟨_, _, ⟨⟩, -⟩ := course_join hboth
  obtain ⟨found, found', hp, hjoined⟩ := course_join hboth
  cases hp
  refine ⟨found, found', ?_⟩
  cases found <;> cases found'
  case ok.ok =>
    obtain ⟨rfl, rfl⟩ := Attempt.course_pure hlast
    exact ⟨by rwa [List.append_nil], by simp, nofun⟩
  all_goals
    obtain ⟨rfl, rfl⟩ := Attempt.course_fail hlast
    refine ⟨by rwa [List.append_nil], by simp, ?_⟩
    rintro _ ⟨⟩
    apply String.toList_inj.mp
    simp [blame, Failure.message, Failure.of, Cause.text]

/-- Both events about an archived channel take the same course. -/
theorem rendered_of_archived {announce channel user : String} {event : Event}
    {compose : String × String → String} {asked : List Exchange}
    {made : Except Failure (List Message)} (hevent : OfArchive channel user event)
    (h : (channelAndUser channel user >>= fun names =>
      (pure [{ channel := announce, text := compose names }] : Attempt (List Message))).run.Course
        asked (.done made)) : Rendered announce event asked made := by
  obtain ⟨found, found', hjoined, hfailed, hblame, hmade⟩ : ∃ found found',
      Joined (.channel channel) (.user user) asked found found' ∧
        (Failed made ↔ Failed found ∨ Failed found') ∧
        (∀ f, made = .error f → f.message = blame channel user found found') ∧
        ∀ messages, made = .ok messages → ∃ text, messages = [{ channel := announce, text }] := by
    rcases Attempt.course_bind h with ⟨e, hnames, rfl⟩ | ⟨ys, zs, names, rfl, hnames, hrest⟩
    · obtain ⟨found, found', hjoined, hfailed, hblame⟩ := course_channelAndUser hnames
      refine ⟨found, found', hjoined, ?_, ?_, nofun⟩
      · rw [← hfailed]
        simp
      · rintro _ ⟨⟩
        exact hblame _ rfl
    · obtain ⟨found, found', hjoined, hfailed, -⟩ := course_channelAndUser hnames
      obtain ⟨rfl, rfl⟩ := Attempt.course_pure hrest
      refine ⟨found, found', by rwa [List.append_nil], ?_, nofun, ?_⟩
      · rw [← hfailed]
        simp
      · rintro _ ⟨⟩
        exact ⟨_, rfl⟩
  constructor
  case inquires => rcases hevent with rfl | rfl <;> exact ⟨found, found', hjoined⟩
  case failed_iff =>
    have hnamed : ¬ Unnamed event := by rcases hevent with rfl | rfl <;> exact id
    rw [hfailed]
    simp [hnamed, hjoined.mem_told_iff]
  case tells =>
    intro messages hmessages
    obtain ⟨text, rfl⟩ := hmade messages hmessages
    rcases hevent with rfl | rfl <;> exact tells_single rfl nofun ⟨rfl, rfl, rfl, rfl, rfl, rfl⟩
  case both =>
    intro channel' user' hevent'
    obtain ⟨rfl, rfl⟩ := hevent.unique hevent'
    exact hjoined.begun fun _ => not_failed_ok _
  case blames =>
    intro channel' user' found₂ found₂' f hevent' hchannel huser hf
    obtain ⟨rfl, rfl⟩ := hevent.unique hevent'
    rcases hjoined.mem_told_iff.mp hchannel with h | h <;> cases h
    rcases hjoined.mem_told_iff.mp huser with h | h <;> cases h
    exact hblame f hf
  case ended => exact fun _ _ hother => absurd hevent (hother channel user)

/-- Two look-ups that are made at once tell of nothing behind a failure. -/
theorem TryJoined.exists_last {l r : LookUp} {asked : List Exchange} {f : Failure}
    (h : TryJoined l r asked (.error f)) : ∃ front last, told asked = front ++ [last] ∧
      (∀ x ∈ front, ¬ Failed x.2) ∧ last.2 = .error f := by
  have hcomes := h.comes
  generalize told asked = findings at hcomes
  cases hcomes with
  | failed _ hfront hlast => exact ⟨_, _, rfl, hfront, hlast⟩

/-- Rendering, whatever it is told. -/
theorem rendered_of_course {announce : String} {event : Event} {asked : List Exchange}
    {made : Except Failure (List Message)}
    (h : (render announce event).run.Course asked (.done made)) :
    Rendered announce event asked made := by
  cases event with
  | channelArchive channel user => exact rendered_of_archived (.inl rfl) h
  | channelUnarchive channel user => exact rendered_of_archived (.inr rfl) h
  | emojiChanged change =>
    cases change with
    | add name value =>
      obtain ⟨rfl, rfl⟩ := Attempt.course_pure h
      exact rendered_of_tells rfl (by simp [OfArchive]) (by simp [Unnamed, told])
        (tells_single rfl nofun ⟨rfl, rfl, rfl, rfl, rfl, rfl⟩)
    | remove names =>
      obtain ⟨rfl, rfl⟩ := Attempt.course_pure h
      refine rendered_of_tells rfl (by simp [OfArchive]) (by simp [Unnamed, told])
        ⟨List.length_map .., ?_, ?_⟩
      · intro m hm
        obtain ⟨name, -, rfl⟩ := List.mem_map.mp hm
        exact ⟨rfl, rfl, rfl, rfl, rfl, rfl⟩
      · rintro _ ⟨⟩
        rfl
    | other =>
      obtain ⟨rfl, rfl⟩ := Attempt.course_pure h
      exact rendered_of_tells rfl (by simp [OfArchive]) (by simp [Unnamed, told]) (tells_nil rfl nofun)
  | channelCreated ref =>
    obtain ⟨id, name, creator⟩ := ref
    cases creator with
    | none =>
      obtain ⟨rfl, rfl⟩ := Attempt.course_fail h
      exact rendered_of_unnamed (.inl ⟨rfl, rfl⟩) rfl (by simp [OfArchive])
    | some id =>
      rcases course_user h with ⟨e, rfl, rfl⟩ | ⟨creator, zs, rfl, hrest⟩
      · exact rendered_of_miss (.inr ⟨id, _, rfl, rfl⟩) (by simp [OfArchive]) [] rfl nofun rfl
      · obtain ⟨rfl, rfl⟩ := Attempt.course_pure hrest
        exact rendered_of_tells (.inr ⟨id, _, rfl, rfl⟩) (by simp [OfArchive])
          (by simp [Unnamed, told, Exchange.told?])
          (tells_single rfl nofun ⟨rfl, rfl, rfl, rfl, rfl, rfl⟩)
  | memberJoined user channel =>
    rcases course_user h with ⟨e, rfl, rfl⟩ | ⟨joined, zs, rfl, hrest⟩
    · exact rendered_of_miss ⟨_, rfl⟩ (by simp [OfArchive]) [] rfl nofun rfl
    · obtain ⟨rfl, rfl⟩ := Attempt.course_pure hrest
      exact rendered_of_tells ⟨_, rfl⟩ (by simp [OfArchive])
        (by simp [Unnamed, told, Exchange.told?])
        (tells_single rfl nofun ⟨rfl, rfl, rfl, rfl, rfl, rfl⟩)
  | memberLeft user channel =>
    rcases course_channel h with ⟨e, rfl, rfl⟩ | ⟨info, zs, rfl, hinfo⟩
    · exact rendered_of_miss (.inl ⟨e, rfl⟩) (by simp [OfArchive]) [] rfl nofun rfl
    have htold : ∀ xs, told (⟨.channel channel, .ok info⟩ :: xs) =
        ⟨.channel channel, .ok info⟩ :: told xs := fun _ => rfl
    rcases Attempt.course_bind hinfo with ⟨e, hboth, rfl⟩ | ⟨ys, zs, p, rfl, hboth, hrest⟩
    · -- the first failure that is told is that of the rendering
      have hjoined : TryJoined (.user info.creator) (.user user) zs (.error e) :=
        Attempt.course_overlap hboth
      obtain ⟨front, last, hlast, hfront, hfailed⟩ := hjoined.exists_last
      refine rendered_of_miss (.inr ⟨info, zs, _, rfl, hjoined⟩) (by simp [OfArchive])
        (⟨.channel channel, .ok info⟩ :: front) ?_ ?_ hfailed
      · rw [htold, hlast]
        rfl
      · exact List.forall_mem_cons.mpr ⟨not_failed_ok info, hfront⟩
    · obtain ⟨rfl, rfl⟩ := Attempt.course_pure hrest
      have hjoined : TryJoined (.user info.creator) (.user user) ys (.ok p) :=
        Attempt.course_overlap hboth
      have hfound := mt hjoined.comes.failed_iff.mpr (not_failed_ok p)
      rw [List.append_nil]
      refine rendered_of_tells (.inr ⟨info, ys, _, rfl, hjoined⟩) (by simp [OfArchive]) ?_
        (tells_single rfl nofun ⟨rfl, rfl, rfl, rfl, rfl, rfl⟩)
      rw [htold]
      simpa [Unnamed] using hfound
  | channelDeleted _ | channelRename _ | fileCreated _ =>
    obtain ⟨rfl, rfl⟩ := Attempt.course_pure h
    exact rendered_of_tells rfl (by simp [OfArchive]) (by simp [Unnamed, told])
      (tells_single rfl nofun ⟨rfl, rfl, rfl, rfl, rfl, rfl⟩)
  | message _ | other =>
    obtain ⟨rfl, rfl⟩ := Attempt.course_pure h
    exact rendered_of_tells rfl (by simp [OfArchive]) (by simp [Unnamed, told]) (tells_nil rfl nofun)

/-- Where what is told is what the look-ups come to in a world, one of them fails if one that the
event needs does. -/
theorem miss_iff {event : Event} {asked : List Exchange} (hinquires : Inquires event asked)
    {world : World} (hworld : ∀ x ∈ told asked, x.2 = world.lookUp x.1) :
    (Unnamed event ∨ ∃ x ∈ told asked, Failed x.2) ↔ Misses world event := by
  have hchannel : ∀ {id found}, ⟨.channel id, found⟩ ∈ told asked → found = world.channel id :=
    fun h => hworld _ h
  have huser : ∀ {id found}, ⟨.user id, found⟩ ∈ told asked → found = world.user id :=
    fun h => hworld _ h
  cases event with
  | channelArchive channel user | channelUnarchive channel user =>
    obtain ⟨found, found', hjoined⟩ := hinquires
    obtain rfl := hchannel (hjoined.mem_told_iff.mpr (.inl rfl))
    obtain rfl := huser (hjoined.mem_told_iff.mpr (.inr rfl))
    simp [Unnamed, hjoined.mem_told_iff, Misses]
  | channelCreated ref =>
    rcases hinquires with ⟨hnone, rfl⟩ | ⟨id, found, hsome, rfl⟩
    · simp [Unnamed, Misses, hnone]
    · obtain rfl := huser List.mem_cons_self
      simp [Unnamed, told, Exchange.told?, Misses, hsome]
  | memberJoined user channel =>
    obtain ⟨found, rfl⟩ := hinquires
    obtain rfl := huser List.mem_cons_self
    simp [Unnamed, told, Exchange.told?, Misses]
  | memberLeft user channel =>
    rcases hinquires with ⟨f, rfl⟩ | ⟨info, behind, made, rfl, hjoined⟩
    · have hnowhere := hchannel List.mem_cons_self
      simp [told, Exchange.told?, Misses, ← hnowhere]
    · have htold : told (⟨.channel channel, .ok info⟩ :: behind) =
          ⟨.channel channel, .ok info⟩ :: told behind := rfl
      have hinfo := hchannel (htold ▸ List.mem_cons_self)
      have hbehind : ∀ x ∈ told behind, x.2 = world.lookUp x.1 :=
        fun x hx => hworld x (htold ▸ List.mem_cons_of_mem _ hx)
      have hfailed := hjoined.comes.failed_iff.symm.trans (hjoined.comes.failed_iff_lookUp hbehind)
      rw [htold]
      simp [Unnamed, Misses, ← hinfo, hfailed, World.lookUp, or_comm]
  | _ =>
    obtain rfl := hinquires
    simp [Unnamed, told, Misses]

/-- What is looked up for any event and what is made of it, whatever is answered, at once or later.
Where the look-ups are what they are in a world, it fails if one does that the event needs. -/
theorem render_account (announce : String) (event : Event) (answer : (q : Query) → σ → q.Answer × σ)
    (s : σ) :
    Rendered announce event ((render announce event).run.conclude answer s).2.1
      ((render announce event).run.conclude answer s).1 ∧
    (∀ world : World, (∀ x ∈ told ((render announce event).run.conclude answer s).2.1,
        x.2 = world.lookUp x.1) →
      (Failed ((render announce event).run.conclude answer s).1 ↔ Misses world event)) ∧
    ∀ (world : World) (held : Option Identity),
      Failed ((render announce event).run.conclude (fun q s => (world.answer held q, s)) s).1 ↔
        Misses world event := by
  have hrendered : ∀ answer : (q : Query) → σ → q.Answer × σ,
      Rendered announce event ((render announce event).run.conclude answer s).2.1
        ((render announce event).run.conclude answer s).1 :=
    fun answer => rendered_of_course (Job.course_conclude answer _ s)
  refine ⟨hrendered answer, ?_, ?_⟩
  · intro world hworld
    rw [(hrendered answer).failed_iff]
    exact miss_iff (hrendered answer).inquires hworld
  · intro world held
    rw [(hrendered _).failed_iff]
    refine miss_iff (hrendered _).inquires ?_
    refine @World.eq_lookUp_of_told world held _ ?_
    intro x hx
    rw [Job.answer_of_mem_conclude (world.answer held) _ s x hx]
    exact world.answers_answer held x.1

/-- A world in which nobody knows the creator of a channel. -/
def orphaned (prompt : Bool) : World where
  channel id := .ok { id, name := "square", creator := "U0" }
  user id := if id = "U0" then .error (.of .foreign) else .ok { id, name := "taro" }
  generate _ := .error (.of .foreign)
  post _ := .ok ()
  prompt _ := prompt

/-- Where answers take their time, the member is asked for although the creator is not found. -/
example : ((render "C0" (.memberLeft "U2" "C1")).run.conclude
    (fun q s => ((orphaned false).answer none q, s)) ()).2.1.map (·.1) =
      [.channel "C1", .start (.user "U0"), .start (.user "U2"),
        .race (.user "U0") (.user "U2")] := by
  decide +kernel

/-- Where they are there at once, it is not. -/
example : ((render "C0" (.memberLeft "U2" "C1")).run.conclude
    (fun q s => ((orphaned true).answer none q, s)) ()).2.1.map (·.1) =
      [.channel "C1", .start (.user "U0")] := by
  decide +kernel

/-- Nothing is posted by looking up. -/
theorem isInquiry_of_inquires {event : Event} {asked : List Exchange}
    (h : Inquires event asked) : ∀ x ∈ asked, x.1.IsInquiry := by
  have hwait : ∀ q : Query, q.isWait = true → q.IsInquiry := by
    intro q hq
    cases q with
    | await | race => trivial
    | _ => cases hq
  cases event with
  | channelArchive _ _ | channelUnarchive _ _ =>
    obtain ⟨_, _, hjoined⟩ := h
    exact hjoined.asks (fun _ => trivial) hwait
  | channelCreated ref =>
    rcases h with ⟨-, rfl⟩ | ⟨_, _, -, rfl⟩ <;> simp [Query.IsInquiry]
  | memberJoined _ _ =>
    obtain ⟨_, rfl⟩ := h
    simp [Query.IsInquiry]
  | memberLeft _ _ =>
    rcases h with ⟨_, rfl⟩ | ⟨_, _, _, rfl, hjoined⟩
    · simp [Query.IsInquiry]
    · exact List.forall_mem_cons.mpr ⟨trivial, hjoined.asks (fun _ => trivial) hwait⟩
  | _ =>
    obtain rfl := h
    exact fun _ hx => absurd hx List.not_mem_nil

end Notice

end Herald
