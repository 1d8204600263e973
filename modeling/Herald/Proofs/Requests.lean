import Herald.Proofs.Addresses

/-!
# The requests of a client

A request goes to the address of its method and carries the token. What is asked for stands in its
query, and what is posted in its body.

* `AsksFor` and `Posts` say so of a request, and `SentTo` where it goes.
* `Client.Reaches`: the address and the token can stand in a request with so much behind the address.
* `Client.exists_get` and `Client.exists_post`: then there is a request, and it says what it should.
-/

namespace Herald.Slack

/-- A request that goes to an address and carries the token. -/
structure SentTo (c : Client) (base : Url) (r : Http.Request) : Prop where
  secure_eq : r.url.secure = base.secure
  host_eq : r.url.host = base.host
  port_eq : r.url.portNumber = base.portNumber
  path_eq : r.url.path = base.path
  token : "Bearer " ++ c.token ∈ r.authorization
  /-- The token is all that it carries, unless the address names a user or a password. -/
  token_only : base.user = [] → base.password = none → r.authorization = ["Bearer " ++ c.token]

/-- A request that asks for a method with pairs: it goes to the address of the method, and its query
is read as these pairs, behind those that the base address may bring. -/
structure AsksFor (c : Client) (method : Method) (pairs : List (String × String))
    (r : Http.Request) : Prop where
  kind_eq : r.method = .get
  body_eq : r.body = none
  address : ∃ base, Url.ofText? (c.base ++ "/" ++ method.name) = some base ∧ SentTo c base r ∧
    Text.Percent.readPairs (r.url.query.getD []) =
      Text.Percent.readPairs (base.query.getD []) ++ pairs

/-- A request that posts a text to a method. -/
structure Posts (c : Client) (method : Method) (text : String) (r : Http.Request) : Prop where
  kind_eq : r.method = .post
  body_eq : r.body = some text
  address : ∃ base, Url.ofText? (c.base ++ "/" ++ method.name) = some base ∧ SentTo c base r ∧
    r.url.query = base.query

/-- The address of a method and the token can stand in a request, with `room` characters more behind
the address. -/
structure Client.Reaches (c : Client) (method : Method) (room : Nat) : Prop where
  token : ∀ b ∈ Text.Utf8.encode c.token.toList, b = 0x09 ∨ 0x20 ≤ b ∧ b ≠ 0x7F
  address : ∃ base, Url.ofText? (c.base ++ "/" ++ method.name) = some base ∧
    base.toText.length + room ≤ Http.addressLimit

/-! ## How long an address is -/

/-- The text of a query in an address. -/
def queryText (query : Option (List Char)) : List Char :=
  (query.map ('?' :: ·)).getD []

/-- With another query the length of an address changes by that of the query. -/
theorem length_toText_query (url : Url) (query : Option (List Char)) :
    ({ url with query } : Url).toText.length + (queryText url.query).length =
      url.toText.length + (queryText query).length := by
  simp only [Url.toText, Url.target, List.length_append, queryText]
  omega

/-- Pairs make a query longer by what they are written as, and by what stands in front of them. -/
theorem length_query_addPairs_le (url : Url) (pairs : List (String × String)) :
    (queryText (url.addPairs pairs).query).length ≤
      (queryText url.query).length + (1 + (Text.Percent.formPairs pairs).length) := by
  simp only [Url.addPairs]
  generalize Text.Percent.formPairs pairs = new
  rcases url.query with _ | _ | ⟨c, old⟩ <;> cases new <;> simp [queryText] <;> omega

theorem length_addPairs_le (url : Url) (pairs : List (String × String)) :
    (url.addPairs pairs).toText.length ≤
      url.toText.length + (1 + (Text.Percent.formPairs pairs).length) := by
  have htext := length_toText_query url (url.addPairs pairs).query
  have hquery := length_query_addPairs_le url pairs
  change (url.addPairs pairs).toText.length + _ = _ at htext
  omega

/-- The text of user and password in an address. -/
def userText (user : List Char) (password : Option (List Char)) : List Char :=
  if user.isEmpty ∧ password.isNone then [] else user ++ (password.map (':' :: ·)).getD [] ++ ['@']

theorem length_withoutUser_le (url : Url) : url.withoutUser.toText.length ≤ url.toText.length := by
  have hlength : url.withoutUser.toText.length + (userText url.user url.password).length =
      url.toText.length := by
    obtain ⟨secure, user, password, host, portNumber, path, query, fragment⟩ := url
    cases secure <;>
      simp [Url.withoutUser, Url.toText, Url.target, userText, -String.reduceToList] <;> omega
  omega

/-! ## Requests that are built -/

section

variable {c : Client} {kind : Http.Method} {url : Url} {body : Option String} {r : Http.Request}

/-- Without user and password there is nothing else to authorize by. -/
theorem credentials_eq_none (huser : url.user = []) (hpassword : url.password = none) :
    url.credentials = none := by
  have hempty : Text.Utf8.decode? (Text.Percent.decode []) = some [] := by decide +kernel
  simp only [Url.credentials, huser, hpassword, hempty, Option.bind_none]
  rfl

/-- A request that is built for an address goes there, and is what it is built as. -/
theorem Client.sentTo_of_request? (h : c.request? kind url body = some r) :
    SentTo c url r ∧ r.method = kind ∧ r.body = body ∧ r.url.query = url.query := by
  unfold request? at h
  cases hcredentials : url.credentials with
  | none =>
    simp only [hcredentials] at h
    split at h
    · cases h
      exact ⟨⟨rfl, rfl, rfl, rfl, List.mem_singleton_self _, fun _ _ => rfl⟩, rfl, rfl, rfl⟩
    · cases h
  | some named =>
    simp only [hcredentials] at h
    split at h
    · cases h
      refine ⟨⟨rfl, rfl, rfl, rfl, by simp, ?_⟩, rfl, rfl, rfl⟩
      -- credentials come from the address alone
      intro huser hpassword
      rw [credentials_eq_none huser hpassword] at hcredentials
      cases hcredentials
    · cases h

/-- The token can stand behind the word that a header begins with. -/
theorem isHeaderValue_bearer
    (h : ∀ b ∈ Text.Utf8.encode c.token.toList, b = 0x09 ∨ 0x20 ≤ b ∧ b ≠ 0x7F) :
    Http.isHeaderValue ("Bearer " ++ c.token) = true := by
  have hword : ∀ b ∈ Text.Utf8.encode "Bearer ".toList, b = 0x09 ∨ 0x20 ≤ b ∧ b ≠ 0x7F :=
    Url.forall_mem_of_all (by decide)
  have hboth : Text.Utf8.encode ("Bearer " ++ c.token).toList =
      Text.Utf8.encode "Bearer ".toList ++ Text.Utf8.encode c.token.toList := by
    rw [String.toList_append, Text.Utf8.encode, List.flatMap_append]
    rfl
  rw [Http.isHeaderValue, hboth, List.all_eq_true]
  intro b hb
  have hplain := (List.mem_append.mp hb).elim (hword b) (h b)
  simpa using hplain

/-- A request is built for an address that is short enough. -/
theorem Client.exists_request?
    (htoken : ∀ b ∈ Text.Utf8.encode c.token.toList, b = 0x09 ∨ 0x20 ≤ b ∧ b ≠ 0x7F)
    (hlength : url.toText.length ≤ Http.addressLimit) (kind : Http.Method) (body : Option String) :
    ∃ r, c.request? kind url body = some r := by
  have hbearer := isHeaderValue_bearer htoken
  unfold request?
  cases url.credentials with
  | none => exact ⟨_, if_pos ⟨hbearer, hlength⟩⟩
  | some named =>
    exact ⟨_, if_pos ⟨hbearer, Nat.le_trans (length_withoutUser_le url) hlength⟩⟩

end

section

variable {c : Client} {method : Method} {pairs : List (String × String)} {r : Http.Request}

/-- Whatever is asked for, the request says so, if it can be built. -/
theorem Client.asksFor_get (h : (c.get method pairs).request = some r) :
    AsksFor c method pairs r := by
  obtain ⟨base, hbase, hrequest⟩ := Option.bind_eq_some_iff.mp h
  obtain ⟨hsent, hkind, hbody, hquery⟩ := sentTo_of_request? hrequest
  refine ⟨hkind, hbody, base, hbase, ?_, by rw [hquery, base.readPairs_addPairs]⟩
  -- pairs change nothing of an address but its query
  exact ⟨hsent.secure_eq, hsent.host_eq, hsent.port_eq, hsent.path_eq, hsent.token,
    hsent.token_only⟩

/-- There is a request that asks for a method with pairs, if the method can be reached with them. -/
theorem Client.exists_get (h : c.Reaches method (1 + (Text.Percent.formPairs pairs).length)) :
    ∃ r, (c.get method pairs).request = some r ∧ AsksFor c method pairs r := by
  obtain ⟨base, hbase, hlength⟩ := h.address
  obtain ⟨r, hr⟩ := exists_request? h.token
    (Nat.le_trans (length_addPairs_le base pairs) hlength) .get none
  have hrequest : (c.get method pairs).request = some r :=
    Option.bind_eq_some_iff.mpr ⟨base, hbase, hr⟩
  exact ⟨r, hrequest, asksFor_get hrequest⟩

/-- Whatever is posted, the request carries it, if it can be built. -/
theorem Client.posts_post {body : Json} (h : (c.post method body).request = some r) :
    Posts c method body.toText r := by
  obtain ⟨base, hbase, hrequest⟩ := Option.bind_eq_some_iff.mp h
  obtain ⟨hsent, hkind, hbody, hquery⟩ := sentTo_of_request? hrequest
  exact ⟨hkind, hbody, base, hbase, hsent, hquery⟩

/-- There is a request that posts to a method, if the method can be reached. -/
theorem Client.exists_post (h : c.Reaches method 0) (body : Json) :
    ∃ r, (c.post method body).request = some r ∧ Posts c method body.toText r := by
  obtain ⟨base, hbase, hlength⟩ := h.address
  obtain ⟨r, hr⟩ := exists_request? h.token hlength .post (some body.toText)
  have hrequest : (c.post method body).request = some r :=
    Option.bind_eq_some_iff.mpr ⟨base, hbase, hr⟩
  exact ⟨r, hrequest, posts_post hrequest⟩

end

/-- The address of a method under `https://slack.com/api`. -/
def slackAddress (method : Method) : Url where
  secure := true
  host := "slack.com".toList
  path := '/' :: ("api/" ++ method.name).toList

theorem Client.url?_slack (token : String) (method : Method) :
    url? ⟨"https://slack.com/api", token⟩ method = some (slackAddress method) := by
  have hhost : Url.PlainHost "slack.com".toList := {
    plain := Url.forall_mem_of_all (by decide)
    labels := by decide
    ne_nil := by decide
    no_number := by decide +kernel }
  have hpath : ∀ c ∈ ("api/" ++ method.name).toList, ' ' < c ∧ c ≠ '?' ∧ c ≠ '#' := by
    cases method <;> exact Url.forall_mem_of_all (by decide)
  have hspelling : Url.pathText (slackAddress method).path = (slackAddress method).path := by
    cases method <;> decide +kernel
  have htext : "https://slack.com/api" ++ "/" ++ method.name = String.ofList
      ("https://".toList ++ "slack.com".toList ++ '/' :: ("api/" ++ method.name).toList) := by
    apply String.toList_inj.mp
    simp
  rw [url?, htext, Url.ofText?_of_plainHost hhost hpath]
  exact congrArg (fun path => some { slackAddress method with path }) hspelling

theorem Client.get_slack (token : String) (method : Method) (pairs : List (String × String)) :
    (get ⟨"https://slack.com/api", token⟩ method pairs).request =
      request? ⟨"https://slack.com/api", token⟩ .get ((slackAddress method).addPairs pairs) none := by
  rw [get, url?_slack]
  rfl

theorem Client.post_slack (token : String) (method : Method) (body : Json) :
    (post ⟨"https://slack.com/api", token⟩ method body).request =
      request? ⟨"https://slack.com/api", token⟩ .post (slackAddress method) (some body.toText) := by
  rw [post, url?_slack]
  rfl

/-- There any method is reached by a token that a header can hold. -/
theorem Client.reaches_slack {token : String}
    (h : ∀ b ∈ Text.Utf8.encode token.toList, b = 0x09 ∨ 0x20 ≤ b ∧ b ≠ 0x7F) (method : Method)
    {room : Nat} (hroom : room ≤ 65000) : Reaches ⟨"https://slack.com/api", token⟩ method room := by
  refine ⟨h, _, url?_slack token method, ?_⟩
  -- none of the addresses comes near the limit
  have hlength : ∀ m : Method, (slackAddress m).toText.length ≤ 500 := by
    intro m
    cases m <;> decide +kernel
  have hlimit : Http.addressLimit = 65534 := rfl
  have hshort := hlength method
  omega

end Herald.Slack
