import Herald.Config
import Herald.Proofs.AnswerShapes
import Herald.Proofs.Utf8Text

/-!
# Loading the configuration

`Config.Describes` says which configuration a TOML document describes: what it leaves out, a section or a
field of one, has its default. `FromFile` says what there is in a file, which may be absent, unreadable
or of any bytes, and `InEffect` which of two texts counts, the one of the environment or the one of the
file. From these `Loads` puts the order of the checks together: the file, the token, the channel.

* `load_eq_iff`: what is loaded is what `Loads` says, and nothing else.
* `load_account` draws from it when there is a configuration, which one, and what is complained of.
-/

namespace Herald

/-! ## Fields of a document -/

namespace Toml

/-- What the fields of a record hold, which has these fields in this order. Of an array the first items
count, and a date has none of the fields. -/
inductive Record (names : List String) : Toml → (String → Option Toml) → Prop where
  | table (entries : List (String × Toml)) : Record names (.table entries) (entries.lookup ·)
  | array (items : List Toml) : Record names (.array items) fun name => items[names.idxOf name]?
  | datetime (literal : String) : Record names (.datetime literal) fun _ => none

theorem find?_map_eq_lookup (entries : List (String × Toml)) (name : String) :
    (entries.find? (·.1 = name)).map (·.2) = entries.lookup name := by
  induction entries with
  | nil => rfl
  | cons entry entries ih =>
    obtain ⟨key, v⟩ := entry
    by_cases hkey : key = name
    · simp [hkey]
    · have hbeq : (name == key) = false := beq_eq_false_iff_ne.mpr (Ne.symm hkey)
      rw [List.find?_cons_of_neg (by simpa using hkey), ih, List.lookup_cons, hbeq]

theorem fields?_eq_some_iff {names : List String} (hnames : names.Nodup) {v : Toml}
    {values : List (Option Toml)} :
    v.fields? names = some values ↔ ∃ field, Record names v field ∧ values = names.map field := by
  cases v with
  | table entries =>
    simp only [fields?, find?_map_eq_lookup, Option.some.injEq]
    constructor
    · rintro rfl
      exact ⟨_, .table entries, rfl⟩
    · rintro ⟨field, ⟨⟩, rfl⟩
      rfl
  | array items =>
    have hvalues : (items.take names.length).map some ++
        List.replicate (names.length - (items.take names.length).length) none =
          names.map fun name => items[names.idxOf name]? := by
      rw [Json.values_eq_map_idxOf hnames _ (List.length_take_le _ _)]
      refine List.map_congr_left fun name hname => ?_
      exact List.getElem?_take_of_lt (List.idxOf_lt_length_of_mem hname)
    rw [fields?, Option.some.injEq, hvalues]
    constructor
    · rintro rfl
      exact ⟨_, .array items, rfl⟩
    · rintro ⟨field, ⟨⟩, rfl⟩
      rfl
  | datetime literal =>
    rw [fields?, Option.some.injEq]
    constructor
    · rintro rfl
      exact ⟨_, .datetime literal, rfl⟩
    · rintro ⟨field, ⟨⟩, rfl⟩
      rfl
  | _ =>
    refine iff_of_false nofun ?_
    rintro ⟨field, ⟨⟩, -⟩

/-- What is made of the fields of a record. -/
theorem bind_fields?_eq_some_iff {names : List String} (hnames : names.Nodup) {v : Toml}
    {k : List (Option Toml) → Option α} {a : α} : v.fields? names >>= k = some a ↔
      ∃ field, Record names v field ∧ k (names.map field) = some a := by
  rw [Option.bind_eq_bind, Option.bind_eq_some_iff]
  constructor
  · rintro ⟨values, hvalues, h⟩
    obtain ⟨field, hrecord, rfl⟩ := (fields?_eq_some_iff hnames).mp hvalues
    exact ⟨field, hrecord, h⟩
  · rintro ⟨field, hrecord, h⟩
    exact ⟨_, (fields?_eq_some_iff hnames).mpr ⟨field, hrecord, rfl⟩, h⟩

/-- A field that may be left out, and then has its default. -/
inductive Given (is : Toml → α → Prop) (default : α) : Option Toml → α → Prop where
  | absent : Given is default none default
  | given {v : Toml} {a : α} (h : is v a) : Given is default (some v) a

theorem orDefault_eq_some_iff {read : Toml → Option α} {is : Toml → α → Prop} {default : α}
    (h : ∀ {v : Toml} {a : α}, read v = some a ↔ is v a) {v : Option Toml} {a : α} :
    orDefault read default v = some a ↔ Given is default v a := by
  cases v with
  | none =>
    rw [orDefault, Option.some.injEq]
    constructor
    · rintro rfl
      exact .absent
    · rintro ⟨⟩
      rfl
  | some v =>
    rw [orDefault, h]
    constructor
    · exact .given
    · rintro ⟨⟩
      assumption

theorem string?_eq_some_iff {v : Toml} {s : String} : v.string? = some s ↔ v = .string s := by
  cases v <;> simp [string?]

theorem nat?_eq_some_iff {v : Toml} {n : Nat} : v.nat? = some n ↔ v = .integer n := by
  cases v with
  | integer m =>
    cases m with
    | ofNat m =>
      rw [nat?, Option.some.injEq, integer.injEq]
      exact Int.ofNat_inj.symm
    | negSucc m => simp [nat?]
  | _ => simp [nat?]

theorem uint64?_eq_some_iff {v : Toml} {n : UInt64} :
    v.uint64? = some n ↔ v = .integer n.toNat := by
  rw [uint64?, Option.bind_eq_bind, Option.bind_eq_some_iff]
  simp only [nat?_eq_some_iff]
  constructor
  · rintro ⟨m, rfl, h⟩
    split at h
    · next hm =>
      cases h
      rw [UInt64.toNat_ofNat_of_lt' hm]
    · cases h
  · rintro rfl
    exact ⟨_, rfl, by rw [if_pos n.toNat_lt_size, UInt64.ofNat_toNat]⟩

theorem uint32?_eq_some_iff {v : Toml} {n : UInt32} :
    v.uint32? = some n ↔ v = .integer n.toNat := by
  rw [uint32?, Option.bind_eq_bind, Option.bind_eq_some_iff]
  simp only [nat?_eq_some_iff]
  constructor
  · rintro ⟨m, rfl, h⟩
    split at h
    · next hm =>
      cases h
      rw [UInt32.toNat_ofNat_of_lt' hm]
    · cases h
  · rintro rfl
    exact ⟨_, rfl, by rw [if_pos n.toNat_lt_size, UInt32.ofNat_toNat]⟩

/-- A text without any statements is a document without any entries. -/
theorem ofText?_empty : ofText? "" = some (.table []) := by
  have hmany : Reader.many (do let s ← line; newline; return s) [] = some ([], []) := by
    rw [Reader.many]
    rfl
  have hstatements : statements.run [] = some ([], []) := by
    change (Reader.many _ []).bind _ = _
    rw [hmany]
    rfl
  change (statements.run []).bind _ = _
  rw [hstatements]
  rfl

end Toml

/-! ## What a document describes -/

/-- A section on the Web API. -/
inductive SlackSettings.Describes : Toml → SlackSettings → Prop where
  | mk {v : Toml} {field : String → Option Toml} {token channel apiBase : String}
      (h : Toml.Record ["bot_token", "channel", "api_base_url"] v field)
      (htoken : Toml.Given (fun w s => w = .string s) "" (field "bot_token") token)
      (hchannel : Toml.Given (fun w s => w = .string s) "" (field "channel") channel)
      (hapiBase : Toml.Given (fun w s => w = .string s) "https://slack.com/api"
        (field "api_base_url") apiBase) : Describes v ⟨token, channel, apiBase⟩

/-- A section on the generator. -/
inductive GeneratorSettings.Describes : Toml → GeneratorSettings → Prop where
  | mk {v : Toml} {field : String → Option Toml} {command : String} {timeoutSeconds : UInt64}
      (h : Toml.Record ["command", "timeout_secs"] v field)
      (hcommand : Toml.Given (fun w s => w = .string s) "ojichat" (field "command") command)
      (htimeout : Toml.Given (fun w n => w = .integer n.toNat) 5 (field "timeout_secs")
        timeoutSeconds) : Describes v ⟨command, timeoutSeconds⟩

/-- A section on the schedule. -/
inductive Schedule.Describes : Toml → Schedule → Prop where
  | mk {v : Toml} {field : String → Option Toml} {delay : UInt64} {maxRuns : Option UInt32}
      (h : Toml.Record ["delay_ms", "max_runs"] v field)
      (hdelay : Toml.Given (fun w n => w = .integer n.toNat) 1000 (field "delay_ms") delay)
      (hmaxRuns : Toml.Given (fun w max => ∃ n : UInt32, w = .integer n.toNat ∧ max = some n) none
        (field "max_runs") maxRuns) : Describes v ⟨delay, maxRuns⟩

/-- A document of three sections. -/
inductive Config.Describes : Toml → Config → Prop where
  | mk {v : Toml} {field : String → Option Toml} {slack : SlackSettings}
      {generator : GeneratorSettings} {schedule : Schedule}
      (h : Toml.Record ["slack", "generator", "scheduler"] v field)
      (hslack : Toml.Given SlackSettings.Describes {} (field "slack") slack)
      (hgenerator : Toml.Given GeneratorSettings.Describes {} (field "generator") generator)
      (hschedule : Toml.Given Schedule.Describes ⟨1000, none⟩ (field "scheduler") schedule) :
      Describes v ⟨slack, generator, schedule⟩

open Toml (bind_fields?_eq_some_iff orDefault_eq_some_iff string?_eq_some_iff
  uint64?_eq_some_iff uint32?_eq_some_iff)

theorem SlackSettings.ofToml?_eq_some_iff {v : Toml} {settings : SlackSettings} :
    ofToml? v = some settings ↔ Describes v settings := by
  rw [ofToml?]
  have hnames : ["bot_token", "channel", "api_base_url"].Nodup := by decide
  refine (bind_fields?_eq_some_iff hnames).trans ?_
  constructor
  · rintro ⟨field, hrecord, h⟩
    simp only [List.map_cons, List.map_nil, Option.bind_eq_bind, Option.bind_eq_some_iff,
      orDefault_eq_some_iff string?_eq_some_iff, Option.pure_def, Option.some.injEq] at h
    obtain ⟨token, htoken, channel, hchannel, apiBase, hapiBase, rfl⟩ := h
    exact .mk hrecord htoken hchannel hapiBase
  · rintro ⟨hrecord, htoken, hchannel, hapiBase⟩
    refine ⟨_, hrecord, ?_⟩
    simp only [List.map_cons, List.map_nil, (orDefault_eq_some_iff string?_eq_some_iff).mpr htoken,
      (orDefault_eq_some_iff string?_eq_some_iff).mpr hchannel,
      (orDefault_eq_some_iff string?_eq_some_iff).mpr hapiBase]
    rfl

theorem GeneratorSettings.ofToml?_eq_some_iff {v : Toml} {settings : GeneratorSettings} :
    ofToml? v = some settings ↔ Describes v settings := by
  rw [ofToml?]
  have hnames : ["command", "timeout_secs"].Nodup := by decide
  refine (bind_fields?_eq_some_iff hnames).trans ?_
  constructor
  · rintro ⟨field, hrecord, h⟩
    simp only [List.map_cons, List.map_nil, Option.bind_eq_bind, Option.bind_eq_some_iff,
      orDefault_eq_some_iff string?_eq_some_iff, orDefault_eq_some_iff uint64?_eq_some_iff,
      Option.pure_def, Option.some.injEq] at h
    obtain ⟨command, hcommand, timeout, htimeout, rfl⟩ := h
    exact .mk hrecord hcommand htimeout
  · rintro ⟨hrecord, hcommand, htimeout⟩
    refine ⟨_, hrecord, ?_⟩
    simp only [List.map_cons, List.map_nil,
      (orDefault_eq_some_iff string?_eq_some_iff).mpr hcommand,
      (orDefault_eq_some_iff uint64?_eq_some_iff).mpr htimeout]
    rfl

theorem Schedule.ofToml?_eq_some_iff {v : Toml} {schedule : Schedule} :
    ofToml? v = some schedule ↔ Describes v schedule := by
  have hmax : ∀ {v : Toml} {max : Option UInt32}, some <$> v.uint32? = some max ↔
      ∃ n : UInt32, v = .integer n.toNat ∧ max = some n := by
    intro v max
    rw [Option.map_eq_map, Option.map_eq_some_iff]
    simp only [uint32?_eq_some_iff, @eq_comm _ max]
  rw [ofToml?]
  have hnames : ["delay_ms", "max_runs"].Nodup := by decide
  refine (bind_fields?_eq_some_iff hnames).trans ?_
  constructor
  · rintro ⟨field, hrecord, h⟩
    simp only [List.map_cons, List.map_nil, Option.bind_eq_bind, Option.bind_eq_some_iff,
      orDefault_eq_some_iff uint64?_eq_some_iff, orDefault_eq_some_iff hmax, Option.pure_def,
      Option.some.injEq] at h
    obtain ⟨delay, hdelay, maxRuns, hmaxRuns, rfl⟩ := h
    exact .mk hrecord hdelay hmaxRuns
  · rintro ⟨hrecord, hdelay, hmaxRuns⟩
    refine ⟨_, hrecord, ?_⟩
    simp only [List.map_cons, List.map_nil, (orDefault_eq_some_iff uint64?_eq_some_iff).mpr hdelay,
      (orDefault_eq_some_iff hmax).mpr hmaxRuns]
    rfl

namespace Config

theorem ofToml?_eq_some_iff {v : Toml} {config : Config} :
    ofToml? v = some config ↔ Describes v config := by
  rw [ofToml?]
  have hnames : ["slack", "generator", "scheduler"].Nodup := by decide
  refine (bind_fields?_eq_some_iff hnames).trans ?_
  constructor
  · rintro ⟨field, hrecord, h⟩
    simp only [List.map_cons, List.map_nil, Option.bind_eq_bind, Option.bind_eq_some_iff,
      orDefault_eq_some_iff SlackSettings.ofToml?_eq_some_iff,
      orDefault_eq_some_iff GeneratorSettings.ofToml?_eq_some_iff,
      orDefault_eq_some_iff Schedule.ofToml?_eq_some_iff, Option.pure_def, Option.some.injEq] at h
    obtain ⟨slack, hslack, generator, hgenerator, schedule, hschedule, rfl⟩ := h
    exact .mk hrecord hslack hgenerator hschedule
  · rintro ⟨hrecord, hslack, hgenerator, hschedule⟩
    refine ⟨_, hrecord, ?_⟩
    simp only [List.map_cons, List.map_nil,
      (orDefault_eq_some_iff SlackSettings.ofToml?_eq_some_iff).mpr hslack,
      (orDefault_eq_some_iff GeneratorSettings.ofToml?_eq_some_iff).mpr hgenerator,
      (orDefault_eq_some_iff Schedule.ofToml?_eq_some_iff).mpr hschedule]
    rfl

/-- A text is accepted just if it is a document that describes a configuration. -/
theorem parse_eq_ok_iff {text : String} {config : Config} :
    parse text = .ok config ↔ ∃ document, Toml.ofText? text = some document ∧
      Describes document config := by
  simp only [← ofToml?_eq_some_iff, ← Option.bind_eq_some_iff]
  rw [parse]
  cases (Toml.ofText? text).bind ofToml? <;> simp

theorem eq_of_parse_error {text : String} {f : Failure} (h : parse text = .error f) :
    f = .outside .readingSettings := by
  rw [parse] at h
  split at h
  · cases h
  · exact (Except.error.inj h).symm

/-- Any other text is refused, and always with the same failure. -/
theorem parse_eq_error_iff {text : String} {f : Failure} :
    parse text = .error f ↔ f = .outside .readingSettings ∧
      ∀ document config, Toml.ofText? text = some document → ¬Describes document config := by
  constructor
  · intro h
    refine ⟨eq_of_parse_error h, ?_⟩
    intro document config hdocument hdescribes
    rw [parse_eq_ok_iff.mpr ⟨document, hdocument, hdescribes⟩] at h
    cases h
  · rintro ⟨rfl, hnone⟩
    cases hparse : parse text with
    | ok config =>
      obtain ⟨document, hdocument, hdescribes⟩ := parse_eq_ok_iff.mp hparse
      exact absurd hdescribes (hnone document config hdocument)
    | error f => rw [eq_of_parse_error hparse]

/-- Without any statements everything has its default. -/
theorem parse_empty : parse "" = .ok {} :=
  parse_eq_ok_iff.mpr ⟨.table [], Toml.ofText?_empty, .mk (.table []) .absent .absent .absent⟩

/-! ## What is in a file -/

/-- What a file gives at a path. -/
inductive FromFile (path : String) : ConfigFile → Except Failure Config → Prop where
  /-- Everything has its default. -/
  | absent : FromFile path .absent (.ok {})
  | unreadable : FromFile path .unreadable (.error (.outside (.readingConfig path)))
  | noText {content : List UInt8}
      (h : ∀ text : String, content ≠ Text.Utf8.encode text.toList) :
      FromFile path (.bytes content) (.error (.outside (.readingConfig path)))
  | refused {text : String} (h : ∀ document config, Toml.ofText? text = some document →
      ¬Describes document config) : FromFile path (.bytes (Text.Utf8.encode text.toList))
        (.error ((Failure.outside .readingSettings).within (.parsingConfig path)))
  | accepted {text : String} {document : Toml} {config : Config}
      (hdocument : Toml.ofText? text = some document) (h : Describes document config) :
      FromFile path (.bytes (Text.Utf8.encode text.toList)) (.ok config)

variable {path : String} {file : ConfigFile} {environment : Environment}

theorem ofFile_encode (path text : String) :
    ofFile path (.bytes (Text.Utf8.encode text.toList)) =
      inContext (.parsingConfig path) (parse text) := by
  rw [ofFile, Text.Utf8.decode?_eq_some_iff.mpr rfl]
  change inContext _ (parse (String.ofList text.toList)) = _
  rw [String.ofList_toList]

theorem ofFile_of_noText (path : String) {content : List UInt8}
    (h : ∀ text : String, content ≠ Text.Utf8.encode text.toList) :
    ofFile path (.bytes content) = .error (.outside (.readingConfig path)) := by
  rw [ofFile]
  cases hdecode : Text.Utf8.decode? content with
  | none => rfl
  | some chars =>
    have hbytes := Text.Utf8.decode?_eq_some_iff.mp hdecode
    exact absurd hbytes (by simpa using h (String.ofList chars))

theorem fromFile_ofFile (path : String) (file : ConfigFile) :
    FromFile path file (ofFile path file) := by
  cases file with
  | absent =>
    rw [ofFile, parse_empty]
    exact .absent
  | unreadable => exact .unreadable
  | bytes content =>
    by_cases htext : ∃ text : String, content = Text.Utf8.encode text.toList
    · obtain ⟨text, rfl⟩ := htext
      rw [ofFile_encode]
      cases hparse : parse text with
      | ok config =>
        obtain ⟨document, hdocument, hdescribes⟩ := parse_eq_ok_iff.mp hparse
        exact .accepted hdocument hdescribes
      | error f =>
        obtain ⟨rfl, hrefused⟩ := parse_eq_error_iff.mp hparse
        exact .refused hrefused
    · rw [not_exists] at htext
      rw [ofFile_of_noText path htext]
      exact .noText htext

/-- A file gives this and nothing else. -/
theorem ofFile_eq_iff {result : Except Failure Config} :
    ofFile path file = result ↔ FromFile path file result := by
  constructor
  · rintro rfl
    exact fromFile_ofFile path file
  · intro h
    cases h with
    | absent => exact parse_empty
    | unreadable => rfl
    | noText h => exact ofFile_of_noText path h
    | refused h => rw [ofFile_encode, parse_eq_error_iff.mpr ⟨rfl, h⟩, inContext_error]
    | accepted hdocument h =>
      rw [ofFile_encode, parse_eq_ok_iff.mpr ⟨_, hdocument, h⟩, inContext_ok]

theorem FromFile.unique {result result' : Except Failure Config}
    (h : FromFile path file result) (h' : FromFile path file result') : result = result' :=
  (ofFile_eq_iff.mpr h).symm.trans (ofFile_eq_iff.mpr h')

/-! ## What is in effect -/

/-- Of a text that the environment may hold and one of the file, the one that counts. -/
inductive InEffect : Option String → String → String → Prop where
  | replaced {text : String} (own : String) (h : text ≠ "") : InEffect (some text) own text
  | empty (own : String) : InEffect (some "") own own
  | unset (own : String) : InEffect none own own

theorem override_eq_iff {environment : Option String} {own text : String} :
    override environment own = text ↔ InEffect environment own text := by
  constructor
  · rintro rfl
    cases environment with
    | none => exact .unset own
    | some given =>
      rw [override]
      split
      · next hempty =>
        rw [String.isEmpty_iff.mp hempty]
        exact .empty own
      · next hempty => exact .replaced own (by rwa [String.isEmpty_iff] at hempty)
  · intro h
    cases h with
    | replaced _ h => exact if_neg (by rwa [String.isEmpty_iff])
    | empty => rfl
    | unset => rfl

namespace InEffect

variable {given : Option String} {own text text' : String}

theorem unique (h : InEffect given own text) (h' : InEffect given own text') : text = text' :=
  (override_eq_iff.mpr h).symm.trans (override_eq_iff.mpr h')

theorem not_missing (h : InEffect given own text) (ht : text ≠ "") : ¬InEffect given own "" :=
  fun hmissing => ht (h.unique hmissing)

/-- Some text counts, and if it is not the empty one, then another one. -/
theorem exists_of_not_missing (h : ¬InEffect given own "") :
    ∃ text, InEffect given own text ∧ text ≠ "" := by
  refine ⟨override given own, override_eq_iff.mp rfl, ?_⟩
  intro hempty
  exact h (override_eq_iff.mp hempty)

end InEffect

/-- What a file and an environment come to. -/
inductive Loads (path : String) (file : ConfigFile) (environment : Environment) :
    Except Failure Config → Prop where
  | noFile {f : Failure} (hfile : FromFile path file (.error f)) :
      Loads path file environment (.error f)
  | noToken {config : Config} (hfile : FromFile path file (.ok config))
      (htoken : InEffect environment.token config.slack.token "") :
      Loads path file environment (.error (.of .missingToken))
  | noChannel {config : Config} {token : String} (hfile : FromFile path file (.ok config))
      (htoken : InEffect environment.token config.slack.token token) (ht : token ≠ "")
      (hchannel : InEffect environment.channel config.slack.channel "") :
      Loads path file environment (.error (.of .missingChannel))
  | loaded {config : Config} {token channel : String} (hfile : FromFile path file (.ok config))
      (htoken : InEffect environment.token config.slack.token token) (ht : token ≠ "")
      (hchannel : InEffect environment.channel config.slack.channel channel)
      (hc : channel ≠ "") : Loads path file environment
        (.ok { config with slack := { config.slack with token := token, channel := channel } })

theorem load_of_error {f : Failure} (h : ofFile path file = .error f) :
    load path file environment = .error f := by
  rw [load, h]
  rfl

/-- The checks behind the file. -/
theorem load_of_ok {config : Config} (h : ofFile path file = .ok config) :
    load path file environment =
      if override environment.token config.slack.token = "" then .error (.of .missingToken)
      else if override environment.channel config.slack.channel = "" then
        .error (.of .missingChannel)
      else .ok (config.withEnvironment environment) := by
  rw [load, h]
  change ((config.withEnvironment environment).validate >>= fun _ =>
    .ok (config.withEnvironment environment)) = _
  simp only [validate, String.isEmpty_iff]
  change ((if override environment.token config.slack.token = "" then _ else _) >>= _) = _
  split
  · rfl
  · change ((if override environment.channel config.slack.channel = "" then _ else _) >>= _) = _
    split <;> rfl

theorem loads_load (path : String) (file : ConfigFile) (environment : Environment) :
    Loads path file environment (load path file environment) := by
  cases hfile : ofFile path file with
  | error f =>
    rw [load_of_error hfile]
    exact .noFile (ofFile_eq_iff.mp hfile)
  | ok config =>
    rw [load_of_ok hfile]
    have hfile := ofFile_eq_iff.mp hfile
    split
    · next htoken => exact .noToken hfile (override_eq_iff.mp htoken)
    · next htoken =>
      split
      · next hchannel =>
        exact .noChannel hfile (override_eq_iff.mp rfl) htoken (override_eq_iff.mp hchannel)
      · next hchannel =>
        exact .loaded hfile (override_eq_iff.mp rfl) htoken (override_eq_iff.mp rfl) hchannel

/-- They come to this and nothing else. -/
theorem load_eq_iff {result : Except Failure Config} :
    load path file environment = result ↔ Loads path file environment result := by
  constructor
  · rintro rfl
    exact loads_load path file environment
  · intro h
    cases h with
    | noFile hfile => exact load_of_error (ofFile_eq_iff.mpr hfile)
    | noToken hfile htoken =>
      rw [load_of_ok (ofFile_eq_iff.mpr hfile), if_pos (override_eq_iff.mpr htoken)]
    | noChannel hfile htoken ht hchannel =>
      rw [load_of_ok (ofFile_eq_iff.mpr hfile), override_eq_iff.mpr htoken, if_neg ht,
        if_pos (override_eq_iff.mpr hchannel)]
    | loaded hfile htoken ht hchannel hc =>
      rw [load_of_ok (ofFile_eq_iff.mpr hfile), withEnvironment, override_eq_iff.mpr htoken,
        override_eq_iff.mpr hchannel, if_neg ht, if_neg hc]

/-! ## The account of loading -/

/-- What a file and an environment have been loaded to. -/
structure Loaded (path : String) (file : ConfigFile) (environment : Environment)
    (result : Except Failure Config) : Prop where
  loads : Loads path file environment result
  /-- There is a configuration just if the file gives one, and a token and a channel are in effect. -/
  succeeds_iff : (∃ config, result = .ok config) ↔ ∃ own, FromFile path file (.ok own) ∧
    ¬InEffect environment.token own.slack.token "" ∧
    ¬InEffect environment.channel own.slack.channel ""
  /-- The two are those in effect, each for itself, and the rest is as the file has it. -/
  kept : ∀ config own, result = .ok config → FromFile path file (.ok own) →
    InEffect environment.token own.slack.token config.slack.token ∧
    InEffect environment.channel own.slack.channel config.slack.channel ∧
    config.slack.apiBase = own.slack.apiBase ∧ config.generator = own.generator ∧
    config.schedule = own.schedule
  /-- No environment makes up for a file that cannot be taken. -/
  file_first : ∀ f, FromFile path file (.error f) → result = .error f
  /-- The token is complained of before the channel. -/
  token_first : ∀ own, FromFile path file (.ok own) →
    InEffect environment.token own.slack.token "" → result = .error (.of .missingToken)
  channel_last : ∀ own, FromFile path file (.ok own) →
    ¬InEffect environment.token own.slack.token "" →
    InEffect environment.channel own.slack.channel "" → result = .error (.of .missingChannel)

/-- How a configuration is loaded, whatever the file is like and whatever the environment holds. -/
theorem load_account (path : String) (file : ConfigFile) (environment : Environment) :
    Loaded path file environment (load path file environment) := by
  have hloads := loads_load path file environment
  constructor
  case loads => exact hloads
  case succeeds_iff =>
    constructor
    · rintro ⟨config, hconfig⟩
      rw [hconfig] at hloads
      cases hloads with
      | loaded hfile htoken ht hchannel hc =>
        exact ⟨_, hfile, htoken.not_missing ht, hchannel.not_missing hc⟩
    · rintro ⟨own, hfile, htoken, hchannel⟩
      obtain ⟨token, htoken, ht⟩ := InEffect.exists_of_not_missing htoken
      obtain ⟨channel, hchannel, hc⟩ := InEffect.exists_of_not_missing hchannel
      exact ⟨_, load_eq_iff.mpr (.loaded hfile htoken ht hchannel hc)⟩
  case kept =>
    intro config own hconfig hown
    rw [hconfig] at hloads
    cases hloads with
    | loaded hfile htoken _ hchannel _ =>
      obtain rfl := Except.ok.inj (hfile.unique hown)
      exact ⟨htoken, hchannel, rfl, rfl, rfl⟩
  case file_first => exact fun f hfile => load_eq_iff.mpr (.noFile hfile)
  case token_first => exact fun own hfile htoken => load_eq_iff.mpr (.noToken hfile htoken)
  case channel_last =>
    intro own hfile htoken hchannel
    obtain ⟨token, htoken, ht⟩ := InEffect.exists_of_not_missing htoken
    exact load_eq_iff.mpr (.noChannel hfile htoken ht hchannel)

end Config

end Herald
