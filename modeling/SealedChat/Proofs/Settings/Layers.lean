import SealedChat.Proofs.Bytes.Utf8
import SealedChat.Proofs.Json.Mapping
import SealedChat.Settings.Sources

/-!
# Settings in layers

A source of settings need not set all of them: what a file or the environment sets, and nothing else, is a layer
(`Layer`), which is laid over the settings of the sources below it (`Layer.fill`). A file gives the defaults with its
layer over them (`Settings.ofFile_eq`), and the environment lays its own over everything (`Settings.overridden_eq`). Of
the two files only one counts, so a layer is missing from the settings whenever there is an explicit file
(`loaded_layered`).
-/

namespace SealedChat

open Json

/-! ### Layers -/

/-- The settings of a participant that a source sets. -/
structure ClientLayer where
  username : Option String := none
  logLevel : Option String := none
  logJson : Option Bool := none
  numericCodes : Option Bool := none

/-- The settings of a session that a source sets. -/
structure SessionLayer where
  retryTimeout : Option UInt64 := none
  maxRetries : Option UInt32 := none
  searchBehind : Option UInt64 := none
  searchAhead : Option UInt64 := none
  maxInbound : Option UInt64 := none

/-- The settings that a source sets. -/
structure Layer where
  client : ClientLayer := {}
  session : SessionLayer := {}

/-- The settings below, where the layer does not set others. -/
def ClientLayer.fill (layer : ClientLayer) (below : ClientSettings) : ClientSettings where
  username := layer.username.getD below.username
  logLevel := layer.logLevel.getD below.logLevel
  logJson := layer.logJson.getD below.logJson
  numericCodes := layer.numericCodes.getD below.numericCodes

/-- The settings below, where the layer does not set others. -/
def SessionLayer.fill (layer : SessionLayer) (below : SessionSettings) : SessionSettings where
  retryTimeout := layer.retryTimeout.getD below.retryTimeout
  maxRetries := layer.maxRetries.getD below.maxRetries
  searchBehind := layer.searchBehind.getD below.searchBehind
  searchAhead := layer.searchAhead.getD below.searchAhead
  maxInbound := layer.maxInbound.getD below.maxInbound

/-- The settings below, where the layer does not set others. -/
def Layer.fill (layer : Layer) (below : Settings) : Settings where
  client := layer.client.fill below.client
  session := layer.session.fill below.session

/-! ### Layers from files -/

/-- How settings of a participant are read if only those that are there count. -/
def ClientLayer.schema : Schema ClientLayer where
  title := "struct ClientConfig"
  fields :=
    [.of "username" readString fun s v => { s with username := some v },
     .of "log_level" readString fun s v => { s with logLevel := some v },
     .of "log_json" readBool fun s v => { s with logJson := some v },
     .of "numeric_codes" readBool fun s v => { s with numericCodes := some v }]
  default := {}

/-- How settings of a session are read if only those that are there count. -/
def SessionLayer.schema : Schema SessionLayer where
  title := "struct SessionConfig"
  fields :=
    [wordField "retry_timeout_secs" "u64" fun s v => { s with retryTimeout := some v },
     halfWordField "max_retries" fun s v => { s with maxRetries := some v },
     wordField "search_behind" "u64" fun s v => { s with searchBehind := some v },
     wordField "search_ahead" "u64" fun s v => { s with searchAhead := some v },
     wordField "max_inbound_bytes" "usize" fun s v => { s with maxInbound := some v }]
  default := {}

/-- How settings are read if only those that are there count. -/
def Layer.schema : Schema Layer where
  title := "struct Config"
  fields :=
    [ClientLayer.schema.field "client" fun s v => { s with client := v },
     SessionLayer.schema.field "session" fun s v => { s with session := v }]
  default := {}

lemma wordField_maps {α β : Type} {f : α → β} {put : α → UInt64 → α} {put' : β → UInt64 → β}
    (hput : ∀ record value, put' (f record) value = f (put record value)) (name kind : String) :
    Field.Maps f (wordField name kind put) (wordField name kind put') :=
  .of (.refl _) (fun record n => hput record (UInt64.ofNat n)) name

lemma halfWordField_maps {α β : Type} {f : α → β} {put : α → UInt32 → α} {put' : β → UInt32 → β}
    (hput : ∀ record value, put' (f record) value = f (put record value)) (name : String) :
    Field.Maps f (halfWordField name put) (halfWordField name put') :=
  .of (.refl _) (fun record n => hput record (UInt32.ofNat n)) name

lemma ClientLayer.schema_maps : schema.Maps (·.fill {}) ClientSettings.schema := by
  refine ⟨rfl, .cons ?_ (.cons ?_ (.cons ?_ (.cons ?_ .nil))), rfl⟩
  · exact .of (.refl readString) (fun _ _ => rfl) "username"
  · exact .of (.refl readString) (fun _ _ => rfl) "log_level"
  · exact .of (.refl readBool) (fun _ _ => rfl) "log_json"
  · exact .of (.refl readBool) (fun _ _ => rfl) "numeric_codes"

lemma SessionLayer.schema_maps : schema.Maps (·.fill {}) SessionSettings.schema := by
  refine ⟨rfl, .cons ?_ (.cons ?_ (.cons ?_ (.cons ?_ (.cons ?_ .nil)))), rfl⟩
  · exact wordField_maps (fun _ _ => rfl) "retry_timeout_secs" "u64"
  · exact halfWordField_maps (fun _ _ => rfl) "max_retries"
  · exact wordField_maps (fun _ _ => rfl) "search_behind" "u64"
  · exact wordField_maps (fun _ _ => rfl) "search_ahead" "u64"
  · exact wordField_maps (fun _ _ => rfl) "max_inbound_bytes" "usize"

lemma Layer.schema_maps : schema.Maps (·.fill {}) Settings.schema := by
  refine ⟨rfl, .cons ?_ (.cons ?_ .nil), rfl⟩
  · exact ClientLayer.schema_maps.field (fun _ _ => rfl) "client"
  · exact SessionLayer.schema_maps.field (fun _ _ => rfl) "session"

/-- The layer in the file at a path. -/
def Layer.ofFile (path : String) (state : FileState) : Except SettingsFault Layer := do
  let text ← (Settings.textOf state).mapError (.unreadable path)
  (Layer.schema.parse text).mapError (.malformed path)

/-- **A file gives the defaults with its layer over them**, and no settings where it gives no layer. -/
theorem Settings.ofFile_eq (path : String) (state : FileState) :
    ofFile path state = (Layer.ofFile path state).map (·.fill {}) := by
  unfold ofFile Layer.ofFile
  refine bind_map_eq _ ?_
  intro text
  unfold Settings.parse
  rw [Layer.schema_maps.parse text]
  cases Layer.schema.parse text <;> rfl

lemma Settings.textOf_encode (text : String) : textOf (.file (Utf8.encode text)) = .ok text := by
  unfold textOf
  dsimp only
  rw [Utf8.decode_encode]
  rfl

lemma Layer.ofFile_encode (path text : String) :
    ofFile path (.file (Utf8.encode text)) = (Layer.schema.parse text).mapError (.malformed path) := by
  unfold ofFile
  rw [Settings.textOf_encode]
  rfl

/-! ### Layers from all sources -/

/-- The layer in the user's file, which sets nothing if there is no such file. -/
def Layer.ofUser (files : String → FileState) (env : Environment) : Except SettingsFault Layer :=
  match Settings.userPath? env with
  | none => .ok {}
  | some path => if files path = .missing then .ok {} else ofFile path (files path)

/-- The layer in the explicit file, which sets nothing if no file is named. -/
def Layer.ofExplicit (files : String → FileState) : Option String → Except SettingsFault Layer
  | none => .ok {}
  | some path => ofFile path (files path)

/-- What the environment sets: its variables, as far as they can be read. -/
def Layer.ofEnvironment (env : Environment) : Layer :=
  let word := fun text => (Settings.parseNumber? (2 ^ 64 - 1) text).map UInt64.ofNat
  let halfWord := fun text => (Settings.parseNumber? (2 ^ 32 - 1) text).map UInt32.ofNat
  { client :=
      { username := env "RCHAT_USERNAME"
        logLevel := env "RCHAT_LOG_LEVEL" }
    session :=
      { retryTimeout := (env "RCHAT_RETRY_TIMEOUT_SECS").bind word
        maxRetries := (env "RCHAT_MAX_RETRIES").bind halfWord
        searchAhead := (env "RCHAT_SEARCH_AHEAD").bind word } }

lemma Settings.ofUser_eq (files : String → FileState) (env : Environment) :
    ofUser files env = (Layer.ofUser files env).map (·.fill {}) := by
  unfold ofUser Layer.ofUser
  cases userPath? env with
  | none => rfl
  | some path =>
    dsimp only
    split
    · rfl
    · exact ofFile_eq path (files path)

/-- **The environment lays what it sets over the settings.** -/
theorem Settings.overridden_eq (settings : Settings) (env : Environment) :
    settings.overridden env = (Layer.ofEnvironment env).fill settings := by
  simp only [overridden, override, Layer.ofEnvironment, Layer.fill, ClientLayer.fill, SessionLayer.fill,
    Option.getD_none, Option.bind_fun_some]

/-! ### One setting -/

/-- The settings there are. -/
inductive Setting where
  | username
  | logLevel
  | logJson
  | numericCodes
  | retryTimeout
  | maxRetries
  | searchBehind
  | searchAhead
  | maxInbound

/-- What a setting can be. -/
abbrev Setting.Value : Setting → Type
  | .username | .logLevel => String
  | .logJson | .numericCodes => Bool
  | .maxRetries => UInt32
  | .retryTimeout | .searchBehind | .searchAhead | .maxInbound => UInt64

/-- What a setting is. -/
def Settings.value (settings : Settings) : (setting : Setting) → setting.Value
  | .username => settings.client.username
  | .logLevel => settings.client.logLevel
  | .logJson => settings.client.logJson
  | .numericCodes => settings.client.numericCodes
  | .retryTimeout => settings.session.retryTimeout
  | .maxRetries => settings.session.maxRetries
  | .searchBehind => settings.session.searchBehind
  | .searchAhead => settings.session.searchAhead
  | .maxInbound => settings.session.maxInbound

/-- What a layer sets a setting to, if it sets it. -/
def Layer.value? (layer : Layer) : (setting : Setting) → Option setting.Value
  | .username => layer.client.username
  | .logLevel => layer.client.logLevel
  | .logJson => layer.client.logJson
  | .numericCodes => layer.client.numericCodes
  | .retryTimeout => layer.session.retryTimeout
  | .maxRetries => layer.session.maxRetries
  | .searchBehind => layer.session.searchBehind
  | .searchAhead => layer.session.searchAhead
  | .maxInbound => layer.session.maxInbound

/-- What a setting is by default. -/
def Setting.default (setting : Setting) : setting.Value := ({} : Settings).value setting

/-- What a setting is under layers, the topmost first: what the topmost of those that set it sets it to, and its default
if none of them does. -/
def Layer.resolve (layers : List Layer) (setting : Setting) : setting.Value :=
  (layers.findSome? (·.value? setting)).getD setting.default

section Resolve

variable (layer : Layer) (layers : List Layer) (below : Settings) (setting : Setting)

lemma Layer.value_fill : (layer.fill below).value setting = (layer.value? setting).getD (below.value setting) := by
  cases setting <;> rfl

lemma Layer.value?_empty : ({} : Layer).value? setting = none := by
  cases setting <;> rfl

lemma Layer.resolve_nil : resolve [] setting = setting.default := rfl

lemma Layer.resolve_cons :
    resolve (layer :: layers) setting = (layer.value? setting).getD (resolve layers setting) := by
  unfold resolve
  rw [List.findSome?_cons]
  cases layer.value? setting <;> rfl

/-- A layer that sets the setting hides what is below it; one that does not leaves it as it is. -/
lemma Layer.resolve_cons_eq_iff (layers' : List Layer) :
    resolve (layer :: layers) setting = resolve (layer :: layers') setting ↔
      (layer.value? setting).isSome ∨ resolve layers setting = resolve layers' setting := by
  rw [resolve_cons, resolve_cons]
  cases layer.value? setting with
  | none => simp
  | some value => simp

end Resolve

/-! ### All sources together -/

section Load

variable {files : String → FileState} {env : Environment} {explicit : Option String} {settings : Settings}

/-- Settings are had from the layers of both files, of which one counts. -/
lemma Settings.load_eq : load files env explicit = (do
    let user ← Layer.ofUser files env
    let file ← Layer.ofExplicit files explicit
    let settings := (Layer.ofEnvironment env).fill ((if explicit.isSome then file else user).fill {})
    match settings.flaw? with
    | some flaw => throw (.refused flaw)
    | none => return settings) := by
  unfold load
  simp only [ofUser_eq, overridden_eq]
  cases Layer.ofUser files env with
  | error fault => rfl
  | ok user =>
    cases explicit with
    | none => rfl
    | some path =>
      show (do let settings ← ofFile path (files path); _) = (do let file ← Layer.ofFile path (files path); _)
      rw [ofFile_eq]
      cases Layer.ofFile path (files path) with
      | error fault => rfl
      | ok file => rfl

/-- Settings are had exactly if both files give layers, and what the environment and the file that counts lay over the
defaults is not refused. -/
lemma Settings.load_eq_ok_iff : load files env explicit = .ok settings ↔
    ∃ user file, Layer.ofUser files env = .ok user ∧ Layer.ofExplicit files explicit = .ok file ∧
      settings = (Layer.ofEnvironment env).fill ((if explicit.isSome then file else user).fill {}) ∧
      settings.flaw? = none := by
  rw [load_eq]
  constructor
  · intro h
    cases huser : Layer.ofUser files env with
    | error fault =>
      rw [huser] at h
      cases h
    | ok user =>
      cases hfile : Layer.ofExplicit files explicit with
      | error fault =>
        rw [huser, hfile] at h
        cases h
      | ok file =>
        rw [huser, hfile] at h
        change (match Settings.flaw? _ with | some flaw => _ | none => _) = _ at h
        split at h
        · cases h
        · cases h
          exact ⟨user, file, rfl, rfl, rfl, ‹_›⟩
  · rintro ⟨user, file, huser, hfile, rfl, hflaw⟩
    rw [huser, hfile]
    show (match Settings.flaw? _ with | some flaw => _ | none => _) = _
    rw [hflaw]
    rfl

/-- **One file counts.** A setting is what the environment sets it to, or else what the file that counts sets it to, the
explicit one if one is named, or else its default. So it is what the environment, the explicit file, the user's file and
the defaults make of it together, each giving way to those before it, exactly unless there is an explicit file and only
the user's file sets the setting, to something else than its default. -/
theorem loaded_layered (h : Settings.load files env explicit = .ok settings) :
    ∃ user file, Layer.ofUser files env = .ok user ∧ Layer.ofExplicit files explicit = .ok file ∧ ∀ setting,
      settings.value setting =
        Layer.resolve [.ofEnvironment env, if explicit.isSome then file else user] setting ∧
      (settings.value setting = Layer.resolve [.ofEnvironment env, file, user] setting ↔
        explicit = none ∨ ((Layer.ofEnvironment env).value? setting).isSome ∨ (file.value? setting).isSome ∨
          (user.value? setting).getD setting.default = setting.default) := by
  obtain ⟨user, file, huser, hfile, hsettings, -⟩ := Settings.load_eq_ok_iff.1 h
  refine ⟨user, file, huser, hfile, ?_⟩
  intro setting
  -- the file that counts is filled from the defaults, so the layer of the other file is not asked
  have hvalue : settings.value setting =
      Layer.resolve [.ofEnvironment env, if explicit.isSome then file else user] setting := by
    rw [hsettings, Layer.value_fill, Layer.value_fill]
    simp only [Layer.resolve_cons, Layer.resolve_nil]
    rfl
  refine ⟨hvalue, ?_⟩
  rw [hvalue]
  cases explicit with
  | none =>
    -- no file is named, and the layer of none sets nothing
    cases hfile
    refine iff_of_true ?_ (.inl rfl)
    refine (Layer.resolve_cons_eq_iff _ _ setting _).2 (.inr ?_)
    rw [Layer.resolve_cons {}, Layer.value?_empty]
    rfl
  | some path =>
    simp only [Option.isSome_some, if_true, reduceCtorEq, false_or]
    rw [Layer.resolve_cons_eq_iff, Layer.resolve_cons_eq_iff, Layer.resolve_cons, Layer.resolve_nil,
      @eq_comm _ setting.default]

end Load

section Hidden

/-- The user's file sets the name, and another one the number of retries. -/
def userAndOther (path : String) : FileState :=
  if path = "/home/ann/.config/rchat/settings.json" then
    .file (Utf8.encode "\x7b\"client\":\x7b\"username\":\"ann\"\x7d\x7d")
  else if path = "other.json" then .file (Utf8.encode "\x7b\"session\":\x7b\"max_retries\":5\x7d\x7d")
  else .missing

/-- The environment of a user who overrides nothing. -/
def annHome (name : String) : Option String := if name = "HOME" then some "/home/ann" else none

lemma ofUser_ann : Layer.ofUser userAndOther annHome = .ok { client := { username := some "ann" } } := by
  have hpath : Settings.userPath? annHome = some "/home/ann/.config/rchat/settings.json" := by decide
  unfold Layer.ofUser
  rw [hpath]
  dsimp only
  unfold userAndOther
  rw [if_pos rfl, if_neg (by simp), Layer.ofFile_encode]
  cbv

lemma ofExplicit_other :
    Layer.ofExplicit userAndOther (some "other.json") = .ok { session := { maxRetries := some 5 } } := by
  unfold Layer.ofExplicit userAndOther
  dsimp only
  rw [if_neg (by decide), if_pos rfl, Layer.ofFile_encode]
  cbv

lemma load_other : Settings.load userAndOther annHome (some "other.json") = .ok { session := { maxRetries := 5 } } :=
  Settings.load_eq_ok_iff.2 ⟨_, _, ofUser_ann, ofExplicit_other, by decide, by decide⟩

/-- The name is the default one, though the user's file sets it and no source above does. -/
theorem user_layer_hidden : ∃ settings user file,
    Settings.load userAndOther annHome (some "other.json") = .ok settings ∧
    Layer.ofUser userAndOther annHome = .ok user ∧ Layer.ofExplicit userAndOther (some "other.json") = .ok file ∧
    settings.value .username = "anonymous" ∧
    Layer.resolve [.ofEnvironment annHome, file, user] .username = "ann" :=
  ⟨_, _, _, load_other, ofUser_ann, ofExplicit_other, rfl, rfl⟩

theorem loaded_layered_other :
    let settings : Settings := { session := { maxRetries := 5 } }
    Settings.load userAndOther annHome (some "other.json") = .ok settings ∧
    ∃ user file, Layer.ofUser userAndOther annHome = .ok user ∧
      Layer.ofExplicit userAndOther (some "other.json") = .ok file ∧ ∀ setting,
      settings.value setting = Layer.resolve [.ofEnvironment annHome, file] setting ∧
      (settings.value setting = Layer.resolve [.ofEnvironment annHome, file, user] setting ↔
        some "other.json" = none ∨ ((Layer.ofEnvironment annHome).value? setting).isSome ∨
          (file.value? setting).isSome ∨ (user.value? setting).getD setting.default = setting.default) :=
  ⟨load_other, loaded_layered load_other⟩

end Hidden

end SealedChat
