import SealedChat.Proofs.Json.Records
import SealedChat.Proofs.Settings.Layers

/-!
# Settings in part

A file chooses some settings of some sections, in any order and between names that nobody knows (`Settings.Says`). It
gives the settings that it chooses, and the others by default; nothing else in it matters. A file in which a known name
is given twice gives no settings (`partial_files`).
-/

namespace SealedChat

open Json

/-! ### Settings in sections -/

/-- The sections of the settings. -/
inductive Section where
  | client
  | session

/-- The name of a section. -/
def Section.name : Section → String
  | .client => "client"
  | .session => "session"

/-- The settings of a section, in the order in which they are declared. -/
def Section.settings : Section → List Setting
  | .client => [.username, .logLevel, .logJson, .numericCodes]
  | .session => [.retryTimeout, .maxRetries, .searchBehind, .searchAhead, .maxInbound]

/-- The name of a setting in its section. -/
def Setting.name : Setting → String
  | .username => "username"
  | .logLevel => "log_level"
  | .logJson => "log_json"
  | .numericCodes => "numeric_codes"
  | .retryTimeout => "retry_timeout_secs"
  | .maxRetries => "max_retries"
  | .searchBehind => "search_behind"
  | .searchAhead => "search_ahead"
  | .maxInbound => "max_inbound_bytes"

/-- A setting and what it is set to. -/
abbrev Choice := (setting : Setting) × setting.Value

/-! ### What a file says -/

/-- The value of a setting, as it may be written. -/
def Setting.Written : (setting : Setting) → setting.Value → List Char → Prop
  | .username, value, text | .logLevel, value, text => Quoted value text
  | .logJson, value, text | .numericCodes, value, text => text = writeBool value
  | .maxRetries, value, text => text = Decimal.figures value.toNat
  | .retryTimeout, value, text | .searchBehind, value, text | .searchAhead, value, text | .maxInbound, value, text =>
    text = Decimal.figures value.toNat

/-- What is said of a section: each setting at most once by its name in a map, or the first ones in a list. -/
inductive Section.Says (part : Section) : List Choice → List Char → Prop
  | map {choices : List Choice} {entries : List (List Char × List Char)} {text : List Char} (htext : IsMap entries text)
      (hentries : Tells part.settings Setting.name Setting.Written choices entries)
      (hdistinct : (choices.map (·.1)).Nodup) : Says part choices text
  | list {choices : List Choice} {values : List (List Char)} {text : List Char} (htext : IsList values text)
      (hvalues : List.Forall₂ (fun choice value => choice.1.Written choice.2 value) choices values)
      (hfirst : choices.map (·.1) <+: part.settings) : Says part choices text

/-- What is said of the settings: each section at most once. -/
def Settings.Says (parts : List ((_ : Section) × List Choice)) (text : String) : Prop :=
  ∃ entries before map behind, IsMap entries map ∧
    Tells [.client, .session] Section.name (fun part choices value => part.Says choices value) parts entries ∧
    (parts.map (·.1)).Nodup ∧ IsBlank before ∧ IsBlank behind ∧ text = String.ofList (before ++ (map ++ behind))

/-! ### Choices -/

/-- The settings after a choice. -/
def Settings.put (settings : Settings) : Choice → Settings
  | ⟨.username, value⟩ => { settings with client.username := value }
  | ⟨.logLevel, value⟩ => { settings with client.logLevel := value }
  | ⟨.logJson, value⟩ => { settings with client.logJson := value }
  | ⟨.numericCodes, value⟩ => { settings with client.numericCodes := value }
  | ⟨.retryTimeout, value⟩ => { settings with session.retryTimeout := value }
  | ⟨.maxRetries, value⟩ => { settings with session.maxRetries := value }
  | ⟨.searchBehind, value⟩ => { settings with session.searchBehind := value }
  | ⟨.searchAhead, value⟩ => { settings with session.searchAhead := value }
  | ⟨.maxInbound, value⟩ => { settings with session.maxInbound := value }

lemma Settings.value_put (settings : Settings) (setting : Setting) (value : setting.Value) :
    (settings.put ⟨setting, value⟩).value setting = value := by
  cases setting <;> rfl

lemma Settings.value_put_of_ne (settings : Settings) {setting other : Setting} (h : other ≠ setting)
    (value : setting.Value) : (settings.put ⟨setting, value⟩).value other = settings.value other := by
  cases setting <;> cases other <;> first | rfl | exact absurd rfl h

/-! ### What a section holds -/

/-- A setting is as it is chosen, and by default if it is not. -/
def Settings.Follows (settings : Settings) (choices : List Choice) (setting : Setting) : Prop :=
  (∀ value, ⟨setting, value⟩ ∈ choices → settings.value setting = value) ∧
    ((∀ value, ⟨setting, value⟩ ∉ choices) → settings.value setting = setting.default)

lemma Settings.Follows.congr {settings settings' : Settings} {choices : List Choice} {setting : Setting}
    (h : settings.Follows choices setting) (hvalue : settings'.value setting = settings.value setting) :
    settings'.Follows choices setting := by
  unfold Follows
  rw [hvalue]
  exact h

section Fields

variable {α : Type} {within : α → Settings} (setting : Setting)

/-- A field for a setting reads what is chosen for it. -/
lemma Setting.field_knows {β : Type} {reader : Reader β} {put : α → β → α} (hreader : reader.TakesValue)
    (hread : ∀ value text, setting.Written value text → IsValue text ∧ ∃ read, reader.result text = .ok read ∧
      ∀ record, within (put record read) = (within record).put ⟨setting, value⟩) :
    (Field.of setting.name reader put).Knows Setting.name Setting.Written
      (fun setting value record => (within record).value setting = value) setting := by
  refine .of hreader ?_
  intro value text htext
  obtain ⟨hvalue, read, hresult, hput⟩ := hread value text htext
  refine ⟨hvalue, read, hresult, fun record => ?_⟩
  rw [hput]
  refine ⟨Settings.value_put _ _ _, ?_⟩
  intro other hother said hsaid
  rw [Settings.value_put_of_ne _ hother, hsaid]

lemma Setting.wordField_knows {put : α → UInt64 → α} (word : setting.Value → UInt64) (kind : String)
    (hwritten : ∀ value text, setting.Written value text → text = Decimal.figures (word value).toNat)
    (hput : ∀ record value, within (put record (word value)) = (within record).put ⟨setting, value⟩) :
    (wordField setting.name kind put).Knows Setting.name Setting.Written
      (fun setting value record => (within record).value setting = value) setting := by
  refine setting.field_knows (readNatural_takesValue _ kind) ?_
  intro value text htext
  obtain rfl := hwritten value text htext
  refine ⟨isValue_figures _, (word value).toNat, ?_, ?_⟩
  · exact readNatural_figures (Nat.le_refl _) (Nat.le_sub_one_of_lt (word value).toNat_lt) kind
  · intro record
    rw [UInt64.ofNat_toNat, hput]

lemma Setting.halfWordField_knows {put : α → UInt32 → α} (word : setting.Value → UInt32)
    (hwritten : ∀ value text, setting.Written value text → text = Decimal.figures (word value).toNat)
    (hput : ∀ record value, within (put record (word value)) = (within record).put ⟨setting, value⟩) :
    (halfWordField setting.name put).Knows Setting.name Setting.Written
      (fun setting value record => (within record).value setting = value) setting := by
  refine setting.field_knows (readNatural_takesValue _ "u32") ?_
  intro value text htext
  obtain rfl := hwritten value text htext
  refine ⟨isValue_figures _, (word value).toNat, ?_, ?_⟩
  · exact readNatural_figures (by decide) (Nat.le_sub_one_of_lt (word value).toNat_lt) "u32"
  · intro record
    rw [UInt32.ofNat_toNat, hput]

end Fields

lemma ClientSettings.knows :
    schema.Knows Section.client.settings Setting.name Setting.Written
      fun setting value record => ({ client := record } : Settings).value setting = value := by
  refine ⟨.cons ?_ (.cons ?_ (.cons ?_ (.cons ?_ .nil))), by decide⟩
  · exact Setting.field_knows .username readString_takesValue fun value text h =>
      ⟨h.isValue, value, h.readString, fun _ => rfl⟩
  · exact Setting.field_knows .logLevel readString_takesValue fun value text h =>
      ⟨h.isValue, value, h.readString, fun _ => rfl⟩
  · exact Setting.field_knows .logJson readBool_takesValue fun value text h =>
      ⟨h ▸ isValue_writeBool value, value, h ▸ readBool_writeBool value, fun _ => rfl⟩
  · exact Setting.field_knows .numericCodes readBool_takesValue fun value text h =>
      ⟨h ▸ isValue_writeBool value, value, h ▸ readBool_writeBool value, fun _ => rfl⟩

lemma SessionSettings.knows :
    schema.Knows Section.session.settings Setting.name Setting.Written
      fun setting value record => ({ session := record } : Settings).value setting = value := by
  refine ⟨.cons ?_ (.cons ?_ (.cons ?_ (.cons ?_ (.cons ?_ .nil)))), by decide⟩
  · exact Setting.wordField_knows .retryTimeout id "u64" (fun _ _ h => h) fun _ _ => rfl
  · exact Setting.halfWordField_knows .maxRetries id (fun _ _ h => h) fun _ _ => rfl
  · exact Setting.wordField_knows .searchBehind id "u64" (fun _ _ h => h) fun _ _ => rfl
  · exact Setting.wordField_knows .searchAhead id "u64" (fun _ _ h => h) fun _ _ => rfl
  · exact Setting.wordField_knows .maxInbound id "usize" (fun _ _ h => h) fun _ _ => rfl

/-- What a record holds of its choices is set as they say, and the rest as it was by default. -/
lemma Settings.Follows.of_settles {α : Type} {within : α → Settings} {choices : List Choice} {before record : α}
    (h : Settles (fun setting value record => (within record).value setting = value) choices before record)
    (hbefore : within before = {}) (setting : Setting) : (within record).Follows choices setting := by
  refine ⟨fun value hvalue => h.said ⟨setting, value⟩ hvalue, fun hnone => ?_⟩
  refine h.kept setting ?_ setting.default (by rw [hbefore]; rfl)
  intro hmem
  obtain ⟨⟨_, value⟩, hchoice, rfl⟩ := List.mem_map.1 hmem
  exact hnone value hchoice

/-- A section holds what is said of it, and its other settings by default. -/
lemma Section.Says.read {α : Type} {schema : Schema α} {within : α → Settings} {part : Section}
    (hknows : schema.Knows part.settings Setting.name Setting.Written
      fun setting value record => (within record).value setting = value)
    (hdefault : within schema.default = {}) {choices : List Choice} {text : List Char} (h : part.Says choices text) :
    IsValue text ∧ ∃ record, schema.read.result text = .ok record ∧
      ∀ setting, (within record).Follows choices setting := by
  cases h with
  | map htext hentries hdistinct =>
    have hvalues := hknows.isValue hentries
    obtain ⟨record, hrecord, hsettles⟩ := hknows.gather hentries hdistinct
    refine ⟨.map htext hvalues, record, ?_, .of_settles hsettles hdefault⟩
    rw [Schema.result_map hknows.takesValues htext hvalues, hrecord]
  | list htext hvalues hfirst =>
    have hvalue := hknows.isValue_of_forall₂ hvalues hfirst
    obtain ⟨record, hrecord, hsettles⟩ := hknows.line hvalues hfirst
    refine ⟨.list htext hvalue, record, ?_, .of_settles hsettles hdefault⟩
    rw [Schema.result_list hknows.takesValues htext hvalue, hrecord]

/-! ### Files -/

/-- The settings of the participant hang on their section only. -/
lemma Settings.value_client {setting : Setting} (h : setting ∈ Section.client.settings) (client : ClientSettings)
    (session session' : SessionSettings) :
    (⟨client, session⟩ : Settings).value setting = (⟨client, session'⟩ : Settings).value setting := by
  simp only [Section.settings, List.mem_cons, List.not_mem_nil, or_false] at h
  rcases h with rfl | rfl | rfl | rfl <;> rfl

/-- The settings of the session hang on their section only. -/
lemma Settings.value_session {setting : Setting} (h : setting ∈ Section.session.settings)
    (client client' : ClientSettings) (session : SessionSettings) :
    (⟨client, session⟩ : Settings).value setting = (⟨client', session⟩ : Settings).value setting := by
  simp only [Section.settings, List.mem_cons, List.not_mem_nil, or_false] at h
  rcases h with rfl | rfl | rfl | rfl | rfl <;> rfl

/-- The settings read what is said of each section. -/
lemma Settings.knows :
    schema.Knows [.client, .session] Section.name (fun part choices text => part.Says choices text)
      fun part choices settings => ∀ setting ∈ part.settings, settings.Follows choices setting := by
  refine ⟨.cons ?_ (.cons ?_ .nil), by decide⟩
  · show (Field.of Section.client.name ClientSettings.schema.read
      fun (s : Settings) v => { s with client := v }).Knows _ _ _ _
    refine .of (Schema.read_takesValue ClientSettings.knows.takesValues) ?_
    intro choices text h
    obtain ⟨hvalue, record, hrecord, hfollows⟩ := Section.Says.read ClientSettings.knows rfl h
    refine ⟨hvalue, record, hrecord, fun settings => ⟨?_, ?_⟩⟩
    · intro setting hsetting
      exact (hfollows setting).congr (value_client hsetting _ _ _)
    · rintro (_ | _) hother said hsaid setting hsetting
      · exact absurd rfl hother
      · exact (hsaid setting hsetting).congr (value_session hsetting _ _ _)
  · show (Field.of Section.session.name SessionSettings.schema.read
      fun (s : Settings) v => { s with session := v }).Knows _ _ _ _
    refine .of (Schema.read_takesValue SessionSettings.knows.takesValues) ?_
    intro choices text h
    obtain ⟨hvalue, record, hrecord, hfollows⟩ := Section.Says.read SessionSettings.knows rfl h
    refine ⟨hvalue, record, hrecord, fun settings => ⟨?_, ?_⟩⟩
    · intro setting hsetting
      exact (hfollows setting).congr (value_session hsetting _ _ _)
    · rintro (_ | _) hother said hsaid setting hsetting
      · exact (hsaid setting hsetting).congr (value_client hsetting _ _ _)
      · exact absurd rfl hother

lemma Section.Says.mem_settings {part : Section} {choices : List Choice} {text : List Char}
    (h : part.Says choices text) : ∀ choice ∈ choices, choice.1 ∈ part.settings := by
  cases h with
  | map _ hentries _ => exact hentries.mem_known
  | list _ _ hfirst => exact fun choice hchoice => hfirst.subset (List.mem_map_of_mem hchoice)

lemma Setting.exists_section (setting : Setting) : ∃ part : Section, setting ∈ part.settings := by
  cases setting
  case username | logLevel | logJson | numericCodes => exact ⟨.client, by simp [Section.settings]⟩
  all_goals exact ⟨.session, by simp [Section.settings]⟩

/-- The settings of a file are as the file chooses them, in whatever section. -/
lemma Settings.parse_says {parts : List ((_ : Section) × List Choice)} {text : String} (h : Says parts text) :
    ∃ settings, parse text = .ok settings ∧ ∀ setting, settings.Follows (parts.flatMap (·.2)) setting := by
  obtain ⟨entries, before, map, behind, hmap, htells, hdistinct, hbefore, hbehind, rfl⟩ := h
  have hvalues := knows.isValue htells
  obtain ⟨settings, hsettings, hparts, hothers⟩ := knows.gather htells hdistinct
  refine ⟨settings, ?_, ?_⟩
  · unfold parse
    rw [Schema.parse_eq knows.takesValues (.map hmap hvalues) hbefore hbehind,
      Schema.result_map knows.takesValues hmap hvalues, hsettings]
  · intro setting
    constructor
    · intro value hvalue
      obtain ⟨part, hpart, hchoice⟩ := List.mem_flatMap.1 hvalue
      obtain ⟨_, hmeans⟩ := htells.exists_means part hpart
      exact (hparts part hpart setting (hmeans.mem_settings _ hchoice)).1 value hchoice
    · intro hnone
      obtain ⟨part, hsetting⟩ := setting.exists_section
      by_cases hpart : part ∈ parts.map (·.1)
      · obtain ⟨said, hsaid, rfl⟩ := List.mem_map.1 hpart
        refine (hparts said hsaid setting hsetting).2 ?_
        exact fun value hvalue => hnone value (List.mem_flatMap.2 ⟨said, hsaid, hvalue⟩)
      · -- nothing is said of the section
        have hdefault : ∀ setting ∈ part.settings, ({} : Settings).Follows [] setting := fun _ _ =>
          ⟨fun _ hvalue => absurd hvalue List.not_mem_nil, fun _ => rfl⟩
        exact (hothers part hpart [] hdefault setting hsetting).2 fun _ => List.not_mem_nil

lemma Settings.ext_value {settings settings' : Settings}
    (h : ∀ setting, settings.value setting = settings'.value setting) : settings = settings' := by
  obtain ⟨⟨_, _, _, _⟩, ⟨_, _, _, _, _⟩⟩ := settings
  obtain ⟨⟨_, _, _, _⟩, ⟨_, _, _, _, _⟩⟩ := settings'
  simp only [mk.injEq, ClientSettings.mk.injEq, SessionSettings.mk.injEq]
  exact ⟨⟨h .username, h .logLevel, h .logJson, h .numericCodes⟩,
    h .retryTimeout, h .maxRetries, h .searchBehind, h .searchAhead, h .maxInbound⟩

/-- The choices alone tell the settings. -/
lemma Settings.Follows.eq {settings settings' : Settings} {choices choices' : List Choice}
    (h : ∀ setting, settings.Follows choices setting) (h' : ∀ setting, settings'.Follows choices' setting)
    (hsame : ∀ choice, choice ∈ choices ↔ choice ∈ choices') : settings = settings' := by
  refine ext_value ?_
  intro setting
  by_cases hchosen : ∃ value, ⟨setting, value⟩ ∈ choices
  · obtain ⟨value, hvalue⟩ := hchosen
    rw [(h setting).1 value hvalue, (h' setting).1 value ((hsame _).1 hvalue)]
  · rw [not_exists] at hchosen
    rw [(h setting).2 hchosen, (h' setting).2 fun value hvalue => hchosen value ((hsame _).2 hvalue)]

/-! ### Names given twice -/

/-- A name is given by two entries. -/
def Twice (name : String) (entries : List (List Char × List Char)) : Prop :=
  ∃ entry entry', List.Sublist [entry, entry'] entries ∧ Quoted name entry.1 ∧ Quoted name entry'.1

/-- The name of a section is given twice, or that of a setting in the map of its section. -/
def Settings.Repeats (entries : List (List Char × List Char)) : Prop :=
  (∃ part : Section, Twice part.name entries) ∨
    ∃ (part : Section) (entry : List Char × List Char) (inner : List (List Char × List Char)),
      entry ∈ entries ∧ Quoted part.name entry.1 ∧ IsMap inner entry.2 ∧ (∀ entry ∈ inner, IsValue entry.2) ∧
        ∃ setting ∈ part.settings, Twice setting.name inner

section Twice

variable {α : Type} {schema : Schema α} {entries : List (List Char × List Char)}

lemma not_twice_of_gather {record : α} (h : schema.gather entries = .ok record) {name : String}
    (hname : name ∈ schema.fields.map (·.name)) : ¬ Twice name entries := by
  rintro ⟨entry, entry', hsublist, hquoted, hquoted'⟩
  have hpairs := (Schema.gather_eq_ok h).1.sublist hsublist
  exact List.rel_of_pairwise_cons hpairs List.mem_cons_self name hname hquoted hquoted'

lemma not_twice_of_field {part : Section} {holds : (setting : Setting) → setting.Value → α → Prop}
    (hknows : schema.Knows part.settings Setting.name Setting.Written holds) {β : Type} {put : β → α → β}
    {record record' : β} {text : List Char}
    (h : ((schema.field part.name put).read record).result text = .ok record') (hmap : IsMap entries text)
    (hvalues : ∀ entry ∈ entries, IsValue entry.2) {setting : Setting} (hsetting : setting ∈ part.settings) :
    ¬ Twice setting.name entries := by
  have hresult := Field.result_of part.name schema.read put record text
  cases hread : schema.read.result text with
  | error fault =>
    rw [hread] at hresult
    cases hresult.symm.trans h
  | ok inner =>
    rw [Schema.result_map hknows.takesValues hmap hvalues] at hread
    refine not_twice_of_gather hread ?_
    rw [Schema.names_of_forall₂ hknows.fields]
    exact List.mem_map_of_mem hsetting

end Twice

lemma Settings.not_repeats {entries : List (List Char × List Char)} {settings : Settings}
    (h : schema.gather entries = .ok settings) : ¬ Repeats entries := by
  rintro (⟨part, htwice⟩ | ⟨part, entry, inner, hentry, hquoted, hmap, hvalues, setting, hsetting, htwice⟩)
  · refine not_twice_of_gather h ?_ htwice
    rw [Schema.names_of_forall₂ knows.fields]
    exact List.mem_map_of_mem (by cases part <;> simp)
  · cases part with
    | client =>
      obtain ⟨record, record', hread⟩ := (Schema.gather_eq_ok h).2 entry hentry Section.client.name _ rfl hquoted
      exact not_twice_of_field ClientSettings.knows hread hmap hvalues hsetting htwice
    | session =>
      obtain ⟨record, record', hread⟩ := (Schema.gather_eq_ok h).2 entry hentry Section.session.name _ rfl hquoted
      exact not_twice_of_field SessionSettings.knows hread hmap hvalues hsetting htwice

lemma Settings.ofFile_encode (path text : String) :
    ofFile path (.file (Utf8.encode text)) = (parse text).mapError (.malformed path) := by
  unfold ofFile
  rw [textOf_encode]
  rfl

/-- **A partial file gives what it chooses**: every setting that it chooses, in whatever order, and every other one by
default, whatever names and values it holds besides. It hangs on the choices alone, so it does not matter either whether
a section is a map or the list of its first settings. A JSON map in which the name of a section or of a setting is given
twice is refused. -/
theorem partial_files (path : String) :
    (∀ parts text, Settings.Says parts text → ∃ settings,
      Settings.ofFile path (.file (Utf8.encode text)) = .ok settings ∧
        ∀ setting, settings.Follows (parts.flatMap (·.2)) setting) ∧
    (∀ parts parts' text text', Settings.Says parts text → Settings.Says parts' text' →
      (∀ choice, choice ∈ parts.flatMap (·.2) ↔ choice ∈ parts'.flatMap (·.2)) →
        Settings.ofFile path (.file (Utf8.encode text)) = Settings.ofFile path (.file (Utf8.encode text'))) ∧
    ∀ entries before map behind, IsMap entries map → (∀ entry ∈ entries, IsValue entry.2) → IsBlank before →
      IsBlank behind → Settings.Repeats entries → ∃ fault,
        Settings.ofFile path (.file (Utf8.encode (String.ofList (before ++ (map ++ behind))))) =
          .error (.malformed path fault) := by
  refine ⟨?_, ?_, ?_⟩
  · intro parts text h
    obtain ⟨settings, hsettings, hfollows⟩ := Settings.parse_says h
    refine ⟨settings, ?_, hfollows⟩
    rw [Settings.ofFile_encode, hsettings]
    rfl
  · intro parts parts' text text' h h' hsame
    obtain ⟨settings, hsettings, hfollows⟩ := Settings.parse_says h
    obtain ⟨settings', hsettings', hfollows'⟩ := Settings.parse_says h'
    rw [Settings.ofFile_encode, Settings.ofFile_encode, hsettings, hsettings',
      Settings.Follows.eq hfollows hfollows' hsame]
  · intro entries before map behind hmap hvalues hbefore hbehind hrepeats
    have htakes := Settings.knows.takesValues
    have hparse : Settings.parse (String.ofList (before ++ (map ++ behind))) = Settings.schema.gather entries := by
      unfold Settings.parse
      rw [Schema.parse_eq htakes (.map hmap hvalues) hbefore hbehind, Schema.result_map htakes hmap hvalues]
    rw [Settings.ofFile_encode, hparse]
    cases hgather : Settings.schema.gather entries with
    | error fault => exact ⟨fault, rfl⟩
    | ok settings => exact absurd hrepeats (Settings.not_repeats hgather)

section Chosen

/-- A file with a map, and with white space around it. -/
def spaced (entries : List (String × List Char)) : String :=
  String.ofList ([' '] ++ (writeMap entries ++ ['\n']))

/-- A file that chooses a setting of each section, one in a list and one in a map, beside a name that nobody knows. -/
def choosing : String :=
  spaced [("color", ['[', '[', ']', ']']), ("session", ['[', '7', ']']),
    ("client", writeMap [("log_json", writeBool true)])]

/-- A file that makes the same choices in maps, in another order. -/
def choosingAgain : String :=
  spaced [("client", writeMap [("log_json", writeBool true)]), ("session", writeMap [("retry_timeout_secs", ['7'])])]

/-- A file that names a section twice. -/
def choosingTwice : String := spaced [("client", ['[', ']']), ("session", ['[', ']']), ("client", ['[', ']'])]

lemma isBlank_space : IsBlank [' '] := fun _ hc => .inl (List.mem_singleton.1 hc)

lemma isBlank_newline : IsBlank ['\n'] := fun _ hc => .inr (.inl (List.mem_singleton.1 hc))

lemma isValue_empty : IsValue ['[', ']'] := .list ⟨[], .none isBlank_nil, rfl⟩ fun _ h => absurd h List.not_mem_nil

lemma figures_seven : Decimal.figures 7 = ['7'] := by
  rw [Decimal.figures]
  rfl

lemma says_logJson : Section.client.Says [⟨.logJson, true⟩] (writeMap [("log_json", writeBool true)]) :=
  .map (isMap_writeMap _) (.known (by simp [Section.settings]) (quoted_writeText _) rfl .nil) (by simp)

lemma says_choosing : Settings.Says [⟨.session, [⟨.retryTimeout, 7⟩]⟩, ⟨.client, [⟨.logJson, true⟩]⟩] choosing := by
  have hcolor : IsValue ['[', '[', ']', ']'] :=
    .list ⟨['[', ']'], .one isBlank_nil isBlank_nil, rfl⟩ (List.forall_mem_singleton.2 isValue_empty)
  have hsession : Section.session.Says [⟨.retryTimeout, 7⟩] ['[', '7', ']'] :=
    .list ⟨['7'], .one isBlank_nil isBlank_nil, rfl⟩ (.cons figures_seven.symm .nil) ⟨_, rfl⟩
  refine ⟨_, [' '], _, ['\n'], isMap_writeMap _, ?_, by simp, isBlank_space, isBlank_newline, rfl⟩
  refine .unknown (by decide) (quoted_writeText _) hcolor ?_
  exact .known (by simp) (quoted_writeText _) hsession (.known (by simp) (quoted_writeText _) says_logJson .nil)

lemma says_choosingAgain :
    Settings.Says [⟨.client, [⟨.logJson, true⟩]⟩, ⟨.session, [⟨.retryTimeout, 7⟩]⟩] choosingAgain := by
  have hsession : Section.session.Says [⟨.retryTimeout, 7⟩] (writeMap [("retry_timeout_secs", ['7'])]) :=
    .map (isMap_writeMap _) (.known (by simp [Section.settings]) (quoted_writeText _) figures_seven.symm .nil) (by simp)
  refine ⟨_, [' '], _, ['\n'], isMap_writeMap _, ?_, by simp, isBlank_space, isBlank_newline, rfl⟩
  exact .known (by simp) (quoted_writeText _) says_logJson (.known (by simp) (quoted_writeText _) hsession .nil)

theorem partial_files_two :
    (∃ settings, Settings.ofFile "settings.json" (.file (Utf8.encode choosing)) = .ok settings ∧
      settings.value .retryTimeout = 7 ∧ settings.value .logJson = true ∧ settings.value .maxRetries = 3) ∧
    Settings.ofFile "settings.json" (.file (Utf8.encode choosing)) =
      Settings.ofFile "settings.json" (.file (Utf8.encode choosingAgain)) ∧
    ∃ fault, Settings.ofFile "settings.json" (.file (Utf8.encode choosingTwice)) =
      .error (.malformed "settings.json" fault) := by
  obtain ⟨hgives, hsame, hrefused⟩ := partial_files "settings.json"
  refine ⟨?_, ?_, ?_⟩
  · obtain ⟨settings, hsettings, hfollows⟩ := hgives _ _ says_choosing
    refine ⟨settings, hsettings, (hfollows .retryTimeout).1 7 (by simp), (hfollows .logJson).1 true (by simp), ?_⟩
    exact (hfollows .maxRetries).2 (by simp)
  · refine hsame _ _ _ _ says_choosing says_choosingAgain ?_
    intro choice
    simp [or_comm]
  · refine hrefused _ _ _ _ (isMap_writeMap _) ?_ isBlank_space isBlank_newline (.inl ⟨.client, ?_⟩)
    · simp [isValue_empty]
    · exact ⟨_, _, .cons_cons _ (.cons _ (.cons_cons _ .slnil)), quoted_writeText _, quoted_writeText _⟩

end Chosen

end SealedChat
