import SealedChat.Proofs.Json.Records
import SealedChat.Proofs.Settings.Partial

/-!
# Settings that survive in a file

What is written of settings says what each of them is (`Settings.says_write`), so the settings in a file are those that
were written there (`settings_survive`).
-/

namespace SealedChat

open Json

/-! ### Sections -/

/-- The value of a setting, written. -/
def Setting.write : (setting : Setting) → setting.Value → List Char
  | .username, value | .logLevel, value => writeText value
  | .logJson, value | .numericCodes, value => writeBool value
  | .maxRetries, value => Decimal.figures value.toNat
  | .retryTimeout, value | .searchBehind, value | .searchAhead, value | .maxInbound, value =>
    Decimal.figures value.toNat

lemma Setting.written_write (setting : Setting) (value : setting.Value) :
    setting.Written value (setting.write value) := by
  cases setting
  case username | logLevel => exact quoted_writeText value
  all_goals rfl

section Sections

variable (settings : Settings) (part : Section)

/-- What the settings of a section are. -/
def Settings.choices : List Choice := part.settings.map fun setting => ⟨setting, settings.value setting⟩

/-- A section, written. -/
def Section.write : List Char :=
  writeMap (part.settings.map fun setting => (setting.name, setting.write (settings.value setting)))

/-- What is written of a section says what each of its settings is. -/
lemma Section.says_write : part.Says (settings.choices part) (part.write settings) := by
  refine .map (isMap_writeMap _) (.writeMap (fun setting => setting.written_write _) fun _ hsetting => hsetting) ?_
  have hnames : (part.settings.map Setting.name).Nodup := by cases part <;> decide
  unfold Settings.choices
  rw [List.map_map]
  exact (List.Nodup.of_map _ hnames).map Function.injective_id

end Sections

/-! ### Files -/

lemma Settings.says_write (settings : Settings) :
    Says ([.client, .session].map fun part => ⟨part, settings.choices part⟩) settings.write := by
  refine ⟨_, [], _, [], isMap_writeMap _,
    .writeMap (fun part => part.says_write settings) fun _ hpart => hpart, ?_, isBlank_nil, isBlank_nil, ?_⟩
  · have hnames : ([Section.client, .session].map Section.name).Nodup := by decide
    exact List.Nodup.of_map _ hnames
  · rw [List.append_nil]
    rfl

theorem Settings.parse_write (settings : Settings) : parse settings.write = .ok settings := by
  obtain ⟨settings', hparse, hfollows⟩ := parse_says settings.says_write
  have hsame : settings' = settings := by
    refine ext_value ?_
    intro setting
    obtain ⟨part, hsetting⟩ := setting.exists_section
    refine (hfollows setting).1 _ (List.mem_flatMap.2 ⟨⟨part, settings.choices part⟩, ?_, ?_⟩)
    · exact List.mem_map.2 ⟨part, by cases part <;> simp, rfl⟩
    · exact List.mem_map.2 ⟨setting, hsetting, rfl⟩
  rw [hparse, hsame]

/-- Other settings are written otherwise. -/
theorem Settings.write_injective : Function.Injective write := by
  intro settings settings' h
  have hsettings := settings.parse_write
  rw [h, settings'.parse_write] at hsettings
  cases hsettings
  rfl

/-- **Settings survive.** A file in which settings were written gives these settings, whatever their texts hold and
however great their numbers are. -/
theorem settings_survive (path : String) (settings : Settings) :
    Settings.ofFile path (.file (Utf8.encode settings.write)) = .ok settings := by
  rw [Settings.ofFile_encode, Settings.parse_write]
  rfl

end SealedChat
