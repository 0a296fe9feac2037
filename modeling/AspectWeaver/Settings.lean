/-
**Settings: how to log, and what to do when a class is woven again.**

Settings come from a document, and variables of the environment go before what the document says. A
variable that names no level or no format is passed over; a policy that is none is an error.

* `parse_name` — the name of a format reads back as the format.
-/

import AspectWeaver.Level
import AspectWeaver.Settings.FileSystem
import AspectWeaver.Settings.Policy
import AspectWeaver.Toml.Reader

namespace AspectWeaver

/-- The layout of log lines. -/
inductive LogFormat where
  | compact
  | full
  | json
  | pretty
  deriving DecidableEq, Inhabited

namespace LogFormat

/-- The name of a format. -/
def name : LogFormat → String
  | .compact => "compact"
  | .full => "full"
  | .json => "json"
  | .pretty => "pretty"

/-- The format that a text names, without regard to letter case. -/
def parse (text : String) : Except String LogFormat :=
  let letters := text.toList
  if Text.isWord "compact" letters then .ok .compact
  else if Text.isWord "full" letters then .ok .full
  else if Text.isWord "json" letters then .ok .json
  else if Text.isWord "pretty" letters then .ok .pretty
  else .error ("Invalid log format: " ++ text)

/-- The name of a format reads back as the format. -/
theorem parse_name (format : LogFormat) : parse format.name = .ok format := by
  cases format <;> rfl

end LogFormat

/-- How to log. -/
structure LoggingSettings where
  level : Level := .info
  format : LogFormat := .compact
  showTarget : Bool := false
  showThreadIds : Bool := false
  filter : Option String := none
  deriving DecidableEq

/-- All settings. -/
structure Settings where
  logging : LoggingSettings := {}
  reweave : ReweavePolicy := .skip
  deriving DecidableEq

/-! ### The environment -/

/-- Variables of the environment with their values. -/
abbrev Environment := List (String × String)

/-- A setting of which only a valid text changes the value. -/
def orKeep {ε α : Type} (parse : String → Except ε α) (kept : α) : Option String → α
  | none => kept
  | some text =>
      match parse text with
      | .ok value => value
      | .error _ => kept

namespace LoggingSettings

/-- The settings after the variables of the environment. -/
def withEnvironment (settings : LoggingSettings) (environment : Environment) : LoggingSettings :=
  { settings with
    filter := (environment.lookup "RUST_LOG").or settings.filter
    level := orKeep Level.parse settings.level (environment.lookup "LOG_LEVEL")
    format := orKeep LogFormat.parse settings.format (environment.lookup "LOG_FORMAT") }

/-- The settings that the environment alone gives. -/
def ofEnvironment (environment : Environment) : LoggingSettings :=
  withEnvironment {} environment

/-- Installs the log sink of these settings, which can be done once. -/
def install (_settings : LoggingSettings) (installed : Bool) : Except SettingsError Unit :=
  if installed then .error .sinkInstalled else .ok ()

end LoggingSettings

namespace Settings

/-- The settings after the variables of the environment. -/
def withEnvironment (settings : Settings) (environment : Environment) :
    Except SettingsError Settings :=
  let logging := settings.logging.withEnvironment environment
  match environment.lookup "ANNOTATOR_REWEAVE" with
  | none => .ok { settings with logging := logging }
  | some text =>
      match ReweavePolicy.parse text with
      | .ok policy => .ok ⟨logging, policy⟩
      | .error cause => .error cause

end Settings

/-! ### Documents -/

/-- The words for levels in a document; `warn` has two. -/
def levelWords : List (String × Level) :=
  [("trace", .trace), ("debug", .debug), ("info", .info), ("warn", .warn), ("warning", .warn),
    ("error", .error)]

/-- The words for formats in a document. -/
def formatWords : List (String × LogFormat) :=
  [("compact", .compact), ("full", .full), ("json", .json), ("pretty", .pretty)]

/-- The words for policies in a document. -/
def policyWords : List (String × ReweavePolicy) := [("skip", .skip), ("error", .error)]

namespace LoggingSettings

/-- Reads the settings of logging. -/
def ofToml? (document : Toml) : Option LoggingSettings := do
  match ← document.fields? ["level", "format", "show_target", "show_thread_ids", "filter"] with
  | [level, format, showTarget, showThreadIds, filter] =>
      let level ← Toml.fieldOr .info (Toml.word? levelWords) level
      let format ← Toml.fieldOr .compact (Toml.word? formatWords) format
      let showTarget ← Toml.fieldOr false Toml.boolean? showTarget
      let showThreadIds ← Toml.fieldOr false Toml.boolean? showThreadIds
      let filter ← Toml.fieldOr none (fun value => value.text?.map some) filter
      pure ⟨level, format, showTarget, showThreadIds, filter⟩
  | _ => none

end LoggingSettings

namespace Settings

/-- Reads the policy out of the settings of weaving. -/
def policyOfToml? (document : Toml) : Option ReweavePolicy := do
  match ← document.fields? ["reweave"] with
  | [policy] => Toml.fieldOr .skip (Toml.word? policyWords) policy
  | _ => none

/-- Reads all settings. -/
def ofToml? (document : Toml) : Option Settings := do
  match ← document.fields? ["logging", "weaving"] with
  | [logging, weaving] =>
      let logging ← Toml.fieldOr {} LoggingSettings.ofToml? logging
      let reweave ← Toml.fieldOr .skip policyOfToml? weaving
      pure ⟨logging, reweave⟩
  | _ => none

/-- The settings in a text. -/
def parse (text : String) : Except SettingsError Settings :=
  match (Toml.parse text).bind ofToml? with
  | some settings => .ok settings
  | none => .error .malformed

/-- The settings in a file that holds these bytes. -/
def ofBytes (path : String) (content : ByteArray) : Except SettingsError Settings :=
  match String.fromUTF8? content with
  | some text => parse text
  | none => .error (.unreadable path .notText)

/-- The settings in the file at a path. -/
def ofPath (system : FileSystem) (path : String) : Except SettingsError Settings :=
  match system.read path with
  | .ok text => parse text
  | .error fault => .error (.unreadable path fault)

end Settings

end AspectWeaver
