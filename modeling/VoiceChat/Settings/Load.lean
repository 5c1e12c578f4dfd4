import VoiceChat.Decode.Record
import VoiceChat.Json.Reader
import VoiceChat.Settings
import VoiceChat.Settings.EnvFile
import VoiceChat.Text.Lower

/-!
# Loading settings

Settings come from the environment, failing that from an environment file,
failing that from their defaults. Names are matched without regard to case.
Scalars are read from their text; the list of delays is JSON text. A name of
the file that is no setting is an issue, reported after those of the settings.
-/

namespace VoiceChat.Settings

/-- Where a value was found. -/
inductive Source where
  | environment
  | file
deriving DecidableEq, Repr

/-- Why settings could not be loaded. -/
inductive LoadError where
  /-- The text of the setting `name` is no JSON. -/
  | undecodable (name : String) (source : Source)
  | invalid (issues : List Issue)

def Source.name : Source → String
  | environment => "EnvSettingsSource"
  | file => "DotEnvSettingsSource"

/-- The sentence that explains an undecodable setting. -/
def undecodableMessage (name : String) (source : Source) : String :=
  "error parsing value for field \"" ++ name ++ "\" from source \"" ++ source.name ++ "\""

/-- The setting that is written as JSON. -/
def listSetting : String := "RECONNECT_BACKOFF_SECONDS"

/-- The settings that are written as plain text. -/
def scalarSettings : List String :=
  ["LOG_LEVEL", "TYPING_TTL_MS", "SPEAKING_TTL_MS", "TICK_INTERVAL_SECONDS", "KICKED_REASON",
    "CONNECTION_LOST_REASON", "LOBBY_NAME", "SYSTEM_MESSAGES", "MAX_MESSAGES_PER_CHANNEL"]

/-- Variables under their names in lower case; of two spellings the later counts. -/
def foldCase (vars : Table String (Option String)) : Table String (Option String) :=
  Table.ofList (vars.entries.map fun e => (Text.lower e.1, e.2))

/-- The text of a setting among case-folded variables. -/
def textOf? (vars : Table String (Option String)) (name : String) : Option String :=
  (vars.get? (Text.lower name)).join

/-- The decoded list setting of one source; JSON null is as good as absent. -/
def listOf? (source : Source) (vars : Table String (Option String)) :
    Except LoadError (Option Json) :=
  match textOf? vars listSetting with
  | none => .ok none
  | some text =>
    match Json.parse? text with
    | none => .error (.undecodable listSetting source)
    | some .null => .ok none
    | some v => .ok (some v)

/-- The number that a text writes; single underscores may stand between its characters. -/
def readNumber? (text : String) : Option Binary64 :=
  (Decimal.read? (Text.trim text.toList)).or
    ((Decimal.withoutUnderscores? text.toList).bind Decimal.read?)

def number (v : Json) : Decoded Binary64 :=
  match v with
  | .str chars =>
    match readNumber? chars with
    | some x => .value x
    | none => .fail .unreadableNumber v
  | _ => .fail .unreadableNumber v

open Decode in
/-- The settings that `fields` describe, with defaults for the rest. -/
def ofFields (fields : Fields) : Decoded Settings :=
  let default : Settings := {}
  Settings.mk <$> withDefault fields "LOG_LEVEL" string default.logLevel
    <*> withDefault fields "TYPING_TTL_MS" int default.typingTtlMs
    <*> withDefault fields "SPEAKING_TTL_MS" int default.speakingTtlMs
    <*> withDefault fields listSetting (list int) default.reconnectBackoffSeconds
    <*> withDefault fields "TICK_INTERVAL_SECONDS" number default.tickIntervalSeconds
    <*> withDefault fields "KICKED_REASON" string default.kickedReason
    <*> withDefault fields "CONNECTION_LOST_REASON" string default.connectionLostReason
    <*> withDefault fields "LOBBY_NAME" string default.lobbyName
    <*> withDefault fields "SYSTEM_MESSAGES" bool default.systemMessages
    <*> withDefault fields "MAX_MESSAGES_PER_CHANNEL" int default.maxMessagesPerChannel

/-- Whether a case-folded name is that of a setting. -/
def isSetting (name : String) : Bool := name ∈ (listSetting :: scalarSettings).map Text.lower

/-- The issues of the names in the file that are no settings; empty values do no harm. -/
def strayIssues (file : Table String (Option String)) : List Issue :=
  file.entries.filterMap fun e =>
    if isSetting e.1 ∨ e.2.getD "" = "" then none
    else some ⟨[.field e.1], .unexpectedField, .str (e.2.getD "")⟩

def stray (file : Table String (Option String)) : Decoded Unit :=
  match strayIssues file with
  | [] => .value ()
  | found => .issues found

/-- The settings under the variables of an environment and the text of a file. -/
def load (environment : Table String String) (text : String) : Except LoadError Settings := do
  let env := foldCase (environment.mapValues fun _ v => some v)
  let file := foldCase (EnvFile.values environment text)
  let fromEnv ← listOf? .environment env
  let fromFile ← listOf? .file file
  let scalars := scalarSettings.filterMap fun name =>
    ((textOf? env name).or (textOf? file name)).map fun text => (name, Json.str text)
  let lists := (fromEnv.or fromFile).toList.map fun v => (listSetting, v)
  match (fun settings _ => settings) <$> ofFields (scalars ++ lists) <*> stray file with
  | .value settings => .ok settings
  | .issues found => .error (.invalid found)

end VoiceChat.Settings
