import ImsClient.Json.Decode
import ImsClient.Settings

/-!
# Settings documents

Settings as a JSON document. A field that is left out has its default; a document
that is read is checked as a whole.
-/

namespace ImsClient.Settings

/-- Every field of the settings with its name, in order. -/
def fields (settings : Settings) : List (String × Json) :=
  [("home_domain", .ofString settings.homeDomain),
   ("public_uri", .ofString settings.publicUri),
   ("private_id", .ofOption .ofString settings.privateId),
   ("password", .ofOption .ofString settings.password),
   ("instance_id", .ofOption .ofString settings.instanceId),
   ("registration_expiry_secs", .integer settings.registrationExpiry),
   ("sip_transaction_timeout_ms", .integer settings.transactionTimeout),
   ("feature_tags", .array (settings.featureTags.map .ofString)),
   ("procedure", .ofString settings.procedure.label),
   ("max_chat_sessions", .integer settings.maxChatSessions),
   ("max_file_transfer_sessions", .integer settings.maxFileTransferSessions),
   ("ringing_period_ms", .integer settings.ringingPeriod),
   ("capability_expiry_window_ms", .integer settings.capabilityWindow),
   ("capability_polling_period_ms", .integer settings.pollingPeriod),
   ("log_level", .ofString settings.logLevel),
   ("log_json", .bool settings.logJson)]

/-- The settings as a document with every field. -/
def toJson (settings : Settings) : Json := .ofFields settings.fields

/-- The names of the fields, in order. -/
def fieldNames : List String :=
  ["home_domain", "public_uri", "private_id", "password", "instance_id",
   "registration_expiry_secs", "sip_transaction_timeout_ms", "feature_tags", "procedure",
   "max_chat_sessions", "max_file_transfer_sessions", "ringing_period_ms",
   "capability_expiry_window_ms", "capability_polling_period_ms", "log_level", "log_json"]

/-- The settings of a document. -/
def ofJson? (doc : Json) : Option Settings := do
  let fields ← Json.fields? fieldNames doc
  let d : Settings := {}
  return {
    homeDomain := ← Json.defaulted? fields "home_domain" Json.string? d.homeDomain
    publicUri := ← Json.defaulted? fields "public_uri" Json.string? d.publicUri
    privateId := ← Json.defaulted? fields "private_id" (Json.option? Json.string?) d.privateId
    password := ← Json.defaulted? fields "password" (Json.option? Json.string?) d.password
    instanceId := ← Json.defaulted? fields "instance_id" (Json.option? Json.string?) d.instanceId
    registrationExpiry :=
      ← Json.defaulted? fields "registration_expiry_secs" (Json.natural? 32) d.registrationExpiry
    transactionTimeout :=
      ← Json.defaulted? fields "sip_transaction_timeout_ms" (Json.natural? 64) d.transactionTimeout
    featureTags :=
      ← Json.defaulted? fields "feature_tags" (Json.list? Json.string?) d.featureTags
    procedure :=
      ← Json.defaulted? fields "procedure"
        (Json.choice? Procedure.Scheme.label Procedure.Scheme.all) d.procedure
    maxChatSessions :=
      ← Json.defaulted? fields "max_chat_sessions" (Json.natural? 64) d.maxChatSessions
    maxFileTransferSessions :=
      ← Json.defaulted? fields "max_file_transfer_sessions" (Json.natural? 64)
        d.maxFileTransferSessions
    ringingPeriod := ← Json.defaulted? fields "ringing_period_ms" (Json.natural? 64) d.ringingPeriod
    capabilityWindow :=
      ← Json.defaulted? fields "capability_expiry_window_ms" (Json.signed? 64) d.capabilityWindow
    pollingPeriod :=
      ← Json.defaulted? fields "capability_polling_period_ms" (Json.natural? 64) d.pollingPeriod
    logLevel := ← Json.defaulted? fields "log_level" Json.string? d.logLevel
    logJson := ← Json.defaulted? fields "log_json" Json.bool? d.logJson }

/-- The settings of the text of a document, if they are usable. -/
def ofText (text : String) : Except Error Settings := do
  match (Json.parse? text).bind ofJson? with
  | none => throw (.config "Invalid settings document")
  | some settings =>
    settings.validate
    return settings

end ImsClient.Settings
