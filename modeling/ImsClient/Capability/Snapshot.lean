import ImsClient.Json.Decode

/-!
# Capabilities of contacts

What a contact's device can do, and when that was learnt.
-/

namespace ImsClient.Capability

structure Capabilities where
  imSession : Bool := false
  fileTransfer : Bool := false
  fileTransferHttp : Bool := false
  imageSharing : Bool := false
  videoSharing : Bool := false
  geolocPush : Bool := false
  ipVoiceCall : Bool := false
  ipVideoCall : Bool := false
  /-- The contact is to be asked by way of its presence. -/
  presenceDiscovery : Bool := false
  socialPresence : Bool := false
deriving DecidableEq, Repr, Inhabited

namespace Capabilities

/-- The names of the fields in a document, in order. -/
def fieldNames : List String :=
  ["im_session", "file_transfer", "file_transfer_http", "image_sharing", "video_sharing",
   "geoloc_push", "ip_voice_call", "ip_video_call", "presence_discovery", "social_presence"]

def toJson (c : Capabilities) : Json :=
  .ofFields (fieldNames.zip (List.map Json.bool
    [c.imSession, c.fileTransfer, c.fileTransferHttp, c.imageSharing, c.videoSharing,
     c.geolocPush, c.ipVoiceCall, c.ipVideoCall, c.presenceDiscovery, c.socialPresence]))

/-- The capabilities of a document; one that is left out is not there. -/
def ofJson? (doc : Json) : Option Capabilities := do
  let fields ← Json.fields? fieldNames doc
  let flag := fun name => Json.defaulted? fields name Json.bool? false
  return {
    imSession := ← flag "im_session"
    fileTransfer := ← flag "file_transfer"
    fileTransferHttp := ← flag "file_transfer_http"
    imageSharing := ← flag "image_sharing"
    videoSharing := ← flag "video_sharing"
    geolocPush := ← flag "geoloc_push"
    ipVoiceCall := ← flag "ip_voice_call"
    ipVideoCall := ← flag "ip_video_call"
    presenceDiscovery := ← flag "presence_discovery"
    socialPresence := ← flag "social_presence" }

end Capabilities

/-- Capabilities with the time they were learnt at, in milliseconds. -/
structure Snapshot where
  capabilities : Capabilities
  time : Int
deriving DecidableEq, Repr, Inhabited

namespace Snapshot

def toJson (snapshot : Snapshot) : Json :=
  .ofFields
    [("capabilities", snapshot.capabilities.toJson),
     ("timestamp_last_response", .integer snapshot.time)]

def ofJson? (doc : Json) : Option Snapshot := do
  let fields ← Json.fields? ["capabilities", "timestamp_last_response"] doc
  return {
    capabilities := ← Json.required? fields "capabilities" Capabilities.ofJson?
    time := ← Json.required? fields "timestamp_last_response" (Json.signed? 64) }

end Snapshot

end ImsClient.Capability
