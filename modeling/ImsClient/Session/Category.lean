import ImsClient.Text.Literal

/-!
# Categories and keys of sessions

Every session is registered under a key: its category with an id inside that
category.
-/

namespace ImsClient.Session

/-- The categories by which sessions are counted. -/
inductive Category where
  | oneToOneChat
  | groupChat
  | fileTransfer
  | fileUpload
  | conferenceSubscription
deriving DecidableEq, Repr, Inhabited

namespace Category

def all : List Category :=
  [oneToOneChat, groupChat, fileTransfer, fileUpload, conferenceSubscription]

/-- The category in words. -/
def text : Category → String
  | oneToOneChat => "one-to-one chat"
  | groupChat => "group chat"
  | fileTransfer => "file transfer"
  | fileUpload => "file upload"
  | conferenceSubscription => "conference subscription"

/-- The category in a document. -/
def label : Category → String
  | oneToOneChat => "one_to_one_chat"
  | groupChat => "group_chat"
  | fileTransfer => "file_transfer"
  | fileUpload => "file_upload"
  | conferenceSubscription => "conference_subscription"

/-- The category in a diagnostic. -/
def diagnostic : Category → String
  | oneToOneChat => "OneToOneChat"
  | groupChat => "GroupChat"
  | fileTransfer => "FileTransfer"
  | fileUpload => "FileUpload"
  | conferenceSubscription => "ConferenceSubscription"

end Category

/-- The key that a session is registered under. -/
structure Kind where
  category : Category
  id : String
deriving DecidableEq, Repr, Inhabited

namespace Kind

def text (kind : Kind) : String := kind.category.text ++ ":" ++ kind.id

def diagnostic (kind : Kind) : String :=
  kind.category.diagnostic ++ "(" ++ Text.diagnostic kind.id ++ ")"

end Kind

end ImsClient.Session
