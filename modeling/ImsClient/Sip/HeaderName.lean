/-!
# Header names

A known header has one canonical name, and is recognised by that name in any
case, or by its short form. Other names are kept as they are written.
-/

namespace ImsClient.Sip.HeaderName

def known : List String :=
  ["Call-ID", "Contact", "Content-Length", "Content-Type", "CSeq", "From", "Max-Forwards", "To",
   "Via", "Allow", "Authorization", "Expires", "Min-Expires", "Record-Route", "Route", "Server",
   "Supported", "User-Agent", "Event", "Subscription-State", "Refer-To", "Referred-By", "RAck",
   "WWW-Authenticate", "Accept", "Accept-Encoding", "Accept-Language", "Content-Disposition",
   "Content-Encoding", "Content-Language", "Warning", "Proxy-Authenticate",
   "Proxy-Authorization", "Authentication-Info", "Reply-To", "Require", "Retry-After", "Subject",
   "Timestamp", "Organization", "Priority", "Date", "MIME-Version", "In-Reply-To", "Alert-Info",
   "Call-Info", "Error-Info", "Proxy-Require", "Unsupported", "Path", "Reason",
   "Session-Expires", "Min-SE", "RSeq"]

/-- Short forms and the names that they stand for. -/
def shortForms : List (String × String) :=
  [("i", "Call-ID"), ("m", "Contact"), ("l", "Content-Length"), ("c", "Content-Type"),
   ("f", "From"), ("t", "To"), ("v", "Via"), ("k", "Supported"), ("o", "Event"),
   ("r", "Refer-To"), ("b", "Referred-By"), ("d", "Content-Disposition"),
   ("e", "Content-Encoding"), ("s", "Subject"), ("u", "Unsupported"),
   ("x", "Session-Expires"), ("alert", "Alert-Info"), ("error", "Error-Info")]

/-- A name in small letters. Of the letters beyond ASCII only the Kelvin sign has a small letter
within it, the k. -/
def folded (name : String) : List Char :=
  name.toList.map fun c => if c = '\u212A' then 'k' else c.toLower

/-- The canonical form of a name. -/
def canonical (name : String) : String :=
  match known.find? fun full => folded full == folded name with
  | some found => found
  | none =>
    match shortForms.find? fun (short, _) => folded short == folded name with
    | some (_, found) => found
    | none => name

end ImsClient.Sip.HeaderName
