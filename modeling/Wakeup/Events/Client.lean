import Wakeup.Events.Address
import Wakeup.Events.Wire

/-! A client of the events service. -/
namespace Wakeup.Events

structure Settings where
  region : String := "us-east-1"
  endpointUrl : Option String := none
  deriving DecidableEq, Repr

/-- Where requests go: the address given, or else the one of the region. -/
def Settings.endpoint (s : Settings) : String :=
  s.endpointUrl.getD ("https://events." ++ s.region ++ ".amazonaws.com")

/-- Settings from an environment. An address that is none is passed over. -/
def Settings.ofEnvironment (region endpointUrl : Option String) : Settings :=
  { region := region.getD ({} : Settings).region
    endpointUrl := endpointUrl.filter Address.isAbsolute }

structure Credentials where
  key : String
  sessionToken : Option String := none
  deriving DecidableEq, Repr

/-- A text that can be the value of a header: no controls but tabs. -/
def isHeaderValue (s : String) : Bool :=
  s.toList.all fun c => c = '\t' || (' ' ≤ c && c ≠ '\x7f')

/-- Credentials that a request can be signed with. -/
def Credentials.canSign (c : Credentials) : Bool := c.sessionToken.all isHeaderValue

/-- A request as it is sent, but for the date and the signature. -/
structure HttpRequest where
  uri : String
  operation : Operation
  credentials : Credentials
  region : String
  body : String
  deriving DecidableEq, Repr

namespace HttpRequest

/-- The value of a header that signing adds, as it is sent: nothing, if it is no text. -/
def addedValue (s : String) : String := (headerText? s.toUTF8.toList).getD ""

/-- The headers that stand for themselves. -/
def headers (r : HttpRequest) : List (String × String) :=
  [("content-type", "application/x-amz-json-1.1"), ("x-amz-target", action r.operation)] ++
    r.credentials.sessionToken.toList.map fun t => ("x-amz-security-token", addedValue t)

/-- The names of the headers that are signed, in order. -/
def signedHeaders (r : HttpRequest) : String :=
  "content-type;host;x-amz-date;" ++
    (if r.credentials.sessionToken.isSome then "x-amz-security-token;" else "") ++ "x-amz-target"

/-- What a signature made on a day is good for. -/
def scope (r : HttpRequest) (day : String) : String :=
  r.credentials.key ++ "/" ++ day ++ "/" ++ r.region ++ "/events/aws4_request"

/-- The header that carries a signature made on a day. -/
def authorization (r : HttpRequest) (day signature : String) : String :=
  addedValue ("AWS4-HMAC-SHA256 Credential=" ++ r.scope day ++ ", SignedHeaders=" ++
    r.signedHeaders ++ ", Signature=" ++ signature)

end HttpRequest

/-- What becomes of a request. -/
inductive Delivery where
  | answered (a : Answer)
  /-- no connection was made, or none in time -/
  | noConnection (why : String)
  /-- nothing came back, or nothing that is an answer -/
  | noAnswer (why : String)
  /-- the answer broke off in its body -/
  | cutShort (why : String)

/-- What is said of what cannot be used. -/
structure Reasons where
  /-- of a text that is no address -/
  noAddress : String → String
  /-- of an address that HTTP does not reach -/
  outOfReach : String → String
  /-- of credentials that no request can be signed with -/
  unsigned : Credentials → String
  /-- of a body that does not tell of targets -/
  unreadable : List UInt8 → String
  deriving Inhabited

def Delivery.outcome (op : Operation) (reasons : Reasons) : Delivery → Outcome
  | answered a => outcomeOfAnswer op a (reasons.unreadable a.body)
  | noConnection why => .error ⟨"HTTP request failed: " ++ why, true, none⟩
  | noAnswer why => .error ⟨"HTTP request failed: " ++ why, false, none⟩
  | cutShort why => .error ⟨"Failed to read response body: " ++ why, true, none⟩

/-- What carries requests. -/
abbrev Transport (τ : Type) := HttpRequest → τ → Delivery × τ

structure Client where
  settings : Settings
  /-- the credentials, or why there are none at the moment -/
  credentials : Except String Credentials
  reasons : Reasons

namespace Client

/-- A client cannot be set up from settings that say nothing of credentials. -/
def ofSettings (s : Settings) (credentials : Option (Except String Credentials))
    (reasons : Reasons) : Except Failure Client :=
  match credentials with
  | some c => .ok ⟨s, c, reasons⟩
  | none => .error (.configuration "No credentials provider configured")

def uri (c : Client) : String := c.settings.endpoint ++ "/"

def request (c : Client) (credentials : Credentials) (call : Call) : HttpRequest :=
  ⟨c.uri, call.operation, credentials, c.settings.region, (body call).render⟩

/-- A call is one request. It is not sent without credentials, to what is no address or without a
signature, and not carried to an address that HTTP does not reach. -/
def service (c : Client) (transport : Transport τ) : Script.Service τ := fun call t =>
  match c.credentials, Address.read? c.uri with
  | .error why, _ => (.error ⟨"Failed to get AWS credentials: " ++ why, true, none⟩, [], t)
  | .ok _, none =>
    (.error ⟨"Failed to create signable request: " ++ c.reasons.noAddress c.uri, false, none⟩,
      [], t)
  | .ok credentials, some address =>
    if credentials.canSign then
      let (d, t) :=
        if address.isReachable then transport (c.request credentials call) t
        else (.noAnswer (c.reasons.outOfReach c.uri), t)
      (d.outcome call.operation c.reasons, [.sending call.operation c.uri], t)
    else
      (.error ⟨"Failed to sign request: " ++ c.reasons.unsigned credentials, false, none⟩, [], t)

end Client
end Wakeup.Events
