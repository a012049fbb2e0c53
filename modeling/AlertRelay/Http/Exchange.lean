import AlertRelay.Http.ContentType
import AlertRelay.Http.Url
import AlertRelay.Json.Render

/-!
# Exchanges

A request is handed to the network if its URL is one that it can serve.  The
network answers with a reply or with a fault; there is no second attempt.
-/

namespace AlertRelay.Http

open AlertRelay.Text

structure Request where
  method : String
  url : String
  contentType : String
  body : String
  deriving DecidableEq, Repr, Inhabited

/-- The body as it is sent, in UTF-8. -/
def Request.bodyBytes (r : Request) : List UInt8 := r.body.toList.flatMap String.utf8EncodeChar

/-! ## Replies -/

structure Reply where
  status : Int
  contentType : Option String
  body : List UInt8
  deriving DecidableEq, Repr, Inhabited

/-- The character set of a reply: the one its content type names, if it is
known, and UTF-8 otherwise. -/
def Reply.charset (r : Reply) : Except Charset.Fault Charset := do
  match r.contentType with
  | none => return Charset.Unicode.utf8
  | some header => return (← ContentType.charset? header).getD Charset.Unicode.utf8

/-- The text of a reply.  Without a body its character set is of no interest. -/
def Reply.text (r : Reply) : Except Charset.Fault Spelled := do
  if r.body = [] then return ""
  return ⟨← (← r.charset).decode r.body⟩

def Reply.isAccepted (r : Reply) : Bool := r.status < 400

/-! ## Faults -/

inductive FaultKind where
  | general
  | request
  | transport
  | timeout
  | connectTimeout
  | readTimeout
  | writeTimeout
  | poolTimeout
  | network
  | connect
  | read
  | write
  | close
  | proxy
  | protocol
  | localProtocol
  | remoteProtocol
  | unsupportedProtocol
  | decoding
  | tooManyRedirects
  /-- the URL is not one -/
  | invalidUrl
  /-- more than one cookie of a name -/
  | cookieConflict
  /-- a body was used in the wrong state -/
  | stream
  | streamConsumed
  | streamClosed
  | responseNotRead
  | requestNotRead
  deriving DecidableEq, Repr, Inhabited

/-- Whether a fault belongs to the exchange itself.  The others say that the
request could not even be formed, or that its data were misused. -/
def FaultKind.isOfExchange : FaultKind → Bool
  | invalidUrl | cookieConflict | stream | streamConsumed | streamClosed | responseNotRead
  | requestNotRead => false
  | _ => true

structure Fault where
  kind : FaultKind
  message : Spelled
  deriving DecidableEq, Repr, Inhabited

inductive Answer where
  | reply (r : Reply)
  | fault (f : Fault)
  deriving DecidableEq, Repr, Inhabited

/-! ## Posting -/

def servedSchemes : List String := ["http", "https", "ws", "wss"]

/-- The URL that a request goes to.  It has to name a host and a scheme that is
served. -/
def destination (url : String) : Except Fault String :=
  match Url.parse url with
  | .error f => .error ⟨.invalidUrl, f.message⟩
  | .ok u =>
      if u.scheme.isEmpty || u.host.isEmpty then
        .error ⟨.unsupportedProtocol,
          "Request URL is missing an 'http://' or 'https://' protocol."⟩
      else if servedSchemes.contains (String.ofList u.scheme) then .ok u.text
      else
        .error ⟨.unsupportedProtocol,
          .whole ("Request URL has an unsupported protocol '" ++ String.ofList u.scheme ++ "://'.")⟩

/-- The request that posts a JSON value. -/
def postRequest (url : String) (body : Json) : Request :=
  ⟨"POST", url, "application/json", String.ofList (Json.render Json.compact body)⟩

/-- The requests that posting to a URL hands to the network, and the answer. -/
def post (url : String) (body : Json) (answer : Answer) : List Request × Answer :=
  match destination url with
  | .error f => ([], .fault f)
  | .ok target => ([postRequest target body], answer)

end AlertRelay.Http
