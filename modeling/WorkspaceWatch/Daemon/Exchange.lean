/-
**One request and what comes back.**

A client sends a request to the daemon and gets a response, or something goes wrong on the way:
the URL cannot be built, the scheme is none the transport knows, the transport fails, the body of
the response is not in the coding that its headers name, or the response redirects to something
that is no URL.  A host that cannot be named is another matter: nobody looks out for what goes wrong
there.  What the daemon does is given as a list of reactions, one for each request that reaches it.

Main definitions:

* `WorkspaceWatch.Request`, `WorkspaceWatch.Response`, `WorkspaceWatch.Reaction`;
* `WorkspaceWatch.SendFailure`: what can go wrong on the way;
* `WorkspaceWatch.Client`: whom to ask, and how long to wait;
* `WorkspaceWatch.Client.exchange`: a request sent, and what came of it.
-/

import WorkspaceWatch.Coding.Basic
import WorkspaceWatch.Json.Printer
import WorkspaceWatch.Text.Base64
import WorkspaceWatch.Url.Redirect

set_option autoImplicit false

namespace WorkspaceWatch

/-- What a request asks for. -/
inductive Method where
  | get
  | post
  | put
  | delete
deriving DecidableEq, Repr

/-- The method's word. -/
def Method.text : Method → String
  | get => "GET"
  | post => "POST"
  | put => "PUT"
  | delete => "DELETE"

/-- What a client wants to send: a method, a path below the base URL, and perhaps a query that
replaces any other and a body. -/
structure Order where
  /-- The method. -/
  method : Method
  /-- The path below the base URL. -/
  path : String
  /-- The query, if the order decides about it. -/
  query? : Option (Option (List Char)) := none
  /-- The body. -/
  body? : Option Json := none

/-- A request as it is sent. -/
structure Request where
  /-- The method. -/
  method : Method
  /-- The URL. -/
  url : Url
  /-- The body. -/
  body? : Option String
  /-- How long to wait for a connection, in seconds; without a value, for ever. -/
  connectTimeout : Option Binary64

namespace Request

/-- The host header, if the URL has a host. -/
def host? (r : Request) : Option String :=
  if r.url.host = "" then none else some r.url.hostPort

/-- The length of the body in bytes. -/
def contentLength? (r : Request) : Option Nat := r.body?.map (·.utf8ByteSize)

/-- The user and the password of the URL. -/
def credentials (r : Request) : List Char × List Char :=
  let info := r.url.userInfo.toList
  (percentDecode (info.takeWhile (· != ':')), percentDecode ((info.dropWhile (· != ':')).drop 1))

/-- The authorization header, if the URL has a user or a password. -/
def authorization? (r : Request) : Option String :=
  let (user, password) := r.credentials
  if user.isEmpty && password.isEmpty then none
  else
    let bytes := (user ++ ':' :: password).flatMap String.utf8EncodeChar
    some ("Basic " ++ .ofList (base64 bytes))

end Request

/-- What the daemon answers. -/
structure Response where
  /-- The status. -/
  status : Nat
  /-- The headers. -/
  headers : List (String × String)
  /-- The body. -/
  body : ByteArray

namespace Response

/-- Whether the status says that the request succeeded. -/
def isSuccess (r : Response) : Bool := 200 ≤ r.status && r.status ≤ 299

/-- The values of a header, whose name is compared without regard to case. -/
def header (r : Response) (name : String) : List String :=
  (r.headers.filter fun h => h.1.toLower == name).map (·.2)

/-- The target of a redirect; if several are named, all of them together. -/
def location? (r : Response) : Option String :=
  if [301, 302, 303, 307, 308].contains r.status then
    match r.header "location" with
    | [] => none
    | values => some (", ".intercalate values)
  else none

/-- The codings of the body, in the order in which they were applied. -/
def codings (r : Response) : List Coding :=
  (r.header "content-encoding").flatMap Coding.listed

/-- The response with its body as it was before it was coded, or what the failure says. -/
def decoded (r : Response) : Except String Response :=
  (Coding.undoAll r.codings r.body).map fun body => { r with body }

end Response

/-- What the daemon does with a request that reaches it: it answers, or the transport fails. -/
inductive Reaction where
  | respond (response : Response)
  | fail (mishap : Mishap)

/-- What can go wrong on the way: with the URL, the scheme, the transport, the coding of the body or
the target of a redirect. -/
inductive SendFailure where
  | url (error : UrlError)
  | scheme (scheme : String)
  | transport (mishap : Mishap)
  | coding (text : String)
  | redirect (error : RedirectError)
deriving DecidableEq, Repr

namespace SendFailure

/-- The kind of a failure. -/
def kind : SendFailure → String
  | url _ => "InvalidURL"
  | scheme _ => "UnsupportedProtocol"
  | transport m => m.kind
  | coding _ => "DecodingError"
  | redirect (.malformed _) => "RemoteProtocolError"
  | redirect (.unusable _) => "InvalidURL"

/-- What a failure says. -/
def text : SendFailure → String
  | url e => e.message
  | scheme "" => "Request URL is missing an 'http://' or 'https://' protocol."
  | scheme s => "Request URL has an unsupported protocol '" ++ s ++ "://'."
  | transport m => m.text
  | coding text => text
  | redirect (.malformed e) => "Invalid URL in location header: " ++ e.message ++ "."
  | redirect (.unusable e) => e.message

/-- What a failure says, or its kind if it says nothing. -/
def message (f : SendFailure) : String :=
  if f.text = "" then f.kind else f.text

/-- A failure with its kind and what it says, as diagnostics show it. -/
def shown (f : SendFailure) : String :=
  f.kind ++ "(" ++ quoted f.text ++ ")"

end SendFailure

/-- Where the daemon is found if nothing else is said. -/
def defaultBaseUrl : String := "http://localhost:8855/api/v1"

/-- How long to wait for a connection if nothing else is said, in seconds. -/
def defaultConnectTimeout : Binary64 := .ofInt 5

/-- How long to wait for anything but a connection, in seconds. -/
def readTimeout : Binary64 := .ofInt 5

/-- Whom to ask, and how long to wait. -/
structure Client where
  /-- The URL that all paths are below. -/
  baseUrl : String := defaultBaseUrl
  /-- How long to wait for a connection, in seconds; without a value, for ever. -/
  connectTimeout : Option Binary64 := some defaultConnectTimeout

/-- What came of a request: a response, a failure on the way, a mishap that nobody looks out for, or
no reaction, because the daemon had none left. -/
inductive Outcome where
  | response (response : Response)
  | failure (failure : SendFailure)
  | escaped (mishap : Mishap)
  | exhausted

/-- What comes of a request that goes no further. -/
def Outcome.ofBreak : Break SendFailure → Outcome
  | .failed f => failure f
  | .escaped m => escaped m

/-- A request with what came of it, and the reactions that are left. -/
structure Exchange where
  /-- What came of it. -/
  outcome : Outcome
  /-- The request, if it reached the daemon. -/
  request? : Option Request
  /-- The reactions that are left. -/
  rest : List Reaction

namespace Client

/-- The base URL with a slash at the end. -/
def base (c : Client) : Except UrlError Url := do
  let u ← Url.parse c.baseUrl
  if u.target.getLast? = some '/' then return u else u.withTarget (u.target ++ ['/'])

/-- The URL of an order: its path behind that of the base URL, joined as texts. -/
def address (c : Client) (o : Order) : Except UrlError Url := do
  let base ← c.base
  let path ← Url.parse o.path
  let u ← base.withTarget (base.target ++ path.target.dropWhile (· == '/'))
  match o.query? with
  | none => return u
  | some query => u.withQuery query

/-- The schemes the transport knows. -/
def knownSchemes : List String := ["http", "https", "ws", "wss"]

/-- The request of an order, unless it cannot be sent. -/
def request (c : Client) (o : Order) : Except (Break SendFailure) Request := do
  let url ← (c.address o).mapError fun e => Break.failed (.url e)
  match url.headerFault? with
  | some m => throw (.escaped m)
  | none =>
    if knownSchemes.contains url.scheme then
      return ⟨o.method, url, o.body?.map Json.compact, c.connectTimeout⟩
    else throw (.failed (.scheme url.scheme))

/-- A response looked at: its body is brought out of its coding, and one that redirects to no URL is
a failure. -/
def judge (url : Url) (r : Response) : Except (Break SendFailure) Response := do
  let r ← r.decoded.mapError fun text => Break.failed (.coding text)
  match r.location? with
  | none => return r
  | some location =>
    match url.redirect location with
    | .ok _ => return r
    | .error (.failed e) => throw (.failed (.redirect e))
    | .error (.escaped m) => throw (.escaped m)

/-- What came of a response. -/
def outcome (url : Url) (r : Response) : Outcome :=
  match judge url r with
  | .ok r => .response r
  | .error b => .ofBreak b

/-- An order sent, and what came of it.  One that cannot be sent uses up no reaction. -/
def exchange (c : Client) (o : Order) (reactions : List Reaction) : Exchange :=
  match c.request o with
  | .error b => ⟨.ofBreak b, none, reactions⟩
  | .ok request =>
    match reactions with
    | [] => ⟨.exhausted, some request, []⟩
    | .respond r :: rest => ⟨outcome request.url r, some request, rest⟩
    | .fail m :: rest => ⟨.failure (.transport m), some request, rest⟩

/-- An order that cannot be sent leaves the reactions alone; one that is sent uses up the first. -/
theorem exchange_rest (c : Client) (o : Order) (reactions : List Reaction) :
    (c.exchange o reactions).rest =
      if (c.exchange o reactions).request?.isSome then reactions.drop 1 else reactions := by
  unfold exchange
  split
  · rfl
  · cases reactions with
    | nil => rfl
    | cons r rest => cases r <;> rfl

end Client

end WorkspaceWatch
