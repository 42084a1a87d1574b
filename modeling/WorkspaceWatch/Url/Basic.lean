/-
**URLs.**

A URL is kept in the form in which it is sent: its scheme and host in small letters, the default
port left out, and every part with its special characters escaped.

Main definitions:

* `WorkspaceWatch.Url`: the parts of a URL;
* `WorkspaceWatch.Url.text`: its written form;
* `WorkspaceWatch.UrlError`: why a text is no URL;
* `WorkspaceWatch.Mishap`, `WorkspaceWatch.Break`: a failure outside of the program, and a step that
  may end in one;
* `WorkspaceWatch.Url.keepsPath` and its neighbours: the characters that each part keeps.
-/

import WorkspaceWatch.Text.Percent
import WorkspaceWatch.Text.Quoted

set_option autoImplicit false

namespace WorkspaceWatch

/-- The parts of a URL. -/
structure Url where
  /-- The scheme; empty if there is none. -/
  scheme : String
  /-- User and password; empty if there are none. -/
  userInfo : String
  /-- The host, an address in brackets without them; empty if there is none. -/
  host : String
  /-- The port, unless it is the scheme's own. -/
  port : Option Int
  /-- The path. -/
  path : List Char
  /-- The query, which may be there and empty. -/
  query : Option (List Char)
  /-- The fragment, which may be there and empty. -/
  fragment : Option (List Char)
deriving DecidableEq, Repr

/-- The parts of a URL that can be given one by one. -/
inductive UrlPart where
  | scheme
  | authority
  | path
  | query
  | fragment
  | host
deriving DecidableEq, Repr

/-- The name of a part in messages. -/
def UrlPart.text : UrlPart → String
  | scheme => "scheme"
  | authority => "authority"
  | path => "path"
  | query => "query"
  | fragment => "fragment"
  | host => "host"

/-- Why a text is no URL. -/
inductive UrlError where
  | tooLong
  | partTooLong (part : UrlPart)
  | control (c : Char) (position : Nat)
  | port (text : String)
  | address4 (host : String)
  | address6 (host : String)
  | hostName (host : String)
  | pathWithoutSlash
  | pathWithSlashes
  | pathWithColon
deriving DecidableEq, Repr

/-- What the message of an error says. -/
def UrlError.message : UrlError → String
  | tooLong => "URL too long"
  | partTooLong part => "URL component '" ++ part.text ++ "' too long"
  | control c position =>
    "Invalid non-printable ASCII character in URL, " ++ quoted c.toString ++ " at position " ++
      toString position ++ "."
  | port text => "Invalid port: " ++ quoted text
  | address4 host => "Invalid IPv4 address: " ++ quoted host
  | address6 host => "Invalid IPv6 address: " ++ quoted host
  | hostName host => "Invalid IDNA hostname: " ++ quoted host
  | pathWithoutSlash => "For absolute URLs, path must be empty or begin with '/'"
  | pathWithSlashes => "Relative URLs cannot have a path starting with '//'"
  | pathWithColon => "Relative URLs cannot have a path starting with ':'"

/-- A failure outside of the program, as of the transport: what kind it is, and what it says. -/
structure Mishap where
  /-- The kind. -/
  kind : String
  /-- What it says. -/
  text : String
deriving DecidableEq, Repr

/-- Why a step goes no further: it fails in a way that is looked out for, or by a mishap that nobody
looks out for. -/
inductive Break (ε : Type) where
  | failed (error : ε)
  | escaped (mishap : Mishap)
deriving DecidableEq, Repr

namespace Url

/-! ### The characters that the parts keep -/

/-- A visible ASCII character. -/
def isVisible (c : Char) : Bool :=
  0x20 < c.toNat && c.toNat < 0x7f

/-- The characters a fragment keeps. -/
def keepsFragment (c : Char) : Bool :=
  isVisible c && !(['"', '<', '>', '`'].contains c)

/-- The characters a query keeps. -/
def keepsQuery (c : Char) : Bool :=
  isVisible c && !(['"', '#', '<', '>'].contains c)

/-- The characters a path keeps. -/
def keepsPath (c : Char) : Bool :=
  keepsQuery c && !(['?', '`', '{', '}'].contains c)

/-- The characters that user information keeps. -/
def keepsUserInfo (c : Char) : Bool :=
  keepsPath c && !(['/', ';', '=', '@', '[', '\\', ']', '^', '|'].contains c)

/-- The characters a host keeps. -/
def keepsHost (c : Char) : Bool :=
  isUnreserved c || ['!', '$', '&', '\x27', '(', ')', '*', '+', ',', ';', '=', '"', '`', '{', '}',
    '%', '|', '\\'].contains c

/-! ### Written form -/

/-- The host with brackets around an address that has colons. -/
def hostText (u : Url) : String :=
  if u.host.toList.contains ':' then "[" ++ u.host ++ "]" else u.host

/-- Host and port. -/
def hostPort (u : Url) : String :=
  u.hostText ++ match u.port with
    | some n => ":" ++ toString n
    | none => ""

/-- User information, host and port. -/
def authority (u : Url) : String :=
  (if u.userInfo = "" then "" else u.userInfo ++ "@") ++ u.hostPort

/-- A part behind its mark, if it is there. -/
def marked (mark : Char) : Option (List Char) → List Char
  | some cs => mark :: cs
  | none => []

/-- The written form. -/
def text (u : Url) : String :=
  (if u.scheme = "" then "" else u.scheme ++ ":") ++
    (if u.authority = "" then "" else "//" ++ u.authority) ++
    .ofList (u.path ++ marked '?' u.query ++ marked '#' u.fragment)

/-- Path and query, a missing path being the root. -/
def target (u : Url) : List Char :=
  (if u.path.isEmpty then ['/'] else u.path) ++ marked '?' u.query

end Url

end WorkspaceWatch
