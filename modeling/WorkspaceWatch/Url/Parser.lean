/-
**Reading URLs.**

A text is cut into its parts at the first marks, in the order scheme, authority, path, query,
fragment; the parts are then checked and brought into the form in which they are sent.  The same
check serves a URL that is put together from parts.

Main definitions:

* `WorkspaceWatch.Url.Parts`: the raw parts of a text;
* `WorkspaceWatch.Url.ofParts`: a URL from raw parts;
* `WorkspaceWatch.Url.parse`: a URL from a text;
* `WorkspaceWatch.Url.normalizePath`: a path without dot segments.
-/

import WorkspaceWatch.Url.Host

set_option autoImplicit false

namespace WorkspaceWatch

namespace Url

/-- The raw parts of a text. -/
structure Parts where
  /-- The scheme as it is written. -/
  scheme : List Char
  /-- User information, host and port as they are written. -/
  authority : List Char
  /-- The path as it is written. -/
  path : List Char
  /-- The query as it is written. -/
  query : Option (List Char)
  /-- The fragment as it is written. -/
  fragment : Option (List Char)

/-- The characters before the first one of a class, and the rest. -/
def cutAt (p : Char → Bool) (cs : List Char) : List Char × List Char :=
  (cs.takeWhile fun c => !p c, cs.dropWhile fun c => !p c)

/-- Whether a row of characters may be a scheme; it may be empty. -/
def isScheme : List Char → Bool
  | [] => true
  | c :: rest => c.isAlpha && rest.all fun c => c.isAlphanum || c == '+' || c == '.' || c == '-'

/-- The scheme at the front, with what follows its colon. -/
def cutScheme (cs : List Char) : List Char × List Char :=
  match cutAt (· == ':') cs with
  | (scheme, ':' :: rest) => if isScheme scheme then (scheme, rest) else ([], cs)
  | _ => ([], cs)

/-- The authority at the front, behind two slashes, with what follows. -/
def cutAuthority : List Char → List Char × List Char
  | '/' :: '/' :: rest => cutAt (fun c => c == '/' || c == '?' || c == '#') rest
  | cs => ([], cs)

/-- The raw parts of a text. -/
def Parts.ofText (cs : List Char) : Parts :=
  let (scheme, cs) := cutScheme cs
  let (authority, cs) := cutAuthority cs
  let (path, cs) := cutAt (fun c => c == '?' || c == '#') cs
  let (query, cs) := match cs with
    | '?' :: rest =>
      let (query, cs) := cutAt (· == '#') rest
      (some query, cs)
    | cs => (none, cs)
  { scheme, authority, path, query, fragment := match cs with
    | '#' :: rest => some rest
    | _ => none }

/-- User information, host and port of an authority.  The host begins after the last at sign; an
address in brackets ends at the last bracket. -/
def cutHost (authority : List Char) : List Char × List Char × List Char :=
  let reversed := authority.reverse
  let (userInfo, rest) :=
    if authority.contains '@' then
      ((reversed.dropWhile (· != '@')).drop 1 |>.reverse, (reversed.takeWhile (· != '@')).reverse)
    else ([], authority)
  let (host, rest) :=
    if rest.head? == some '[' && rest.contains ']' then
      let reversed := rest.reverse
      ((reversed.dropWhile (· != ']')).reverse, (reversed.takeWhile (· != ']')).reverse)
    else cutAt (fun c => c == ':' || c == '@') rest
  (userInfo, host, match rest with
    | ':' :: port => port
    | port => port)

/-- A path without its dot segments: a single dot goes, two dots take the segment before them along,
unless that is the empty one before the first slash. -/
def removeDots (done : List (List Char)) : List (List Char) → List (List Char)
  | [] => done.reverse
  | segment :: rest =>
    if segment = ['.'] then removeDots done rest
    else if segment = ['.', '.'] then
      removeDots (if done = [[]] then done else done.drop 1) rest
    else removeDots (segment :: done) rest

/-- A path without dot segments. -/
def normalizePath (path : List Char) : List Char :=
  joinWithMark '/' (removeDots [] (splitAtMark '/' path))

/-- The most characters of a URL, and of each of its parts. -/
def maxLength : Nat := 65536

/-- What is wrong with where a path begins. -/
def pathFault? (hasScheme hasAuthority : Bool) (path : List Char) : Option UrlError :=
  if hasAuthority then
    match path with
    | [] => none
    | c :: _ => if c = '/' then none else some .pathWithoutSlash
  else if hasScheme then none
  else match path with
    | '/' :: '/' :: _ => some .pathWithSlashes
    | ':' :: _ => some .pathWithColon
    | _ => none

/-- A URL from raw parts, its host given apart. -/
def ofPartsHost (p : Parts) (userInfo host port : List Char) : Except UrlError Url := do
  let userInfo := percentEncode keepsUserInfo userInfo
  let host ← hostOf host
  let port ← portOf (.ofList p.scheme) port
  let hasScheme := !p.scheme.isEmpty
  let hasAuthority := !userInfo.isEmpty || host != "" || port.isSome
  match pathFault? hasScheme hasAuthority p.path with
  | some e => throw e
  | none => pure ()
  let path := if hasScheme || hasAuthority then normalizePath p.path else p.path
  return {
    scheme := .ofList (p.scheme.map Char.toLower)
    userInfo := .ofList userInfo
    host, port
    path := percentEncode keepsPath path
    query := p.query.map (percentEncode keepsQuery)
    fragment := p.fragment.map (percentEncode keepsFragment) }

/-- A URL from raw parts. -/
def ofParts (p : Parts) : Except UrlError Url :=
  let (userInfo, host, port) := cutHost p.authority
  ofPartsHost p userInfo host port

/-- The first control character of a text, with its place. -/
def firstControl? (position : Nat) : List Char → Option (Char × Nat)
  | [] => none
  | c :: rest =>
    if c.toNat < 0x20 ∨ c.toNat = 0x7f then some (c, position)
    else firstControl? (position + 1) rest

/-- A URL from a text. -/
def parse (s : String) : Except UrlError Url :=
  if s.length > maxLength then .error .tooLong
  else
    match firstControl? 0 s.toList with
    | some (c, position) => .error (.control c position)
    | none => ofParts (Parts.ofText s.toList)

/-! ### URLs with parts replaced -/

/-- The raw parts of a URL. -/
def parts (u : Url) : Parts :=
  { scheme := u.scheme.toList, authority := u.authority.toList, path := u.path, query := u.query,
    fragment := u.fragment }

/-- The first part that is too long. -/
def Parts.tooLong? (p : Parts) : Option UrlPart :=
  if p.scheme.length > maxLength then some .scheme
  else if p.authority.length > maxLength then some .authority
  else if p.path.length > maxLength then some .path
  else if (p.query.getD []).length > maxLength then some .query
  else if (p.fragment.getD []).length > maxLength then some .fragment
  else none

/-- A URL from the parts of another one, some of them replaced. -/
def rebuild (p : Parts) : Except UrlError Url :=
  match p.tooLong? with
  | some part => .error (.partTooLong part)
  | none => ofParts p

/-- A text as path and query: the query begins at the first question mark. -/
def cutTarget (target : List Char) : List Char × Option (List Char) :=
  match cutAt (· == '?') target with
  | (path, '?' :: query) => (path, some query)
  | (path, _) => (path, none)

/-- The URL with another path and query. -/
def withTarget (u : Url) (target : List Char) : Except UrlError Url :=
  let (path, query) := cutTarget target
  rebuild { u.parts with path, query }

/-- The URL with another query. -/
def withQuery (u : Url) (query : Option (List Char)) : Except UrlError Url :=
  rebuild { u.parts with query }

/-- The URL with another fragment. -/
def withFragment (u : Url) (fragment : List Char) : Except UrlError Url :=
  rebuild { u.parts with fragment := some fragment }

/-- The URL with another host, given in the form in which hosts are kept. -/
def withHost (u : Url) (host : String) : Except UrlError Url :=
  match u.parts.tooLong? with
  | some part => .error (.partTooLong part)
  | none =>
    let cs := host.toList
    if cs.length > maxLength then .error (.partTooLong .host)
    else
      let bracketed := if cs.contains ':' then '[' :: cs ++ [']'] else cs
      let (userInfo, _, port) := cutHost u.authority.toList
      ofPartsHost u.parts userInfo bracketed port

end Url

end WorkspaceWatch
