/-
**Where a redirect leads.**

Redirects are not followed, but their target is looked at: a reply whose target is no URL is as
bad as no reply.  A target without a scheme of its own is read relative to the URL of the request;
one with a scheme and no host takes the host of the request.  The hosts of both are read and
compared, and one that leads elsewhere must fit into a header.

Main definitions:

* `WorkspaceWatch.Url.join`: a relative URL read against another one;
* `WorkspaceWatch.Url.redirect`: the target of a redirect.
-/

import WorkspaceWatch.Url.Parser

set_option autoImplicit false

namespace WorkspaceWatch

/-- Why a redirect leads nowhere: its target is no URL, or it cannot be brought together with the
request's URL. -/
inductive RedirectError where
  | malformed (error : UrlError)
  | unusable (error : UrlError)
deriving DecidableEq, Repr

namespace Url

/-- Whether a URL has both a scheme and a host. -/
def isAbsolute (u : Url) : Bool :=
  u.scheme != "" && u.host != ""

/-- Segments without the empty ones between the first and the last. -/
def withoutGaps (segments : List (List Char)) : List (List Char) :=
  segments.take 1 ++ (segments.drop 1).dropLast.filter (!·.isEmpty) ++
    (segments.drop 1).drop (segments.length - 2)

/-- One more segment behind those resolved so far: two dots take the last one back. -/
def resolveSegment (done : List (List Char)) (segment : List Char) : List (List Char) :=
  if segment = ['.', '.'] then done.dropLast
  else if segment = ['.'] then done
  else done ++ [segment]

/-- A path that is not empty read against another one.  What ends in dots is a directory. -/
def joinPath (base path : List Char) : List Char :=
  let before := match path with
    | '/' :: _ => []
    | _ =>
      let segments := splitAtMark '/' base
      if segments.getLast? = some [] then segments else segments.dropLast
  let segments := withoutGaps (before ++ splitAtMark '/' path)
  let isDots := segments.getLast? = some ['.'] ∨ segments.getLast? = some ['.', '.']
  let path := joinWithMark '/' (segments.foldl resolveSegment [] ++ if isDots then [[]] else [])
  if path.head? = some '/' then path else '/' :: path

/-- The raw parts of a relative URL read against those of another one. -/
def Parts.join (base p : Parts) : Parts :=
  if !p.scheme.isEmpty && p.scheme != base.scheme then p
  else if !p.authority.isEmpty then { p with scheme := base.scheme }
  else if p.path.isEmpty then
    { base with
      query := if (p.query.getD []).isEmpty then base.query else p.query
      fragment := p.fragment }
  else
    { base with path := joinPath base.path p.path, query := p.query, fragment := p.fragment }

/-- The written form of raw parts. -/
def Parts.text (p : Parts) : List Char :=
  (if p.scheme.isEmpty then [] else p.scheme ++ [':']) ++
    (if p.authority.isEmpty then [] else '/' :: '/' :: p.authority) ++
    p.path ++ marked '?' p.query ++ marked '#' p.fragment

/-- The written form of a relative URL read against another one. -/
def join (base u : Url) : String :=
  .ofList ((Parts.ofText base.text.toList).join (Parts.ofText u.text.toList)).text

/-- The port, one that a scheme of the web leaves out filled in. -/
def portOrDefault (u : Url) : Option Int :=
  match u.port with
  | some n => some n
  | none => if u.scheme = "http" then some 80 else if u.scheme = "https" then some 443 else none

/-- The target of a redirect, before it is compared with the request's URL. -/
def redirectTarget (request : Url) (location : String) : Except (Break RedirectError) Url := do
  let usable (u : Except UrlError Url) := u.mapError fun e => Break.failed (RedirectError.unusable e)
  let u ← (parse location).mapError fun e => Break.failed (.malformed e)
  let u ←
    if u.scheme = "" then pure u
    else
      let host ← u.readHost.mapError .escaped
      if host = "" then
        let host ← request.readHost.mapError .escaped
        usable (u.withHost host)
      else pure u
  let u ← if u.isAbsolute then pure u else usable (parse (join request u))
  match request.fragment with
  | some (c :: rest) =>
    if (u.fragment.getD []).isEmpty then usable (u.withFragment (c :: rest)) else pure u
  | _ => pure u

/-- The target of a redirect. -/
def redirect (request : Url) (location : String) : Except (Break RedirectError) Url := do
  let u ← redirectTarget request location
  let host ← u.readHost.mapError .escaped
  let requestHost ← request.readHost.mapError .escaped
  if u.scheme = request.scheme ∧ host = requestHost ∧ u.portOrDefault = request.portOrDefault then
    return u
  else
    match asciiFault? u.hostPort.toList with
    | some m => throw (.escaped m)
    | none => return u

end Url

end WorkspaceWatch
