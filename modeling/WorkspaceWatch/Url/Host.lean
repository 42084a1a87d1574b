/-
**Hosts.**

A host is a name or an address.  What looks like an address, four rows of digits or a text in
brackets, must be one; a name is written in small letters with its special characters escaped, one
that is not ASCII in its ASCII form.  A name in ASCII form is read in the other form, which fails
if it is none.

Main definitions:

* `WorkspaceWatch.Url.isAddress4`, `WorkspaceWatch.Url.isAddress6`: the two kinds of address;
* `WorkspaceWatch.Url.hostOf`: a host in the form in which it is sent;
* `WorkspaceWatch.Url.readHost`, `WorkspaceWatch.Url.headerFault?`: a host as it is read, and why it
  cannot be named in a request;
* `WorkspaceWatch.Url.portOf`: the port that a text stands for.
-/

import WorkspaceWatch.Idna.Name
import WorkspaceWatch.Number.Reading
import WorkspaceWatch.Text.Casing
import WorkspaceWatch.Url.Basic

set_option autoImplicit false

namespace WorkspaceWatch

namespace Url

/-- One number of an address of four. -/
def isOctet (cs : List Char) : Bool :=
  !cs.isEmpty && cs.all Char.isDigit && cs.length ≤ 3 && (cs.length == 1 || cs.head? != some '0') &&
    digitRowValue cs ≤ 255

/-- Four numbers with points between them. -/
def isAddress4 (cs : List Char) : Bool :=
  let pieces := splitAtMark '.' cs
  pieces.length == 4 && pieces.all isOctet

/-- Whether a host is four rows of digits with points between them. -/
def looksLikeAddress4 (cs : List Char) : Bool :=
  let pieces := splitAtMark '.' cs
  pieces.length == 4 && pieces.all fun piece => !piece.isEmpty && piece.all Char.isDigit

/-- One group of an address in brackets. -/
def isGroup (cs : List Char) : Bool :=
  !cs.isEmpty && cs.length ≤ 4 && cs.all fun c => (hexDigitValue? c).isSome

/-- The pieces of an address in brackets, an address of four numbers at the end counting as two
groups. -/
def groupsOf? (cs : List Char) : Option (List (List Char)) :=
  let pieces := splitAtMark ':' cs
  if pieces.length < 3 then none
  else
    match pieces.getLast? with
    | some last =>
      if last.contains '.' then
        if isAddress4 last then some (pieces.dropLast ++ [['0'], ['0']]) else none
      else some pieces
    | none => none

/-- Whether pieces form the eight groups of an address; one gap between them, and only one, may
stand for groups of zeros. -/
def areGroups (pieces : List (List Char)) : Bool :=
  let inner := (pieces.drop 1).dropLast
  if pieces.length > 9 then false
  else
    match inner.findIdx? List.isEmpty with
    | none => pieces.length == 8 && pieces.all isGroup
    | some gap =>
      let before := pieces.take (gap + 1)
      let after := pieces.drop (gap + 2)
      let before := if before = [[]] then [] else before
      let after := if after = [[]] then [] else after
      (inner.filter List.isEmpty).length == 1 && before.all isGroup && after.all isGroup &&
        before.length + after.length < 8

/-- An address of eight groups, with a zone behind a percent sign if there is one. -/
def isAddress6 (cs : List Char) : Bool :=
  let address := cs.takeWhile (· != '%')
  let zoneFits := match cs.dropWhile (· != '%') with
    | [] => true
    | _ :: zone => !zone.isEmpty && !zone.contains '%'
  zoneFits && match groupsOf? address with
    | some pieces => areGroups pieces
    | none => false

/-- Whether a text stands in brackets. -/
def isBracketed (cs : List Char) : Bool :=
  cs.length ≥ 2 && cs.head? == some '[' && cs.getLast? == some ']'

/-- Whether a character is ASCII. -/
def isAscii (c : Char) : Bool := c.toNat < 0x80

/-- A host in the form in which it is sent. -/
def hostOf (cs : List Char) : Except UrlError String :=
  if cs.isEmpty then .ok ""
  else if looksLikeAddress4 cs then
    if isAddress4 cs then .ok (.ofList cs) else .error (.address4 (.ofList cs))
  else if isBracketed cs then
    let address := (cs.drop 1).dropLast
    if isAddress6 address then .ok (.ofList address) else .error (.address6 (.ofList cs))
  else if cs.all isAscii then .ok (.ofList (percentEncode keepsHost (cs.map Char.toLower)))
  else
    match Idna.toAscii (lowerCase (.ofList cs)).toList with
    | .ok name => .ok (.ofList name)
    | .error _ => .error (.hostName (.ofList cs))

/-- The host as it is read: a name in ASCII form in the other one. -/
def readHost (u : Url) : Except Mishap String :=
  if Idna.asciiPrefix.isPrefixOf u.host.toList then
    match Idna.toUnicode u.host.toList with
    | .ok name => .ok (.ofList name)
    | .error e => .error ⟨e.kind, e.message⟩
  else .ok u.host

/-- What the message about characters outside ASCII says, the first one of them being `c`. -/
def notAsciiText (c : Char) (position count : Nat) : String :=
  "'ascii' codec can't encode " ++
    (if count = 1 then
      "character '" ++ .ofList (codePointEscape c) ++ "' in position " ++ toString position
    else
      "characters in position " ++ toString position ++ "-" ++ toString (position + count - 1)) ++
    ": ordinal not in range(128)"

/-- Why a text cannot be sent as a header: it is not ASCII. -/
def asciiFault? (cs : List Char) : Option Mishap :=
  match cs.dropWhile isAscii with
  | [] => none
  | c :: rest =>
    let position := (cs.takeWhile isAscii).length
    let count := (rest.takeWhile (!isAscii ·)).length + 1
    some ⟨"UnicodeEncodeError", notAsciiText c position count⟩

/-- Why a URL's host cannot be named in a request. -/
def headerFault? (u : Url) : Option Mishap :=
  if u.host = "" then none
  else
    match u.readHost with
    | .error m => some m
    | .ok _ => asciiFault? u.hostPort.toList

/-- The port of a scheme that names none. -/
def defaultPort? : String → Option Int
  | "ftp" => some 21
  | "http" => some 80
  | "https" => some 443
  | "ws" => some 80
  | "wss" => some 443
  | _ => none

/-- The port a text stands for, unless it is the scheme's own. -/
def portOf (scheme : String) (cs : List Char) : Except UrlError (Option Int) :=
  if cs.isEmpty then .ok none
  else
    match wholeNumber? (.ofList cs) with
    | none => .error (.port (.ofList cs))
    | some n => .ok (if defaultPort? scheme = some n then none else some n)

end Url

end WorkspaceWatch
