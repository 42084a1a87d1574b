/-
**Host names in all scripts.**

A host name is a row of labels with dots between them, perhaps with one at the end.  It has an ASCII
form, in which it is sent, and a form in which it is read.

Main definitions:

* `WorkspaceWatch.Idna.toAscii`: the ASCII form of a name;
* `WorkspaceWatch.Idna.toUnicode`: the name that an ASCII text stands for.
-/

import WorkspaceWatch.Idna.Label
import WorkspaceWatch.Text.Segments

set_option autoImplicit false

namespace WorkspaceWatch

namespace Idna

/-- The dots of some scripts as the plain one. -/
def plainDot (c : Char) : Char :=
  if c = '。' ∨ c = '．' ∨ c = '｡' then '.' else c

/-- A name with each of its labels brought into another form. -/
def overLabels (form : List Char → Except NameError (List Char)) (cs : List Char) :
    Except NameError (List Char) :=
  if cs.length > maxNameLength then .error .nameTooLong
  else
    let labels := splitAtMark '.' (cs.map plainDot)
    if labels = [[]] then .error .emptyName
    else if labels.getLast? = some [] then do
      let labels ← labels.dropLast.mapM form
      return joinWithMark '.' labels ++ ['.']
    else do
      let labels ← labels.mapM form
      return joinWithMark '.' labels

/-- The ASCII form of a name.  A dot at its end does not count for its length. -/
def toAscii (cs : List Char) : Except NameError (List Char) := do
  let name ← overLabels labelToAscii cs
  if name.length > (if name.getLast? = some '.' then maxNameLength else maxNameLength - 1) then
    .error .nameTooLong
  else return name

/-- The name that an ASCII text stands for. -/
def toUnicode (cs : List Char) : Except NameError (List Char) :=
  overLabels (fun label => (labelToUnicode label).map (List.map Char.ofNat)) cs

end Idna

end WorkspaceWatch
