/-
**Directories as the daemon knows them.**

The daemon compares directories as texts, so every path is brought into one form: absolute, without
empty and dot segments.  Only the text is looked at, never the file system.

Main definitions:

* `WorkspaceWatch.Path.absolute`: a path in that form, read from a current directory;
* `WorkspaceWatch.Path.baseName`: the last segment of a path.
-/

import WorkspaceWatch.Text.Segments

set_option autoImplicit false

namespace WorkspaceWatch

namespace Path

/-- How many slashes a path keeps in front: exactly two stay two, more become one. -/
def rootSlashes : List Char → Nat
  | '/' :: '/' :: '/' :: _ => 1
  | '/' :: '/' :: _ => 2
  | '/' :: _ => 1
  | _ => 0

/-- The segments that stay, `kept` holding those so far, the last one first: two dots take the
segment before them along, and stand only at the front of a relative path. -/
def keepSegments (rooted : Bool) (kept : List (List Char)) : List (List Char) → List (List Char)
  | [] => kept.reverse
  | segment :: rest =>
    if segment = [] ∨ segment = ['.'] then keepSegments rooted kept rest
    else if segment = ['.', '.'] then
      match kept with
      | [] => keepSegments rooted (if rooted then [] else [segment]) rest
      | last :: before =>
        keepSegments rooted (if last = ['.', '.'] then segment :: kept else before) rest
    else keepSegments rooted (segment :: kept) rest

/-- A path without empty and dot segments; nothing becomes a dot. -/
def normalize (cs : List Char) : List Char :=
  let slashes := rootSlashes cs
  let kept := keepSegments (0 < slashes) [] (splitAtMark '/' cs)
  let path := List.replicate slashes '/' ++ joinWithMark '/' kept
  if path.isEmpty then ['.'] else path

/-- A path read from a directory. -/
def within (directory path : List Char) : List Char :=
  if path.head? == some '/' then path
  else if directory.isEmpty || directory.getLast? == some '/' then directory ++ path
  else directory ++ '/' :: path

/-- A path as the daemon knows it, read from a current directory. -/
def absolute (directory path : String) : String :=
  .ofList (normalize (within directory.toList path.toList))

/-- The last segment of a path. -/
def baseName (path : String) : String :=
  .ofList (path.toList.reverse.takeWhile (· != '/')).reverse

end Path

end WorkspaceWatch
