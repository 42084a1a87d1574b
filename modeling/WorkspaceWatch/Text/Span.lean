/-
**Sets of characters as spans of code points.**

The classes of characters this library needs beyond the basic Latin block (printable characters,
letters with case, decimal digits) are data of the Unicode standard.  They are kept as lists of
spans, each a first and a last code point.

Main definitions:

* `WorkspaceWatch.Spans`: a set of characters given by spans;
* `WorkspaceWatch.Spans.covers`, `WorkspaceWatch.Spans.holds`: membership of a code point and of a
  character.
-/

set_option autoImplicit false

namespace WorkspaceWatch

/-- A set of characters, as spans of code points with both ends included. -/
abbrev Spans := List (Nat × Nat)

namespace Spans

/-- Whether a code point lies in one of the spans. -/
def covers (spans : Spans) (n : Nat) : Bool :=
  spans.any fun (first, last) => first ≤ n && n ≤ last

/-- Whether a character lies in one of the spans. -/
def holds (spans : Spans) (c : Char) : Bool :=
  spans.covers c.toNat

end Spans

end WorkspaceWatch
