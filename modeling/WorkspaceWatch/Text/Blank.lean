/-
**Blank characters.**

Two sets of blanks are in use.  Text and settings files count the four separator controls as
blank; numbers are trimmed of Unicode white space, which leaves them out.

Main definitions:

* `WorkspaceWatch.isBlank`, `WorkspaceWatch.isWhiteSpace`: the two classes;
* `WorkspaceWatch.trim`: a text without the characters of a class at its ends.
-/

set_option autoImplicit false

namespace WorkspaceWatch

/-- Unicode white space. -/
def isWhiteSpace (c : Char) : Bool :=
  let n := c.toNat
  (9 ≤ n && n ≤ 13) || n == 0x20 || n == 0x85 || n == 0xa0 || n == 0x1680 ||
    (0x2000 ≤ n && n ≤ 0x200a) || n == 0x2028 || n == 0x2029 || n == 0x202f || n == 0x205f ||
    n == 0x3000

/-- White space and the four separator controls. -/
def isBlank (c : Char) : Bool :=
  isWhiteSpace c || (0x1c ≤ c.toNat && c.toNat ≤ 0x1f)

/-- The characters without those of a class at the end. -/
def trimEnd (p : Char → Bool) (cs : List Char) : List Char :=
  (cs.reverse.dropWhile p).reverse

/-- The characters without those of a class at either end. -/
def trim (p : Char → Bool) (cs : List Char) : List Char :=
  trimEnd p (cs.dropWhile p)

end WorkspaceWatch
