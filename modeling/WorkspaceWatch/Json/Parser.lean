/-
**Reading JSON.**

Text is read in two steps: bytes must be UTF-8 and fall into tokens, and the tokens must form one
value.  Arrays and objects may be nested only to a limit, which counts the outermost but none that
is empty.

Main definitions:

* `WorkspaceWatch.Json.parse?`: the value of a text;
* `WorkspaceWatch.Json.decode?`: the value of the bytes of a text.
-/

import WorkspaceWatch.Json.Token

set_option autoImplicit false

namespace WorkspaceWatch

namespace Json

/-- How deep arrays and objects may be nested in text from the daemon. -/
def maxDepth : Nat := 200

mutual

/-- The value at the front of the tokens, with the tokens after it.  `depth` is how many more
levels may be opened; `fuel` exceeds the number of tokens. -/
def parseValue (fuel depth : Nat) (ts : List Token) : Option (Json × List Token) :=
  match fuel with
  | 0 => none
  | fuel + 1 =>
    match ts with
    | .text s :: rest => some (.text s, rest)
    | .atom v :: rest => some (v, rest)
    | .openArray :: rest =>
      match rest with
      | .closeArray :: rest => some (.array [], rest)
      | _ =>
        match depth with
        | 0 => none
        | depth + 1 =>
          (parseItems fuel depth [] rest).map fun (items, rest) => (.array items, rest)
    | .openObject :: rest =>
      match rest with
      | .closeObject :: rest => some (.object [], rest)
      | _ =>
        match depth with
        | 0 => none
        | depth + 1 =>
          (parseEntries fuel depth [] rest).map fun (entries, rest) => (.object entries, rest)
    | _ => none

/-- The items of an array up to its closing bracket; `done` holds those read so far, the last one
first. -/
def parseItems (fuel depth : Nat) (done : List Json) (ts : List Token) :
    Option (List Json × List Token) :=
  match fuel with
  | 0 => none
  | fuel + 1 =>
    match parseValue fuel depth ts with
    | some (v, .comma :: rest) => parseItems fuel depth (v :: done) rest
    | some (v, .closeArray :: rest) => some ((v :: done).reverse, rest)
    | _ => none

/-- The entries of an object up to its closing brace; `done` holds those read so far, the last one
first. -/
def parseEntries (fuel depth : Nat) (done : List (String × Json)) (ts : List Token) :
    Option (List (String × Json) × List Token) :=
  match fuel with
  | 0 => none
  | fuel + 1 =>
    match ts with
    | .text k :: .colon :: rest =>
      match parseValue fuel depth rest with
      | some (v, .comma :: rest) => parseEntries fuel depth ((k, v) :: done) rest
      | some (v, .closeObject :: rest) => some (((k, v) :: done).reverse, rest)
      | _ => none
    | _ => none

end

/-- The one value that a row of tokens forms. -/
def ofTokens? (depth : Nat) (ts : List Token) : Option Json :=
  match parseValue (2 * ts.length + 1) depth ts with
  | some (v, []) => some v
  | _ => none

/-- The value of a text whose nesting stays within a limit. -/
def parseWithin? (depth : Nat) (s : String) : Option Json :=
  (tokens? s.toList).bind (ofTokens? depth)

/-- The value of a text. -/
def parse? (s : String) : Option Json :=
  parseWithin? maxDepth s

/-- The value of the bytes of a text in UTF-8. -/
def decode? (bytes : ByteArray) : Option Json :=
  (String.fromUTF8? bytes).bind parse?

end Json

end WorkspaceWatch
