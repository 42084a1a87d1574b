/-
**Compressed data.**

Compressed data is a row of bits: blocks, each stored as it is or written in a code of its own, in
which a symbol is a byte or a length, and a length is followed by the distance to what is copied.
Reading stops where the bits run out or where they mean nothing; what was read before is kept.

Main definitions:

* `WorkspaceWatch.Inflate.Stop`, `WorkspaceWatch.Inflate.Reader`: why reading stops, and a step of
  it;
* `WorkspaceWatch.Inflate.Code`: a code given by the lengths of its words;
* `WorkspaceWatch.Inflate.blocks`: all blocks of a row of bits.
-/

set_option autoImplicit false

namespace WorkspaceWatch

namespace Inflate

/-- Why reading stops: the bits have run out, or they mean nothing. -/
inductive Stop where
  | short
  | bad (reason : String)
deriving DecidableEq, Repr

/-- What is left to read, and what was read. -/
structure Progress where
  /-- The bits that are left. -/
  bits : List Bool
  /-- The bytes read so far. -/
  out : Array UInt8 := #[]

/-- A step of reading.  Where it stops, the progress made so far is kept. -/
abbrev Reader (α : Type) := ExceptT Stop (StateM Progress) α

/-- The bits of bytes, the lowest one of each first. -/
def bitsOf (bytes : List UInt8) : List Bool :=
  bytes.flatMap fun b => (List.range 8).map b.toNat.testBit

/-- Some bits as a number, the lowest one first. -/
def take (n : Nat) : Reader Nat := do
  let p ← get
  let taken := p.bits.take n
  if taken.length < n then throw .short
  set { p with bits := p.bits.drop n }
  return taken.foldr (fun b value => 2 * value + b.toNat) 0

/-- The bits up to the next byte passed over. -/
def align : Reader Unit :=
  modify fun p => { p with bits := p.bits.drop (p.bits.length % 8) }

/-- One more byte read. -/
def push (b : UInt8) : Reader Unit :=
  modify fun p => { p with out := p.out.push b }

/-- Bytes read again, from a distance back. -/
def copy (distance : Nat) : Nat → Reader Unit
  | 0 => return
  | n + 1 => do
    let p ← get
    push (p.out.getD (p.out.size - distance) 0)
    copy distance n

/-! ### Codes -/

/-- A code: how many words there are of each length, from one bit on, and the symbols in the order
of their words. -/
structure Code where
  /-- The numbers of words. -/
  counts : List Nat
  /-- The symbols. -/
  symbols : List Nat

namespace Code

/-- The code in which each symbol has a word of a given length; zero stands for no word. -/
def ofLengths (lengths : List Nat) : Code :=
  let sizes := List.range' 1 (max 1 (lengths.foldl max 0))
  { counts := sizes.map fun size => lengths.count size
    symbols := sizes.flatMap fun size =>
      lengths.zipIdx.filterMap fun (l, symbol) => if l = size then some symbol else none }

/-- How many words of the greatest length are still free; none if there are too many words. -/
def room? (counts : List Nat) : Option Nat :=
  counts.foldlM (fun room count => if count ≤ 2 * room then some (2 * room - count) else none) 1

/-- Whether a code can be read: all words are in use, or there are none, or, if gaps are allowed,
there is one of a single bit. -/
def isUsable (gaps : Bool) (code : Code) : Bool :=
  code.symbols.isEmpty || match room? code.counts with
    | none => false
    | some room => room == 0 || (gaps && code.counts == [1])

/-- The symbol whose word comes next; `word` is the number of the word begun among those of the
next length, and `symbols` are those with words of that length or more. -/
def symbolFrom (reason : String) (word : Nat) (symbols : List Nat) : List Nat → Reader Nat
  | [] => throw (.bad reason)
  | count :: counts => do
    let word := word + (← take 1)
    if word < count then return symbols.getD word 0
    else symbolFrom reason (2 * (word - count)) (symbols.drop count) counts

/-- The symbol whose word comes next. -/
def symbol (reason : String) (code : Code) : Reader Nat :=
  symbolFrom reason 0 code.symbols code.counts

end Code

/-! ### Blocks in a code -/

/-- What the symbols for lengths stand for: a least length, and how many bits are added to it. -/
def lengths : List (Nat × Nat) := [
  (3, 0), (4, 0), (5, 0), (6, 0), (7, 0), (8, 0), (9, 0), (10, 0), (11, 1), (13, 1), (15, 1),
  (17, 1), (19, 2), (23, 2), (27, 2), (31, 2), (35, 3), (43, 3), (51, 3), (59, 3), (67, 4),
  (83, 4), (99, 4), (115, 4), (131, 5), (163, 5), (195, 5), (227, 5), (258, 0)
]

/-- What the symbols for distances stand for. -/
def distances : List (Nat × Nat) := [
  (1, 0), (2, 0), (3, 0), (4, 0), (5, 1), (7, 1), (9, 2), (13, 2), (17, 3), (25, 3), (33, 4),
  (49, 4), (65, 5), (97, 5), (129, 6), (193, 6), (257, 7), (385, 7), (513, 8), (769, 8),
  (1025, 9), (1537, 9), (2049, 10), (3073, 10), (4097, 11), (6145, 11), (8193, 12), (12289, 12),
  (16385, 13), (24577, 13)
]

/-- The number that a symbol and the bits after it stand for. -/
def number (reason : String) (table : List (Nat × Nat)) (symbol : Nat) : Reader Nat :=
  match table[symbol]? with
  | some (least, more) => return least + (← take more)
  | none => throw (.bad reason)

/-- The symbols of a block, up to its end.  Every symbol takes at least one bit, and a step of the
fuel. -/
def symbols (literals distanceCode : Code) : Nat → Reader Unit
  | 0 => throw .short
  | fuel + 1 => do
    let symbol ← literals.symbol "invalid literal/length code"
    if symbol < 256 then
      push symbol.toUInt8
      symbols literals distanceCode fuel
    else if 256 < symbol then
      let length ← number "invalid literal/length code" lengths (symbol - 257)
      let symbol ← distanceCode.symbol "invalid distance code"
      let distance ← number "invalid distance code" distances symbol
      if (← get).out.size < distance then throw (.bad "invalid distance too far back")
      copy distance length
      symbols literals distanceCode fuel

/-- The code of blocks that bring none of their own. -/
def fixedLiterals : Code :=
  .ofLengths (List.replicate 144 8 ++ List.replicate 112 9 ++ List.replicate 24 7 ++
    List.replicate 8 8)

/-- The code for distances of such blocks. -/
def fixedDistances : Code :=
  .ofLengths (List.replicate 32 5)

/-- The order in which the lengths of the words for lengths are given. -/
def lengthOrder : List Nat :=
  [16, 17, 18, 0, 8, 7, 9, 6, 10, 5, 11, 4, 12, 3, 13, 2, 14, 1, 15]

/-- The lengths of words, written in a code; `done` are those read so far, the last one first.
Every symbol stands for at least one length, and takes a step of the fuel. -/
def wordLengths (code : Code) (count : Nat) (done : List Nat) : Nat → Reader (List Nat)
  | 0 => return done.reverse
  | fuel + 1 => do
    if count ≤ done.length then return done.reverse
    let symbol ← code.symbol "invalid bit length repeat"
    let repeated (length : Nat) (times : Nat) : Reader (List Nat) :=
      if count < done.length + times then throw (.bad "invalid bit length repeat")
      else wordLengths code count (List.replicate times length ++ done) fuel
    match symbol with
    | 16 =>
      let more ← take 2
      match done with
      | [] => throw (.bad "invalid bit length repeat")
      | last :: _ => repeated last (3 + more)
    | 17 => repeated 0 (3 + (← take 3))
    | 18 => repeated 0 (11 + (← take 7))
    | length => repeated length 1

/-- The codes that a block brings. -/
def ownCodes : Reader (Code × Code) := do
  let literalCount := 257 + (← take 5)
  let distanceCount := 1 + (← take 5)
  let lengthCount := 4 + (← take 4)
  if 286 < literalCount ∨ 30 < distanceCount then
    throw (.bad "too many length or distance symbols")
  let given ← (List.range lengthCount).mapM fun _ => take 3
  let named := lengthOrder.zip given
  let lengthCode := Code.ofLengths ((List.range 19).map fun s => (named.lookup s).getD 0)
  if !lengthCode.isUsable false then throw (.bad "invalid code lengths set")
  -- without any words, every bit stands for the length zero
  let lengthCode := if lengthCode.symbols.isEmpty then ⟨[2], [0, 0]⟩ else lengthCode
  let count := literalCount + distanceCount
  let found ← wordLengths lengthCode count [] count
  if found.getD 256 0 = 0 then throw (.bad "invalid code -- missing end-of-block")
  let literals := Code.ofLengths (found.take literalCount)
  if !literals.isUsable true then throw (.bad "invalid literal/lengths set")
  let distanceCode := Code.ofLengths (found.drop literalCount)
  if !distanceCode.isUsable true then throw (.bad "invalid distances set")
  return (literals, distanceCode)

/-! ### All blocks -/

/-- Bytes read as they are. -/
def stored : Nat → Reader Unit
  | 0 => return
  | n + 1 => do
    push (← take 8).toUInt8
    stored n

/-- Blocks up to the last one.  Every block takes at least three bits, and a step of the fuel. -/
def blocks : Nat → Reader Unit
  | 0 => throw .short
  | fuel + 1 => do
    let header ← take 3
    let left := (← get).bits.length
    match header / 2 with
    | 0 =>
      align
      let sizes ← take 32
      let size := sizes % 65536
      if sizes / 65536 + size ≠ 65535 then throw (.bad "invalid stored block lengths")
      stored size
    | 1 => symbols fixedLiterals fixedDistances left
    | 2 =>
      let (literals, distanceCode) ← ownCodes
      symbols literals distanceCode left
    | _ => throw (.bad "invalid block type")
    if header % 2 = 0 then blocks fuel

end Inflate

end WorkspaceWatch
