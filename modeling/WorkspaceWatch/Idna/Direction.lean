/-
**The direction of a label.**

Labels in scripts that are written from right to left obey rules of their own, so that a name keeps
its order when it is shown: what directions occur in one label, how it begins and how it ends.

Main definitions:

* `WorkspaceWatch.Idna.Direction`: how a code point runs;
* `WorkspaceWatch.Idna.DirectionError`: why a label cannot be shown;
* `WorkspaceWatch.Idna.directionFault?`: the first fault of a label.
-/

import WorkspaceWatch.Idna.Repertoire

set_option autoImplicit false

namespace WorkspaceWatch

namespace Idna

/-- How a code point runs. -/
inductive Direction where
  | leftToRight
  | rightToLeft
  | arabic
  | arabicNumber
  | number
  | neutral
  | mark
  | unknown
deriving DecidableEq, Repr

namespace Direction

/-- The permitted code points that do not run from left to right. -/
def table : List (Nat × Nat × Direction) := [
  (0x2d, 0x2d, .neutral), (0x30, 0x39, .number), (0xb7, 0xb7, .neutral), (0x2b9, 0x2ba, .neutral),
  (0x2c6, 0x2cf, .neutral), (0x2ec, 0x2ec, .neutral), (0x300, 0x36f, .mark),
  (0x375, 0x375, .neutral), (0x483, 0x487, .mark), (0x591, 0x5c7, .mark),
  (0x5d0, 0x5f4, .rightToLeft), (0x610, 0x61a, .mark), (0x620, 0x64a, .arabic),
  (0x64b, 0x65f, .mark), (0x660, 0x669, .arabicNumber), (0x66e, 0x66f, .arabic),
  (0x670, 0x670, .mark), (0x671, 0x6d5, .arabic), (0x6d6, 0x6e4, .mark), (0x6e5, 0x6e6, .arabic),
  (0x6e7, 0x6ed, .mark), (0x6ee, 0x6ef, .arabic), (0x6f0, 0x6f9, .number), (0x6fa, 0x710, .arabic),
  (0x711, 0x711, .mark), (0x712, 0x72f, .arabic), (0x730, 0x74a, .mark), (0x74d, 0x7a5, .arabic),
  (0x7a6, 0x7b0, .mark), (0x7b1, 0x7b1, .arabic), (0x7c0, 0x7ea, .rightToLeft),
  (0x7eb, 0x7f3, .mark), (0x7f4, 0x7f5, .rightToLeft), (0x7fd, 0x7fd, .mark),
  (0x800, 0x815, .rightToLeft), (0x816, 0x819, .mark), (0x81a, 0x81a, .rightToLeft),
  (0x81b, 0x823, .mark), (0x824, 0x824, .rightToLeft), (0x825, 0x827, .mark),
  (0x828, 0x828, .rightToLeft), (0x829, 0x82d, .mark), (0x840, 0x858, .rightToLeft),
  (0x859, 0x85b, .mark), (0x860, 0x88e, .arabic), (0x898, 0x89f, .mark), (0x8a0, 0x8c9, .arabic),
  (0x8ca, 0x902, .mark), (0x93a, 0x93a, .mark), (0x93c, 0x93c, .mark), (0x941, 0x948, .mark),
  (0x94d, 0x94d, .mark), (0x951, 0x957, .mark), (0x962, 0x963, .mark), (0x981, 0x981, .mark),
  (0x9bc, 0x9bc, .mark), (0x9c1, 0x9c4, .mark), (0x9cd, 0x9cd, .mark), (0x9e2, 0x9e3, .mark),
  (0x9fe, 0xa02, .mark), (0xa3c, 0xa3c, .mark), (0xa41, 0xa51, .mark), (0xa70, 0xa71, .mark),
  (0xa75, 0xa82, .mark), (0xabc, 0xabc, .mark), (0xac1, 0xac8, .mark), (0xacd, 0xacd, .mark),
  (0xae2, 0xae3, .mark), (0xafa, 0xb01, .mark), (0xb3c, 0xb3c, .mark), (0xb3f, 0xb3f, .mark),
  (0xb41, 0xb44, .mark), (0xb4d, 0xb56, .mark), (0xb62, 0xb63, .mark), (0xb82, 0xb82, .mark),
  (0xbc0, 0xbc0, .mark), (0xbcd, 0xbcd, .mark), (0xc00, 0xc00, .mark), (0xc04, 0xc04, .mark),
  (0xc3c, 0xc3c, .mark), (0xc3e, 0xc40, .mark), (0xc46, 0xc56, .mark), (0xc62, 0xc63, .mark),
  (0xc81, 0xc81, .mark), (0xcbc, 0xcbc, .mark), (0xccc, 0xccd, .mark), (0xce2, 0xce3, .mark),
  (0xd00, 0xd01, .mark), (0xd3b, 0xd3c, .mark), (0xd41, 0xd44, .mark), (0xd4d, 0xd4d, .mark),
  (0xd62, 0xd63, .mark), (0xd81, 0xd81, .mark), (0xdca, 0xdca, .mark), (0xdd2, 0xdd6, .mark),
  (0xe31, 0xe31, .mark), (0xe34, 0xe3a, .mark), (0xe47, 0xe4e, .mark), (0xeb1, 0xeb1, .mark),
  (0xeb4, 0xebc, .mark), (0xec8, 0xecd, .mark), (0xf18, 0xf19, .mark), (0xf35, 0xf39, .mark),
  (0xf71, 0xf7e, .mark), (0xf80, 0xf87, .mark), (0xf8d, 0xfc6, .mark), (0x102d, 0x1030, .mark),
  (0x1032, 0x1037, .mark), (0x1039, 0x103a, .mark), (0x103d, 0x103e, .mark),
  (0x1058, 0x1059, .mark), (0x105e, 0x1060, .mark), (0x1071, 0x1074, .mark),
  (0x1082, 0x1082, .mark), (0x1085, 0x1086, .mark), (0x108d, 0x108d, .mark),
  (0x109d, 0x109d, .mark), (0x135d, 0x135f, .mark), (0x1712, 0x1714, .mark),
  (0x1732, 0x1733, .mark), (0x1752, 0x1753, .mark), (0x1772, 0x1773, .mark),
  (0x17b7, 0x17bd, .mark), (0x17c6, 0x17c6, .mark), (0x17c9, 0x17d3, .mark),
  (0x17dd, 0x17dd, .mark), (0x1885, 0x1886, .mark), (0x18a9, 0x18a9, .mark),
  (0x1920, 0x1922, .mark), (0x1927, 0x1928, .mark), (0x1932, 0x1932, .mark),
  (0x1939, 0x193b, .mark), (0x1a17, 0x1a18, .mark), (0x1a1b, 0x1a1b, .mark),
  (0x1a56, 0x1a56, .mark), (0x1a58, 0x1a60, .mark), (0x1a62, 0x1a62, .mark),
  (0x1a65, 0x1a6c, .mark), (0x1a73, 0x1a7f, .mark), (0x1ab0, 0x1ace, .mark),
  (0x1b00, 0x1b03, .mark), (0x1b34, 0x1b34, .mark), (0x1b36, 0x1b3a, .mark),
  (0x1b3c, 0x1b3c, .mark), (0x1b42, 0x1b42, .mark), (0x1b6b, 0x1b81, .mark),
  (0x1ba2, 0x1ba5, .mark), (0x1ba8, 0x1ba9, .mark), (0x1bab, 0x1bad, .mark),
  (0x1be6, 0x1be6, .mark), (0x1be8, 0x1be9, .mark), (0x1bed, 0x1bed, .mark),
  (0x1bef, 0x1bf1, .mark), (0x1c2c, 0x1c33, .mark), (0x1c36, 0x1c37, .mark),
  (0x1cd0, 0x1ce0, .mark), (0x1ce2, 0x1ce8, .mark), (0x1ced, 0x1ced, .mark),
  (0x1cf4, 0x1cf4, .mark), (0x1cf8, 0x1cf9, .mark), (0x1dc0, 0x1dff, .mark),
  (0x200c, 0x200d, .neutral), (0x2cef, 0x2cf1, .mark), (0x2d7f, 0x2d7f, .mark),
  (0x2de0, 0x2dff, .mark), (0x2e2f, 0x2e2f, .neutral), (0x302a, 0x302d, .mark),
  (0x3099, 0x309a, .mark), (0x30fb, 0x30fb, .neutral), (0xa66f, 0xa67d, .mark),
  (0xa67f, 0xa67f, .neutral), (0xa69e, 0xa69f, .mark), (0xa6f0, 0xa6f1, .mark),
  (0xa717, 0xa71f, .neutral), (0xa788, 0xa788, .neutral), (0xa802, 0xa802, .mark),
  (0xa806, 0xa806, .mark), (0xa80b, 0xa80b, .mark), (0xa825, 0xa826, .mark),
  (0xa82c, 0xa82c, .mark), (0xa8c4, 0xa8c5, .mark), (0xa8e0, 0xa8f1, .mark),
  (0xa8ff, 0xa8ff, .mark), (0xa926, 0xa92d, .mark), (0xa947, 0xa951, .mark),
  (0xa980, 0xa982, .mark), (0xa9b3, 0xa9b3, .mark), (0xa9b6, 0xa9b9, .mark),
  (0xa9bc, 0xa9bd, .mark), (0xa9e5, 0xa9e5, .mark), (0xaa29, 0xaa2e, .mark),
  (0xaa31, 0xaa32, .mark), (0xaa35, 0xaa36, .mark), (0xaa43, 0xaa43, .mark),
  (0xaa4c, 0xaa4c, .mark), (0xaa7c, 0xaa7c, .mark), (0xaab0, 0xaab0, .mark),
  (0xaab2, 0xaab4, .mark), (0xaab7, 0xaab8, .mark), (0xaabe, 0xaabf, .mark),
  (0xaac1, 0xaac1, .mark), (0xaaec, 0xaaed, .mark), (0xaaf6, 0xaaf6, .mark),
  (0xabe5, 0xabe5, .mark), (0xabe8, 0xabe8, .mark), (0xabed, 0xabed, .mark),
  (0xfb1e, 0xfe2f, .mark), (0xfe73, 0xfe73, .arabic), (0x101fd, 0x101fd, .mark),
  (0x102e0, 0x102e0, .mark), (0x10376, 0x1037a, .mark), (0x10800, 0x10939, .rightToLeft),
  (0x10980, 0x10a00, .rightToLeft), (0x10a01, 0x10a0f, .mark), (0x10a10, 0x10a35, .rightToLeft),
  (0x10a38, 0x10a3f, .mark), (0x10a60, 0x10ae4, .rightToLeft), (0x10ae5, 0x10ae6, .mark),
  (0x10b00, 0x10cf2, .rightToLeft), (0x10d00, 0x10d23, .arabic), (0x10d24, 0x10d27, .mark),
  (0x10d30, 0x10d39, .arabicNumber), (0x10e80, 0x10ea9, .rightToLeft), (0x10eab, 0x10eac, .mark),
  (0x10eb0, 0x10eb1, .rightToLeft), (0x10f00, 0x10f27, .rightToLeft), (0x10f30, 0x10f45, .arabic),
  (0x10f46, 0x10f50, .mark), (0x10f70, 0x10f81, .rightToLeft), (0x10f82, 0x10f85, .mark),
  (0x10fb0, 0x10ff6, .rightToLeft), (0x11001, 0x11001, .mark), (0x11038, 0x11046, .mark),
  (0x11070, 0x11070, .mark), (0x11073, 0x11074, .mark), (0x1107f, 0x11081, .mark),
  (0x110b3, 0x110b6, .mark), (0x110b9, 0x110c2, .mark), (0x11100, 0x11102, .mark),
  (0x11127, 0x1112b, .mark), (0x1112d, 0x11134, .mark), (0x11173, 0x11173, .mark),
  (0x11180, 0x11181, .mark), (0x111b6, 0x111be, .mark), (0x111c9, 0x111cc, .mark),
  (0x111cf, 0x111cf, .mark), (0x1122f, 0x11231, .mark), (0x11234, 0x11234, .mark),
  (0x11236, 0x1123e, .mark), (0x112df, 0x112df, .mark), (0x112e3, 0x112ea, .mark),
  (0x11300, 0x11301, .mark), (0x1133b, 0x1133c, .mark), (0x11340, 0x11340, .mark),
  (0x11366, 0x11374, .mark), (0x11438, 0x1143f, .mark), (0x11442, 0x11444, .mark),
  (0x11446, 0x11446, .mark), (0x1145e, 0x1145e, .mark), (0x114b3, 0x114b8, .mark),
  (0x114ba, 0x114ba, .mark), (0x114bf, 0x114c0, .mark), (0x114c2, 0x114c3, .mark),
  (0x115b2, 0x115b5, .mark), (0x115bc, 0x115bd, .mark), (0x115bf, 0x115c0, .mark),
  (0x115dc, 0x115dd, .mark), (0x11633, 0x1163a, .mark), (0x1163d, 0x1163d, .mark),
  (0x1163f, 0x11640, .mark), (0x116ab, 0x116ab, .mark), (0x116ad, 0x116ad, .mark),
  (0x116b0, 0x116b5, .mark), (0x116b7, 0x116b7, .mark), (0x1171d, 0x1171f, .mark),
  (0x11722, 0x11725, .mark), (0x11727, 0x1172b, .mark), (0x1182f, 0x11837, .mark),
  (0x11839, 0x1183a, .mark), (0x1193b, 0x1193c, .mark), (0x1193e, 0x1193e, .mark),
  (0x11943, 0x11943, .mark), (0x119d4, 0x119db, .mark), (0x119e0, 0x119e0, .mark),
  (0x11a01, 0x11a06, .mark), (0x11a09, 0x11a0a, .mark), (0x11a33, 0x11a38, .mark),
  (0x11a3b, 0x11a47, .mark), (0x11a51, 0x11a56, .mark), (0x11a59, 0x11a5b, .mark),
  (0x11a8a, 0x11a96, .mark), (0x11a98, 0x11a99, .mark), (0x11c30, 0x11c3d, .mark),
  (0x11c92, 0x11ca7, .mark), (0x11caa, 0x11cb0, .mark), (0x11cb2, 0x11cb3, .mark),
  (0x11cb5, 0x11cb6, .mark), (0x11d31, 0x11d45, .mark), (0x11d47, 0x11d47, .mark),
  (0x11d90, 0x11d91, .mark), (0x11d95, 0x11d95, .mark), (0x11d97, 0x11d97, .mark),
  (0x11ef3, 0x11ef4, .mark), (0x16af0, 0x16af4, .mark), (0x16b30, 0x16b36, .mark),
  (0x16f4f, 0x16f4f, .mark), (0x16f8f, 0x16f92, .mark), (0x16fe4, 0x16fe4, .mark),
  (0x1bc9d, 0x1daaf, .mark), (0x1e000, 0x1e02a, .mark), (0x1e130, 0x1e136, .mark),
  (0x1e2ae, 0x1e2ae, .mark), (0x1e2ec, 0x1e2ef, .mark), (0x1e800, 0x1e8c4, .rightToLeft),
  (0x1e8d0, 0x1e8d6, .mark), (0x1e922, 0x1e943, .rightToLeft), (0x1e944, 0x1e94a, .mark),
  (0x1e94b, 0x1e959, .rightToLeft)
]

/-- How a permitted code point runs. -/
def ofPoint (n : Nat) : Direction :=
  if unknownSpans.covers n then unknown
  else ((table.find? fun (first, last, _) => first ≤ n && n ≤ last).map (·.2.2)).getD leftToRight

/-- What makes a label one with rules of its own. -/
def isRightToLeft : Direction → Bool
  | rightToLeft | arabic | arabicNumber => true
  | _ => false

end Direction

/-- Why a label cannot be shown in order. -/
inductive DirectionError where
  | unknown (position : Nat)
  | start
  | place (position : Nat) (rightToLeft : Bool)
  | numbers
  | ending
deriving DecidableEq, Repr

/-- The first code point that may not stand in a label that runs one way; `number?` is the kind of
the numbers before it. -/
def placeFault? (rightToLeft : Bool) (position : Nat) (number? : Option Direction) :
    List Direction → Option DirectionError
  | [] => none
  | d :: rest =>
    if rightToLeft = true ∧ (d = .number ∨ d = .arabicNumber) then
      if number?.any (· != d) then some .numbers
      else placeFault? rightToLeft (position + 1) (some d) rest
    else if d = .leftToRight ∧ rightToLeft = true ∨ d.isRightToLeft = true ∧ rightToLeft = false then
      some (.place position rightToLeft)
    else placeFault? rightToLeft (position + 1) number? rest

/-- Whether a label that runs one way may end in a direction. -/
def mayEnd (rightToLeft : Bool) : Direction → Bool
  | .leftToRight => !rightToLeft
  | .rightToLeft | .arabic | .arabicNumber => rightToLeft
  | .number => true
  | _ => false

/-- The first fault of a label, given by its directions. -/
def directionFault? (ds : List Direction) : Option DirectionError :=
  match ds.findIdx? (· == .unknown) with
  | some i => some (.unknown (i + 1))
  | none =>
    if !ds.any Direction.isRightToLeft then none
    else
      let check (rightToLeft : Bool) : Option DirectionError :=
        match placeFault? rightToLeft 1 none ds with
        | some e => some e
        | none =>
          if (ds.reverse.find? (· != .mark)).any (mayEnd rightToLeft) then none else some .ending
      match ds with
      | .leftToRight :: _ => check false
      | .rightToLeft :: _ | .arabic :: _ => check true
      | _ => some .start

end Idna

end WorkspaceWatch
