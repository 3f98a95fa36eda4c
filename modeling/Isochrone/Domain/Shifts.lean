/-!
# Letters that fold at one distance

Runs of code points that stand in names for the code points of another run in the same order,
such as capitals for small letters and the letters of a mathematical alphabet for plain ones.
-/

namespace Isochrone.Domain

/-- Every `step`-th code point from `first` to `last`, which stands for the code point at the
same distance from `image`. -/
structure Shift where
  first : Nat
  last : Nat
  step : Nat
  image : Nat
  deriving DecidableEq, Repr

/-- Whether a code point is one of a run. -/
def Shift.covers (run : Shift) (n : Nat) : Bool :=
  run.first ≤ n && n ≤ run.last && (n - run.first) % run.step = 0

/-- What a code point of a run stands for. -/
def Shift.apply (run : Shift) (n : Nat) : Nat := run.image + (n - run.first)

/-- Capitals of the alphabets in use. -/
private def alphabets : List Shift := [
  ⟨0xc0, 0xd6, 1, 0xe0⟩, ⟨0xd8, 0xde, 1, 0xf8⟩, ⟨0x100, 0x12e, 2, 0x101⟩,
  ⟨0x14a, 0x176, 2, 0x14b⟩, ⟨0x1cd, 0x1db, 2, 0x1ce⟩, ⟨0x1de, 0x1ee, 2, 0x1df⟩,
  ⟨0x1f8, 0x21e, 2, 0x1f9⟩, ⟨0x222, 0x232, 2, 0x223⟩, ⟨0x391, 0x3a1, 1, 0x3b1⟩,
  ⟨0x3a3, 0x3ab, 1, 0x3c3⟩, ⟨0x3d8, 0x3ee, 2, 0x3d9⟩, ⟨0x400, 0x40f, 1, 0x450⟩,
  ⟨0x410, 0x42f, 1, 0x430⟩, ⟨0x460, 0x480, 2, 0x461⟩, ⟨0x48a, 0x4be, 2, 0x48b⟩,
  ⟨0x4c1, 0x4cd, 2, 0x4c2⟩, ⟨0x4d0, 0x52e, 2, 0x4d1⟩, ⟨0x531, 0x556, 1, 0x561⟩,
  ⟨0x10a0, 0x10c5, 1, 0x2d00⟩, ⟨0x13f8, 0x13fd, 1, 0x13f0⟩, ⟨0x1c90, 0x1cba, 1, 0x10d0⟩,
  ⟨0x1d33, 0x1d3a, 1, 0x67⟩, ⟨0x1e00, 0x1e94, 2, 0x1e01⟩, ⟨0x1ea0, 0x1efe, 2, 0x1ea1⟩,
  ⟨0x1f08, 0x1f0f, 1, 0x1f00⟩, ⟨0x1f18, 0x1f1d, 1, 0x1f10⟩, ⟨0x1f28, 0x1f2f, 1, 0x1f20⟩,
  ⟨0x1f38, 0x1f3f, 1, 0x1f30⟩, ⟨0x1f48, 0x1f4d, 1, 0x1f40⟩, ⟨0x1f68, 0x1f6f, 1, 0x1f60⟩]

/-- Enclosed letters, wide forms, and the capitals of the later scripts. -/
private def symbolsAndScripts : List Shift := [
  ⟨0x2074, 0x2079, 1, 0x34⟩, ⟨0x2080, 0x2089, 1, 0x30⟩, ⟨0x2460, 0x2468, 1, 0x31⟩,
  ⟨0x24b6, 0x24cf, 1, 0x61⟩, ⟨0x24d0, 0x24e9, 1, 0x61⟩, ⟨0x2c00, 0x2c2f, 1, 0x2c30⟩,
  ⟨0x2c80, 0x2ce2, 2, 0x2c81⟩, ⟨0x313a, 0x313f, 1, 0x11b0⟩, ⟨0x3145, 0x314e, 1, 0x1109⟩,
  ⟨0x314f, 0x3163, 1, 0x1161⟩, ⟨0x32e4, 0x32e9, 1, 0x30ca⟩, ⟨0x32f5, 0x32fa, 1, 0x30e8⟩,
  ⟨0xa640, 0xa66c, 2, 0xa641⟩, ⟨0xa680, 0xa69a, 2, 0xa681⟩, ⟨0xa722, 0xa72e, 2, 0xa723⟩,
  ⟨0xa732, 0xa76e, 2, 0xa733⟩, ⟨0xa796, 0xa7a8, 2, 0xa797⟩, ⟨0xa7b4, 0xa7c2, 2, 0xa7b5⟩,
  ⟨0xa7cc, 0xa7da, 2, 0xa7cd⟩, ⟨0xab70, 0xabbf, 1, 0x13a0⟩, ⟨0xff07, 0xff0e, 1, 0x27⟩,
  ⟨0xff10, 0xff19, 1, 0x30⟩, ⟨0xff21, 0xff3a, 1, 0x61⟩, ⟨0xff3f, 0xff5b, 1, 0x5f⟩,
  ⟨0xff85, 0xff8a, 1, 0x30ca⟩, ⟨0xff96, 0xff9b, 1, 0x30e8⟩, ⟨0xffaa, 0xffaf, 1, 0x11b0⟩,
  ⟨0xffb5, 0xffbe, 1, 0x1109⟩, ⟨0xffc2, 0xffc7, 1, 0x1161⟩, ⟨0xffca, 0xffcf, 1, 0x1167⟩,
  ⟨0xffd2, 0xffd7, 1, 0x116d⟩, ⟨0x10400, 0x10427, 1, 0x10428⟩, ⟨0x104b0, 0x104d3, 1, 0x104d8⟩,
  ⟨0x10570, 0x1057a, 1, 0x10597⟩, ⟨0x1057c, 0x1058a, 1, 0x105a3⟩, ⟨0x1058c, 0x10592, 1, 0x105b3⟩,
  ⟨0x10c80, 0x10cb2, 1, 0x10cc0⟩, ⟨0x10d50, 0x10d65, 1, 0x10d70⟩, ⟨0x118a0, 0x118bf, 1, 0x118c0⟩,
  ⟨0x16e40, 0x16e5f, 1, 0x16e60⟩, ⟨0x16ea0, 0x16eb8, 1, 0x16ebb⟩, ⟨0x1ccd6, 0x1ccef, 1, 0x61⟩,
  ⟨0x1ccf0, 0x1ccf9, 1, 0x30⟩]

/-- Letters and digits of the mathematical alphabets. -/
private def mathematical : List Shift := [
  ⟨0x1d400, 0x1d419, 1, 0x61⟩, ⟨0x1d41a, 0x1d433, 1, 0x61⟩, ⟨0x1d434, 0x1d44d, 1, 0x61⟩,
  ⟨0x1d44e, 0x1d454, 1, 0x61⟩, ⟨0x1d456, 0x1d467, 1, 0x69⟩, ⟨0x1d468, 0x1d481, 1, 0x61⟩,
  ⟨0x1d482, 0x1d49b, 1, 0x61⟩, ⟨0x1d4ae, 0x1d4b5, 1, 0x73⟩, ⟨0x1d4be, 0x1d4c3, 1, 0x69⟩,
  ⟨0x1d4c5, 0x1d4cf, 1, 0x70⟩, ⟨0x1d4d0, 0x1d4e9, 1, 0x61⟩, ⟨0x1d4ea, 0x1d503, 1, 0x61⟩,
  ⟨0x1d50d, 0x1d514, 1, 0x6a⟩, ⟨0x1d516, 0x1d51c, 1, 0x73⟩, ⟨0x1d51e, 0x1d537, 1, 0x61⟩,
  ⟨0x1d54a, 0x1d550, 1, 0x73⟩, ⟨0x1d552, 0x1d56b, 1, 0x61⟩, ⟨0x1d56c, 0x1d585, 1, 0x61⟩,
  ⟨0x1d586, 0x1d59f, 1, 0x61⟩, ⟨0x1d5a0, 0x1d5b9, 1, 0x61⟩, ⟨0x1d5ba, 0x1d5d3, 1, 0x61⟩,
  ⟨0x1d5d4, 0x1d5ed, 1, 0x61⟩, ⟨0x1d5ee, 0x1d607, 1, 0x61⟩, ⟨0x1d608, 0x1d621, 1, 0x61⟩,
  ⟨0x1d622, 0x1d63b, 1, 0x61⟩, ⟨0x1d63c, 0x1d655, 1, 0x61⟩, ⟨0x1d656, 0x1d66f, 1, 0x61⟩,
  ⟨0x1d670, 0x1d689, 1, 0x61⟩, ⟨0x1d68a, 0x1d6a3, 1, 0x61⟩, ⟨0x1d6a8, 0x1d6b8, 1, 0x3b1⟩,
  ⟨0x1d6ba, 0x1d6c0, 1, 0x3c3⟩, ⟨0x1d6c2, 0x1d6d2, 1, 0x3b1⟩, ⟨0x1d6d4, 0x1d6da, 1, 0x3c3⟩,
  ⟨0x1d6e2, 0x1d6f2, 1, 0x3b1⟩, ⟨0x1d6f4, 0x1d6fa, 1, 0x3c3⟩, ⟨0x1d6fc, 0x1d70c, 1, 0x3b1⟩,
  ⟨0x1d70e, 0x1d714, 1, 0x3c3⟩, ⟨0x1d71c, 0x1d72c, 1, 0x3b1⟩, ⟨0x1d72e, 0x1d734, 1, 0x3c3⟩,
  ⟨0x1d736, 0x1d746, 1, 0x3b1⟩, ⟨0x1d748, 0x1d74e, 1, 0x3c3⟩, ⟨0x1d756, 0x1d766, 1, 0x3b1⟩,
  ⟨0x1d768, 0x1d76e, 1, 0x3c3⟩, ⟨0x1d770, 0x1d780, 1, 0x3b1⟩, ⟨0x1d782, 0x1d788, 1, 0x3c3⟩,
  ⟨0x1d790, 0x1d7a0, 1, 0x3b1⟩, ⟨0x1d7a2, 0x1d7a8, 1, 0x3c3⟩, ⟨0x1d7aa, 0x1d7ba, 1, 0x3b1⟩,
  ⟨0x1d7bc, 0x1d7c2, 1, 0x3c3⟩, ⟨0x1d7ce, 0x1d7d7, 1, 0x30⟩, ⟨0x1d7d8, 0x1d7e1, 1, 0x30⟩,
  ⟨0x1d7e2, 0x1d7eb, 1, 0x30⟩, ⟨0x1d7ec, 0x1d7f5, 1, 0x30⟩, ⟨0x1d7f6, 0x1d7ff, 1, 0x30⟩,
  ⟨0x1e030, 0x1e038, 1, 0x430⟩, ⟨0x1e03c, 0x1e046, 1, 0x43e⟩, ⟨0x1e051, 0x1e059, 1, 0x430⟩,
  ⟨0x1e05f, 0x1e064, 1, 0x443⟩, ⟨0x1e900, 0x1e921, 1, 0x1e922⟩, ⟨0x1f130, 0x1f149, 1, 0x61⟩,
  ⟨0x1fbf0, 0x1fbf9, 1, 0x30⟩]

/-- All runs in ascending order. -/
def shifts : List Shift := alphabets ++ symbolsAndScripts ++ mathematical

/-- What a code point stands for by the runs. -/
def shifted? (n : Nat) : Option Char :=
  (shifts.find? fun run => run.covers n).map fun run => Char.ofNat (run.apply n)

end Isochrone.Domain
