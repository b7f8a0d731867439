import Provenance.Text.Letter

/-!
# Text — Digit

Decimal digits, digits and numerals of Unicode 14, each class part of the next, and the word
characters, which are letters, numerals and the low line.
-/

namespace Provenance.Text

/-- The decimal digits outside ASCII, in blocks of ten. -/
def decimalRuns : List Run := [
  ⟨0x660, 0x669, 1⟩, ⟨0x6f0, 0x6f9, 1⟩, ⟨0x7c0, 0x7c9, 1⟩, ⟨0x966, 0x96f, 1⟩, ⟨0x9e6, 0x9ef, 1⟩,
  ⟨0xa66, 0xa6f, 1⟩, ⟨0xae6, 0xaef, 1⟩, ⟨0xb66, 0xb6f, 1⟩, ⟨0xbe6, 0xbef, 1⟩, ⟨0xc66, 0xc6f, 1⟩,
  ⟨0xce6, 0xcef, 1⟩, ⟨0xd66, 0xd6f, 1⟩, ⟨0xde6, 0xdef, 1⟩, ⟨0xe50, 0xe59, 1⟩, ⟨0xed0, 0xed9, 1⟩,
  ⟨0xf20, 0xf29, 1⟩, ⟨0x1040, 0x1049, 1⟩, ⟨0x1090, 0x1099, 1⟩, ⟨0x17e0, 0x17e9, 1⟩,
  ⟨0x1810, 0x1819, 1⟩, ⟨0x1946, 0x194f, 1⟩, ⟨0x19d0, 0x19d9, 1⟩, ⟨0x1a80, 0x1a89, 1⟩,
  ⟨0x1a90, 0x1a99, 1⟩, ⟨0x1b50, 0x1b59, 1⟩, ⟨0x1bb0, 0x1bb9, 1⟩, ⟨0x1c40, 0x1c49, 1⟩,
  ⟨0x1c50, 0x1c59, 1⟩, ⟨0xa620, 0xa629, 1⟩, ⟨0xa8d0, 0xa8d9, 1⟩, ⟨0xa900, 0xa909, 1⟩,
  ⟨0xa9d0, 0xa9d9, 1⟩, ⟨0xa9f0, 0xa9f9, 1⟩, ⟨0xaa50, 0xaa59, 1⟩, ⟨0xabf0, 0xabf9, 1⟩,
  ⟨0xff10, 0xff19, 1⟩, ⟨0x104a0, 0x104a9, 1⟩, ⟨0x10d30, 0x10d39, 1⟩, ⟨0x11066, 0x1106f, 1⟩,
  ⟨0x110f0, 0x110f9, 1⟩, ⟨0x11136, 0x1113f, 1⟩, ⟨0x111d0, 0x111d9, 1⟩, ⟨0x112f0, 0x112f9, 1⟩,
  ⟨0x11450, 0x11459, 1⟩, ⟨0x114d0, 0x114d9, 1⟩, ⟨0x11650, 0x11659, 1⟩, ⟨0x116c0, 0x116c9, 1⟩,
  ⟨0x11730, 0x11739, 1⟩, ⟨0x118e0, 0x118e9, 1⟩, ⟨0x11950, 0x11959, 1⟩, ⟨0x11c50, 0x11c59, 1⟩,
  ⟨0x11d50, 0x11d59, 1⟩, ⟨0x11da0, 0x11da9, 1⟩, ⟨0x16a60, 0x16a69, 1⟩, ⟨0x16ac0, 0x16ac9, 1⟩,
  ⟨0x16b50, 0x16b59, 1⟩, ⟨0x1d7ce, 0x1d7ff, 1⟩, ⟨0x1e140, 0x1e149, 1⟩, ⟨0x1e2f0, 0x1e2f9, 1⟩,
  ⟨0x1e950, 0x1e959, 1⟩, ⟨0x1fbf0, 0x1fbf9, 1⟩]

/-- Digits that stand in no decimal block, such as superscripts and circled digits. -/
def digitRuns : List Run := [
  ⟨0xb2, 0xb3, 1⟩, ⟨0xb9, 0xb9, 1⟩, ⟨0x1369, 0x1371, 1⟩, ⟨0x19da, 0x19da, 1⟩, ⟨0x2070, 0x2070, 1⟩,
  ⟨0x2074, 0x2079, 1⟩, ⟨0x2080, 0x2089, 1⟩, ⟨0x2460, 0x2468, 1⟩, ⟨0x2474, 0x247c, 1⟩,
  ⟨0x2488, 0x2490, 1⟩, ⟨0x24ea, 0x24ea, 1⟩, ⟨0x24f5, 0x24fd, 1⟩, ⟨0x24ff, 0x24ff, 1⟩,
  ⟨0x2776, 0x277e, 1⟩, ⟨0x2780, 0x2788, 1⟩, ⟨0x278a, 0x2792, 1⟩, ⟨0x10a40, 0x10a43, 1⟩,
  ⟨0x10e60, 0x10e68, 1⟩, ⟨0x11052, 0x1105a, 1⟩, ⟨0x1f100, 0x1f10a, 1⟩]

/-- Numerals that are neither digits nor letters, such as fractions and Roman numerals. -/
def numeralRuns : List Run := [
  ⟨0xbc, 0xbe, 1⟩, ⟨0x9f4, 0x9f9, 1⟩, ⟨0xb72, 0xb77, 1⟩, ⟨0xbf0, 0xbf2, 1⟩, ⟨0xc78, 0xc7e, 1⟩,
  ⟨0xd58, 0xd5e, 1⟩, ⟨0xd70, 0xd78, 1⟩, ⟨0xf2a, 0xf33, 1⟩, ⟨0x1372, 0x137c, 1⟩,
  ⟨0x16ee, 0x16f0, 1⟩, ⟨0x17f0, 0x17f9, 1⟩, ⟨0x2150, 0x2182, 1⟩, ⟨0x2185, 0x2189, 1⟩,
  ⟨0x2469, 0x2473, 1⟩, ⟨0x247d, 0x2487, 1⟩, ⟨0x2491, 0x249b, 1⟩, ⟨0x24eb, 0x24f4, 1⟩,
  ⟨0x24fe, 0x24fe, 1⟩, ⟨0x277f, 0x277f, 1⟩, ⟨0x2789, 0x2789, 1⟩, ⟨0x2793, 0x2793, 1⟩,
  ⟨0x2cfd, 0x2cfd, 1⟩, ⟨0x3007, 0x3007, 1⟩, ⟨0x3021, 0x3029, 1⟩, ⟨0x3038, 0x303a, 1⟩,
  ⟨0x3192, 0x3195, 1⟩, ⟨0x3220, 0x3229, 1⟩, ⟨0x3248, 0x324f, 1⟩, ⟨0x3251, 0x325f, 1⟩,
  ⟨0x3280, 0x3289, 1⟩, ⟨0x32b1, 0x32bf, 1⟩, ⟨0xa6e6, 0xa6ef, 1⟩, ⟨0xa830, 0xa835, 1⟩,
  ⟨0x10107, 0x10133, 1⟩, ⟨0x10140, 0x10178, 1⟩, ⟨0x1018a, 0x1018b, 1⟩, ⟨0x102e1, 0x102fb, 1⟩,
  ⟨0x10320, 0x10323, 1⟩, ⟨0x10341, 0x10341, 1⟩, ⟨0x1034a, 0x1034a, 1⟩, ⟨0x103d1, 0x103d5, 1⟩,
  ⟨0x10858, 0x1085f, 1⟩, ⟨0x10879, 0x1087f, 1⟩, ⟨0x108a7, 0x108af, 1⟩, ⟨0x108fb, 0x108ff, 1⟩,
  ⟨0x10916, 0x1091b, 1⟩, ⟨0x109bc, 0x109bd, 1⟩, ⟨0x109c0, 0x109cf, 1⟩, ⟨0x109d2, 0x109ff, 1⟩,
  ⟨0x10a44, 0x10a48, 1⟩, ⟨0x10a7d, 0x10a7e, 1⟩, ⟨0x10a9d, 0x10a9f, 1⟩, ⟨0x10aeb, 0x10aef, 1⟩,
  ⟨0x10b58, 0x10b5f, 1⟩, ⟨0x10b78, 0x10b7f, 1⟩, ⟨0x10ba9, 0x10baf, 1⟩, ⟨0x10cfa, 0x10cff, 1⟩,
  ⟨0x10e69, 0x10e7e, 1⟩, ⟨0x10f1d, 0x10f26, 1⟩, ⟨0x10f51, 0x10f54, 1⟩, ⟨0x10fc5, 0x10fcb, 1⟩,
  ⟨0x1105b, 0x11065, 1⟩, ⟨0x111e1, 0x111f4, 1⟩, ⟨0x1173a, 0x1173b, 1⟩, ⟨0x118ea, 0x118f2, 1⟩,
  ⟨0x11c5a, 0x11c6c, 1⟩, ⟨0x11fc0, 0x11fd4, 1⟩, ⟨0x12400, 0x1246e, 1⟩, ⟨0x16b5b, 0x16b61, 1⟩,
  ⟨0x16e80, 0x16e96, 1⟩, ⟨0x1d2e0, 0x1d2f3, 1⟩, ⟨0x1d360, 0x1d378, 1⟩, ⟨0x1e8c7, 0x1e8cf, 1⟩,
  ⟨0x1ec71, 0x1ecab, 1⟩, ⟨0x1ecad, 0x1ecaf, 1⟩, ⟨0x1ecb1, 0x1ecb4, 1⟩, ⟨0x1ed01, 0x1ed2d, 1⟩,
  ⟨0x1ed2f, 0x1ed3d, 1⟩, ⟨0x1f10b, 0x1f10c, 1⟩]

/-- Whether a character is a digit of a decimal system. -/
def isDecimal (c : Char) : Bool :=
  if c.toNat < 128 then c.isDigit else inRuns decimalRuns c

/-- The ASCII digit of the same value, for a digit of a decimal system; other characters stay. -/
def asciiDigit (c : Char) : Char :=
  match decimalRuns.find? fun r => r.contains c.toNat with
  | some r => Char.ofNat ('0'.toNat + (c.toNat - r.first) % 10)
  | none => c

/-- Whether a character is a digit, be it part of a decimal system or not. -/
def isDigit (c : Char) : Bool :=
  isDecimal c || inRuns digitRuns c

/-- Whether a character can stand in a word. -/
def isWord (c : Char) : Bool :=
  isLetter c || c == '_' || isDigit c || inRuns numeralRuns c

/-- Of ASCII only the ten digits are digits. -/
theorem isDigit_ascii {c : Char} (h : c.toNat < 128) : isDigit c = c.isDigit := by
  rw [isDigit, isDecimal, if_pos h, inRuns_ascii (by decide) h, Bool.or_false]

/-- An ASCII character is a word character when it is a letter, a digit or the low line. -/
theorem isWord_ascii {c : Char} (h : c.toNat < 128) : isWord c = (c.isAlphanum || c == '_') := by
  rw [isWord, isLetter, if_pos h, isDigit_ascii h, inRuns_ascii (by decide) h, Char.isAlphanum]
  cases c.isAlpha <;> cases c.isDigit <;> simp

end Provenance.Text
