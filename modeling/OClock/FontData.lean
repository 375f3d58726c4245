import OClock.TextPixels

/-!
The glyphs of the fonts of ht1632.
-/

namespace OClock.FontData
open Fonts TextPixels

/-! The hexadecimal digits of a number are the words of a glyph, in their order. -/

def font5x4Glyphs : List Nat := [
  0x0000000000, 0x7100000000, 0x3000300000, 0xa0f1a0f1a0, 0x0000000000, 0x31b040a191,
  0xa05191a100, 0x3000000000, 0xe011000000, 0x11e0000000, 0x5020500000, 0x4040f14040,
  0x0180000000, 0x4040400000, 0x0100000000, 0x01c0601000, 0xe011e00000, 0x21f1010000,
  0x2191512100, 0x5151a00000, 0xc0a0f18000, 0x7151d00000, 0xe051518000, 0x10d1503000,
  0xa05151a000, 0x205051e000, 0xa000000000, 0x01a0000000, 0x40a0110000, 0xa0a0a00000,
  0x11a0400000, 0x2010916000, 0xe010d051f0, 0xe150e10000, 0xf151a00000, 0xe01111a000,
  0xf111e00000, 0xf151110000, 0xf150500000, 0xe01191a000, 0xf14040f100, 0x11f1110000,
  0x9011f00000, 0xf140a01100, 0xf101010000, 0xf1204020f1, 0xf1204080f1, 0xe01111e000,
  0xf150200000, 0xe011119061, 0xf150a10000, 0x2151519000, 0x10f1100000, 0xf00101f000,
  0x30c001c030, 0xf001c001f0, 0xb140b10000, 0x30c1300000, 0x9151513100, 0xf111000000,
  0x1060c00100, 0x11f1000000, 0x2010200000, 0x0101010000]

def font8x4Glyphs : List Nat := [
  0x0000000000, 0xfd00000000, 0x3000300000, 0xa0f1a0f1a0, 0x0000000000, 0x31b040a191,
  0xa05191a100, 0x3000000000, 0xe011000000, 0x11e0000000, 0x5020500000, 0x4040f14040,
  0x0180000000, 0x4040400000, 0x0100000000, 0x01c0601000, 0xe718e70000, 0x28ff080000,
  0x2e19e80000, 0x9898ff0000, 0xf080ff0000, 0xf8989f0000, 0xff989f0000, 0x1f90700000,
  0xff98ff0000, 0xf898ff0000, 0x4200000000, 0x01a0000000, 0x40a0110000, 0xa0a0a00000,
  0x11a0400000, 0x2010916000, 0xe010d051f0, 0xff9090ff00, 0xff98987f00, 0xff18183c00,
  0xff1818e700, 0xff98981800, 0xff90901000, 0xff18989f00, 0xff8080ff00, 0x18ff180000,
  0x1c1818ff00, 0xff80413e00, 0xff08080800, 0xff6060ff00, 0xffc003ff00, 0xff1818ff00,
  0xff9090f000, 0xff1a1cff00, 0xff9091fe00, 0x6898981700, 0x10ff100000, 0xff0808ff00,
  0xf30e0ef300, 0xf70f0ef700, 0x7ec3c37e00, 0x708f700000, 0x1c1bd83800, 0xf111000000,
  0x1060c00100, 0x11f1000000, 0x2010200000, 0x0101010000]

def font7x5Glyphs : List Nat := [
  0x000000000000, 0x00f500000000, 0x700070000000, 0x41f741f74100, 0x42a2f7a22100, 0x323180462600,
  0x639455220500, 0x700000000000, 0xc12214000000, 0x1422c1000000, 0x4180e3804100, 0x8080e3808000,
  0x858300000000, 0x808080808000, 0x060600000000, 0x020180402000, 0xe3159454e300, 0x24f704000000,
  0x261594946400, 0x221494946300, 0x814121f70100, 0x725454549300, 0xc3a494940300, 0x101790503000,
  0x639494946300, 0x60949492e100, 0x636300000000, 0x656300000000, 0x804122140000, 0x414141414100,
  0x142241800000, 0x201015906000, 0xe314d555e200, 0xc7211121c700, 0xf79494946300, 0xe31414142200,
  0xf7141422c100, 0xf79494941400, 0xf79090901000, 0xe3149494a700, 0xf7808080f700, 0x14f714000000,
  0x020414f31000, 0xf78041221400, 0xf70404040400, 0xf720c020f700, 0xf7408001f700, 0xe3141414e300,
  0xf79090906000, 0xe7141512e500, 0xf79091926400, 0x629494942300, 0x1010f7101000, 0xf3040404f300,
  0x708106817000, 0xf3048304f300, 0x364180413600, 0x708007807000, 0x161594543400, 0xf71414000000,
  0x204080010200, 0x1414f7000000, 0x402010204000, 0x040404040400]

def font8x6Glyphs : List Nat := [
  0x000000000000, 0x00fdfd000000, 0xb07000b07000, 0x41f741f74100, 0x42a2f7a22100, 0x323180462600,
  0x639455220500, 0xb07000000000, 0xc3e73c180000, 0x183ce7c30000, 0x4583ee834500, 0x018301247e24,
  0x858300000000, 0x818181818181, 0x060600000000, 0x060381c06030, 0xe7ff3dbcffe7, 0x4060ffff0000,
  0x6c7e3fbdfc6c, 0x667e3cbdff67, 0x83c363ffff03, 0xf6febcbdbf37, 0xc7efbcbcbf07, 0x30303fbff070,
  0x67ffbcbcff67, 0xe0fdbdbdffe7, 0x636300000000, 0x6b6700000000, 0x81c3663c1800, 0x636363636363,
  0x183c66c38100, 0x60703bbbf060, 0xe314d555e200, 0xefff3333ffef, 0xffffbdbdff67, 0xe7ff3c3c7e66,
  0xffff3c3cffe7, 0xffffbdbdbd3c, 0xffffb1b1b130, 0xe7ff3cbdbfa7, 0xffff8181ffff, 0xffff00000000,
  0x060e0cfff700, 0xffff81c37e3c, 0xffff0c0c0c00, 0xffefc0c0efff, 0xffff60c0ffff, 0xe7ff3c3cffe7,
  0xffff3333f3e1, 0xe7ff3c3ef7eb, 0xffff3333ffee, 0xecfdbdbdbf37, 0x3030ffff3030, 0xf7ff0c0cfff7,
  0xf3f70c0cf7f3, 0xfff70303f7ff, 0x7f7f80807f7f, 0xf0f10f0ff1f0, 0x3e3fbdfc7c3c, 0xffff3c3c0000,
  0x60c08103060c, 0x3c3cffff0000, 0x03cbffcb0300, 0x0c0c0c0c0c00]

def font16x8Glyphs : List Nat := [
  0x00000000000000000000000000000000, 0xfffefffefffe00000000000000000000,
  0x83008300000083008300000000000000, 0x06608ff18ff1066006608ff18ff10660,
  0x87c1c883c813ffffffffc813c1f383e1, 0x0e810ac10ee0007008b30c920c830000,
  0xc3e3eff7381c303c706ee0f700f30002, 0xc100c100000000000000000000000000,
  0x8ff1cff36006300c1008000000000000, 0x1008300c6006cff38ff1000000000000,
  0x09900a500c300ff00ff00c300a500990, 0x081008100e700e700810081000000000,
  0x00080007000300000000000000000000, 0x08100810081008100810081000000000,
  0x000c000c000000000000000000000000, 0x0006008700f10c708f00c30070003000,
  0xcff3eff7306c383c3c1c360ceff7cff3, 0x0108810cc10cefffffff000c000c0008,
  0xc00e600f30cd30fc3c3c3f0ce30cc00c, 0xc003e007300c381c381c3c3ce7e7c3c3,
  0xff00ff100810081008100810ffffffff, 0xff0cff0c3c0c3c0c3c0c3c0c38f730f3,
  0x8ff3cff7e81c781c381c381c30f730e3, 0x300c300f30c330f03c303f00f300e000,
  0xc3e3e7f73c1c3c1c3c1c3c1ce7f7c3e3, 0xc300e7003c0c3c0f3cc33cf0ef30cf00,
  0x03c003c0000000000000000000000000, 0x000403c687e387e103c0000000000000,
  0x0e000f108130c06060c0308100000000, 0x08910891089108910891089108910891,
  0x308160c0c06081300f100e0000000000, 0xc100e300300030cd30edf830ef100700,
  0x0ff18102c06440984098c09881f40e10, 0x8fffcfff6030303030306030cfff8fff,
  0xffffffff3c1c3c1c3c1c3c1ce7ffc3e7, 0xcff3eff7300c300c300c300c6006c003,
  0xffffffff300c300c300c700eeff7cff3, 0xffffffff3c0c3c0c3c0c3c0c300c300c,
  0xffffffff3c003c003c003c0030003000, 0xcff3eff7300c300c30cc70cc60c700c3,
  0xffffffff0810081008100810ffffffff, 0x300c300c300cffffffff300c300c300c,
  0x3006300e300cffffffff300030003000, 0xffffffff0c7006c08381c0036006300c,
  0xffffffff000c000c000c000c000c000c, 0xffffffff6000c000c0006000ffffffff,
  0xffffffff0f000c3000f000c3ffffffff, 0xcff7efff700e300c300c700eefffcff7,
  0xffffffff3810381038107c10ef00c700, 0xcff7eff7700e300c300d7006eff7cff8,
  0xffffffff3cf03cf13c837e07e70ec30c, 0xc1036306360c3c0c381c303c60e7c0c3,
  0x300030003000ffffffff300030003000, 0xfff3fff7000e000c000c000efff7fff3,
  0xfff1fff300e7000e000e00e7fff3fff1, 0xffffffff00060cf30cf30006ffffffff,
  0xf00effcf0fc3087008700fc3ffcff00e, 0x7000f10087000eff0eff8700f1007000,
  0x300e300f30cd30fc3c3c3f0cf30cf00c, 0xffffffff300c300c300c000000000000,
  0x30007000c3008f000c7000f100870006, 0x300c300c300cffffffff000000000000,
  0x8000c000600030006000c00080000000, 0x000c000c000c000c000c000c000c000c]

/-- The words of some glyphs, so many for each. -/
def glyphWords (step : Nat) (glyphs : List Nat) : List UInt8 :=
  glyphs.flatMap fun glyph =>
    (List.range step).map fun i => UInt8.ofNat (glyph / 16 ^ (step - 1 - i) % 16)

theorem glyphWords_length (step : Nat) (glyphs : List Nat) :
    (glyphWords step glyphs).length = glyphs.length * step := by
  induction glyphs with
  | nil => exact (Nat.zero_mul step).symm
  | cons glyph rest ih =>
      unfold glyphWords at ih ⊢
      rw [List.flatMap_cons, List.length_append, ih, List.length_map, List.length_range,
        List.length_cons, Nat.succ_mul, Nat.add_comm]

theorem glyphWords_bits {step : Nat} {glyphs : List Nat} {word : UInt8}
    (member : word ∈ glyphWords step glyphs) : word < 16 := by
  obtain ⟨glyph, _, inside⟩ := List.mem_flatMap.mp member
  obtain ⟨i, _, rfl⟩ := List.mem_map.mp inside
  have small : glyph / 16 ^ (step - 1 - i) % 16 < 16 := Nat.mod_lt _ (by decide)
  rw [UInt8.lt_iff_toNat_lt, UInt8.toNat_ofNat', Nat.mod_eq_of_lt (Nat.lt_trans small (by decide))]
  exact small

def glyphArray (step : Nat) (glyphs : List Nat) {size : Nat} (fits : glyphs.length * step = size) :
    Vector UInt8 size :=
  ⟨⟨glyphWords step glyphs⟩, (glyphWords_length step glyphs).trans fits⟩

/-- The arrays of the headers. -/
def fontData : FontArrays where
  font5x4 := glyphArray 10 font5x4Glyphs rfl
  font8x4 := glyphArray 10 font8x4Glyphs rfl
  font7x5 := glyphArray 12 font7x5Glyphs rfl
  font8x6 := glyphArray 12 font8x6Glyphs rfl
  font16x8 := glyphArray 32 font16x8Glyphs rfl

theorem fontData_bits : FourBits fontData := by
  intro font word member
  unfold getFontData at member
  split_ifs at member
  all_goals exact glyphWords_bits member

/-- An `A`, row by row. -/
example : ([0, 1, 2, 3, 4] : List Int).map (fun row => ([0, 1, 2] : List Int).map fun column =>
      textDot (TextBounds.fontTables fontData font5x4).plain (Text.bytes "A") column row) =
    [[false, true, false],
      [true, false, true],
      [true, true, true],
      [true, false, true],
      [true, false, true]] := by decide +kernel

end OClock.FontData
