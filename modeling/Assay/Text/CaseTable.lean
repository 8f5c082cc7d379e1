import Assay.Text.CodeTable

/-!
# Case tables — the letters that differ by case

The full case mappings of the Unicode standard that do not depend on context, the letters that
have a case, the characters that a search for cased letters passes over, and the sets of letters
that count as one letter when case is ignored.  Mappings follow edition 17.0 of the standard;
ignoring case, which only expressions do, follows edition 16.0.
-/

namespace Assay.Text

def lowerTable : CodeTable := ⟨[
  ⟨0x41, 0x5A, 1, [0x61]⟩, ⟨0xC0, 0xD6, 1, [0xE0]⟩, ⟨0xD8, 0xDE, 1, [0xF8]⟩,
  ⟨0x100, 0x12E, 2, [0x101]⟩, ⟨0x130, 0x130, 1, [0x69, 0x307]⟩, ⟨0x132, 0x136, 2, [0x133]⟩,
  ⟨0x139, 0x147, 2, [0x13A]⟩, ⟨0x14A, 0x176, 2, [0x14B]⟩, ⟨0x178, 0x178, 1, [0xFF]⟩,
  ⟨0x179, 0x17D, 2, [0x17A]⟩, ⟨0x181, 0x181, 1, [0x253]⟩, ⟨0x182, 0x184, 2, [0x183]⟩,
  ⟨0x186, 0x186, 1, [0x254]⟩, ⟨0x187, 0x187, 1, [0x188]⟩, ⟨0x189, 0x18A, 1, [0x256]⟩,
  ⟨0x18B, 0x18B, 1, [0x18C]⟩, ⟨0x18E, 0x18E, 1, [0x1DD]⟩, ⟨0x18F, 0x18F, 1, [0x259]⟩,
  ⟨0x190, 0x190, 1, [0x25B]⟩, ⟨0x191, 0x191, 1, [0x192]⟩, ⟨0x193, 0x193, 1, [0x260]⟩,
  ⟨0x194, 0x194, 1, [0x263]⟩, ⟨0x196, 0x196, 1, [0x269]⟩, ⟨0x197, 0x197, 1, [0x268]⟩,
  ⟨0x198, 0x198, 1, [0x199]⟩, ⟨0x19C, 0x19C, 1, [0x26F]⟩, ⟨0x19D, 0x19D, 1, [0x272]⟩,
  ⟨0x19F, 0x19F, 1, [0x275]⟩, ⟨0x1A0, 0x1A4, 2, [0x1A1]⟩, ⟨0x1A6, 0x1A6, 1, [0x280]⟩,
  ⟨0x1A7, 0x1A7, 1, [0x1A8]⟩, ⟨0x1A9, 0x1A9, 1, [0x283]⟩, ⟨0x1AC, 0x1AC, 1, [0x1AD]⟩,
  ⟨0x1AE, 0x1AE, 1, [0x288]⟩, ⟨0x1AF, 0x1AF, 1, [0x1B0]⟩, ⟨0x1B1, 0x1B2, 1, [0x28A]⟩,
  ⟨0x1B3, 0x1B5, 2, [0x1B4]⟩, ⟨0x1B7, 0x1B7, 1, [0x292]⟩, ⟨0x1B8, 0x1B8, 1, [0x1B9]⟩,
  ⟨0x1BC, 0x1BC, 1, [0x1BD]⟩, ⟨0x1C4, 0x1C4, 1, [0x1C6]⟩, ⟨0x1C5, 0x1C5, 1, [0x1C6]⟩,
  ⟨0x1C7, 0x1C7, 1, [0x1C9]⟩, ⟨0x1C8, 0x1C8, 1, [0x1C9]⟩, ⟨0x1CA, 0x1CA, 1, [0x1CC]⟩,
  ⟨0x1CB, 0x1DB, 2, [0x1CC]⟩, ⟨0x1DE, 0x1EE, 2, [0x1DF]⟩, ⟨0x1F1, 0x1F1, 1, [0x1F3]⟩,
  ⟨0x1F2, 0x1F4, 2, [0x1F3]⟩, ⟨0x1F6, 0x1F6, 1, [0x195]⟩, ⟨0x1F7, 0x1F7, 1, [0x1BF]⟩,
  ⟨0x1F8, 0x21E, 2, [0x1F9]⟩, ⟨0x220, 0x220, 1, [0x19E]⟩, ⟨0x222, 0x232, 2, [0x223]⟩,
  ⟨0x23A, 0x23A, 1, [0x2C65]⟩, ⟨0x23B, 0x23B, 1, [0x23C]⟩, ⟨0x23D, 0x23D, 1, [0x19A]⟩,
  ⟨0x23E, 0x23E, 1, [0x2C66]⟩, ⟨0x241, 0x241, 1, [0x242]⟩, ⟨0x243, 0x243, 1, [0x180]⟩,
  ⟨0x244, 0x244, 1, [0x289]⟩, ⟨0x245, 0x245, 1, [0x28C]⟩, ⟨0x246, 0x24E, 2, [0x247]⟩,
  ⟨0x370, 0x372, 2, [0x371]⟩, ⟨0x376, 0x376, 1, [0x377]⟩, ⟨0x37F, 0x37F, 1, [0x3F3]⟩,
  ⟨0x386, 0x386, 1, [0x3AC]⟩, ⟨0x388, 0x38A, 1, [0x3AD]⟩, ⟨0x38C, 0x38C, 1, [0x3CC]⟩,
  ⟨0x38E, 0x38F, 1, [0x3CD]⟩, ⟨0x391, 0x3A1, 1, [0x3B1]⟩, ⟨0x3A3, 0x3AB, 1, [0x3C3]⟩,
  ⟨0x3CF, 0x3CF, 1, [0x3D7]⟩, ⟨0x3D8, 0x3EE, 2, [0x3D9]⟩, ⟨0x3F4, 0x3F4, 1, [0x3B8]⟩,
  ⟨0x3F7, 0x3F7, 1, [0x3F8]⟩, ⟨0x3F9, 0x3F9, 1, [0x3F2]⟩, ⟨0x3FA, 0x3FA, 1, [0x3FB]⟩,
  ⟨0x3FD, 0x3FF, 1, [0x37B]⟩, ⟨0x400, 0x40F, 1, [0x450]⟩, ⟨0x410, 0x42F, 1, [0x430]⟩,
  ⟨0x460, 0x480, 2, [0x461]⟩, ⟨0x48A, 0x4BE, 2, [0x48B]⟩, ⟨0x4C0, 0x4C0, 1, [0x4CF]⟩,
  ⟨0x4C1, 0x4CD, 2, [0x4C2]⟩, ⟨0x4D0, 0x52E, 2, [0x4D1]⟩, ⟨0x531, 0x556, 1, [0x561]⟩,
  ⟨0x10A0, 0x10C5, 1, [0x2D00]⟩, ⟨0x10C7, 0x10C7, 1, [0x2D27]⟩, ⟨0x10CD, 0x10CD, 1, [0x2D2D]⟩,
  ⟨0x13A0, 0x13EF, 1, [0xAB70]⟩, ⟨0x13F0, 0x13F5, 1, [0x13F8]⟩, ⟨0x1C89, 0x1C89, 1, [0x1C8A]⟩,
  ⟨0x1C90, 0x1CBA, 1, [0x10D0]⟩, ⟨0x1CBD, 0x1CBF, 1, [0x10FD]⟩, ⟨0x1E00, 0x1E94, 2, [0x1E01]⟩,
  ⟨0x1E9E, 0x1E9E, 1, [0xDF]⟩, ⟨0x1EA0, 0x1EFE, 2, [0x1EA1]⟩, ⟨0x1F08, 0x1F0F, 1, [0x1F00]⟩,
  ⟨0x1F18, 0x1F1D, 1, [0x1F10]⟩, ⟨0x1F28, 0x1F2F, 1, [0x1F20]⟩, ⟨0x1F38, 0x1F3F, 1, [0x1F30]⟩,
  ⟨0x1F48, 0x1F4D, 1, [0x1F40]⟩, ⟨0x1F59, 0x1F5F, 2, [0x1F51]⟩, ⟨0x1F68, 0x1F6F, 1, [0x1F60]⟩,
  ⟨0x1F88, 0x1F8F, 1, [0x1F80]⟩, ⟨0x1F98, 0x1F9F, 1, [0x1F90]⟩, ⟨0x1FA8, 0x1FAF, 1, [0x1FA0]⟩,
  ⟨0x1FB8, 0x1FB9, 1, [0x1FB0]⟩, ⟨0x1FBA, 0x1FBB, 1, [0x1F70]⟩, ⟨0x1FBC, 0x1FBC, 1, [0x1FB3]⟩,
  ⟨0x1FC8, 0x1FCB, 1, [0x1F72]⟩, ⟨0x1FCC, 0x1FCC, 1, [0x1FC3]⟩, ⟨0x1FD8, 0x1FD9, 1, [0x1FD0]⟩,
  ⟨0x1FDA, 0x1FDB, 1, [0x1F76]⟩, ⟨0x1FE8, 0x1FE9, 1, [0x1FE0]⟩, ⟨0x1FEA, 0x1FEB, 1, [0x1F7A]⟩,
  ⟨0x1FEC, 0x1FEC, 1, [0x1FE5]⟩, ⟨0x1FF8, 0x1FF9, 1, [0x1F78]⟩, ⟨0x1FFA, 0x1FFB, 1, [0x1F7C]⟩,
  ⟨0x1FFC, 0x1FFC, 1, [0x1FF3]⟩, ⟨0x2126, 0x2126, 1, [0x3C9]⟩, ⟨0x212A, 0x212A, 1, [0x6B]⟩,
  ⟨0x212B, 0x212B, 1, [0xE5]⟩, ⟨0x2132, 0x2132, 1, [0x214E]⟩, ⟨0x2160, 0x216F, 1, [0x2170]⟩,
  ⟨0x2183, 0x2183, 1, [0x2184]⟩, ⟨0x24B6, 0x24CF, 1, [0x24D0]⟩, ⟨0x2C00, 0x2C2F, 1, [0x2C30]⟩,
  ⟨0x2C60, 0x2C60, 1, [0x2C61]⟩, ⟨0x2C62, 0x2C62, 1, [0x26B]⟩, ⟨0x2C63, 0x2C63, 1, [0x1D7D]⟩,
  ⟨0x2C64, 0x2C64, 1, [0x27D]⟩, ⟨0x2C67, 0x2C6B, 2, [0x2C68]⟩, ⟨0x2C6D, 0x2C6D, 1, [0x251]⟩,
  ⟨0x2C6E, 0x2C6E, 1, [0x271]⟩, ⟨0x2C6F, 0x2C6F, 1, [0x250]⟩, ⟨0x2C70, 0x2C70, 1, [0x252]⟩,
  ⟨0x2C72, 0x2C72, 1, [0x2C73]⟩, ⟨0x2C75, 0x2C75, 1, [0x2C76]⟩, ⟨0x2C7E, 0x2C7F, 1, [0x23F]⟩,
  ⟨0x2C80, 0x2CE2, 2, [0x2C81]⟩, ⟨0x2CEB, 0x2CED, 2, [0x2CEC]⟩, ⟨0x2CF2, 0x2CF2, 1, [0x2CF3]⟩,
  ⟨0xA640, 0xA66C, 2, [0xA641]⟩, ⟨0xA680, 0xA69A, 2, [0xA681]⟩, ⟨0xA722, 0xA72E, 2, [0xA723]⟩,
  ⟨0xA732, 0xA76E, 2, [0xA733]⟩, ⟨0xA779, 0xA77B, 2, [0xA77A]⟩, ⟨0xA77D, 0xA77D, 1, [0x1D79]⟩,
  ⟨0xA77E, 0xA786, 2, [0xA77F]⟩, ⟨0xA78B, 0xA78B, 1, [0xA78C]⟩, ⟨0xA78D, 0xA78D, 1, [0x265]⟩,
  ⟨0xA790, 0xA792, 2, [0xA791]⟩, ⟨0xA796, 0xA7A8, 2, [0xA797]⟩, ⟨0xA7AA, 0xA7AA, 1, [0x266]⟩,
  ⟨0xA7AB, 0xA7AB, 1, [0x25C]⟩, ⟨0xA7AC, 0xA7AC, 1, [0x261]⟩, ⟨0xA7AD, 0xA7AD, 1, [0x26C]⟩,
  ⟨0xA7AE, 0xA7AE, 1, [0x26A]⟩, ⟨0xA7B0, 0xA7B0, 1, [0x29E]⟩, ⟨0xA7B1, 0xA7B1, 1, [0x287]⟩,
  ⟨0xA7B2, 0xA7B2, 1, [0x29D]⟩, ⟨0xA7B3, 0xA7B3, 1, [0xAB53]⟩, ⟨0xA7B4, 0xA7C2, 2, [0xA7B5]⟩,
  ⟨0xA7C4, 0xA7C4, 1, [0xA794]⟩, ⟨0xA7C5, 0xA7C5, 1, [0x282]⟩, ⟨0xA7C6, 0xA7C6, 1, [0x1D8E]⟩,
  ⟨0xA7C7, 0xA7C9, 2, [0xA7C8]⟩, ⟨0xA7CB, 0xA7CB, 1, [0x264]⟩, ⟨0xA7CC, 0xA7DA, 2, [0xA7CD]⟩,
  ⟨0xA7DC, 0xA7DC, 1, [0x19B]⟩, ⟨0xA7F5, 0xA7F5, 1, [0xA7F6]⟩, ⟨0xFF21, 0xFF3A, 1, [0xFF41]⟩,
  ⟨0x10400, 0x10427, 1, [0x10428]⟩, ⟨0x104B0, 0x104D3, 1, [0x104D8]⟩,
  ⟨0x10570, 0x1057A, 1, [0x10597]⟩, ⟨0x1057C, 0x1058A, 1, [0x105A3]⟩,
  ⟨0x1058C, 0x10592, 1, [0x105B3]⟩, ⟨0x10594, 0x10595, 1, [0x105BB]⟩,
  ⟨0x10C80, 0x10CB2, 1, [0x10CC0]⟩, ⟨0x10D50, 0x10D65, 1, [0x10D70]⟩,
  ⟨0x118A0, 0x118BF, 1, [0x118C0]⟩, ⟨0x16E40, 0x16E5F, 1, [0x16E60]⟩,
  ⟨0x16EA0, 0x16EB8, 1, [0x16EBB]⟩, ⟨0x1E900, 0x1E921, 1, [0x1E922]⟩]⟩

def upperTable : CodeTable := ⟨[
  ⟨0x61, 0x7A, 1, [0x41]⟩, ⟨0xB5, 0xB5, 1, [0x39C]⟩, ⟨0xDF, 0xDF, 1, [0x53, 0x53]⟩,
  ⟨0xE0, 0xF6, 1, [0xC0]⟩, ⟨0xF8, 0xFE, 1, [0xD8]⟩, ⟨0xFF, 0xFF, 1, [0x178]⟩,
  ⟨0x101, 0x12F, 2, [0x100]⟩, ⟨0x131, 0x131, 1, [0x49]⟩, ⟨0x133, 0x137, 2, [0x132]⟩,
  ⟨0x13A, 0x148, 2, [0x139]⟩, ⟨0x149, 0x149, 1, [0x2BC, 0x4E]⟩, ⟨0x14B, 0x177, 2, [0x14A]⟩,
  ⟨0x17A, 0x17E, 2, [0x179]⟩, ⟨0x17F, 0x17F, 1, [0x53]⟩, ⟨0x180, 0x180, 1, [0x243]⟩,
  ⟨0x183, 0x185, 2, [0x182]⟩, ⟨0x188, 0x188, 1, [0x187]⟩, ⟨0x18C, 0x18C, 1, [0x18B]⟩,
  ⟨0x192, 0x192, 1, [0x191]⟩, ⟨0x195, 0x195, 1, [0x1F6]⟩, ⟨0x199, 0x199, 1, [0x198]⟩,
  ⟨0x19A, 0x19A, 1, [0x23D]⟩, ⟨0x19B, 0x19B, 1, [0xA7DC]⟩, ⟨0x19E, 0x19E, 1, [0x220]⟩,
  ⟨0x1A1, 0x1A5, 2, [0x1A0]⟩, ⟨0x1A8, 0x1A8, 1, [0x1A7]⟩, ⟨0x1AD, 0x1AD, 1, [0x1AC]⟩,
  ⟨0x1B0, 0x1B0, 1, [0x1AF]⟩, ⟨0x1B4, 0x1B6, 2, [0x1B3]⟩, ⟨0x1B9, 0x1B9, 1, [0x1B8]⟩,
  ⟨0x1BD, 0x1BD, 1, [0x1BC]⟩, ⟨0x1BF, 0x1BF, 1, [0x1F7]⟩, ⟨0x1C5, 0x1C5, 1, [0x1C4]⟩,
  ⟨0x1C6, 0x1C6, 1, [0x1C4]⟩, ⟨0x1C8, 0x1C8, 1, [0x1C7]⟩, ⟨0x1C9, 0x1C9, 1, [0x1C7]⟩,
  ⟨0x1CB, 0x1CB, 1, [0x1CA]⟩, ⟨0x1CC, 0x1CC, 1, [0x1CA]⟩, ⟨0x1CE, 0x1DC, 2, [0x1CD]⟩,
  ⟨0x1DD, 0x1DD, 1, [0x18E]⟩, ⟨0x1DF, 0x1EF, 2, [0x1DE]⟩, ⟨0x1F0, 0x1F0, 1, [0x4A, 0x30C]⟩,
  ⟨0x1F2, 0x1F2, 1, [0x1F1]⟩, ⟨0x1F3, 0x1F3, 1, [0x1F1]⟩, ⟨0x1F5, 0x1F5, 1, [0x1F4]⟩,
  ⟨0x1F9, 0x21F, 2, [0x1F8]⟩, ⟨0x223, 0x233, 2, [0x222]⟩, ⟨0x23C, 0x23C, 1, [0x23B]⟩,
  ⟨0x23F, 0x240, 1, [0x2C7E]⟩, ⟨0x242, 0x242, 1, [0x241]⟩, ⟨0x247, 0x24F, 2, [0x246]⟩,
  ⟨0x250, 0x250, 1, [0x2C6F]⟩, ⟨0x251, 0x251, 1, [0x2C6D]⟩, ⟨0x252, 0x252, 1, [0x2C70]⟩,
  ⟨0x253, 0x253, 1, [0x181]⟩, ⟨0x254, 0x254, 1, [0x186]⟩, ⟨0x256, 0x257, 1, [0x189]⟩,
  ⟨0x259, 0x259, 1, [0x18F]⟩, ⟨0x25B, 0x25B, 1, [0x190]⟩, ⟨0x25C, 0x25C, 1, [0xA7AB]⟩,
  ⟨0x260, 0x260, 1, [0x193]⟩, ⟨0x261, 0x261, 1, [0xA7AC]⟩, ⟨0x263, 0x263, 1, [0x194]⟩,
  ⟨0x264, 0x264, 1, [0xA7CB]⟩, ⟨0x265, 0x265, 1, [0xA78D]⟩, ⟨0x266, 0x266, 1, [0xA7AA]⟩,
  ⟨0x268, 0x268, 1, [0x197]⟩, ⟨0x269, 0x269, 1, [0x196]⟩, ⟨0x26A, 0x26A, 1, [0xA7AE]⟩,
  ⟨0x26B, 0x26B, 1, [0x2C62]⟩, ⟨0x26C, 0x26C, 1, [0xA7AD]⟩, ⟨0x26F, 0x26F, 1, [0x19C]⟩,
  ⟨0x271, 0x271, 1, [0x2C6E]⟩, ⟨0x272, 0x272, 1, [0x19D]⟩, ⟨0x275, 0x275, 1, [0x19F]⟩,
  ⟨0x27D, 0x27D, 1, [0x2C64]⟩, ⟨0x280, 0x280, 1, [0x1A6]⟩, ⟨0x282, 0x282, 1, [0xA7C5]⟩,
  ⟨0x283, 0x283, 1, [0x1A9]⟩, ⟨0x287, 0x287, 1, [0xA7B1]⟩, ⟨0x288, 0x288, 1, [0x1AE]⟩,
  ⟨0x289, 0x289, 1, [0x244]⟩, ⟨0x28A, 0x28B, 1, [0x1B1]⟩, ⟨0x28C, 0x28C, 1, [0x245]⟩,
  ⟨0x292, 0x292, 1, [0x1B7]⟩, ⟨0x29D, 0x29D, 1, [0xA7B2]⟩, ⟨0x29E, 0x29E, 1, [0xA7B0]⟩,
  ⟨0x345, 0x345, 1, [0x399]⟩, ⟨0x371, 0x373, 2, [0x370]⟩, ⟨0x377, 0x377, 1, [0x376]⟩,
  ⟨0x37B, 0x37D, 1, [0x3FD]⟩, ⟨0x390, 0x390, 1, [0x399, 0x308, 0x301]⟩,
  ⟨0x3AC, 0x3AC, 1, [0x386]⟩, ⟨0x3AD, 0x3AF, 1, [0x388]⟩,
  ⟨0x3B0, 0x3B0, 1, [0x3A5, 0x308, 0x301]⟩, ⟨0x3B1, 0x3C1, 1, [0x391]⟩,
  ⟨0x3C2, 0x3C2, 1, [0x3A3]⟩, ⟨0x3C3, 0x3CB, 1, [0x3A3]⟩, ⟨0x3CC, 0x3CC, 1, [0x38C]⟩,
  ⟨0x3CD, 0x3CE, 1, [0x38E]⟩, ⟨0x3D0, 0x3D0, 1, [0x392]⟩, ⟨0x3D1, 0x3D1, 1, [0x398]⟩,
  ⟨0x3D5, 0x3D5, 1, [0x3A6]⟩, ⟨0x3D6, 0x3D6, 1, [0x3A0]⟩, ⟨0x3D7, 0x3D7, 1, [0x3CF]⟩,
  ⟨0x3D9, 0x3EF, 2, [0x3D8]⟩, ⟨0x3F0, 0x3F0, 1, [0x39A]⟩, ⟨0x3F1, 0x3F1, 1, [0x3A1]⟩,
  ⟨0x3F2, 0x3F2, 1, [0x3F9]⟩, ⟨0x3F3, 0x3F3, 1, [0x37F]⟩, ⟨0x3F5, 0x3F5, 1, [0x395]⟩,
  ⟨0x3F8, 0x3F8, 1, [0x3F7]⟩, ⟨0x3FB, 0x3FB, 1, [0x3FA]⟩, ⟨0x430, 0x44F, 1, [0x410]⟩,
  ⟨0x450, 0x45F, 1, [0x400]⟩, ⟨0x461, 0x481, 2, [0x460]⟩, ⟨0x48B, 0x4BF, 2, [0x48A]⟩,
  ⟨0x4C2, 0x4CE, 2, [0x4C1]⟩, ⟨0x4CF, 0x4CF, 1, [0x4C0]⟩, ⟨0x4D1, 0x52F, 2, [0x4D0]⟩,
  ⟨0x561, 0x586, 1, [0x531]⟩, ⟨0x587, 0x587, 1, [0x535, 0x552]⟩, ⟨0x10D0, 0x10FA, 1, [0x1C90]⟩,
  ⟨0x10FD, 0x10FF, 1, [0x1CBD]⟩, ⟨0x13F8, 0x13FD, 1, [0x13F0]⟩, ⟨0x1C80, 0x1C80, 1, [0x412]⟩,
  ⟨0x1C81, 0x1C81, 1, [0x414]⟩, ⟨0x1C82, 0x1C82, 1, [0x41E]⟩, ⟨0x1C83, 0x1C84, 1, [0x421]⟩,
  ⟨0x1C85, 0x1C85, 1, [0x422]⟩, ⟨0x1C86, 0x1C86, 1, [0x42A]⟩, ⟨0x1C87, 0x1C87, 1, [0x462]⟩,
  ⟨0x1C88, 0x1C88, 1, [0xA64A]⟩, ⟨0x1C8A, 0x1C8A, 1, [0x1C89]⟩, ⟨0x1D79, 0x1D79, 1, [0xA77D]⟩,
  ⟨0x1D7D, 0x1D7D, 1, [0x2C63]⟩, ⟨0x1D8E, 0x1D8E, 1, [0xA7C6]⟩, ⟨0x1E01, 0x1E95, 2, [0x1E00]⟩,
  ⟨0x1E96, 0x1E96, 1, [0x48, 0x331]⟩, ⟨0x1E97, 0x1E97, 1, [0x54, 0x308]⟩,
  ⟨0x1E98, 0x1E98, 1, [0x57, 0x30A]⟩, ⟨0x1E99, 0x1E99, 1, [0x59, 0x30A]⟩,
  ⟨0x1E9A, 0x1E9A, 1, [0x41, 0x2BE]⟩, ⟨0x1E9B, 0x1E9B, 1, [0x1E60]⟩,
  ⟨0x1EA1, 0x1EFF, 2, [0x1EA0]⟩, ⟨0x1F00, 0x1F07, 1, [0x1F08]⟩, ⟨0x1F10, 0x1F15, 1, [0x1F18]⟩,
  ⟨0x1F20, 0x1F27, 1, [0x1F28]⟩, ⟨0x1F30, 0x1F37, 1, [0x1F38]⟩, ⟨0x1F40, 0x1F45, 1, [0x1F48]⟩,
  ⟨0x1F50, 0x1F50, 1, [0x3A5, 0x313]⟩, ⟨0x1F51, 0x1F51, 1, [0x1F59]⟩,
  ⟨0x1F52, 0x1F52, 1, [0x3A5, 0x313, 0x300]⟩, ⟨0x1F53, 0x1F53, 1, [0x1F5B]⟩,
  ⟨0x1F54, 0x1F54, 1, [0x3A5, 0x313, 0x301]⟩, ⟨0x1F55, 0x1F55, 1, [0x1F5D]⟩,
  ⟨0x1F56, 0x1F56, 1, [0x3A5, 0x313, 0x342]⟩, ⟨0x1F57, 0x1F57, 1, [0x1F5F]⟩,
  ⟨0x1F60, 0x1F67, 1, [0x1F68]⟩, ⟨0x1F70, 0x1F71, 1, [0x1FBA]⟩, ⟨0x1F72, 0x1F75, 1, [0x1FC8]⟩,
  ⟨0x1F76, 0x1F77, 1, [0x1FDA]⟩, ⟨0x1F78, 0x1F79, 1, [0x1FF8]⟩, ⟨0x1F7A, 0x1F7B, 1, [0x1FEA]⟩,
  ⟨0x1F7C, 0x1F7D, 1, [0x1FFA]⟩, ⟨0x1F80, 0x1F80, 1, [0x1F08, 0x399]⟩,
  ⟨0x1F81, 0x1F81, 1, [0x1F09, 0x399]⟩, ⟨0x1F82, 0x1F82, 1, [0x1F0A, 0x399]⟩,
  ⟨0x1F83, 0x1F83, 1, [0x1F0B, 0x399]⟩, ⟨0x1F84, 0x1F84, 1, [0x1F0C, 0x399]⟩,
  ⟨0x1F85, 0x1F85, 1, [0x1F0D, 0x399]⟩, ⟨0x1F86, 0x1F86, 1, [0x1F0E, 0x399]⟩,
  ⟨0x1F87, 0x1F87, 1, [0x1F0F, 0x399]⟩, ⟨0x1F88, 0x1F88, 1, [0x1F08, 0x399]⟩,
  ⟨0x1F89, 0x1F89, 1, [0x1F09, 0x399]⟩, ⟨0x1F8A, 0x1F8A, 1, [0x1F0A, 0x399]⟩,
  ⟨0x1F8B, 0x1F8B, 1, [0x1F0B, 0x399]⟩, ⟨0x1F8C, 0x1F8C, 1, [0x1F0C, 0x399]⟩,
  ⟨0x1F8D, 0x1F8D, 1, [0x1F0D, 0x399]⟩, ⟨0x1F8E, 0x1F8E, 1, [0x1F0E, 0x399]⟩,
  ⟨0x1F8F, 0x1F8F, 1, [0x1F0F, 0x399]⟩, ⟨0x1F90, 0x1F90, 1, [0x1F28, 0x399]⟩,
  ⟨0x1F91, 0x1F91, 1, [0x1F29, 0x399]⟩, ⟨0x1F92, 0x1F92, 1, [0x1F2A, 0x399]⟩,
  ⟨0x1F93, 0x1F93, 1, [0x1F2B, 0x399]⟩, ⟨0x1F94, 0x1F94, 1, [0x1F2C, 0x399]⟩,
  ⟨0x1F95, 0x1F95, 1, [0x1F2D, 0x399]⟩, ⟨0x1F96, 0x1F96, 1, [0x1F2E, 0x399]⟩,
  ⟨0x1F97, 0x1F97, 1, [0x1F2F, 0x399]⟩, ⟨0x1F98, 0x1F98, 1, [0x1F28, 0x399]⟩,
  ⟨0x1F99, 0x1F99, 1, [0x1F29, 0x399]⟩, ⟨0x1F9A, 0x1F9A, 1, [0x1F2A, 0x399]⟩,
  ⟨0x1F9B, 0x1F9B, 1, [0x1F2B, 0x399]⟩, ⟨0x1F9C, 0x1F9C, 1, [0x1F2C, 0x399]⟩,
  ⟨0x1F9D, 0x1F9D, 1, [0x1F2D, 0x399]⟩, ⟨0x1F9E, 0x1F9E, 1, [0x1F2E, 0x399]⟩,
  ⟨0x1F9F, 0x1F9F, 1, [0x1F2F, 0x399]⟩, ⟨0x1FA0, 0x1FA0, 1, [0x1F68, 0x399]⟩,
  ⟨0x1FA1, 0x1FA1, 1, [0x1F69, 0x399]⟩, ⟨0x1FA2, 0x1FA2, 1, [0x1F6A, 0x399]⟩,
  ⟨0x1FA3, 0x1FA3, 1, [0x1F6B, 0x399]⟩, ⟨0x1FA4, 0x1FA4, 1, [0x1F6C, 0x399]⟩,
  ⟨0x1FA5, 0x1FA5, 1, [0x1F6D, 0x399]⟩, ⟨0x1FA6, 0x1FA6, 1, [0x1F6E, 0x399]⟩,
  ⟨0x1FA7, 0x1FA7, 1, [0x1F6F, 0x399]⟩, ⟨0x1FA8, 0x1FA8, 1, [0x1F68, 0x399]⟩,
  ⟨0x1FA9, 0x1FA9, 1, [0x1F69, 0x399]⟩, ⟨0x1FAA, 0x1FAA, 1, [0x1F6A, 0x399]⟩,
  ⟨0x1FAB, 0x1FAB, 1, [0x1F6B, 0x399]⟩, ⟨0x1FAC, 0x1FAC, 1, [0x1F6C, 0x399]⟩,
  ⟨0x1FAD, 0x1FAD, 1, [0x1F6D, 0x399]⟩, ⟨0x1FAE, 0x1FAE, 1, [0x1F6E, 0x399]⟩,
  ⟨0x1FAF, 0x1FAF, 1, [0x1F6F, 0x399]⟩, ⟨0x1FB0, 0x1FB1, 1, [0x1FB8]⟩,
  ⟨0x1FB2, 0x1FB2, 1, [0x1FBA, 0x399]⟩, ⟨0x1FB3, 0x1FB3, 1, [0x391, 0x399]⟩,
  ⟨0x1FB4, 0x1FB4, 1, [0x386, 0x399]⟩, ⟨0x1FB6, 0x1FB6, 1, [0x391, 0x342]⟩,
  ⟨0x1FB7, 0x1FB7, 1, [0x391, 0x342, 0x399]⟩, ⟨0x1FBC, 0x1FBC, 1, [0x391, 0x399]⟩,
  ⟨0x1FBE, 0x1FBE, 1, [0x399]⟩, ⟨0x1FC2, 0x1FC2, 1, [0x1FCA, 0x399]⟩,
  ⟨0x1FC3, 0x1FC3, 1, [0x397, 0x399]⟩, ⟨0x1FC4, 0x1FC4, 1, [0x389, 0x399]⟩,
  ⟨0x1FC6, 0x1FC6, 1, [0x397, 0x342]⟩, ⟨0x1FC7, 0x1FC7, 1, [0x397, 0x342, 0x399]⟩,
  ⟨0x1FCC, 0x1FCC, 1, [0x397, 0x399]⟩, ⟨0x1FD0, 0x1FD1, 1, [0x1FD8]⟩,
  ⟨0x1FD2, 0x1FD2, 1, [0x399, 0x308, 0x300]⟩, ⟨0x1FD3, 0x1FD3, 1, [0x399, 0x308, 0x301]⟩,
  ⟨0x1FD6, 0x1FD6, 1, [0x399, 0x342]⟩, ⟨0x1FD7, 0x1FD7, 1, [0x399, 0x308, 0x342]⟩,
  ⟨0x1FE0, 0x1FE1, 1, [0x1FE8]⟩, ⟨0x1FE2, 0x1FE2, 1, [0x3A5, 0x308, 0x300]⟩,
  ⟨0x1FE3, 0x1FE3, 1, [0x3A5, 0x308, 0x301]⟩, ⟨0x1FE4, 0x1FE4, 1, [0x3A1, 0x313]⟩,
  ⟨0x1FE5, 0x1FE5, 1, [0x1FEC]⟩, ⟨0x1FE6, 0x1FE6, 1, [0x3A5, 0x342]⟩,
  ⟨0x1FE7, 0x1FE7, 1, [0x3A5, 0x308, 0x342]⟩, ⟨0x1FF2, 0x1FF2, 1, [0x1FFA, 0x399]⟩,
  ⟨0x1FF3, 0x1FF3, 1, [0x3A9, 0x399]⟩, ⟨0x1FF4, 0x1FF4, 1, [0x38F, 0x399]⟩,
  ⟨0x1FF6, 0x1FF6, 1, [0x3A9, 0x342]⟩, ⟨0x1FF7, 0x1FF7, 1, [0x3A9, 0x342, 0x399]⟩,
  ⟨0x1FFC, 0x1FFC, 1, [0x3A9, 0x399]⟩, ⟨0x214E, 0x214E, 1, [0x2132]⟩,
  ⟨0x2170, 0x217F, 1, [0x2160]⟩, ⟨0x2184, 0x2184, 1, [0x2183]⟩, ⟨0x24D0, 0x24E9, 1, [0x24B6]⟩,
  ⟨0x2C30, 0x2C5F, 1, [0x2C00]⟩, ⟨0x2C61, 0x2C61, 1, [0x2C60]⟩, ⟨0x2C65, 0x2C65, 1, [0x23A]⟩,
  ⟨0x2C66, 0x2C66, 1, [0x23E]⟩, ⟨0x2C68, 0x2C6C, 2, [0x2C67]⟩, ⟨0x2C73, 0x2C73, 1, [0x2C72]⟩,
  ⟨0x2C76, 0x2C76, 1, [0x2C75]⟩, ⟨0x2C81, 0x2CE3, 2, [0x2C80]⟩, ⟨0x2CEC, 0x2CEE, 2, [0x2CEB]⟩,
  ⟨0x2CF3, 0x2CF3, 1, [0x2CF2]⟩, ⟨0x2D00, 0x2D25, 1, [0x10A0]⟩, ⟨0x2D27, 0x2D27, 1, [0x10C7]⟩,
  ⟨0x2D2D, 0x2D2D, 1, [0x10CD]⟩, ⟨0xA641, 0xA66D, 2, [0xA640]⟩, ⟨0xA681, 0xA69B, 2, [0xA680]⟩,
  ⟨0xA723, 0xA72F, 2, [0xA722]⟩, ⟨0xA733, 0xA76F, 2, [0xA732]⟩, ⟨0xA77A, 0xA77C, 2, [0xA779]⟩,
  ⟨0xA77F, 0xA787, 2, [0xA77E]⟩, ⟨0xA78C, 0xA78C, 1, [0xA78B]⟩, ⟨0xA791, 0xA793, 2, [0xA790]⟩,
  ⟨0xA794, 0xA794, 1, [0xA7C4]⟩, ⟨0xA797, 0xA7A9, 2, [0xA796]⟩, ⟨0xA7B5, 0xA7C3, 2, [0xA7B4]⟩,
  ⟨0xA7C8, 0xA7CA, 2, [0xA7C7]⟩, ⟨0xA7CD, 0xA7DB, 2, [0xA7CC]⟩, ⟨0xA7F6, 0xA7F6, 1, [0xA7F5]⟩,
  ⟨0xAB53, 0xAB53, 1, [0xA7B3]⟩, ⟨0xAB70, 0xABBF, 1, [0x13A0]⟩, ⟨0xFB00, 0xFB00, 1, [0x46, 0x46]⟩,
  ⟨0xFB01, 0xFB01, 1, [0x46, 0x49]⟩, ⟨0xFB02, 0xFB02, 1, [0x46, 0x4C]⟩,
  ⟨0xFB03, 0xFB03, 1, [0x46, 0x46, 0x49]⟩, ⟨0xFB04, 0xFB04, 1, [0x46, 0x46, 0x4C]⟩,
  ⟨0xFB05, 0xFB05, 1, [0x53, 0x54]⟩, ⟨0xFB06, 0xFB06, 1, [0x53, 0x54]⟩,
  ⟨0xFB13, 0xFB13, 1, [0x544, 0x546]⟩, ⟨0xFB14, 0xFB14, 1, [0x544, 0x535]⟩,
  ⟨0xFB15, 0xFB15, 1, [0x544, 0x53B]⟩, ⟨0xFB16, 0xFB16, 1, [0x54E, 0x546]⟩,
  ⟨0xFB17, 0xFB17, 1, [0x544, 0x53D]⟩, ⟨0xFF41, 0xFF5A, 1, [0xFF21]⟩,
  ⟨0x10428, 0x1044F, 1, [0x10400]⟩, ⟨0x104D8, 0x104FB, 1, [0x104B0]⟩,
  ⟨0x10597, 0x105A1, 1, [0x10570]⟩, ⟨0x105A3, 0x105B1, 1, [0x1057C]⟩,
  ⟨0x105B3, 0x105B9, 1, [0x1058C]⟩, ⟨0x105BB, 0x105BC, 1, [0x10594]⟩,
  ⟨0x10CC0, 0x10CF2, 1, [0x10C80]⟩, ⟨0x10D70, 0x10D85, 1, [0x10D50]⟩,
  ⟨0x118C0, 0x118DF, 1, [0x118A0]⟩, ⟨0x16E60, 0x16E7F, 1, [0x16E40]⟩,
  ⟨0x16EBB, 0x16ED3, 1, [0x16EA0]⟩, ⟨0x1E922, 0x1E943, 1, [0x1E900]⟩]⟩

def casedTable : CodeTable := .ofText
  "41-5A 61-7A AA B5 BA C0-D6 D8-F6 F8-1BA 1BC-1BF 1C4-293 296-2B8 2C0-2C1 2E0-2E4 345 370-373
    376-377 37A-37D 37F 386 388-38A 38C 38E-3A1 3A3-3F5 3F7-481 48A-52F 531-556 560-588
    10A0-10C5 10C7 10CD 10D0-10FA 10FC-10FF 13A0-13F5 13F8-13FD 1C80-1C8A 1C90-1CBA 1CBD-1CBF
    1D00-1DBF 1E00-1F15 1F18-1F1D 1F20-1F45 1F48-1F4D 1F50-1F57 1F59-1F5F/2 1F60-1F7D 1F80-1FB4
    1FB6-1FBC 1FBE 1FC2-1FC4 1FC6-1FCC 1FD0-1FD3 1FD6-1FDB 1FE0-1FEC 1FF2-1FF4 1FF6-1FFC 2071
    207F 2090-209C 2102 2107 210A-2113 2115 2119-211D 2124-212A/2 212B-212D 212F-2134 2139
    213C-213F 2145-2149 214E 2160-217F 2183-2184 24B6-24E9 2C00-2CE4 2CEB-2CEE 2CF2-2CF3
    2D00-2D25 2D27 2D2D A640-A66D A680-A69D A722-A787 A78B-A78E A790-A7DC A7F1-A7F6 A7F8-A7FA
    AB30-AB5A AB5C-AB69 AB70-ABBF FB00-FB06 FB13-FB17 FF21-FF3A FF41-FF5A 10400-1044F
    104B0-104D3 104D8-104FB 10570-1057A 1057C-1058A 1058C-10592 10594-10595 10597-105A1
    105A3-105B1 105B3-105B9 105BB-105BC 10780 10783-10785 10787-107B0 107B2-107BA 10C80-10CB2
    10CC0-10CF2 10D50-10D65 10D70-10D85 118A0-118DF 16E40-16E7F 16EA0-16EB8 16EBB-16ED3
    1D400-1D454 1D456-1D49C 1D49E-1D49F 1D4A2 1D4A5-1D4A6 1D4A9-1D4AC 1D4AE-1D4B9 1D4BB
    1D4BD-1D4C3 1D4C5-1D505 1D507-1D50A 1D50D-1D514 1D516-1D51C 1D51E-1D539 1D53B-1D53E
    1D540-1D544 1D546 1D54A-1D550 1D552-1D6A5 1D6A8-1D6C0 1D6C2-1D6DA 1D6DC-1D6FA 1D6FC-1D714
    1D716-1D734 1D736-1D74E 1D750-1D76E 1D770-1D788 1D78A-1D7A8 1D7AA-1D7C2 1D7C4-1D7CB
    1DF00-1DF09 1DF0B-1DF1E 1DF25-1DF2A 1E030-1E06D 1E900-1E943 1F130-1F149 1F150-1F169
    1F170-1F189"

/-- Characters without a case that may stand inside a word. -/
def caseIgnorableTable : CodeTable := .ofText
  "27 2E 3A 5E 60 A8 AD AF B4 B7-B8 2B0-36F 374-375 37A 384-385 387 483-489 559 55F 591-5BD 5BF
    5C1-5C2 5C4-5C5 5C7 5F4 600-605 610-61A 61C 640 64B-65F 670 6D6-6DD 6DF-6E8 6EA-6ED 70F 711
    730-74A 7A6-7B0 7EB-7F5 7FA 7FD 816-82D 859-85B 888 890-891 897-89F 8C9-902 93A 93C 941-948
    94D 951-957 962-963 971 981 9BC 9C1-9C4 9CD 9E2-9E3 9FE A01-A02 A3C A41-A42 A47-A48 A4B-A4D
    A51 A70-A71 A75 A81-A82 ABC AC1-AC5 AC7-AC8 ACD AE2-AE3 AFA-AFF B01 B3C B3F B41-B44 B4D
    B55-B56 B62-B63 B82 BC0 BCD C00 C04 C3C C3E-C40 C46-C48 C4A-C4D C55-C56 C62-C63 C81 CBC CBF
    CC6 CCC-CCD CE2-CE3 D00-D01 D3B-D3C D41-D44 D4D D62-D63 D81 DCA DD2-DD4 DD6 E31 E34-E3A
    E46-E4E EB1 EB4-EBC EC6 EC8-ECE F18-F19 F35-F39/2 F71-F7E F80-F84 F86-F87 F8D-F97 F99-FBC
    FC6 102D-1030 1032-1037 1039-103A 103D-103E 1058-1059 105E-1060 1071-1074 1082 1085-1086
    108D 109D 10FC 135D-135F 1712-1714 1732-1733 1752-1753 1772-1773 17B4-17B5 17B7-17BD 17C6
    17C9-17D3 17D7 17DD 180B-180F 1843 1885-1886 18A9 1920-1922 1927-1928 1932 1939-193B
    1A17-1A18 1A1B 1A56 1A58-1A5E 1A60 1A62 1A65-1A6C 1A73-1A7C 1A7F 1AA7 1AB0-1ADD 1AE0-1AEB
    1B00-1B03 1B34 1B36-1B3A 1B3C 1B42 1B6B-1B73 1B80-1B81 1BA2-1BA5 1BA8-1BA9 1BAB-1BAD 1BE6
    1BE8-1BE9 1BED 1BEF-1BF1 1C2C-1C33 1C36-1C37 1C78-1C7D 1CD0-1CD2 1CD4-1CE0 1CE2-1CE8 1CED
    1CF4 1CF8-1CF9 1D2C-1D6A 1D78 1D9B-1DFF 1FBD 1FBF-1FC1 1FCD-1FCF 1FDD-1FDF 1FED-1FEF
    1FFD-1FFE 200B-200F 2018-2019 2024 2027 202A-202E 2060-2064 2066-206F 2071 207F 2090-209C
    20D0-20F0 2C7C-2C7D 2CEF-2CF1 2D6F 2D7F 2DE0-2DFF 2E2F 3005 302A-302D 3031-3035 303B
    3099-309E 30FC-30FE A015 A4F8-A4FD A60C A66F-A672 A674-A67D A67F A69C-A69F A6F0-A6F1
    A700-A721 A770 A788-A78A A7F1-A7F4 A7F8-A7F9 A802 A806 A80B A825-A826 A82C A8C4-A8C5
    A8E0-A8F1 A8FF A926-A92D A947-A951 A980-A982 A9B3 A9B6-A9B9 A9BC-A9BD A9CF A9E5-A9E6
    AA29-AA2E AA31-AA32 AA35-AA36 AA43 AA4C AA70 AA7C AAB0 AAB2-AAB4 AAB7-AAB8 AABE-AABF AAC1
    AADD AAEC-AAED AAF3-AAF4 AAF6 AB5B-AB5F AB69-AB6B ABE5 ABE8 ABED FB1E FBB2-FBC2 FE00-FE0F
    FE13 FE20-FE2F FE52 FE55 FEFF FF07 FF0E FF1A FF3E FF40 FF70 FF9E-FF9F FFE3 FFF9-FFFB 101FD
    102E0 10376-1037A 10780-10785 10787-107B0 107B2-107BA 10A01-10A03 10A05-10A06 10A0C-10A0F
    10A38-10A3A 10A3F 10AE5-10AE6 10D24-10D27 10D4E 10D69-10D6D 10D6F 10EAB-10EAC 10EC5
    10EFA-10EFF 10F46-10F50 10F82-10F85 11001 11038-11046 11070 11073-11074 1107F-11081
    110B3-110B6 110B9-110BA 110BD 110C2 110CD 11100-11102 11127-1112B 1112D-11134 11173
    11180-11181 111B6-111BE 111C9-111CC 111CF 1122F-11231 11234 11236-11237 1123E 11241 112DF
    112E3-112EA 11300-11301 1133B-1133C 11340 11366-1136C 11370-11374 113BB-113C0 113CE-113D2/2
    113E1-113E2 11438-1143F 11442-11444 11446 1145E 114B3-114B8 114BA 114BF-114C0 114C2-114C3
    115B2-115B5 115BC-115BD 115BF-115C0 115DC-115DD 11633-1163A 1163D 1163F-11640 116AB 116AD
    116B0-116B5 116B7 1171D 1171F 11722-11725 11727-1172B 1182F-11837 11839-1183A 1193B-1193C
    1193E 11943 119D4-119D7 119DA-119DB 119E0 11A01-11A0A 11A33-11A38 11A3B-11A3E 11A47
    11A51-11A56 11A59-11A5B 11A8A-11A96 11A98-11A99 11B60 11B62-11B64 11B66 11C30-11C36
    11C38-11C3D 11C3F 11C92-11CA7 11CAA-11CB0 11CB2-11CB3 11CB5-11CB6 11D31-11D36 11D3A
    11D3C-11D3D 11D3F-11D45 11D47 11D90-11D91 11D95 11D97 11DD9 11EF3-11EF4 11F00-11F01
    11F36-11F3A 11F40 11F42 11F5A 13430-13440 13447-13455 1611E-16129 1612D-1612F 16AF0-16AF4
    16B30-16B36 16B40-16B43 16D40-16D42 16D6B-16D6C 16F4F 16F8F-16F9F 16FE0-16FE1 16FE3-16FE4
    16FF2-16FF3 1AFF0-1AFF3 1AFF5-1AFFB 1AFFD-1AFFE 1BC9D-1BC9E 1BCA0-1BCA3 1CF00-1CF2D
    1CF30-1CF46 1D167-1D169 1D173-1D182 1D185-1D18B 1D1AA-1D1AD 1D242-1D244 1DA00-1DA36
    1DA3B-1DA6C 1DA75 1DA84 1DA9B-1DA9F 1DAA1-1DAAF 1E000-1E006 1E008-1E018 1E01B-1E021
    1E023-1E024 1E026-1E02A 1E030-1E06D 1E08F 1E130-1E13D 1E2AE 1E2EC-1E2EF 1E4EB-1E4EF
    1E5EE-1E5EF 1E6E3 1E6E6 1E6EE-1E6EF 1E6F5 1E6FF 1E8D0-1E8D6 1E944-1E94B 1F3FB-1F3FF E0001
    E0020-E007F E0100-E01EF"

/-- For each letter the others that it is equal to when case is ignored. -/
def foldTable : CodeTable := .ofText
  "41-4A>61 4B>6B+212A 4C-52>6C 53>73+17F 54-5A>74 61-6A>41 6B>4B+212A 6C-72>4C 73>53+17F 74-7A>54
    B5>39C+3BC C0-C4>E0 C5>E5+212B C6-D6>E6 D8-DE>F8 DF>1E9E E0-E4>C0 E5>C5+212B E6-F6>C6 F8-FE>D8
    FF>178 100>101 101>100 102>103 103>102 104>105 105>104 106>107 107>106 108>109 109>108 10A>10B
    10B>10A 10C>10D 10D>10C 10E>10F 10F>10E 110>111 111>110 112>113 113>112 114>115 115>114
    116>117 117>116 118>119 119>118 11A>11B 11B>11A 11C>11D 11D>11C 11E>11F 11F>11E 120>121
    121>120 122>123 123>122 124>125 125>124 126>127 127>126 128>129 129>128 12A>12B 12B>12A
    12C>12D 12D>12C 12E>12F 12F>12E 132>133 133>132 134>135 135>134 136>137 137>136 139>13A
    13A>139 13B>13C 13C>13B 13D>13E 13E>13D 13F>140 140>13F 141>142 142>141 143>144 144>143
    145>146 146>145 147>148 148>147 14A>14B 14B>14A 14C>14D 14D>14C 14E>14F 14F>14E 150>151
    151>150 152>153 153>152 154>155 155>154 156>157 157>156 158>159 159>158 15A>15B 15B>15A
    15C>15D 15D>15C 15E>15F 15F>15E 160>161 161>160 162>163 163>162 164>165 165>164 166>167
    167>166 168>169 169>168 16A>16B 16B>16A 16C>16D 16D>16C 16E>16F 16F>16E 170>171 171>170
    172>173 173>172 174>175 175>174 176>177 177>176 178>FF 179>17A 17A>179 17B>17C 17C>17B 17D>17E
    17E>17D 17F>53+73 180>243 181>253 182>183 183>182 184>185 185>184 186>254 187>188 188>187
    189-18A>256 18B>18C 18C>18B 18E>1DD 18F>259 190>25B 191>192 192>191 193>260 194>263 195>1F6
    196>269 197>268 198>199 199>198 19A>23D 19B>A7DC 19C>26F 19D>272 19E>220 19F>275 1A0>1A1
    1A1>1A0 1A2>1A3 1A3>1A2 1A4>1A5 1A5>1A4 1A6>280 1A7>1A8 1A8>1A7 1A9>283 1AC>1AD 1AD>1AC
    1AE>288 1AF>1B0 1B0>1AF 1B1-1B2>28A 1B3>1B4 1B4>1B3 1B5>1B6 1B6>1B5 1B7>292 1B8>1B9 1B9>1B8
    1BC>1BD 1BD>1BC 1BF>1F7 1C4>1C5+1C6 1C5>1C4+1C6 1C6>1C4+1C5 1C7>1C8+1C9 1C8>1C7+1C9
    1C9>1C7+1C8 1CA>1CB+1CC 1CB>1CA+1CC 1CC>1CA+1CB 1CD>1CE 1CE>1CD 1CF>1D0 1D0>1CF 1D1>1D2
    1D2>1D1 1D3>1D4 1D4>1D3 1D5>1D6 1D6>1D5 1D7>1D8 1D8>1D7 1D9>1DA 1DA>1D9 1DB>1DC 1DC>1DB
    1DD>18E 1DE>1DF 1DF>1DE 1E0>1E1 1E1>1E0 1E2>1E3 1E3>1E2 1E4>1E5 1E5>1E4 1E6>1E7 1E7>1E6
    1E8>1E9 1E9>1E8 1EA>1EB 1EB>1EA 1EC>1ED 1ED>1EC 1EE>1EF 1EF>1EE 1F1>1F2+1F3 1F2>1F1+1F3
    1F3>1F1+1F2 1F4>1F5 1F5>1F4 1F6>195 1F7>1BF 1F8>1F9 1F9>1F8 1FA>1FB 1FB>1FA 1FC>1FD 1FD>1FC
    1FE>1FF 1FF>1FE 200>201 201>200 202>203 203>202 204>205 205>204 206>207 207>206 208>209
    209>208 20A>20B 20B>20A 20C>20D 20D>20C 20E>20F 20F>20E 210>211 211>210 212>213 213>212
    214>215 215>214 216>217 217>216 218>219 219>218 21A>21B 21B>21A 21C>21D 21D>21C 21E>21F
    21F>21E 220>19E 222>223 223>222 224>225 225>224 226>227 227>226 228>229 229>228 22A>22B
    22B>22A 22C>22D 22D>22C 22E>22F 22F>22E 230>231 231>230 232>233 233>232 23A>2C65 23B>23C
    23C>23B 23D>19A 23E>2C66 23F-240>2C7E 241>242 242>241 243>180 244>289 245>28C 246>247 247>246
    248>249 249>248 24A>24B 24B>24A 24C>24D 24D>24C 24E>24F 24F>24E 250>2C6F 251>2C6D 252>2C70
    253>181 254>186 256-257>189 259>18F 25B>190 25C>A7AB 260>193 261>A7AC 263>194 264>A7CB
    265>A78D 266>A7AA 268>197 269>196 26A>A7AE 26B>2C62 26C>A7AD 26F>19C 271>2C6E 272>19D 275>19F
    27D>2C64 280>1A6 282>A7C5 283>1A9 287>A7B1 288>1AE 289>244 28A-28B>1B1 28C>245 292>1B7
    29D>A7B2 29E>A7B0 345>399+3B9+1FBE 370>371 371>370 372>373 373>372 376>377 377>376 37B-37D>3FD
    37F>3F3 386>3AC 388-38A>3AD 38C>3CC 38E-38F>3CD 390>1FD3 391>3B1 392>3B2+3D0 393-394>3B3
    395>3B5+3F5 396-397>3B6 398>3B8+3D1+3F4 399>345+3B9+1FBE 39A>3BA+3F0 39B>3BB 39C>B5+3BC
    39D-39F>3BD 3A0>3C0+3D6 3A1>3C1+3F1 3A3>3C2+3C3 3A4-3A5>3C4 3A6>3C6+3D5 3A7-3A8>3C7
    3A9>3C9+2126 3AA-3AB>3CA 3AC>386 3AD-3AF>388 3B0>1FE3 3B1>391 3B2>392+3D0 3B3-3B4>393
    3B5>395+3F5 3B6-3B7>396 3B8>398+3D1+3F4 3B9>345+399+1FBE 3BA>39A+3F0 3BB>39B 3BC>B5+39C
    3BD-3BF>39D 3C0>3A0+3D6 3C1>3A1+3F1 3C2>3A3+3C3 3C3>3A3+3C2 3C4-3C5>3A4 3C6>3A6+3D5
    3C7-3C8>3A7 3C9>3A9+2126 3CA-3CB>3AA 3CC>38C 3CD-3CE>38E 3CF>3D7 3D0>392+3B2 3D1>398+3B8+3F4
    3D5>3A6+3C6 3D6>3A0+3C0 3D7>3CF 3D8>3D9 3D9>3D8 3DA>3DB 3DB>3DA 3DC>3DD 3DD>3DC 3DE>3DF
    3DF>3DE 3E0>3E1 3E1>3E0 3E2>3E3 3E3>3E2 3E4>3E5 3E5>3E4 3E6>3E7 3E7>3E6 3E8>3E9 3E9>3E8
    3EA>3EB 3EB>3EA 3EC>3ED 3ED>3EC 3EE>3EF 3EF>3EE 3F0>39A+3BA 3F1>3A1+3C1 3F2>3F9 3F3>37F
    3F4>398+3B8+3D1 3F5>395+3B5 3F7>3F8 3F8>3F7 3F9>3F2 3FA>3FB 3FB>3FA 3FD-3FF>37B 400-40F>450
    410-411>430 412>432+1C80 413>433 414>434+1C81 415-41D>435 41E>43E+1C82 41F-420>43F
    421>441+1C83 422>442+1C84+1C85 423-429>443 42A>44A+1C86 42B-42F>44B 430-431>410 432>412+1C80
    433>413 434>414+1C81 435-43D>415 43E>41E+1C82 43F-440>41F 441>421+1C83 442>422+1C84+1C85
    443-449>423 44A>42A+1C86 44B-44F>42B 450-45F>400 460>461 461>460 462>463+1C87 463>462+1C87
    464>465 465>464 466>467 467>466 468>469 469>468 46A>46B 46B>46A 46C>46D 46D>46C 46E>46F
    46F>46E 470>471 471>470 472>473 473>472 474>475 475>474 476>477 477>476 478>479 479>478
    47A>47B 47B>47A 47C>47D 47D>47C 47E>47F 47F>47E 480>481 481>480 48A>48B 48B>48A 48C>48D
    48D>48C 48E>48F 48F>48E 490>491 491>490 492>493 493>492 494>495 495>494 496>497 497>496
    498>499 499>498 49A>49B 49B>49A 49C>49D 49D>49C 49E>49F 49F>49E 4A0>4A1 4A1>4A0 4A2>4A3
    4A3>4A2 4A4>4A5 4A5>4A4 4A6>4A7 4A7>4A6 4A8>4A9 4A9>4A8 4AA>4AB 4AB>4AA 4AC>4AD 4AD>4AC
    4AE>4AF 4AF>4AE 4B0>4B1 4B1>4B0 4B2>4B3 4B3>4B2 4B4>4B5 4B5>4B4 4B6>4B7 4B7>4B6 4B8>4B9
    4B9>4B8 4BA>4BB 4BB>4BA 4BC>4BD 4BD>4BC 4BE>4BF 4BF>4BE 4C0>4CF 4C1>4C2 4C2>4C1 4C3>4C4
    4C4>4C3 4C5>4C6 4C6>4C5 4C7>4C8 4C8>4C7 4C9>4CA 4CA>4C9 4CB>4CC 4CC>4CB 4CD>4CE 4CE>4CD
    4CF>4C0 4D0>4D1 4D1>4D0 4D2>4D3 4D3>4D2 4D4>4D5 4D5>4D4 4D6>4D7 4D7>4D6 4D8>4D9 4D9>4D8
    4DA>4DB 4DB>4DA 4DC>4DD 4DD>4DC 4DE>4DF 4DF>4DE 4E0>4E1 4E1>4E0 4E2>4E3 4E3>4E2 4E4>4E5
    4E5>4E4 4E6>4E7 4E7>4E6 4E8>4E9 4E9>4E8 4EA>4EB 4EB>4EA 4EC>4ED 4ED>4EC 4EE>4EF 4EF>4EE
    4F0>4F1 4F1>4F0 4F2>4F3 4F3>4F2 4F4>4F5 4F5>4F4 4F6>4F7 4F7>4F6 4F8>4F9 4F9>4F8 4FA>4FB
    4FB>4FA 4FC>4FD 4FD>4FC 4FE>4FF 4FF>4FE 500>501 501>500 502>503 503>502 504>505 505>504
    506>507 507>506 508>509 509>508 50A>50B 50B>50A 50C>50D 50D>50C 50E>50F 50F>50E 510>511
    511>510 512>513 513>512 514>515 515>514 516>517 517>516 518>519 519>518 51A>51B 51B>51A
    51C>51D 51D>51C 51E>51F 51F>51E 520>521 521>520 522>523 523>522 524>525 525>524 526>527
    527>526 528>529 529>528 52A>52B 52B>52A 52C>52D 52D>52C 52E>52F 52F>52E 531-556>561
    561-586>531 10A0-10C5>2D00 10C7>2D27 10CD>2D2D 10D0-10FA>1C90 10FD-10FF>1CBD 13A0-13EF>AB70
    13F0-13F5>13F8 13F8-13FD>13F0 1C80>412+432 1C81>414+434 1C82>41E+43E 1C83>421+441
    1C84>422+442+1C85 1C85>422+442+1C84 1C86>42A+44A 1C87>462+463 1C88>A64A+A64B 1C89>1C8A
    1C8A>1C89 1C90-1CBA>10D0 1CBD-1CBF>10FD 1D79>A77D 1D7D>2C63 1D8E>A7C6 1E00>1E01 1E01>1E00
    1E02>1E03 1E03>1E02 1E04>1E05 1E05>1E04 1E06>1E07 1E07>1E06 1E08>1E09 1E09>1E08 1E0A>1E0B
    1E0B>1E0A 1E0C>1E0D 1E0D>1E0C 1E0E>1E0F 1E0F>1E0E 1E10>1E11 1E11>1E10 1E12>1E13 1E13>1E12
    1E14>1E15 1E15>1E14 1E16>1E17 1E17>1E16 1E18>1E19 1E19>1E18 1E1A>1E1B 1E1B>1E1A 1E1C>1E1D
    1E1D>1E1C 1E1E>1E1F 1E1F>1E1E 1E20>1E21 1E21>1E20 1E22>1E23 1E23>1E22 1E24>1E25 1E25>1E24
    1E26>1E27 1E27>1E26 1E28>1E29 1E29>1E28 1E2A>1E2B 1E2B>1E2A 1E2C>1E2D 1E2D>1E2C 1E2E>1E2F
    1E2F>1E2E 1E30>1E31 1E31>1E30 1E32>1E33 1E33>1E32 1E34>1E35 1E35>1E34 1E36>1E37 1E37>1E36
    1E38>1E39 1E39>1E38 1E3A>1E3B 1E3B>1E3A 1E3C>1E3D 1E3D>1E3C 1E3E>1E3F 1E3F>1E3E 1E40>1E41
    1E41>1E40 1E42>1E43 1E43>1E42 1E44>1E45 1E45>1E44 1E46>1E47 1E47>1E46 1E48>1E49 1E49>1E48
    1E4A>1E4B 1E4B>1E4A 1E4C>1E4D 1E4D>1E4C 1E4E>1E4F 1E4F>1E4E 1E50>1E51 1E51>1E50 1E52>1E53
    1E53>1E52 1E54>1E55 1E55>1E54 1E56>1E57 1E57>1E56 1E58>1E59 1E59>1E58 1E5A>1E5B 1E5B>1E5A
    1E5C>1E5D 1E5D>1E5C 1E5E>1E5F 1E5F>1E5E 1E60>1E61+1E9B 1E61>1E60+1E9B 1E62>1E63 1E63>1E62
    1E64>1E65 1E65>1E64 1E66>1E67 1E67>1E66 1E68>1E69 1E69>1E68 1E6A>1E6B 1E6B>1E6A 1E6C>1E6D
    1E6D>1E6C 1E6E>1E6F 1E6F>1E6E 1E70>1E71 1E71>1E70 1E72>1E73 1E73>1E72 1E74>1E75 1E75>1E74
    1E76>1E77 1E77>1E76 1E78>1E79 1E79>1E78 1E7A>1E7B 1E7B>1E7A 1E7C>1E7D 1E7D>1E7C 1E7E>1E7F
    1E7F>1E7E 1E80>1E81 1E81>1E80 1E82>1E83 1E83>1E82 1E84>1E85 1E85>1E84 1E86>1E87 1E87>1E86
    1E88>1E89 1E89>1E88 1E8A>1E8B 1E8B>1E8A 1E8C>1E8D 1E8D>1E8C 1E8E>1E8F 1E8F>1E8E 1E90>1E91
    1E91>1E90 1E92>1E93 1E93>1E92 1E94>1E95 1E95>1E94 1E9B>1E60+1E61 1E9E>DF 1EA0>1EA1 1EA1>1EA0
    1EA2>1EA3 1EA3>1EA2 1EA4>1EA5 1EA5>1EA4 1EA6>1EA7 1EA7>1EA6 1EA8>1EA9 1EA9>1EA8 1EAA>1EAB
    1EAB>1EAA 1EAC>1EAD 1EAD>1EAC 1EAE>1EAF 1EAF>1EAE 1EB0>1EB1 1EB1>1EB0 1EB2>1EB3 1EB3>1EB2
    1EB4>1EB5 1EB5>1EB4 1EB6>1EB7 1EB7>1EB6 1EB8>1EB9 1EB9>1EB8 1EBA>1EBB 1EBB>1EBA 1EBC>1EBD
    1EBD>1EBC 1EBE>1EBF 1EBF>1EBE 1EC0>1EC1 1EC1>1EC0 1EC2>1EC3 1EC3>1EC2 1EC4>1EC5 1EC5>1EC4
    1EC6>1EC7 1EC7>1EC6 1EC8>1EC9 1EC9>1EC8 1ECA>1ECB 1ECB>1ECA 1ECC>1ECD 1ECD>1ECC 1ECE>1ECF
    1ECF>1ECE 1ED0>1ED1 1ED1>1ED0 1ED2>1ED3 1ED3>1ED2 1ED4>1ED5 1ED5>1ED4 1ED6>1ED7 1ED7>1ED6
    1ED8>1ED9 1ED9>1ED8 1EDA>1EDB 1EDB>1EDA 1EDC>1EDD 1EDD>1EDC 1EDE>1EDF 1EDF>1EDE 1EE0>1EE1
    1EE1>1EE0 1EE2>1EE3 1EE3>1EE2 1EE4>1EE5 1EE5>1EE4 1EE6>1EE7 1EE7>1EE6 1EE8>1EE9 1EE9>1EE8
    1EEA>1EEB 1EEB>1EEA 1EEC>1EED 1EED>1EEC 1EEE>1EEF 1EEF>1EEE 1EF0>1EF1 1EF1>1EF0 1EF2>1EF3
    1EF3>1EF2 1EF4>1EF5 1EF5>1EF4 1EF6>1EF7 1EF7>1EF6 1EF8>1EF9 1EF9>1EF8 1EFA>1EFB 1EFB>1EFA
    1EFC>1EFD 1EFD>1EFC 1EFE>1EFF 1EFF>1EFE 1F00-1F07>1F08 1F08-1F0F>1F00 1F10-1F15>1F18
    1F18-1F1D>1F10 1F20-1F27>1F28 1F28-1F2F>1F20 1F30-1F37>1F38 1F38-1F3F>1F30 1F40-1F45>1F48
    1F48-1F4D>1F40 1F51-1F57/2>1F59 1F59-1F5F/2>1F51 1F60-1F67>1F68 1F68-1F6F>1F60 1F70-1F71>1FBA
    1F72-1F75>1FC8 1F76-1F77>1FDA 1F78-1F79>1FF8 1F7A-1F7B>1FEA 1F7C-1F7D>1FFA 1F80-1F87>1F88
    1F88-1F8F>1F80 1F90-1F97>1F98 1F98-1F9F>1F90 1FA0-1FA7>1FA8 1FA8-1FAF>1FA0 1FB0-1FB1>1FB8
    1FB3>1FBC 1FB8-1FB9>1FB0 1FBA-1FBB>1F70 1FBC>1FB3 1FBE>345+399+3B9 1FC3>1FCC 1FC8-1FCB>1F72
    1FCC>1FC3 1FD0-1FD1>1FD8 1FD3>390 1FD8-1FD9>1FD0 1FDA-1FDB>1F76 1FE0-1FE1>1FE8 1FE3>3B0
    1FE5>1FEC 1FE8-1FE9>1FE0 1FEA-1FEB>1F7A 1FEC>1FE5 1FF3>1FFC 1FF8-1FF9>1F78 1FFA-1FFB>1F7C
    1FFC>1FF3 2126>3A9+3C9 212A>4B+6B 212B>C5+E5 2132>214E 214E>2132 2160-216F>2170 2170-217F>2160
    2183>2184 2184>2183 24B6-24CF>24D0 24D0-24E9>24B6 2C00-2C2F>2C30 2C30-2C5F>2C00 2C60>2C61
    2C61>2C60 2C62>26B 2C63>1D7D 2C64>27D 2C65>23A 2C66>23E 2C67>2C68 2C68>2C67 2C69>2C6A
    2C6A>2C69 2C6B>2C6C 2C6C>2C6B 2C6D>251 2C6E>271 2C6F>250 2C70>252 2C72>2C73 2C73>2C72
    2C75>2C76 2C76>2C75 2C7E-2C7F>23F 2C80>2C81 2C81>2C80 2C82>2C83 2C83>2C82 2C84>2C85 2C85>2C84
    2C86>2C87 2C87>2C86 2C88>2C89 2C89>2C88 2C8A>2C8B 2C8B>2C8A 2C8C>2C8D 2C8D>2C8C 2C8E>2C8F
    2C8F>2C8E 2C90>2C91 2C91>2C90 2C92>2C93 2C93>2C92 2C94>2C95 2C95>2C94 2C96>2C97 2C97>2C96
    2C98>2C99 2C99>2C98 2C9A>2C9B 2C9B>2C9A 2C9C>2C9D 2C9D>2C9C 2C9E>2C9F 2C9F>2C9E 2CA0>2CA1
    2CA1>2CA0 2CA2>2CA3 2CA3>2CA2 2CA4>2CA5 2CA5>2CA4 2CA6>2CA7 2CA7>2CA6 2CA8>2CA9 2CA9>2CA8
    2CAA>2CAB 2CAB>2CAA 2CAC>2CAD 2CAD>2CAC 2CAE>2CAF 2CAF>2CAE 2CB0>2CB1 2CB1>2CB0 2CB2>2CB3
    2CB3>2CB2 2CB4>2CB5 2CB5>2CB4 2CB6>2CB7 2CB7>2CB6 2CB8>2CB9 2CB9>2CB8 2CBA>2CBB 2CBB>2CBA
    2CBC>2CBD 2CBD>2CBC 2CBE>2CBF 2CBF>2CBE 2CC0>2CC1 2CC1>2CC0 2CC2>2CC3 2CC3>2CC2 2CC4>2CC5
    2CC5>2CC4 2CC6>2CC7 2CC7>2CC6 2CC8>2CC9 2CC9>2CC8 2CCA>2CCB 2CCB>2CCA 2CCC>2CCD 2CCD>2CCC
    2CCE>2CCF 2CCF>2CCE 2CD0>2CD1 2CD1>2CD0 2CD2>2CD3 2CD3>2CD2 2CD4>2CD5 2CD5>2CD4 2CD6>2CD7
    2CD7>2CD6 2CD8>2CD9 2CD9>2CD8 2CDA>2CDB 2CDB>2CDA 2CDC>2CDD 2CDD>2CDC 2CDE>2CDF 2CDF>2CDE
    2CE0>2CE1 2CE1>2CE0 2CE2>2CE3 2CE3>2CE2 2CEB>2CEC 2CEC>2CEB 2CED>2CEE 2CEE>2CED 2CF2>2CF3
    2CF3>2CF2 2D00-2D25>10A0 2D27>10C7 2D2D>10CD A640>A641 A641>A640 A642>A643 A643>A642 A644>A645
    A645>A644 A646>A647 A647>A646 A648>A649 A649>A648 A64A>1C88+A64B A64B>1C88+A64A A64C>A64D
    A64D>A64C A64E>A64F A64F>A64E A650>A651 A651>A650 A652>A653 A653>A652 A654>A655 A655>A654
    A656>A657 A657>A656 A658>A659 A659>A658 A65A>A65B A65B>A65A A65C>A65D A65D>A65C A65E>A65F
    A65F>A65E A660>A661 A661>A660 A662>A663 A663>A662 A664>A665 A665>A664 A666>A667 A667>A666
    A668>A669 A669>A668 A66A>A66B A66B>A66A A66C>A66D A66D>A66C A680>A681 A681>A680 A682>A683
    A683>A682 A684>A685 A685>A684 A686>A687 A687>A686 A688>A689 A689>A688 A68A>A68B A68B>A68A
    A68C>A68D A68D>A68C A68E>A68F A68F>A68E A690>A691 A691>A690 A692>A693 A693>A692 A694>A695
    A695>A694 A696>A697 A697>A696 A698>A699 A699>A698 A69A>A69B A69B>A69A A722>A723 A723>A722
    A724>A725 A725>A724 A726>A727 A727>A726 A728>A729 A729>A728 A72A>A72B A72B>A72A A72C>A72D
    A72D>A72C A72E>A72F A72F>A72E A732>A733 A733>A732 A734>A735 A735>A734 A736>A737 A737>A736
    A738>A739 A739>A738 A73A>A73B A73B>A73A A73C>A73D A73D>A73C A73E>A73F A73F>A73E A740>A741
    A741>A740 A742>A743 A743>A742 A744>A745 A745>A744 A746>A747 A747>A746 A748>A749 A749>A748
    A74A>A74B A74B>A74A A74C>A74D A74D>A74C A74E>A74F A74F>A74E A750>A751 A751>A750 A752>A753
    A753>A752 A754>A755 A755>A754 A756>A757 A757>A756 A758>A759 A759>A758 A75A>A75B A75B>A75A
    A75C>A75D A75D>A75C A75E>A75F A75F>A75E A760>A761 A761>A760 A762>A763 A763>A762 A764>A765
    A765>A764 A766>A767 A767>A766 A768>A769 A769>A768 A76A>A76B A76B>A76A A76C>A76D A76D>A76C
    A76E>A76F A76F>A76E A779>A77A A77A>A779 A77B>A77C A77C>A77B A77D>1D79 A77E>A77F A77F>A77E
    A780>A781 A781>A780 A782>A783 A783>A782 A784>A785 A785>A784 A786>A787 A787>A786 A78B>A78C
    A78C>A78B A78D>265 A790>A791 A791>A790 A792>A793 A793>A792 A794>A7C4 A796>A797 A797>A796
    A798>A799 A799>A798 A79A>A79B A79B>A79A A79C>A79D A79D>A79C A79E>A79F A79F>A79E A7A0>A7A1
    A7A1>A7A0 A7A2>A7A3 A7A3>A7A2 A7A4>A7A5 A7A5>A7A4 A7A6>A7A7 A7A7>A7A6 A7A8>A7A9 A7A9>A7A8
    A7AA>266 A7AB>25C A7AC>261 A7AD>26C A7AE>26A A7B0>29E A7B1>287 A7B2>29D A7B3>AB53 A7B4>A7B5
    A7B5>A7B4 A7B6>A7B7 A7B7>A7B6 A7B8>A7B9 A7B9>A7B8 A7BA>A7BB A7BB>A7BA A7BC>A7BD A7BD>A7BC
    A7BE>A7BF A7BF>A7BE A7C0>A7C1 A7C1>A7C0 A7C2>A7C3 A7C3>A7C2 A7C4>A794 A7C5>282 A7C6>1D8E
    A7C7>A7C8 A7C8>A7C7 A7C9>A7CA A7CA>A7C9 A7CB>264 A7CC>A7CD A7CD>A7CC A7D0>A7D1 A7D1>A7D0
    A7D6>A7D7 A7D7>A7D6 A7D8>A7D9 A7D9>A7D8 A7DA>A7DB A7DB>A7DA A7DC>19B A7F5>A7F6 A7F6>A7F5
    AB53>A7B3 AB70-ABBF>13A0 FB05>FB06 FB06>FB05 FF21-FF3A>FF41 FF41-FF5A>FF21 10400-10427>10428
    10428-1044F>10400 104B0-104D3>104D8 104D8-104FB>104B0 10570-1057A>10597 1057C-1058A>105A3
    1058C-10592>105B3 10594-10595>105BB 10597-105A1>10570 105A3-105B1>1057C 105B3-105B9>1058C
    105BB-105BC>10594 10C80-10CB2>10CC0 10CC0-10CF2>10C80 10D50-10D65>10D70 10D70-10D85>10D50
    118A0-118BF>118C0 118C0-118DF>118A0 16E40-16E5F>16E60 16E60-16E7F>16E40 1E900-1E921>1E922
    1E922-1E943>1E900"

end Assay.Text
