import ScriptBridge.Text.Runs

/-!
# ScriptBridge.Text.LetterCase

Upper and lower case beyond ASCII.

Both sets hold more than letters: numerals and letters in circles have case as well.  The two do not determine each
other, since some characters have case and no counterpart, and a title-case letter has a lower-case form and counts
as neither.
-/

namespace ScriptBridge.Text

/-- Characters in upper case. -/
def upperCase : SteppedRuns :=
  [ (0xC0, 1, 0xD6), (0xD8, 1, 0xDE), (0x100, 2, 0x136), (0x139, 2, 0x147), (0x14A, 2, 0x178), (0x179, 2, 0x17D),
    (0x181, 1, 0x182), (0x184, 2, 0x186), (0x187, 2, 0x189), (0x18A, 1, 0x18B), (0x18E, 1, 0x191), (0x193, 1, 0x194),
    (0x196, 1, 0x198), (0x19C, 1, 0x19D), (0x19F, 1, 0x1A0), (0x1A2, 2, 0x1A6), (0x1A7, 2, 0x1A9), (0x1AC, 2, 0x1AE),
    (0x1AF, 2, 0x1B1), (0x1B2, 1, 0x1B3), (0x1B5, 2, 0x1B7), (0x1B8, 1, 0x1B8), (0x1BC, 1, 0x1BC), (0x1C4, 1, 0x1C4),
    (0x1C7, 1, 0x1C7), (0x1CA, 1, 0x1CA), (0x1CD, 2, 0x1DB), (0x1DE, 2, 0x1EE), (0x1F1, 1, 0x1F1), (0x1F4, 2, 0x1F6),
    (0x1F7, 1, 0x1F8), (0x1FA, 2, 0x232), (0x23A, 1, 0x23B), (0x23D, 1, 0x23E), (0x241, 2, 0x243), (0x244, 1, 0x246),
    (0x248, 2, 0x24E), (0x370, 2, 0x372), (0x376, 1, 0x376), (0x37F, 1, 0x37F), (0x386, 2, 0x388), (0x389, 1, 0x38A),
    (0x38C, 2, 0x38E), (0x38F, 2, 0x391), (0x392, 1, 0x3A1), (0x3A3, 1, 0x3AB), (0x3CF, 1, 0x3CF), (0x3D2, 1, 0x3D4),
    (0x3D8, 2, 0x3EE), (0x3F4, 1, 0x3F4), (0x3F7, 2, 0x3F9), (0x3FA, 1, 0x3FA), (0x3FD, 1, 0x42F), (0x460, 2, 0x480),
    (0x48A, 2, 0x4C0), (0x4C1, 2, 0x4CD), (0x4D0, 2, 0x52E), (0x531, 1, 0x556), (0x10A0, 1, 0x10C5),
    (0x10C7, 1, 0x10C7), (0x10CD, 1, 0x10CD), (0x13A0, 1, 0x13F5), (0x1C89, 1, 0x1C89), (0x1C90, 1, 0x1CBA),
    (0x1CBD, 1, 0x1CBF), (0x1E00, 2, 0x1E94), (0x1E9E, 2, 0x1EFE), (0x1F08, 1, 0x1F0F), (0x1F18, 1, 0x1F1D),
    (0x1F28, 1, 0x1F2F), (0x1F38, 1, 0x1F3F), (0x1F48, 1, 0x1F4D), (0x1F59, 2, 0x1F5F), (0x1F68, 1, 0x1F6F),
    (0x1FB8, 1, 0x1FBB), (0x1FC8, 1, 0x1FCB), (0x1FD8, 1, 0x1FDB), (0x1FE8, 1, 0x1FEC), (0x1FF8, 1, 0x1FFB),
    (0x2102, 1, 0x2102), (0x2107, 1, 0x2107), (0x210B, 1, 0x210D), (0x2110, 1, 0x2112), (0x2115, 1, 0x2115),
    (0x2119, 1, 0x211D), (0x2124, 2, 0x212A), (0x212B, 1, 0x212D), (0x2130, 1, 0x2133), (0x213E, 1, 0x213F),
    (0x2145, 1, 0x2145), (0x2160, 1, 0x216F), (0x2183, 1, 0x2183), (0x24B6, 1, 0x24CF), (0x2C00, 1, 0x2C2F),
    (0x2C60, 2, 0x2C62), (0x2C63, 1, 0x2C64), (0x2C67, 2, 0x2C6D), (0x2C6E, 1, 0x2C70), (0x2C72, 1, 0x2C72),
    (0x2C75, 1, 0x2C75), (0x2C7E, 1, 0x2C80), (0x2C82, 2, 0x2CE2), (0x2CEB, 2, 0x2CED), (0x2CF2, 1, 0x2CF2),
    (0xA640, 2, 0xA66C), (0xA680, 2, 0xA69A), (0xA722, 2, 0xA72E), (0xA732, 2, 0xA76E), (0xA779, 2, 0xA77D),
    (0xA77E, 2, 0xA786), (0xA78B, 2, 0xA78D), (0xA790, 2, 0xA792), (0xA796, 2, 0xA7AA), (0xA7AB, 1, 0xA7AE),
    (0xA7B0, 1, 0xA7B4), (0xA7B6, 2, 0xA7C4), (0xA7C5, 1, 0xA7C7), (0xA7C9, 2, 0xA7CB), (0xA7CC, 2, 0xA7DC),
    (0xA7F5, 1, 0xA7F5), (0xFF21, 1, 0xFF3A), (0x10400, 1, 0x10427), (0x104B0, 1, 0x104D3), (0x10570, 1, 0x1057A),
    (0x1057C, 1, 0x1058A), (0x1058C, 1, 0x10592), (0x10594, 1, 0x10595), (0x10C80, 1, 0x10CB2), (0x10D50, 1, 0x10D65),
    (0x118A0, 1, 0x118BF), (0x16E40, 1, 0x16E5F), (0x16EA0, 1, 0x16EB8), (0x1D400, 1, 0x1D419), (0x1D434, 1, 0x1D44D),
    (0x1D468, 1, 0x1D481), (0x1D49C, 2, 0x1D49E), (0x1D49F, 1, 0x1D49F), (0x1D4A2, 1, 0x1D4A2), (0x1D4A5, 1, 0x1D4A6),
    (0x1D4A9, 1, 0x1D4AC), (0x1D4AE, 1, 0x1D4B5), (0x1D4D0, 1, 0x1D4E9), (0x1D504, 1, 0x1D505), (0x1D507, 1, 0x1D50A),
    (0x1D50D, 1, 0x1D514), (0x1D516, 1, 0x1D51C), (0x1D538, 1, 0x1D539), (0x1D53B, 1, 0x1D53E), (0x1D540, 1, 0x1D544),
    (0x1D546, 1, 0x1D546), (0x1D54A, 1, 0x1D550), (0x1D56C, 1, 0x1D585), (0x1D5A0, 1, 0x1D5B9), (0x1D5D4, 1, 0x1D5ED),
    (0x1D608, 1, 0x1D621), (0x1D63C, 1, 0x1D655), (0x1D670, 1, 0x1D689), (0x1D6A8, 1, 0x1D6C0), (0x1D6E2, 1, 0x1D6FA),
    (0x1D71C, 1, 0x1D734), (0x1D756, 1, 0x1D76E), (0x1D790, 1, 0x1D7A8), (0x1D7CA, 1, 0x1D7CA), (0x1E900, 1, 0x1E921),
    (0x1F130, 1, 0x1F149), (0x1F150, 1, 0x1F169), (0x1F170, 1, 0x1F189) ]

/-- Characters in lower case. -/
def lowerCase : SteppedRuns :=
  [ (0xAA, 1, 0xAA), (0xB5, 1, 0xB5), (0xBA, 1, 0xBA), (0xDF, 1, 0xF6), (0xF8, 1, 0xFF), (0x101, 2, 0x137),
    (0x138, 2, 0x148), (0x149, 2, 0x177), (0x17A, 2, 0x17E), (0x17F, 1, 0x180), (0x183, 2, 0x185), (0x188, 1, 0x188),
    (0x18C, 1, 0x18D), (0x192, 1, 0x192), (0x195, 1, 0x195), (0x199, 1, 0x19B), (0x19E, 1, 0x19E), (0x1A1, 2, 0x1A5),
    (0x1A8, 2, 0x1AA), (0x1AB, 2, 0x1AD), (0x1B0, 1, 0x1B0), (0x1B4, 2, 0x1B6), (0x1B9, 1, 0x1BA), (0x1BD, 1, 0x1BF),
    (0x1C6, 1, 0x1C6), (0x1C9, 1, 0x1C9), (0x1CC, 2, 0x1DC), (0x1DD, 2, 0x1EF), (0x1F0, 1, 0x1F0), (0x1F3, 2, 0x1F5),
    (0x1F9, 2, 0x233), (0x234, 1, 0x239), (0x23C, 1, 0x23C), (0x23F, 1, 0x240), (0x242, 1, 0x242), (0x247, 2, 0x24F),
    (0x250, 1, 0x293), (0x296, 1, 0x2B8), (0x2C0, 1, 0x2C1), (0x2E0, 1, 0x2E4), (0x345, 1, 0x345), (0x371, 2, 0x373),
    (0x377, 1, 0x377), (0x37A, 1, 0x37D), (0x390, 1, 0x390), (0x3AC, 1, 0x3CE), (0x3D0, 1, 0x3D1), (0x3D5, 1, 0x3D7),
    (0x3D9, 2, 0x3EF), (0x3F0, 1, 0x3F3), (0x3F5, 1, 0x3F5), (0x3F8, 1, 0x3F8), (0x3FB, 1, 0x3FC), (0x430, 1, 0x45F),
    (0x461, 2, 0x481), (0x48B, 2, 0x4BF), (0x4C2, 2, 0x4CE), (0x4CF, 2, 0x52F), (0x560, 1, 0x588),
    (0x10D0, 1, 0x10FA), (0x10FC, 1, 0x10FF), (0x13F8, 1, 0x13FD), (0x1C80, 1, 0x1C88), (0x1C8A, 1, 0x1C8A),
    (0x1D00, 1, 0x1DBF), (0x1E01, 2, 0x1E95), (0x1E96, 1, 0x1E9D), (0x1E9F, 2, 0x1EFF), (0x1F00, 1, 0x1F07),
    (0x1F10, 1, 0x1F15), (0x1F20, 1, 0x1F27), (0x1F30, 1, 0x1F37), (0x1F40, 1, 0x1F45), (0x1F50, 1, 0x1F57),
    (0x1F60, 1, 0x1F67), (0x1F70, 1, 0x1F7D), (0x1F80, 1, 0x1F87), (0x1F90, 1, 0x1F97), (0x1FA0, 1, 0x1FA7),
    (0x1FB0, 1, 0x1FB4), (0x1FB6, 1, 0x1FB7), (0x1FBE, 1, 0x1FBE), (0x1FC2, 1, 0x1FC4), (0x1FC6, 1, 0x1FC7),
    (0x1FD0, 1, 0x1FD3), (0x1FD6, 1, 0x1FD7), (0x1FE0, 1, 0x1FE7), (0x1FF2, 1, 0x1FF4), (0x1FF6, 1, 0x1FF7),
    (0x2071, 1, 0x2071), (0x207F, 1, 0x207F), (0x2090, 1, 0x209C), (0x210A, 1, 0x210A), (0x210E, 1, 0x210F),
    (0x2113, 1, 0x2113), (0x212F, 1, 0x212F), (0x2134, 1, 0x2134), (0x2139, 1, 0x2139), (0x213C, 1, 0x213D),
    (0x2146, 1, 0x2149), (0x214E, 1, 0x214E), (0x2170, 1, 0x217F), (0x2184, 1, 0x2184), (0x24D0, 1, 0x24E9),
    (0x2C30, 1, 0x2C5F), (0x2C61, 1, 0x2C61), (0x2C65, 1, 0x2C66), (0x2C68, 2, 0x2C6C), (0x2C71, 2, 0x2C73),
    (0x2C74, 2, 0x2C76), (0x2C77, 1, 0x2C7D), (0x2C81, 2, 0x2CE3), (0x2CE4, 1, 0x2CE4), (0x2CEC, 2, 0x2CEE),
    (0x2CF3, 1, 0x2CF3), (0x2D00, 1, 0x2D25), (0x2D27, 1, 0x2D27), (0x2D2D, 1, 0x2D2D), (0xA641, 2, 0xA66D),
    (0xA681, 2, 0xA69B), (0xA69C, 1, 0xA69D), (0xA723, 2, 0xA72F), (0xA730, 1, 0xA731), (0xA733, 2, 0xA76F),
    (0xA770, 1, 0xA778), (0xA77A, 2, 0xA77C), (0xA77F, 2, 0xA787), (0xA78C, 2, 0xA78E), (0xA791, 2, 0xA793),
    (0xA794, 1, 0xA795), (0xA797, 2, 0xA7A9), (0xA7AF, 1, 0xA7AF), (0xA7B5, 2, 0xA7C3), (0xA7C8, 2, 0xA7CA),
    (0xA7CD, 2, 0xA7DB), (0xA7F1, 1, 0xA7F4), (0xA7F6, 2, 0xA7F8), (0xA7F9, 1, 0xA7FA), (0xAB30, 1, 0xAB5A),
    (0xAB5C, 1, 0xAB69), (0xAB70, 1, 0xABBF), (0xFB00, 1, 0xFB06), (0xFB13, 1, 0xFB17), (0xFF41, 1, 0xFF5A),
    (0x10428, 1, 0x1044F), (0x104D8, 1, 0x104FB), (0x10597, 1, 0x105A1), (0x105A3, 1, 0x105B1), (0x105B3, 1, 0x105B9),
    (0x105BB, 1, 0x105BC), (0x10780, 1, 0x10780), (0x10783, 1, 0x10785), (0x10787, 1, 0x107B0), (0x107B2, 1, 0x107BA),
    (0x10CC0, 1, 0x10CF2), (0x10D70, 1, 0x10D85), (0x118C0, 1, 0x118DF), (0x16E60, 1, 0x16E7F), (0x16EBB, 1, 0x16ED3),
    (0x1D41A, 1, 0x1D433), (0x1D44E, 1, 0x1D454), (0x1D456, 1, 0x1D467), (0x1D482, 1, 0x1D49B), (0x1D4B6, 1, 0x1D4B9),
    (0x1D4BB, 2, 0x1D4BD), (0x1D4BE, 1, 0x1D4C3), (0x1D4C5, 1, 0x1D4CF), (0x1D4EA, 1, 0x1D503), (0x1D51E, 1, 0x1D537),
    (0x1D552, 1, 0x1D56B), (0x1D586, 1, 0x1D59F), (0x1D5BA, 1, 0x1D5D3), (0x1D5EE, 1, 0x1D607), (0x1D622, 1, 0x1D63B),
    (0x1D656, 1, 0x1D66F), (0x1D68A, 1, 0x1D6A5), (0x1D6C2, 1, 0x1D6DA), (0x1D6DC, 1, 0x1D6E1), (0x1D6FC, 1, 0x1D714),
    (0x1D716, 1, 0x1D71B), (0x1D736, 1, 0x1D74E), (0x1D750, 1, 0x1D755), (0x1D770, 1, 0x1D788), (0x1D78A, 1, 0x1D78F),
    (0x1D7AA, 1, 0x1D7C2), (0x1D7C4, 1, 0x1D7C9), (0x1D7CB, 1, 0x1D7CB), (0x1DF00, 1, 0x1DF09), (0x1DF0B, 1, 0x1DF1E),
    (0x1DF25, 1, 0x1DF2A), (0x1E030, 1, 0x1E06D), (0x1E922, 1, 0x1E943) ]

/-- Lower-case forms: a stepped run of characters, and the form of its first character.  The forms of the others
follow with the same step. -/
def lowerForms : List ((Nat × Nat × Nat) × Nat) :=
  [ ((0xC0, 1, 0xD6), 0xE0), ((0xD8, 1, 0xDE), 0xF8), ((0x100, 2, 0x12E), 0x101), ((0x132, 2, 0x136), 0x133),
    ((0x139, 2, 0x147), 0x13A), ((0x14A, 2, 0x176), 0x14B), ((0x178, 1, 0x178), 0xFF), ((0x179, 2, 0x17D), 0x17A),
    ((0x181, 1, 0x181), 0x253), ((0x182, 2, 0x184), 0x183), ((0x186, 1, 0x186), 0x254), ((0x187, 1, 0x187), 0x188),
    ((0x189, 1, 0x18A), 0x256), ((0x18B, 1, 0x18B), 0x18C), ((0x18E, 1, 0x18E), 0x1DD), ((0x18F, 1, 0x18F), 0x259),
    ((0x190, 1, 0x190), 0x25B), ((0x191, 1, 0x191), 0x192), ((0x193, 1, 0x193), 0x260), ((0x194, 1, 0x194), 0x263),
    ((0x196, 1, 0x196), 0x269), ((0x197, 1, 0x197), 0x268), ((0x198, 1, 0x198), 0x199), ((0x19C, 1, 0x19C), 0x26F),
    ((0x19D, 1, 0x19D), 0x272), ((0x19F, 1, 0x19F), 0x275), ((0x1A0, 2, 0x1A4), 0x1A1), ((0x1A6, 1, 0x1A6), 0x280),
    ((0x1A7, 1, 0x1A7), 0x1A8), ((0x1A9, 1, 0x1A9), 0x283), ((0x1AC, 1, 0x1AC), 0x1AD), ((0x1AE, 1, 0x1AE), 0x288),
    ((0x1AF, 1, 0x1AF), 0x1B0), ((0x1B1, 1, 0x1B2), 0x28A), ((0x1B3, 2, 0x1B5), 0x1B4), ((0x1B7, 1, 0x1B7), 0x292),
    ((0x1B8, 1, 0x1B8), 0x1B9), ((0x1BC, 1, 0x1BC), 0x1BD), ((0x1C4, 1, 0x1C4), 0x1C6), ((0x1C5, 1, 0x1C5), 0x1C6),
    ((0x1C7, 1, 0x1C7), 0x1C9), ((0x1C8, 1, 0x1C8), 0x1C9), ((0x1CA, 1, 0x1CA), 0x1CC), ((0x1CB, 2, 0x1DB), 0x1CC),
    ((0x1DE, 2, 0x1EE), 0x1DF), ((0x1F1, 1, 0x1F1), 0x1F3), ((0x1F2, 2, 0x1F4), 0x1F3), ((0x1F6, 1, 0x1F6), 0x195),
    ((0x1F7, 1, 0x1F7), 0x1BF), ((0x1F8, 2, 0x21E), 0x1F9), ((0x220, 1, 0x220), 0x19E), ((0x222, 2, 0x232), 0x223),
    ((0x23A, 1, 0x23A), 0x2C65), ((0x23B, 1, 0x23B), 0x23C), ((0x23D, 1, 0x23D), 0x19A), ((0x23E, 1, 0x23E), 0x2C66),
    ((0x241, 1, 0x241), 0x242), ((0x243, 1, 0x243), 0x180), ((0x244, 1, 0x244), 0x289), ((0x245, 1, 0x245), 0x28C),
    ((0x246, 2, 0x24E), 0x247), ((0x370, 2, 0x372), 0x371), ((0x376, 1, 0x376), 0x377), ((0x37F, 1, 0x37F), 0x3F3),
    ((0x386, 1, 0x386), 0x3AC), ((0x388, 1, 0x38A), 0x3AD), ((0x38C, 1, 0x38C), 0x3CC), ((0x38E, 1, 0x38F), 0x3CD),
    ((0x391, 1, 0x3A1), 0x3B1), ((0x3A3, 1, 0x3AB), 0x3C3), ((0x3CF, 1, 0x3CF), 0x3D7), ((0x3D8, 2, 0x3EE), 0x3D9),
    ((0x3F4, 1, 0x3F4), 0x3B8), ((0x3F7, 1, 0x3F7), 0x3F8), ((0x3F9, 1, 0x3F9), 0x3F2), ((0x3FA, 1, 0x3FA), 0x3FB),
    ((0x3FD, 1, 0x3FF), 0x37B), ((0x400, 1, 0x40F), 0x450), ((0x410, 1, 0x42F), 0x430), ((0x460, 2, 0x480), 0x461),
    ((0x48A, 2, 0x4BE), 0x48B), ((0x4C0, 1, 0x4C0), 0x4CF), ((0x4C1, 2, 0x4CD), 0x4C2), ((0x4D0, 2, 0x52E), 0x4D1),
    ((0x531, 1, 0x556), 0x561), ((0x10A0, 1, 0x10C5), 0x2D00), ((0x10C7, 1, 0x10C7), 0x2D27),
    ((0x10CD, 1, 0x10CD), 0x2D2D), ((0x13A0, 1, 0x13EF), 0xAB70), ((0x13F0, 1, 0x13F5), 0x13F8),
    ((0x1C89, 1, 0x1C89), 0x1C8A), ((0x1C90, 1, 0x1CBA), 0x10D0), ((0x1CBD, 1, 0x1CBF), 0x10FD),
    ((0x1E00, 2, 0x1E94), 0x1E01), ((0x1E9E, 1, 0x1E9E), 0xDF), ((0x1EA0, 2, 0x1EFE), 0x1EA1),
    ((0x1F08, 1, 0x1F0F), 0x1F00), ((0x1F18, 1, 0x1F1D), 0x1F10), ((0x1F28, 1, 0x1F2F), 0x1F20),
    ((0x1F38, 1, 0x1F3F), 0x1F30), ((0x1F48, 1, 0x1F4D), 0x1F40), ((0x1F59, 2, 0x1F5F), 0x1F51),
    ((0x1F68, 1, 0x1F6F), 0x1F60), ((0x1F88, 1, 0x1F8F), 0x1F80), ((0x1F98, 1, 0x1F9F), 0x1F90),
    ((0x1FA8, 1, 0x1FAF), 0x1FA0), ((0x1FB8, 1, 0x1FB9), 0x1FB0), ((0x1FBA, 1, 0x1FBB), 0x1F70),
    ((0x1FBC, 1, 0x1FBC), 0x1FB3), ((0x1FC8, 1, 0x1FCB), 0x1F72), ((0x1FCC, 1, 0x1FCC), 0x1FC3),
    ((0x1FD8, 1, 0x1FD9), 0x1FD0), ((0x1FDA, 1, 0x1FDB), 0x1F76), ((0x1FE8, 1, 0x1FE9), 0x1FE0),
    ((0x1FEA, 1, 0x1FEB), 0x1F7A), ((0x1FEC, 1, 0x1FEC), 0x1FE5), ((0x1FF8, 1, 0x1FF9), 0x1F78),
    ((0x1FFA, 1, 0x1FFB), 0x1F7C), ((0x1FFC, 1, 0x1FFC), 0x1FF3), ((0x2126, 1, 0x2126), 0x3C9),
    ((0x212A, 1, 0x212A), 0x6B), ((0x212B, 1, 0x212B), 0xE5), ((0x2132, 1, 0x2132), 0x214E),
    ((0x2160, 1, 0x216F), 0x2170), ((0x2183, 1, 0x2183), 0x2184), ((0x24B6, 1, 0x24CF), 0x24D0),
    ((0x2C00, 1, 0x2C2F), 0x2C30), ((0x2C60, 1, 0x2C60), 0x2C61), ((0x2C62, 1, 0x2C62), 0x26B),
    ((0x2C63, 1, 0x2C63), 0x1D7D), ((0x2C64, 1, 0x2C64), 0x27D), ((0x2C67, 2, 0x2C6B), 0x2C68),
    ((0x2C6D, 1, 0x2C6D), 0x251), ((0x2C6E, 1, 0x2C6E), 0x271), ((0x2C6F, 1, 0x2C6F), 0x250),
    ((0x2C70, 1, 0x2C70), 0x252), ((0x2C72, 1, 0x2C72), 0x2C73), ((0x2C75, 1, 0x2C75), 0x2C76),
    ((0x2C7E, 1, 0x2C7F), 0x23F), ((0x2C80, 2, 0x2CE2), 0x2C81), ((0x2CEB, 2, 0x2CED), 0x2CEC),
    ((0x2CF2, 1, 0x2CF2), 0x2CF3), ((0xA640, 2, 0xA66C), 0xA641), ((0xA680, 2, 0xA69A), 0xA681),
    ((0xA722, 2, 0xA72E), 0xA723), ((0xA732, 2, 0xA76E), 0xA733), ((0xA779, 2, 0xA77B), 0xA77A),
    ((0xA77D, 1, 0xA77D), 0x1D79), ((0xA77E, 2, 0xA786), 0xA77F), ((0xA78B, 1, 0xA78B), 0xA78C),
    ((0xA78D, 1, 0xA78D), 0x265), ((0xA790, 2, 0xA792), 0xA791), ((0xA796, 2, 0xA7A8), 0xA797),
    ((0xA7AA, 1, 0xA7AA), 0x266), ((0xA7AB, 1, 0xA7AB), 0x25C), ((0xA7AC, 1, 0xA7AC), 0x261),
    ((0xA7AD, 1, 0xA7AD), 0x26C), ((0xA7AE, 1, 0xA7AE), 0x26A), ((0xA7B0, 1, 0xA7B0), 0x29E),
    ((0xA7B1, 1, 0xA7B1), 0x287), ((0xA7B2, 1, 0xA7B2), 0x29D), ((0xA7B3, 1, 0xA7B3), 0xAB53),
    ((0xA7B4, 2, 0xA7C2), 0xA7B5), ((0xA7C4, 1, 0xA7C4), 0xA794), ((0xA7C5, 1, 0xA7C5), 0x282),
    ((0xA7C6, 1, 0xA7C6), 0x1D8E), ((0xA7C7, 2, 0xA7C9), 0xA7C8), ((0xA7CB, 1, 0xA7CB), 0x264),
    ((0xA7CC, 2, 0xA7DA), 0xA7CD), ((0xA7DC, 1, 0xA7DC), 0x19B), ((0xA7F5, 1, 0xA7F5), 0xA7F6),
    ((0xFF21, 1, 0xFF3A), 0xFF41), ((0x10400, 1, 0x10427), 0x10428), ((0x104B0, 1, 0x104D3), 0x104D8),
    ((0x10570, 1, 0x1057A), 0x10597), ((0x1057C, 1, 0x1058A), 0x105A3), ((0x1058C, 1, 0x10592), 0x105B3),
    ((0x10594, 1, 0x10595), 0x105BB), ((0x10C80, 1, 0x10CB2), 0x10CC0), ((0x10D50, 1, 0x10D65), 0x10D70),
    ((0x118A0, 1, 0x118BF), 0x118C0), ((0x16E40, 1, 0x16E5F), 0x16E60), ((0x16EA0, 1, 0x16EB8), 0x16EBB),
    ((0x1E900, 1, 0x1E921), 0x1E922) ]

end ScriptBridge.Text
