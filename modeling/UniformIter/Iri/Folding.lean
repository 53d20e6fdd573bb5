import UniformIter.Text.Unprintable

/-!
# Characters of international host names

A host name keeps a character beyond ASCII only if it has a shape and is its own lower-case and
plain form. Capital letters, compatibility forms and the ideographic full stop are folded into
other characters before a name is written down, so no written name holds them.
-/

namespace UniformIter.Iri

/-- Runs of characters that are folded: the first, the last and the step from one to the
next. Hidden characters may stand between them. -/
def foldedRuns : List (Nat × Nat × Nat) := [
  (0xA8, 0xAA, 2), (0xAF, 0xAF, 1), (0xB2, 0xB5, 1), (0xB8, 0xBA, 1), (0xBC, 0xBE, 1),
  (0xC0, 0xD6, 1), (0xD8, 0xDE, 1), (0x100, 0x130, 2), (0x132, 0x134, 1), (0x136, 0x136, 1),
  (0x139, 0x13D, 2), (0x13F, 0x141, 1), (0x143, 0x147, 2), (0x149, 0x14A, 1), (0x14C, 0x176, 2),
  (0x178, 0x179, 1), (0x17B, 0x17F, 2), (0x181, 0x182, 1), (0x184, 0x184, 1), (0x186, 0x187, 1),
  (0x189, 0x18B, 1), (0x18E, 0x191, 1), (0x193, 0x194, 1), (0x196, 0x198, 1), (0x19C, 0x19D, 1),
  (0x19F, 0x1A0, 1), (0x1A2, 0x1A4, 2), (0x1A6, 0x1A7, 1), (0x1A9, 0x1A9, 1), (0x1AC, 0x1AC, 1),
  (0x1AE, 0x1AF, 1), (0x1B1, 0x1B3, 1), (0x1B5, 0x1B5, 1), (0x1B7, 0x1B8, 1), (0x1BC, 0x1BC, 1),
  (0x1C4, 0x1CD, 1), (0x1CF, 0x1DB, 2), (0x1DE, 0x1EE, 2), (0x1F1, 0x1F4, 1), (0x1F6, 0x1F8, 1),
  (0x1FA, 0x232, 2), (0x23A, 0x23B, 1), (0x23D, 0x23E, 1), (0x241, 0x241, 1), (0x243, 0x246, 1),
  (0x248, 0x24E, 2), (0x2B0, 0x2B8, 1), (0x2D8, 0x2DD, 1), (0x2E0, 0x2E4, 1), (0x340, 0x341, 1),
  (0x343, 0x345, 1), (0x34F, 0x34F, 1), (0x370, 0x376, 2), (0x37A, 0x37A, 1), (0x37E, 0x38F, 1),
  (0x391, 0x3AB, 1), (0x3CF, 0x3D6, 1), (0x3D8, 0x3EE, 2), (0x3F0, 0x3F2, 1), (0x3F4, 0x3F5, 1),
  (0x3F7, 0x3F7, 1), (0x3F9, 0x3FA, 1), (0x3FD, 0x42F, 1), (0x460, 0x480, 2), (0x48A, 0x4BE, 2),
  (0x4C0, 0x4C1, 1), (0x4C3, 0x4CD, 2), (0x4D0, 0x52E, 2), (0x531, 0x556, 1), (0x587, 0x587, 1),
  (0x675, 0x678, 1), (0x958, 0x95F, 1), (0x9DC, 0x9DF, 1), (0xA33, 0xA33, 1), (0xA36, 0xA36, 1),
  (0xA59, 0xA5B, 1), (0xA5E, 0xA5E, 1), (0xB5C, 0xB5D, 1), (0xE33, 0xE33, 1), (0xEB3, 0xEB3, 1),
  (0xEDC, 0xEDD, 1), (0xF0C, 0xF0C, 1), (0xF43, 0xF43, 1), (0xF4D, 0xF4D, 1), (0xF52, 0xF52, 1),
  (0xF57, 0xF57, 1), (0xF5C, 0xF5C, 1), (0xF69, 0xF69, 1), (0xF73, 0xF73, 1), (0xF75, 0xF79, 1),
  (0xF81, 0xF81, 1), (0xF93, 0xF93, 1), (0xF9D, 0xF9D, 1), (0xFA2, 0xFA2, 1), (0xFA7, 0xFA7, 1),
  (0xFAC, 0xFAC, 1), (0xFB9, 0xFB9, 1), (0x10A0, 0x10CD, 1), (0x10FC, 0x10FC, 1),
  (0x13F8, 0x13FD, 1), (0x17B4, 0x17B5, 1), (0x180B, 0x180F, 1), (0x1C80, 0x1C89, 1),
  (0x1C90, 0x1CBF, 1), (0x1D2C, 0x1D2E, 1), (0x1D30, 0x1D3A, 1), (0x1D3C, 0x1D4D, 1),
  (0x1D4F, 0x1D6A, 1), (0x1D78, 0x1D78, 1), (0x1D9B, 0x1DBF, 1), (0x1E00, 0x1E94, 2),
  (0x1E9A, 0x1E9B, 1), (0x1E9E, 0x1EFE, 2), (0x1F08, 0x1F0F, 1), (0x1F18, 0x1F1D, 1),
  (0x1F28, 0x1F2F, 1), (0x1F38, 0x1F3F, 1), (0x1F48, 0x1F4D, 1), (0x1F59, 0x1F5F, 1),
  (0x1F68, 0x1F6F, 1), (0x1F71, 0x1F7B, 2), (0x1F7D, 0x1FAF, 1), (0x1FB2, 0x1FB4, 1),
  (0x1FB7, 0x1FC4, 1), (0x1FC7, 0x1FCF, 1), (0x1FD3, 0x1FD3, 1), (0x1FD8, 0x1FDF, 1),
  (0x1FE3, 0x1FE3, 1), (0x1FE8, 0x1FF4, 1), (0x1FF7, 0x1FFE, 1), (0x2011, 0x2011, 1),
  (0x2017, 0x2017, 1), (0x2024, 0x2026, 1), (0x2033, 0x2034, 1), (0x2036, 0x2037, 1),
  (0x203C, 0x203E, 2), (0x2047, 0x2049, 1), (0x2057, 0x2057, 1), (0x2070, 0x209C, 1),
  (0x20A8, 0x20A8, 1), (0x2100, 0x2103, 1), (0x2105, 0x2107, 1), (0x2109, 0x2113, 1),
  (0x2115, 0x2116, 1), (0x2119, 0x211D, 1), (0x2120, 0x2122, 1), (0x2124, 0x2128, 2),
  (0x212A, 0x212D, 1), (0x212F, 0x2139, 1), (0x213B, 0x2140, 1), (0x2145, 0x2149, 1),
  (0x2150, 0x217F, 1), (0x2183, 0x2183, 1), (0x2189, 0x2189, 1), (0x222C, 0x222D, 1),
  (0x222F, 0x2230, 1), (0x2329, 0x232A, 1), (0x2460, 0x24EA, 1), (0x2A0C, 0x2A0C, 1),
  (0x2A74, 0x2A76, 1), (0x2ADC, 0x2ADC, 1), (0x2C00, 0x2C2F, 1), (0x2C60, 0x2C60, 1),
  (0x2C62, 0x2C64, 1), (0x2C67, 0x2C6B, 2), (0x2C6D, 0x2C70, 1), (0x2C72, 0x2C72, 1),
  (0x2C75, 0x2C75, 1), (0x2C7C, 0x2C80, 1), (0x2C82, 0x2CE2, 2), (0x2CEB, 0x2CED, 2),
  (0x2CF2, 0x2CF2, 1), (0x2D6F, 0x2D6F, 1), (0x2E9F, 0x2E9F, 1), (0x2EF3, 0x2FD5, 1),
  (0x3002, 0x3002, 1), (0x3036, 0x3036, 1), (0x3038, 0x303A, 1), (0x309B, 0x309C, 1),
  (0x309F, 0x309F, 1), (0x30FF, 0x30FF, 1), (0x3131, 0x318E, 1), (0x3192, 0x319F, 1),
  (0x3200, 0x3247, 1), (0x3250, 0x327E, 1), (0x3280, 0x33FF, 1), (0xA640, 0xA66C, 2),
  (0xA680, 0xA69A, 2), (0xA69C, 0xA69D, 1), (0xA722, 0xA72E, 2), (0xA732, 0xA770, 2),
  (0xA779, 0xA77B, 2), (0xA77D, 0xA77E, 1), (0xA780, 0xA786, 2), (0xA78B, 0xA78D, 2),
  (0xA790, 0xA792, 2), (0xA796, 0xA7A8, 2), (0xA7AA, 0xA7AE, 1), (0xA7B0, 0xA7B4, 1),
  (0xA7B6, 0xA7C2, 2), (0xA7C4, 0xA7C7, 1), (0xA7C9, 0xA7C9, 1), (0xA7CB, 0xA7CC, 1),
  (0xA7CE, 0xA7DA, 2), (0xA7DC, 0xA7F5, 1), (0xA7F8, 0xA7F9, 1), (0xAB5C, 0xAB5F, 1),
  (0xAB69, 0xAB69, 1), (0xAB70, 0xABBF, 1), (0xF900, 0xFA0D, 1), (0xFA10, 0xFA12, 2),
  (0xFA15, 0xFA1E, 1), (0xFA20, 0xFA22, 2), (0xFA25, 0xFA26, 1), (0xFA2A, 0xFB1D, 1),
  (0xFB1F, 0xFBB1, 1), (0xFBD3, 0xFD3D, 1), (0xFD50, 0xFD8F, 1), (0xFD92, 0xFDC7, 1),
  (0xFDF0, 0xFDFC, 1), (0xFE00, 0xFE19, 1), (0xFE30, 0xFE44, 1), (0xFE47, 0xFE72, 1),
  (0xFE74, 0xFFFD, 1), (0x10400, 0x10427, 1), (0x104B0, 0x104D3, 1), (0x10570, 0x10595, 1),
  (0x10781, 0x107BA, 1), (0x10C80, 0x10CB2, 1), (0x10D50, 0x10D65, 1), (0x118A0, 0x118BF, 1),
  (0x16E40, 0x16E5F, 1), (0x16EA0, 0x16EB8, 1), (0x1CCD6, 0x1CCF9, 1), (0x1D15E, 0x1D164, 1),
  (0x1D1BB, 0x1D1C0, 1), (0x1D400, 0x1D7FF, 1), (0x1E030, 0x1E06D, 1), (0x1E900, 0x1E921, 1),
  (0x1EE00, 0x1EEBB, 1), (0x1F100, 0x1F10A, 1), (0x1F110, 0x1F12E, 1), (0x1F130, 0x1F14F, 1),
  (0x1F16A, 0x1F16C, 1), (0x1F190, 0x1F190, 1), (0x1F200, 0x1F251, 1), (0x1FBF0, 0x1FBF9, 1),
  (0x2F800, 0x2FA1D, 1), (0xE0100, 0xE01EF, 1)]

/-- Whether a host name folds a character into others. -/
def isFolded (c : Char) : Bool :=
  foldedRuns.any fun (first, last, step) =>
    first ≤ c.toNat && c.toNat ≤ last && (c.toNat - first) % step == 0

/-- Whether a host name keeps a character beyond ASCII. -/
def isKept (c : Char) : Bool := !Text.isHidden c && !isFolded c

end UniformIter.Iri
