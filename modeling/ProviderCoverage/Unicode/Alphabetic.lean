import ProviderCoverage.Unicode.Run

/-!
# Letters and numbers

The alphabetic characters (the property Alphabetic: letters, letter numbers and the marks and
symbols that behave as letters) and the numeric characters (general categories Nd, Nl and No),
as Unicode 17.0 has them.
-/

namespace ProviderCoverage.Unicode

def alphabeticRuns : List CodeRun :=
[
  ⟨0x41, 26, 1⟩, ⟨0x61, 26, 1⟩, ⟨0xAA, 1, 1⟩, ⟨0xB5, 1, 1⟩, ⟨0xBA, 1, 1⟩, ⟨0xC0, 23, 1⟩,
  ⟨0xD8, 31, 1⟩, ⟨0xF8, 458, 1⟩, ⟨0x2C6, 12, 1⟩, ⟨0x2E0, 5, 1⟩, ⟨0x2EC, 1, 1⟩, ⟨0x2EE, 1, 1⟩,
  ⟨0x345, 1, 1⟩, ⟨0x363, 18, 1⟩, ⟨0x376, 2, 1⟩, ⟨0x37A, 4, 1⟩, ⟨0x37F, 1, 1⟩, ⟨0x386, 1, 1⟩,
  ⟨0x388, 3, 1⟩, ⟨0x38C, 1, 1⟩, ⟨0x38E, 20, 1⟩, ⟨0x3A3, 83, 1⟩, ⟨0x3F7, 139, 1⟩, ⟨0x48A, 166, 1⟩,
  ⟨0x531, 38, 1⟩, ⟨0x559, 1, 1⟩, ⟨0x560, 41, 1⟩, ⟨0x5B0, 14, 1⟩, ⟨0x5BF, 1, 1⟩, ⟨0x5C1, 2, 1⟩,
  ⟨0x5C4, 2, 1⟩, ⟨0x5C7, 1, 1⟩, ⟨0x5D0, 27, 1⟩, ⟨0x5EF, 4, 1⟩, ⟨0x610, 11, 1⟩, ⟨0x620, 56, 1⟩,
  ⟨0x659, 7, 1⟩, ⟨0x66E, 102, 1⟩, ⟨0x6D5, 8, 1⟩, ⟨0x6E1, 8, 1⟩, ⟨0x6ED, 3, 1⟩, ⟨0x6FA, 3, 1⟩,
  ⟨0x6FF, 1, 1⟩, ⟨0x710, 48, 1⟩, ⟨0x74D, 101, 1⟩, ⟨0x7CA, 33, 1⟩, ⟨0x7F4, 2, 1⟩, ⟨0x7FA, 1, 1⟩,
  ⟨0x800, 24, 1⟩, ⟨0x81A, 19, 1⟩, ⟨0x840, 25, 1⟩, ⟨0x860, 11, 1⟩, ⟨0x870, 24, 1⟩, ⟨0x889, 7, 1⟩,
  ⟨0x897, 1, 1⟩, ⟨0x8A0, 42, 1⟩, ⟨0x8D4, 12, 1⟩, ⟨0x8E3, 7, 1⟩, ⟨0x8F0, 76, 1⟩, ⟨0x93D, 16, 1⟩,
  ⟨0x94E, 3, 1⟩, ⟨0x955, 15, 1⟩, ⟨0x971, 19, 1⟩, ⟨0x985, 8, 1⟩, ⟨0x98F, 2, 1⟩, ⟨0x993, 22, 1⟩,
  ⟨0x9AA, 7, 1⟩, ⟨0x9B2, 1, 1⟩, ⟨0x9B6, 4, 1⟩, ⟨0x9BD, 8, 1⟩, ⟨0x9C7, 2, 1⟩, ⟨0x9CB, 2, 1⟩,
  ⟨0x9CE, 1, 1⟩, ⟨0x9D7, 1, 1⟩, ⟨0x9DC, 2, 1⟩, ⟨0x9DF, 5, 1⟩, ⟨0x9F0, 2, 1⟩, ⟨0x9FC, 1, 1⟩,
  ⟨0xA01, 3, 1⟩, ⟨0xA05, 6, 1⟩, ⟨0xA0F, 2, 1⟩, ⟨0xA13, 22, 1⟩, ⟨0xA2A, 7, 1⟩, ⟨0xA32, 2, 1⟩,
  ⟨0xA35, 2, 1⟩, ⟨0xA38, 2, 1⟩, ⟨0xA3E, 5, 1⟩, ⟨0xA47, 2, 1⟩, ⟨0xA4B, 2, 1⟩, ⟨0xA51, 1, 1⟩,
  ⟨0xA59, 4, 1⟩, ⟨0xA5E, 1, 1⟩, ⟨0xA70, 6, 1⟩, ⟨0xA81, 3, 1⟩, ⟨0xA85, 9, 1⟩, ⟨0xA8F, 3, 1⟩,
  ⟨0xA93, 22, 1⟩, ⟨0xAAA, 7, 1⟩, ⟨0xAB2, 2, 1⟩, ⟨0xAB5, 5, 1⟩, ⟨0xABD, 9, 1⟩, ⟨0xAC7, 3, 1⟩,
  ⟨0xACB, 2, 1⟩, ⟨0xAD0, 1, 1⟩, ⟨0xAE0, 4, 1⟩, ⟨0xAF9, 4, 1⟩, ⟨0xB01, 3, 1⟩, ⟨0xB05, 8, 1⟩,
  ⟨0xB0F, 2, 1⟩, ⟨0xB13, 22, 1⟩, ⟨0xB2A, 7, 1⟩, ⟨0xB32, 2, 1⟩, ⟨0xB35, 5, 1⟩, ⟨0xB3D, 8, 1⟩,
  ⟨0xB47, 2, 1⟩, ⟨0xB4B, 2, 1⟩, ⟨0xB56, 2, 1⟩, ⟨0xB5C, 2, 1⟩, ⟨0xB5F, 5, 1⟩, ⟨0xB71, 1, 1⟩,
  ⟨0xB82, 2, 1⟩, ⟨0xB85, 6, 1⟩, ⟨0xB8E, 3, 1⟩, ⟨0xB92, 4, 1⟩, ⟨0xB99, 2, 1⟩, ⟨0xB9C, 1, 1⟩,
  ⟨0xB9E, 2, 1⟩, ⟨0xBA3, 2, 1⟩, ⟨0xBA8, 3, 1⟩, ⟨0xBAE, 12, 1⟩, ⟨0xBBE, 5, 1⟩, ⟨0xBC6, 3, 1⟩,
  ⟨0xBCA, 3, 1⟩, ⟨0xBD0, 1, 1⟩, ⟨0xBD7, 1, 1⟩, ⟨0xC00, 13, 1⟩, ⟨0xC0E, 3, 1⟩, ⟨0xC12, 23, 1⟩,
  ⟨0xC2A, 16, 1⟩, ⟨0xC3D, 8, 1⟩, ⟨0xC46, 3, 1⟩, ⟨0xC4A, 3, 1⟩, ⟨0xC55, 2, 1⟩, ⟨0xC58, 3, 1⟩,
  ⟨0xC5C, 2, 1⟩, ⟨0xC60, 4, 1⟩, ⟨0xC80, 4, 1⟩, ⟨0xC85, 8, 1⟩, ⟨0xC8E, 3, 1⟩, ⟨0xC92, 23, 1⟩,
  ⟨0xCAA, 10, 1⟩, ⟨0xCB5, 5, 1⟩, ⟨0xCBD, 8, 1⟩, ⟨0xCC6, 3, 1⟩, ⟨0xCCA, 3, 1⟩, ⟨0xCD5, 2, 1⟩,
  ⟨0xCDC, 3, 1⟩, ⟨0xCE0, 4, 1⟩, ⟨0xCF1, 3, 1⟩, ⟨0xD00, 13, 1⟩, ⟨0xD0E, 3, 1⟩, ⟨0xD12, 41, 1⟩,
  ⟨0xD3D, 8, 1⟩, ⟨0xD46, 3, 1⟩, ⟨0xD4A, 3, 1⟩, ⟨0xD4E, 1, 1⟩, ⟨0xD54, 4, 1⟩, ⟨0xD5F, 5, 1⟩,
  ⟨0xD7A, 6, 1⟩, ⟨0xD81, 3, 1⟩, ⟨0xD85, 18, 1⟩, ⟨0xD9A, 24, 1⟩, ⟨0xDB3, 9, 1⟩, ⟨0xDBD, 1, 1⟩,
  ⟨0xDC0, 7, 1⟩, ⟨0xDCF, 6, 1⟩, ⟨0xDD6, 1, 1⟩, ⟨0xDD8, 8, 1⟩, ⟨0xDF2, 2, 1⟩, ⟨0xE01, 58, 1⟩,
  ⟨0xE40, 7, 1⟩, ⟨0xE4D, 1, 1⟩, ⟨0xE81, 2, 1⟩, ⟨0xE84, 1, 1⟩, ⟨0xE86, 5, 1⟩, ⟨0xE8C, 24, 1⟩,
  ⟨0xEA5, 1, 1⟩, ⟨0xEA7, 19, 1⟩, ⟨0xEBB, 3, 1⟩, ⟨0xEC0, 5, 1⟩, ⟨0xEC6, 1, 1⟩, ⟨0xECD, 1, 1⟩,
  ⟨0xEDC, 4, 1⟩, ⟨0xF00, 1, 1⟩, ⟨0xF40, 8, 1⟩, ⟨0xF49, 36, 1⟩, ⟨0xF71, 19, 1⟩, ⟨0xF88, 16, 1⟩,
  ⟨0xF99, 36, 1⟩, ⟨0x1000, 55, 1⟩, ⟨0x1038, 1, 1⟩, ⟨0x103B, 5, 1⟩, ⟨0x1050, 64, 1⟩,
  ⟨0x109A, 4, 1⟩, ⟨0x10A0, 38, 1⟩, ⟨0x10C7, 1, 1⟩, ⟨0x10CD, 1, 1⟩, ⟨0x10D0, 43, 1⟩,
  ⟨0x10FC, 333, 1⟩, ⟨0x124A, 4, 1⟩, ⟨0x1250, 7, 1⟩, ⟨0x1258, 1, 1⟩, ⟨0x125A, 4, 1⟩,
  ⟨0x1260, 41, 1⟩, ⟨0x128A, 4, 1⟩, ⟨0x1290, 33, 1⟩, ⟨0x12B2, 4, 1⟩, ⟨0x12B8, 7, 1⟩,
  ⟨0x12C0, 1, 1⟩, ⟨0x12C2, 4, 1⟩, ⟨0x12C8, 15, 1⟩, ⟨0x12D8, 57, 1⟩, ⟨0x1312, 4, 1⟩,
  ⟨0x1318, 67, 1⟩, ⟨0x1380, 16, 1⟩, ⟨0x13A0, 86, 1⟩, ⟨0x13F8, 6, 1⟩, ⟨0x1401, 620, 1⟩,
  ⟨0x166F, 17, 1⟩, ⟨0x1681, 26, 1⟩, ⟨0x16A0, 75, 1⟩, ⟨0x16EE, 11, 1⟩, ⟨0x1700, 20, 1⟩,
  ⟨0x171F, 21, 1⟩, ⟨0x1740, 20, 1⟩, ⟨0x1760, 13, 1⟩, ⟨0x176E, 3, 1⟩, ⟨0x1772, 2, 1⟩,
  ⟨0x1780, 52, 1⟩, ⟨0x17B6, 19, 1⟩, ⟨0x17D7, 1, 1⟩, ⟨0x17DC, 1, 1⟩, ⟨0x1820, 89, 1⟩,
  ⟨0x1880, 43, 1⟩, ⟨0x18B0, 70, 1⟩, ⟨0x1900, 31, 1⟩, ⟨0x1920, 12, 1⟩, ⟨0x1930, 9, 1⟩,
  ⟨0x1950, 30, 1⟩, ⟨0x1970, 5, 1⟩, ⟨0x1980, 44, 1⟩, ⟨0x19B0, 26, 1⟩, ⟨0x1A00, 28, 1⟩,
  ⟨0x1A20, 63, 1⟩, ⟨0x1A61, 20, 1⟩, ⟨0x1AA7, 1, 1⟩, ⟨0x1ABF, 2, 1⟩, ⟨0x1ACC, 3, 1⟩,
  ⟨0x1B00, 52, 1⟩, ⟨0x1B35, 15, 1⟩, ⟨0x1B45, 8, 1⟩, ⟨0x1B80, 42, 1⟩, ⟨0x1BAC, 4, 1⟩,
  ⟨0x1BBA, 44, 1⟩, ⟨0x1BE7, 11, 1⟩, ⟨0x1C00, 55, 1⟩, ⟨0x1C4D, 3, 1⟩, ⟨0x1C5A, 36, 1⟩,
  ⟨0x1C80, 11, 1⟩, ⟨0x1C90, 43, 1⟩, ⟨0x1CBD, 3, 1⟩, ⟨0x1CE9, 4, 1⟩, ⟨0x1CEE, 6, 1⟩,
  ⟨0x1CF5, 2, 1⟩, ⟨0x1CFA, 1, 1⟩, ⟨0x1D00, 192, 1⟩, ⟨0x1DD3, 34, 1⟩, ⟨0x1E00, 278, 1⟩,
  ⟨0x1F18, 6, 1⟩, ⟨0x1F20, 38, 1⟩, ⟨0x1F48, 6, 1⟩, ⟨0x1F50, 8, 1⟩, ⟨0x1F59, 4, 2⟩,
  ⟨0x1F60, 30, 1⟩, ⟨0x1F80, 53, 1⟩, ⟨0x1FB6, 7, 1⟩, ⟨0x1FBE, 1, 1⟩, ⟨0x1FC2, 3, 1⟩,
  ⟨0x1FC6, 7, 1⟩, ⟨0x1FD0, 4, 1⟩, ⟨0x1FD6, 6, 1⟩, ⟨0x1FE0, 13, 1⟩, ⟨0x1FF2, 3, 1⟩,
  ⟨0x1FF6, 7, 1⟩, ⟨0x2071, 1, 1⟩, ⟨0x207F, 1, 1⟩, ⟨0x2090, 13, 1⟩, ⟨0x2102, 1, 1⟩,
  ⟨0x2107, 1, 1⟩, ⟨0x210A, 10, 1⟩, ⟨0x2115, 1, 1⟩, ⟨0x2119, 5, 1⟩, ⟨0x2124, 4, 2⟩,
  ⟨0x212B, 3, 1⟩, ⟨0x212F, 11, 1⟩, ⟨0x213C, 4, 1⟩, ⟨0x2145, 5, 1⟩, ⟨0x214E, 1, 1⟩,
  ⟨0x2160, 41, 1⟩, ⟨0x24B6, 52, 1⟩, ⟨0x2C00, 229, 1⟩, ⟨0x2CEB, 4, 1⟩, ⟨0x2CF2, 2, 1⟩,
  ⟨0x2D00, 38, 1⟩, ⟨0x2D27, 1, 1⟩, ⟨0x2D2D, 1, 1⟩, ⟨0x2D30, 56, 1⟩, ⟨0x2D6F, 1, 1⟩,
  ⟨0x2D80, 23, 1⟩, ⟨0x2DA0, 7, 1⟩, ⟨0x2DA8, 7, 1⟩, ⟨0x2DB0, 7, 1⟩, ⟨0x2DB8, 7, 1⟩,
  ⟨0x2DC0, 7, 1⟩, ⟨0x2DC8, 7, 1⟩, ⟨0x2DD0, 7, 1⟩, ⟨0x2DD8, 7, 1⟩, ⟨0x2DE0, 32, 1⟩,
  ⟨0x2E2F, 1, 1⟩, ⟨0x3005, 3, 1⟩, ⟨0x3021, 9, 1⟩, ⟨0x3031, 5, 1⟩, ⟨0x3038, 5, 1⟩,
  ⟨0x3041, 86, 1⟩, ⟨0x309D, 3, 1⟩, ⟨0x30A1, 90, 1⟩, ⟨0x30FC, 4, 1⟩, ⟨0x3105, 43, 1⟩,
  ⟨0x3131, 94, 1⟩, ⟨0x31A0, 32, 1⟩, ⟨0x31F0, 16, 1⟩, ⟨0x3400, 6592, 1⟩, ⟨0x4E00, 22157, 1⟩,
  ⟨0xA4D0, 46, 1⟩, ⟨0xA500, 269, 1⟩, ⟨0xA610, 16, 1⟩, ⟨0xA62A, 2, 1⟩, ⟨0xA640, 47, 1⟩,
  ⟨0xA674, 8, 1⟩, ⟨0xA67F, 113, 1⟩, ⟨0xA717, 9, 1⟩, ⟨0xA722, 103, 1⟩, ⟨0xA78B, 82, 1⟩,
  ⟨0xA7F1, 21, 1⟩, ⟨0xA807, 33, 1⟩, ⟨0xA840, 52, 1⟩, ⟨0xA880, 68, 1⟩, ⟨0xA8C5, 1, 1⟩,
  ⟨0xA8F2, 6, 1⟩, ⟨0xA8FB, 1, 1⟩, ⟨0xA8FD, 3, 1⟩, ⟨0xA90A, 33, 1⟩, ⟨0xA930, 35, 1⟩,
  ⟨0xA960, 29, 1⟩, ⟨0xA980, 51, 1⟩, ⟨0xA9B4, 12, 1⟩, ⟨0xA9CF, 1, 1⟩, ⟨0xA9E0, 16, 1⟩,
  ⟨0xA9FA, 5, 1⟩, ⟨0xAA00, 55, 1⟩, ⟨0xAA40, 14, 1⟩, ⟨0xAA60, 23, 1⟩, ⟨0xAA7A, 69, 1⟩,
  ⟨0xAAC0, 1, 1⟩, ⟨0xAAC2, 1, 1⟩, ⟨0xAADB, 3, 1⟩, ⟨0xAAE0, 16, 1⟩, ⟨0xAAF2, 4, 1⟩,
  ⟨0xAB01, 6, 1⟩, ⟨0xAB09, 6, 1⟩, ⟨0xAB11, 6, 1⟩, ⟨0xAB20, 7, 1⟩, ⟨0xAB28, 7, 1⟩,
  ⟨0xAB30, 43, 1⟩, ⟨0xAB5C, 14, 1⟩, ⟨0xAB70, 123, 1⟩, ⟨0xAC00, 11172, 1⟩, ⟨0xD7B0, 23, 1⟩,
  ⟨0xD7CB, 49, 1⟩, ⟨0xF900, 366, 1⟩, ⟨0xFA70, 106, 1⟩, ⟨0xFB00, 7, 1⟩, ⟨0xFB13, 5, 1⟩,
  ⟨0xFB1D, 12, 1⟩, ⟨0xFB2A, 13, 1⟩, ⟨0xFB38, 5, 1⟩, ⟨0xFB3E, 1, 1⟩, ⟨0xFB40, 2, 1⟩,
  ⟨0xFB43, 2, 1⟩, ⟨0xFB46, 108, 1⟩, ⟨0xFBD3, 363, 1⟩, ⟨0xFD50, 64, 1⟩, ⟨0xFD92, 54, 1⟩,
  ⟨0xFDF0, 12, 1⟩, ⟨0xFE70, 5, 1⟩, ⟨0xFE76, 135, 1⟩, ⟨0xFF21, 26, 1⟩, ⟨0xFF41, 26, 1⟩,
  ⟨0xFF66, 89, 1⟩, ⟨0xFFC2, 6, 1⟩, ⟨0xFFCA, 6, 1⟩, ⟨0xFFD2, 6, 1⟩, ⟨0xFFDA, 3, 1⟩,
  ⟨0x10000, 12, 1⟩, ⟨0x1000D, 26, 1⟩, ⟨0x10028, 19, 1⟩, ⟨0x1003C, 2, 1⟩, ⟨0x1003F, 15, 1⟩,
  ⟨0x10050, 14, 1⟩, ⟨0x10080, 123, 1⟩, ⟨0x10140, 53, 1⟩, ⟨0x10280, 29, 1⟩, ⟨0x102A0, 49, 1⟩,
  ⟨0x10300, 32, 1⟩, ⟨0x1032D, 30, 1⟩, ⟨0x10350, 43, 1⟩, ⟨0x10380, 30, 1⟩, ⟨0x103A0, 36, 1⟩,
  ⟨0x103C8, 8, 1⟩, ⟨0x103D1, 5, 1⟩, ⟨0x10400, 158, 1⟩, ⟨0x104B0, 36, 1⟩, ⟨0x104D8, 36, 1⟩,
  ⟨0x10500, 40, 1⟩, ⟨0x10530, 52, 1⟩, ⟨0x10570, 11, 1⟩, ⟨0x1057C, 15, 1⟩, ⟨0x1058C, 7, 1⟩,
  ⟨0x10594, 2, 1⟩, ⟨0x10597, 11, 1⟩, ⟨0x105A3, 15, 1⟩, ⟨0x105B3, 7, 1⟩, ⟨0x105BB, 2, 1⟩,
  ⟨0x105C0, 52, 1⟩, ⟨0x10600, 311, 1⟩, ⟨0x10740, 22, 1⟩, ⟨0x10760, 8, 1⟩, ⟨0x10780, 6, 1⟩,
  ⟨0x10787, 42, 1⟩, ⟨0x107B2, 9, 1⟩, ⟨0x10800, 6, 1⟩, ⟨0x10808, 1, 1⟩, ⟨0x1080A, 44, 1⟩,
  ⟨0x10837, 2, 1⟩, ⟨0x1083C, 1, 1⟩, ⟨0x1083F, 23, 1⟩, ⟨0x10860, 23, 1⟩, ⟨0x10880, 31, 1⟩,
  ⟨0x108E0, 19, 1⟩, ⟨0x108F4, 2, 1⟩, ⟨0x10900, 22, 1⟩, ⟨0x10920, 26, 1⟩, ⟨0x10940, 26, 1⟩,
  ⟨0x10980, 56, 1⟩, ⟨0x109BE, 2, 1⟩, ⟨0x10A00, 4, 1⟩, ⟨0x10A05, 2, 1⟩, ⟨0x10A0C, 8, 1⟩,
  ⟨0x10A15, 3, 1⟩, ⟨0x10A19, 29, 1⟩, ⟨0x10A60, 29, 1⟩, ⟨0x10A80, 29, 1⟩, ⟨0x10AC0, 8, 1⟩,
  ⟨0x10AC9, 28, 1⟩, ⟨0x10B00, 54, 1⟩, ⟨0x10B40, 22, 1⟩, ⟨0x10B60, 19, 1⟩, ⟨0x10B80, 18, 1⟩,
  ⟨0x10C00, 73, 1⟩, ⟨0x10C80, 51, 1⟩, ⟨0x10CC0, 51, 1⟩, ⟨0x10D00, 40, 1⟩, ⟨0x10D4A, 28, 1⟩,
  ⟨0x10D69, 1, 1⟩, ⟨0x10D6F, 23, 1⟩, ⟨0x10E80, 42, 1⟩, ⟨0x10EAB, 2, 1⟩, ⟨0x10EB0, 2, 1⟩,
  ⟨0x10EC2, 6, 1⟩, ⟨0x10EFA, 3, 1⟩, ⟨0x10F00, 29, 1⟩, ⟨0x10F27, 1, 1⟩, ⟨0x10F30, 22, 1⟩,
  ⟨0x10F70, 18, 1⟩, ⟨0x10FB0, 21, 1⟩, ⟨0x10FE0, 23, 1⟩, ⟨0x11000, 70, 1⟩, ⟨0x11071, 5, 1⟩,
  ⟨0x11080, 57, 1⟩, ⟨0x110C2, 1, 1⟩, ⟨0x110D0, 25, 1⟩, ⟨0x11100, 51, 1⟩, ⟨0x11144, 4, 1⟩,
  ⟨0x11150, 35, 1⟩, ⟨0x11176, 1, 1⟩, ⟨0x11180, 64, 1⟩, ⟨0x111C1, 4, 1⟩, ⟨0x111CE, 2, 1⟩,
  ⟨0x111DA, 1, 1⟩, ⟨0x111DC, 1, 1⟩, ⟨0x11200, 18, 1⟩, ⟨0x11213, 34, 1⟩, ⟨0x11237, 1, 1⟩,
  ⟨0x1123E, 4, 1⟩, ⟨0x11280, 7, 1⟩, ⟨0x11288, 1, 1⟩, ⟨0x1128A, 4, 1⟩, ⟨0x1128F, 15, 1⟩,
  ⟨0x1129F, 10, 1⟩, ⟨0x112B0, 57, 1⟩, ⟨0x11300, 4, 1⟩, ⟨0x11305, 8, 1⟩, ⟨0x1130F, 2, 1⟩,
  ⟨0x11313, 22, 1⟩, ⟨0x1132A, 7, 1⟩, ⟨0x11332, 2, 1⟩, ⟨0x11335, 5, 1⟩, ⟨0x1133D, 8, 1⟩,
  ⟨0x11347, 2, 1⟩, ⟨0x1134B, 2, 1⟩, ⟨0x11350, 1, 1⟩, ⟨0x11357, 1, 1⟩, ⟨0x1135D, 7, 1⟩,
  ⟨0x11380, 10, 1⟩, ⟨0x1138B, 1, 1⟩, ⟨0x1138E, 1, 1⟩, ⟨0x11390, 38, 1⟩, ⟨0x113B7, 10, 1⟩,
  ⟨0x113C2, 1, 1⟩, ⟨0x113C5, 1, 1⟩, ⟨0x113C7, 4, 1⟩, ⟨0x113CC, 2, 1⟩, ⟨0x113D1, 1, 1⟩,
  ⟨0x113D3, 1, 1⟩, ⟨0x11400, 66, 1⟩, ⟨0x11443, 3, 1⟩, ⟨0x11447, 4, 1⟩, ⟨0x1145F, 3, 1⟩,
  ⟨0x11480, 66, 1⟩, ⟨0x114C4, 2, 1⟩, ⟨0x114C7, 1, 1⟩, ⟨0x11580, 54, 1⟩, ⟨0x115B8, 7, 1⟩,
  ⟨0x115D8, 6, 1⟩, ⟨0x11600, 63, 1⟩, ⟨0x11640, 1, 1⟩, ⟨0x11644, 1, 1⟩, ⟨0x11680, 54, 1⟩,
  ⟨0x116B8, 1, 1⟩, ⟨0x11700, 27, 1⟩, ⟨0x1171D, 14, 1⟩, ⟨0x11740, 7, 1⟩, ⟨0x11800, 57, 1⟩,
  ⟨0x118A0, 64, 1⟩, ⟨0x118FF, 8, 1⟩, ⟨0x11909, 1, 1⟩, ⟨0x1190C, 8, 1⟩, ⟨0x11915, 2, 1⟩,
  ⟨0x11918, 30, 1⟩, ⟨0x11937, 2, 1⟩, ⟨0x1193B, 2, 1⟩, ⟨0x1193F, 4, 1⟩, ⟨0x119A0, 8, 1⟩,
  ⟨0x119AA, 46, 1⟩, ⟨0x119DA, 6, 1⟩, ⟨0x119E1, 1, 1⟩, ⟨0x119E3, 2, 1⟩, ⟨0x11A00, 51, 1⟩,
  ⟨0x11A35, 10, 1⟩, ⟨0x11A50, 72, 1⟩, ⟨0x11A9D, 1, 1⟩, ⟨0x11AB0, 73, 1⟩, ⟨0x11B60, 8, 1⟩,
  ⟨0x11BC0, 33, 1⟩, ⟨0x11C00, 9, 1⟩, ⟨0x11C0A, 45, 1⟩, ⟨0x11C38, 7, 1⟩, ⟨0x11C40, 1, 1⟩,
  ⟨0x11C72, 30, 1⟩, ⟨0x11C92, 22, 1⟩, ⟨0x11CA9, 14, 1⟩, ⟨0x11D00, 7, 1⟩, ⟨0x11D08, 2, 1⟩,
  ⟨0x11D0B, 44, 1⟩, ⟨0x11D3A, 1, 1⟩, ⟨0x11D3C, 2, 1⟩, ⟨0x11D3F, 3, 1⟩, ⟨0x11D43, 1, 1⟩,
  ⟨0x11D46, 2, 1⟩, ⟨0x11D60, 6, 1⟩, ⟨0x11D67, 2, 1⟩, ⟨0x11D6A, 37, 1⟩, ⟨0x11D90, 2, 1⟩,
  ⟨0x11D93, 4, 1⟩, ⟨0x11D98, 1, 1⟩, ⟨0x11DB0, 44, 1⟩, ⟨0x11EE0, 23, 1⟩, ⟨0x11F00, 17, 1⟩,
  ⟨0x11F12, 41, 1⟩, ⟨0x11F3E, 3, 1⟩, ⟨0x11FB0, 1, 1⟩, ⟨0x12000, 922, 1⟩, ⟨0x12400, 111, 1⟩,
  ⟨0x12480, 196, 1⟩, ⟨0x12F90, 97, 1⟩, ⟨0x13000, 1072, 1⟩, ⟨0x13441, 6, 1⟩, ⟨0x13460, 3995, 1⟩,
  ⟨0x14400, 583, 1⟩, ⟨0x16100, 47, 1⟩, ⟨0x16800, 569, 1⟩, ⟨0x16A40, 31, 1⟩, ⟨0x16A70, 79, 1⟩,
  ⟨0x16AD0, 30, 1⟩, ⟨0x16B00, 48, 1⟩, ⟨0x16B40, 4, 1⟩, ⟨0x16B63, 21, 1⟩, ⟨0x16B7D, 19, 1⟩,
  ⟨0x16D40, 45, 1⟩, ⟨0x16E40, 64, 1⟩, ⟨0x16EA0, 25, 1⟩, ⟨0x16EBB, 25, 1⟩, ⟨0x16F00, 75, 1⟩,
  ⟨0x16F4F, 57, 1⟩, ⟨0x16F8F, 17, 1⟩, ⟨0x16FE0, 2, 1⟩, ⟨0x16FE3, 1, 1⟩, ⟨0x16FF0, 7, 1⟩,
  ⟨0x17000, 7382, 1⟩, ⟨0x18CFF, 32, 1⟩, ⟨0x18D80, 115, 1⟩, ⟨0x1AFF0, 4, 1⟩, ⟨0x1AFF5, 7, 1⟩,
  ⟨0x1AFFD, 2, 1⟩, ⟨0x1B000, 291, 1⟩, ⟨0x1B132, 1, 1⟩, ⟨0x1B150, 3, 1⟩, ⟨0x1B155, 1, 1⟩,
  ⟨0x1B164, 4, 1⟩, ⟨0x1B170, 396, 1⟩, ⟨0x1BC00, 107, 1⟩, ⟨0x1BC70, 13, 1⟩, ⟨0x1BC80, 9, 1⟩,
  ⟨0x1BC90, 10, 1⟩, ⟨0x1BC9E, 1, 1⟩, ⟨0x1D400, 85, 1⟩, ⟨0x1D456, 71, 1⟩, ⟨0x1D49E, 2, 1⟩,
  ⟨0x1D4A2, 1, 1⟩, ⟨0x1D4A5, 2, 1⟩, ⟨0x1D4A9, 4, 1⟩, ⟨0x1D4AE, 12, 1⟩, ⟨0x1D4BB, 1, 1⟩,
  ⟨0x1D4BD, 7, 1⟩, ⟨0x1D4C5, 65, 1⟩, ⟨0x1D507, 4, 1⟩, ⟨0x1D50D, 8, 1⟩, ⟨0x1D516, 7, 1⟩,
  ⟨0x1D51E, 28, 1⟩, ⟨0x1D53B, 4, 1⟩, ⟨0x1D540, 5, 1⟩, ⟨0x1D546, 1, 1⟩, ⟨0x1D54A, 7, 1⟩,
  ⟨0x1D552, 340, 1⟩, ⟨0x1D6A8, 25, 1⟩, ⟨0x1D6C2, 25, 1⟩, ⟨0x1D6DC, 31, 1⟩, ⟨0x1D6FC, 25, 1⟩,
  ⟨0x1D716, 31, 1⟩, ⟨0x1D736, 25, 1⟩, ⟨0x1D750, 31, 1⟩, ⟨0x1D770, 25, 1⟩, ⟨0x1D78A, 31, 1⟩,
  ⟨0x1D7AA, 25, 1⟩, ⟨0x1D7C4, 8, 1⟩, ⟨0x1DF00, 31, 1⟩, ⟨0x1DF25, 6, 1⟩, ⟨0x1E000, 7, 1⟩,
  ⟨0x1E008, 17, 1⟩, ⟨0x1E01B, 7, 1⟩, ⟨0x1E023, 2, 1⟩, ⟨0x1E026, 5, 1⟩, ⟨0x1E030, 62, 1⟩,
  ⟨0x1E08F, 1, 1⟩, ⟨0x1E100, 45, 1⟩, ⟨0x1E137, 7, 1⟩, ⟨0x1E14E, 1, 1⟩, ⟨0x1E290, 30, 1⟩,
  ⟨0x1E2C0, 44, 1⟩, ⟨0x1E4D0, 28, 1⟩, ⟨0x1E5D0, 30, 1⟩, ⟨0x1E5F0, 1, 1⟩, ⟨0x1E6C0, 31, 1⟩,
  ⟨0x1E6E0, 22, 1⟩, ⟨0x1E6FE, 2, 1⟩, ⟨0x1E7E0, 7, 1⟩, ⟨0x1E7E8, 4, 1⟩, ⟨0x1E7ED, 2, 1⟩,
  ⟨0x1E7F0, 15, 1⟩, ⟨0x1E800, 197, 1⟩, ⟨0x1E900, 68, 1⟩, ⟨0x1E947, 1, 1⟩, ⟨0x1E94B, 1, 1⟩,
  ⟨0x1EE00, 4, 1⟩, ⟨0x1EE05, 27, 1⟩, ⟨0x1EE21, 2, 1⟩, ⟨0x1EE24, 1, 1⟩, ⟨0x1EE27, 1, 1⟩,
  ⟨0x1EE29, 10, 1⟩, ⟨0x1EE34, 4, 1⟩, ⟨0x1EE39, 1, 1⟩, ⟨0x1EE3B, 1, 1⟩, ⟨0x1EE42, 1, 1⟩,
  ⟨0x1EE47, 4, 2⟩, ⟨0x1EE4E, 2, 1⟩, ⟨0x1EE51, 2, 1⟩, ⟨0x1EE54, 1, 1⟩, ⟨0x1EE57, 6, 2⟩,
  ⟨0x1EE62, 1, 1⟩, ⟨0x1EE64, 1, 1⟩, ⟨0x1EE67, 4, 1⟩, ⟨0x1EE6C, 7, 1⟩, ⟨0x1EE74, 4, 1⟩,
  ⟨0x1EE79, 4, 1⟩, ⟨0x1EE7E, 1, 1⟩, ⟨0x1EE80, 10, 1⟩, ⟨0x1EE8B, 17, 1⟩, ⟨0x1EEA1, 3, 1⟩,
  ⟨0x1EEA5, 5, 1⟩, ⟨0x1EEAB, 17, 1⟩, ⟨0x1F130, 26, 1⟩, ⟨0x1F150, 26, 1⟩, ⟨0x1F170, 26, 1⟩,
  ⟨0x20000, 42720, 1⟩, ⟨0x2A700, 4382, 1⟩, ⟨0x2B820, 5774, 1⟩, ⟨0x2CEB0, 7473, 1⟩,
  ⟨0x2EBF0, 622, 1⟩, ⟨0x2F800, 542, 1⟩, ⟨0x30000, 4939, 1⟩, ⟨0x31350, 8490, 1⟩]

/-- The characters of general category Nd, Nl or No. -/
def numericRuns : List CodeRun :=
[
  ⟨0x30, 10, 1⟩, ⟨0xB2, 2, 1⟩, ⟨0xB9, 1, 1⟩, ⟨0xBC, 3, 1⟩, ⟨0x660, 10, 1⟩, ⟨0x6F0, 10, 1⟩,
  ⟨0x7C0, 10, 1⟩, ⟨0x966, 10, 1⟩, ⟨0x9E6, 10, 1⟩, ⟨0x9F4, 6, 1⟩, ⟨0xA66, 10, 1⟩, ⟨0xAE6, 10, 1⟩,
  ⟨0xB66, 10, 1⟩, ⟨0xB72, 6, 1⟩, ⟨0xBE6, 13, 1⟩, ⟨0xC66, 10, 1⟩, ⟨0xC78, 7, 1⟩, ⟨0xCE6, 10, 1⟩,
  ⟨0xD58, 7, 1⟩, ⟨0xD66, 19, 1⟩, ⟨0xDE6, 10, 1⟩, ⟨0xE50, 10, 1⟩, ⟨0xED0, 10, 1⟩, ⟨0xF20, 20, 1⟩,
  ⟨0x1040, 10, 1⟩, ⟨0x1090, 10, 1⟩, ⟨0x1369, 20, 1⟩, ⟨0x16EE, 3, 1⟩, ⟨0x17E0, 10, 1⟩,
  ⟨0x17F0, 10, 1⟩, ⟨0x1810, 10, 1⟩, ⟨0x1946, 10, 1⟩, ⟨0x19D0, 11, 1⟩, ⟨0x1A80, 10, 1⟩,
  ⟨0x1A90, 10, 1⟩, ⟨0x1B50, 10, 1⟩, ⟨0x1BB0, 10, 1⟩, ⟨0x1C40, 10, 1⟩, ⟨0x1C50, 10, 1⟩,
  ⟨0x2070, 1, 1⟩, ⟨0x2074, 6, 1⟩, ⟨0x2080, 10, 1⟩, ⟨0x2150, 51, 1⟩, ⟨0x2185, 5, 1⟩,
  ⟨0x2460, 60, 1⟩, ⟨0x24EA, 22, 1⟩, ⟨0x2776, 30, 1⟩, ⟨0x2CFD, 1, 1⟩, ⟨0x3007, 1, 1⟩,
  ⟨0x3021, 9, 1⟩, ⟨0x3038, 3, 1⟩, ⟨0x3192, 4, 1⟩, ⟨0x3220, 10, 1⟩, ⟨0x3248, 8, 1⟩,
  ⟨0x3251, 15, 1⟩, ⟨0x3280, 10, 1⟩, ⟨0x32B1, 15, 1⟩, ⟨0xA620, 10, 1⟩, ⟨0xA6E6, 10, 1⟩,
  ⟨0xA830, 6, 1⟩, ⟨0xA8D0, 10, 1⟩, ⟨0xA900, 10, 1⟩, ⟨0xA9D0, 10, 1⟩, ⟨0xA9F0, 10, 1⟩,
  ⟨0xAA50, 10, 1⟩, ⟨0xABF0, 10, 1⟩, ⟨0xFF10, 10, 1⟩, ⟨0x10107, 45, 1⟩, ⟨0x10140, 57, 1⟩,
  ⟨0x1018A, 2, 1⟩, ⟨0x102E1, 27, 1⟩, ⟨0x10320, 4, 1⟩, ⟨0x10341, 1, 1⟩, ⟨0x1034A, 1, 1⟩,
  ⟨0x103D1, 5, 1⟩, ⟨0x104A0, 10, 1⟩, ⟨0x10858, 8, 1⟩, ⟨0x10879, 7, 1⟩, ⟨0x108A7, 9, 1⟩,
  ⟨0x108FB, 5, 1⟩, ⟨0x10916, 6, 1⟩, ⟨0x109BC, 2, 1⟩, ⟨0x109C0, 16, 1⟩, ⟨0x109D2, 46, 1⟩,
  ⟨0x10A40, 9, 1⟩, ⟨0x10A7D, 2, 1⟩, ⟨0x10A9D, 3, 1⟩, ⟨0x10AEB, 5, 1⟩, ⟨0x10B58, 8, 1⟩,
  ⟨0x10B78, 8, 1⟩, ⟨0x10BA9, 7, 1⟩, ⟨0x10CFA, 6, 1⟩, ⟨0x10D30, 10, 1⟩, ⟨0x10D40, 10, 1⟩,
  ⟨0x10E60, 31, 1⟩, ⟨0x10F1D, 10, 1⟩, ⟨0x10F51, 4, 1⟩, ⟨0x10FC5, 7, 1⟩, ⟨0x11052, 30, 1⟩,
  ⟨0x110F0, 10, 1⟩, ⟨0x11136, 10, 1⟩, ⟨0x111D0, 10, 1⟩, ⟨0x111E1, 20, 1⟩, ⟨0x112F0, 10, 1⟩,
  ⟨0x11450, 10, 1⟩, ⟨0x114D0, 10, 1⟩, ⟨0x11650, 10, 1⟩, ⟨0x116C0, 10, 1⟩, ⟨0x116D0, 20, 1⟩,
  ⟨0x11730, 12, 1⟩, ⟨0x118E0, 19, 1⟩, ⟨0x11950, 10, 1⟩, ⟨0x11BF0, 10, 1⟩, ⟨0x11C50, 29, 1⟩,
  ⟨0x11D50, 10, 1⟩, ⟨0x11DA0, 10, 1⟩, ⟨0x11DE0, 10, 1⟩, ⟨0x11F50, 10, 1⟩, ⟨0x11FC0, 21, 1⟩,
  ⟨0x12400, 111, 1⟩, ⟨0x16130, 10, 1⟩, ⟨0x16A60, 10, 1⟩, ⟨0x16AC0, 10, 1⟩, ⟨0x16B50, 10, 1⟩,
  ⟨0x16B5B, 7, 1⟩, ⟨0x16D70, 10, 1⟩, ⟨0x16E80, 23, 1⟩, ⟨0x16FF4, 3, 1⟩, ⟨0x1CCF0, 10, 1⟩,
  ⟨0x1D2C0, 20, 1⟩, ⟨0x1D2E0, 20, 1⟩, ⟨0x1D360, 25, 1⟩, ⟨0x1D7CE, 50, 1⟩, ⟨0x1E140, 10, 1⟩,
  ⟨0x1E2F0, 10, 1⟩, ⟨0x1E4F0, 10, 1⟩, ⟨0x1E5F1, 10, 1⟩, ⟨0x1E8C7, 9, 1⟩, ⟨0x1E950, 10, 1⟩,
  ⟨0x1EC71, 59, 1⟩, ⟨0x1ECAD, 3, 1⟩, ⟨0x1ECB1, 4, 1⟩, ⟨0x1ED01, 45, 1⟩, ⟨0x1ED2F, 15, 1⟩,
  ⟨0x1F100, 13, 1⟩, ⟨0x1FBF0, 10, 1⟩]

def isAlphabetic (c : Char) : Bool := inRuns alphabeticRuns c

def isNumeric (c : Char) : Bool := inRuns numericRuns c

end ProviderCoverage.Unicode
