import ProviderCoverage.Unicode.Run

/-!
# Characters shown as themselves

A quoted string shows most characters as they are. Control and format characters, surrogates,
private use and unassigned code points, separators other than the space, the marks that extend
a grapheme and the characters that are ignorable by default (such as the Hangul fillers) are
written as escapes instead. The classes are those of Unicode 17.0.
-/

namespace ProviderCoverage.Unicode

def hiddenRuns : List CodeRun :=
[
  ⟨0x0, 32, 1⟩, ⟨0x7F, 34, 1⟩, ⟨0xAD, 1, 1⟩, ⟨0x300, 112, 1⟩, ⟨0x378, 2, 1⟩, ⟨0x380, 4, 1⟩,
  ⟨0x38B, 1, 1⟩, ⟨0x38D, 1, 1⟩, ⟨0x3A2, 1, 1⟩, ⟨0x483, 7, 1⟩, ⟨0x530, 1, 1⟩, ⟨0x557, 2, 1⟩,
  ⟨0x58B, 2, 1⟩, ⟨0x590, 46, 1⟩, ⟨0x5BF, 1, 1⟩, ⟨0x5C1, 2, 1⟩, ⟨0x5C4, 2, 1⟩, ⟨0x5C7, 9, 1⟩,
  ⟨0x5EB, 4, 1⟩, ⟨0x5F5, 17, 1⟩, ⟨0x610, 11, 1⟩, ⟨0x61C, 1, 1⟩, ⟨0x64B, 21, 1⟩, ⟨0x670, 1, 1⟩,
  ⟨0x6D6, 8, 1⟩, ⟨0x6DF, 6, 1⟩, ⟨0x6E7, 2, 1⟩, ⟨0x6EA, 4, 1⟩, ⟨0x70E, 2, 1⟩, ⟨0x711, 1, 1⟩,
  ⟨0x730, 29, 1⟩, ⟨0x7A6, 11, 1⟩, ⟨0x7B2, 14, 1⟩, ⟨0x7EB, 9, 1⟩, ⟨0x7FB, 3, 1⟩, ⟨0x816, 4, 1⟩,
  ⟨0x81B, 9, 1⟩, ⟨0x825, 3, 1⟩, ⟨0x829, 7, 1⟩, ⟨0x83F, 1, 1⟩, ⟨0x859, 5, 1⟩, ⟨0x85F, 1, 1⟩,
  ⟨0x86B, 5, 1⟩, ⟨0x890, 16, 1⟩, ⟨0x8CA, 57, 1⟩, ⟨0x93A, 1, 1⟩, ⟨0x93C, 1, 1⟩, ⟨0x941, 8, 1⟩,
  ⟨0x94D, 1, 1⟩, ⟨0x951, 7, 1⟩, ⟨0x962, 2, 1⟩, ⟨0x981, 1, 1⟩, ⟨0x984, 1, 1⟩, ⟨0x98D, 2, 1⟩,
  ⟨0x991, 2, 1⟩, ⟨0x9A9, 1, 1⟩, ⟨0x9B1, 1, 1⟩, ⟨0x9B3, 3, 1⟩, ⟨0x9BA, 3, 1⟩, ⟨0x9BE, 1, 1⟩,
  ⟨0x9C1, 6, 1⟩, ⟨0x9C9, 2, 1⟩, ⟨0x9CD, 1, 1⟩, ⟨0x9CF, 13, 1⟩, ⟨0x9DE, 1, 1⟩, ⟨0x9E2, 4, 1⟩,
  ⟨0x9FE, 5, 1⟩, ⟨0xA04, 1, 1⟩, ⟨0xA0B, 4, 1⟩, ⟨0xA11, 2, 1⟩, ⟨0xA29, 1, 1⟩, ⟨0xA31, 1, 1⟩,
  ⟨0xA34, 1, 1⟩, ⟨0xA37, 1, 1⟩, ⟨0xA3A, 4, 1⟩, ⟨0xA41, 24, 1⟩, ⟨0xA5D, 1, 1⟩, ⟨0xA5F, 7, 1⟩,
  ⟨0xA70, 2, 1⟩, ⟨0xA75, 1, 1⟩, ⟨0xA77, 12, 1⟩, ⟨0xA84, 1, 1⟩, ⟨0xA8E, 1, 1⟩, ⟨0xA92, 1, 1⟩,
  ⟨0xAA9, 1, 1⟩, ⟨0xAB1, 1, 1⟩, ⟨0xAB4, 1, 1⟩, ⟨0xABA, 3, 1⟩, ⟨0xAC1, 8, 1⟩, ⟨0xACA, 1, 1⟩,
  ⟨0xACD, 3, 1⟩, ⟨0xAD1, 15, 1⟩, ⟨0xAE2, 4, 1⟩, ⟨0xAF2, 7, 1⟩, ⟨0xAFA, 8, 1⟩, ⟨0xB04, 1, 1⟩,
  ⟨0xB0D, 2, 1⟩, ⟨0xB11, 2, 1⟩, ⟨0xB29, 1, 1⟩, ⟨0xB31, 1, 1⟩, ⟨0xB34, 1, 1⟩, ⟨0xB3A, 3, 1⟩,
  ⟨0xB3E, 2, 1⟩, ⟨0xB41, 6, 1⟩, ⟨0xB49, 2, 1⟩, ⟨0xB4D, 15, 1⟩, ⟨0xB5E, 1, 1⟩, ⟨0xB62, 4, 1⟩,
  ⟨0xB78, 11, 1⟩, ⟨0xB84, 1, 1⟩, ⟨0xB8B, 3, 1⟩, ⟨0xB91, 1, 1⟩, ⟨0xB96, 3, 1⟩, ⟨0xB9B, 1, 1⟩,
  ⟨0xB9D, 1, 1⟩, ⟨0xBA0, 3, 1⟩, ⟨0xBA5, 3, 1⟩, ⟨0xBAB, 3, 1⟩, ⟨0xBBA, 5, 1⟩, ⟨0xBC0, 1, 1⟩,
  ⟨0xBC3, 3, 1⟩, ⟨0xBC9, 1, 1⟩, ⟨0xBCD, 3, 1⟩, ⟨0xBD1, 21, 1⟩, ⟨0xBFB, 6, 1⟩, ⟨0xC04, 1, 1⟩,
  ⟨0xC0D, 1, 1⟩, ⟨0xC11, 1, 1⟩, ⟨0xC29, 1, 1⟩, ⟨0xC3A, 3, 1⟩, ⟨0xC3E, 3, 1⟩, ⟨0xC45, 19, 1⟩,
  ⟨0xC5B, 1, 1⟩, ⟨0xC5E, 2, 1⟩, ⟨0xC62, 4, 1⟩, ⟨0xC70, 7, 1⟩, ⟨0xC81, 1, 1⟩, ⟨0xC8D, 1, 1⟩,
  ⟨0xC91, 1, 1⟩, ⟨0xCA9, 1, 1⟩, ⟨0xCB4, 1, 1⟩, ⟨0xCBA, 3, 1⟩, ⟨0xCBF, 2, 1⟩, ⟨0xCC2, 1, 1⟩,
  ⟨0xCC5, 23, 1⟩, ⟨0xCDF, 1, 1⟩, ⟨0xCE2, 4, 1⟩, ⟨0xCF0, 1, 1⟩, ⟨0xCF4, 14, 1⟩, ⟨0xD0D, 1, 1⟩,
  ⟨0xD11, 1, 1⟩, ⟨0xD3B, 2, 1⟩, ⟨0xD3E, 1, 1⟩, ⟨0xD41, 5, 1⟩, ⟨0xD49, 1, 1⟩, ⟨0xD4D, 1, 1⟩,
  ⟨0xD50, 4, 1⟩, ⟨0xD57, 1, 1⟩, ⟨0xD62, 4, 1⟩, ⟨0xD80, 2, 1⟩, ⟨0xD84, 1, 1⟩, ⟨0xD97, 3, 1⟩,
  ⟨0xDB2, 1, 1⟩, ⟨0xDBC, 1, 1⟩, ⟨0xDBE, 2, 1⟩, ⟨0xDC7, 9, 1⟩, ⟨0xDD2, 6, 1⟩, ⟨0xDDF, 7, 1⟩,
  ⟨0xDF0, 2, 1⟩, ⟨0xDF5, 12, 1⟩, ⟨0xE31, 1, 1⟩, ⟨0xE34, 11, 1⟩, ⟨0xE47, 8, 1⟩, ⟨0xE5C, 37, 1⟩,
  ⟨0xE83, 1, 1⟩, ⟨0xE85, 1, 1⟩, ⟨0xE8B, 1, 1⟩, ⟨0xEA4, 1, 1⟩, ⟨0xEA6, 1, 1⟩, ⟨0xEB1, 1, 1⟩,
  ⟨0xEB4, 9, 1⟩, ⟨0xEBE, 2, 1⟩, ⟨0xEC5, 1, 1⟩, ⟨0xEC7, 9, 1⟩, ⟨0xEDA, 2, 1⟩, ⟨0xEE0, 32, 1⟩,
  ⟨0xF18, 2, 1⟩, ⟨0xF35, 3, 2⟩, ⟨0xF48, 1, 1⟩, ⟨0xF6D, 18, 1⟩, ⟨0xF80, 5, 1⟩, ⟨0xF86, 2, 1⟩,
  ⟨0xF8D, 49, 1⟩, ⟨0xFC6, 1, 1⟩, ⟨0xFCD, 1, 1⟩, ⟨0xFDB, 37, 1⟩, ⟨0x102D, 4, 1⟩, ⟨0x1032, 6, 1⟩,
  ⟨0x1039, 2, 1⟩, ⟨0x103D, 2, 1⟩, ⟨0x1058, 2, 1⟩, ⟨0x105E, 3, 1⟩, ⟨0x1071, 4, 1⟩, ⟨0x1082, 1, 1⟩,
  ⟨0x1085, 2, 1⟩, ⟨0x108D, 1, 1⟩, ⟨0x109D, 1, 1⟩, ⟨0x10C6, 1, 1⟩, ⟨0x10C8, 5, 1⟩, ⟨0x10CE, 2, 1⟩,
  ⟨0x115F, 2, 1⟩, ⟨0x1249, 1, 1⟩, ⟨0x124E, 2, 1⟩, ⟨0x1257, 1, 1⟩, ⟨0x1259, 1, 1⟩, ⟨0x125E, 2, 1⟩,
  ⟨0x1289, 1, 1⟩, ⟨0x128E, 2, 1⟩, ⟨0x12B1, 1, 1⟩, ⟨0x12B6, 2, 1⟩, ⟨0x12BF, 1, 1⟩, ⟨0x12C1, 1, 1⟩,
  ⟨0x12C6, 2, 1⟩, ⟨0x12D7, 1, 1⟩, ⟨0x1311, 1, 1⟩, ⟨0x1316, 2, 1⟩, ⟨0x135B, 5, 1⟩, ⟨0x137D, 3, 1⟩,
  ⟨0x139A, 6, 1⟩, ⟨0x13F6, 2, 1⟩, ⟨0x13FE, 2, 1⟩, ⟨0x1680, 1, 1⟩, ⟨0x169D, 3, 1⟩, ⟨0x16F9, 7, 1⟩,
  ⟨0x1712, 13, 1⟩, ⟨0x1732, 3, 1⟩, ⟨0x1737, 9, 1⟩, ⟨0x1752, 14, 1⟩, ⟨0x176D, 1, 1⟩,
  ⟨0x1771, 15, 1⟩, ⟨0x17B4, 2, 1⟩, ⟨0x17B7, 7, 1⟩, ⟨0x17C6, 1, 1⟩, ⟨0x17C9, 11, 1⟩,
  ⟨0x17DD, 3, 1⟩, ⟨0x17EA, 6, 1⟩, ⟨0x17FA, 6, 1⟩, ⟨0x180B, 5, 1⟩, ⟨0x181A, 6, 1⟩, ⟨0x1879, 7, 1⟩,
  ⟨0x1885, 2, 1⟩, ⟨0x18A9, 1, 1⟩, ⟨0x18AB, 5, 1⟩, ⟨0x18F6, 10, 1⟩, ⟨0x191F, 4, 1⟩,
  ⟨0x1927, 2, 1⟩, ⟨0x192C, 4, 1⟩, ⟨0x1932, 1, 1⟩, ⟨0x1939, 7, 1⟩, ⟨0x1941, 3, 1⟩, ⟨0x196E, 2, 1⟩,
  ⟨0x1975, 11, 1⟩, ⟨0x19AC, 4, 1⟩, ⟨0x19CA, 6, 1⟩, ⟨0x19DB, 3, 1⟩, ⟨0x1A17, 2, 1⟩,
  ⟨0x1A1B, 3, 1⟩, ⟨0x1A56, 1, 1⟩, ⟨0x1A58, 9, 1⟩, ⟨0x1A62, 1, 1⟩, ⟨0x1A65, 8, 1⟩,
  ⟨0x1A73, 13, 1⟩, ⟨0x1A8A, 6, 1⟩, ⟨0x1A9A, 6, 1⟩, ⟨0x1AAE, 86, 1⟩, ⟨0x1B34, 10, 1⟩,
  ⟨0x1B42, 3, 1⟩, ⟨0x1B4D, 1, 1⟩, ⟨0x1B6B, 9, 1⟩, ⟨0x1B80, 2, 1⟩, ⟨0x1BA2, 4, 1⟩, ⟨0x1BA8, 6, 1⟩,
  ⟨0x1BE6, 1, 1⟩, ⟨0x1BE8, 2, 1⟩, ⟨0x1BED, 1, 1⟩, ⟨0x1BEF, 13, 1⟩, ⟨0x1C2C, 8, 1⟩,
  ⟨0x1C36, 5, 1⟩, ⟨0x1C4A, 3, 1⟩, ⟨0x1C8B, 5, 1⟩, ⟨0x1CBB, 2, 1⟩, ⟨0x1CC8, 11, 1⟩,
  ⟨0x1CD4, 13, 1⟩, ⟨0x1CE2, 7, 1⟩, ⟨0x1CED, 1, 1⟩, ⟨0x1CF4, 1, 1⟩, ⟨0x1CF8, 2, 1⟩,
  ⟨0x1CFB, 5, 1⟩, ⟨0x1DC0, 64, 1⟩, ⟨0x1F16, 2, 1⟩, ⟨0x1F1E, 2, 1⟩, ⟨0x1F46, 2, 1⟩,
  ⟨0x1F4E, 2, 1⟩, ⟨0x1F58, 4, 2⟩, ⟨0x1F7E, 2, 1⟩, ⟨0x1FB5, 1, 1⟩, ⟨0x1FC5, 1, 1⟩, ⟨0x1FD4, 2, 1⟩,
  ⟨0x1FDC, 1, 1⟩, ⟨0x1FF0, 2, 1⟩, ⟨0x1FF5, 1, 1⟩, ⟨0x1FFF, 17, 1⟩, ⟨0x2028, 8, 1⟩,
  ⟨0x205F, 17, 1⟩, ⟨0x2072, 2, 1⟩, ⟨0x208F, 1, 1⟩, ⟨0x209D, 3, 1⟩, ⟨0x20C2, 62, 1⟩,
  ⟨0x218C, 4, 1⟩, ⟨0x242A, 22, 1⟩, ⟨0x244B, 21, 1⟩, ⟨0x2B74, 2, 1⟩, ⟨0x2CEF, 3, 1⟩,
  ⟨0x2CF4, 5, 1⟩, ⟨0x2D26, 1, 1⟩, ⟨0x2D28, 5, 1⟩, ⟨0x2D2E, 2, 1⟩, ⟨0x2D68, 7, 1⟩,
  ⟨0x2D71, 15, 1⟩, ⟨0x2D97, 9, 1⟩, ⟨0x2DA7, 1, 1⟩, ⟨0x2DAF, 1, 1⟩, ⟨0x2DB7, 1, 1⟩,
  ⟨0x2DBF, 1, 1⟩, ⟨0x2DC7, 1, 1⟩, ⟨0x2DCF, 1, 1⟩, ⟨0x2DD7, 1, 1⟩, ⟨0x2DDF, 33, 1⟩,
  ⟨0x2E5E, 34, 1⟩, ⟨0x2E9A, 1, 1⟩, ⟨0x2EF4, 12, 1⟩, ⟨0x2FD6, 26, 1⟩, ⟨0x3000, 1, 1⟩,
  ⟨0x302A, 6, 1⟩, ⟨0x3040, 1, 1⟩, ⟨0x3097, 4, 1⟩, ⟨0x3100, 5, 1⟩, ⟨0x3130, 1, 1⟩, ⟨0x3164, 1, 1⟩,
  ⟨0x318F, 1, 1⟩, ⟨0x31E6, 9, 1⟩, ⟨0x321F, 1, 1⟩, ⟨0xA48D, 3, 1⟩, ⟨0xA4C7, 9, 1⟩,
  ⟨0xA62C, 20, 1⟩, ⟨0xA66F, 4, 1⟩, ⟨0xA674, 10, 1⟩, ⟨0xA69E, 2, 1⟩, ⟨0xA6F0, 2, 1⟩,
  ⟨0xA6F8, 8, 1⟩, ⟨0xA7DD, 20, 1⟩, ⟨0xA802, 1, 1⟩, ⟨0xA806, 1, 1⟩, ⟨0xA80B, 1, 1⟩,
  ⟨0xA825, 2, 1⟩, ⟨0xA82C, 4, 1⟩, ⟨0xA83A, 6, 1⟩, ⟨0xA878, 8, 1⟩, ⟨0xA8C4, 10, 1⟩,
  ⟨0xA8DA, 24, 1⟩, ⟨0xA8FF, 1, 1⟩, ⟨0xA926, 8, 1⟩, ⟨0xA947, 11, 1⟩, ⟨0xA953, 12, 1⟩,
  ⟨0xA97D, 6, 1⟩, ⟨0xA9B3, 1, 1⟩, ⟨0xA9B6, 4, 1⟩, ⟨0xA9BC, 2, 1⟩, ⟨0xA9C0, 1, 1⟩, ⟨0xA9CE, 1, 1⟩,
  ⟨0xA9DA, 4, 1⟩, ⟨0xA9E5, 1, 1⟩, ⟨0xA9FF, 1, 1⟩, ⟨0xAA29, 6, 1⟩, ⟨0xAA31, 2, 1⟩,
  ⟨0xAA35, 11, 1⟩, ⟨0xAA43, 1, 1⟩, ⟨0xAA4C, 1, 1⟩, ⟨0xAA4E, 2, 1⟩, ⟨0xAA5A, 2, 1⟩,
  ⟨0xAA7C, 1, 1⟩, ⟨0xAAB0, 1, 1⟩, ⟨0xAAB2, 3, 1⟩, ⟨0xAAB7, 2, 1⟩, ⟨0xAABE, 2, 1⟩, ⟨0xAAC1, 1, 1⟩,
  ⟨0xAAC3, 24, 1⟩, ⟨0xAAEC, 2, 1⟩, ⟨0xAAF6, 11, 1⟩, ⟨0xAB07, 2, 1⟩, ⟨0xAB0F, 2, 1⟩,
  ⟨0xAB17, 9, 1⟩, ⟨0xAB27, 1, 1⟩, ⟨0xAB2F, 1, 1⟩, ⟨0xAB6C, 4, 1⟩, ⟨0xABE5, 1, 1⟩, ⟨0xABE8, 1, 1⟩,
  ⟨0xABED, 3, 1⟩, ⟨0xABFA, 6, 1⟩, ⟨0xD7A4, 12, 1⟩, ⟨0xD7C7, 4, 1⟩, ⟨0xD7FC, 4, 1⟩,
  ⟨0xE000, 6400, 1⟩, ⟨0xFA6E, 2, 1⟩, ⟨0xFADA, 38, 1⟩, ⟨0xFB07, 12, 1⟩, ⟨0xFB18, 5, 1⟩,
  ⟨0xFB1E, 1, 1⟩, ⟨0xFB37, 1, 1⟩, ⟨0xFB3D, 1, 1⟩, ⟨0xFB3F, 1, 1⟩, ⟨0xFB42, 1, 1⟩, ⟨0xFB45, 1, 1⟩,
  ⟨0xFDD0, 32, 1⟩, ⟨0xFE00, 16, 1⟩, ⟨0xFE1A, 22, 1⟩, ⟨0xFE53, 1, 1⟩, ⟨0xFE67, 1, 1⟩,
  ⟨0xFE6C, 4, 1⟩, ⟨0xFE75, 1, 1⟩, ⟨0xFEFD, 4, 1⟩, ⟨0xFF9E, 3, 1⟩, ⟨0xFFBF, 3, 1⟩, ⟨0xFFC8, 2, 1⟩,
  ⟨0xFFD0, 2, 1⟩, ⟨0xFFD8, 2, 1⟩, ⟨0xFFDD, 3, 1⟩, ⟨0xFFE7, 1, 1⟩, ⟨0xFFEF, 13, 1⟩,
  ⟨0xFFFE, 2, 1⟩, ⟨0x1000C, 1, 1⟩, ⟨0x10027, 1, 1⟩, ⟨0x1003B, 1, 1⟩, ⟨0x1003E, 1, 1⟩,
  ⟨0x1004E, 2, 1⟩, ⟨0x1005E, 34, 1⟩, ⟨0x100FB, 5, 1⟩, ⟨0x10103, 4, 1⟩, ⟨0x10134, 3, 1⟩,
  ⟨0x1018F, 1, 1⟩, ⟨0x1019D, 3, 1⟩, ⟨0x101A1, 47, 1⟩, ⟨0x101FD, 131, 1⟩, ⟨0x1029D, 3, 1⟩,
  ⟨0x102D1, 16, 1⟩, ⟨0x102FC, 4, 1⟩, ⟨0x10324, 9, 1⟩, ⟨0x1034B, 5, 1⟩, ⟨0x10376, 10, 1⟩,
  ⟨0x1039E, 1, 1⟩, ⟨0x103C4, 4, 1⟩, ⟨0x103D6, 42, 1⟩, ⟨0x1049E, 2, 1⟩, ⟨0x104AA, 6, 1⟩,
  ⟨0x104D4, 4, 1⟩, ⟨0x104FC, 4, 1⟩, ⟨0x10528, 8, 1⟩, ⟨0x10564, 11, 1⟩, ⟨0x1057B, 1, 1⟩,
  ⟨0x1058B, 1, 1⟩, ⟨0x10593, 1, 1⟩, ⟨0x10596, 1, 1⟩, ⟨0x105A2, 1, 1⟩, ⟨0x105B2, 1, 1⟩,
  ⟨0x105BA, 1, 1⟩, ⟨0x105BD, 3, 1⟩, ⟨0x105F4, 12, 1⟩, ⟨0x10737, 9, 1⟩, ⟨0x10756, 10, 1⟩,
  ⟨0x10768, 24, 1⟩, ⟨0x10786, 1, 1⟩, ⟨0x107B1, 1, 1⟩, ⟨0x107BB, 69, 1⟩, ⟨0x10806, 2, 1⟩,
  ⟨0x10809, 1, 1⟩, ⟨0x10836, 1, 1⟩, ⟨0x10839, 3, 1⟩, ⟨0x1083D, 2, 1⟩, ⟨0x10856, 1, 1⟩,
  ⟨0x1089F, 8, 1⟩, ⟨0x108B0, 48, 1⟩, ⟨0x108F3, 1, 1⟩, ⟨0x108F6, 5, 1⟩, ⟨0x1091C, 3, 1⟩,
  ⟨0x1093A, 5, 1⟩, ⟨0x1095A, 38, 1⟩, ⟨0x109B8, 4, 1⟩, ⟨0x109D0, 2, 1⟩, ⟨0x10A01, 15, 1⟩,
  ⟨0x10A14, 1, 1⟩, ⟨0x10A18, 1, 1⟩, ⟨0x10A36, 10, 1⟩, ⟨0x10A49, 7, 1⟩, ⟨0x10A59, 7, 1⟩,
  ⟨0x10AA0, 32, 1⟩, ⟨0x10AE5, 6, 1⟩, ⟨0x10AF7, 9, 1⟩, ⟨0x10B36, 3, 1⟩, ⟨0x10B56, 2, 1⟩,
  ⟨0x10B73, 5, 1⟩, ⟨0x10B92, 7, 1⟩, ⟨0x10B9D, 12, 1⟩, ⟨0x10BB0, 80, 1⟩, ⟨0x10C49, 55, 1⟩,
  ⟨0x10CB3, 13, 1⟩, ⟨0x10CF3, 7, 1⟩, ⟨0x10D24, 12, 1⟩, ⟨0x10D3A, 6, 1⟩, ⟨0x10D66, 8, 1⟩,
  ⟨0x10D86, 8, 1⟩, ⟨0x10D90, 208, 1⟩, ⟨0x10E7F, 1, 1⟩, ⟨0x10EAA, 3, 1⟩, ⟨0x10EAE, 2, 1⟩,
  ⟨0x10EB2, 16, 1⟩, ⟨0x10EC8, 8, 1⟩, ⟨0x10ED9, 39, 1⟩, ⟨0x10F28, 8, 1⟩, ⟨0x10F46, 11, 1⟩,
  ⟨0x10F5A, 22, 1⟩, ⟨0x10F82, 4, 1⟩, ⟨0x10F8A, 38, 1⟩, ⟨0x10FCC, 20, 1⟩, ⟨0x10FF7, 9, 1⟩,
  ⟨0x11001, 1, 1⟩, ⟨0x11038, 15, 1⟩, ⟨0x1104E, 4, 1⟩, ⟨0x11070, 1, 1⟩, ⟨0x11073, 2, 1⟩,
  ⟨0x11076, 12, 1⟩, ⟨0x110B3, 4, 1⟩, ⟨0x110B9, 2, 1⟩, ⟨0x110BD, 1, 1⟩, ⟨0x110C2, 14, 1⟩,
  ⟨0x110E9, 7, 1⟩, ⟨0x110FA, 9, 1⟩, ⟨0x11127, 5, 1⟩, ⟨0x1112D, 9, 1⟩, ⟨0x11148, 8, 1⟩,
  ⟨0x11173, 1, 1⟩, ⟨0x11177, 11, 1⟩, ⟨0x111B6, 9, 1⟩, ⟨0x111C0, 1, 1⟩, ⟨0x111C9, 4, 1⟩,
  ⟨0x111CF, 1, 1⟩, ⟨0x111E0, 1, 1⟩, ⟨0x111F5, 11, 1⟩, ⟨0x11212, 1, 1⟩, ⟨0x1122F, 3, 1⟩,
  ⟨0x11234, 4, 1⟩, ⟨0x1123E, 1, 1⟩, ⟨0x11241, 63, 1⟩, ⟨0x11287, 1, 1⟩, ⟨0x11289, 1, 1⟩,
  ⟨0x1128E, 1, 1⟩, ⟨0x1129E, 1, 1⟩, ⟨0x112AA, 6, 1⟩, ⟨0x112DF, 1, 1⟩, ⟨0x112E3, 13, 1⟩,
  ⟨0x112FA, 8, 1⟩, ⟨0x11304, 1, 1⟩, ⟨0x1130D, 2, 1⟩, ⟨0x11311, 2, 1⟩, ⟨0x11329, 1, 1⟩,
  ⟨0x11331, 1, 1⟩, ⟨0x11334, 1, 1⟩, ⟨0x1133A, 3, 1⟩, ⟨0x1133E, 1, 1⟩, ⟨0x11340, 1, 1⟩,
  ⟨0x11345, 2, 1⟩, ⟨0x11349, 2, 1⟩, ⟨0x1134D, 3, 1⟩, ⟨0x11351, 12, 1⟩, ⟨0x11364, 28, 1⟩,
  ⟨0x1138A, 1, 1⟩, ⟨0x1138C, 2, 1⟩, ⟨0x1138F, 1, 1⟩, ⟨0x113B6, 1, 1⟩, ⟨0x113B8, 1, 1⟩,
  ⟨0x113BB, 15, 1⟩, ⟨0x113CB, 1, 1⟩, ⟨0x113CE, 3, 1⟩, ⟨0x113D2, 1, 1⟩, ⟨0x113D6, 1, 1⟩,
  ⟨0x113D9, 39, 1⟩, ⟨0x11438, 8, 1⟩, ⟨0x11442, 3, 1⟩, ⟨0x11446, 1, 1⟩, ⟨0x1145C, 1, 1⟩,
  ⟨0x1145E, 1, 1⟩, ⟨0x11462, 30, 1⟩, ⟨0x114B0, 1, 1⟩, ⟨0x114B3, 6, 1⟩, ⟨0x114BA, 1, 1⟩,
  ⟨0x114BD, 1, 1⟩, ⟨0x114BF, 2, 1⟩, ⟨0x114C2, 2, 1⟩, ⟨0x114C8, 8, 1⟩, ⟨0x114DA, 166, 1⟩,
  ⟨0x115AF, 1, 1⟩, ⟨0x115B2, 6, 1⟩, ⟨0x115BC, 2, 1⟩, ⟨0x115BF, 2, 1⟩, ⟨0x115DC, 36, 1⟩,
  ⟨0x11633, 8, 1⟩, ⟨0x1163D, 1, 1⟩, ⟨0x1163F, 2, 1⟩, ⟨0x11645, 11, 1⟩, ⟨0x1165A, 6, 1⟩,
  ⟨0x1166D, 19, 1⟩, ⟨0x116AB, 1, 1⟩, ⟨0x116AD, 1, 1⟩, ⟨0x116B0, 8, 1⟩, ⟨0x116BA, 6, 1⟩,
  ⟨0x116CA, 6, 1⟩, ⟨0x116E4, 28, 1⟩, ⟨0x1171B, 3, 1⟩, ⟨0x1171F, 1, 1⟩, ⟨0x11722, 4, 1⟩,
  ⟨0x11727, 9, 1⟩, ⟨0x11747, 185, 1⟩, ⟨0x1182F, 9, 1⟩, ⟨0x11839, 2, 1⟩, ⟨0x1183C, 100, 1⟩,
  ⟨0x118F3, 12, 1⟩, ⟨0x11907, 2, 1⟩, ⟨0x1190A, 2, 1⟩, ⟨0x11914, 1, 1⟩, ⟨0x11917, 1, 1⟩,
  ⟨0x11930, 1, 1⟩, ⟨0x11936, 1, 1⟩, ⟨0x11939, 6, 1⟩, ⟨0x11943, 1, 1⟩, ⟨0x11947, 9, 1⟩,
  ⟨0x1195A, 70, 1⟩, ⟨0x119A8, 2, 1⟩, ⟨0x119D4, 8, 1⟩, ⟨0x119E0, 1, 1⟩, ⟨0x119E5, 27, 1⟩,
  ⟨0x11A01, 10, 1⟩, ⟨0x11A33, 6, 1⟩, ⟨0x11A3B, 4, 1⟩, ⟨0x11A47, 9, 1⟩, ⟨0x11A51, 6, 1⟩,
  ⟨0x11A59, 3, 1⟩, ⟨0x11A8A, 13, 1⟩, ⟨0x11A98, 2, 1⟩, ⟨0x11AA3, 13, 1⟩, ⟨0x11AF9, 7, 1⟩,
  ⟨0x11B0A, 87, 1⟩, ⟨0x11B62, 3, 1⟩, ⟨0x11B66, 1, 1⟩, ⟨0x11B68, 88, 1⟩, ⟨0x11BE2, 14, 1⟩,
  ⟨0x11BFA, 6, 1⟩, ⟨0x11C09, 1, 1⟩, ⟨0x11C30, 14, 1⟩, ⟨0x11C3F, 1, 1⟩, ⟨0x11C46, 10, 1⟩,
  ⟨0x11C6D, 3, 1⟩, ⟨0x11C90, 25, 1⟩, ⟨0x11CAA, 7, 1⟩, ⟨0x11CB2, 2, 1⟩, ⟨0x11CB5, 75, 1⟩,
  ⟨0x11D07, 1, 1⟩, ⟨0x11D0A, 1, 1⟩, ⟨0x11D31, 21, 1⟩, ⟨0x11D47, 9, 1⟩, ⟨0x11D5A, 6, 1⟩,
  ⟨0x11D66, 1, 1⟩, ⟨0x11D69, 1, 1⟩, ⟨0x11D8F, 4, 1⟩, ⟨0x11D95, 3, 2⟩, ⟨0x11D9A, 6, 1⟩,
  ⟨0x11DAA, 6, 1⟩, ⟨0x11DDC, 4, 1⟩, ⟨0x11DEA, 246, 1⟩, ⟨0x11EF3, 2, 1⟩, ⟨0x11EF9, 9, 1⟩,
  ⟨0x11F11, 1, 1⟩, ⟨0x11F36, 8, 1⟩, ⟨0x11F40, 3, 1⟩, ⟨0x11F5A, 86, 1⟩, ⟨0x11FB1, 15, 1⟩,
  ⟨0x11FF2, 13, 1⟩, ⟨0x1239A, 102, 1⟩, ⟨0x1246F, 1, 1⟩, ⟨0x12475, 11, 1⟩, ⟨0x12544, 2636, 1⟩,
  ⟨0x12FF3, 13, 1⟩, ⟨0x13430, 17, 1⟩, ⟨0x13447, 25, 1⟩, ⟨0x143FB, 5, 1⟩, ⟨0x14647, 6841, 1⟩,
  ⟨0x1611E, 12, 1⟩, ⟨0x1612D, 3, 1⟩, ⟨0x1613A, 1734, 1⟩, ⟨0x16A39, 7, 1⟩, ⟨0x16A5F, 1, 1⟩,
  ⟨0x16A6A, 4, 1⟩, ⟨0x16ABF, 1, 1⟩, ⟨0x16ACA, 6, 1⟩, ⟨0x16AEE, 7, 1⟩, ⟨0x16AF6, 10, 1⟩,
  ⟨0x16B30, 7, 1⟩, ⟨0x16B46, 10, 1⟩, ⟨0x16B5A, 1, 1⟩, ⟨0x16B62, 1, 1⟩, ⟨0x16B78, 5, 1⟩,
  ⟨0x16B90, 432, 1⟩, ⟨0x16D7A, 198, 1⟩, ⟨0x16E9B, 5, 1⟩, ⟨0x16EB9, 2, 1⟩, ⟨0x16ED4, 44, 1⟩,
  ⟨0x16F4B, 5, 1⟩, ⟨0x16F88, 11, 1⟩, ⟨0x16FA0, 64, 1⟩, ⟨0x16FE4, 14, 1⟩, ⟨0x16FF7, 9, 1⟩,
  ⟨0x18CD6, 41, 1⟩, ⟨0x18D1F, 97, 1⟩, ⟨0x18DF3, 8701, 1⟩, ⟨0x1AFF4, 1, 1⟩, ⟨0x1AFFC, 1, 1⟩,
  ⟨0x1AFFF, 1, 1⟩, ⟨0x1B123, 15, 1⟩, ⟨0x1B133, 29, 1⟩, ⟨0x1B153, 2, 1⟩, ⟨0x1B156, 14, 1⟩,
  ⟨0x1B168, 8, 1⟩, ⟨0x1B2FC, 2308, 1⟩, ⟨0x1BC6B, 5, 1⟩, ⟨0x1BC7D, 3, 1⟩, ⟨0x1BC89, 7, 1⟩,
  ⟨0x1BC9A, 2, 1⟩, ⟨0x1BC9D, 2, 1⟩, ⟨0x1BCA0, 3936, 1⟩, ⟨0x1CCFD, 3, 1⟩, ⟨0x1CEB4, 6, 1⟩,
  ⟨0x1CED1, 15, 1⟩, ⟨0x1CEF1, 95, 1⟩, ⟨0x1CFC4, 60, 1⟩, ⟨0x1D0F6, 10, 1⟩, ⟨0x1D127, 2, 1⟩,
  ⟨0x1D165, 5, 1⟩, ⟨0x1D16D, 22, 1⟩, ⟨0x1D185, 7, 1⟩, ⟨0x1D1AA, 4, 1⟩, ⟨0x1D1EB, 21, 1⟩,
  ⟨0x1D242, 3, 1⟩, ⟨0x1D246, 122, 1⟩, ⟨0x1D2D4, 12, 1⟩, ⟨0x1D2F4, 12, 1⟩, ⟨0x1D357, 9, 1⟩,
  ⟨0x1D379, 135, 1⟩, ⟨0x1D455, 1, 1⟩, ⟨0x1D49D, 1, 1⟩, ⟨0x1D4A0, 2, 1⟩, ⟨0x1D4A3, 2, 1⟩,
  ⟨0x1D4A7, 2, 1⟩, ⟨0x1D4AD, 1, 1⟩, ⟨0x1D4BA, 1, 1⟩, ⟨0x1D4BC, 1, 1⟩, ⟨0x1D4C4, 1, 1⟩,
  ⟨0x1D506, 1, 1⟩, ⟨0x1D50B, 2, 1⟩, ⟨0x1D515, 1, 1⟩, ⟨0x1D51D, 1, 1⟩, ⟨0x1D53A, 1, 1⟩,
  ⟨0x1D53F, 1, 1⟩, ⟨0x1D545, 1, 1⟩, ⟨0x1D547, 3, 1⟩, ⟨0x1D551, 1, 1⟩, ⟨0x1D6A6, 2, 1⟩,
  ⟨0x1D7CC, 2, 1⟩, ⟨0x1DA00, 55, 1⟩, ⟨0x1DA3B, 50, 1⟩, ⟨0x1DA75, 1, 1⟩, ⟨0x1DA84, 1, 1⟩,
  ⟨0x1DA8C, 1140, 1⟩, ⟨0x1DF1F, 6, 1⟩, ⟨0x1DF2B, 261, 1⟩, ⟨0x1E06E, 146, 1⟩, ⟨0x1E12D, 10, 1⟩,
  ⟨0x1E13E, 2, 1⟩, ⟨0x1E14A, 4, 1⟩, ⟨0x1E150, 320, 1⟩, ⟨0x1E2AE, 18, 1⟩, ⟨0x1E2EC, 4, 1⟩,
  ⟨0x1E2FA, 5, 1⟩, ⟨0x1E300, 464, 1⟩, ⟨0x1E4EC, 4, 1⟩, ⟨0x1E4FA, 214, 1⟩, ⟨0x1E5EE, 2, 1⟩,
  ⟨0x1E5FB, 4, 1⟩, ⟨0x1E600, 192, 1⟩, ⟨0x1E6DF, 1, 1⟩, ⟨0x1E6E3, 1, 1⟩, ⟨0x1E6E6, 1, 1⟩,
  ⟨0x1E6EE, 2, 1⟩, ⟨0x1E6F5, 9, 1⟩, ⟨0x1E700, 224, 1⟩, ⟨0x1E7E7, 1, 1⟩, ⟨0x1E7EC, 1, 1⟩,
  ⟨0x1E7EF, 1, 1⟩, ⟨0x1E7FF, 1, 1⟩, ⟨0x1E8C5, 2, 1⟩, ⟨0x1E8D0, 48, 1⟩, ⟨0x1E944, 7, 1⟩,
  ⟨0x1E94C, 4, 1⟩, ⟨0x1E95A, 4, 1⟩, ⟨0x1E960, 785, 1⟩, ⟨0x1ECB5, 76, 1⟩, ⟨0x1ED3E, 194, 1⟩,
  ⟨0x1EE04, 1, 1⟩, ⟨0x1EE20, 1, 1⟩, ⟨0x1EE23, 1, 1⟩, ⟨0x1EE25, 2, 1⟩, ⟨0x1EE28, 1, 1⟩,
  ⟨0x1EE33, 1, 1⟩, ⟨0x1EE38, 3, 2⟩, ⟨0x1EE3D, 5, 1⟩, ⟨0x1EE43, 4, 1⟩, ⟨0x1EE48, 3, 2⟩,
  ⟨0x1EE50, 1, 1⟩, ⟨0x1EE53, 1, 1⟩, ⟨0x1EE55, 2, 1⟩, ⟨0x1EE58, 5, 2⟩, ⟨0x1EE63, 1, 1⟩,
  ⟨0x1EE65, 2, 1⟩, ⟨0x1EE6B, 1, 1⟩, ⟨0x1EE73, 1, 1⟩, ⟨0x1EE78, 1, 1⟩, ⟨0x1EE7D, 1, 1⟩,
  ⟨0x1EE7F, 1, 1⟩, ⟨0x1EE8A, 1, 1⟩, ⟨0x1EE9C, 5, 1⟩, ⟨0x1EEA4, 1, 1⟩, ⟨0x1EEAA, 1, 1⟩,
  ⟨0x1EEBC, 52, 1⟩, ⟨0x1EEF2, 270, 1⟩, ⟨0x1F02C, 4, 1⟩, ⟨0x1F094, 12, 1⟩, ⟨0x1F0AF, 2, 1⟩,
  ⟨0x1F0C0, 1, 1⟩, ⟨0x1F0D0, 1, 1⟩, ⟨0x1F0F6, 10, 1⟩, ⟨0x1F1AE, 56, 1⟩, ⟨0x1F203, 13, 1⟩,
  ⟨0x1F23C, 4, 1⟩, ⟨0x1F249, 7, 1⟩, ⟨0x1F252, 14, 1⟩, ⟨0x1F266, 154, 1⟩, ⟨0x1F6D9, 3, 1⟩,
  ⟨0x1F6ED, 3, 1⟩, ⟨0x1F6FD, 3, 1⟩, ⟨0x1F7DA, 6, 1⟩, ⟨0x1F7EC, 4, 1⟩, ⟨0x1F7F1, 15, 1⟩,
  ⟨0x1F80C, 4, 1⟩, ⟨0x1F848, 8, 1⟩, ⟨0x1F85A, 6, 1⟩, ⟨0x1F888, 8, 1⟩, ⟨0x1F8AE, 2, 1⟩,
  ⟨0x1F8BC, 4, 1⟩, ⟨0x1F8C2, 14, 1⟩, ⟨0x1F8D9, 39, 1⟩, ⟨0x1FA58, 8, 1⟩, ⟨0x1FA6E, 2, 1⟩,
  ⟨0x1FA7D, 3, 1⟩, ⟨0x1FA8B, 3, 1⟩, ⟨0x1FAC7, 1, 1⟩, ⟨0x1FAC9, 4, 1⟩, ⟨0x1FADD, 2, 1⟩,
  ⟨0x1FAEB, 4, 1⟩, ⟨0x1FAF9, 7, 1⟩, ⟨0x1FB93, 1, 1⟩, ⟨0x1FBFB, 1029, 1⟩, ⟨0x2A6E0, 32, 1⟩,
  ⟨0x2B81E, 2, 1⟩, ⟨0x2CEAE, 2, 1⟩, ⟨0x2EBE1, 15, 1⟩, ⟨0x2EE5E, 2466, 1⟩, ⟨0x2FA1E, 1506, 1⟩,
  ⟨0x3134B, 5, 1⟩, ⟨0x3347A, 904070, 1⟩]

def isHidden (c : Char) : Bool := inRuns hiddenRuns c

end ProviderCoverage.Unicode
