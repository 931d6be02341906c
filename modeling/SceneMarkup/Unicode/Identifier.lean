namespace SceneMarkup.Unicode

inductive IdentifierUse
  | start
  | later
  | never
  deriving DecidableEq

abbrev IdentifierUses := List (Nat × Nat × IdentifierUse)

def IdentifierUses.find? : IdentifierUses → Nat → Option IdentifierUse
  | [], _ => none
  | (first, last, use) :: rest, n =>
    if n < first then none else if n ≤ last then some use else find? rest n

set_option maxRecDepth 20000 in
def identifierUses : IdentifierUses := [
  (0x30, 0x39, .later), (0x41, 0x5a, .start), (0x5f, 0x5f, .later), (0x61, 0x7a, .start),
  (0xaa, 0xaa, .start), (0xb2, 0xb3, .never), (0xb5, 0xb5, .start), (0xb7, 0xb7, .later),
  (0xb9, 0xb9, .never), (0xba, 0xba, .start), (0xbc, 0xbe, .never), (0xc0, 0xd6, .start),
  (0xd8, 0xf6, .start), (0xf8, 0x2c1, .start), (0x2c6, 0x2d1, .start), (0x2e0, 0x2e4, .start),
  (0x2ec, 0x2ec, .start), (0x2ee, 0x2ee, .start), (0x300, 0x36f, .later), (0x370, 0x374, .start),
  (0x376, 0x377, .start), (0x37a, 0x37d, .start), (0x37f, 0x37f, .start), (0x386, 0x386, .start),
  (0x387, 0x387, .later), (0x388, 0x38a, .start), (0x38c, 0x38c, .start), (0x38e, 0x3a1, .start),
  (0x3a3, 0x3f5, .start), (0x3f7, 0x481, .start), (0x483, 0x487, .later), (0x48a, 0x52f, .start),
  (0x531, 0x556, .start), (0x559, 0x559, .start), (0x560, 0x588, .start), (0x591, 0x5bd, .later),
  (0x5bf, 0x5bf, .later), (0x5c1, 0x5c2, .later), (0x5c4, 0x5c5, .later), (0x5c7, 0x5c7, .later),
  (0x5d0, 0x5ea, .start), (0x5ef, 0x5f2, .start), (0x610, 0x61a, .later), (0x620, 0x64a, .start),
  (0x64b, 0x669, .later), (0x66e, 0x66f, .start), (0x670, 0x670, .later), (0x671, 0x6d3, .start),
  (0x6d5, 0x6d5, .start), (0x6d6, 0x6dc, .later), (0x6df, 0x6e4, .later), (0x6e5, 0x6e6, .start),
  (0x6e7, 0x6e8, .later), (0x6ea, 0x6ed, .later), (0x6ee, 0x6ef, .start), (0x6f0, 0x6f9, .later),
  (0x6fa, 0x6fc, .start), (0x6ff, 0x6ff, .start), (0x710, 0x710, .start), (0x711, 0x711, .later),
  (0x712, 0x72f, .start), (0x730, 0x74a, .later), (0x74d, 0x7a5, .start), (0x7a6, 0x7b0, .later),
  (0x7b1, 0x7b1, .start), (0x7c0, 0x7c9, .later), (0x7ca, 0x7ea, .start), (0x7eb, 0x7f3, .later),
  (0x7f4, 0x7f5, .start), (0x7fa, 0x7fa, .start), (0x7fd, 0x7fd, .later), (0x800, 0x815, .start),
  (0x816, 0x819, .later), (0x81a, 0x81a, .start), (0x81b, 0x823, .later), (0x824, 0x824, .start),
  (0x825, 0x827, .later), (0x828, 0x828, .start), (0x829, 0x82d, .later), (0x840, 0x858, .start),
  (0x859, 0x85b, .later), (0x860, 0x86a, .start), (0x870, 0x887, .start), (0x889, 0x88f, .start),
  (0x897, 0x89f, .later), (0x8a0, 0x8c9, .start), (0x8ca, 0x8e1, .later), (0x8e3, 0x903, .later),
  (0x904, 0x939, .start), (0x93a, 0x93c, .later), (0x93d, 0x93d, .start), (0x93e, 0x94f, .later),
  (0x950, 0x950, .start), (0x951, 0x957, .later), (0x958, 0x961, .start), (0x962, 0x963, .later),
  (0x966, 0x96f, .later), (0x971, 0x980, .start), (0x981, 0x983, .later), (0x985, 0x98c, .start),
  (0x98f, 0x990, .start), (0x993, 0x9a8, .start), (0x9aa, 0x9b0, .start), (0x9b2, 0x9b2, .start),
  (0x9b6, 0x9b9, .start), (0x9bc, 0x9bc, .later), (0x9bd, 0x9bd, .start), (0x9be, 0x9c4, .later),
  (0x9c7, 0x9c8, .later), (0x9cb, 0x9cd, .later), (0x9ce, 0x9ce, .start), (0x9d7, 0x9d7, .later),
  (0x9dc, 0x9dd, .start), (0x9df, 0x9e1, .start), (0x9e2, 0x9e3, .later), (0x9e6, 0x9ef, .later),
  (0x9f0, 0x9f1, .start), (0x9f4, 0x9f9, .never), (0x9fc, 0x9fc, .start), (0x9fe, 0x9fe, .later),
  (0xa01, 0xa03, .later), (0xa05, 0xa0a, .start), (0xa0f, 0xa10, .start), (0xa13, 0xa28, .start),
  (0xa2a, 0xa30, .start), (0xa32, 0xa33, .start), (0xa35, 0xa36, .start), (0xa38, 0xa39, .start),
  (0xa3c, 0xa3c, .later), (0xa3e, 0xa42, .later), (0xa47, 0xa48, .later), (0xa4b, 0xa4d, .later),
  (0xa51, 0xa51, .later), (0xa59, 0xa5c, .start), (0xa5e, 0xa5e, .start), (0xa66, 0xa71, .later),
  (0xa72, 0xa74, .start), (0xa75, 0xa75, .later), (0xa81, 0xa83, .later), (0xa85, 0xa8d, .start),
  (0xa8f, 0xa91, .start), (0xa93, 0xaa8, .start), (0xaaa, 0xab0, .start), (0xab2, 0xab3, .start),
  (0xab5, 0xab9, .start), (0xabc, 0xabc, .later), (0xabd, 0xabd, .start), (0xabe, 0xac5, .later),
  (0xac7, 0xac9, .later), (0xacb, 0xacd, .later), (0xad0, 0xad0, .start), (0xae0, 0xae1, .start),
  (0xae2, 0xae3, .later), (0xae6, 0xaef, .later), (0xaf9, 0xaf9, .start), (0xafa, 0xaff, .later),
  (0xb01, 0xb03, .later), (0xb05, 0xb0c, .start), (0xb0f, 0xb10, .start), (0xb13, 0xb28, .start),
  (0xb2a, 0xb30, .start), (0xb32, 0xb33, .start), (0xb35, 0xb39, .start), (0xb3c, 0xb3c, .later),
  (0xb3d, 0xb3d, .start), (0xb3e, 0xb44, .later), (0xb47, 0xb48, .later), (0xb4b, 0xb4d, .later),
  (0xb55, 0xb57, .later), (0xb5c, 0xb5d, .start), (0xb5f, 0xb61, .start), (0xb62, 0xb63, .later),
  (0xb66, 0xb6f, .later), (0xb71, 0xb71, .start), (0xb72, 0xb77, .never), (0xb82, 0xb82, .later),
  (0xb83, 0xb83, .start), (0xb85, 0xb8a, .start), (0xb8e, 0xb90, .start), (0xb92, 0xb95, .start),
  (0xb99, 0xb9a, .start), (0xb9c, 0xb9c, .start), (0xb9e, 0xb9f, .start), (0xba3, 0xba4, .start),
  (0xba8, 0xbaa, .start), (0xbae, 0xbb9, .start), (0xbbe, 0xbc2, .later), (0xbc6, 0xbc8, .later),
  (0xbca, 0xbcd, .later), (0xbd0, 0xbd0, .start), (0xbd7, 0xbd7, .later), (0xbe6, 0xbef, .later),
  (0xbf0, 0xbf2, .never), (0xc00, 0xc04, .later), (0xc05, 0xc0c, .start), (0xc0e, 0xc10, .start),
  (0xc12, 0xc28, .start), (0xc2a, 0xc39, .start), (0xc3c, 0xc3c, .later), (0xc3d, 0xc3d, .start),
  (0xc3e, 0xc44, .later), (0xc46, 0xc48, .later), (0xc4a, 0xc4d, .later), (0xc55, 0xc56, .later),
  (0xc58, 0xc5a, .start), (0xc5c, 0xc5d, .start), (0xc60, 0xc61, .start), (0xc62, 0xc63, .later),
  (0xc66, 0xc6f, .later), (0xc78, 0xc7e, .never), (0xc80, 0xc80, .start), (0xc81, 0xc83, .later),
  (0xc85, 0xc8c, .start), (0xc8e, 0xc90, .start), (0xc92, 0xca8, .start), (0xcaa, 0xcb3, .start),
  (0xcb5, 0xcb9, .start), (0xcbc, 0xcbc, .later), (0xcbd, 0xcbd, .start), (0xcbe, 0xcc4, .later),
  (0xcc6, 0xcc8, .later), (0xcca, 0xccd, .later), (0xcd5, 0xcd6, .later), (0xcdc, 0xcde, .start),
  (0xce0, 0xce1, .start), (0xce2, 0xce3, .later), (0xce6, 0xcef, .later), (0xcf1, 0xcf2, .start),
  (0xcf3, 0xcf3, .later), (0xd00, 0xd03, .later), (0xd04, 0xd0c, .start), (0xd0e, 0xd10, .start),
  (0xd12, 0xd3a, .start), (0xd3b, 0xd3c, .later), (0xd3d, 0xd3d, .start), (0xd3e, 0xd44, .later),
  (0xd46, 0xd48, .later), (0xd4a, 0xd4d, .later), (0xd4e, 0xd4e, .start), (0xd54, 0xd56, .start),
  (0xd57, 0xd57, .later), (0xd58, 0xd5e, .never), (0xd5f, 0xd61, .start), (0xd62, 0xd63, .later),
  (0xd66, 0xd6f, .later), (0xd70, 0xd78, .never), (0xd7a, 0xd7f, .start), (0xd81, 0xd83, .later),
  (0xd85, 0xd96, .start), (0xd9a, 0xdb1, .start), (0xdb3, 0xdbb, .start), (0xdbd, 0xdbd, .start),
  (0xdc0, 0xdc6, .start), (0xdca, 0xdca, .later), (0xdcf, 0xdd4, .later), (0xdd6, 0xdd6, .later),
  (0xdd8, 0xddf, .later), (0xde6, 0xdef, .later), (0xdf2, 0xdf3, .later), (0xe01, 0xe30, .start),
  (0xe31, 0xe31, .later), (0xe32, 0xe33, .start), (0xe34, 0xe3a, .later), (0xe40, 0xe46, .start),
  (0xe47, 0xe4e, .later), (0xe50, 0xe59, .later), (0xe81, 0xe82, .start), (0xe84, 0xe84, .start),
  (0xe86, 0xe8a, .start), (0xe8c, 0xea3, .start), (0xea5, 0xea5, .start), (0xea7, 0xeb0, .start),
  (0xeb1, 0xeb1, .later), (0xeb2, 0xeb3, .start), (0xeb4, 0xebc, .later), (0xebd, 0xebd, .start),
  (0xec0, 0xec4, .start), (0xec6, 0xec6, .start), (0xec8, 0xece, .later), (0xed0, 0xed9, .later),
  (0xedc, 0xedf, .start), (0xf00, 0xf00, .start), (0xf18, 0xf19, .later), (0xf20, 0xf29, .later),
  (0xf2a, 0xf33, .never), (0xf35, 0xf35, .later), (0xf37, 0xf37, .later), (0xf39, 0xf39, .later),
  (0xf3e, 0xf3f, .later), (0xf40, 0xf47, .start), (0xf49, 0xf6c, .start), (0xf71, 0xf84, .later),
  (0xf86, 0xf87, .later), (0xf88, 0xf8c, .start), (0xf8d, 0xf97, .later), (0xf99, 0xfbc, .later),
  (0xfc6, 0xfc6, .later), (0x1000, 0x102a, .start), (0x102b, 0x103e, .later),
  (0x103f, 0x103f, .start), (0x1040, 0x1049, .later), (0x1050, 0x1055, .start),
  (0x1056, 0x1059, .later), (0x105a, 0x105d, .start), (0x105e, 0x1060, .later),
  (0x1061, 0x1061, .start), (0x1062, 0x1064, .later), (0x1065, 0x1066, .start),
  (0x1067, 0x106d, .later), (0x106e, 0x1070, .start), (0x1071, 0x1074, .later),
  (0x1075, 0x1081, .start), (0x1082, 0x108d, .later), (0x108e, 0x108e, .start),
  (0x108f, 0x109d, .later), (0x10a0, 0x10c5, .start), (0x10c7, 0x10c7, .start),
  (0x10cd, 0x10cd, .start), (0x10d0, 0x10fa, .start), (0x10fc, 0x1248, .start),
  (0x124a, 0x124d, .start), (0x1250, 0x1256, .start), (0x1258, 0x1258, .start),
  (0x125a, 0x125d, .start), (0x1260, 0x1288, .start), (0x128a, 0x128d, .start),
  (0x1290, 0x12b0, .start), (0x12b2, 0x12b5, .start), (0x12b8, 0x12be, .start),
  (0x12c0, 0x12c0, .start), (0x12c2, 0x12c5, .start), (0x12c8, 0x12d6, .start),
  (0x12d8, 0x1310, .start), (0x1312, 0x1315, .start), (0x1318, 0x135a, .start),
  (0x135d, 0x135f, .later), (0x1369, 0x1371, .later), (0x1372, 0x137c, .never),
  (0x1380, 0x138f, .start), (0x13a0, 0x13f5, .start), (0x13f8, 0x13fd, .start),
  (0x1401, 0x166c, .start), (0x166f, 0x167f, .start), (0x1681, 0x169a, .start),
  (0x16a0, 0x16ea, .start), (0x16ee, 0x16f8, .start), (0x1700, 0x1711, .start),
  (0x1712, 0x1715, .later), (0x171f, 0x1731, .start), (0x1732, 0x1734, .later),
  (0x1740, 0x1751, .start), (0x1752, 0x1753, .later), (0x1760, 0x176c, .start),
  (0x176e, 0x1770, .start), (0x1772, 0x1773, .later), (0x1780, 0x17b3, .start),
  (0x17b4, 0x17d3, .later), (0x17d7, 0x17d7, .start), (0x17dc, 0x17dc, .start),
  (0x17dd, 0x17dd, .later), (0x17e0, 0x17e9, .later), (0x17f0, 0x17f9, .never),
  (0x180b, 0x180d, .later), (0x180f, 0x1819, .later), (0x1820, 0x1878, .start),
  (0x1880, 0x18a8, .start), (0x18a9, 0x18a9, .later), (0x18aa, 0x18aa, .start),
  (0x18b0, 0x18f5, .start), (0x1900, 0x191e, .start), (0x1920, 0x192b, .later),
  (0x1930, 0x193b, .later), (0x1946, 0x194f, .later), (0x1950, 0x196d, .start),
  (0x1970, 0x1974, .start), (0x1980, 0x19ab, .start), (0x19b0, 0x19c9, .start),
  (0x19d0, 0x19da, .later), (0x1a00, 0x1a16, .start), (0x1a17, 0x1a1b, .later),
  (0x1a20, 0x1a54, .start), (0x1a55, 0x1a5e, .later), (0x1a60, 0x1a7c, .later),
  (0x1a7f, 0x1a89, .later), (0x1a90, 0x1a99, .later), (0x1aa7, 0x1aa7, .start),
  (0x1ab0, 0x1abd, .later), (0x1abf, 0x1add, .later), (0x1ae0, 0x1aeb, .later),
  (0x1b00, 0x1b04, .later), (0x1b05, 0x1b33, .start), (0x1b34, 0x1b44, .later),
  (0x1b45, 0x1b4c, .start), (0x1b50, 0x1b59, .later), (0x1b6b, 0x1b73, .later),
  (0x1b80, 0x1b82, .later), (0x1b83, 0x1ba0, .start), (0x1ba1, 0x1bad, .later),
  (0x1bae, 0x1baf, .start), (0x1bb0, 0x1bb9, .later), (0x1bba, 0x1be5, .start),
  (0x1be6, 0x1bf3, .later), (0x1c00, 0x1c23, .start), (0x1c24, 0x1c37, .later),
  (0x1c40, 0x1c49, .later), (0x1c4d, 0x1c4f, .start), (0x1c50, 0x1c59, .later),
  (0x1c5a, 0x1c7d, .start), (0x1c80, 0x1c8a, .start), (0x1c90, 0x1cba, .start),
  (0x1cbd, 0x1cbf, .start), (0x1cd0, 0x1cd2, .later), (0x1cd4, 0x1ce8, .later),
  (0x1ce9, 0x1cec, .start), (0x1ced, 0x1ced, .later), (0x1cee, 0x1cf3, .start),
  (0x1cf4, 0x1cf4, .later), (0x1cf5, 0x1cf6, .start), (0x1cf7, 0x1cf9, .later),
  (0x1cfa, 0x1cfa, .start), (0x1d00, 0x1dbf, .start), (0x1dc0, 0x1dff, .later),
  (0x1e00, 0x1f15, .start), (0x1f18, 0x1f1d, .start), (0x1f20, 0x1f45, .start),
  (0x1f48, 0x1f4d, .start), (0x1f50, 0x1f57, .start), (0x1f59, 0x1f59, .start),
  (0x1f5b, 0x1f5b, .start), (0x1f5d, 0x1f5d, .start), (0x1f5f, 0x1f7d, .start),
  (0x1f80, 0x1fb4, .start), (0x1fb6, 0x1fbc, .start), (0x1fbe, 0x1fbe, .start),
  (0x1fc2, 0x1fc4, .start), (0x1fc6, 0x1fcc, .start), (0x1fd0, 0x1fd3, .start),
  (0x1fd6, 0x1fdb, .start), (0x1fe0, 0x1fec, .start), (0x1ff2, 0x1ff4, .start),
  (0x1ff6, 0x1ffc, .start), (0x200c, 0x200d, .later), (0x203f, 0x2040, .later),
  (0x2054, 0x2054, .later), (0x2070, 0x2070, .never), (0x2071, 0x2071, .start),
  (0x2074, 0x2079, .never), (0x207f, 0x207f, .start), (0x2080, 0x2089, .never),
  (0x2090, 0x209c, .start), (0x20d0, 0x20dc, .later), (0x20e1, 0x20e1, .later),
  (0x20e5, 0x20f0, .later), (0x2102, 0x2102, .start), (0x2107, 0x2107, .start),
  (0x210a, 0x2113, .start), (0x2115, 0x2115, .start), (0x2118, 0x211d, .start),
  (0x2124, 0x2124, .start), (0x2126, 0x2126, .start), (0x2128, 0x2128, .start),
  (0x212a, 0x2139, .start), (0x213c, 0x213f, .start), (0x2145, 0x2149, .start),
  (0x214e, 0x214e, .start), (0x2150, 0x215f, .never), (0x2160, 0x2188, .start),
  (0x2189, 0x2189, .never), (0x2460, 0x249b, .never), (0x24b6, 0x24ff, .never),
  (0x2776, 0x2793, .never), (0x2c00, 0x2ce4, .start), (0x2ceb, 0x2cee, .start),
  (0x2cef, 0x2cf1, .later), (0x2cf2, 0x2cf3, .start), (0x2cfd, 0x2cfd, .never),
  (0x2d00, 0x2d25, .start), (0x2d27, 0x2d27, .start), (0x2d2d, 0x2d2d, .start),
  (0x2d30, 0x2d67, .start), (0x2d6f, 0x2d6f, .start), (0x2d7f, 0x2d7f, .later),
  (0x2d80, 0x2d96, .start), (0x2da0, 0x2da6, .start), (0x2da8, 0x2dae, .start),
  (0x2db0, 0x2db6, .start), (0x2db8, 0x2dbe, .start), (0x2dc0, 0x2dc6, .start),
  (0x2dc8, 0x2dce, .start), (0x2dd0, 0x2dd6, .start), (0x2dd8, 0x2dde, .start),
  (0x2de0, 0x2dff, .later), (0x2e2f, 0x2e2f, .never), (0x3005, 0x3007, .start),
  (0x3021, 0x3029, .start), (0x302a, 0x302f, .later), (0x3031, 0x3035, .start),
  (0x3038, 0x303c, .start), (0x3041, 0x3096, .start), (0x3099, 0x309a, .later),
  (0x309b, 0x309f, .start), (0x30a1, 0x30fa, .start), (0x30fb, 0x30fb, .later),
  (0x30fc, 0x30ff, .start), (0x3105, 0x312f, .start), (0x3131, 0x318e, .start),
  (0x3192, 0x3195, .never), (0x31a0, 0x31bf, .start), (0x31f0, 0x31ff, .start),
  (0x3220, 0x3229, .never), (0x3248, 0x324f, .never), (0x3251, 0x325f, .never),
  (0x3280, 0x3289, .never), (0x32b1, 0x32bf, .never), (0x3400, 0x4dbf, .start),
  (0x4e00, 0xa48c, .start), (0xa4d0, 0xa4fd, .start), (0xa500, 0xa60c, .start),
  (0xa610, 0xa61f, .start), (0xa620, 0xa629, .later), (0xa62a, 0xa62b, .start),
  (0xa640, 0xa66e, .start), (0xa66f, 0xa66f, .later), (0xa674, 0xa67d, .later),
  (0xa67f, 0xa69d, .start), (0xa69e, 0xa69f, .later), (0xa6a0, 0xa6ef, .start),
  (0xa6f0, 0xa6f1, .later), (0xa717, 0xa71f, .start), (0xa722, 0xa788, .start),
  (0xa78b, 0xa7dc, .start), (0xa7f1, 0xa801, .start), (0xa802, 0xa802, .later),
  (0xa803, 0xa805, .start), (0xa806, 0xa806, .later), (0xa807, 0xa80a, .start),
  (0xa80b, 0xa80b, .later), (0xa80c, 0xa822, .start), (0xa823, 0xa827, .later),
  (0xa82c, 0xa82c, .later), (0xa830, 0xa835, .never), (0xa840, 0xa873, .start),
  (0xa880, 0xa881, .later), (0xa882, 0xa8b3, .start), (0xa8b4, 0xa8c5, .later),
  (0xa8d0, 0xa8d9, .later), (0xa8e0, 0xa8f1, .later), (0xa8f2, 0xa8f7, .start),
  (0xa8fb, 0xa8fb, .start), (0xa8fd, 0xa8fe, .start), (0xa8ff, 0xa909, .later),
  (0xa90a, 0xa925, .start), (0xa926, 0xa92d, .later), (0xa930, 0xa946, .start),
  (0xa947, 0xa953, .later), (0xa960, 0xa97c, .start), (0xa980, 0xa983, .later),
  (0xa984, 0xa9b2, .start), (0xa9b3, 0xa9c0, .later), (0xa9cf, 0xa9cf, .start),
  (0xa9d0, 0xa9d9, .later), (0xa9e0, 0xa9e4, .start), (0xa9e5, 0xa9e5, .later),
  (0xa9e6, 0xa9ef, .start), (0xa9f0, 0xa9f9, .later), (0xa9fa, 0xa9fe, .start),
  (0xaa00, 0xaa28, .start), (0xaa29, 0xaa36, .later), (0xaa40, 0xaa42, .start),
  (0xaa43, 0xaa43, .later), (0xaa44, 0xaa4b, .start), (0xaa4c, 0xaa4d, .later),
  (0xaa50, 0xaa59, .later), (0xaa60, 0xaa76, .start), (0xaa7a, 0xaa7a, .start),
  (0xaa7b, 0xaa7d, .later), (0xaa7e, 0xaaaf, .start), (0xaab0, 0xaab0, .later),
  (0xaab1, 0xaab1, .start), (0xaab2, 0xaab4, .later), (0xaab5, 0xaab6, .start),
  (0xaab7, 0xaab8, .later), (0xaab9, 0xaabd, .start), (0xaabe, 0xaabf, .later),
  (0xaac0, 0xaac0, .start), (0xaac1, 0xaac1, .later), (0xaac2, 0xaac2, .start),
  (0xaadb, 0xaadd, .start), (0xaae0, 0xaaea, .start), (0xaaeb, 0xaaef, .later),
  (0xaaf2, 0xaaf4, .start), (0xaaf5, 0xaaf6, .later), (0xab01, 0xab06, .start),
  (0xab09, 0xab0e, .start), (0xab11, 0xab16, .start), (0xab20, 0xab26, .start),
  (0xab28, 0xab2e, .start), (0xab30, 0xab5a, .start), (0xab5c, 0xab69, .start),
  (0xab70, 0xabe2, .start), (0xabe3, 0xabea, .later), (0xabec, 0xabed, .later),
  (0xabf0, 0xabf9, .later), (0xac00, 0xd7a3, .start), (0xd7b0, 0xd7c6, .start),
  (0xd7cb, 0xd7fb, .start), (0xf900, 0xfa6d, .start), (0xfa70, 0xfad9, .start),
  (0xfb00, 0xfb06, .start), (0xfb13, 0xfb17, .start), (0xfb1d, 0xfb1d, .start),
  (0xfb1e, 0xfb1e, .later), (0xfb1f, 0xfb28, .start), (0xfb2a, 0xfb36, .start),
  (0xfb38, 0xfb3c, .start), (0xfb3e, 0xfb3e, .start), (0xfb40, 0xfb41, .start),
  (0xfb43, 0xfb44, .start), (0xfb46, 0xfbb1, .start), (0xfbd3, 0xfd3d, .start),
  (0xfd50, 0xfd8f, .start), (0xfd92, 0xfdc7, .start), (0xfdf0, 0xfdfb, .start),
  (0xfe00, 0xfe0f, .later), (0xfe20, 0xfe2f, .later), (0xfe33, 0xfe34, .later),
  (0xfe4d, 0xfe4f, .later), (0xfe70, 0xfe74, .start), (0xfe76, 0xfefc, .start),
  (0xff10, 0xff19, .later), (0xff21, 0xff3a, .start), (0xff3f, 0xff3f, .later),
  (0xff41, 0xff5a, .start), (0xff65, 0xff65, .later), (0xff66, 0xffbe, .start),
  (0xffc2, 0xffc7, .start), (0xffca, 0xffcf, .start), (0xffd2, 0xffd7, .start),
  (0xffda, 0xffdc, .start), (0x10000, 0x1000b, .start), (0x1000d, 0x10026, .start),
  (0x10028, 0x1003a, .start), (0x1003c, 0x1003d, .start), (0x1003f, 0x1004d, .start),
  (0x10050, 0x1005d, .start), (0x10080, 0x100fa, .start), (0x10107, 0x10133, .never),
  (0x10140, 0x10174, .start), (0x10175, 0x10178, .never), (0x1018a, 0x1018b, .never),
  (0x101fd, 0x101fd, .later), (0x10280, 0x1029c, .start), (0x102a0, 0x102d0, .start),
  (0x102e0, 0x102e0, .later), (0x102e1, 0x102fb, .never), (0x10300, 0x1031f, .start),
  (0x10320, 0x10323, .never), (0x1032d, 0x1034a, .start), (0x10350, 0x10375, .start),
  (0x10376, 0x1037a, .later), (0x10380, 0x1039d, .start), (0x103a0, 0x103c3, .start),
  (0x103c8, 0x103cf, .start), (0x103d1, 0x103d5, .start), (0x10400, 0x1049d, .start),
  (0x104a0, 0x104a9, .later), (0x104b0, 0x104d3, .start), (0x104d8, 0x104fb, .start),
  (0x10500, 0x10527, .start), (0x10530, 0x10563, .start), (0x10570, 0x1057a, .start),
  (0x1057c, 0x1058a, .start), (0x1058c, 0x10592, .start), (0x10594, 0x10595, .start),
  (0x10597, 0x105a1, .start), (0x105a3, 0x105b1, .start), (0x105b3, 0x105b9, .start),
  (0x105bb, 0x105bc, .start), (0x105c0, 0x105f3, .start), (0x10600, 0x10736, .start),
  (0x10740, 0x10755, .start), (0x10760, 0x10767, .start), (0x10780, 0x10785, .start),
  (0x10787, 0x107b0, .start), (0x107b2, 0x107ba, .start), (0x10800, 0x10805, .start),
  (0x10808, 0x10808, .start), (0x1080a, 0x10835, .start), (0x10837, 0x10838, .start),
  (0x1083c, 0x1083c, .start), (0x1083f, 0x10855, .start), (0x10858, 0x1085f, .never),
  (0x10860, 0x10876, .start), (0x10879, 0x1087f, .never), (0x10880, 0x1089e, .start),
  (0x108a7, 0x108af, .never), (0x108e0, 0x108f2, .start), (0x108f4, 0x108f5, .start),
  (0x108fb, 0x108ff, .never), (0x10900, 0x10915, .start), (0x10916, 0x1091b, .never),
  (0x10920, 0x10939, .start), (0x10940, 0x10959, .start), (0x10980, 0x109b7, .start),
  (0x109bc, 0x109bd, .never), (0x109be, 0x109bf, .start), (0x109c0, 0x109cf, .never),
  (0x109d2, 0x109ff, .never), (0x10a00, 0x10a00, .start), (0x10a01, 0x10a03, .later),
  (0x10a05, 0x10a06, .later), (0x10a0c, 0x10a0f, .later), (0x10a10, 0x10a13, .start),
  (0x10a15, 0x10a17, .start), (0x10a19, 0x10a35, .start), (0x10a38, 0x10a3a, .later),
  (0x10a3f, 0x10a3f, .later), (0x10a40, 0x10a48, .never), (0x10a60, 0x10a7c, .start),
  (0x10a7d, 0x10a7e, .never), (0x10a80, 0x10a9c, .start), (0x10a9d, 0x10a9f, .never),
  (0x10ac0, 0x10ac7, .start), (0x10ac9, 0x10ae4, .start), (0x10ae5, 0x10ae6, .later),
  (0x10aeb, 0x10aef, .never), (0x10b00, 0x10b35, .start), (0x10b40, 0x10b55, .start),
  (0x10b58, 0x10b5f, .never), (0x10b60, 0x10b72, .start), (0x10b78, 0x10b7f, .never),
  (0x10b80, 0x10b91, .start), (0x10ba9, 0x10baf, .never), (0x10c00, 0x10c48, .start),
  (0x10c80, 0x10cb2, .start), (0x10cc0, 0x10cf2, .start), (0x10cfa, 0x10cff, .never),
  (0x10d00, 0x10d23, .start), (0x10d24, 0x10d27, .later), (0x10d30, 0x10d39, .later),
  (0x10d40, 0x10d49, .later), (0x10d4a, 0x10d65, .start), (0x10d69, 0x10d6d, .later),
  (0x10d6f, 0x10d85, .start), (0x10e60, 0x10e7e, .never), (0x10e80, 0x10ea9, .start),
  (0x10eab, 0x10eac, .later), (0x10eb0, 0x10eb1, .start), (0x10ec2, 0x10ec7, .start),
  (0x10efa, 0x10eff, .later), (0x10f00, 0x10f1c, .start), (0x10f1d, 0x10f26, .never),
  (0x10f27, 0x10f27, .start), (0x10f30, 0x10f45, .start), (0x10f46, 0x10f50, .later),
  (0x10f51, 0x10f54, .never), (0x10f70, 0x10f81, .start), (0x10f82, 0x10f85, .later),
  (0x10fb0, 0x10fc4, .start), (0x10fc5, 0x10fcb, .never), (0x10fe0, 0x10ff6, .start),
  (0x11000, 0x11002, .later), (0x11003, 0x11037, .start), (0x11038, 0x11046, .later),
  (0x11052, 0x11065, .never), (0x11066, 0x11070, .later), (0x11071, 0x11072, .start),
  (0x11073, 0x11074, .later), (0x11075, 0x11075, .start), (0x1107f, 0x11082, .later),
  (0x11083, 0x110af, .start), (0x110b0, 0x110ba, .later), (0x110c2, 0x110c2, .later),
  (0x110d0, 0x110e8, .start), (0x110f0, 0x110f9, .later), (0x11100, 0x11102, .later),
  (0x11103, 0x11126, .start), (0x11127, 0x11134, .later), (0x11136, 0x1113f, .later),
  (0x11144, 0x11144, .start), (0x11145, 0x11146, .later), (0x11147, 0x11147, .start),
  (0x11150, 0x11172, .start), (0x11173, 0x11173, .later), (0x11176, 0x11176, .start),
  (0x11180, 0x11182, .later), (0x11183, 0x111b2, .start), (0x111b3, 0x111c0, .later),
  (0x111c1, 0x111c4, .start), (0x111c9, 0x111cc, .later), (0x111ce, 0x111d9, .later),
  (0x111da, 0x111da, .start), (0x111dc, 0x111dc, .start), (0x111e1, 0x111f4, .never),
  (0x11200, 0x11211, .start), (0x11213, 0x1122b, .start), (0x1122c, 0x11237, .later),
  (0x1123e, 0x1123e, .later), (0x1123f, 0x11240, .start), (0x11241, 0x11241, .later),
  (0x11280, 0x11286, .start), (0x11288, 0x11288, .start), (0x1128a, 0x1128d, .start),
  (0x1128f, 0x1129d, .start), (0x1129f, 0x112a8, .start), (0x112b0, 0x112de, .start),
  (0x112df, 0x112ea, .later), (0x112f0, 0x112f9, .later), (0x11300, 0x11303, .later),
  (0x11305, 0x1130c, .start), (0x1130f, 0x11310, .start), (0x11313, 0x11328, .start),
  (0x1132a, 0x11330, .start), (0x11332, 0x11333, .start), (0x11335, 0x11339, .start),
  (0x1133b, 0x1133c, .later), (0x1133d, 0x1133d, .start), (0x1133e, 0x11344, .later),
  (0x11347, 0x11348, .later), (0x1134b, 0x1134d, .later), (0x11350, 0x11350, .start),
  (0x11357, 0x11357, .later), (0x1135d, 0x11361, .start), (0x11362, 0x11363, .later),
  (0x11366, 0x1136c, .later), (0x11370, 0x11374, .later), (0x11380, 0x11389, .start),
  (0x1138b, 0x1138b, .start), (0x1138e, 0x1138e, .start), (0x11390, 0x113b5, .start),
  (0x113b7, 0x113b7, .start), (0x113b8, 0x113c0, .later), (0x113c2, 0x113c2, .later),
  (0x113c5, 0x113c5, .later), (0x113c7, 0x113ca, .later), (0x113cc, 0x113d0, .later),
  (0x113d1, 0x113d1, .start), (0x113d2, 0x113d2, .later), (0x113d3, 0x113d3, .start),
  (0x113e1, 0x113e2, .later), (0x11400, 0x11434, .start), (0x11435, 0x11446, .later),
  (0x11447, 0x1144a, .start), (0x11450, 0x11459, .later), (0x1145e, 0x1145e, .later),
  (0x1145f, 0x11461, .start), (0x11480, 0x114af, .start), (0x114b0, 0x114c3, .later),
  (0x114c4, 0x114c5, .start), (0x114c7, 0x114c7, .start), (0x114d0, 0x114d9, .later),
  (0x11580, 0x115ae, .start), (0x115af, 0x115b5, .later), (0x115b8, 0x115c0, .later),
  (0x115d8, 0x115db, .start), (0x115dc, 0x115dd, .later), (0x11600, 0x1162f, .start),
  (0x11630, 0x11640, .later), (0x11644, 0x11644, .start), (0x11650, 0x11659, .later),
  (0x11680, 0x116aa, .start), (0x116ab, 0x116b7, .later), (0x116b8, 0x116b8, .start),
  (0x116c0, 0x116c9, .later), (0x116d0, 0x116e3, .later), (0x11700, 0x1171a, .start),
  (0x1171d, 0x1172b, .later), (0x11730, 0x11739, .later), (0x1173a, 0x1173b, .never),
  (0x11740, 0x11746, .start), (0x11800, 0x1182b, .start), (0x1182c, 0x1183a, .later),
  (0x118a0, 0x118df, .start), (0x118e0, 0x118e9, .later), (0x118ea, 0x118f2, .never),
  (0x118ff, 0x11906, .start), (0x11909, 0x11909, .start), (0x1190c, 0x11913, .start),
  (0x11915, 0x11916, .start), (0x11918, 0x1192f, .start), (0x11930, 0x11935, .later),
  (0x11937, 0x11938, .later), (0x1193b, 0x1193e, .later), (0x1193f, 0x1193f, .start),
  (0x11940, 0x11940, .later), (0x11941, 0x11941, .start), (0x11942, 0x11943, .later),
  (0x11950, 0x11959, .later), (0x119a0, 0x119a7, .start), (0x119aa, 0x119d0, .start),
  (0x119d1, 0x119d7, .later), (0x119da, 0x119e0, .later), (0x119e1, 0x119e1, .start),
  (0x119e3, 0x119e3, .start), (0x119e4, 0x119e4, .later), (0x11a00, 0x11a00, .start),
  (0x11a01, 0x11a0a, .later), (0x11a0b, 0x11a32, .start), (0x11a33, 0x11a39, .later),
  (0x11a3a, 0x11a3a, .start), (0x11a3b, 0x11a3e, .later), (0x11a47, 0x11a47, .later),
  (0x11a50, 0x11a50, .start), (0x11a51, 0x11a5b, .later), (0x11a5c, 0x11a89, .start),
  (0x11a8a, 0x11a99, .later), (0x11a9d, 0x11a9d, .start), (0x11ab0, 0x11af8, .start),
  (0x11b60, 0x11b67, .later), (0x11bc0, 0x11be0, .start), (0x11bf0, 0x11bf9, .later),
  (0x11c00, 0x11c08, .start), (0x11c0a, 0x11c2e, .start), (0x11c2f, 0x11c36, .later),
  (0x11c38, 0x11c3f, .later), (0x11c40, 0x11c40, .start), (0x11c50, 0x11c59, .later),
  (0x11c5a, 0x11c6c, .never), (0x11c72, 0x11c8f, .start), (0x11c92, 0x11ca7, .later),
  (0x11ca9, 0x11cb6, .later), (0x11d00, 0x11d06, .start), (0x11d08, 0x11d09, .start),
  (0x11d0b, 0x11d30, .start), (0x11d31, 0x11d36, .later), (0x11d3a, 0x11d3a, .later),
  (0x11d3c, 0x11d3d, .later), (0x11d3f, 0x11d45, .later), (0x11d46, 0x11d46, .start),
  (0x11d47, 0x11d47, .later), (0x11d50, 0x11d59, .later), (0x11d60, 0x11d65, .start),
  (0x11d67, 0x11d68, .start), (0x11d6a, 0x11d89, .start), (0x11d8a, 0x11d8e, .later),
  (0x11d90, 0x11d91, .later), (0x11d93, 0x11d97, .later), (0x11d98, 0x11d98, .start),
  (0x11da0, 0x11da9, .later), (0x11db0, 0x11ddb, .start), (0x11de0, 0x11de9, .later),
  (0x11ee0, 0x11ef2, .start), (0x11ef3, 0x11ef6, .later), (0x11f00, 0x11f01, .later),
  (0x11f02, 0x11f02, .start), (0x11f03, 0x11f03, .later), (0x11f04, 0x11f10, .start),
  (0x11f12, 0x11f33, .start), (0x11f34, 0x11f3a, .later), (0x11f3e, 0x11f42, .later),
  (0x11f50, 0x11f5a, .later), (0x11fb0, 0x11fb0, .start), (0x11fc0, 0x11fd4, .never),
  (0x12000, 0x12399, .start), (0x12400, 0x1246e, .start), (0x12480, 0x12543, .start),
  (0x12f90, 0x12ff0, .start), (0x13000, 0x1342f, .start), (0x13440, 0x13440, .later),
  (0x13441, 0x13446, .start), (0x13447, 0x13455, .later), (0x13460, 0x143fa, .start),
  (0x14400, 0x14646, .start), (0x16100, 0x1611d, .start), (0x1611e, 0x16139, .later),
  (0x16800, 0x16a38, .start), (0x16a40, 0x16a5e, .start), (0x16a60, 0x16a69, .later),
  (0x16a70, 0x16abe, .start), (0x16ac0, 0x16ac9, .later), (0x16ad0, 0x16aed, .start),
  (0x16af0, 0x16af4, .later), (0x16b00, 0x16b2f, .start), (0x16b30, 0x16b36, .later),
  (0x16b40, 0x16b43, .start), (0x16b50, 0x16b59, .later), (0x16b5b, 0x16b61, .never),
  (0x16b63, 0x16b77, .start), (0x16b7d, 0x16b8f, .start), (0x16d40, 0x16d6c, .start),
  (0x16d70, 0x16d79, .later), (0x16e40, 0x16e7f, .start), (0x16e80, 0x16e96, .never),
  (0x16ea0, 0x16eb8, .start), (0x16ebb, 0x16ed3, .start), (0x16f00, 0x16f4a, .start),
  (0x16f4f, 0x16f4f, .later), (0x16f50, 0x16f50, .start), (0x16f51, 0x16f87, .later),
  (0x16f8f, 0x16f92, .later), (0x16f93, 0x16f9f, .start), (0x16fe0, 0x16fe1, .start),
  (0x16fe3, 0x16fe3, .start), (0x16fe4, 0x16fe4, .later), (0x16ff0, 0x16ff1, .later),
  (0x16ff2, 0x16ff6, .start), (0x17000, 0x18cd5, .start), (0x18cff, 0x18d1e, .start),
  (0x18d80, 0x18df2, .start), (0x1aff0, 0x1aff3, .start), (0x1aff5, 0x1affb, .start),
  (0x1affd, 0x1affe, .start), (0x1b000, 0x1b122, .start), (0x1b132, 0x1b132, .start),
  (0x1b150, 0x1b152, .start), (0x1b155, 0x1b155, .start), (0x1b164, 0x1b167, .start),
  (0x1b170, 0x1b2fb, .start), (0x1bc00, 0x1bc6a, .start), (0x1bc70, 0x1bc7c, .start),
  (0x1bc80, 0x1bc88, .start), (0x1bc90, 0x1bc99, .start), (0x1bc9d, 0x1bc9e, .later),
  (0x1ccf0, 0x1ccf9, .later), (0x1cf00, 0x1cf2d, .later), (0x1cf30, 0x1cf46, .later),
  (0x1d165, 0x1d169, .later), (0x1d16d, 0x1d172, .later), (0x1d17b, 0x1d182, .later),
  (0x1d185, 0x1d18b, .later), (0x1d1aa, 0x1d1ad, .later), (0x1d242, 0x1d244, .later),
  (0x1d2c0, 0x1d2d3, .never), (0x1d2e0, 0x1d2f3, .never), (0x1d360, 0x1d378, .never),
  (0x1d400, 0x1d454, .start), (0x1d456, 0x1d49c, .start), (0x1d49e, 0x1d49f, .start),
  (0x1d4a2, 0x1d4a2, .start), (0x1d4a5, 0x1d4a6, .start), (0x1d4a9, 0x1d4ac, .start),
  (0x1d4ae, 0x1d4b9, .start), (0x1d4bb, 0x1d4bb, .start), (0x1d4bd, 0x1d4c3, .start),
  (0x1d4c5, 0x1d505, .start), (0x1d507, 0x1d50a, .start), (0x1d50d, 0x1d514, .start),
  (0x1d516, 0x1d51c, .start), (0x1d51e, 0x1d539, .start), (0x1d53b, 0x1d53e, .start),
  (0x1d540, 0x1d544, .start), (0x1d546, 0x1d546, .start), (0x1d54a, 0x1d550, .start),
  (0x1d552, 0x1d6a5, .start), (0x1d6a8, 0x1d6c0, .start), (0x1d6c2, 0x1d6da, .start),
  (0x1d6dc, 0x1d6fa, .start), (0x1d6fc, 0x1d714, .start), (0x1d716, 0x1d734, .start),
  (0x1d736, 0x1d74e, .start), (0x1d750, 0x1d76e, .start), (0x1d770, 0x1d788, .start),
  (0x1d78a, 0x1d7a8, .start), (0x1d7aa, 0x1d7c2, .start), (0x1d7c4, 0x1d7cb, .start),
  (0x1d7ce, 0x1d7ff, .later), (0x1da00, 0x1da36, .later), (0x1da3b, 0x1da6c, .later),
  (0x1da75, 0x1da75, .later), (0x1da84, 0x1da84, .later), (0x1da9b, 0x1da9f, .later),
  (0x1daa1, 0x1daaf, .later), (0x1df00, 0x1df1e, .start), (0x1df25, 0x1df2a, .start),
  (0x1e000, 0x1e006, .later), (0x1e008, 0x1e018, .later), (0x1e01b, 0x1e021, .later),
  (0x1e023, 0x1e024, .later), (0x1e026, 0x1e02a, .later), (0x1e030, 0x1e06d, .start),
  (0x1e08f, 0x1e08f, .later), (0x1e100, 0x1e12c, .start), (0x1e130, 0x1e136, .later),
  (0x1e137, 0x1e13d, .start), (0x1e140, 0x1e149, .later), (0x1e14e, 0x1e14e, .start),
  (0x1e290, 0x1e2ad, .start), (0x1e2ae, 0x1e2ae, .later), (0x1e2c0, 0x1e2eb, .start),
  (0x1e2ec, 0x1e2f9, .later), (0x1e4d0, 0x1e4eb, .start), (0x1e4ec, 0x1e4f9, .later),
  (0x1e5d0, 0x1e5ed, .start), (0x1e5ee, 0x1e5ef, .later), (0x1e5f0, 0x1e5f0, .start),
  (0x1e5f1, 0x1e5fa, .later), (0x1e6c0, 0x1e6de, .start), (0x1e6e0, 0x1e6e2, .start),
  (0x1e6e3, 0x1e6e3, .later), (0x1e6e4, 0x1e6e5, .start), (0x1e6e6, 0x1e6e6, .later),
  (0x1e6e7, 0x1e6ed, .start), (0x1e6ee, 0x1e6ef, .later), (0x1e6f0, 0x1e6f4, .start),
  (0x1e6f5, 0x1e6f5, .later), (0x1e6fe, 0x1e6ff, .start), (0x1e7e0, 0x1e7e6, .start),
  (0x1e7e8, 0x1e7eb, .start), (0x1e7ed, 0x1e7ee, .start), (0x1e7f0, 0x1e7fe, .start),
  (0x1e800, 0x1e8c4, .start), (0x1e8c7, 0x1e8cf, .never), (0x1e8d0, 0x1e8d6, .later),
  (0x1e900, 0x1e943, .start), (0x1e944, 0x1e94a, .later), (0x1e94b, 0x1e94b, .start),
  (0x1e950, 0x1e959, .later), (0x1ec71, 0x1ecab, .never), (0x1ecad, 0x1ecaf, .never),
  (0x1ecb1, 0x1ecb4, .never), (0x1ed01, 0x1ed2d, .never), (0x1ed2f, 0x1ed3d, .never),
  (0x1ee00, 0x1ee03, .start), (0x1ee05, 0x1ee1f, .start), (0x1ee21, 0x1ee22, .start),
  (0x1ee24, 0x1ee24, .start), (0x1ee27, 0x1ee27, .start), (0x1ee29, 0x1ee32, .start),
  (0x1ee34, 0x1ee37, .start), (0x1ee39, 0x1ee39, .start), (0x1ee3b, 0x1ee3b, .start),
  (0x1ee42, 0x1ee42, .start), (0x1ee47, 0x1ee47, .start), (0x1ee49, 0x1ee49, .start),
  (0x1ee4b, 0x1ee4b, .start), (0x1ee4d, 0x1ee4f, .start), (0x1ee51, 0x1ee52, .start),
  (0x1ee54, 0x1ee54, .start), (0x1ee57, 0x1ee57, .start), (0x1ee59, 0x1ee59, .start),
  (0x1ee5b, 0x1ee5b, .start), (0x1ee5d, 0x1ee5d, .start), (0x1ee5f, 0x1ee5f, .start),
  (0x1ee61, 0x1ee62, .start), (0x1ee64, 0x1ee64, .start), (0x1ee67, 0x1ee6a, .start),
  (0x1ee6c, 0x1ee72, .start), (0x1ee74, 0x1ee77, .start), (0x1ee79, 0x1ee7c, .start),
  (0x1ee7e, 0x1ee7e, .start), (0x1ee80, 0x1ee89, .start), (0x1ee8b, 0x1ee9b, .start),
  (0x1eea1, 0x1eea3, .start), (0x1eea5, 0x1eea9, .start), (0x1eeab, 0x1eebb, .start),
  (0x1f100, 0x1f10c, .never), (0x1f130, 0x1f149, .never), (0x1f150, 0x1f169, .never),
  (0x1f170, 0x1f189, .never), (0x1fbf0, 0x1fbf9, .later), (0x20000, 0x2a6df, .start),
  (0x2a700, 0x2b81d, .start), (0x2b820, 0x2cead, .start), (0x2ceb0, 0x2ebe0, .start),
  (0x2ebf0, 0x2ee5d, .start), (0x2f800, 0x2fa1d, .start), (0x30000, 0x3134a, .start),
  (0x31350, 0x33479, .start), (0xe0100, 0xe01ef, .later)
]

def identifierUse? (c : Char) : Option IdentifierUse :=
  identifierUses.find? c.toNat

end SceneMarkup.Unicode
