import BuildScan.Text.Identifier

/-!
Letters and digits in Unicode's sense: the property `Alphabetic`, or one of the number categories.
Beyond ASCII this is nearly the class of identifier starts, so only the differences are listed.
-/

namespace BuildScan.Text

/-- Letters and numbers beyond ASCII that may not open an identifier. -/
def alphanumericExtraRanges : Ranges :=
  [(0xB2, 0xB3), (0xB9, 0xB9), (0xBC, 0xBE), (0x345, 0x345), (0x363, 0x36F), (0x37A, 0x37A),
   (0x5B0, 0x5BD), (0x5BF, 0x5BF), (0x5C1, 0x5C2), (0x5C4, 0x5C5), (0x5C7, 0x5C7), (0x610, 0x61A),
   (0x64B, 0x657), (0x659, 0x669), (0x670, 0x670), (0x6D6, 0x6DC), (0x6E1, 0x6E4), (0x6E7, 0x6E8),
   (0x6ED, 0x6ED), (0x6F0, 0x6F9), (0x711, 0x711), (0x730, 0x73F), (0x7A6, 0x7B0), (0x7C0, 0x7C9),
   (0x816, 0x817), (0x81B, 0x823), (0x825, 0x827), (0x829, 0x82C), (0x897, 0x897), (0x8D4, 0x8DF),
   (0x8E3, 0x8E9), (0x8F0, 0x903), (0x93A, 0x93B), (0x93E, 0x94C), (0x94E, 0x94F), (0x955, 0x957),
   (0x962, 0x963), (0x966, 0x96F), (0x981, 0x983), (0x9BE, 0x9C4), (0x9C7, 0x9C8), (0x9CB, 0x9CC),
   (0x9D7, 0x9D7), (0x9E2, 0x9E3), (0x9E6, 0x9EF), (0x9F4, 0x9F9), (0xA01, 0xA03), (0xA3E, 0xA42),
   (0xA47, 0xA48), (0xA4B, 0xA4C), (0xA51, 0xA51), (0xA66, 0xA71), (0xA75, 0xA75), (0xA81, 0xA83),
   (0xABE, 0xAC5), (0xAC7, 0xAC9), (0xACB, 0xACC), (0xAE2, 0xAE3), (0xAE6, 0xAEF), (0xAFA, 0xAFC),
   (0xB01, 0xB03), (0xB3E, 0xB44), (0xB47, 0xB48), (0xB4B, 0xB4C), (0xB56, 0xB57), (0xB62, 0xB63),
   (0xB66, 0xB6F), (0xB72, 0xB77), (0xB82, 0xB82), (0xBBE, 0xBC2), (0xBC6, 0xBC8), (0xBCA, 0xBCC),
   (0xBD7, 0xBD7), (0xBE6, 0xBF2), (0xC00, 0xC04), (0xC3E, 0xC44), (0xC46, 0xC48), (0xC4A, 0xC4C),
   (0xC55, 0xC56), (0xC62, 0xC63), (0xC66, 0xC6F), (0xC78, 0xC7E), (0xC81, 0xC83), (0xCBE, 0xCC4),
   (0xCC6, 0xCC8), (0xCCA, 0xCCC), (0xCD5, 0xCD6), (0xCE2, 0xCE3), (0xCE6, 0xCEF), (0xCF3, 0xCF3),
   (0xD00, 0xD03), (0xD3E, 0xD44), (0xD46, 0xD48), (0xD4A, 0xD4C), (0xD57, 0xD5E), (0xD62, 0xD63),
   (0xD66, 0xD78), (0xD81, 0xD83), (0xDCF, 0xDD4), (0xDD6, 0xDD6), (0xDD8, 0xDDF), (0xDE6, 0xDEF),
   (0xDF2, 0xDF3), (0xE31, 0xE31), (0xE33, 0xE3A), (0xE4D, 0xE4D), (0xE50, 0xE59), (0xEB1, 0xEB1),
   (0xEB3, 0xEB9), (0xEBB, 0xEBC), (0xECD, 0xECD), (0xED0, 0xED9), (0xF20, 0xF33), (0xF71, 0xF83),
   (0xF8D, 0xF97), (0xF99, 0xFBC), (0x102B, 0x1036), (0x1038, 0x1038), (0x103B, 0x103E),
   (0x1040, 0x1049), (0x1056, 0x1059), (0x105E, 0x1060), (0x1062, 0x1064), (0x1067, 0x106D),
   (0x1071, 0x1074), (0x1082, 0x108D), (0x108F, 0x109D), (0x1369, 0x137C), (0x1712, 0x1713),
   (0x1732, 0x1733), (0x1752, 0x1753), (0x1772, 0x1773), (0x17B6, 0x17C8), (0x17E0, 0x17E9),
   (0x17F0, 0x17F9), (0x1810, 0x1819), (0x18A9, 0x18A9), (0x1920, 0x192B), (0x1930, 0x1938),
   (0x1946, 0x194F), (0x19D0, 0x19DA), (0x1A17, 0x1A1B), (0x1A55, 0x1A5E), (0x1A61, 0x1A74),
   (0x1A80, 0x1A89), (0x1A90, 0x1A99), (0x1ABF, 0x1AC0), (0x1ACC, 0x1ACE), (0x1B00, 0x1B04),
   (0x1B35, 0x1B43), (0x1B50, 0x1B59), (0x1B80, 0x1B82), (0x1BA1, 0x1BA9), (0x1BAC, 0x1BAD),
   (0x1BB0, 0x1BB9), (0x1BE7, 0x1BF1), (0x1C24, 0x1C36), (0x1C40, 0x1C49), (0x1C50, 0x1C59),
   (0x1DD3, 0x1DF4), (0x2070, 0x2070), (0x2074, 0x2079), (0x2080, 0x2089), (0x2150, 0x215F),
   (0x2189, 0x2189), (0x2460, 0x249B), (0x24B6, 0x24FF), (0x2776, 0x2793), (0x2CFD, 0x2CFD),
   (0x2DE0, 0x2DFF), (0x2E2F, 0x2E2F), (0x3192, 0x3195), (0x3220, 0x3229), (0x3248, 0x324F),
   (0x3251, 0x325F), (0x3280, 0x3289), (0x32B1, 0x32BF), (0xA620, 0xA629), (0xA674, 0xA67B),
   (0xA69E, 0xA69F), (0xA802, 0xA802), (0xA80B, 0xA80B), (0xA823, 0xA827), (0xA830, 0xA835),
   (0xA880, 0xA881), (0xA8B4, 0xA8C3), (0xA8C5, 0xA8C5), (0xA8D0, 0xA8D9), (0xA8FF, 0xA909),
   (0xA926, 0xA92A), (0xA947, 0xA952), (0xA980, 0xA983), (0xA9B4, 0xA9BF), (0xA9D0, 0xA9D9),
   (0xA9E5, 0xA9E5), (0xA9F0, 0xA9F9), (0xAA29, 0xAA36), (0xAA43, 0xAA43), (0xAA4C, 0xAA4D),
   (0xAA50, 0xAA59), (0xAA7B, 0xAA7D), (0xAAB0, 0xAAB0), (0xAAB2, 0xAAB4), (0xAAB7, 0xAAB8),
   (0xAABE, 0xAABE), (0xAAEB, 0xAAEF), (0xAAF5, 0xAAF5), (0xABE3, 0xABEA), (0xABF0, 0xABF9),
   (0xFB1E, 0xFB1E), (0xFC5E, 0xFC63), (0xFDFA, 0xFDFB), (0xFE70, 0xFE70), (0xFE72, 0xFE72),
   (0xFE74, 0xFE74), (0xFE76, 0xFE76), (0xFE78, 0xFE78), (0xFE7A, 0xFE7A), (0xFE7C, 0xFE7C),
   (0xFE7E, 0xFE7E), (0xFF10, 0xFF19), (0xFF9E, 0xFF9F), (0x10107, 0x10133), (0x10175, 0x10178),
   (0x1018A, 0x1018B), (0x102E1, 0x102FB), (0x10320, 0x10323), (0x10376, 0x1037A),
   (0x104A0, 0x104A9), (0x10858, 0x1085F), (0x10879, 0x1087F), (0x108A7, 0x108AF),
   (0x108FB, 0x108FF), (0x10916, 0x1091B), (0x109BC, 0x109BD), (0x109C0, 0x109CF),
   (0x109D2, 0x109FF), (0x10A01, 0x10A03), (0x10A05, 0x10A06), (0x10A0C, 0x10A0F),
   (0x10A40, 0x10A48), (0x10A7D, 0x10A7E), (0x10A9D, 0x10A9F), (0x10AEB, 0x10AEF),
   (0x10B58, 0x10B5F), (0x10B78, 0x10B7F), (0x10BA9, 0x10BAF), (0x10CFA, 0x10CFF),
   (0x10D24, 0x10D27), (0x10D30, 0x10D39), (0x10D40, 0x10D49), (0x10D69, 0x10D69),
   (0x10E60, 0x10E7E), (0x10EAB, 0x10EAC), (0x10EFA, 0x10EFC), (0x10F1D, 0x10F26),
   (0x10F51, 0x10F54), (0x10FC5, 0x10FCB), (0x11000, 0x11002), (0x11038, 0x11045),
   (0x11052, 0x1106F), (0x11073, 0x11074), (0x11080, 0x11082), (0x110B0, 0x110B8),
   (0x110C2, 0x110C2), (0x110F0, 0x110F9), (0x11100, 0x11102), (0x11127, 0x11132),
   (0x11136, 0x1113F), (0x11145, 0x11146), (0x11180, 0x11182), (0x111B3, 0x111BF),
   (0x111CE, 0x111D9), (0x111E1, 0x111F4), (0x1122C, 0x11234), (0x11237, 0x11237),
   (0x1123E, 0x1123E), (0x11241, 0x11241), (0x112DF, 0x112E8), (0x112F0, 0x112F9),
   (0x11300, 0x11303), (0x1133E, 0x11344), (0x11347, 0x11348), (0x1134B, 0x1134C),
   (0x11357, 0x11357), (0x11362, 0x11363), (0x113B8, 0x113C0), (0x113C2, 0x113C2),
   (0x113C5, 0x113C5), (0x113C7, 0x113CA), (0x113CC, 0x113CD), (0x11435, 0x11441),
   (0x11443, 0x11445), (0x11450, 0x11459), (0x114B0, 0x114C1), (0x114D0, 0x114D9),
   (0x115AF, 0x115B5), (0x115B8, 0x115BE), (0x115DC, 0x115DD), (0x11630, 0x1163E),
   (0x11640, 0x11640), (0x11650, 0x11659), (0x116AB, 0x116B5), (0x116C0, 0x116C9),
   (0x116D0, 0x116E3), (0x1171D, 0x1172A), (0x11730, 0x1173B), (0x1182C, 0x11838),
   (0x118E0, 0x118F2), (0x11930, 0x11935), (0x11937, 0x11938), (0x1193B, 0x1193C),
   (0x11940, 0x11940), (0x11942, 0x11942), (0x11950, 0x11959), (0x119D1, 0x119D7),
   (0x119DA, 0x119DF), (0x119E4, 0x119E4), (0x11A01, 0x11A0A), (0x11A35, 0x11A39),
   (0x11A3B, 0x11A3E), (0x11A51, 0x11A5B), (0x11A8A, 0x11A97), (0x11B60, 0x11B67),
   (0x11BF0, 0x11BF9), (0x11C2F, 0x11C36), (0x11C38, 0x11C3E), (0x11C50, 0x11C6C),
   (0x11C92, 0x11CA7), (0x11CA9, 0x11CB6), (0x11D31, 0x11D36), (0x11D3A, 0x11D3A),
   (0x11D3C, 0x11D3D), (0x11D3F, 0x11D41), (0x11D43, 0x11D43), (0x11D47, 0x11D47),
   (0x11D50, 0x11D59), (0x11D8A, 0x11D8E), (0x11D90, 0x11D91), (0x11D93, 0x11D96),
   (0x11DA0, 0x11DA9), (0x11DE0, 0x11DE9), (0x11EF3, 0x11EF6), (0x11F00, 0x11F01),
   (0x11F03, 0x11F03), (0x11F34, 0x11F3A), (0x11F3E, 0x11F40), (0x11F50, 0x11F59),
   (0x11FC0, 0x11FD4), (0x1611E, 0x1612E), (0x16130, 0x16139), (0x16A60, 0x16A69),
   (0x16AC0, 0x16AC9), (0x16B50, 0x16B59), (0x16B5B, 0x16B61), (0x16D70, 0x16D79),
   (0x16E80, 0x16E96), (0x16F4F, 0x16F4F), (0x16F51, 0x16F87), (0x16F8F, 0x16F92),
   (0x16FF0, 0x16FF1), (0x1BC9E, 0x1BC9E), (0x1CCF0, 0x1CCF9), (0x1D2C0, 0x1D2D3),
   (0x1D2E0, 0x1D2F3), (0x1D360, 0x1D378), (0x1D7CE, 0x1D7FF), (0x1E000, 0x1E006),
   (0x1E008, 0x1E018), (0x1E01B, 0x1E021), (0x1E023, 0x1E024), (0x1E026, 0x1E02A),
   (0x1E08F, 0x1E08F), (0x1E140, 0x1E149), (0x1E2F0, 0x1E2F9), (0x1E4F0, 0x1E4F9),
   (0x1E5F1, 0x1E5FA), (0x1E6E3, 0x1E6E3), (0x1E6E6, 0x1E6E6), (0x1E6EE, 0x1E6EF),
   (0x1E6F5, 0x1E6F5), (0x1E8C7, 0x1E8CF), (0x1E947, 0x1E947), (0x1E950, 0x1E959),
   (0x1EC71, 0x1ECAB), (0x1ECAD, 0x1ECAF), (0x1ECB1, 0x1ECB4), (0x1ED01, 0x1ED2D),
   (0x1ED2F, 0x1ED3D), (0x1F100, 0x1F10C), (0x1F130, 0x1F149), (0x1F150, 0x1F169),
   (0x1F170, 0x1F189), (0x1FBF0, 0x1FBF9)]

/-- A letter or a number. -/
def isAlphanumeric (c : Char) : Bool :=
  if c.toNat < 0x80 then c.isAlphanum
  else (identifierStartRanges.has c && c.toNat != 0x2118 && c.toNat != 0x212E)
    || alphanumericExtraRanges.has c

end BuildScan.Text
