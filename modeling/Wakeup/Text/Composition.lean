import Wakeup.Text.Marks
import Wakeup.Text.Spelling

/-! Texts in composed form: one text for all that differ only in how characters and their marks are
put together. Properties of Unicode 17.0. -/
namespace Wakeup.Text

/-- Canonical_Combining_Class, where it is not zero: marks of one rank stand in each other's way. -/
def ranks : List (Nat × List (Nat × Nat)) := [
  (1, [(0x334, 0x338), (0x1CD4, 0x1CD4), (0x1CE2, 0x1CE8), (0x20D2, 0x20D3), (0x20D8, 0x20DA),
    (0x20E5, 0x20E6), (0x20EA, 0x20EB), (0x10A39, 0x10A39), (0x16AF0, 0x16AF4), (0x1BC9E, 0x1BC9E),
    (0x1D167, 0x1D169)]),
  (6, [(0x16FF0, 0x16FF1)]),
  (7, [(0x93C, 0x93C), (0x9BC, 0x9BC), (0xA3C, 0xA3C), (0xABC, 0xABC), (0xB3C, 0xB3C),
    (0xC3C, 0xC3C), (0xCBC, 0xCBC), (0x1037, 0x1037), (0x1B34, 0x1B34), (0x1BE6, 0x1BE6),
    (0x1C37, 0x1C37), (0xA9B3, 0xA9B3), (0x110BA, 0x110BA), (0x11173, 0x11173), (0x111CA, 0x111CA),
    (0x11236, 0x11236), (0x112E9, 0x112E9), (0x1133B, 0x1133C), (0x11446, 0x11446),
    (0x114C3, 0x114C3), (0x115C0, 0x115C0), (0x116B7, 0x116B7), (0x1183A, 0x1183A),
    (0x11943, 0x11943), (0x11D42, 0x11D42), (0x1E94A, 0x1E94A)]),
  (8, [(0x3099, 0x309A)]),
  (9, [(0x94D, 0x94D), (0x9CD, 0x9CD), (0xA4D, 0xA4D), (0xACD, 0xACD), (0xB4D, 0xB4D),
    (0xBCD, 0xBCD), (0xC4D, 0xC4D), (0xCCD, 0xCCD), (0xD3B, 0xD3C), (0xD4D, 0xD4D), (0xDCA, 0xDCA),
    (0xE3A, 0xE3A), (0xEBA, 0xEBA), (0xF84, 0xF84), (0x1039, 0x103A), (0x1714, 0x1715),
    (0x1734, 0x1734), (0x17D2, 0x17D2), (0x1A60, 0x1A60), (0x1B44, 0x1B44), (0x1BAA, 0x1BAB),
    (0x1BF2, 0x1BF3), (0x2D7F, 0x2D7F), (0xA806, 0xA806), (0xA82C, 0xA82C), (0xA8C4, 0xA8C4),
    (0xA953, 0xA953), (0xA9C0, 0xA9C0), (0xAAF6, 0xAAF6), (0xABED, 0xABED), (0x10A3F, 0x10A3F),
    (0x11046, 0x11046), (0x11070, 0x11070), (0x1107F, 0x1107F), (0x110B9, 0x110B9),
    (0x11133, 0x11134), (0x111C0, 0x111C0), (0x11235, 0x11235), (0x112EA, 0x112EA),
    (0x1134D, 0x1134D), (0x113CE, 0x113D0), (0x11442, 0x11442), (0x114C2, 0x114C2),
    (0x115BF, 0x115BF), (0x1163F, 0x1163F), (0x116B6, 0x116B6), (0x1172B, 0x1172B),
    (0x11839, 0x11839), (0x1193D, 0x1193E), (0x119E0, 0x119E0), (0x11A34, 0x11A34),
    (0x11A47, 0x11A47), (0x11A99, 0x11A99), (0x11C3F, 0x11C3F), (0x11D44, 0x11D45),
    (0x11D97, 0x11D97), (0x11F41, 0x11F42), (0x1612F, 0x1612F)]),
  (10, [(0x5B0, 0x5B0)]),
  (11, [(0x5B1, 0x5B1)]),
  (12, [(0x5B2, 0x5B2)]),
  (13, [(0x5B3, 0x5B3)]),
  (14, [(0x5B4, 0x5B4)]),
  (15, [(0x5B5, 0x5B5)]),
  (16, [(0x5B6, 0x5B6)]),
  (17, [(0x5B7, 0x5B7)]),
  (18, [(0x5B8, 0x5B8), (0x5C7, 0x5C7)]),
  (19, [(0x5B9, 0x5BA)]),
  (20, [(0x5BB, 0x5BB)]),
  (21, [(0x5BC, 0x5BC)]),
  (22, [(0x5BD, 0x5BD)]),
  (23, [(0x5BF, 0x5BF)]),
  (24, [(0x5C1, 0x5C1)]),
  (25, [(0x5C2, 0x5C2)]),
  (26, [(0xFB1E, 0xFB1E)]),
  (27, [(0x64B, 0x64B), (0x8F0, 0x8F0)]),
  (28, [(0x64C, 0x64C), (0x8F1, 0x8F1)]),
  (29, [(0x64D, 0x64D), (0x8F2, 0x8F2)]),
  (30, [(0x618, 0x618), (0x64E, 0x64E)]),
  (31, [(0x619, 0x619), (0x64F, 0x64F)]),
  (32, [(0x61A, 0x61A), (0x650, 0x650)]),
  (33, [(0x651, 0x651)]),
  (34, [(0x652, 0x652)]),
  (35, [(0x670, 0x670)]),
  (36, [(0x711, 0x711)]),
  (84, [(0xC55, 0xC55)]),
  (91, [(0xC56, 0xC56)]),
  (103, [(0xE38, 0xE39)]),
  (107, [(0xE48, 0xE4B)]),
  (118, [(0xEB8, 0xEB9)]),
  (122, [(0xEC8, 0xECB)]),
  (129, [(0xF71, 0xF71)]),
  (130, [(0xF72, 0xF72), (0xF7A, 0xF7D), (0xF80, 0xF80)]),
  (132, [(0xF74, 0xF74)]),
  (202, [(0x321, 0x322), (0x327, 0x328), (0x1DD0, 0x1DD0)]),
  (214, [(0x1DCE, 0x1DCE)]),
  (216, [(0x31B, 0x31B), (0xF39, 0xF39), (0x1D165, 0x1D166), (0x1D16E, 0x1D172)]),
  (218, [(0x1DFA, 0x1DFA), (0x302A, 0x302A)]),
  (220, [(0x316, 0x319), (0x31C, 0x320), (0x323, 0x326), (0x329, 0x333), (0x339, 0x33C),
    (0x347, 0x349), (0x34D, 0x34E), (0x353, 0x356), (0x359, 0x35A), (0x591, 0x591), (0x596, 0x596),
    (0x59B, 0x59B), (0x5A2, 0x5A7), (0x5AA, 0x5AA), (0x5C5, 0x5C5), (0x655, 0x656), (0x65C, 0x65C),
    (0x65F, 0x65F), (0x6E3, 0x6E3), (0x6EA, 0x6EA), (0x6ED, 0x6ED), (0x731, 0x731), (0x734, 0x734),
    (0x737, 0x739), (0x73B, 0x73C), (0x73E, 0x73E), (0x742, 0x742), (0x744, 0x744), (0x746, 0x746),
    (0x748, 0x748), (0x7F2, 0x7F2), (0x7FD, 0x7FD), (0x859, 0x85B), (0x899, 0x89B), (0x8CF, 0x8D3),
    (0x8E3, 0x8E3), (0x8E6, 0x8E6), (0x8E9, 0x8E9), (0x8ED, 0x8EF), (0x8F6, 0x8F6), (0x8F9, 0x8FA),
    (0x952, 0x952), (0xF18, 0xF19), (0xF35, 0xF35), (0xF37, 0xF37), (0xFC6, 0xFC6),
    (0x108D, 0x108D), (0x193B, 0x193B), (0x1A18, 0x1A18), (0x1A7F, 0x1A7F), (0x1AB5, 0x1ABA),
    (0x1ABD, 0x1ABD), (0x1ABF, 0x1AC0), (0x1AC3, 0x1AC4), (0x1ACA, 0x1ACA), (0x1ADD, 0x1ADD),
    (0x1AE6, 0x1AE6), (0x1B6C, 0x1B6C), (0x1CD5, 0x1CD9), (0x1CDC, 0x1CDF), (0x1CED, 0x1CED),
    (0x1DC2, 0x1DC2), (0x1DCA, 0x1DCA), (0x1DCF, 0x1DCF), (0x1DF9, 0x1DF9), (0x1DFD, 0x1DFD),
    (0x1DFF, 0x1DFF), (0x20E8, 0x20E8), (0x20EC, 0x20EF), (0xA92B, 0xA92D), (0xAAB4, 0xAAB4),
    (0xFE27, 0xFE2D), (0x101FD, 0x101FD), (0x102E0, 0x102E0), (0x10A0D, 0x10A0D),
    (0x10A3A, 0x10A3A), (0x10AE6, 0x10AE6), (0x10EFA, 0x10EFB), (0x10EFD, 0x10EFF),
    (0x10F46, 0x10F47), (0x10F4B, 0x10F4B), (0x10F4D, 0x10F50), (0x10F83, 0x10F83),
    (0x10F85, 0x10F85), (0x1D17B, 0x1D182), (0x1D18A, 0x1D18B), (0x1E4EE, 0x1E4EE),
    (0x1E5EF, 0x1E5EF), (0x1E8D0, 0x1E8D6)]),
  (222, [(0x59A, 0x59A), (0x5AD, 0x5AD), (0x1939, 0x1939), (0x302D, 0x302D)]),
  (224, [(0x302E, 0x302F)]),
  (226, [(0x1D16D, 0x1D16D)]),
  (228, [(0x5AE, 0x5AE), (0x18A9, 0x18A9), (0x1DF7, 0x1DF8), (0x302B, 0x302B)]),
  (230, [(0x300, 0x314), (0x33D, 0x33F), (0x342, 0x342), (0x346, 0x346), (0x34A, 0x34C),
    (0x350, 0x352), (0x357, 0x357), (0x35B, 0x35B), (0x363, 0x36F), (0x483, 0x487), (0x592, 0x595),
    (0x597, 0x599), (0x59C, 0x5A1), (0x5A8, 0x5A9), (0x5AB, 0x5AC), (0x5AF, 0x5AF), (0x5C4, 0x5C4),
    (0x610, 0x617), (0x653, 0x654), (0x657, 0x65B), (0x65D, 0x65E), (0x6D6, 0x6DC), (0x6DF, 0x6E2),
    (0x6E4, 0x6E4), (0x6E7, 0x6E8), (0x6EB, 0x6EC), (0x730, 0x730), (0x732, 0x733), (0x735, 0x736),
    (0x73A, 0x73A), (0x73D, 0x73D), (0x73F, 0x741), (0x743, 0x743), (0x745, 0x745), (0x747, 0x747),
    (0x749, 0x74A), (0x7EB, 0x7F1), (0x7F3, 0x7F3), (0x816, 0x819), (0x81B, 0x823), (0x825, 0x827),
    (0x829, 0x82D), (0x897, 0x898), (0x89C, 0x89F), (0x8CA, 0x8CE), (0x8D4, 0x8E1), (0x8E4, 0x8E5),
    (0x8E7, 0x8E8), (0x8EA, 0x8EC), (0x8F3, 0x8F5), (0x8F7, 0x8F8), (0x8FB, 0x8FF), (0x951, 0x951),
    (0x953, 0x954), (0x9FE, 0x9FE), (0xF82, 0xF83), (0xF86, 0xF87), (0x135D, 0x135F),
    (0x17DD, 0x17DD), (0x193A, 0x193A), (0x1A17, 0x1A17), (0x1A75, 0x1A7C), (0x1AB0, 0x1AB4),
    (0x1ABB, 0x1ABC), (0x1AC1, 0x1AC2), (0x1AC5, 0x1AC9), (0x1ACB, 0x1ADC), (0x1AE0, 0x1AE5),
    (0x1AE7, 0x1AEA), (0x1B6B, 0x1B6B), (0x1B6D, 0x1B73), (0x1CD0, 0x1CD2), (0x1CDA, 0x1CDB),
    (0x1CE0, 0x1CE0), (0x1CF4, 0x1CF4), (0x1CF8, 0x1CF9), (0x1DC0, 0x1DC1), (0x1DC3, 0x1DC9),
    (0x1DCB, 0x1DCC), (0x1DD1, 0x1DF5), (0x1DFB, 0x1DFB), (0x1DFE, 0x1DFE), (0x20D0, 0x20D1),
    (0x20D4, 0x20D7), (0x20DB, 0x20DC), (0x20E1, 0x20E1), (0x20E7, 0x20E7), (0x20E9, 0x20E9),
    (0x20F0, 0x20F0), (0x2CEF, 0x2CF1), (0x2DE0, 0x2DFF), (0xA66F, 0xA66F), (0xA674, 0xA67D),
    (0xA69E, 0xA69F), (0xA6F0, 0xA6F1), (0xA8E0, 0xA8F1), (0xAAB0, 0xAAB0), (0xAAB2, 0xAAB3),
    (0xAAB7, 0xAAB8), (0xAABE, 0xAABF), (0xAAC1, 0xAAC1), (0xFE20, 0xFE26), (0xFE2E, 0xFE2F),
    (0x10376, 0x1037A), (0x10A0F, 0x10A0F), (0x10A38, 0x10A38), (0x10AE5, 0x10AE5),
    (0x10D24, 0x10D27), (0x10D69, 0x10D6D), (0x10EAB, 0x10EAC), (0x10F48, 0x10F4A),
    (0x10F4C, 0x10F4C), (0x10F82, 0x10F82), (0x10F84, 0x10F84), (0x11100, 0x11102),
    (0x11366, 0x1136C), (0x11370, 0x11374), (0x1145E, 0x1145E), (0x16B30, 0x16B36),
    (0x1D185, 0x1D189), (0x1D1AA, 0x1D1AD), (0x1D242, 0x1D244), (0x1E000, 0x1E006),
    (0x1E008, 0x1E018), (0x1E01B, 0x1E021), (0x1E023, 0x1E024), (0x1E026, 0x1E02A),
    (0x1E08F, 0x1E08F), (0x1E130, 0x1E136), (0x1E2AE, 0x1E2AE), (0x1E2EC, 0x1E2EF),
    (0x1E4EF, 0x1E4EF), (0x1E5EE, 0x1E5EE), (0x1E6E3, 0x1E6E3), (0x1E6E6, 0x1E6E6),
    (0x1E6EE, 0x1E6EF), (0x1E6F5, 0x1E6F5), (0x1E944, 0x1E949)]),
  (232, [(0x315, 0x315), (0x31A, 0x31A), (0x358, 0x358), (0x1DF6, 0x1DF6), (0x302C, 0x302C),
    (0x1E4EC, 0x1E4ED)]),
  (233, [(0x35C, 0x35C), (0x35F, 0x35F), (0x362, 0x362), (0x1DFC, 0x1DFC)]),
  (234, [(0x35D, 0x35E), (0x360, 0x361), (0x1AEB, 0x1AEB), (0x1DCD, 0x1DCD)]),
  (240, [(0x345, 0x345)])]

def rank (c : Char) : Nat :=
  ((ranks.find? fun (_, members) => within members c).map (·.1)).getD 0

/-- Characters that are the same as a character and its marks, but for syllables of Hangul and for
those that are not used in composed form. -/
def compositeRows : List SpellingRow := spellingRows "
C0: 41+300 41+301 41+302 41+303 41+308 41+30A - 43+327 45+300 45+301 45+302 45+308 49+300 49+301
49+302 49+308 - 4E+303 4F+300 4F+301 4F+302 4F+303 4F+308 - - 55+300 55+301 55+302 55+308 59+301 -
- 61+300 61+301 61+302 61+303 61+308 61+30A - 63+327 65+300 65+301 65+302 65+308 69+300 69+301
69+302 69+308 - 6E+303 6F+300 6F+301 6F+302 6F+303 6F+308 - - 75+300 75+301 75+302 75+308 79+301 -
79+308 41+304 61+304 41+306 61+306 41+328 61+328 43+301 63+301 43+302 63+302 43+307 63+307 43+30C
63+30C 44+30C 64+30C - - 45+304 65+304 45+306 65+306 45+307 65+307 45+328 65+328 45+30C 65+30C
47+302 67+302 47+306 67+306 47+307 67+307 47+327 67+327 48+302 68+302 - - 49+303 69+303 49+304
69+304 49+306 69+306 49+328 69+328 49+307 134: 4A+302 6A+302 4B+327 6B+327 - 4C+301 6C+301 4C+327
6C+327 4C+30C 6C+30C 143: 4E+301 6E+301 4E+327 6E+327 4E+30C 6E+30C 14C: 4F+304 6F+304 4F+306
6F+306 4F+30B 6F+30B - - 52+301 72+301 52+327 72+327 52+30C 72+30C 53+301 73+301 53+302 73+302
53+327 73+327 53+30C 73+30C 54+327 74+327 54+30C 74+30C - - 55+303 75+303 55+304 75+304 55+306
75+306 55+30A 75+30A 55+30B 75+30B 55+328 75+328 57+302 77+302 59+302 79+302 59+308 5A+301 7A+301
5A+307 7A+307 5A+30C 7A+30C 1A0: 4F+31B 6F+31B 1AF: 55+31B 75+31B 1CD: 41+30C 61+30C 49+30C 69+30C
4F+30C 6F+30C 55+30C 75+30C 55+308+304 75+308+304 55+308+301 75+308+301 55+308+30C 75+308+30C
55+308+300 75+308+300 - 41+308+304 61+308+304 41+307+304 61+307+304 C6+304 E6+304 - - 47+30C
67+30C 4B+30C 6B+30C 4F+328 6F+328 4F+328+304 6F+328+304 1B7+30C 292+30C 6A+30C 1F4: 47+301 67+301
- - 4E+300 6E+300 41+30A+301 61+30A+301 C6+301 E6+301 D8+301 F8+301 41+30F 61+30F 41+311 61+311
45+30F 65+30F 45+311 65+311 49+30F 69+30F 49+311 69+311 4F+30F 6F+30F 4F+311 6F+311 52+30F 72+30F
52+311 72+311 55+30F 75+30F 55+311 75+311 53+326 73+326 54+326 74+326 - - 48+30C 68+30C 226:
41+307 61+307 45+327 65+327 4F+308+304 6F+308+304 4F+303+304 6F+303+304 4F+307 6F+307 4F+307+304
6F+307+304 59+304 79+304 385: A8+301 391+301 - 395+301 397+301 399+301 - 39F+301 - 3A5+301 3A9+301
3B9+308+301 3AA: 399+308 3A5+308 3B1+301 3B5+301 3B7+301 3B9+301 3C5+308+301 3CA: 3B9+308 3C5+308
3BF+301 3C5+301 3C9+301 3D3: 3D2+301 3D2+308 400: 415+300 415+308 - 413+301 407: 406+308 40C:
41A+301 418+300 423+306 419: 418+306 439: 438+306 450: 435+300 435+308 - 433+301 457: 456+308 45C:
43A+301 438+300 443+306 476: 474+30F 475+30F 4C1: 416+306 436+306 4D0: 410+306 430+306 410+308
430+308 - - 415+306 435+306 - - 4D8+308 4D9+308 416+308 436+308 417+308 437+308 - - 418+304
438+304 418+308 438+308 41E+308 43E+308 - - 4E8+308 4E9+308 42D+308 44D+308 423+304 443+304
423+308 443+308 423+30B 443+30B 427+308 447+308 - - 42B+308 44B+308 622: 627+653 627+654 648+654
627+655 64A+654 6C0: 6D5+654 - 6C1+654 6D3: 6D2+654 929: 928+93C 931: 930+93C - - 933+93C 9CB:
9C7+9BE 9C7+9D7 B48: B47+B56 - - B47+B3E B47+B57 B94: B92+BD7 BCA: BC6+BBE BC7+BBE BC6+BD7 C48:
C46+C56 CC0: CBF+CD5 CC7: CC6+CD5 CC6+CD6 - CC6+CC2 CC6+CC2+CD5 D4A: D46+D3E D47+D3E D46+D57 DDA:
DD9+DCA - DD9+DCF DD9+DCF+DCA DD9+DDF 1026: 1025+102E 1B06: 1B05+1B35 - 1B07+1B35 - 1B09+1B35 -
1B0B+1B35 - 1B0D+1B35 1B12: 1B11+1B35 1B3B: 1B3A+1B35 - 1B3C+1B35 - - 1B3E+1B35 1B3F+1B35 -
1B42+1B35 1E00: 41+325 61+325 42+307 62+307 42+323 62+323 42+331 62+331 43+327+301 63+327+301
44+307 64+307 44+323 64+323 44+331 64+331 44+327 64+327 44+32D 64+32D 45+304+300 65+304+300
45+304+301 65+304+301 45+32D 65+32D 45+330 65+330 45+327+306 65+327+306 46+307 66+307 47+304
67+304 48+307 68+307 48+323 68+323 48+308 68+308 48+327 68+327 48+32E 68+32E 49+330 69+330
49+308+301 69+308+301 4B+301 6B+301 4B+323 6B+323 4B+331 6B+331 4C+323 6C+323 4C+323+304
6C+323+304 4C+331 6C+331 4C+32D 6C+32D 4D+301 6D+301 4D+307 6D+307 4D+323 6D+323 4E+307 6E+307
4E+323 6E+323 4E+331 6E+331 4E+32D 6E+32D 4F+303+301 6F+303+301 4F+303+308 6F+303+308 4F+304+300
6F+304+300 4F+304+301 6F+304+301 50+301 70+301 50+307 70+307 52+307 72+307 52+323 72+323
52+323+304 72+323+304 52+331 72+331 53+307 73+307 53+323 73+323 53+301+307 73+301+307 53+30C+307
73+30C+307 53+323+307 73+323+307 54+307 74+307 54+323 74+323 54+331 74+331 54+32D 74+32D 55+324
75+324 55+330 75+330 55+32D 75+32D 55+303+301 75+303+301 55+304+308 75+304+308 56+303 76+303
56+323 76+323 57+300 77+300 57+301 77+301 57+308 77+308 57+307 77+307 57+323 77+323 58+307 78+307
58+308 78+308 59+307 79+307 5A+302 7A+302 5A+323 7A+323 5A+331 7A+331 68+331 74+308 77+30A 79+30A
- 17F+307 1EA0: 41+323 61+323 41+309 61+309 41+302+301 61+302+301 41+302+300 61+302+300 41+302+309
61+302+309 41+302+303 61+302+303 41+323+302 61+323+302 41+306+301 61+306+301 41+306+300 61+306+300
41+306+309 61+306+309 41+306+303 61+306+303 41+323+306 61+323+306 45+323 65+323 45+309 65+309
45+303 65+303 45+302+301 65+302+301 45+302+300 65+302+300 45+302+309 65+302+309 45+302+303
65+302+303 45+323+302 65+323+302 49+309 69+309 49+323 69+323 4F+323 6F+323 4F+309 6F+309
4F+302+301 6F+302+301 4F+302+300 6F+302+300 4F+302+309 6F+302+309 4F+302+303 6F+302+303 4F+323+302
6F+323+302 4F+31B+301 6F+31B+301 4F+31B+300 6F+31B+300 4F+31B+309 6F+31B+309 4F+31B+303 6F+31B+303
4F+31B+323 6F+31B+323 55+323 75+323 55+309 75+309 55+31B+301 75+31B+301 55+31B+300 75+31B+300
55+31B+309 75+31B+309 55+31B+303 75+31B+303 55+31B+323 75+31B+323 59+300 79+300 59+323 79+323
59+309 79+309 59+303 79+303 1F00: 3B1+313 3B1+314 3B1+313+300 3B1+314+300 3B1+313+301 3B1+314+301
3B1+313+342 3B1+314+342 391+313 391+314 391+313+300 391+314+300 391+313+301 391+314+301
391+313+342 391+314+342 3B5+313 3B5+314 3B5+313+300 3B5+314+300 3B5+313+301 3B5+314+301 - -
395+313 395+314 395+313+300 395+314+300 395+313+301 395+314+301 - - 3B7+313 3B7+314 3B7+313+300
3B7+314+300 3B7+313+301 3B7+314+301 3B7+313+342 3B7+314+342 397+313 397+314 397+313+300
397+314+300 397+313+301 397+314+301 397+313+342 397+314+342 3B9+313 3B9+314 3B9+313+300
3B9+314+300 3B9+313+301 3B9+314+301 3B9+313+342 3B9+314+342 399+313 399+314 399+313+300
399+314+300 399+313+301 399+314+301 399+313+342 399+314+342 3BF+313 3BF+314 3BF+313+300
3BF+314+300 3BF+313+301 3BF+314+301 - - 39F+313 39F+314 39F+313+300 39F+314+300 39F+313+301
39F+314+301 - - 3C5+313 3C5+314 3C5+313+300 3C5+314+300 3C5+313+301 3C5+314+301 3C5+313+342
3C5+314+342 - 3A5+314 - 3A5+314+300 - 3A5+314+301 - 3A5+314+342 3C9+313 3C9+314 3C9+313+300
3C9+314+300 3C9+313+301 3C9+314+301 3C9+313+342 3C9+314+342 3A9+313 3A9+314 3A9+313+300
3A9+314+300 3A9+313+301 3A9+314+301 3A9+313+342 3A9+314+342 3B1+300 - 3B5+300 - 3B7+300 - 3B9+300
- 3BF+300 - 3C5+300 - 3C9+300 1F80: 3B1+313+345 3B1+314+345 3B1+313+300+345 3B1+314+300+345
3B1+313+301+345 3B1+314+301+345 3B1+313+342+345 3B1+314+342+345 391+313+345 391+314+345
391+313+300+345 391+314+300+345 391+313+301+345 391+314+301+345 391+313+342+345 391+314+342+345
3B7+313+345 3B7+314+345 3B7+313+300+345 3B7+314+300+345 3B7+313+301+345 3B7+314+301+345
3B7+313+342+345 3B7+314+342+345 397+313+345 397+314+345 397+313+300+345 397+314+300+345
397+313+301+345 397+314+301+345 397+313+342+345 397+314+342+345 3C9+313+345 3C9+314+345
3C9+313+300+345 3C9+314+300+345 3C9+313+301+345 3C9+314+301+345 3C9+313+342+345 3C9+314+342+345
3A9+313+345 3A9+314+345 3A9+313+300+345 3A9+314+300+345 3A9+313+301+345 3A9+314+301+345
3A9+313+342+345 3A9+314+342+345 3B1+306 3B1+304 3B1+300+345 3B1+345 3B1+301+345 - 3B1+342
3B1+342+345 391+306 391+304 391+300 - 391+345 1FC1: A8+342 3B7+300+345 3B7+345 3B7+301+345 -
3B7+342 3B7+342+345 395+300 - 397+300 - 397+345 1FBF+300 1FBF+301 1FBF+342 3B9+306 3B9+304
3B9+308+300 1FD6: 3B9+342 3B9+308+342 399+306 399+304 399+300 - - 1FFE+300 1FFE+301 1FFE+342
3C5+306 3C5+304 3C5+308+300 - 3C1+313 3C1+314 3C5+342 3C5+308+342 3A5+306 3A5+304 3A5+300 -
3A1+314 A8+300 1FF2: 3C9+300+345 3C9+345 3C9+301+345 - 3C9+342 3C9+342+345 39F+300 - 3A9+300 -
3A9+345 219A: 2190+338 2192+338 21AE: 2194+338 21CD: 21D0+338 21D4+338 21D2+338 2204: 2203+338
2209: 2208+338 - - 220B+338 2224: 2223+338 - 2225+338 2241: 223C+338 - - 2243+338 - - 2245+338 -
2248+338 2260: 3D+338 - 2261+338 226D: 224D+338 3C+338 3E+338 2264+338 2265+338 - - 2272+338
2273+338 - - 2276+338 2277+338 2280: 227A+338 227B+338 - - 2282+338 2283+338 - - 2286+338 2287+338
22AC: 22A2+338 22A8+338 22A9+338 22AB+338 22E0: 227C+338 227D+338 2291+338 2292+338 22EA: 22B2+338
22B3+338 22B4+338 22B5+338 304C: 304B+3099 - 304D+3099 - 304F+3099 - 3051+3099 - 3053+3099 -
3055+3099 - 3057+3099 - 3059+3099 - 305B+3099 - 305D+3099 - 305F+3099 - 3061+3099 - - 3064+3099 -
3066+3099 - 3068+3099 3070: 306F+3099 306F+309A - 3072+3099 3072+309A - 3075+3099 3075+309A -
3078+3099 3078+309A - 307B+3099 307B+309A 3094: 3046+3099 309E: 309D+3099 30AC: 30AB+3099 -
30AD+3099 - 30AF+3099 - 30B1+3099 - 30B3+3099 - 30B5+3099 - 30B7+3099 - 30B9+3099 - 30BB+3099 -
30BD+3099 - 30BF+3099 - 30C1+3099 - - 30C4+3099 - 30C6+3099 - 30C8+3099 30D0: 30CF+3099 30CF+309A
- 30D2+3099 30D2+309A - 30D5+3099 30D5+309A - 30D8+3099 30D8+309A - 30DB+3099 30DB+309A 30F4:
30A6+3099 - - 30EF+3099 30F0+3099 30F1+3099 30F2+3099 30FE: 30FD+3099 105C9: 105D2+307 105E4:
105DA+307 1109A: 11099+110BA - 1109B+110BA 110AB: 110A5+110BA 1112E: 11131+11127 11132+11127
1134B: 11347+1133E 11347+11357 11383: 11382+113C9 - 11384+113BB 1138E: 1138B+113C2 - - 11390+113C9
113C5: 113C2+113C2 - 113C2+113B8 113C2+113C9 114BB: 114B9+114BA 114B9+114B0 - 114B9+114BD 115BA:
115B8+115AF 115B9+115AF 11938: 11935+11930 16121: 1611E+1611E 1611E+16129 1611E+1611F 16129+1611F
1611E+16120 1611E+1611E+1611F 1611E+16129+1611F 1611E+1611E+16120 16D68: 16D67+16D67 16D63+16D67
16D63+16D67+16D67"

/-- The two or three letters of a syllable of Hangul. -/
def hangulLetters? (c : Char) : Option (List Char) :=
  let n := c.toNat - 0xAC00
  if c < '\uAC00' ∨ 11172 ≤ n then none
  else
    let two := [.ofNat (0x1100 + n / 588), .ofNat (0x1161 + n % 588 / 28)]
    some (if n % 28 = 0 then two else two ++ [.ofNat (0x11A7 + n % 28)])

/-- The syllable of Hangul with these letters. -/
def hangulSyllable? : List Char → Option Char
  | [a, b] =>
    if '\u1100' ≤ a ∧ a ≤ '\u1112' ∧ '\u1161' ≤ b ∧ b ≤ '\u1175' then
      some (.ofNat (0xAC00 + (a.toNat - 0x1100) * 588 + (b.toNat - 0x1161) * 28))
    else none
  | [a, b, c] =>
    if '\u11A8' ≤ c ∧ c ≤ '\u11C2' then
      (hangulSyllable? [a, b]).map fun s => .ofNat (s.toNat + (c.toNat - 0x11A7))
    else none
  | _ => none

/-- What a character is made of. -/
def components (c : Char) : List Char :=
  ((hangulLetters? c).or (spellingOf? compositeRows c)).getD [c]

/-- The character that is made of these. -/
def composite? : List Char → Option Char
  | [c] => some c
  | s => (hangulSyllable? s).or (spelledWith? compositeRows s)

/-- Puts a character in front of an ordered text; a mark moves behind marks of lower rank. -/
def placeMark (c : Char) : List Char → List Char
  | d :: s => if 0 < rank d ∧ rank d < rank c then d :: placeMark c s else c :: d :: s
  | [] => [c]

/-- The text with marks that follow each other in the order of their ranks. -/
def orderMarks (s : List Char) : List Char := s.foldr placeMark []

/-- Puts an ordered text together. Of the character under way `core` is what it is made of, and
`beside` the marks that did not become part of it. A mark becomes part of it if no other of its rank
stands in between. -/
def compose (core beside : List Char) : List Char → List Char
  | [] => (composite? core).toList ++ beside
  | c :: s =>
    if beside.getLast?.all (rank · < rank c) ∧ (composite? (core ++ [c])).isSome then
      compose (core ++ [c]) beside s
    else if rank c = 0 then (composite? core).toList ++ beside ++ compose [c] [] s
    else compose core (beside ++ [c]) s

/-- The composed form of a text. -/
def composed (s : List Char) : List Char :=
  match orderMarks (s.flatMap components) with
  | [] => []
  | c :: s => compose [c] [] s

end Wakeup.Text
