/-!
# Tables of character sets

Character sets in which every octet stands for one character.  Up to some octet they agree with
ASCII and its control characters; a table lists the characters from there on.

## Main definitions

* `OctetTable` : the tables.
* `OctetTable.all` : the tables of the families ISO 8859, Windows and KOI 8.
-/

namespace LogAlert.Text

/-- A character set of single octets: its names, with marks written as underscores, the first
octet that the table lists, and the characters from it on.  Zero stands for no character. -/
structure OctetTable where
  names : List String
  first : Nat
  characters : List Nat
  deriving DecidableEq, Repr, Inhabited

namespace OctetTable

/-- The character in a place of the table. -/
def character? (t : OctetTable) (place : Nat) : Option Char :=
  match t.characters[place]? with
  | none | some 0 => none
  | some n => some (Char.ofNat n)

/-- The table of ISO 8859, part 2. -/
def iso2 : OctetTable where
  names :=
    ["csisolatin2", "iso8859_2", "iso_8859_2", "iso_8859_2_1987", "iso_ir_101", "l2", "latin2"]
  first := 0xa0
  characters :=
    [160, 260, 728, 321, 164, 317, 346, 167, 168, 352, 350, 356, 377, 173, 381, 379, 176, 261,
     731, 322, 180, 318, 347, 711, 184, 353, 351, 357, 378, 733, 382, 380, 340, 193, 194, 258,
     196, 313, 262, 199, 268, 201, 280, 203, 282, 205, 206, 270, 272, 323, 327, 211, 212, 336,
     214, 215, 344, 366, 218, 368, 220, 221, 354, 223, 341, 225, 226, 259, 228, 314, 263, 231,
     269, 233, 281, 235, 283, 237, 238, 271, 273, 324, 328, 243, 244, 337, 246, 247, 345, 367,
     250, 369, 252, 253, 355, 729]

/-- The table of ISO 8859, part 3. -/
def iso3 : OctetTable where
  names :=
    ["csisolatin3", "iso8859_3", "iso_8859_3", "iso_8859_3_1988", "iso_ir_109", "l3", "latin3"]
  first := 0xa0
  characters :=
    [160, 294, 728, 163, 164, 0, 292, 167, 168, 304, 350, 286, 308, 173, 0, 379, 176, 295, 178,
     179, 180, 181, 293, 183, 184, 305, 351, 287, 309, 189, 0, 380, 192, 193, 194, 0, 196, 266,
     264, 199, 200, 201, 202, 203, 204, 205, 206, 207, 0, 209, 210, 211, 212, 288, 214, 215, 284,
     217, 218, 219, 220, 364, 348, 223, 224, 225, 226, 0, 228, 267, 265, 231, 232, 233, 234, 235,
     236, 237, 238, 239, 0, 241, 242, 243, 244, 289, 246, 247, 285, 249, 250, 251, 252, 365, 349,
     729]

/-- The table of ISO 8859, part 4. -/
def iso4 : OctetTable where
  names :=
    ["csisolatin4", "iso8859_4", "iso_8859_4", "iso_8859_4_1988", "iso_ir_110", "l4", "latin4"]
  first := 0xa0
  characters :=
    [160, 260, 312, 342, 164, 296, 315, 167, 168, 352, 274, 290, 358, 173, 381, 175, 176, 261,
     731, 343, 180, 297, 316, 711, 184, 353, 275, 291, 359, 330, 382, 331, 256, 193, 194, 195,
     196, 197, 198, 302, 268, 201, 280, 203, 278, 205, 206, 298, 272, 325, 332, 310, 212, 213,
     214, 215, 216, 370, 218, 219, 220, 360, 362, 223, 257, 225, 226, 227, 228, 229, 230, 303,
     269, 233, 281, 235, 279, 237, 238, 299, 273, 326, 333, 311, 244, 245, 246, 247, 248, 371,
     250, 251, 252, 361, 363, 729]

/-- The table of ISO 8859, part 5. -/
def iso5 : OctetTable where
  names :=
    ["csisolatincyrillic", "cyrillic", "iso8859_5", "iso_8859_5", "iso_8859_5_1988", "iso_ir_144"]
  first := 0xa0
  characters :=
    [160, 1025, 1026, 1027, 1028, 1029, 1030, 1031, 1032, 1033, 1034, 1035, 1036, 173, 1038, 1039,
     1040, 1041, 1042, 1043, 1044, 1045, 1046, 1047, 1048, 1049, 1050, 1051, 1052, 1053, 1054,
     1055, 1056, 1057, 1058, 1059, 1060, 1061, 1062, 1063, 1064, 1065, 1066, 1067, 1068, 1069,
     1070, 1071, 1072, 1073, 1074, 1075, 1076, 1077, 1078, 1079, 1080, 1081, 1082, 1083, 1084,
     1085, 1086, 1087, 1088, 1089, 1090, 1091, 1092, 1093, 1094, 1095, 1096, 1097, 1098, 1099,
     1100, 1101, 1102, 1103, 8470, 1105, 1106, 1107, 1108, 1109, 1110, 1111, 1112, 1113, 1114,
     1115, 1116, 167, 1118, 1119]

/-- The table of ISO 8859, part 6. -/
def iso6 : OctetTable where
  names :=
    ["arabic", "asmo_708", "csisolatinarabic", "ecma_114", "iso8859_6", "iso_8859_6",
     "iso_8859_6_1987", "iso_ir_127"]
  first := 0xa0
  characters :=
    [160, 0, 0, 0, 164, 0, 0, 0, 0, 0, 0, 0, 1548, 173, 0, 0, 0, 0, 0, 0, 0, 0, 0, 0, 0, 0, 0,
     1563, 0, 0, 0, 1567, 0, 1569, 1570, 1571, 1572, 1573, 1574, 1575, 1576, 1577, 1578, 1579,
     1580, 1581, 1582, 1583, 1584, 1585, 1586, 1587, 1588, 1589, 1590, 1591, 1592, 1593, 1594, 0,
     0, 0, 0, 0, 1600, 1601, 1602, 1603, 1604, 1605, 1606, 1607, 1608, 1609, 1610, 1611, 1612,
     1613, 1614, 1615, 1616, 1617, 1618, 0, 0, 0, 0, 0, 0, 0, 0, 0, 0, 0, 0, 0]

/-- The table of ISO 8859, part 7. -/
def iso7 : OctetTable where
  names :=
    ["csisolatingreek", "ecma_118", "elot_928", "greek", "greek8", "iso8859_7", "iso_8859_7",
     "iso_8859_7_1987", "iso_ir_126"]
  first := 0xa0
  characters :=
    [160, 8216, 8217, 163, 8364, 8367, 166, 167, 168, 169, 890, 171, 172, 173, 0, 8213, 176, 177,
     178, 179, 900, 901, 902, 183, 904, 905, 906, 187, 908, 189, 910, 911, 912, 913, 914, 915,
     916, 917, 918, 919, 920, 921, 922, 923, 924, 925, 926, 927, 928, 929, 0, 931, 932, 933, 934,
     935, 936, 937, 938, 939, 940, 941, 942, 943, 944, 945, 946, 947, 948, 949, 950, 951, 952,
     953, 954, 955, 956, 957, 958, 959, 960, 961, 962, 963, 964, 965, 966, 967, 968, 969, 970,
     971, 972, 973, 974, 0]

/-- The table of ISO 8859, part 8. -/
def iso8 : OctetTable where
  names :=
    ["csisolatinhebrew", "hebrew", "iso8859_8", "iso_8859_8", "iso_8859_8_1988", "iso_ir_138"]
  first := 0xa0
  characters :=
    [160, 0, 162, 163, 164, 165, 166, 167, 168, 169, 215, 171, 172, 173, 174, 175, 176, 177, 178,
     179, 180, 181, 182, 183, 184, 185, 247, 187, 188, 189, 190, 0, 0, 0, 0, 0, 0, 0, 0, 0, 0, 0,
     0, 0, 0, 0, 0, 0, 0, 0, 0, 0, 0, 0, 0, 0, 0, 0, 0, 0, 0, 0, 0, 8215, 1488, 1489, 1490, 1491,
     1492, 1493, 1494, 1495, 1496, 1497, 1498, 1499, 1500, 1501, 1502, 1503, 1504, 1505, 1506,
     1507, 1508, 1509, 1510, 1511, 1512, 1513, 1514, 0, 0, 8206, 8207, 0]

/-- The table of ISO 8859, part 9. -/
def iso9 : OctetTable where
  names :=
    ["csisolatin5", "iso8859_9", "iso_8859_9", "iso_8859_9_1989", "iso_ir_148", "l5", "latin5"]
  first := 0xa0
  characters :=
    [160, 161, 162, 163, 164, 165, 166, 167, 168, 169, 170, 171, 172, 173, 174, 175, 176, 177,
     178, 179, 180, 181, 182, 183, 184, 185, 186, 187, 188, 189, 190, 191, 192, 193, 194, 195,
     196, 197, 198, 199, 200, 201, 202, 203, 204, 205, 206, 207, 286, 209, 210, 211, 212, 213,
     214, 215, 216, 217, 218, 219, 220, 304, 350, 223, 224, 225, 226, 227, 228, 229, 230, 231,
     232, 233, 234, 235, 236, 237, 238, 239, 287, 241, 242, 243, 244, 245, 246, 247, 248, 249,
     250, 251, 252, 305, 351, 255]

/-- The table of ISO 8859, part 10. -/
def iso10 : OctetTable where
  names :=
    ["csisolatin6", "iso8859_10", "iso_8859_10", "iso_8859_10_1992", "iso_ir_157", "l6", "latin6"]
  first := 0xa0
  characters :=
    [160, 260, 274, 290, 298, 296, 310, 167, 315, 272, 352, 358, 381, 173, 362, 330, 176, 261,
     275, 291, 299, 297, 311, 183, 316, 273, 353, 359, 382, 8213, 363, 331, 256, 193, 194, 195,
     196, 197, 198, 302, 268, 201, 280, 203, 278, 205, 206, 207, 208, 325, 332, 211, 212, 213,
     214, 360, 216, 370, 218, 219, 220, 221, 222, 223, 257, 225, 226, 227, 228, 229, 230, 303,
     269, 233, 281, 235, 279, 237, 238, 239, 240, 326, 333, 243, 244, 245, 246, 361, 248, 371,
     250, 251, 252, 253, 254, 312]

/-- The table of ISO 8859, part 11. -/
def iso11 : OctetTable where
  names :=
    ["iso8859_11", "iso_8859_11", "iso_8859_11_2001", "thai"]
  first := 0xa0
  characters :=
    [160, 3585, 3586, 3587, 3588, 3589, 3590, 3591, 3592, 3593, 3594, 3595, 3596, 3597, 3598,
     3599, 3600, 3601, 3602, 3603, 3604, 3605, 3606, 3607, 3608, 3609, 3610, 3611, 3612, 3613,
     3614, 3615, 3616, 3617, 3618, 3619, 3620, 3621, 3622, 3623, 3624, 3625, 3626, 3627, 3628,
     3629, 3630, 3631, 3632, 3633, 3634, 3635, 3636, 3637, 3638, 3639, 3640, 3641, 3642, 0, 0, 0,
     0, 3647, 3648, 3649, 3650, 3651, 3652, 3653, 3654, 3655, 3656, 3657, 3658, 3659, 3660, 3661,
     3662, 3663, 3664, 3665, 3666, 3667, 3668, 3669, 3670, 3671, 3672, 3673, 3674, 3675, 0, 0, 0,
     0]

/-- The table of ISO 8859, part 13. -/
def iso13 : OctetTable where
  names :=
    ["iso8859_13", "iso_8859_13", "l7", "latin7"]
  first := 0xa0
  characters :=
    [160, 8221, 162, 163, 164, 8222, 166, 167, 216, 169, 342, 171, 172, 173, 174, 198, 176, 177,
     178, 179, 8220, 181, 182, 183, 248, 185, 343, 187, 188, 189, 190, 230, 260, 302, 256, 262,
     196, 197, 280, 274, 268, 201, 377, 278, 290, 310, 298, 315, 352, 323, 325, 211, 332, 213,
     214, 215, 370, 321, 346, 362, 220, 379, 381, 223, 261, 303, 257, 263, 228, 229, 281, 275,
     269, 233, 378, 279, 291, 311, 299, 316, 353, 324, 326, 243, 333, 245, 246, 247, 371, 322,
     347, 363, 252, 380, 382, 8217]

/-- The table of ISO 8859, part 14. -/
def iso14 : OctetTable where
  names :=
    ["iso8859_14", "iso_8859_14", "iso_8859_14_1998", "iso_celtic", "iso_ir_199", "l8", "latin8"]
  first := 0xa0
  characters :=
    [160, 7682, 7683, 163, 266, 267, 7690, 167, 7808, 169, 7810, 7691, 7922, 173, 174, 376, 7710,
     7711, 288, 289, 7744, 7745, 182, 7766, 7809, 7767, 7811, 7776, 7923, 7812, 7813, 7777, 192,
     193, 194, 195, 196, 197, 198, 199, 200, 201, 202, 203, 204, 205, 206, 207, 372, 209, 210,
     211, 212, 213, 214, 7786, 216, 217, 218, 219, 220, 221, 374, 223, 224, 225, 226, 227, 228,
     229, 230, 231, 232, 233, 234, 235, 236, 237, 238, 239, 373, 241, 242, 243, 244, 245, 246,
     7787, 248, 249, 250, 251, 252, 253, 375, 255]

/-- The table of ISO 8859, part 15. -/
def iso15 : OctetTable where
  names :=
    ["iso8859_15", "iso_8859_15", "l9", "latin9"]
  first := 0xa0
  characters :=
    [160, 161, 162, 163, 8364, 165, 352, 167, 353, 169, 170, 171, 172, 173, 174, 175, 176, 177,
     178, 179, 381, 181, 182, 183, 382, 185, 186, 187, 338, 339, 376, 191, 192, 193, 194, 195,
     196, 197, 198, 199, 200, 201, 202, 203, 204, 205, 206, 207, 208, 209, 210, 211, 212, 213,
     214, 215, 216, 217, 218, 219, 220, 221, 222, 223, 224, 225, 226, 227, 228, 229, 230, 231,
     232, 233, 234, 235, 236, 237, 238, 239, 240, 241, 242, 243, 244, 245, 246, 247, 248, 249,
     250, 251, 252, 253, 254, 255]

/-- The table of ISO 8859, part 16. -/
def iso16 : OctetTable where
  names :=
    ["iso8859_16", "iso_8859_16", "iso_8859_16_2001", "iso_ir_226", "l10", "latin10"]
  first := 0xa0
  characters :=
    [160, 260, 261, 321, 8364, 8222, 352, 167, 353, 169, 536, 171, 377, 173, 378, 379, 176, 177,
     268, 322, 381, 8221, 182, 183, 382, 269, 537, 187, 338, 339, 376, 380, 192, 193, 194, 258,
     196, 262, 198, 199, 200, 201, 202, 203, 204, 205, 206, 207, 272, 323, 210, 211, 212, 336,
     214, 346, 368, 217, 218, 219, 220, 280, 538, 223, 224, 225, 226, 259, 228, 263, 230, 231,
     232, 233, 234, 235, 236, 237, 238, 239, 273, 324, 242, 243, 244, 337, 246, 347, 369, 249,
     250, 251, 252, 281, 539, 255]

/-- The table of Windows, page 1250. -/
def windows1250 : OctetTable where
  names :=
    ["1250", "cp1250", "windows_1250"]
  first := 0x80
  characters :=
    [8364, 0, 8218, 0, 8222, 8230, 8224, 8225, 0, 8240, 352, 8249, 346, 356, 381, 377, 0, 8216,
     8217, 8220, 8221, 8226, 8211, 8212, 0, 8482, 353, 8250, 347, 357, 382, 378, 160, 711, 728,
     321, 164, 260, 166, 167, 168, 169, 350, 171, 172, 173, 174, 379, 176, 177, 731, 322, 180,
     181, 182, 183, 184, 261, 351, 187, 317, 733, 318, 380, 340, 193, 194, 258, 196, 313, 262,
     199, 268, 201, 280, 203, 282, 205, 206, 270, 272, 323, 327, 211, 212, 336, 214, 215, 344,
     366, 218, 368, 220, 221, 354, 223, 341, 225, 226, 259, 228, 314, 263, 231, 269, 233, 281,
     235, 283, 237, 238, 271, 273, 324, 328, 243, 244, 337, 246, 247, 345, 367, 250, 369, 252,
     253, 355, 729]

/-- The table of Windows, page 1251. -/
def windows1251 : OctetTable where
  names :=
    ["1251", "cp1251", "windows_1251"]
  first := 0x80
  characters :=
    [1026, 1027, 8218, 1107, 8222, 8230, 8224, 8225, 8364, 8240, 1033, 8249, 1034, 1036, 1035,
     1039, 1106, 8216, 8217, 8220, 8221, 8226, 8211, 8212, 0, 8482, 1113, 8250, 1114, 1116, 1115,
     1119, 160, 1038, 1118, 1032, 164, 1168, 166, 167, 1025, 169, 1028, 171, 172, 173, 174, 1031,
     176, 177, 1030, 1110, 1169, 181, 182, 183, 1105, 8470, 1108, 187, 1112, 1029, 1109, 1111,
     1040, 1041, 1042, 1043, 1044, 1045, 1046, 1047, 1048, 1049, 1050, 1051, 1052, 1053, 1054,
     1055, 1056, 1057, 1058, 1059, 1060, 1061, 1062, 1063, 1064, 1065, 1066, 1067, 1068, 1069,
     1070, 1071, 1072, 1073, 1074, 1075, 1076, 1077, 1078, 1079, 1080, 1081, 1082, 1083, 1084,
     1085, 1086, 1087, 1088, 1089, 1090, 1091, 1092, 1093, 1094, 1095, 1096, 1097, 1098, 1099,
     1100, 1101, 1102, 1103]

/-- The table of Windows, page 1252. -/
def windows1252 : OctetTable where
  names :=
    ["1252", "cp1252", "windows_1252"]
  first := 0x80
  characters :=
    [8364, 0, 8218, 402, 8222, 8230, 8224, 8225, 710, 8240, 352, 8249, 338, 0, 381, 0, 0, 8216,
     8217, 8220, 8221, 8226, 8211, 8212, 732, 8482, 353, 8250, 339, 0, 382, 376, 160, 161, 162,
     163, 164, 165, 166, 167, 168, 169, 170, 171, 172, 173, 174, 175, 176, 177, 178, 179, 180,
     181, 182, 183, 184, 185, 186, 187, 188, 189, 190, 191, 192, 193, 194, 195, 196, 197, 198,
     199, 200, 201, 202, 203, 204, 205, 206, 207, 208, 209, 210, 211, 212, 213, 214, 215, 216,
     217, 218, 219, 220, 221, 222, 223, 224, 225, 226, 227, 228, 229, 230, 231, 232, 233, 234,
     235, 236, 237, 238, 239, 240, 241, 242, 243, 244, 245, 246, 247, 248, 249, 250, 251, 252,
     253, 254, 255]

/-- The table of Windows, page 1253. -/
def windows1253 : OctetTable where
  names :=
    ["1253", "cp1253", "windows_1253"]
  first := 0x80
  characters :=
    [8364, 0, 8218, 402, 8222, 8230, 8224, 8225, 0, 8240, 0, 8249, 0, 0, 0, 0, 0, 8216, 8217,
     8220, 8221, 8226, 8211, 8212, 0, 8482, 0, 8250, 0, 0, 0, 0, 160, 901, 902, 163, 164, 165,
     166, 167, 168, 169, 0, 171, 172, 173, 174, 8213, 176, 177, 178, 179, 900, 181, 182, 183, 904,
     905, 906, 187, 908, 189, 910, 911, 912, 913, 914, 915, 916, 917, 918, 919, 920, 921, 922,
     923, 924, 925, 926, 927, 928, 929, 0, 931, 932, 933, 934, 935, 936, 937, 938, 939, 940, 941,
     942, 943, 944, 945, 946, 947, 948, 949, 950, 951, 952, 953, 954, 955, 956, 957, 958, 959,
     960, 961, 962, 963, 964, 965, 966, 967, 968, 969, 970, 971, 972, 973, 974, 0]

/-- The table of Windows, page 1254. -/
def windows1254 : OctetTable where
  names :=
    ["1254", "cp1254", "windows_1254"]
  first := 0x80
  characters :=
    [8364, 0, 8218, 402, 8222, 8230, 8224, 8225, 710, 8240, 352, 8249, 338, 0, 0, 0, 0, 8216,
     8217, 8220, 8221, 8226, 8211, 8212, 732, 8482, 353, 8250, 339, 0, 0, 376, 160, 161, 162, 163,
     164, 165, 166, 167, 168, 169, 170, 171, 172, 173, 174, 175, 176, 177, 178, 179, 180, 181,
     182, 183, 184, 185, 186, 187, 188, 189, 190, 191, 192, 193, 194, 195, 196, 197, 198, 199,
     200, 201, 202, 203, 204, 205, 206, 207, 286, 209, 210, 211, 212, 213, 214, 215, 216, 217,
     218, 219, 220, 304, 350, 223, 224, 225, 226, 227, 228, 229, 230, 231, 232, 233, 234, 235,
     236, 237, 238, 239, 287, 241, 242, 243, 244, 245, 246, 247, 248, 249, 250, 251, 252, 305,
     351, 255]

/-- The table of Windows, page 1255. -/
def windows1255 : OctetTable where
  names :=
    ["1255", "cp1255", "windows_1255"]
  first := 0x80
  characters :=
    [8364, 0, 8218, 402, 8222, 8230, 8224, 8225, 710, 8240, 0, 8249, 0, 0, 0, 0, 0, 8216, 8217,
     8220, 8221, 8226, 8211, 8212, 732, 8482, 0, 8250, 0, 0, 0, 0, 160, 161, 162, 163, 8362, 165,
     166, 167, 168, 169, 215, 171, 172, 173, 174, 175, 176, 177, 178, 179, 180, 181, 182, 183,
     184, 185, 247, 187, 188, 189, 190, 191, 1456, 1457, 1458, 1459, 1460, 1461, 1462, 1463, 1464,
     1465, 0, 1467, 1468, 1469, 1470, 1471, 1472, 1473, 1474, 1475, 1520, 1521, 1522, 1523, 1524,
     0, 0, 0, 0, 0, 0, 0, 1488, 1489, 1490, 1491, 1492, 1493, 1494, 1495, 1496, 1497, 1498, 1499,
     1500, 1501, 1502, 1503, 1504, 1505, 1506, 1507, 1508, 1509, 1510, 1511, 1512, 1513, 1514, 0,
     0, 8206, 8207, 0]

/-- The table of Windows, page 1256. -/
def windows1256 : OctetTable where
  names :=
    ["1256", "cp1256", "windows_1256"]
  first := 0x80
  characters :=
    [8364, 1662, 8218, 402, 8222, 8230, 8224, 8225, 710, 8240, 1657, 8249, 338, 1670, 1688, 1672,
     1711, 8216, 8217, 8220, 8221, 8226, 8211, 8212, 1705, 8482, 1681, 8250, 339, 8204, 8205,
     1722, 160, 1548, 162, 163, 164, 165, 166, 167, 168, 169, 1726, 171, 172, 173, 174, 175, 176,
     177, 178, 179, 180, 181, 182, 183, 184, 185, 1563, 187, 188, 189, 190, 1567, 1729, 1569,
     1570, 1571, 1572, 1573, 1574, 1575, 1576, 1577, 1578, 1579, 1580, 1581, 1582, 1583, 1584,
     1585, 1586, 1587, 1588, 1589, 1590, 215, 1591, 1592, 1593, 1594, 1600, 1601, 1602, 1603, 224,
     1604, 226, 1605, 1606, 1607, 1608, 231, 232, 233, 234, 235, 1609, 1610, 238, 239, 1611, 1612,
     1613, 1614, 244, 1615, 1616, 247, 1617, 249, 1618, 251, 252, 8206, 8207, 1746]

/-- The table of Windows, page 1257. -/
def windows1257 : OctetTable where
  names :=
    ["1257", "cp1257", "windows_1257"]
  first := 0x80
  characters :=
    [8364, 0, 8218, 0, 8222, 8230, 8224, 8225, 0, 8240, 0, 8249, 0, 168, 711, 184, 0, 8216, 8217,
     8220, 8221, 8226, 8211, 8212, 0, 8482, 0, 8250, 0, 175, 731, 0, 160, 0, 162, 163, 164, 0,
     166, 167, 216, 169, 342, 171, 172, 173, 174, 198, 176, 177, 178, 179, 180, 181, 182, 183,
     248, 185, 343, 187, 188, 189, 190, 230, 260, 302, 256, 262, 196, 197, 280, 274, 268, 201,
     377, 278, 290, 310, 298, 315, 352, 323, 325, 211, 332, 213, 214, 215, 370, 321, 346, 362,
     220, 379, 381, 223, 261, 303, 257, 263, 228, 229, 281, 275, 269, 233, 378, 279, 291, 311,
     299, 316, 353, 324, 326, 243, 333, 245, 246, 247, 371, 322, 347, 363, 252, 380, 382, 729]

/-- The table of Windows, page 1258. -/
def windows1258 : OctetTable where
  names :=
    ["1258", "cp1258", "windows_1258"]
  first := 0x80
  characters :=
    [8364, 0, 8218, 402, 8222, 8230, 8224, 8225, 710, 8240, 0, 8249, 338, 0, 0, 0, 0, 8216, 8217,
     8220, 8221, 8226, 8211, 8212, 732, 8482, 0, 8250, 339, 0, 0, 376, 160, 161, 162, 163, 164,
     165, 166, 167, 168, 169, 170, 171, 172, 173, 174, 175, 176, 177, 178, 179, 180, 181, 182,
     183, 184, 185, 186, 187, 188, 189, 190, 191, 192, 193, 194, 258, 196, 197, 198, 199, 200,
     201, 202, 203, 768, 205, 206, 207, 272, 209, 777, 211, 212, 416, 214, 215, 216, 217, 218,
     219, 220, 431, 771, 223, 224, 225, 226, 259, 228, 229, 230, 231, 232, 233, 234, 235, 769,
     237, 238, 239, 273, 241, 803, 243, 244, 417, 246, 247, 248, 249, 250, 251, 252, 432, 8363,
     255]

/-- The table of KOI 8 for Russian. -/
def koi8r : OctetTable where
  names :=
    ["cskoi8r", "koi8_r"]
  first := 0x80
  characters :=
    [9472, 9474, 9484, 9488, 9492, 9496, 9500, 9508, 9516, 9524, 9532, 9600, 9604, 9608, 9612,
     9616, 9617, 9618, 9619, 8992, 9632, 8729, 8730, 8776, 8804, 8805, 160, 8993, 176, 178, 183,
     247, 9552, 9553, 9554, 1105, 9555, 9556, 9557, 9558, 9559, 9560, 9561, 9562, 9563, 9564,
     9565, 9566, 9567, 9568, 9569, 1025, 9570, 9571, 9572, 9573, 9574, 9575, 9576, 9577, 9578,
     9579, 9580, 169, 1102, 1072, 1073, 1094, 1076, 1077, 1092, 1075, 1093, 1080, 1081, 1082,
     1083, 1084, 1085, 1086, 1087, 1103, 1088, 1089, 1090, 1091, 1078, 1074, 1100, 1099, 1079,
     1096, 1101, 1097, 1095, 1098, 1070, 1040, 1041, 1062, 1044, 1045, 1060, 1043, 1061, 1048,
     1049, 1050, 1051, 1052, 1053, 1054, 1055, 1071, 1056, 1057, 1058, 1059, 1046, 1042, 1068,
     1067, 1047, 1064, 1069, 1065, 1063, 1066]

/-- The table of KOI 8 for Ukrainian. -/
def koi8u : OctetTable where
  names :=
    ["koi8_u"]
  first := 0x80
  characters :=
    [9472, 9474, 9484, 9488, 9492, 9496, 9500, 9508, 9516, 9524, 9532, 9600, 9604, 9608, 9612,
     9616, 9617, 9618, 9619, 8992, 9632, 8729, 8730, 8776, 8804, 8805, 160, 8993, 176, 178, 183,
     247, 9552, 9553, 9554, 1105, 1108, 9556, 1110, 1111, 9559, 9560, 9561, 9562, 9563, 1169,
     9565, 9566, 9567, 9568, 9569, 1025, 1028, 9571, 1030, 1031, 9574, 9575, 9576, 9577, 9578,
     1168, 9580, 169, 1102, 1072, 1073, 1094, 1076, 1077, 1092, 1075, 1093, 1080, 1081, 1082,
     1083, 1084, 1085, 1086, 1087, 1103, 1088, 1089, 1090, 1091, 1078, 1074, 1100, 1099, 1079,
     1096, 1101, 1097, 1095, 1098, 1070, 1040, 1041, 1062, 1044, 1045, 1060, 1043, 1061, 1048,
     1049, 1050, 1051, 1052, 1053, 1054, 1055, 1071, 1056, 1057, 1058, 1059, 1046, 1042, 1068,
     1067, 1047, 1064, 1069, 1065, 1063, 1066]

/-- All tables. -/
def all : List OctetTable :=
  [iso2, iso3, iso4, iso5, iso6, iso7, iso8, iso9, iso10, iso11, iso13, iso14, iso15, iso16,
   windows1250, windows1251, windows1252, windows1253, windows1254, windows1255, windows1256,
   windows1257, windows1258, koi8r, koi8u]

end OctetTable

end LogAlert.Text
