import IdlLint.Text.Lower

/-! Letters that differ in case only, by their code points. -/
namespace IdlLint.Text

/-- Runs of letters above ASCII with capital forms, of which the first letter counts. -/
def upperRuns : List (Nat × Nat × Nat × Nat) :=
  [(181, 181, 1, 924), (223, 223, 1, 83), (224, 246, 1, 192), (248, 254, 1, 216),
    (255, 255, 1, 376), (257, 303, 2, 256), (305, 305, 1, 73), (307, 311, 2, 306),
    (314, 328, 2, 313), (329, 329, 1, 700), (331, 375, 2, 330), (378, 382, 2, 377),
    (383, 383, 1, 83), (384, 384, 1, 579), (387, 389, 2, 386), (392, 392, 1, 391),
    (396, 396, 1, 395), (402, 402, 1, 401), (405, 405, 1, 502), (409, 409, 1, 408),
    (410, 410, 1, 573), (414, 414, 1, 544), (417, 421, 2, 416), (424, 424, 1, 423),
    (429, 429, 1, 428), (432, 432, 1, 431), (436, 438, 2, 435), (441, 441, 1, 440),
    (445, 445, 1, 444), (447, 447, 1, 503), (453, 453, 1, 452), (454, 454, 1, 452),
    (456, 456, 1, 455), (457, 457, 1, 455), (459, 459, 1, 458), (460, 460, 1, 458),
    (462, 476, 2, 461), (477, 477, 1, 398), (479, 495, 2, 478), (496, 496, 1, 74),
    (498, 498, 1, 497), (499, 499, 1, 497), (501, 501, 1, 500), (505, 543, 2, 504),
    (547, 563, 2, 546), (572, 572, 1, 571), (575, 576, 1, 11390), (578, 578, 1, 577),
    (583, 591, 2, 582), (592, 592, 1, 11375), (593, 593, 1, 11373), (594, 594, 1, 11376),
    (595, 595, 1, 385), (596, 596, 1, 390), (598, 599, 1, 393), (601, 601, 1, 399),
    (603, 603, 1, 400), (604, 604, 1, 42923), (608, 608, 1, 403), (609, 609, 1, 42924),
    (611, 611, 1, 404), (613, 613, 1, 42893), (614, 614, 1, 42922), (616, 616, 1, 407),
    (617, 617, 1, 406), (618, 618, 1, 42926), (619, 619, 1, 11362), (620, 620, 1, 42925),
    (623, 623, 1, 412), (625, 625, 1, 11374), (626, 626, 1, 413), (629, 629, 1, 415),
    (637, 637, 1, 11364), (640, 640, 1, 422), (642, 642, 1, 42949), (643, 643, 1, 425),
    (647, 647, 1, 42929), (648, 648, 1, 430), (649, 649, 1, 580), (650, 651, 1, 433),
    (652, 652, 1, 581), (658, 658, 1, 439), (669, 669, 1, 42930), (670, 670, 1, 42928),
    (837, 837, 1, 921), (881, 883, 2, 880), (887, 887, 1, 886), (891, 893, 1, 1021),
    (912, 912, 1, 921), (940, 940, 1, 902), (941, 943, 1, 904), (944, 944, 1, 933),
    (945, 961, 1, 913), (962, 962, 1, 931), (963, 971, 1, 931), (972, 972, 1, 908),
    (973, 974, 1, 910), (976, 976, 1, 914), (977, 977, 1, 920), (981, 981, 1, 934),
    (982, 982, 1, 928), (983, 983, 1, 975), (985, 1007, 2, 984), (1008, 1008, 1, 922),
    (1009, 1009, 1, 929), (1010, 1010, 1, 1017), (1011, 1011, 1, 895), (1013, 1013, 1, 917),
    (1016, 1016, 1, 1015), (1019, 1019, 1, 1018), (1072, 1103, 1, 1040), (1104, 1119, 1, 1024),
    (1121, 1153, 2, 1120), (1163, 1215, 2, 1162), (1218, 1230, 2, 1217), (1231, 1231, 1, 1216),
    (1233, 1327, 2, 1232), (1377, 1414, 1, 1329), (1415, 1415, 1, 1333), (4304, 4346, 1, 7312),
    (4349, 4351, 1, 7357), (5112, 5117, 1, 5104), (7296, 7296, 1, 1042), (7297, 7297, 1, 1044),
    (7298, 7298, 1, 1054), (7299, 7300, 1, 1057), (7301, 7301, 1, 1058), (7302, 7302, 1, 1066),
    (7303, 7303, 1, 1122), (7304, 7304, 1, 42570), (7545, 7545, 1, 42877), (7549, 7549, 1, 11363),
    (7566, 7566, 1, 42950), (7681, 7829, 2, 7680), (7830, 7830, 1, 72), (7831, 7831, 1, 84),
    (7832, 7832, 1, 87), (7833, 7833, 1, 89), (7834, 7834, 1, 65), (7835, 7835, 1, 7776),
    (7841, 7935, 2, 7840), (7936, 7943, 1, 7944), (7952, 7957, 1, 7960), (7968, 7975, 1, 7976),
    (7984, 7991, 1, 7992), (8000, 8005, 1, 8008), (8016, 8016, 1, 933), (8017, 8017, 1, 8025),
    (8018, 8018, 1, 933), (8019, 8019, 1, 8027), (8020, 8020, 1, 933), (8021, 8021, 1, 8029),
    (8022, 8022, 1, 933), (8023, 8023, 1, 8031), (8032, 8039, 1, 8040), (8048, 8049, 1, 8122),
    (8050, 8053, 1, 8136), (8054, 8055, 1, 8154), (8056, 8057, 1, 8184), (8058, 8059, 1, 8170),
    (8060, 8061, 1, 8186), (8064, 8071, 1, 7944), (8072, 8079, 1, 7944), (8080, 8087, 1, 7976),
    (8088, 8095, 1, 7976), (8096, 8103, 1, 8040), (8104, 8111, 1, 8040), (8112, 8114, 1, 8120),
    (8115, 8115, 1, 913), (8116, 8116, 1, 902), (8118, 8118, 1, 913), (8119, 8119, 1, 913),
    (8124, 8124, 1, 913), (8126, 8126, 1, 921), (8130, 8130, 1, 8138), (8131, 8131, 1, 919),
    (8132, 8132, 1, 905), (8134, 8134, 1, 919), (8135, 8135, 1, 919), (8140, 8140, 1, 919),
    (8144, 8145, 1, 8152), (8146, 8146, 1, 921), (8147, 8147, 1, 921), (8150, 8150, 1, 921),
    (8151, 8151, 1, 921), (8160, 8161, 1, 8168), (8162, 8162, 1, 933), (8163, 8163, 1, 933),
    (8164, 8164, 1, 929), (8165, 8165, 1, 8172), (8166, 8166, 1, 933), (8167, 8167, 1, 933),
    (8178, 8178, 1, 8186), (8179, 8179, 1, 937), (8180, 8180, 1, 911), (8182, 8182, 1, 937),
    (8183, 8183, 1, 937), (8188, 8188, 1, 937), (8526, 8526, 1, 8498), (8560, 8575, 1, 8544),
    (8580, 8580, 1, 8579), (9424, 9449, 1, 9398), (11312, 11359, 1, 11264),
    (11361, 11361, 1, 11360), (11365, 11365, 1, 570), (11366, 11366, 1, 574),
    (11368, 11372, 2, 11367), (11379, 11379, 1, 11378), (11382, 11382, 1, 11381),
    (11393, 11491, 2, 11392), (11500, 11502, 2, 11499), (11507, 11507, 1, 11506),
    (11520, 11557, 1, 4256), (11559, 11559, 1, 4295), (11565, 11565, 1, 4301),
    (42561, 42605, 2, 42560), (42625, 42651, 2, 42624), (42787, 42799, 2, 42786),
    (42803, 42863, 2, 42802), (42874, 42876, 2, 42873), (42879, 42887, 2, 42878),
    (42892, 42892, 1, 42891), (42897, 42899, 2, 42896), (42900, 42900, 1, 42948),
    (42903, 42921, 2, 42902), (42933, 42947, 2, 42932), (42952, 42954, 2, 42951),
    (42961, 42961, 1, 42960), (42967, 42969, 2, 42966), (42998, 42998, 1, 42997),
    (43859, 43859, 1, 42931), (43888, 43967, 1, 5024), (64256, 64256, 1, 70), (64257, 64257, 1, 70),
    (64258, 64258, 1, 70), (64259, 64259, 1, 70), (64260, 64260, 1, 70), (64261, 64261, 1, 83),
    (64262, 64262, 1, 83), (64275, 64275, 1, 1348), (64276, 64276, 1, 1348),
    (64277, 64277, 1, 1348), (64278, 64278, 1, 1358), (64279, 64279, 1, 1348),
    (65345, 65370, 1, 65313), (66600, 66639, 1, 66560), (66776, 66811, 1, 66736),
    (66967, 66977, 1, 66928), (66979, 66993, 1, 66940), (66995, 67001, 1, 66956),
    (67003, 67004, 1, 66964), (68800, 68850, 1, 68736), (71872, 71903, 1, 71840),
    (93792, 93823, 1, 93760), (125218, 125251, 1, 125184)]

/-- The small form of an ASCII letter, and any other code point itself. -/
def smallAscii (code : Nat) : Nat :=
  if 65 ≤ code && code ≤ 90 then code + 32 else code

/-- The small form of a letter as one code point. The capital I with a dot has the small i. -/
def small (code : Nat) : Nat :=
  if code < 128 then smallAscii code
  else if code = 0x130 then 0x69
  else mapRuns lowerRuns code

/-- The capital form of a letter, or the first letter of it. -/
def capital (code : Nat) : Nat :=
  if code < 128 then if 97 ≤ code && code ≤ 122 then code - 32 else code
  else mapRuns upperRuns code

/-- The code points with the small form `code`. -/
def formsOf (code : Nat) : List Nat :=
  let ascii := if 97 ≤ code && code ≤ 122 then [code - 32] else []
  let dotted := if code = 0x69 then [0x130] else []
  let others := lowerRuns.filterMap fun (first, last, step, image) =>
    if image ≤ code && code ≤ last - first + image && (code - image) % step == 0 then
      some (code - image + first)
    else none
  (if small code = code then [code] else []) ++ ascii ++ dotted ++ others

/-- Small letters that have one capital form. -/
def siblingGroups : List (List Nat) :=
  [[105, 305], [115, 383], [181, 956], [837, 953, 8126], [912, 8147], [944, 8163], [946, 976],
    [949, 1013], [952, 977], [954, 1008], [960, 982], [961, 1009], [962, 963], [966, 981],
    [1074, 7296], [1076, 7297], [1086, 7298], [1089, 7299], [1090, 7300, 7301], [1098, 7302],
    [1123, 7303], [7304, 42571], [7777, 7835], [64261, 64262]]

/-- The other small letters with the capital form of `code`. -/
def siblings (code : Nat) : List Nat :=
  ((siblingGroups.find? fun group => group.contains code).getD []).filter (· != code)

end IdlLint.Text
