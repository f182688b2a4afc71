import IdlLint.Text.Case
import IdlLint.Text.Letter
import IdlLint.Text.Mark

/-! Texts in small letters. The small sigma has a form of its own at the end of a word. -/
namespace IdlLint.Text

/-- Letters of one case that have no counterpart in the other. -/
def singleCaseRanges : List (Nat × Nat) :=
  [(170, 170), (186, 186), (312, 312), (397, 397), (411, 411), (426, 427), (442, 442), (446, 446),
    (545, 545), (564, 569), (597, 597), (600, 600), (602, 602), (605, 607), (610, 610), (612, 612),
    (615, 615), (621, 622), (624, 624), (627, 628), (630, 636), (638, 639), (641, 641), (644, 646),
    (653, 657), (659, 659), (661, 668), (671, 687), (978, 980), (1020, 1020), (1376, 1376),
    (1416, 1416), (7424, 7467), (7531, 7543), (7546, 7548), (7550, 7565), (7567, 7578),
    (7836, 7837), (7839, 7839), (8450, 8450), (8455, 8455), (8458, 8467), (8469, 8469),
    (8473, 8477), (8484, 8484), (8488, 8488), (8492, 8493), (8495, 8497), (8499, 8500),
    (8505, 8505), (8508, 8511), (8517, 8521), (11377, 11377), (11380, 11380), (11383, 11387),
    (11492, 11492), (42800, 42801), (42865, 42872), (42894, 42894), (42901, 42901), (42927, 42927),
    (42963, 42963), (42965, 42965), (43002, 43002), (43824, 43858), (43860, 43866), (43872, 43880),
    (119808, 119892), (119894, 119964), (119966, 119967), (119970, 119970), (119973, 119974),
    (119977, 119980), (119982, 119993), (119995, 119995), (119997, 120003), (120005, 120069),
    (120071, 120074), (120077, 120084), (120086, 120092), (120094, 120121), (120123, 120126),
    (120128, 120132), (120134, 120134), (120138, 120144), (120146, 120485), (120488, 120512),
    (120514, 120538), (120540, 120570), (120572, 120596), (120598, 120628), (120630, 120654),
    (120656, 120686), (120688, 120712), (120714, 120744), (120746, 120770), (120772, 120779),
    (122624, 122633), (122635, 122654), (127280, 127305), (127312, 127337), (127344, 127369)]

/-- Characters other than marks that do not end a word as far as case goes. -/
def casePassiveRanges : List (Nat × Nat) :=
  [(39, 39), (46, 46), (58, 58), (94, 94), (96, 96), (168, 168), (173, 173), (175, 175), (180, 180),
    (183, 184), (688, 767), (884, 885), (890, 890), (900, 901), (903, 903), (1369, 1369),
    (1375, 1375), (1524, 1524), (1536, 1541), (1564, 1564), (1600, 1600), (1757, 1757),
    (1765, 1766), (1807, 1807), (2036, 2037), (2042, 2042), (2074, 2074), (2084, 2084),
    (2088, 2088), (2184, 2184), (2192, 2193), (2249, 2249), (2274, 2274), (2417, 2417),
    (3654, 3654), (3782, 3782), (4348, 4348), (6103, 6103), (6158, 6158), (6211, 6211),
    (6823, 6823), (7288, 7293), (7468, 7530), (7544, 7544), (7579, 7615), (8125, 8125),
    (8127, 8129), (8141, 8143), (8157, 8159), (8173, 8175), (8189, 8190), (8203, 8207),
    (8216, 8217), (8228, 8228), (8231, 8231), (8234, 8238), (8288, 8292), (8294, 8303),
    (8305, 8305), (8319, 8319), (8336, 8348), (11388, 11389), (11631, 11631), (11823, 11823),
    (12293, 12293), (12337, 12341), (12347, 12347), (12443, 12446), (12540, 12542), (40981, 40981),
    (42232, 42237), (42508, 42508), (42623, 42623), (42652, 42653), (42752, 42785), (42864, 42864),
    (42888, 42890), (42994, 42996), (43000, 43001), (43471, 43471), (43494, 43494), (43632, 43632),
    (43741, 43741), (43763, 43764), (43867, 43871), (43881, 43883), (64434, 64450), (65043, 65043),
    (65106, 65106), (65109, 65109), (65279, 65279), (65287, 65287), (65294, 65294), (65306, 65306),
    (65342, 65342), (65344, 65344), (65392, 65392), (65438, 65439), (65507, 65507), (65529, 65531),
    (67456, 67461), (67463, 67504), (67506, 67514), (69821, 69821), (69837, 69837), (78896, 78904),
    (92992, 92995), (94099, 94111), (94176, 94177), (94179, 94179), (110576, 110579),
    (110581, 110587), (110589, 110590), (113824, 113827), (119155, 119162), (123191, 123197),
    (125259, 125259), (127995, 127999), (917505, 917505), (917536, 917631)]

/-- Whether a character is a letter of one case or the other. -/
def isCased (c : Char) : Bool :=
  small c.toNat != c.toNat || capital c.toNat != c.toNat || inRanges singleCaseRanges c.toNat

/-- Whether a character is passed over when the end of a word is looked for. -/
def isCasePassive (c : Char) : Bool :=
  inRanges markRanges c.toNat || inRanges casePassiveRanges c.toNat

/-- Whether a text goes on with a letter of one case or the other. -/
def continuesWord (text : List Char) : Bool :=
  (text.dropWhile isCasePassive).head?.any isCased

/-- The small form of a character between `before`, nearest first, and `after`. -/
def smallForm (before : List Char) (c : Char) (after : List Char) : List Char :=
  if c = '\u0130' then ['i', '\u0307']
  else if c = 'Σ' && continuesWord before && !continuesWord after then ['ς']
  else [lower c]

/-- The small forms of the characters after `before`. -/
def smallFrom (before : List Char) : List Char → List Char
  | [] => []
  | c :: rest => smallForm before c rest ++ smallFrom (c :: before) rest

/-- A text in small letters. -/
def smallText (text : List Char) : List Char :=
  smallFrom [] text

end IdlLint.Text
