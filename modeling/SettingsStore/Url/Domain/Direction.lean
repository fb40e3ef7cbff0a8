import SettingsStore.Url.Domain.Mark

/-!
# Writing direction in domain names

The bidirectional classes of the characters that domain names may contain, and the rule for labels
of names with right to left characters. Characters outside the table are left to right.
-/

namespace SettingsStore.Url.Domain

inductive Direction where
  | leftToRight
  | rightToLeft
  | arabicLetter
  | arabicNumber
  | europeanNumber
  | europeanSeparator
  | commonSeparator
  | europeanTerminator
  | otherNeutral
  | boundaryNeutral
  | mark
deriving DecidableEq, Repr

/-- Ranges of code points of one class: first, last, class. -/
def directionRuns : List (Nat × Nat × Direction) := [
  (161,161,.otherNeutral), (162,165,.europeanTerminator), (166,167,.otherNeutral),
  (169,174,.otherNeutral), (176,177,.europeanTerminator), (182,183,.otherNeutral),
  (187,187,.otherNeutral), (188,190,.commonSeparator), (191,191,.otherNeutral),
  (215,215,.otherNeutral), (247,247,.otherNeutral), (319,320,.otherNeutral),
  (697,698,.otherNeutral), (706,719,.otherNeutral), (722,727,.otherNeutral),
  (734,735,.otherNeutral), (741,749,.otherNeutral), (751,767,.otherNeutral),
  (884,885,.otherNeutral), (903,903,.otherNeutral), (1014,1014,.otherNeutral),
  (1418,1422,.otherNeutral), (1423,1423,.europeanTerminator), (1470,1470,.rightToLeft),
  (1472,1472,.rightToLeft), (1475,1475,.rightToLeft), (1478,1478,.rightToLeft),
  (1488,1524,.rightToLeft), (1542,1543,.otherNeutral), (1544,1544,.arabicLetter),
  (1545,1546,.europeanTerminator), (1547,1547,.arabicLetter), (1548,1548,.commonSeparator),
  (1549,1549,.arabicLetter), (1550,1551,.otherNeutral), (1563,1610,.arabicLetter),
  (1632,1641,.arabicNumber), (1642,1642,.europeanTerminator), (1643,1644,.arabicNumber),
  (1645,1647,.arabicLetter), (1649,1749,.arabicLetter), (1758,1758,.otherNeutral),
  (1765,1766,.arabicLetter), (1769,1769,.otherNeutral), (1774,1775,.arabicLetter),
  (1776,1785,.europeanNumber), (1786,1808,.arabicLetter), (1810,1839,.arabicLetter),
  (1869,1957,.arabicLetter), (1969,1969,.arabicLetter), (1984,2026,.rightToLeft),
  (2036,2037,.rightToLeft), (2038,2041,.otherNeutral), (2042,2042,.rightToLeft),
  (2046,2069,.rightToLeft), (2074,2074,.rightToLeft), (2084,2084,.rightToLeft),
  (2088,2088,.rightToLeft), (2096,2136,.rightToLeft), (2142,2142,.rightToLeft),
  (2144,2190,.arabicLetter), (2208,2249,.arabicLetter), (2546,2547,.europeanTerminator),
  (2555,2555,.europeanTerminator), (2801,2801,.europeanTerminator), (3059,3064,.otherNeutral),
  (3065,3065,.europeanTerminator), (3066,3066,.otherNeutral), (3192,3198,.otherNeutral),
  (3647,3647,.europeanTerminator), (3898,3901,.otherNeutral), (5008,5017,.otherNeutral),
  (5120,5120,.otherNeutral), (5787,5788,.otherNeutral), (6107,6107,.europeanTerminator),
  (6128,6154,.otherNeutral), (6464,6469,.otherNeutral), (6622,6655,.otherNeutral),
  (8204,8205,.boundaryNeutral), (8208,8214,.otherNeutral), (8216,8231,.otherNeutral),
  (8240,8244,.europeanTerminator), (8245,8253,.otherNeutral), (8255,8259,.otherNeutral),
  (8260,8260,.commonSeparator), (8261,8278,.otherNeutral), (8279,8279,.europeanTerminator),
  (8280,8286,.otherNeutral), (8315,8331,.europeanSeparator), (8352,8384,.europeanTerminator),
  (8451,8451,.europeanTerminator), (8452,8452,.otherNeutral), (8456,8456,.otherNeutral),
  (8457,8457,.europeanTerminator), (8468,8485,.otherNeutral), (8487,8489,.otherNeutral),
  (8494,8494,.europeanTerminator), (8501,8504,.rightToLeft), (8506,8506,.otherNeutral),
  (8512,8525,.otherNeutral), (8528,8543,.commonSeparator), (8585,8585,.commonSeparator),
  (8586,8721,.otherNeutral), (8722,8722,.europeanSeparator), (8723,8723,.europeanTerminator),
  (8724,9013,.otherNeutral), (9083,9108,.otherNeutral), (9110,9254,.otherNeutral),
  (9280,9899,.otherNeutral), (9901,10239,.otherNeutral), (10496,11157,.otherNeutral),
  (11159,11263,.otherNeutral), (11493,11498,.otherNeutral), (11513,11519,.otherNeutral),
  (11776,11934,.otherNeutral), (11936,12018,.otherNeutral), (12289,12292,.otherNeutral),
  (12296,12320,.otherNeutral), (12336,12336,.otherNeutral), (12342,12343,.otherNeutral),
  (12349,12351,.otherNeutral), (12448,12448,.otherNeutral), (12539,12539,.otherNeutral),
  (12736,12771,.otherNeutral), (13223,13231,.otherNeutral), (13254,13279,.otherNeutral),
  (19904,19967,.otherNeutral), (42128,42182,.otherNeutral), (42509,42511,.otherNeutral),
  (42611,42611,.otherNeutral), (42622,42623,.otherNeutral), (42752,42785,.otherNeutral),
  (42888,42888,.otherNeutral), (43048,43051,.otherNeutral), (43064,43065,.europeanTerminator),
  (43124,43127,.otherNeutral), (43882,43883,.otherNeutral), (64285,64285,.rightToLeft),
  (64287,64335,.rightToLeft), (64336,64450,.arabicLetter), (64467,64605,.arabicLetter),
  (64612,64829,.arabicLetter), (64830,64847,.otherNeutral), (64848,64911,.arabicLetter),
  (64914,64967,.arabicLetter), (64975,64975,.otherNeutral), (65008,65020,.arabicLetter),
  (65021,65048,.otherNeutral), (65073,65094,.otherNeutral), (65105,65118,.otherNeutral),
  (65137,65137,.arabicLetter), (65139,65139,.arabicLetter), (65143,65143,.arabicLetter),
  (65145,65145,.arabicLetter), (65147,65147,.arabicLetter), (65149,65149,.arabicLetter),
  (65151,65276,.arabicLetter), (65375,65381,.otherNeutral), (65504,65505,.europeanTerminator),
  (65506,65506,.otherNeutral), (65508,65508,.otherNeutral), (65509,65510,.europeanTerminator),
  (65512,65518,.otherNeutral), (65793,65793,.otherNeutral), (65856,65932,.otherNeutral),
  (65936,65952,.otherNeutral), (66273,66299,.europeanNumber), (67584,67867,.rightToLeft),
  (67871,67871,.otherNeutral), (67872,67903,.rightToLeft), (67968,68096,.rightToLeft),
  (68112,68149,.rightToLeft), (68160,68324,.rightToLeft), (68331,68405,.rightToLeft),
  (68409,68415,.otherNeutral), (68416,68863,.rightToLeft), (68864,68899,.arabicLetter),
  (68912,68921,.arabicNumber), (69216,69246,.arabicNumber), (69248,69289,.rightToLeft),
  (69293,69297,.rightToLeft), (69376,69415,.rightToLeft), (69424,69445,.arabicLetter),
  (69457,69465,.arabicLetter), (69488,69505,.rightToLeft), (69510,69622,.rightToLeft),
  (69714,69733,.otherNeutral), (71264,71276,.otherNeutral), (73685,73692,.otherNeutral),
  (73693,73696,.europeanTerminator), (73697,73713,.otherNeutral), (94178,94178,.otherNeutral),
  (119273,119361,.otherNeutral), (119365,119365,.otherNeutral), (119552,119638,.otherNeutral),
  (120513,120513,.otherNeutral), (120539,120539,.otherNeutral), (120571,120571,.otherNeutral),
  (120597,120597,.otherNeutral), (120629,120629,.otherNeutral), (120655,120655,.otherNeutral),
  (120687,120687,.otherNeutral), (120713,120713,.otherNeutral), (120745,120745,.otherNeutral),
  (120771,120771,.otherNeutral), (123647,123647,.europeanTerminator),
  (124928,125135,.rightToLeft), (125184,125251,.rightToLeft), (125259,125279,.rightToLeft),
  (126065,126651,.arabicLetter), (126704,127279,.otherNeutral), (127341,127343,.otherNeutral),
  (127405,127405,.otherNeutral), (127552,127560,.otherNeutral), (127584,128727,.otherNeutral),
  (128733,128883,.otherNeutral), (128896,128984,.otherNeutral), (128992,129201,.otherNeutral),
  (129280,129619,.otherNeutral), (129632,129652,.otherNeutral), (129656,129670,.otherNeutral),
  (129680,129708,.otherNeutral), (129712,129722,.otherNeutral), (129728,129733,.otherNeutral),
  (129744,129753,.otherNeutral), (129760,129767,.otherNeutral), (129776,129782,.otherNeutral),
  (129792,129994,.otherNeutral)
]

def asciiDirection (c : Char) : Direction :=
  if c.isDigit then .europeanNumber
  else if c.isAlpha then .leftToRight
  else if c = '+' ∨ c = '-' then .europeanSeparator
  else if c = ',' ∨ c = '.' ∨ c = '/' ∨ c = ':' then .commonSeparator
  else if c = '#' ∨ c = '$' ∨ c = '%' then .europeanTerminator
  else .otherNeutral

def direction (c : Char) : Direction :=
  if c.toNat < 128 then asciiDirection c
  else match directionRuns.find? fun (first, last, _) => first ≤ c.toNat && c.toNat ≤ last with
    | some (_, _, d) => d
    | none => if isMark c then .mark else .leftToRight

def Direction.isRightToLeft (d : Direction) : Bool :=
  d == .rightToLeft || d == .arabicLetter || d == .arabicNumber

/-- Classes that may stand in a label of either direction. -/
def Direction.isShared (d : Direction) : Bool :=
  d == .europeanNumber || d == .europeanSeparator || d == .commonSeparator
    || d == .europeanTerminator || d == .otherNeutral || d == .boundaryNeutral || d == .mark

/-- The rule for one label of a name in which some character runs from right to left. -/
def obeysDirection (label : List Char) : Bool :=
  let ds := label.map direction
  let last? := (ds.reverse.dropWhile (· == .mark)).head?
  match ds with
  | [] => true
  | first :: _ =>
    if first == .rightToLeft || first == .arabicLetter then
      ds.all (fun d => d.isRightToLeft || d.isShared)
        && (last? == some .rightToLeft || last? == some .arabicLetter
          || last? == some .europeanNumber || last? == some .arabicNumber)
        && !(ds.contains .europeanNumber && ds.contains .arabicNumber)
    else if first == .leftToRight then
      ds.all (fun d => d == .leftToRight || d.isShared)
        && (last? == some .leftToRight || last? == some .europeanNumber)
    else false

end SettingsStore.Url.Domain
