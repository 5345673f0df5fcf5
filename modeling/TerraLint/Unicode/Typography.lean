import TerraLint.Unicode.Symbol

/-!
# Typography

Characters by their role in a written line: dashes, quotes, ends of sentences, accents, spaces.
-/

namespace TerraLint.Unicode

/-- Dashes of all kinds, and signs that look like them. -/
def dashMarks : Intervals :=
  [(45, 45), (1418, 1418), (1470, 1470), (5120, 5120), (6150, 6150), (8208, 8213), (8275, 8275),
   (8315, 8315), (8331, 8331), (8722, 8722), (11799, 11799), (11802, 11802), (11834, 11835),
   (11840, 11840), (11869, 11869), (12316, 12316), (12336, 12336), (12448, 12448), (65073, 65074),
   (65112, 65112), (65123, 65123), (65293, 65293), (68974, 68974), (69293, 69293)]

/-- Hyphens. -/
def hyphens : Intervals :=
  [(45, 45), (173, 173), (1418, 1418), (6150, 6150), (8208, 8209), (11799, 11799), (12539, 12539),
   (65123, 65123), (65293, 65293), (65381, 65381)]

/-- Quotation marks. -/
def quotationMarks : Intervals :=
  [(34, 34), (39, 39), (171, 171), (187, 187), (8216, 8223), (8249, 8250), (11842, 11842),
   (12300, 12303), (12317, 12319), (65089, 65092), (65282, 65282), (65287, 65287), (65378, 65379)]

/-- Marks at the end of a unit of text. -/
def terminalMarks : Intervals :=
  [(33, 33), (44, 44), (46, 46), (58, 59), (63, 63), (894, 894), (903, 903), (1417, 1417),
   (1475, 1475), (1548, 1548), (1563, 1563), (1565, 1567), (1748, 1748), (1792, 1802), (1804, 1804),
   (2040, 2041), (2096, 2101), (2103, 2110), (2142, 2142), (2404, 2405), (3674, 3675), (3848, 3848),
   (3853, 3858), (4170, 4171), (4961, 4968), (5742, 5742), (5867, 5869), (5941, 5942), (6100, 6102),
   (6106, 6106), (6146, 6149), (6152, 6153), (6468, 6469), (6824, 6827), (6990, 6991), (7002, 7003),
   (7005, 7007), (7037, 7039), (7227, 7231), (7294, 7295), (8228, 8228), (8252, 8253), (8263, 8265),
   (11513, 11515), (11822, 11822), (11836, 11836), (11841, 11841), (11852, 11852), (11854, 11855),
   (11859, 11860), (12289, 12290), (42238, 42239), (42509, 42511), (42739, 42743), (43126, 43127),
   (43214, 43215), (43311, 43311), (43463, 43465), (43613, 43615), (43743, 43743), (43760, 43761),
   (44011, 44011), (65042, 65042), (65045, 65046), (65104, 65106), (65108, 65111), (65281, 65281),
   (65292, 65292), (65294, 65294), (65306, 65307), (65311, 65311), (65377, 65377), (65380, 65380),
   (66463, 66463), (66512, 66512), (67671, 67671), (67871, 67871), (68182, 68183), (68336, 68341),
   (68410, 68415), (68505, 68508), (69461, 69465), (69510, 69513), (69703, 69709), (69822, 69825),
   (69953, 69955), (70085, 70086), (70093, 70093), (70110, 70111), (70200, 70204), (70313, 70313),
   (70612, 70613), (70731, 70733), (70746, 70747), (71106, 71109), (71113, 71127), (71233, 71234),
   (71484, 71486), (72004, 72004), (72006, 72006), (72258, 72259), (72347, 72348), (72353, 72354),
   (72769, 72771), (72817, 72817), (73463, 73464), (73539, 73540), (74864, 74868), (92782, 92783),
   (92917, 92917), (92983, 92985), (92996, 92996), (93550, 93551), (93847, 93848), (113823, 113823),
   (121479, 121482)]

/-- Marks at the end of a sentence. -/
def sentenceEnds : Intervals :=
  [(33, 33), (46, 46), (63, 63), (1417, 1417), (1565, 1567), (1748, 1748), (1792, 1794),
   (2041, 2041), (2103, 2103), (2105, 2105), (2109, 2110), (2404, 2405), (4170, 4171), (4962, 4962),
   (4967, 4968), (5742, 5742), (5941, 5942), (6100, 6101), (6147, 6147), (6153, 6153), (6468, 6469),
   (6824, 6827), (6990, 6991), (7002, 7003), (7006, 7007), (7037, 7039), (7227, 7228), (7294, 7295),
   (8228, 8228), (8252, 8253), (8263, 8265), (11513, 11515), (11822, 11822), (11836, 11836),
   (11859, 11860), (12290, 12290), (42239, 42239), (42510, 42511), (42739, 42739), (42743, 42743),
   (43126, 43127), (43214, 43215), (43311, 43311), (43464, 43465), (43613, 43615), (43760, 43761),
   (44011, 44011), (65042, 65042), (65045, 65046), (65106, 65106), (65110, 65111), (65281, 65281),
   (65294, 65294), (65311, 65311), (65377, 65377), (68182, 68183), (69461, 69465), (69510, 69513),
   (69703, 69704), (69822, 69825), (69953, 69955), (70085, 70086), (70093, 70093), (70110, 70111),
   (70200, 70201), (70203, 70204), (70313, 70313), (70612, 70613), (70731, 70732), (71106, 71107),
   (71113, 71127), (71233, 71234), (71484, 71486), (72004, 72004), (72006, 72006), (72258, 72259),
   (72347, 72348), (72769, 72770), (73463, 73464), (73539, 73540), (92782, 92783), (92917, 92917),
   (92983, 92984), (92996, 92996), (93550, 93551), (93848, 93848), (113823, 113823),
   (121480, 121480)]

/-- Characters that are reversed in text written from right to left. -/
def reversedInBidi : Intervals :=
  [(40, 41), (60, 60), (62, 62), (91, 91), (93, 93), (123, 123), (125, 125), (171, 171), (187, 187),
   (3898, 3901), (5787, 5788), (8249, 8250), (8261, 8262), (8317, 8318), (8333, 8334), (8512, 8512),
   (8705, 8708), (8712, 8717), (8721, 8721), (8725, 8726), (8730, 8733), (8735, 8738), (8740, 8740),
   (8742, 8742), (8747, 8755), (8761, 8761), (8763, 8780), (8786, 8789), (8799, 8800), (8802, 8802),
   (8804, 8811), (8813, 8844), (8847, 8850), (8856, 8856), (8866, 8867), (8870, 8888), (8894, 8895),
   (8905, 8909), (8912, 8913), (8918, 8941), (8944, 8959), (8968, 8971), (8992, 8993), (9001, 9002),
   (10088, 10101), (10176, 10176), (10179, 10182), (10184, 10185), (10187, 10189), (10195, 10198),
   (10204, 10206), (10210, 10223), (10627, 10648), (10651, 10656), (10658, 10671), (10680, 10680),
   (10688, 10693), (10697, 10697), (10702, 10706), (10708, 10709), (10712, 10716), (10721, 10721),
   (10723, 10725), (10728, 10729), (10740, 10745), (10748, 10749), (10762, 10780), (10782, 10785),
   (10788, 10788), (10790, 10790), (10793, 10793), (10795, 10798), (10804, 10805), (10812, 10814),
   (10839, 10840), (10852, 10853), (10858, 10861), (10863, 10864), (10867, 10868), (10873, 10915),
   (10918, 10925), (10927, 10966), (10972, 10972), (10974, 10974), (10978, 10982), (10988, 10990),
   (10995, 10995), (10999, 11003), (11005, 11005), (11262, 11262), (11778, 11781), (11785, 11786),
   (11788, 11789), (11804, 11805), (11808, 11817), (11861, 11868), (12296, 12305), (12308, 12315),
   (65113, 65118), (65124, 65125), (65288, 65289), (65308, 65308), (65310, 65310), (65339, 65339),
   (65341, 65341), (65371, 65371), (65373, 65373), (65375, 65376), (65378, 65379), (120539, 120539),
   (120597, 120597), (120655, 120655), (120713, 120713), (120771, 120771)]

/-- Characters that change the sound of another one. -/
def diacritics : Intervals :=
  [(94, 94), (96, 96), (168, 168), (175, 175), (180, 180), (183, 184), (688, 846), (848, 855),
   (861, 866), (884, 885), (890, 890), (900, 901), (1155, 1159), (1369, 1369), (1425, 1469),
   (1471, 1471), (1473, 1474), (1476, 1477), (1479, 1479), (1611, 1618), (1623, 1624), (1759, 1760),
   (1765, 1766), (1770, 1772), (1840, 1866), (1958, 1968), (2027, 2037), (2072, 2073), (2200, 2207),
   (2249, 2258), (2275, 2302), (2364, 2364), (2381, 2381), (2385, 2388), (2417, 2417), (2492, 2492),
   (2509, 2509), (2620, 2620), (2637, 2637), (2748, 2748), (2765, 2765), (2813, 2815), (2876, 2876),
   (2893, 2893), (2901, 2901), (3021, 3021), (3132, 3132), (3149, 3149), (3260, 3260), (3277, 3277),
   (3387, 3388), (3405, 3405), (3530, 3530), (3642, 3642), (3655, 3660), (3662, 3662), (3770, 3770),
   (3784, 3788), (3864, 3865), (3893, 3893), (3895, 3895), (3897, 3897), (3902, 3903), (3970, 3972),
   (3974, 3975), (4038, 4038), (4151, 4151), (4153, 4154), (4195, 4196), (4201, 4205), (4231, 4237),
   (4239, 4239), (4250, 4251), (4957, 4959), (5908, 5909), (5940, 5940), (6089, 6099), (6109, 6109),
   (6457, 6459), (6752, 6752), (6773, 6780), (6783, 6783), (6832, 6846), (6849, 6859), (6964, 6964),
   (6980, 6980), (7019, 7027), (7082, 7083), (7142, 7142), (7154, 7155), (7222, 7223), (7288, 7293),
   (7376, 7400), (7405, 7405), (7412, 7412), (7415, 7417), (7468, 7530), (7579, 7614), (7620, 7631),
   (7669, 7679), (8125, 8125), (8127, 8129), (8141, 8143), (8157, 8159), (8173, 8175), (8189, 8190),
   (11503, 11505), (11823, 11823), (12330, 12335), (12441, 12444), (12540, 12540), (42607, 42607),
   (42620, 42621), (42623, 42623), (42652, 42653), (42736, 42737), (42752, 42785), (42888, 42890),
   (43000, 43001), (43014, 43014), (43052, 43052), (43204, 43204), (43232, 43249), (43307, 43310),
   (43347, 43347), (43443, 43443), (43456, 43456), (43493, 43493), (43643, 43645), (43711, 43714),
   (43766, 43766), (43867, 43871), (43881, 43883), (44012, 44013), (64286, 64286), (65056, 65071),
   (65342, 65342), (65344, 65344), (65392, 65392), (65438, 65439), (65507, 65507), (66272, 66272),
   (67456, 67461), (67463, 67504), (67506, 67514), (68152, 68154), (68159, 68159), (68325, 68326),
   (68898, 68903), (68942, 68942), (68969, 68973), (69373, 69375), (69446, 69456), (69506, 69509),
   (69702, 69702), (69744, 69744), (69817, 69818), (69939, 69940), (70003, 70003), (70080, 70080),
   (70090, 70092), (70197, 70198), (70377, 70378), (70459, 70460), (70477, 70477), (70502, 70508),
   (70512, 70516), (70606, 70608), (70610, 70611), (70625, 70626), (70722, 70722), (70726, 70726),
   (70850, 70851), (71103, 71104), (71231, 71231), (71350, 71351), (71467, 71467), (71737, 71738),
   (71997, 71998), (72003, 72003), (72160, 72160), (72244, 72244), (72263, 72263), (72345, 72345),
   (72767, 72767), (73026, 73026), (73028, 73029), (73111, 73111), (73537, 73538), (73562, 73562),
   (78919, 78933), (90415, 90415), (92912, 92916), (92976, 92982), (93547, 93548), (94095, 94111),
   (94192, 94193), (110576, 110579), (110581, 110587), (110589, 110590), (118528, 118573),
   (118576, 118598), (119143, 119145), (119149, 119154), (119163, 119170), (119173, 119179),
   (119210, 119213), (122928, 122989), (123184, 123190), (123566, 123566), (123628, 123631),
   (124398, 124399), (125136, 125142), (125252, 125254), (125256, 125258)]

/-- Characters that lengthen or repeat another one. -/
def extenders : Intervals :=
  [(183, 183), (720, 721), (1600, 1600), (2042, 2042), (2673, 2673), (2811, 2811), (2901, 2901),
   (3654, 3654), (3782, 3782), (6154, 6154), (6211, 6211), (6823, 6823), (7222, 7222), (7291, 7291),
   (12293, 12293), (12337, 12341), (12445, 12446), (12540, 12542), (40981, 40981), (42508, 42508),
   (43471, 43471), (43494, 43494), (43632, 43632), (43741, 43741), (43763, 43764), (65392, 65392),
   (67457, 67458), (68942, 68942), (68970, 68970), (68975, 68975), (70199, 70199), (70493, 70493),
   (70610, 70611), (71110, 71112), (72344, 72344), (92994, 92995), (94176, 94177), (94179, 94179),
   (123196, 123197), (124399, 124399), (125252, 125254)]

/-- Characters whose dot gives way to an accent. -/
def softDotted : Intervals :=
  [(105, 106), (303, 303), (585, 585), (616, 616), (669, 669), (690, 690), (1011, 1011),
   (1110, 1110), (1112, 1112), (7522, 7522), (7574, 7574), (7588, 7588), (7592, 7592), (7725, 7725),
   (7883, 7883), (8305, 8305), (8520, 8521), (11388, 11388), (119842, 119843), (119894, 119895),
   (119946, 119947), (119998, 119999), (120050, 120051), (120102, 120103), (120154, 120155),
   (120206, 120207), (120258, 120259), (120310, 120311), (120362, 120363), (120414, 120415),
   (120466, 120467), (122650, 122650), (122956, 122957), (122984, 122984)]

/-- Characters of mathematics that are no mathematical symbols. -/
def otherMath : Intervals :=
  [(94, 94), (976, 978), (981, 981), (1008, 1009), (1012, 1013), (8214, 8214), (8242, 8244),
   (8256, 8256), (8289, 8292), (8317, 8318), (8333, 8334), (8400, 8412), (8417, 8417), (8421, 8422),
   (8427, 8431), (8450, 8450), (8455, 8455), (8458, 8467), (8469, 8469), (8473, 8477), (8484, 8484),
   (8488, 8489), (8492, 8493), (8495, 8497), (8499, 8504), (8508, 8511), (8517, 8521), (8597, 8601),
   (8604, 8607), (8609, 8610), (8612, 8613), (8615, 8615), (8617, 8621), (8624, 8625), (8630, 8631),
   (8636, 8653), (8656, 8657), (8659, 8659), (8661, 8667), (8669, 8669), (8676, 8677), (8968, 8971),
   (9140, 9141), (9143, 9143), (9168, 9168), (9186, 9186), (9632, 9633), (9646, 9654), (9660, 9664),
   (9670, 9671), (9674, 9675), (9679, 9683), (9698, 9698), (9700, 9700), (9703, 9708), (9733, 9734),
   (9792, 9792), (9794, 9794), (9824, 9827), (9837, 9838), (10181, 10182), (10214, 10223),
   (10627, 10648), (10712, 10715), (10748, 10749), (65121, 65121), (65123, 65123), (65128, 65128),
   (65340, 65340), (65342, 65342), (119808, 119892), (119894, 119964), (119966, 119967),
   (119970, 119970), (119973, 119974), (119977, 119980), (119982, 119993), (119995, 119995),
   (119997, 120003), (120005, 120069), (120071, 120074), (120077, 120084), (120086, 120092),
   (120094, 120121), (120123, 120126), (120128, 120132), (120134, 120134), (120138, 120144),
   (120146, 120485), (120488, 120512), (120514, 120538), (120540, 120570), (120572, 120596),
   (120598, 120628), (120630, 120654), (120656, 120686), (120688, 120712), (120714, 120744),
   (120746, 120770), (120772, 120779), (120782, 120831), (126464, 126467), (126469, 126495),
   (126497, 126498), (126500, 126500), (126503, 126503), (126505, 126514), (126516, 126519),
   (126521, 126521), (126523, 126523), (126530, 126530), (126535, 126535), (126537, 126537),
   (126539, 126539), (126541, 126543), (126545, 126546), (126548, 126548), (126551, 126551),
   (126553, 126553), (126555, 126555), (126557, 126557), (126559, 126559), (126561, 126562),
   (126564, 126564), (126567, 126570), (126572, 126578), (126580, 126583), (126585, 126588),
   (126590, 126590), (126592, 126601), (126603, 126619), (126625, 126627), (126629, 126633),
   (126635, 126651)]

/-- Characters with a meaning in patterns. -/
def patternSyntax : Intervals :=
  [(33, 47), (58, 64), (91, 94), (96, 96), (123, 126), (161, 167), (169, 169), (171, 172),
   (174, 174), (176, 177), (182, 182), (187, 187), (191, 191), (215, 215), (247, 247), (8208, 8231),
   (8240, 8254), (8257, 8275), (8277, 8286), (8592, 9311), (9472, 10101), (10132, 11263),
   (11776, 11903), (12289, 12291), (12296, 12320), (12336, 12336), (64830, 64831), (65093, 65094)]

/-- White space in patterns. -/
def patternSpace : Intervals :=
  [(9, 13), (32, 32), (133, 133), (8206, 8207), (8232, 8233)]

/-- White space. -/
def whiteSpace : Intervals :=
  [(9, 13), (32, 32), (133, 133), (160, 160), (5760, 5760), (8192, 8202), (8232, 8233),
   (8239, 8239), (8287, 8287), (12288, 12288)]

/-- Hexadecimal digits. -/
def hexDigits : Intervals :=
  [(48, 57), (65, 70), (97, 102), (65296, 65305), (65313, 65318), (65345, 65350)]

/-- Characters of mathematics. -/
def mathematical : Intervals := otherMath.union mathSymbols

end TerraLint.Unicode
