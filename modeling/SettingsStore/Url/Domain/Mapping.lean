import SettingsStore.Text.Unprintable

/-!
# Compatibility mapping of domain names

Characters beyond ASCII whose mapping for internationalised domain names contains ASCII, such as full
width letters, and characters that the mapping removes. A mapping from one letter beyond ASCII to
another changes neither whether a name is sound nor whether it is plain, and is not made here.
-/

namespace SettingsStore.Url.Domain

open Text (CodePoints)

/-- Code points that map to ASCII characters in the same order: first, last, image of the first. -/
def asciiRuns : List (Nat × Nat × Nat) := [
  (160,160,32), (170,170,97), (178,179,50), (185,185,49), (186,186,111), (383,383,115),
  (688,688,104), (690,690,106), (691,691,114), (695,695,119), (696,696,121), (737,737,108),
  (738,738,115), (739,739,120), (894,894,59), (7468,7468,97), (7470,7470,98), (7472,7473,100),
  (7475,7482,103), (7484,7484,111), (7486,7486,112), (7487,7487,114), (7488,7489,116),
  (7490,7490,119), (7491,7491,97), (7495,7495,98), (7496,7497,100), (7501,7501,103),
  (7503,7503,107), (7504,7504,109), (7506,7506,111), (7510,7510,112), (7511,7512,116),
  (7515,7515,118), (7522,7522,105), (7523,7523,114), (7524,7525,117), (7580,7580,99),
  (7584,7584,102), (7611,7611,122), (8175,8175,96), (8192,8192,32), (8193,8193,32),
  (8194,8194,32), (8195,8195,32), (8196,8196,32), (8197,8197,32), (8198,8198,32), (8199,8199,32),
  (8200,8200,32), (8201,8201,32), (8202,8202,32), (8239,8239,32), (8287,8287,32), (8304,8304,48),
  (8305,8305,105), (8308,8313,52), (8314,8314,43), (8316,8316,61), (8317,8318,40),
  (8319,8319,110), (8320,8329,48), (8330,8330,43), (8332,8332,61), (8333,8334,40),
  (8336,8336,97), (8337,8337,101), (8338,8338,111), (8339,8339,120), (8341,8341,104),
  (8342,8345,107), (8346,8346,112), (8347,8348,115), (8450,8450,99), (8458,8459,103),
  (8460,8460,104), (8461,8461,104), (8462,8462,104), (8464,8464,105), (8465,8465,105),
  (8466,8466,108), (8467,8467,108), (8469,8469,110), (8473,8475,112), (8476,8476,114),
  (8477,8477,114), (8484,8484,122), (8488,8488,122), (8490,8490,107), (8492,8493,98),
  (8495,8495,101), (8496,8497,101), (8499,8499,109), (8500,8500,111), (8505,8505,105),
  (8517,8517,100), (8518,8519,100), (8520,8521,105), (8544,8544,105), (8548,8548,118),
  (8553,8553,120), (8556,8556,108), (8557,8558,99), (8559,8559,109), (8560,8560,105),
  (8564,8564,118), (8569,8569,120), (8572,8572,108), (8573,8574,99), (8575,8575,109),
  (9312,9320,49), (9398,9423,97), (9424,9449,97), (9450,9450,48), (11388,11388,106),
  (11389,11389,118), (12288,12288,32), (12290,12290,46), (42993,42993,115), (42994,42994,99),
  (42995,42995,102), (42996,42996,113), (64297,64297,43), (65040,65040,44), (65043,65044,58),
  (65045,65045,33), (65046,65046,63), (65075,65075,95), (65076,65076,95), (65077,65078,40),
  (65079,65079,123), (65080,65080,125), (65095,65095,91), (65096,65096,93), (65101,65101,95),
  (65102,65102,95), (65103,65103,95), (65104,65104,44), (65108,65108,59), (65109,65109,58),
  (65110,65110,63), (65111,65111,33), (65113,65114,40), (65115,65115,123), (65116,65116,125),
  (65119,65119,35), (65120,65120,38), (65121,65122,42), (65123,65123,45), (65124,65124,60),
  (65125,65125,62), (65126,65126,61), (65128,65128,92), (65129,65130,36), (65131,65131,64),
  (65281,65312,33), (65313,65338,97), (65339,65374,91), (65377,65377,46), (67493,67493,113),
  (117974,117999,97), (118000,118009,48), (119808,119833,97), (119834,119859,97),
  (119860,119885,97), (119886,119892,97), (119894,119911,105), (119912,119937,97),
  (119938,119963,97), (119964,119964,97), (119966,119967,99), (119970,119970,103),
  (119973,119974,106), (119977,119980,110), (119982,119989,115), (119990,119993,97),
  (119995,119995,102), (119997,120003,104), (120005,120015,112), (120016,120041,97),
  (120042,120067,97), (120068,120069,97), (120071,120074,100), (120077,120084,106),
  (120086,120092,115), (120094,120119,97), (120120,120121,97), (120123,120126,100),
  (120128,120132,105), (120134,120134,111), (120138,120144,115), (120146,120171,97),
  (120172,120197,97), (120198,120223,97), (120224,120249,97), (120250,120275,97),
  (120276,120301,97), (120302,120327,97), (120328,120353,97), (120354,120379,97),
  (120380,120405,97), (120406,120431,97), (120432,120457,97), (120458,120483,97),
  (120782,120791,48), (120792,120801,48), (120802,120811,48), (120812,120821,48),
  (120822,120831,48), (127275,127275,99), (127276,127276,114), (127280,127305,97),
  (130032,130041,48)
]

/-- Code points that map to several characters. -/
def sequences : List (Nat × List Nat) := [
  (168,[32,776]), (175,[32,772]), (180,[32,769]), (184,[32,807]), (188,[49,8260,52]),
  (189,[49,8260,50]), (190,[51,8260,52]), (304,[105,775]), (306,[105,106]), (307,[105,106]),
  (319,[108,183]), (320,[108,183]), (329,[700,110]), (452,[100,382]), (453,[100,382]),
  (454,[100,382]), (455,[108,106]), (456,[108,106]), (457,[108,106]), (458,[110,106]),
  (459,[110,106]), (460,[110,106]), (497,[100,122]), (498,[100,122]), (499,[100,122]),
  (728,[32,774]), (729,[32,775]), (730,[32,778]), (731,[32,808]), (732,[32,771]), (733,[32,779]),
  (890,[32,953]), (900,[32,769]), (901,[32,776,769]), (7834,[97,702]), (8125,[32,787]),
  (8127,[32,787]), (8128,[32,834]), (8129,[32,776,834]), (8141,[32,787,768]),
  (8142,[32,787,769]), (8143,[32,787,834]), (8157,[32,788,768]), (8158,[32,788,769]),
  (8159,[32,788,834]), (8173,[32,776,768]), (8174,[32,776,769]), (8189,[32,769]),
  (8190,[32,788]), (8215,[32,819]), (8252,[33,33]), (8254,[32,773]), (8263,[63,63]),
  (8264,[63,33]), (8265,[33,63]), (8360,[114,115]), (8448,[97,47,99]), (8449,[97,47,115]),
  (8451,[176,99]), (8453,[99,47,111]), (8454,[99,47,117]), (8457,[176,102]), (8470,[110,111]),
  (8480,[115,109]), (8481,[116,101,108]), (8482,[116,109]), (8507,[102,97,120]),
  (8528,[49,8260,55]), (8529,[49,8260,57]), (8530,[49,8260,49,48]), (8531,[49,8260,51]),
  (8532,[50,8260,51]), (8533,[49,8260,53]), (8534,[50,8260,53]), (8535,[51,8260,53]),
  (8536,[52,8260,53]), (8537,[49,8260,54]), (8538,[53,8260,54]), (8539,[49,8260,56]),
  (8540,[51,8260,56]), (8541,[53,8260,56]), (8542,[55,8260,56]), (8543,[49,8260]),
  (8545,[105,105]), (8546,[105,105,105]), (8547,[105,118]), (8549,[118,105]),
  (8550,[118,105,105]), (8551,[118,105,105,105]), (8552,[105,120]), (8554,[120,105]),
  (8555,[120,105,105]), (8561,[105,105]), (8562,[105,105,105]), (8563,[105,118]),
  (8565,[118,105]), (8566,[118,105,105]), (8567,[118,105,105,105]), (8568,[105,120]),
  (8570,[120,105]), (8571,[120,105,105]), (8585,[48,8260,51]), (9321,[49,48]), (9322,[49,49]),
  (9323,[49,50]), (9324,[49,51]), (9325,[49,52]), (9326,[49,53]), (9327,[49,54]), (9328,[49,55]),
  (9329,[49,56]), (9330,[49,57]), (9331,[50,48]), (9332,[40,49,41]), (9333,[40,50,41]),
  (9334,[40,51,41]), (9335,[40,52,41]), (9336,[40,53,41]), (9337,[40,54,41]), (9338,[40,55,41]),
  (9339,[40,56,41]), (9340,[40,57,41]), (9341,[40,49,48,41]), (9342,[40,49,49,41]),
  (9343,[40,49,50,41]), (9344,[40,49,51,41]), (9345,[40,49,52,41]), (9346,[40,49,53,41]),
  (9347,[40,49,54,41]), (9348,[40,49,55,41]), (9349,[40,49,56,41]), (9350,[40,49,57,41]),
  (9351,[40,50,48,41]), (9372,[40,97,41]), (9373,[40,98,41]), (9374,[40,99,41]),
  (9375,[40,100,41]), (9376,[40,101,41]), (9377,[40,102,41]), (9378,[40,103,41]),
  (9379,[40,104,41]), (9380,[40,105,41]), (9381,[40,106,41]), (9382,[40,107,41]),
  (9383,[40,108,41]), (9384,[40,109,41]), (9385,[40,110,41]), (9386,[40,111,41]),
  (9387,[40,112,41]), (9388,[40,113,41]), (9389,[40,114,41]), (9390,[40,115,41]),
  (9391,[40,116,41]), (9392,[40,117,41]), (9393,[40,118,41]), (9394,[40,119,41]),
  (9395,[40,120,41]), (9396,[40,121,41]), (9397,[40,122,41]), (10868,[58,58,61]),
  (10869,[61,61]), (10870,[61,61,61]), (12443,[32,12441]), (12444,[32,12442]),
  (12800,[40,4352,41]), (12801,[40,4354,41]), (12802,[40,4355,41]), (12803,[40,4357,41]),
  (12804,[40,4358,41]), (12805,[40,4359,41]), (12806,[40,4361,41]), (12807,[40,4363,41]),
  (12808,[40,4364,41]), (12809,[40,4366,41]), (12810,[40,4367,41]), (12811,[40,4368,41]),
  (12812,[40,4369,41]), (12813,[40,4370,41]), (12814,[40,44032,41]), (12815,[40,45208,41]),
  (12816,[40,45796,41]), (12817,[40,46972,41]), (12818,[40,47560,41]), (12819,[40,48148,41]),
  (12820,[40,49324,41]), (12821,[40,50500,41]), (12822,[40,51088,41]), (12823,[40,52264,41]),
  (12824,[40,52852,41]), (12825,[40,53440,41]), (12826,[40,54028,41]), (12827,[40,54616,41]),
  (12828,[40,51452,41]), (12829,[40,50724,51204,41]), (12830,[40,50724,54980,41]),
  (12832,[40,19968,41]), (12833,[40,20108,41]), (12834,[40,19977,41]), (12835,[40,22235,41]),
  (12836,[40,20116,41]), (12837,[40,20845,41]), (12838,[40,19971,41]), (12839,[40,20843,41]),
  (12840,[40,20061,41]), (12841,[40,21313,41]), (12842,[40,26376,41]), (12843,[40,28779,41]),
  (12844,[40,27700,41]), (12845,[40,26408,41]), (12846,[40,37329,41]), (12847,[40,22303,41]),
  (12848,[40,26085,41]), (12849,[40,26666,41]), (12850,[40,26377,41]), (12851,[40,31038,41]),
  (12852,[40,21517,41]), (12853,[40,29305,41]), (12854,[40,36001,41]), (12855,[40,31069,41]),
  (12856,[40,21172,41]), (12857,[40,20195,41]), (12858,[40,21628,41]), (12859,[40,23398,41]),
  (12860,[40,30435,41]), (12861,[40,20225,41]), (12862,[40,36039,41]), (12863,[40,21332,41]),
  (12864,[40,31085,41]), (12865,[40,20241,41]), (12866,[40,33258,41]), (12867,[40,33267,41]),
  (12880,[112,116,101]), (12881,[50,49]), (12882,[50,50]), (12883,[50,51]), (12884,[50,52]),
  (12885,[50,53]), (12886,[50,54]), (12887,[50,55]), (12888,[50,56]), (12889,[50,57]),
  (12890,[51,48]), (12891,[51,49]), (12892,[51,50]), (12893,[51,51]), (12894,[51,52]),
  (12895,[51,53]), (12977,[51,54]), (12978,[51,55]), (12979,[51,56]), (12980,[51,57]),
  (12981,[52,48]), (12982,[52,49]), (12983,[52,50]), (12984,[52,51]), (12985,[52,52]),
  (12986,[52,53]), (12987,[52,54]), (12988,[52,55]), (12989,[52,56]), (12990,[52,57]),
  (12991,[53,48]), (12992,[49,26376]), (12993,[50,26376]), (12994,[51,26376]),
  (12995,[52,26376]), (12996,[53,26376]), (12997,[54,26376]), (12998,[55,26376]),
  (12999,[56,26376]), (13000,[57,26376]), (13001,[49,48,26376]), (13002,[49,49,26376]),
  (13003,[49,50,26376]), (13004,[104,103]), (13005,[101,114,103]), (13006,[101,118]),
  (13007,[108,116,100]), (13144,[48,28857]), (13145,[49,28857]), (13146,[50,28857]),
  (13147,[51,28857]), (13148,[52,28857]), (13149,[53,28857]), (13150,[54,28857]),
  (13151,[55,28857]), (13152,[56,28857]), (13153,[57,28857]), (13154,[49,48,28857]),
  (13155,[49,49,28857]), (13156,[49,50,28857]), (13157,[49,51,28857]), (13158,[49,52,28857]),
  (13159,[49,53,28857]), (13160,[49,54,28857]), (13161,[49,55,28857]), (13162,[49,56,28857]),
  (13163,[49,57,28857]), (13164,[50,48,28857]), (13165,[50,49,28857]), (13166,[50,50,28857]),
  (13167,[50,51,28857]), (13168,[50,52,28857]), (13169,[104,112,97]), (13170,[100,97]),
  (13171,[97,117]), (13172,[98,97,114]), (13173,[111,118]), (13174,[112,99]), (13175,[100,109]),
  (13176,[100,109,50]), (13177,[100,109,51]), (13178,[105,117]), (13184,[112,97]),
  (13185,[110,97]), (13186,[956,97]), (13187,[109,97]), (13188,[107,97]), (13189,[107,98]),
  (13190,[109,98]), (13191,[103,98]), (13192,[99,97,108]), (13193,[107,99,97,108]),
  (13194,[112,102]), (13195,[110,102]), (13196,[956,102]), (13197,[956,103]), (13198,[109,103]),
  (13199,[107,103]), (13200,[104,122]), (13201,[107,104,122]), (13202,[109,104,122]),
  (13203,[103,104,122]), (13204,[116,104,122]), (13205,[956,108]), (13206,[109,108]),
  (13207,[100,108]), (13208,[107,108]), (13209,[102,109]), (13210,[110,109]), (13211,[956,109]),
  (13212,[109,109]), (13213,[99,109]), (13214,[107,109]), (13215,[109,109,50]),
  (13216,[99,109,50]), (13217,[109,50]), (13218,[107,109,50]), (13219,[109,109,51]),
  (13220,[99,109,51]), (13221,[109,51]), (13222,[107,109,51]), (13223,[109,8725,115]),
  (13224,[109,8725,115,50]), (13225,[112,97]), (13226,[107,112,97]), (13227,[109,112,97]),
  (13228,[103,112,97]), (13229,[114,97,100]), (13230,[114,97,100,8725,115]),
  (13231,[114,97,100,8725,115,50]), (13232,[112,115]), (13233,[110,115]), (13234,[956,115]),
  (13235,[109,115]), (13236,[112,118]), (13237,[110,118]), (13238,[956,118]), (13239,[109,118]),
  (13240,[107,118]), (13241,[109,118]), (13242,[112,119]), (13243,[110,119]), (13244,[956,119]),
  (13245,[109,119]), (13246,[107,119]), (13247,[109,119]), (13248,[107,969]), (13249,[109,969]),
  (13251,[98,113]), (13252,[99,99]), (13253,[99,100]), (13254,[99,8725,107,103]),
  (13256,[100,98]), (13257,[103,121]), (13258,[104,97]), (13259,[104,112]), (13260,[105,110]),
  (13261,[107,107]), (13262,[107,109]), (13263,[107,116]), (13264,[108,109]), (13265,[108,110]),
  (13266,[108,111,103]), (13267,[108,120]), (13268,[109,98]), (13269,[109,105,108]),
  (13270,[109,111,108]), (13271,[112,104]), (13273,[112,112,109]), (13274,[112,114]),
  (13275,[115,114]), (13276,[115,118]), (13277,[119,98]), (13278,[118,8725,109]),
  (13279,[97,8725,109]), (13280,[49,26085]), (13281,[50,26085]), (13282,[51,26085]),
  (13283,[52,26085]), (13284,[53,26085]), (13285,[54,26085]), (13286,[55,26085]),
  (13287,[56,26085]), (13288,[57,26085]), (13289,[49,48,26085]), (13290,[49,49,26085]),
  (13291,[49,50,26085]), (13292,[49,51,26085]), (13293,[49,52,26085]), (13294,[49,53,26085]),
  (13295,[49,54,26085]), (13296,[49,55,26085]), (13297,[49,56,26085]), (13298,[49,57,26085]),
  (13299,[50,48,26085]), (13300,[50,49,26085]), (13301,[50,50,26085]), (13302,[50,51,26085]),
  (13303,[50,52,26085]), (13304,[50,53,26085]), (13305,[50,54,26085]), (13306,[50,55,26085]),
  (13307,[50,56,26085]), (13308,[50,57,26085]), (13309,[51,48,26085]), (13310,[51,49,26085]),
  (13311,[103,97,108]), (64256,[102,102]), (64257,[102,105]), (64258,[102,108]),
  (64259,[102,102,105]), (64260,[102,102,108]), (64261,[115,116]), (64262,[115,116]),
  (64606,[32,1612,1617]), (64607,[32,1613,1617]), (64608,[32,1614,1617]), (64609,[32,1615,1617]),
  (64610,[32,1616,1617]), (64611,[32,1617,1648]),
  (65018,[1589,1604,1609,32,1575,1604,1604,1607,32,1593,1604,1610,1607,32,1608,1587,1604,1605]),
  (65019,[1580,1604,32,1580,1604,1575,1604,1607]), (65097,[32,773]), (65098,[32,773]),
  (65099,[32,773]), (65100,[32,773]), (65136,[32,1611]), (65138,[32,1612]), (65140,[32,1613]),
  (65142,[32,1614]), (65144,[32,1615]), (65146,[32,1616]), (65148,[32,1617]), (65150,[32,1618]),
  (65507,[32,772]), (127233,[48,44]), (127234,[49,44]), (127235,[50,44]), (127236,[51,44]),
  (127237,[52,44]), (127238,[53,44]), (127239,[54,44]), (127240,[55,44]), (127241,[56,44]),
  (127242,[57,44]), (127248,[40,97,41]), (127249,[40,98,41]), (127250,[40,99,41]),
  (127251,[40,100,41]), (127252,[40,101,41]), (127253,[40,102,41]), (127254,[40,103,41]),
  (127255,[40,104,41]), (127256,[40,105,41]), (127257,[40,106,41]), (127258,[40,107,41]),
  (127259,[40,108,41]), (127260,[40,109,41]), (127261,[40,110,41]), (127262,[40,111,41]),
  (127263,[40,112,41]), (127264,[40,113,41]), (127265,[40,114,41]), (127266,[40,115,41]),
  (127267,[40,116,41]), (127268,[40,117,41]), (127269,[40,118,41]), (127270,[40,119,41]),
  (127271,[40,120,41]), (127272,[40,121,41]), (127273,[40,122,41]), (127274,[12308,115,12309]),
  (127277,[99,100]), (127278,[119,122]), (127306,[104,118]), (127307,[109,118]),
  (127308,[115,100]), (127309,[115,115]), (127310,[112,112,118]), (127311,[119,99]),
  (127338,[109,99]), (127339,[109,100]), (127340,[109,114]), (127376,[100,106])
]

def ignoredCodePoints : CodePoints := [
  (173,173), (847,847), (4447,4448), (6068,6069), (6155,6159), (8203,8203), (8288,8292),
  (8298,8303), (12644,12644), (65024,65039), (65279,65279), (65440,65440), (113824,113827),
  (119155,119162), (917760,917999)
]

def mapChar (c : Char) : List Char :=
  if c.toNat < 128 then [c.toLower]
  else if ignoredCodePoints.contains c.toNat then []
  else match sequences.lookup c.toNat with
    | some ns => ns.map Char.ofNat
    | none => match asciiRuns.find? fun (first, last, _) => first ≤ c.toNat && c.toNat ≤ last with
      | some (first, _, image) => [Char.ofNat (image + (c.toNat - first))]
      | none => [c]

end SettingsStore.Url.Domain
