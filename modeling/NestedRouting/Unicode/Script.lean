import NestedRouting.Unicode.RunTable

/-!
# Scripts and script extensions

A character has one script, and a set of scripts in which it is used. Scripts are numbered by their
place in `Script.names`; a value of `Script.extensionTable` beyond them numbers a set in
`Script.extensionSets`. A code point without a character has no script: its value is the number after
the last script.
-/

namespace NestedRouting.Unicode.Script

/-- The loose names of each script. -/
def names : Array (List String) :=
  #[["adlam", "adlm"], ["ahom"], ["anatolianhieroglyphs", "hluw"], ["arab", "arabic"],
   ["armenian", "armn"], ["avestan", "avst"], ["bali", "balinese"], ["bamu", "bamum"],
   ["bass", "bassavah"], ["batak", "batk"], ["beng", "bengali"], ["bhaiksuki", "bhks"],
   ["bopo", "bopomofo"], ["brah", "brahmi"], ["brai", "braille"], ["bugi", "buginese"],
   ["buhd", "buhid"], ["canadianaboriginal", "cans"], ["cari", "carian"],
   ["aghb", "caucasianalbanian"], ["cakm", "chakma"], ["cham"], ["cher", "cherokee"],
   ["chorasmian", "chrs"], ["common", "zyyy"], ["copt", "coptic", "qaac"], ["cuneiform", "xsux"],
   ["cprt", "cypriot"], ["cpmn", "cyprominoan"], ["cyrillic", "cyrl"], ["deseret", "dsrt"],
   ["deva", "devanagari"], ["diak", "divesakuru"], ["dogr", "dogra"], ["dupl", "duployan"],
   ["egyp", "egyptianhieroglyphs"], ["elba", "elbasan"], ["elym", "elymaic"],
   ["ethi", "ethiopic"], ["gara", "garay"], ["geor", "georgian"], ["glag", "glagolitic"],
   ["goth", "gothic"], ["gran", "grantha"], ["greek", "grek"], ["gujarati", "gujr"],
   ["gong", "gunjalagondi"], ["gurmukhi", "guru"], ["gukh", "gurungkhema"], ["han", "hani"],
   ["hang", "hangul"], ["hanifirohingya", "rohg"], ["hano", "hanunoo"], ["hatr", "hatran"],
   ["hebr", "hebrew"], ["hira", "hiragana"], ["armi", "imperialaramaic"],
   ["inherited", "qaai", "zinh"], ["inscriptionalpahlavi", "phli"],
   ["inscriptionalparthian", "prti"], ["java", "javanese"], ["kaithi", "kthi"],
   ["kannada", "knda"], ["kana", "katakana"], ["kawi"], ["kali", "kayahli"],
   ["khar", "kharoshthi"], ["khitansmallscript", "kits"], ["khmer", "khmr"], ["khoj", "khojki"],
   ["khudawadi", "sind"], ["kiratrai", "krai"], ["lao", "laoo"], ["latin", "latn"],
   ["lepc", "lepcha"], ["limb", "limbu"], ["lina", "lineara"], ["linb", "linearb"], ["lisu"],
   ["lyci", "lycian"], ["lydi", "lydian"], ["mahajani", "mahj"], ["maka", "makasar"],
   ["malayalam", "mlym"], ["mand", "mandaic"], ["mani", "manichaean"], ["marc", "marchen"],
   ["gonm", "masaramgondi"], ["medefaidrin", "medf"], ["meeteimayek", "mtei"],
   ["mend", "mendekikakui"], ["merc", "meroiticcursive"], ["mero", "meroitichieroglyphs"],
   ["miao", "plrd"], ["modi"], ["mong", "mongolian"], ["mro", "mroo"], ["mult", "multani"],
   ["myanmar", "mymr"], ["nabataean", "nbat"], ["nagm", "nagmundari"], ["nand", "nandinagari"],
   ["newtailue", "talu"], ["newa"], ["nko", "nkoo"], ["nshu", "nushu"],
   ["hmnp", "nyiakengpuachuehmong"], ["ogam", "ogham"], ["olchiki", "olck"], ["olonal", "onao"],
   ["hung", "oldhungarian"], ["ital", "olditalic"], ["narb", "oldnortharabian"],
   ["oldpermic", "perm"], ["oldpersian", "xpeo"], ["oldsogdian", "sogo"],
   ["oldsoutharabian", "sarb"], ["oldturkic", "orkh"], ["olduyghur", "ougr"], ["oriya", "orya"],
   ["osage", "osge"], ["osma", "osmanya"], ["hmng", "pahawhhmong"], ["palm", "palmyrene"],
   ["pauc", "paucinhau"], ["phag", "phagspa"], ["phnx", "phoenician"], ["phlp", "psalterpahlavi"],
   ["rejang", "rjng"], ["runic", "runr"], ["samaritan", "samr"], ["saur", "saurashtra"],
   ["sharada", "shrd"], ["shavian", "shaw"], ["sidd", "siddham"], ["sgnw", "signwriting"],
   ["sinh", "sinhala"], ["sogd", "sogdian"], ["sora", "sorasompeng"], ["soyo", "soyombo"],
   ["sund", "sundanese"], ["sunu", "sunuwar"], ["sylo", "sylotinagri"], ["syrc", "syriac"],
   ["tagalog", "tglg"], ["tagb", "tagbanwa"], ["taile", "tale"], ["lana", "taitham"],
   ["taiviet", "tavt"], ["takr", "takri"], ["tamil", "taml"], ["tangsa", "tnsa"],
   ["tang", "tangut"], ["telu", "telugu"], ["thaa", "thaana"], ["thai"], ["tibetan", "tibt"],
   ["tfng", "tifinagh"], ["tirh", "tirhuta"], ["todhri", "todr"], ["toto"],
   ["tulutigalari", "tutg"], ["ugar", "ugaritic"], ["vai", "vaii"], ["vith", "vithkuqi"],
   ["wancho", "wcho"], ["wara", "warangciti"], ["yezi", "yezidi"], ["yi", "yiii"],
   ["zanabazarsquare", "zanb"]]

/-- The sets of scripts in which a code point is used: first the empty one, then those of more than
one script. -/
def extensionSets : Array (List Nat) :=
  #[[], [5, 18, 25, 34, 36, 40, 41, 42, 44, 46, 49, 73, 80, 81, 113, 133],
   [10, 29, 31, 73, 78, 155, 160], [12, 73], [73, 78], [73, 155],
   [22, 25, 29, 44, 73, 113, 141, 146], [22, 29, 44, 73, 120, 141, 146, 159], [22, 29, 73, 157],
   [41, 73, 141, 143, 155], [19, 22, 25, 29, 42, 44, 73, 120, 143, 157, 159],
   [25, 36, 41, 42, 63, 73], [29, 44, 73, 113], [25, 34, 54, 73, 113, 143, 146, 157, 159],
   [4, 29, 34, 42, 44, 54, 73, 113, 143, 146], [73, 157], [34, 73, 143], [22, 29, 73, 120],
   [22, 73, 146], [73, 141], [38, 73], [29, 73, 159], [44, 73, 113, 159], [73, 143],
   [22, 34, 63, 73, 143], [22, 34, 73, 143], [73, 141, 143], [22, 73, 143],
   [19, 22, 42, 73, 141, 155], [73, 120], [19, 73, 159], [25, 44], [29, 113], [29, 41], [29, 73],
   [4, 40, 41], [3, 39, 51, 104, 143, 154, 167], [3, 143, 154],
   [0, 3, 39, 51, 104, 143, 154, 167], [0, 3, 51, 84, 85, 118, 127, 137, 143], [3, 143],
   [3, 154, 167], [3, 51], [10, 31, 43, 45, 47, 62, 73, 83, 119, 132, 150, 153, 158],
   [10, 31, 43, 45, 47, 62, 73, 83, 119, 150, 153, 158],
   [10, 31, 33, 43, 45, 46, 47, 62, 70, 81, 83, 87, 101, 109, 119, 136, 142, 149, 150, 153, 158],
   [10, 31, 33, 43, 45, 46, 47, 48, 62, 70, 75, 81, 83, 87, 101, 109, 119, 136, 142, 149, 150, 153, 158],
   [31, 33, 61, 81], [10, 20, 142], [47, 97], [45, 69], [43, 150], [62, 101, 161], [20, 98, 146],
   [40, 41, 73], [16, 52, 144, 145], [95, 125], [10, 31, 43, 62], [31, 43, 62], [10, 31],
   [31, 132], [31, 62, 83, 119, 150, 153], [31, 101],
   [10, 31, 43, 62, 83, 101, 119, 136, 153, 158, 161], [31, 43], [31, 43, 62, 161], [29, 73, 143],
   [73, 95, 125], [0, 3], [18, 40, 41, 79, 110, 117], [18, 44, 92, 110], [31, 43, 73], [25, 73],
   [5, 117], [5, 18, 40, 61, 80, 110, 130], [0, 3, 110], [49, 152], [12, 49, 50, 55, 63, 95, 168],
   [12, 49, 50, 55, 63, 95, 125, 168], [12, 49, 50, 55, 63], [12, 49, 50, 55, 63, 95, 156, 168],
   [12, 49, 50, 55, 63, 78, 95, 156, 168], [12, 49, 50, 55, 63, 168], [12, 49], [55, 63],
   [49, 55, 63], [49, 73], [31, 33, 45, 47, 61, 62, 69, 70, 81, 83, 94, 101, 132, 149, 158, 161],
   [31, 33, 45, 47, 61, 62, 69, 70, 81, 94, 101, 132, 149, 158, 161],
   [31, 33, 45, 47, 61, 69, 70, 81, 94, 149, 158],
   [31, 33, 45, 47, 61, 69, 70, 81, 94, 132, 149, 158], [10, 31, 161], [31, 150], [65, 73, 98],
   [15, 60], [3, 104], [3, 154], [27, 28, 77], [27, 77], [27, 76, 77], [3, 25], [85, 118]]

/-- The script of every code point. -/
def table : RunTable := RunTable.ofLines
  ["1tYqCV6YqCV1bY1CVfY1CV5YnCV1YvCV1YchCV13Y5CV5Y2MkY34CF4BS1Y3BS2GO4BS1Y1BS4GO1BS1Y1BS1Y3BS1GO",
   "1BS1GOkBS1GO1rBSeZgBS3pBD2CF4pBD1GO12E2GO1eE2GO3E1GO1jCC8GOrCC4GO6CCbGO5D1Y6D1YeD1Y3D1YwD1Ya",
   "DbCFqD1CF30D1YyDeFN1GO1oFN2GO3FN1cD1eFYeGO1nEA2GO3EA1aFA2GOfFA1GOsDG2GO1DG1GObFN5GOvD1GO2D5G",
   "O23D1YtD29BF4CFfBF2YqBF4K1GO8K2GO2K2GOmK1GO7K1GO1K3GO4K2GO9K2GO2K2GO4K8GO1K4GO2K1GO5K2GOpK2G",
   "O3BV1GO6BV4GO2BV2GOmBV1GO7BV1GO2BV1GO2BV1GO2BV2GO1BV1GO5BV4GO2BV2GO3BV3GO1BV7GO4BV1GO1BV7GOh",
   "BVaGO3BT1GO9BT1GO3BT1GOmBT1GO7BT1GO2BT1GO5BT2GOaBT1GO3BT1GO3BT2GO1BTfGO4BT2GOcBT7GO7BT1GO3EP",
   "1GO8EP2GO2EP2GOmEP1GO7EP1GO2EP1GO5EP2GO9EP2GO2EP2GO3EP7GO3EP4GO2EP1GO5EP2GOiEPaGO2FU1GO6FU3G",
   "O3FU1GO4FU3GO2FU1GO1FU1GO2FU3GO2FU3GO3FU3GOcFU4GO5FU3GO3FU1GO4FU2GO1FU6GO1FUeGOlFU5GOdFX1GO3",
   "FX1GOnFX1GOgFX2GO9FX1GO3FX1GO4FX7GO2FX1GO3FX2GO1FX2GO4FX2GOaFX7GO9FXdCK1GO3CK1GOnCK1GOaCK1GO",
   "5CK2GO9CK1GO3CK1GO4CK7GO2CK6GO2CK1GO4CK2GOaCK1GO3CKcGOdDF1GO3DF1GO1fDF1GO3DF1GO6DF4GOgDF2GOq",
   "DF1GO3FG1GOiFG3GOoFG1GO9FG1GO1FG2GO7FG3GO1FG4GO6FG1GO1FG1GO8FG6GOaFG2GO3FGcGO1mFZ4GO1YsFZ11G",
   "O2CU1GO1CU1GO5CU1GOoCU1GO1CU1GOnCU2GO5CU1GO1CU1GO7CU1GOaCU2GO4CUwGO20GA1GO10GA4GO13GA1GO10GA",
   "1GOfGA1GO7GA4Y2GA11GO4gDU12BO1GO1BO5GO1BO2GO17BO1Y4BO74BY21BM1GO4BM2GO7BM1GO1BM1GO4BM2GO15BM",
   "1GO4BM2GOxBM1GO4BM2GO7BM1GO1BM1GO4BM2GOfBM1GO1lBM1GO4BM2GO1vBM2GOwBM3GOqBM6GO2eW2GO6W2GOhsRt",
   "ED3GO23EZ3YbEZ7GOmFO9GO1FOlCA2Y9GOkQcGOdFP1GO3FP1GO2FPcGO2mCQ2GOaCQ6GOaCQ6GO2DR2Y1DR1YkDR6GO",
   "2hDR7GO17DR5GO1yRaGOvCX1GOcCX4GOcCX4GO1CX3GOcCXuFQ2GO5FQbGO18DY4GOqDY6GObDY3GO2DYwCQsP2GO2P1",
   "rFR1GOtFR2GObFR6GOaFR6GOeFR2GOvCF1dGO25G1GO1eG1sFK1gJ8GO4J1kCW3GOfCW3GO3CW1cEEbBD5GO17BO2GO3",
   "BO8FK8GO3CF1YdCF1Y7CF4Y1CF6Y1CF3Y2CF1Y5GO12CV5BS1BD1dCV5BS4CV5BSdCV1BD1yCV1BS1sCF74CVmBS2GO6",
   "BS2GO12BS2GO6BS2GO8BS1GO1BS1GO1BS1GO1BS1GOvBS2GO1hBS1GOfBS1GOeBS2GO6BS1GOjBS2GO3BS1GO9BS1GOc",
   "Y2CF2fY1GObY1CV2GObY1CVfY1GOdCV3GOxYfGOxCFfGO12Y1BS3Y2CV6Y1CVrY1CVhY15CV3Y4GOiiYmGObYlGOpsY7",
   "4OhgY2GOwY1GO2xY2oBPwCV38Z5GO7Z12BO1GO1BO5GO1BO2GO1kGB7GO2GBeGO1GBnBM9GO7BM1GO7BM1GO7BM1GO7B",
   "M1GO7BM1GO7BM1GO7BM1GO7BM1GOwBD2mYyGOqBX1GO2hBXcGO5yBXqGOlY1BX1Y1BXpY9BX4CF2BY8Y4BX4Y1GO2eCD",
   "2GO2CF2Y3CD1Y2iCL2Y3CL5GO17M1GO2mBY1GOgYwM12Y9GO1YgCLvBY1GO1sYvBY29Y1bCL1Y2gCL4oY534BX1sYg74",
   "BXwdGM3GO1jGM9GO1cDA8cGHkGO2oBD2gH8GOyY2uCV3Y1vCV2GO2CV1GO1CV1GO8CVlGOeCV19FM3GOaY6GO1kEV8GO",
   "1yFB8GOcFB6GOwBF1aCN1Y1CN10EYbGO1EYtBY3GO26CI1GO1YaCI4GO2CIvDU1GO1jV9GOeV2GOaV2GO4VwDU1vFSoG",
   "O5FSnDLaGO6BM2GO6BM2GO6BM9GO7BM1GO7BM1GO17CV1Y9CV1BS4CV2Y4GO28W1aDL2GOaDL6GO8mcBYcGOnBY4GO1d",
   "BY6isGOa6BX2GO2yBX12GO7CVcGO5E5GOqCC1GO5CC1GO1CC1GO2CC1GO2CC1GOaCC37DgGOa3D2Y28D2GO1iD7GO1Dw",
   "GOgDgCFaY6GOeCF2BDzY1GOjY1GO4Y4GO5D1GO3rD2GO1Y1GOwYqCV6YqCVbYaCL1Y19CL2YvBY3GO6BY2GO6BY2GO6B",
   "Y2GO3BY3GO7Y1GO7YaGO5Y2GOcCZ1GOqCZ1GOjCZ1GO2CZ1GOfCZ2GOeCZyGO3fCZ5GO3Y4GO19Y3GO9Y27BS1GOdY3G",
   "O1BS1bGO19Y1CF3mGOtDB3GO1dSfGO1CFrY4GO10EH9GO3EHrBQ5GO17EJ5GOuGG1GO1GG10EK4GOeEK16GO28BE1cFD",
   "uER2GOaER6GO10EQ4GO10EQ4GO14BK8GO1gTbGO1TbGI1GOfGI1GO7GI1GO2GI1GObGI1GOfGI1GO7GI1GO2GI3GO1gG",
   "DcGO8nCY9GOmCYaGO8CYoGO6CV1GO16CV1GO9CV1xGO6BB2GO1BB1GO18BB1GO2BB3GO1BB2GO1BBmCE1GO9CEwETvDV",
   "8GO9DV1cGOjCB1GO2CB5GO5CBsEW3GO1EWqDC5GO1DC1sGOwDOoDN4GOkDN2GO1aDN4CO1GO2CO5GO8CO1GO3CO1GOtC",
   "O2GO3CO4GOaCO7GO9CO7GOwEMwEIwGO13DH4GOcDH9GO1iF3GO7FmCH2GO8CHjCG5GO8CGiEX7GO4EXcGO7EX28GO21E",
   "N1jGO1fEGdGO1fEG7GO6EG14BZ8GOaBZ6GO12BN3GOtBN8GO2BN5sGOvD1GO16GL1GO3GL2GO2GLgGO3D1jGO4D14EL8",
   "GO16FHmGOqEO12GOsXkGOnBL9GO26N4GO10N9GO1N1vCJaGO1CJ2GOpFI7GOaFI6GO1hU1GOiU8GO13DD9GO2oFC1GOk",
   "FGbGOiCR1GO1bCR1qGO7DT1GO1DT1GO4DT1GOfDT1GObDT6GO1nCS5GOaCS6GO4BR1GO8BR2GO2BR2GOmBR1GO7BR1GO",
   "2BR1GO5BR1GO1CF9BR2GO2BR2GO3BR2GO1BR6GO1BR5GO7BR2GO7BR3GO5BRbGOaGF1GO1GF2GO1GF1GO12GF1GOaGF1",
   "GO1GF2GO1GF1GO4GF1GOaGF1GO2GF8GO2GFtGO2kDZ1GO5DZuGO20GC8GOaGC4mGO1iFE2GO12FEyGO1xDQbGOaDQ6GO",
   "dDRjGO1mFT6GOaFT6GOkDUsGOrB2GOfB4GOnB55GO1oBH2sGO2bGKcGO1GK7BG2GO1BG2GO8BG1GO2BG1GOuBG1GO2BG",
   "2GOcBG9GOaBG1yGO8DX2GO1aDX2GObDXrGO20GN8GO2bFJdGOgR1lEU7GOaBF52GOyFLeGOaFL6GO9L1GO19L1GOeLaG",
   "OtL3GOwDI2GOmDI1GOeDI21GO7DJ1GO2DJ1GO18DJ3GO1DJ1GO2DJ1GO9DJ8GOaDJ6GO6BU1GO2BU1GO11BU1GO2BU1G",
   "O6BU7GOaBU8mGOpDE7GOhCM1GO15CM3GOtCM2dGO1DAfGO1eFUdGO1FUpmBA2uGO33BA1GO5BAbGO5gBA218GO2rBCdG",
   "OuuBJaGO32zBJ5GOg7C5a1GO1mBW1c6GOftH7GOvDS1GOaDS4GO2DS27FV1GOaFV6GOuI2GO6IaGO1yESaGOaES1GO7E",
   "S1GOlES5GOjESc0GO1mCT5iGO2jDK2tGO23DP4GO1lDP7GOhDP1sGO1FW1EB2BX1CPbGO2BXeGO4qgFW8GOlcFWd2CP1",
   "5GO1CP9FW6w7GO4CL1GO7CL1GO2CL1GO1CL7zCD3CLfGO1CDtGO3CD2GO1CLeGO4CL8GOb0EB1s4GO2zBI5GOdBI3GO9",
   "BI7GOaBI2GO4BI4Y318GO6yY6GOc4Y24GO1aCF2GOnCF9GO38Y1oGO6uYaGO13Y2GO1qY3CFhY8CF2Y7CFuY4CF1pYlG",
   "O1yBS3eGOkYcGOkYcGO2fY9GOpY3rGO2dY1GO1zY1GO2Y2GO1Y2GO2Y2GO4Y1GOcY1GO1Y1GO7Y1GO1tY1GO4Y2GO8Y1",
   "GO7Y1GOsY1GO4Y1GO5Y1GO1Y3GO7Y1GO9gY2GO84Y2GO1eYi4FFfGO5FF1GOfFFuoGOvCV6GO6CV5xGO7BP1GOhBP2GO",
   "7BP1GO2BP1GO5BP5GO1qBDxGO1BD34GO19EC3GOeEC2GOaEC4GO2EC8wGOvGEhGO1mGJ5GO1GJcwGO16DW5yGO17EF4G",
   "O1EFdcGO7BM1GO4BM1GO2BM1GOfBM1GO5hDM2GOgDM15GO24A4GOaA4GO2AltGO1wY24GO1pY5eGO4D1GOrD1GO2D1GO",
   "1D2GO1D1GOaD1GO4D1GO1D1GO1D6GO1D4GO1D1GO1D1GO1D1GO3D1GO2D1GO1D2GO1D1GO1D1GO1D1GO1D1GO1D1GO2D",
   "1GO1D2GO4D1GO7D1GO4D1GO4D1GO1D1GOaD1GOhD5GO3D1GO5D1GOhD1gGO2D7iGO18Y4GO2sYcGOfY2GOfY1GOfY1GO",
   "11YaGO4uY1kGOqY1CD2YdGO18Y4GO9Y7GO2YeGO6Y4aGOrcY4GOhY3GOdY3GO3bY4GO2nY6GOcY4GO1YfGOcY4GO1kY8",
   "GOaY6GO14Y8GOuY2GOcY4GO2Y1qGO9gYcGOeY2GOdY3GOaY5GO1kY7GOfY2GObY6GO9Y7GO43Y1GO2uYsmGOwyoBXwGO",
   "37eBX6GO66BX2GO4g2BXeGO5rlBXfGOhaBX1wiGOf2BX15uGO3t7BX5GO38gBXf975GO1YuGO2oY3kGO6oCF47bkGO"]

/-- The scripts in which every code point is used. -/
def extensionTable : RunTable := RunTable.ofLines
  ["1tYqCV6YqCV1bY1CVcY1GP2Y1CV5YnCV1YvCV1YchCV3Y1GQaY1GR1Y3GR1Y1GS9Y1GT1Y1GR6Y5CV5Y2MkY1GU1GV1G",
   "W1GX1GY1GZ1HA1HB1HC1HD1HE1HF1HG1HH1HI1CF1HH1HJ1CF1HKcCF1HL2CF1HM1HN1HL7CF1HO1HL1CF1HP1HQgCF1",
   "BS2CF1BSiCF1HR5CF1HS4CFdCV4BS2HT2BS2GO4BS1Y1BS4GO1BS1Y1BS1Y3BS1GO1BS1GOkBS1GO1rBSeZgBS3nBD1H",
   "U1HV2HW1HV4oBD1GO12E2GO1cE1HX1E2GO3E1GO1jCC8GOrCC4GO6CCbGO5D1Y6D1HYeD1HY1HZ2D1IAwD1IBaDbICaD",
   "aID6D1IC2rD1IE8D1YyDeFN1GO1oFN2GO3FN1cD1eFYeGO1nEA2GO3EA1aFA2GOfFA1GOsDG2GO1DG1GObFN5GOvD1GO",
   "2D5GO23D1YtD29BF1IF1IG2CFfBF1IH1IIaIJgBF4K1GO8K2GO2K2GOmK1GO7K1GO1K3GO4K2GO9K2GO2K2GO4K8GO1K",
   "4GO2K1GO5K2GOaIKfK2GO3BV1GO6BV4GO2BV2GOmBV1GO7BV1GO2BV1GO2BV1GO2BV2GO1BV1GO5BV4GO2BV2GO3BV3G",
   "O1BV7GO4BV1GO1BV7GOaIL7BVaGO3BT1GO9BT1GO3BT1GOmBT1GO7BT1GO2BT1GO5BT2GOaBT1GO3BT1GO3BT2GO1BTf",
   "GO4BT2GOaIM2BT7GO7BT1GO3EP1GO8EP2GO2EP2GOmEP1GO7EP1GO2EP1GO5EP2GO9EP2GO2EP2GO3EP7GO3EP4GO2EP",
   "1GO5EP2GOiEPaGO2FU1GO6FU3GO3FU1GO4FU3GO2FU1GO1FU1GO2FU3GO2FU3GO3FU3GOcFU4GO5FU3GO3FU1GO4FU2G",
   "O1FU6GO1FUeGOeIN7FU5GOdFX1GO3FX1GOnFX1GOgFX2GO9FX1GO3FX1GO4FX7GO2FX1GO3FX2GO1FX2GO4FX2GOaFX7",
   "GO9FXdCK1GO3CK1GOnCK1GOaCK1GO5CK2GO9CK1GO3CK1GO4CK7GO2CK6GO2CK1GO4CK2GOaIO1GO3CKcGOdDF1GO3DF",
   "1GO1fDF1GO3DF1GO6DF4GOgDF2GOqDF1GO3FG1GOiFG3GOoFG1GO9FG1GO1FG2GO7FG3GO1FG4GO6FG1GO1FG1GO8FG6",
   "GOaFG2GO3FGcGO1mFZ4GO1YsFZ11GO2CU1GO1CU1GO5CU1GOoCU1GO1CU1GOnCU2GO5CU1GO1CU1GO7CU1GOaCU2GO4C",
   "UwGO20GA1GO10GA4GO13GA1GO10GA1GOfGA1GO7GA4Y2GA11GO1sDUaIP2eDU12BO1GO1BO5GO1BO2GO17BO1IQ4BO74",
   "BY21BM1GO4BM2GO7BM1GO1BM1GO4BM2GO15BM1GO4BM2GOxBM1GO4BM2GO7BM1GO1BM1GO4BM2GOfBM1GO1lBM1GO4BM",
   "2GO1vBM2GOwBM3GOqBM6GO2eW2GO6W2GOhsRtED3GO2hEZ7GOmFO9GO1FOlCA2IR9GOkQcGOdFP1GO3FP1GO2FPcGO2m",
   "CQ2GOaCQ6GOaCQ6GO2DR2IS1DR1ISkDR6GO2hDR7GO17DR5GO1yRaGOvCX1GOcCX4GOcCX4GO1CX3GOcCXuFQ2GO5FQb",
   "GO18DY4GOqDY6GObDY3GO2DYwCQsP2GO2P1rFR1GOtFR2GObFR6GOaFR6GOeFR2GOvCF1dGO25G1GO1eG1sFK1gJ8GO4",
   "J1kCW3GOfCW3GO3CW1cEEbBD5GO17BO2GO3BO8FK8GO1IT1BF1IT1IU1BF2IV1IW1IV1IW1IX1BF2IW2BF1IW1IV7BF1",
   "IY1IV2BF1IV4BF1IZ1JA1JB2IV1K2JA1DX5GO12CV5BS1BD1dCV5BS4CV5BSdCV1BD1yCV3BS1iCF1JC1CF1FN5CF74C",
   "VmBS2GO6BS2GO12BS2GO6BS2GO8BS1GO1BS1GO1BS1GO1BS1GOvBS2GO1hBS1GOfBS1GOeBS2GO6BS1GOjBS2GO3BS1G",
   "O9BS1GOcY2CFxY1JDvY1JEaY1JF2Y1JG7Y1GObY1CV2GObY1CVfY1GOdCV3GOxYfGOwCF1JHfGO12Y1BS3Y2CV6Y1CVr",
   "Y1CVhY15CV3Y4GOiiYmGObYlGOpsY74OhgY2GOwY1GO2xY2oBPwCV38Z5GO7Z12BO1GO1BO5GO1BO2GO1kGB7GO2GBeG",
   "O1GBnBM9GO7BM1GO7BM1GO7BM1GO7BM1GO7BM1GO7BM1GO7BM1GO7BM1GOwBDnY1JIoY1JJ1JKaY1BI4Y1JL1Y1HVqYy",
   "GOqBX1GO2hBXcGO5yBXqGOgJM1Y1JN1JO1JP1Y3BX2JQ2JR6JS1Y1JP8JS4JP1Y9BX4JT2BY1JP5JU1Y1JP4BX2JV2BX",
   "1GO2eCD2GO4JU3CD1JU2iCL1JS1JU3CL5GO17M1GO2mBY1GOgBXwM12BX9GO1JMgCLvBY1GO14BXoYvBY1Y1dBXfYcBX",
   "4Y1bCL1BX2gCLpBXaY5BX2oYvBX1Y534BX1sYg74BXwdGM3GO1jGM9GO1cDA8cGHkGO1bBD1HV1cBD2gH8GO8JWqY2uC",
   "V3Y1vCV2GO2CV1GO1CV1GO8CVlGOeCV19FM3GO3JX3JY2JZ1KA1JZ6GO1kEV8GO1yFB8GOcFB6GOhBF1KB1BF1KCcBF1",
   "aCN1KD1CN10EYbGO1EYtBY3GO26CI1GO1KEaCI4GO2CIvDU1GO1jV9GOeV2GOaV2GO4VwDU1vFSoGO5FSnDLaGO6BM2G",
   "O6BM2GO6BM9GO7BM1GO7BM1GO17CV1Y9CV1BS4CV2Y4GO28W1aDL2GOaDL6GO8mcBYcGOnBY4GO1dBY6isGOa6BX2GO2",
   "yBX12GO7CVcGO5E5GOqCC1GO5CC1GO1CC1GO2CC1GO2CC1GOaCC37DgGOa3D2KF28D2GO1iD7GO1DwGO2D1KGaD1KG2D",
   "gCFaY6GOeCF2BDlY2JPcY1GOjY1GO4Y4GO5D1GO3rD2GO1Y1GOwYqCV6YqCV6Y5JSaCL1JU19CL2JUvBY3GO6BY2GO6B",
   "Y2GO6BY2GO3BY3GO7Y1GO7YaGO5Y2GOcCZ1GOqCZ1GOjCZ1GO2CZ1GOfCZ2GOeCZyGO3fCZ5GO2KH1KI4GO19KJ3GO9K",
   "I27BS1GOdY3GO1BS1bGO19Y1CF3mGOtDB3GO1dSfGOsKK4GO10EH9GO3EHrBQ5GO17EJ5GOuGG1GO1GG10EK4GOeEK16",
   "GO28BE1cFDuER2GOaER6GO10EQ4GO10EQ4GO14BK8GO1gTbGO1TbGI1GOfGI1GO7GI1GO2GI1GObGI1GOfGI1GO7GI1G",
   "O2GI3GO1gGDcGO8nCY9GOmCYaGO8CYoGO6CV1GO16CV1GO9CV1xGO6BB2GO1BB1GO18BB1GO2BB3GO1BB2GO1BBmCE1G",
   "O9CEwETvDV8GO9DV1cGOjCB1GO2CB5GO5CBsEW3GO1EWqDC5GO1DC1sGOwDOoDN4GOkDN2GO1aDN4CO1GO2CO5GO8CO1",
   "GO3CO1GOtCO2GO3CO4GOaCO7GO9CO7GOwEMwEIwGO13DH4GO7DH1KL4DH9GO1iF3GO7FmCH2GO8CHjCG5GO8CGiEX7GO",
   "4EXcGO7EX28GO21EN1jGO1fEGdGO1fEG7GO6EG14BZ8GOaBZ6GO12BN3GOtBN8GO2BN5sGOvD1GO16GL1GO3GL2GO2GL",
   "gGO3D1jGO4D14EL8GO16FHmGOqEO12GOsXkGOnBL9GO26N4GO10N9GO1N1vCJaGO1CJ2GOpFI7GOaFI6GO1hU1GOiU8G",
   "O13DD9GO2oFC1GOkFGbGOiCR1GO1bCR1qGO7DT1GO1DT1GO4DT1GOfDT1GObDT6GO1nCS5GOaCS6GO1BR1IN1BR1IN1G",
   "O8BR2GO2BR2GOmBR1GO7BR1GO2BR1GO5BR1GO2IN8BR2GO2BR2GO3BR2GO1BR6GO1BR5GO7BR2GO7BR3GO5BRbGOaGF1",
   "GO1GF2GO1GF1GO12GF1GOaGF1GO1GF2GO1GF1GO4GF1GOaGF1GO2GF8GO2GFtGO2kDZ1GO5DZuGO20GC8GOaGC4mGO1i",
   "FE2GO12FEyGO1xDQbGOaDQ6GOdDRjGO1mFT6GOaFT6GOkDUsGOrB2GOfB4GOnB55GO1oBH2sGO2bGKcGO1GK7BG2GO1B",
   "G2GO8BG1GO2BG1GOuBG1GO2BG2GOcBG9GOaBG1yGO8DX2GO1aDX2GObDXrGO20GN8GO2bFJdGOgR1lEU7GOaBF52GOyF",
   "LeGOaFL6GO9L1GO19L1GOeLaGOtL3GOwDI2GOmDI1GOeDI21GO7DJ1GO2DJ1GO18DJ3GO1DJ1GO2DJ1GO9DJ8GOaDJ6G",
   "O6BU1GO2BU1GO11BU1GO2BU1GO6BU7GOaBU8mGOpDE7GOhCM1GO15CM3GOtCM2dGO1DAfGOgFU2IN1FU1INuFUdGO1FU",
   "pmBA2uGO33BA1GO5BAbGO5gBA218GO2rBCdGOuuBJaGO32zBJ5GOg7C5a1GO1mBW1c6GOftH7GOvDS1GOaDS4GO2DS27",
   "FV1GOaFV6GOuI2GO6IaGO1yESaGOaES1GO7ES1GOlES5GOjESc0GO1mCT5iGO2jDK2tGO23DP4GO1lDP7GOhDP1sGO1F",
   "W1EB2BX1CPbGO2BXeGO4qgFW8GOlcFWd2CP15GO1CP9FW6w7GO4CL1GO7CL1GO2CL1GO1CL7zCD3CLfGO1CDtGO3CD2G",
   "O1CLeGO4CL8GOb0EB1s4GO2zBI5GOdBI3GO9BI7GOaBI2GO8BI318GO6yY6GOc4Y24GO1aCF2GOnCF9GO38Y1oGO6uYa",
   "GO13Y2GO1qY3CFhY8CF2Y7CFuY4CF1pYlGO1yBS3eGOkYcGOkYcGO2fY9GOiBX7Y3rGO2dY1GO1zY1GO2Y2GO1Y2GO2Y",
   "2GO4Y1GOcY1GO1Y1GO7Y1GO1tY1GO4Y2GO8Y1GO7Y1GOsY1GO4Y1GO5Y1GO1Y3GO7Y1GO9gY2GO84Y2GO1eYi4FFfGO5",
   "FF1GOfFFuoGOvCV6GO6CV5xGO7BP1GOhBP2GO7BP1GO2BP1GO5BP5GO1qBDxGO1BD34GO19EC3GOeEC2GOaEC4GO2EC8",
   "wGOvGEhGO1mGJ5GO1GJcwGO16DW5yGO17EF4GO1EFdcGO7BM1GO4BM1GO2BM1GOfBM1GO5hDM2GOgDM15GO24A4GOaA4",
   "GO2AltGO1wY24GO1pY5eGO4D1GOrD1GO2D1GO1D2GO1D1GOaD1GO4D1GO1D1GO1D6GO1D4GO1D1GO1D1GO1D1GO3D1GO",
   "2D1GO1D2GO1D1GO1D1GO1D1GO1D1GO1D1GO2D1GO1D2GO4D1GO7D1GO4D1GO4D1GO1D1GOaD1GOhD5GO3D1GO5D1GOhD",
   "1gGO2D7iGO18Y4GO2sYcGOfY2GOfY1GOfY1GO11YaGO4uY1kGOqY1CD2YdGO18Y4GO9Y7GO2BXeGO6Y4aGOrcY4GOhY3",
   "GOdY3GO3bY4GO2nY6GOcY4GO1YfGOcY4GO1kY8GOaY6GO14Y8GOuY2GOcY4GO2Y1qGO9gYcGOeY2GOdY3GOaY5GO1kY7",
   "GOfY2GObY6GO9Y7GO43Y1GO2uYsmGOwyoBXwGO37eBX6GO66BX2GO4g2BXeGO5rlBXfGOhaBX1wiGOf2BX15uGO3t7BX",
   "5GO38gBXf975GO1YuGO2oY3kGO6oCF47bkGO"]

/-- The script of a character. -/
def of (c : Char) : Nat := table.value c

/-- The scripts in which a character is used. -/
def extensions (c : Char) : List Nat :=
  let v := extensionTable.value c
  if v < names.size then [v] else extensionSets.getD (v - names.size) []

/-- The script with a loose name. -/
def ofName? (name : String) : Option Nat := names.findIdx? (·.contains name)

end NestedRouting.Unicode.Script
