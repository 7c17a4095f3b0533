import GatedRelay.Text.Runs

/-!
The scripts of characters by their codes of four letters, and the names of scripts.
-/

namespace GatedRelay.Text

/-- The scripts of all code points in order. -/
def scriptRuns : Runs := Runs.ofLines
  ["65Zyyy26Latn6Zyyy26Latn47ZyyyLatn15ZyyyLatn5Zyyy23LatnZyyy31LatnZyyy449Latn39Zyyy5Latn5Zyyy",
   "2Bopo20Zyyy112Zinh4GrekZyyy3Grek2Zzzz4GrekZyyyGrek4ZzzzGrekZyyyGrekZyyy3GrekZzzzGrekZzzz",
   "20GrekZzzz63Grek14Copt16Grek133Cyrl2Zinh169CyrlZzzz38Armn2Zzzz50Armn2Zzzz3ArmnZzzz55Hebr",
   "8Zzzz27Hebr4Zzzz6Hebr11Zzzz5ArabZyyy6ArabZyyy14ArabZyyy3ArabZyyy32ArabZyyy10Arab11Zinh26Arab",
   "Zinh108ArabZyyy34Arab14SyrcZzzz60Syrc2Zzzz3Syrc48Arab50Thaa14Zzzz59Nkoo2Zzzz3Nkoo46Samr2Zzzz",
   "15SamrZzzz28Mand2ZzzzMandZzzz11Syrc5Zzzz31ArabZzzz2Arab6Zzzz74ArabZyyy29Arab81Deva4Zinh",
   "15Deva2Zyyy26Deva4BengZzzz8Beng2Zzzz2Beng2Zzzz22BengZzzz7BengZzzzBeng3Zzzz4Beng2Zzzz9Beng",
   "2Zzzz2Beng2Zzzz4Beng8ZzzzBeng4Zzzz2BengZzzz5Beng2Zzzz25Beng2Zzzz3GuruZzzz6Guru4Zzzz2Guru",
   "2Zzzz22GuruZzzz7GuruZzzz2GuruZzzz2GuruZzzz2Guru2ZzzzGuruZzzz5Guru4Zzzz2Guru2Zzzz3Guru3Zzzz",
   "Guru7Zzzz4GuruZzzzGuru7Zzzz17Guru10Zzzz3GujrZzzz9GujrZzzz3GujrZzzz22GujrZzzz7GujrZzzz2Gujr",
   "Zzzz5Gujr2Zzzz10GujrZzzz3GujrZzzz3Gujr2ZzzzGujr15Zzzz4Gujr2Zzzz12Gujr7Zzzz7GujrZzzz3OryaZzzz",
   "8Orya2Zzzz2Orya2Zzzz22OryaZzzz7OryaZzzz2OryaZzzz5Orya2Zzzz9Orya2Zzzz2Orya2Zzzz3Orya7Zzzz",
   "3Orya4Zzzz2OryaZzzz5Orya2Zzzz18Orya10Zzzz2TamlZzzz6Taml3Zzzz3TamlZzzz4Taml3Zzzz2TamlZzzzTaml",
   "Zzzz2Taml3Zzzz2Taml3Zzzz3Taml3Zzzz12Taml4Zzzz5Taml3Zzzz3TamlZzzz4Taml2ZzzzTaml6ZzzzTaml",
   "14Zzzz21Taml5Zzzz13TeluZzzz3TeluZzzz23TeluZzzz16Telu2Zzzz9TeluZzzz3TeluZzzz4Telu7Zzzz2Telu",
   "Zzzz3Telu2ZzzzTelu2Zzzz4Telu2Zzzz10Telu7Zzzz9Telu13KndaZzzz3KndaZzzz23KndaZzzz10KndaZzzz",
   "5Knda2Zzzz9KndaZzzz3KndaZzzz4Knda7Zzzz2Knda6Zzzz2KndaZzzz4Knda2Zzzz10KndaZzzz3Knda12Zzzz",
   "13MlymZzzz3MlymZzzz51MlymZzzz3MlymZzzz6Mlym4Zzzz16Mlym2Zzzz26MlymZzzz3SinhZzzz18Sinh3Zzzz",
   "24SinhZzzz9SinhZzzzSinh2Zzzz7Sinh3ZzzzSinh4Zzzz6SinhZzzzSinhZzzz8Sinh6Zzzz10Sinh2Zzzz3Sinh",
   "12Zzzz58Thai4ZzzzZyyy28Thai37Zzzz2LaooZzzzLaooZzzz5LaooZzzz24LaooZzzzLaooZzzz23Laoo2Zzzz",
   "5LaooZzzzLaooZzzz7LaooZzzz10Laoo2Zzzz4Laoo32Zzzz72TibtZzzz36Tibt4Zzzz39TibtZzzz36TibtZzzz",
   "15TibtZzzz7Tibt4Zyyy2Tibt37Zzzz160Mymr38GeorZzzzGeor5ZzzzGeor2Zzzz43GeorZyyy4Geor256Hang",
   "73EthiZzzz4Ethi2Zzzz7EthiZzzzEthiZzzz4Ethi2Zzzz41EthiZzzz4Ethi2Zzzz33EthiZzzz4Ethi2Zzzz7Ethi",
   "ZzzzEthiZzzz4Ethi2Zzzz15EthiZzzz57EthiZzzz4Ethi2Zzzz67Ethi2Zzzz32Ethi3Zzzz26Ethi6Zzzz86Cher",
   "2Zzzz6Cher2Zzzz640Cans29Ogam3Zzzz75Runr3Zyyy11Runr7Zzzz22Tglg9ZzzzTglg21Hano2Zyyy9Zzzz20Buhd",
   "12Zzzz13TagbZzzz3TagbZzzz2Tagb12Zzzz94Khmr2Zzzz10Khmr6Zzzz10Khmr6Zzzz2Mong2ZyyyMongZyyy",
   "20Mong6Zzzz89Mong7Zzzz43Mong5Zzzz70Cans10Zzzz31LimbZzzz12Limb4Zzzz12Limb4ZzzzLimb3Zzzz12Limb",
   "30Tale2Zzzz5Tale11Zzzz44Talu4Zzzz26Talu6Zzzz11Talu3Zzzz2Talu32Khmr28Bugi2Zzzz2Bugi63LanaZzzz",
   "29Lana2Zzzz11Lana6Zzzz10Lana6Zzzz14Lana2Zzzz31Zinh49Zzzz77Bali3Zzzz47BaliZzzz64Sund52Batk",
   "8Zzzz4Batk56Lepc3Zzzz15Lepc3Zzzz3Lepc48Olck9Cyrl7Zzzz43Geor2Zzzz3Geor8Sund8Zzzz3ZinhZyyy",
   "13ZinhZyyy7Zinh4ZyyyZinh6ZyyyZinh3Zyyy2ZinhZyyy5Zzzz38Latn5GrekCyrl49Latn5Grek4Latn5Grek",
   "13LatnCyrl70LatnGrek64Zinh256Latn22Grek2Zzzz6Grek2Zzzz38Grek2Zzzz6Grek2Zzzz8GrekZzzzGrekZzzz",
   "GrekZzzzGrekZzzz31Grek2Zzzz53GrekZzzz15GrekZzzz14Grek2Zzzz6GrekZzzz19Grek2Zzzz3GrekZzzz9Grek",
   "Zzzz12Zyyy2Zinh87ZyyyZzzz11ZyyyLatn2Zzzz11ZyyyLatn15ZyyyZzzz13Latn3Zzzz33Zyyy15Zzzz33Zinh",
   "15Zzzz38ZyyyGrek3Zyyy2Latn6ZyyyLatn27ZyyyLatn17Zyyy41Latn3Zyyy4Zzzz663Zyyy25Zzzz11Zyyy21Zzzz",
   "928Zyyy256Brai628Zyyy2Zzzz32ZyyyZzzz105Zyyy96Glag32Latn116Copt5Zzzz7Copt38GeorZzzzGeor5Zzzz",
   "Geor2Zzzz56Tfng7Zzzz2Tfng14ZzzzTfng23Ethi9Zzzz7EthiZzzz7EthiZzzz7EthiZzzz7EthiZzzz7EthiZzzz",
   "7EthiZzzz7EthiZzzz7EthiZzzz32Cyrl94Zyyy34Zzzz26HaniZzzz89Hani12Zzzz214Hani26Zzzz21ZyyyHani",
   "ZyyyHani25Zyyy9Hani4Zinh2Hang8Zyyy4Hani4ZyyyZzzz86Hira2Zzzz2Zinh2Zyyy3HiraZyyy90Kana2Zyyy",
   "3Kana5Zzzz43BopoZzzz94HangZzzz16Zyyy32Bopo36Zyyy11ZzzzZyyy16Kana31HangZzzz64Zyyy31Hang81Zyyy",
   "47KanaZyyy88Kana168Zyyy6592Hani64Zyyy20992Hani1165Yiii3Zzzz55Yiii9Zzzz48Lisu300Vaii20Zzzz",
   "96Cyrl88Bamu8Zzzz34Zyyy102Latn3Zyyy64Latn5Zzzz2LatnZzzzLatnZzzz5Latn24Zzzz14Latn45Sylo3Zzzz",
   "10Zyyy6Zzzz56Phag8Zzzz70Saur8Zzzz12Saur6Zzzz32Deva46KaliZyyyKali36Rjng11ZzzzRjng29Hang3Zzzz",
   "78JavaZzzzZyyy10Java4Zzzz2Java31MymrZzzz55Cham9Zzzz14Cham2Zzzz10Cham2Zzzz4Cham32Mymr67Tavt",
   "24Zzzz5Tavt23Mtei10Zzzz6Ethi2Zzzz6Ethi2Zzzz6Ethi9Zzzz7EthiZzzz7EthiZzzz43LatnZyyy9LatnGrek",
   "4Latn2Zyyy4Zzzz80Cher46Mtei2Zzzz10Mtei6Zzzz11172Hang12Zzzz23Hang4Zzzz49Hang8452Zzzz366Hani",
   "2Zzzz106Hani38Zzzz7Latn12Zzzz5Armn5Zzzz26HebrZzzz5HebrZzzzHebrZzzz2HebrZzzz2HebrZzzz10Hebr",
   "115Arab16Zzzz363Arab2Zyyy80Arab2Zzzz54Arab7ZzzzArab32Zzzz16Arab16Zinh10Zyyy6Zzzz14Zinh2Cyrl",
   "35ZyyyZzzz19ZyyyZzzz4Zyyy4Zzzz5ArabZzzz135Arab2ZzzzZyyyZzzz32Zyyy26Latn6Zyyy26Latn11Zyyy",
   "10KanaZyyy45Kana2Zyyy31Hang3Zzzz6Hang2Zzzz6Hang2Zzzz6Hang2Zzzz3Hang3Zzzz7ZyyyZzzz7Zyyy10Zzzz",
   "5Zyyy2Zzzz12LinbZzzz26LinbZzzz19LinbZzzz2LinbZzzz15Linb2Zzzz14Linb34Zzzz123Linb5Zzzz3Zyyy",
   "4Zzzz45Zyyy3Zzzz9Zyyy79GrekZzzz13Zyyy3ZzzzGrek47Zzzz45ZyyyZinh130Zzzz29Lyci3Zzzz49Cari15Zzzz",
   "Zinh27Zyyy4Zzzz36Ital9Zzzz3Ital27Goth5Zzzz43Perm5Zzzz30UgarZzzzUgar36Xpeo4Zzzz14Xpeo42Zzzz",
   "80Dsrt48Shaw30Osma2Zzzz10Osma6Zzzz36Osge4Zzzz36Osge4Zzzz40Elba8Zzzz52Aghb11ZzzzAghb11Vith",
   "Zzzz15VithZzzz7VithZzzz2VithZzzz11VithZzzz15VithZzzz7VithZzzz2Vith67Zzzz311Lina9Zzzz22Lina",
   "10Zzzz8Lina24Zzzz6LatnZzzz42LatnZzzz9Latn69Zzzz6Cprt2ZzzzCprtZzzz44CprtZzzz2Cprt3ZzzzCprt",
   "2ZzzzCprt22ArmiZzzz9Armi32Palm31Nbat8Zzzz9Nbat48Zzzz19HatrZzzz2Hatr5Zzzz5Hatr28Phnx3ZzzzPhnx",
   "26Lydi5ZzzzLydi64Zzzz32Mero24Merc4Zzzz20Merc2Zzzz46Merc4KharZzzz2Khar5Zzzz8KharZzzz3KharZzzz",
   "29Khar2Zzzz3Khar4Zzzz10Khar7Zzzz9Khar7Zzzz32Sarb32Narb32Zzzz39Mani4Zzzz12Mani9Zzzz54Avst",
   "3Zzzz7Avst22Prti2Zzzz8Prti19Phli5Zzzz8Phli18Phlp7Zzzz4Phlp12Zzzz7Phlp80Zzzz73Orkh55Zzzz",
   "51Hung13Zzzz51Hung7Zzzz6Hung40Rohg8Zzzz10Rohg294Zzzz31ArabZzzz42YeziZzzz3Yezi2Zzzz2Yezi",
   "75Zzzz3Arab40Sogo8Zzzz42Sogd22Zzzz26Ougr38Zzzz28Chrs20Zzzz23Elym9Zzzz78Brah4Zzzz36Brah9Zzzz",
   "Brah67Kthi10ZzzzKthi2Zzzz25Sora7Zzzz10Sora6Zzzz53CakmZzzz18Cakm8Zzzz39Mahj9Zzzz96ShrdZzzz",
   "20Sinh11Zzzz18KhojZzzz47Khoj62Zzzz7MultZzzzMultZzzz4MultZzzz15MultZzzz11Mult6Zzzz59Sind5Zzzz",
   "10Sind6Zzzz4GranZzzz8Gran2Zzzz2Gran2Zzzz22GranZzzz7GranZzzz2GranZzzz5GranZzzzZinh9Gran2Zzzz",
   "2Gran2Zzzz3Gran2ZzzzGran6ZzzzGran5Zzzz7Gran2Zzzz7Gran3Zzzz5Gran139Zzzz92NewaZzzz5Newa30Zzzz",
   "72Tirh8Zzzz10Tirh166Zzzz54Sidd2Zzzz38Sidd34Zzzz69Modi11Zzzz10Modi6Zzzz13Mong19Zzzz58Takr",
   "6Zzzz10Takr54Zzzz27Ahom2Zzzz15Ahom4Zzzz23Ahom185Zzzz60Dogr100Zzzz83Wara12ZzzzWara7Diak2Zzzz",
   "Diak2Zzzz8DiakZzzz2DiakZzzz30DiakZzzz2Diak2Zzzz12Diak9Zzzz10Diak70Zzzz8Nand2Zzzz46Nand2Zzzz",
   "11Nand27Zzzz72Zanb8Zzzz83Soyo13Zzzz16Cans57Pauc7Zzzz10Deva246Zzzz9BhksZzzz45BhksZzzz14Bhks",
   "10Zzzz29Bhks3Zzzz32Marc2Zzzz22MarcZzzz14Marc73Zzzz7GonmZzzz2GonmZzzz44Gonm3ZzzzGonmZzzz2Gonm",
   "Zzzz9Gonm8Zzzz10Gonm6Zzzz6GongZzzz2GongZzzz37GongZzzz2GongZzzz6Gong7Zzzz10Gong310Zzzz25Maka",
   "7Zzzz17KawiZzzz41Kawi3Zzzz28Kawi86ZzzzLisu15Zzzz50Taml13ZzzzTaml922Xsux102Zzzz111XsuxZzzz",
   "5Xsux11Zzzz196Xsux2636Zzzz99Cpmn13Zzzz1110Egyp4010Zzzz583Hluw8633Zzzz569Bamu7Zzzz31MrooZzzz",
   "10Mroo4Zzzz2Mroo79TnsaZzzz10Tnsa6Zzzz30Bass2Zzzz6Bass10Zzzz70Hmng10Zzzz10HmngZzzz7HmngZzzz",
   "21Hmng5Zzzz19Hmng688Zzzz91Medf101Zzzz75Plrd4Zzzz57Plrd7Zzzz17Plrd64ZzzzTangNshu2HaniKits",
   "11Zzzz2Hani14Zzzz6136Tang8Zzzz768Tang470Kits42Zzzz9Tang8935Zzzz4KanaZzzz7KanaZzzz2KanaZzzz",
   "Kana287Hira3Kana15ZzzzHira29Zzzz3Hira2ZzzzKana14Zzzz4Kana8Zzzz396Nshu2308Zzzz107Dupl5Zzzz",
   "13Dupl3Zzzz9Dupl7Zzzz10Dupl2Zzzz4Dupl4Zyyy4700Zzzz46Zinh2Zzzz23Zinh9Zzzz116Zyyy60Zzzz246Zyyy",
   "10Zzzz39Zyyy2Zzzz62Zyyy3Zinh17Zyyy8Zinh2Zyyy7Zinh30Zyyy4Zinh61Zyyy21Zzzz70Grek122Zzzz20Zyyy",
   "12Zzzz20Zyyy12Zzzz87Zyyy9Zzzz25Zyyy135Zzzz85ZyyyZzzz71ZyyyZzzz2Zyyy2ZzzzZyyy2Zzzz2Zyyy2Zzzz",
   "4ZyyyZzzz12ZyyyZzzzZyyyZzzz7ZyyyZzzz65ZyyyZzzz4Zyyy2Zzzz8ZyyyZzzz7ZyyyZzzz28ZyyyZzzz4Zyyy",
   "Zzzz5ZyyyZzzzZyyy3Zzzz7ZyyyZzzz340Zyyy2Zzzz292Zyyy2Zzzz50Zyyy652Sgnw15Zzzz5SgnwZzzz15Sgnw",
   "1104Zzzz31Latn6Zzzz6Latn213Zzzz7GlagZzzz17Glag2Zzzz7GlagZzzz2GlagZzzz5Glag5Zzzz62Cyrl33Zzzz",
   "Cyrl112Zzzz45Hmnp3Zzzz14Hmnp2Zzzz10Hmnp4Zzzz2Hmnp320Zzzz31Toto17Zzzz58Wcho5ZzzzWcho464Zzzz",
   "42Nagm742Zzzz7EthiZzzz4EthiZzzz2EthiZzzz15EthiZzzz197Mend2Zzzz16Mend41Zzzz76Adlm4Zzzz10Adlm",
   "4Zzzz2Adlm785Zzzz68Zyyy76Zzzz61Zyyy194Zzzz4ArabZzzz27ArabZzzz2ArabZzzzArab2ZzzzArabZzzz",
   "10ArabZzzz4ArabZzzzArabZzzzArab6ZzzzArab4ZzzzArabZzzzArabZzzzArabZzzz3ArabZzzz2ArabZzzzArab",
   "2ZzzzArabZzzzArabZzzzArabZzzzArabZzzzArabZzzz2ArabZzzzArab2Zzzz4ArabZzzz7ArabZzzz4ArabZzzz",
   "4ArabZzzzArabZzzz10ArabZzzz17Arab5Zzzz3ArabZzzz5ArabZzzz17Arab52Zzzz2Arab270Zzzz44Zyyy4Zzzz",
   "100Zyyy12Zzzz15Zyyy2Zzzz15ZyyyZzzz15ZyyyZzzz37Zyyy10Zzzz174Zyyy56Zzzz26ZyyyHira2Zyyy13Zzzz",
   "44Zyyy4Zzzz9Zyyy7Zzzz2Zyyy14Zzzz6Zyyy154Zzzz984Zyyy4Zzzz17Zyyy3Zzzz13Zyyy3Zzzz119Zyyy4Zzzz",
   "95Zyyy6Zzzz12Zyyy4ZzzzZyyy15Zzzz12Zyyy4Zzzz56Zyyy8Zzzz10Zyyy6Zzzz40Zyyy8Zzzz30Zyyy2Zzzz2Zyyy",
   "78Zzzz340Zyyy12Zzzz14Zyyy2Zzzz13Zyyy3Zzzz9Zyyy7Zzzz46ZyyyZzzz7Zyyy8Zzzz14Zyyy4Zzzz9Zyyy7Zzzz",
   "9Zyyy7Zzzz147ZyyyZzzz55Zyyy37Zzzz10Zyyy1030Zzzz42720Hani32Zzzz4154Hani6Zzzz222Hani2Zzzz",
   "5762Hani14Zzzz7473Hani15Zzzz622Hani2466Zzzz542Hani1506Zzzz4939Hani5Zzzz4192Hani711761Zzzz",
   "Zyyy30Zzzz96Zyyy128Zzzz240Zinh196112Zzzz"]

/-- The script of a character. -/
def script (c : Char) : String := scriptRuns.find c.toNat

/-- Codes of scripts, each with a name in small letters only. -/
def scriptNames : List (String × String) :=
  [("Adlm", "adlam"), ("Aghb", "caucasianalbanian"), ("Ahom", "ahom"), ("Arab", "arabic"),
   ("Armi", "imperialaramaic"), ("Armn", "armenian"), ("Avst", "avestan"), ("Bali", "balinese"),
   ("Bamu", "bamum"), ("Bass", "bassavah"), ("Batk", "batak"), ("Beng", "bengali"),
   ("Bhks", "bhaiksuki"), ("Bopo", "bopomofo"), ("Brah", "brahmi"), ("Brai", "braille"),
   ("Bugi", "buginese"), ("Buhd", "buhid"), ("Cakm", "chakma"), ("Cans", "canadianaboriginal"),
   ("Cari", "carian"), ("Cham", "cham"), ("Cher", "cherokee"), ("Chrs", "chorasmian"),
   ("Copt", "coptic"), ("Copt", "qaac"), ("Cpmn", "cyprominoan"), ("Cprt", "cypriot"),
   ("Cyrl", "cyrillic"), ("Deva", "devanagari"), ("Diak", "divesakuru"), ("Dogr", "dogra"),
   ("Dsrt", "deseret"), ("Dupl", "duployan"), ("Egyp", "egyptianhieroglyphs"),
   ("Elba", "elbasan"), ("Elym", "elymaic"), ("Ethi", "ethiopic"), ("Geor", "georgian"),
   ("Glag", "glagolitic"), ("Gong", "gunjalagondi"), ("Gonm", "masaramgondi"),
   ("Goth", "gothic"), ("Gran", "grantha"), ("Grek", "greek"), ("Gujr", "gujarati"),
   ("Guru", "gurmukhi"), ("Hang", "hangul"), ("Hani", "han"), ("Hano", "hanunoo"),
   ("Hatr", "hatran"), ("Hebr", "hebrew"), ("Hira", "hiragana"),
   ("Hluw", "anatolianhieroglyphs"), ("Hmng", "pahawhhmong"), ("Hmnp", "nyiakengpuachuehmong"),
   ("Hung", "oldhungarian"), ("Ital", "olditalic"), ("Java", "javanese"), ("Kali", "kayahli"),
   ("Kana", "katakana"), ("Kawi", "kawi"), ("Khar", "kharoshthi"), ("Khmr", "khmer"),
   ("Khoj", "khojki"), ("Kits", "khitansmallscript"), ("Knda", "kannada"), ("Kthi", "kaithi"),
   ("Lana", "taitham"), ("Laoo", "lao"), ("Latn", "latin"), ("Lepc", "lepcha"),
   ("Limb", "limbu"), ("Lina", "lineara"), ("Linb", "linearb"), ("Lisu", "lisu"),
   ("Lyci", "lycian"), ("Lydi", "lydian"), ("Mahj", "mahajani"), ("Maka", "makasar"),
   ("Mand", "mandaic"), ("Mani", "manichaean"), ("Marc", "marchen"), ("Medf", "medefaidrin"),
   ("Mend", "mendekikakui"), ("Merc", "meroiticcursive"), ("Mero", "meroitichieroglyphs"),
   ("Mlym", "malayalam"), ("Modi", "modi"), ("Mong", "mongolian"), ("Mroo", "mro"),
   ("Mtei", "meeteimayek"), ("Mult", "multani"), ("Mymr", "myanmar"), ("Nagm", "nagmundari"),
   ("Nand", "nandinagari"), ("Narb", "oldnortharabian"), ("Nbat", "nabataean"),
   ("Newa", "newa"), ("Nkoo", "nko"), ("Nshu", "nushu"), ("Ogam", "ogham"), ("Olck", "olchiki"),
   ("Orkh", "oldturkic"), ("Orya", "oriya"), ("Osge", "osage"), ("Osma", "osmanya"),
   ("Ougr", "olduyghur"), ("Palm", "palmyrene"), ("Pauc", "paucinhau"), ("Perm", "oldpermic"),
   ("Phag", "phagspa"), ("Phli", "inscriptionalpahlavi"), ("Phlp", "psalterpahlavi"),
   ("Phnx", "phoenician"), ("Plrd", "miao"), ("Prti", "inscriptionalparthian"),
   ("Rjng", "rejang"), ("Rohg", "hanifirohingya"), ("Runr", "runic"), ("Samr", "samaritan"),
   ("Sarb", "oldsoutharabian"), ("Saur", "saurashtra"), ("Sgnw", "signwriting"),
   ("Shaw", "shavian"), ("Shrd", "sharada"), ("Sidd", "siddham"), ("Sind", "khudawadi"),
   ("Sinh", "sinhala"), ("Sogd", "sogdian"), ("Sogo", "oldsogdian"), ("Sora", "sorasompeng"),
   ("Soyo", "soyombo"), ("Sund", "sundanese"), ("Sylo", "sylotinagri"), ("Syrc", "syriac"),
   ("Tagb", "tagbanwa"), ("Takr", "takri"), ("Tale", "taile"), ("Talu", "newtailue"),
   ("Taml", "tamil"), ("Tang", "tangut"), ("Tavt", "taiviet"), ("Telu", "telugu"),
   ("Tfng", "tifinagh"), ("Tglg", "tagalog"), ("Thaa", "thaana"), ("Thai", "thai"),
   ("Tibt", "tibetan"), ("Tirh", "tirhuta"), ("Tnsa", "tangsa"), ("Toto", "toto"),
   ("Ugar", "ugaritic"), ("Vaii", "vai"), ("Vith", "vithkuqi"), ("Wara", "warangciti"),
   ("Wcho", "wancho"), ("Xpeo", "oldpersian"), ("Xsux", "cuneiform"), ("Yezi", "yezidi"),
   ("Yiii", "yi"), ("Zanb", "zanabazarsquare"), ("Zinh", "inherited"), ("Zinh", "qaai"),
   ("Zyyy", "common"), ("Zzzz", "unknown")]

/-- The script that goes by a name or a code in small letters. -/
def scriptNamed? (name : String) : Option String :=
  let named := scriptNames.find? fun p =>
    p.2 == name || String.ofList (p.1.toList.map Char.toLower) == name
  named.map (·.1)

end GatedRelay.Text
