import GatedRelay.Text.Blank
import GatedRelay.Text.Category
import GatedRelay.Text.Script

/-!
Properties of characters, and the names that they go by in small letters without spaces.
-/

namespace GatedRelay.Text

def inRanges (ranges : List (Nat × Nat)) (c : Char) : Bool :=
  ranges.any fun r => r.1 ≤ c.toNat && c.toNat ≤ r.2

/-- Characters that count as small letters although their category does not say so. -/
def otherLowercase : List (Nat × Nat) :=
  [(0xaa, 0xaa), (0xba, 0xba), (0x2b0, 0x2b8), (0x2c0, 0x2c1), (0x2e0, 0x2e4), (0x345, 0x345),
   (0x37a, 0x37a), (0x10fc, 0x10fc), (0x1d2c, 0x1d6a), (0x1d78, 0x1d78), (0x1d9b, 0x1dbf),
   (0x2071, 0x2071), (0x207f, 0x207f), (0x2090, 0x209c), (0x2170, 0x217f), (0x24d0, 0x24e9),
   (0x2c7c, 0x2c7d), (0xa69c, 0xa69d), (0xa770, 0xa770), (0xa7f2, 0xa7f4), (0xa7f8, 0xa7f9),
   (0xab5c, 0xab5f), (0xab69, 0xab69), (0x10780, 0x10780), (0x10783, 0x10785),
   (0x10787, 0x107b0), (0x107b2, 0x107ba), (0x1e030, 0x1e06d)]

/-- Characters that count as capital letters although their category does not say so. -/
def otherUppercase : List (Nat × Nat) :=
  [(0x2160, 0x216f), (0x24b6, 0x24cf), (0x1f130, 0x1f149), (0x1f150, 0x1f169),
   (0x1f170, 0x1f189)]

def emojiRuns : Runs := Runs.ofLines
  ["35NY6NY5N10Y111NY4NY8077NY12NY216NY22NY90N6Y15N2Y367N2Y12NY166NY25N11Y4N3Y199NY231N2Y10NY9NY",
   "58N4YN5Y9NY2NY2N2Y2NY4NY2NYN2Y2NY3NY3N2Y8N3Y5NYNY5N12Y11N2Y2NYN2YNY18NY2N2Y18N6YNYN2Y3N2Y5NY",
   "2N2Y4N2Y11N2Y5N2Y2NY5N2YNYN2Y20N2Y5N6YN4Y2NY4NY2NY2N6YNY2NYNYNY6NY3NY6NY10N2Y15NY2NY4NYNY4N",
   "3YNY11N2Y48N3Y9NY14NY14NY372N2Y463N3Y19N2Y51NY4NY1242NY12NY601NYNY114026NY202NY160N2Y12N2Y",
   "14NY2N10Y75N26YN2Y23NY20NY2N9Y21N2Y174N34Y2N112Y2N2YN3Y2N83Y2N3YN263YN63Y11N6YN24Y7N2Y2N8Y",
   "12NY2N4Y2NY4N2Y13N2Y2NY8N2Y9NY5N3Y12N3Y8N3Y2NYNY4NY6NY3NY6N86Y48N70Y5N8Y2N3Y4N10Y3NYN2Y3NY2N",
   "10Y227N12Y4NY283N47YN10YN185Y112N13Y3N9Y7N46YN7Y8N14Y4N9Y7N9Y984327N"]

inductive Property
  /-- A category by its code; a code of one letter stands for all that start with it. -/
  | category (code : String)
  | script (code : String)
  | word
  | decimalDigit
  | blank
  | alphabetic
  | lowercase
  | uppercase
  | cased
  | emoji
  | within (ranges : List (Nat × Nat))

namespace Property

def holds (p : Property) (c : Char) : Bool :=
  match p with
  | category code =>
    if code = "LC" then ["Lu", "Ll", "Lt"].contains (Text.category c)
    else code.toList.isPrefixOf (Text.category c).toList
  | script code => Text.script c == code
  | word => isWordChar c
  | decimalDigit => isDecimalDigit c
  | blank => isBlank c
  | alphabetic => isAlphabetic c
  | lowercase => Text.category c == "Ll" || inRanges otherLowercase c
  | uppercase => Text.category c == "Lu" || inRanges otherUppercase c
  | cased =>
    ["Lu", "Ll", "Lt"].contains (Text.category c) || inRanges (otherLowercase ++ otherUppercase) c
  | emoji => emojiRuns.find c.toNat == "Y"
  | within ranges => inRanges ranges c

/-- Properties that are not named for a category or a script. -/
def ownNames : List (List String × Property) :=
  [(["alphabetic", "alpha"], alphabetic),
   (["lowercase", "lower"], lowercase),
   (["uppercase", "upper"], uppercase),
   (["cased"], cased),
   (["whitespace", "wspace", "space"], blank),
   (["emoji"], emoji),
   (["emojimodifier", "emod"], within [(0x1f3fb, 0x1f3ff)]),
   (["asciihexdigit", "ahex"], within [(0x30, 0x39), (0x41, 0x46), (0x61, 0x66)]),
   (["hexdigit", "hex"],
    within [(0x30, 0x39), (0x41, 0x46), (0x61, 0x66), (0xff10, 0xff19), (0xff21, 0xff26),
      (0xff41, 0xff46)]),
   (["joincontrol", "joinc"], within [(0x200c, 0x200d)]),
   (["patternwhitespace", "patws"],
    within [(0x9, 0xd), (0x20, 0x20), (0x85, 0x85), (0x200e, 0x200f), (0x2028, 0x2029)]),
   (["regionalindicator", "ri"], within [(0x1f1e6, 0x1f1ff)]),
   (["variationselector", "vs"],
    within [(0x180b, 0x180d), (0x180f, 0x180f), (0xfe00, 0xfe0f), (0xe0100, 0xe01ef)]),
   (["ideographic", "ideo"],
    within [(0x3006, 0x3007), (0x3021, 0x3029), (0x3038, 0x303a), (0x3400, 0x4dbf),
      (0x4e00, 0x9fff), (0xf900, 0xfa6d), (0xfa70, 0xfad9), (0x16fe4, 0x16fe4),
      (0x17000, 0x187f7), (0x18800, 0x18cd5), (0x18d00, 0x18d08), (0x1b170, 0x1b2fb),
      (0x20000, 0x2a6df), (0x2a700, 0x2b739), (0x2b740, 0x2b81d), (0x2b820, 0x2cea1),
      (0x2ceb0, 0x2ebe0), (0x2ebf0, 0x2ee5d), (0x2f800, 0x2fa1d), (0x30000, 0x3134a),
      (0x31350, 0x323af)]),
   (["dash"],
    within [(0x2d, 0x2d), (0x58a, 0x58a), (0x5be, 0x5be), (0x1400, 0x1400), (0x1806, 0x1806),
      (0x2010, 0x2015), (0x2053, 0x2053), (0x207b, 0x207b), (0x208b, 0x208b), (0x2212, 0x2212),
      (0x2e17, 0x2e17), (0x2e1a, 0x2e1a), (0x2e3a, 0x2e3b), (0x2e40, 0x2e40), (0x2e5d, 0x2e5d),
      (0x301c, 0x301c), (0x3030, 0x3030), (0x30a0, 0x30a0), (0xfe31, 0xfe32), (0xfe58, 0xfe58),
      (0xfe63, 0xfe63), (0xff0d, 0xff0d), (0x10ead, 0x10ead)])]

/-- Categories by code, each with the names that it goes by. -/
def categoryNames : List (String × List String) :=
  [("C", ["c", "other"]), ("Cc", ["cc", "control", "cntrl"]), ("Cf", ["cf", "format"]),
   ("Cn", ["cn", "unassigned"]), ("Co", ["co", "privateuse"]), ("L", ["l", "letter"]),
   ("LC", ["lc", "casedletter"]), ("Ll", ["ll", "lowercaseletter"]),
   ("Lm", ["lm", "modifierletter"]), ("Lo", ["lo", "otherletter"]),
   ("Lt", ["lt", "titlecaseletter"]), ("Lu", ["lu", "uppercaseletter"]),
   ("M", ["m", "mark", "combiningmark"]), ("Mc", ["mc", "spacingmark"]),
   ("Me", ["me", "enclosingmark"]), ("Mn", ["mn", "nonspacingmark"]), ("N", ["n", "number"]),
   ("Nd", ["nd", "decimalnumber", "digit"]), ("Nl", ["nl", "letternumber"]),
   ("No", ["no", "othernumber"]), ("P", ["p", "punctuation", "punct"]),
   ("Pc", ["pc", "connectorpunctuation"]), ("Pd", ["pd", "dashpunctuation"]),
   ("Pe", ["pe", "closepunctuation"]), ("Pf", ["pf", "finalpunctuation"]),
   ("Pi", ["pi", "initialpunctuation"]), ("Po", ["po", "otherpunctuation"]),
   ("Ps", ["ps", "openpunctuation"]), ("S", ["s", "symbol"]), ("Sc", ["sc", "currencysymbol"]),
   ("Sk", ["sk", "modifiersymbol"]), ("Sm", ["sm", "mathsymbol"]), ("So", ["so", "othersymbol"]),
   ("Z", ["z", "separator"]), ("Zl", ["zl", "lineseparator"]),
   ("Zp", ["zp", "paragraphseparator"]), ("Zs", ["zs", "spaceseparator"])]

def categoryNamed? (name : String) : Option Property :=
  (categoryNames.find? fun p => p.2.contains name).map fun p => category p.1

def scriptNamed? (name : String) : Option Property := (Text.scriptNamed? name).map script

def ownNamed? (name : String) : Option Property :=
  (ownNames.find? fun p => p.1.contains name).map (·.2)

end Property

end GatedRelay.Text
