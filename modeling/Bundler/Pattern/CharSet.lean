import Bundler.Text.Blank
import Bundler.Text.CaseFold
import Bundler.Text.Category

/-!
Sets of characters, as patterns name them.
-/

namespace Bundler.Pattern

inductive CharSet where
  | empty
  | range (first last : Char)
  /-- The characters of some general categories. -/
  | categories (names : List Text.Category)
  | blank
  | union (a b : CharSet)
  | intersection (a b : CharSet)
  | difference (a b : CharSet)
  | symmetricDifference (a b : CharSet)
  | complement (a : CharSet)
  /-- The set with all letters of the other case. -/
  | folded (a : CharSet)
  deriving DecidableEq, Repr

namespace CharSet

def contains : CharSet → Char → Bool
  | empty, _ => false
  | range first last, c => first ≤ c && c ≤ last
  | categories names, c => names.contains (Text.Category.of c)
  | blank, c => Text.isBlank c
  | union a b, c => a.contains c || b.contains c
  | intersection a b, c => a.contains c && b.contains c
  | difference a b, c => a.contains c && !b.contains c
  | symmetricDifference a b, c => a.contains c != b.contains c
  | complement a, c => !a.contains c
  | folded a, c => a.contains c || (Text.caseVariants c).any a.contains

def all : CharSet := complement empty

def singleton (c : Char) : CharSet := range c c

def unions : List CharSet → CharSet := List.foldr union empty

def ofRanges (ranges : List (Char × Char)) : CharSet := unions (ranges.map fun (a, b) => range a b)

/-- The set whose ranges are given by code points. -/
def ofCodes (ranges : List (Nat × Nat)) : CharSet :=
  ofRanges (ranges.map fun (a, b) => (Char.ofNat a, Char.ofNat b))

def digit : CharSet := categories [.nd]

/-- Letters with a circle or a square around them, which count as letters. -/
def framedLetters : CharSet := ofCodes [(0x24B6, 0x24E9), (0x1F130, 0x1F149), (0x1F150, 0x1F169), (0x1F170, 0x1F189)]

def letters : CharSet := categories [.lu, .ll, .lt, .lm, .lo]

def alphabetic : CharSet := unions [letters, categories [.nl], framedLetters]

/-- The characters of words. -/
def word : CharSet :=
  unions [alphabetic, categories [.mn, .mc, .me, .nd, .pc], ofCodes [(0x200C, 0x200D)]]

def asciiDigit : CharSet := range '0' '9'
def asciiBlank : CharSet := unions [singleton ' ', range '\t' '\r']
def asciiWord : CharSet := ofRanges [('0', '9'), ('A', 'Z'), ('a', 'z'), ('_', '_')]

/-- The named sets of characters below 128. -/
def posix? (name : String) : Option CharSet :=
  match name with
  | "alnum" => some (ofRanges [('0', '9'), ('A', 'Z'), ('a', 'z')])
  | "alpha" => some (ofRanges [('A', 'Z'), ('a', 'z')])
  | "ascii" => some (range '\x00' '\x7f')
  | "blank" => some (ofRanges [('\t', '\t'), (' ', ' ')])
  | "cntrl" => some (ofRanges [('\x00', '\x1f'), ('\x7f', '\x7f')])
  | "digit" => some asciiDigit
  | "graph" => some (range '!' '\x7e')
  | "lower" => some (range 'a' 'z')
  | "print" => some (range ' ' '\x7e')
  | "punct" => some (ofRanges [('!', '/'), (':', '@'), ('[', '\x60'), ('\x7b', '\x7e')])
  | "space" => some asciiBlank
  | "upper" => some (range 'A' 'Z')
  | "word" => some asciiWord
  | "xdigit" => some (ofRanges [('0', '9'), ('A', 'F'), ('a', 'f')])
  | _ => none

/-- The general categories under a name, a long one or a group. -/
def categoriesOf? (name : String) : Option (List Text.Category) :=
  match name with
  | "l" | "letter" => some [.lu, .ll, .lt, .lm, .lo]
  | "lc" | "casedletter" => some [.lu, .ll, .lt]
  | "lu" | "uppercaseletter" => some [.lu]
  | "ll" | "lowercaseletter" => some [.ll]
  | "lt" | "titlecaseletter" => some [.lt]
  | "lm" | "modifierletter" => some [.lm]
  | "lo" | "otherletter" => some [.lo]
  | "m" | "mark" | "combiningmark" => some [.mn, .mc, .me]
  | "mn" | "nonspacingmark" => some [.mn]
  | "mc" | "spacingmark" => some [.mc]
  | "me" | "enclosingmark" => some [.me]
  | "n" | "number" => some [.nd, .nl, .no]
  | "nd" | "decimalnumber" | "digit" => some [.nd]
  | "nl" | "letternumber" => some [.nl]
  | "no" | "othernumber" => some [.no]
  | "p" | "punctuation" | "punct" => some [.pc, .pd, .ps, .pe, .pi, .pf, .po]
  | "pc" | "connectorpunctuation" => some [.pc]
  | "pd" | "dashpunctuation" => some [.pd]
  | "ps" | "openpunctuation" => some [.ps]
  | "pe" | "closepunctuation" => some [.pe]
  | "pi" | "initialpunctuation" => some [.pi]
  | "pf" | "finalpunctuation" => some [.pf]
  | "po" | "otherpunctuation" => some [.po]
  | "s" | "symbol" => some [.sm, .sc, .sk, .so]
  | "sm" | "mathsymbol" => some [.sm]
  | "sc" | "currencysymbol" => some [.sc]
  | "sk" | "modifiersymbol" => some [.sk]
  | "so" | "othersymbol" => some [.so]
  | "z" | "separator" => some [.zs, .zl, .zp]
  | "zs" | "spaceseparator" => some [.zs]
  | "zl" | "lineseparator" => some [.zl]
  | "zp" | "paragraphseparator" => some [.zp]
  | "c" | "other" => some [.cc, .cf, .cs, .co, .cn]
  | "cc" | "control" | "cntrl" => some [.cc]
  | "cf" | "format" => some [.cf]
  | "cs" | "surrogate" => some [.cs]
  | "co" | "privateuse" => some [.co]
  | "cn" | "unassigned" => some [.cn]
  | _ => none

/-- The scripts that have a name. -/
def script? (name : String) : Option CharSet :=
  match name with
  | "latin" | "latn" => some (ofCodes [(65, 90), (97, 122), (170, 170), (186, 186), (192, 214),
      (216, 246), (248, 696), (736, 740), (7424, 7461), (7468, 7516), (7522, 7525), (7531, 7543),
      (7545, 7614), (7680, 7935), (8305, 8305), (8319, 8319), (8336, 8348), (8490, 8491),
      (8498, 8498), (8526, 8526), (8544, 8584), (11360, 11391), (42786, 42887), (42891, 42954),
      (42960, 42961), (42963, 42963), (42965, 42969), (42994, 43007), (43824, 43866),
      (43868, 43876), (43878, 43881), (64256, 64262), (65313, 65338), (65345, 65370),
      (67456, 67461), (67463, 67504), (67506, 67514), (122624, 122654), (122661, 122666)])
  | "greek" | "grek" => some (ofCodes [(880, 883), (885, 887), (890, 893), (895, 895), (900, 900),
      (902, 902), (904, 906), (908, 908), (910, 929), (931, 993), (1008, 1023), (7462, 7466),
      (7517, 7521), (7526, 7530), (7615, 7615), (7936, 7957), (7960, 7965), (7968, 8005),
      (8008, 8013), (8016, 8023), (8025, 8025), (8027, 8027), (8029, 8029), (8031, 8061),
      (8064, 8116), (8118, 8132), (8134, 8147), (8150, 8155), (8157, 8175), (8178, 8180),
      (8182, 8190), (8486, 8486), (43877, 43877), (65856, 65934), (65952, 65952), (119296, 119365)])
  | "cyrillic" | "cyrl" => some (ofCodes [(1024, 1156), (1159, 1327), (7296, 7304), (7467, 7467),
      (7544, 7544), (11744, 11775), (42560, 42655), (65070, 65071), (122928, 122989),
      (123023, 123023)])
  | "armenian" | "armn" => some (ofCodes [(1329, 1366), (1369, 1418), (1421, 1423), (64275, 64279)])
  | "hebrew" | "hebr" => some (ofCodes [(1425, 1479), (1488, 1514), (1519, 1524), (64285, 64310),
      (64312, 64316), (64318, 64318), (64320, 64321), (64323, 64324), (64326, 64335)])
  | "arabic" | "arab" => some (ofCodes [(1536, 1540), (1542, 1547), (1549, 1562), (1564, 1566),
      (1568, 1599), (1601, 1610), (1622, 1647), (1649, 1756), (1758, 1791), (1872, 1919),
      (2160, 2190), (2192, 2193), (2200, 2273), (2275, 2303), (64336, 64450), (64467, 64829),
      (64832, 64911), (64914, 64967), (64975, 64975), (65008, 65023), (65136, 65140),
      (65142, 65276), (69216, 69246), (69373, 69375), (126464, 126467), (126469, 126495),
      (126497, 126498), (126500, 126500), (126503, 126503), (126505, 126514), (126516, 126519),
      (126521, 126521), (126523, 126523), (126530, 126530), (126535, 126535), (126537, 126537),
      (126539, 126539), (126541, 126543), (126545, 126546), (126548, 126548), (126551, 126551),
      (126553, 126553), (126555, 126555), (126557, 126557), (126559, 126559), (126561, 126562),
      (126564, 126564), (126567, 126570), (126572, 126578), (126580, 126583), (126585, 126588),
      (126590, 126590), (126592, 126601), (126603, 126619), (126625, 126627), (126629, 126633),
      (126635, 126651), (126704, 126705)])
  | "devanagari" | "deva" => some (ofCodes [(2304, 2384), (2389, 2403), (2406, 2431),
      (43232, 43263), (72448, 72457)])
  | "bengali" | "beng" => some (ofCodes [(2432, 2435), (2437, 2444), (2447, 2448), (2451, 2472),
      (2474, 2480), (2482, 2482), (2486, 2489), (2492, 2500), (2503, 2504), (2507, 2510),
      (2519, 2519), (2524, 2525), (2527, 2531), (2534, 2558)])
  | "thai" => some (ofCodes [(3585, 3642), (3648, 3675)])
  | "georgian" | "geor" => some (ofCodes [(4256, 4293), (4295, 4295), (4301, 4301), (4304, 4346),
      (4348, 4351), (7312, 7354), (7357, 7359), (11520, 11557), (11559, 11559), (11565, 11565)])
  | "hangul" | "hang" => some (ofCodes [(4352, 4607), (12334, 12335), (12593, 12686),
      (12800, 12830), (12896, 12926), (43360, 43388), (44032, 55203), (55216, 55238),
      (55243, 55291), (65440, 65470), (65474, 65479), (65482, 65487), (65490, 65495),
      (65498, 65500)])
  | "hiragana" | "hira" => some (ofCodes [(12353, 12438), (12445, 12447), (110593, 110879),
      (110898, 110898), (110928, 110930), (127488, 127488)])
  | "katakana" | "kana" => some (ofCodes [(12449, 12538), (12541, 12543), (12784, 12799),
      (13008, 13054), (13056, 13143), (65382, 65391), (65393, 65437), (110576, 110579),
      (110581, 110587), (110589, 110590), (110592, 110592), (110880, 110882), (110933, 110933),
      (110948, 110951)])
  | "bopomofo" | "bopo" => some (ofCodes [(746, 747), (12549, 12591), (12704, 12735)])
  | "han" | "hani" => some (ofCodes [(11904, 11929), (11931, 12019), (12032, 12245),
      (12293, 12293), (12295, 12295), (12321, 12329), (12344, 12347), (13312, 19903),
      (19968, 40959), (63744, 64109), (64112, 64217), (94178, 94179), (94192, 94193),
      (131072, 173791), (173824, 177977), (177984, 178205), (178208, 183969), (183984, 191456),
      (194560, 195101), (196608, 201546), (201552, 205743)])
  | _ => none

/-- The characters that are shown as pictures or take part in their sequences. -/
def emoji : CharSet := ofCodes [
  (0x23, 0x23), (0x2A, 0x2A), (0x30, 0x39), (0xA9, 0xA9), (0xAE, 0xAE), (0x203C, 0x203C),
  (0x2049, 0x2049), (0x2122, 0x2122), (0x2139, 0x2139), (0x2194, 0x2199), (0x21A9, 0x21AA),
  (0x231A, 0x231B), (0x2328, 0x2328), (0x23CF, 0x23CF), (0x23E9, 0x23F3), (0x23F8, 0x23FA),
  (0x24C2, 0x24C2), (0x25AA, 0x25AB), (0x25B6, 0x25B6), (0x25C0, 0x25C0), (0x25FB, 0x25FE),
  (0x2600, 0x2604), (0x260E, 0x260E), (0x2611, 0x2611), (0x2614, 0x2615), (0x2618, 0x2618),
  (0x261D, 0x261D), (0x2620, 0x2620), (0x2622, 0x2623), (0x2626, 0x2626), (0x262A, 0x262A),
  (0x262E, 0x262F), (0x2638, 0x263A), (0x2640, 0x2640), (0x2642, 0x2642), (0x2648, 0x2653),
  (0x265F, 0x2660), (0x2663, 0x2663), (0x2665, 0x2666), (0x2668, 0x2668), (0x267B, 0x267B),
  (0x267E, 0x267F), (0x2692, 0x2697), (0x2699, 0x2699), (0x269B, 0x269C), (0x26A0, 0x26A1),
  (0x26A7, 0x26A7), (0x26AA, 0x26AB), (0x26B0, 0x26B1), (0x26BD, 0x26BE), (0x26C4, 0x26C5),
  (0x26C8, 0x26C8), (0x26CE, 0x26CF), (0x26D1, 0x26D1), (0x26D3, 0x26D4), (0x26E9, 0x26EA),
  (0x26F0, 0x26F5), (0x26F7, 0x26FA), (0x26FD, 0x26FD), (0x2702, 0x2702), (0x2705, 0x2705),
  (0x2708, 0x270D), (0x270F, 0x270F), (0x2712, 0x2712), (0x2714, 0x2714), (0x2716, 0x2716),
  (0x271D, 0x271D), (0x2721, 0x2721), (0x2728, 0x2728), (0x2733, 0x2734), (0x2744, 0x2744),
  (0x2747, 0x2747), (0x274C, 0x274C), (0x274E, 0x274E), (0x2753, 0x2755), (0x2757, 0x2757),
  (0x2763, 0x2764), (0x2795, 0x2797), (0x27A1, 0x27A1), (0x27B0, 0x27B0), (0x27BF, 0x27BF),
  (0x2934, 0x2935), (0x2B05, 0x2B07), (0x2B1B, 0x2B1C), (0x2B50, 0x2B50), (0x2B55, 0x2B55),
  (0x3030, 0x3030), (0x303D, 0x303D), (0x3297, 0x3297), (0x3299, 0x3299), (0x1F004, 0x1F004),
  (0x1F0CF, 0x1F0CF), (0x1F170, 0x1F171), (0x1F17E, 0x1F17F), (0x1F18E, 0x1F18E), (0x1F191, 0x1F19A),
  (0x1F1E6, 0x1F1FF), (0x1F201, 0x1F202), (0x1F21A, 0x1F21A), (0x1F22F, 0x1F22F), (0x1F232, 0x1F23A),
  (0x1F250, 0x1F251), (0x1F300, 0x1F321), (0x1F324, 0x1F393), (0x1F396, 0x1F397), (0x1F399, 0x1F39B),
  (0x1F39E, 0x1F3F0), (0x1F3F3, 0x1F3F5), (0x1F3F7, 0x1F4FD), (0x1F4FF, 0x1F53D), (0x1F549, 0x1F54E),
  (0x1F550, 0x1F567), (0x1F56F, 0x1F570), (0x1F573, 0x1F57A), (0x1F587, 0x1F587), (0x1F58A, 0x1F58D),
  (0x1F590, 0x1F590), (0x1F595, 0x1F596), (0x1F5A4, 0x1F5A5), (0x1F5A8, 0x1F5A8), (0x1F5B1, 0x1F5B2),
  (0x1F5BC, 0x1F5BC), (0x1F5C2, 0x1F5C4), (0x1F5D1, 0x1F5D3), (0x1F5DC, 0x1F5DE), (0x1F5E1, 0x1F5E1),
  (0x1F5E3, 0x1F5E3), (0x1F5E8, 0x1F5E8), (0x1F5EF, 0x1F5EF), (0x1F5F3, 0x1F5F3), (0x1F5FA, 0x1F64F),
  (0x1F680, 0x1F6C5), (0x1F6CB, 0x1F6D2), (0x1F6D5, 0x1F6D7), (0x1F6DC, 0x1F6E5), (0x1F6E9, 0x1F6E9),
  (0x1F6EB, 0x1F6EC), (0x1F6F0, 0x1F6F0), (0x1F6F3, 0x1F6FC), (0x1F7E0, 0x1F7EB), (0x1F7F0, 0x1F7F0),
  (0x1F90C, 0x1F93A), (0x1F93C, 0x1F945), (0x1F947, 0x1F9FF), (0x1FA70, 0x1FA7C), (0x1FA80, 0x1FA88),
  (0x1FA90, 0x1FABD), (0x1FABF, 0x1FAC5), (0x1FACE, 0x1FADB), (0x1FAE0, 0x1FAE8), (0x1FAF0, 0x1FAF8)]

/-- The sets under a name that is no category and no script. -/
def property? (name : String) : Option CharSet :=
  match name with
  | "any" => some all
  | "assigned" => some (complement (categories [.cn]))
  | "ascii" => some (range '\x00' '\x7f')
  | "alphabetic" | "alpha" => some alphabetic
  | "uppercase" | "upper" => some (unions [categories [.lu],
      ofCodes [(0x2160, 0x216F), (0x24B6, 0x24CF), (0x1F130, 0x1F149), (0x1F150, 0x1F169), (0x1F170, 0x1F189)]])
  | "lowercase" | "lower" => some (unions [categories [.ll],
      ofCodes [(0xAA, 0xAA), (0xBA, 0xBA), (0x2B0, 0x2B8), (0x2C0, 0x2C1), (0x2E0, 0x2E4), (0x2170, 0x217F),
        (0x24D0, 0x24E9)]])
  | "whitespace" | "wspace" | "space" => some blank
  | "emoji" => some emoji
  | _ => none

/-- A name without what loose matching ignores: case, separators, and `is` before it. -/
def looseName (name : List Char) : String :=
  let unmarked := match name with
    | i :: s :: rest => if i.toLower = 'i' && s.toLower = 's' then rest else name
    | _ => name
  let plain := (unmarked.filter fun c => c ≠ '_' && c ≠ '-' && c ≠ ' ' && c.val < 128).map Char.toLower
  if plain = ['c'] && unmarked.length < name.length then "isc" else String.ofList plain

/-- The set of a name alone. -/
def named? (name : List Char) : Option CharSet :=
  let plain := looseName name
  ((categoriesOf? plain).map categories).or ((property? plain).or (script? plain))

/-- The set of a name that says first which kind of name it is. -/
def valued? (kind value : List Char) : Option CharSet :=
  let plain := looseName value
  match looseName kind with
  | "gc" | "generalcategory" => ((categoriesOf? plain).map categories).or (match plain with
    | "any" | "assigned" | "ascii" => property? plain
    | _ => none)
  | "sc" | "script" | "scx" | "scriptextensions" => script? plain
  | _ => none

end CharSet

end Bundler.Pattern
