/-!
# Unicode properties

Which characters a named property covers, for ASCII and for the two other characters that are the
same letter as an ASCII one. Names are compared without case, blanks, hyphens and underscores, and
without a leading `is`.
-/

namespace ReplicaPlacement.Pattern

structure Property where
  names : List String
  /-- Inclusive ranges of code points. -/
  members : List (Nat × Nat)

namespace Property

def words (s : String) : List String :=
  ((s.toList.splitOnP (· == ' ')).filter (!·.isEmpty)).map String.ofList

def yesNo : List Property := [
  ⟨words "ahex asciihexdigit hex hexdigit", [(48, 57), (65, 70), (97, 102)]⟩,
  ⟨words "alpha alphabetic cased changeswhencasemapped cwcm ids idstart xids xidstart",
    [(65, 90), (97, 122), (383, 383), (8490, 8490)]⟩,
  ⟨words "bidim bidimirrored",
    [(40, 41), (60, 60), (62, 62), (91, 91), (93, 93), (123, 123), (125, 125)]⟩,
  ⟨words "caseignorable ci", [(39, 39), (46, 46), (58, 58), (94, 94), (96, 96)]⟩,
  ⟨words "changeswhencasefolded cwcf", [(65, 90), (383, 383), (8490, 8490)]⟩,
  ⟨words "changeswhenlowercased cwl upper uppercase", [(65, 90), (8490, 8490)]⟩,
  ⟨words "changeswhentitlecased cwt changeswhenuppercased cwu lower lowercase",
    [(97, 122), (383, 383)]⟩,
  ⟨words "dash hyphen", [(45, 45)]⟩,
  ⟨words "dia diacritic", [(94, 94), (96, 96)]⟩,
  ⟨words "emoji ecomp emojicomponent", [(35, 35), (42, 42), (48, 57)]⟩,
  ⟨words "graphemebase grbase", [(32, 126), (383, 383), (8490, 8490)]⟩,
  ⟨words "idc idcontinue xidc xidcontinue",
    [(48, 57), (65, 90), (95, 95), (97, 122), (383, 383), (8490, 8490)]⟩,
  ⟨words "math", [(43, 43), (60, 62), (94, 94), (124, 124), (126, 126)]⟩,
  ⟨words "patsyn patternsyntax", [(33, 47), (58, 64), (91, 94), (96, 96), (123, 126)]⟩,
  ⟨words "patternwhitespace patws space whitespace wspace", [(9, 13), (32, 32)]⟩,
  ⟨words "qmark quotationmark", [(34, 34), (39, 39)]⟩,
  ⟨words "sentenceterminal sterm", [(33, 33), (46, 46), (63, 63)]⟩,
  ⟨words "sd softdotted", [(105, 106)]⟩,
  ⟨words "term terminalpunctuation", [(33, 33), (44, 44), (46, 46), (58, 59), (63, 63)]⟩,
  ⟨words (
      "bidic bidicontrol defaultignorablecodepoint di dep deprecated emod emojimodifier ebase " ++
      "emojimodifierbase emojipresentation epres extendedpictographic extpict ext extender " ++
      "graphemeextend grext graphemelink idsb idsbinaryoperator idst idstrinaryoperator ideo " ++
      "ideographic joinc joincontrol loe logicalorderexception nchar noncharactercodepoint " ++
      "otheralphabetic otherdefaultignorablecodepoint othergraphemeextend otheridcontinue " ++
      "otheridstart otherlowercase othermath otheruppercase pcm prependedconcatenationmark " ++
      "radical regionalindicator ri uideo unifiedideograph variationselector vs idsu " ++
      "idsunaryoperator idcompatmathstart idcompatmathcontinue mcm modifiercombiningmark "),
    []⟩]

def categories : List Property := [
  ⟨words "c other cc cntrl control", [(0, 31), (127, 127)]⟩,
  ⟨words "l letter casedletter lc", [(65, 90), (97, 122), (383, 383), (8490, 8490)]⟩,
  ⟨words "ll lowercaseletter", [(97, 122), (383, 383)]⟩,
  ⟨words "lu uppercaseletter", [(65, 90), (8490, 8490)]⟩,
  ⟨words "n number decimalnumber digit nd", [(48, 57)]⟩,
  ⟨words "p punct punctuation",
    [(33, 35), (37, 42), (44, 47), (58, 59), (63, 64), (91, 93), (95, 95), (123, 123), (125, 125)]⟩,
  ⟨words "connectorpunctuation pc", [(95, 95)]⟩,
  ⟨words "dashpunctuation pd", [(45, 45)]⟩,
  ⟨words "closepunctuation pe", [(41, 41), (93, 93), (125, 125)]⟩,
  ⟨words "otherpunctuation po",
    [(33, 35), (37, 39), (42, 42), (44, 44), (46, 47), (58, 59), (63, 64), (92, 92)]⟩,
  ⟨words "openpunctuation ps", [(40, 40), (91, 91), (123, 123)]⟩,
  ⟨words "s symbol", [(36, 36), (43, 43), (60, 62), (94, 94), (96, 96), (124, 124), (126, 126)]⟩,
  ⟨words "currencysymbol sc", [(36, 36)]⟩,
  ⟨words "modifiersymbol sk", [(94, 94), (96, 96)]⟩,
  ⟨words "mathsymbol sm", [(43, 43), (60, 62), (124, 124), (126, 126)]⟩,
  ⟨words "separator z spaceseparator zs", [(32, 32)]⟩,
  ⟨words (
      "cf format cn unassigned co privateuse lm modifierletter lo otherletter lt " ++
      "titlecaseletter combiningmark m mark mc spacingmark enclosingmark me mn nonspacingmark " ++
      "letternumber nl no othernumber finalpunctuation pf initialpunctuation pi othersymbol so " ++
      "lineseparator zl paragraphseparator zp "),
    []⟩,
  ⟨words "any assigned", [(0, 127), (383, 383), (8490, 8490)]⟩,
  ⟨words "ascii", [(0, 127)]⟩]

/-- Scripts. Scripts that share characters are no different here. -/
def scripts : List Property := [
  ⟨words "latin latn", [(65, 90), (97, 122), (383, 383), (8490, 8490)]⟩,
  ⟨words "common zyyy", [(0, 64), (91, 96), (123, 127)]⟩,
  ⟨words (
      "adlam adlm aghb caucasianalbanian ahom arab arabic armi imperialaramaic armenian armn " ++
      "avestan avst bali balinese bamu bamum bass bassavah batak batk beng bengali bhaiksuki " ++
      "bhks bopo bopomofo brah brahmi brai braille bugi buginese buhd buhid cakm chakma " ++
      "canadianaboriginal cans cari carian cham cher cherokee chorasmian chrs copt coptic qaac " ++
      "cpmn cyprominoan cprt cypriot cyrillic cyrl deva devanagari diak divesakuru dogr dogra " ++
      "deseret dsrt dupl duployan egyp egyptianhieroglyphs elba elbasan elym elymaic ethi " ++
      "ethiopic geor georgian glag glagolitic gong gunjalagondi gonm masaramgondi goth gothic " ++
      "gran grantha greek grek gujarati gujr gurmukhi guru hang hangul han hani hano hanunoo " ++
      "hatr hatran hebr hebrew hira hiragana anatolianhieroglyphs hluw hmng pahawhhmong hmnp " ++
      "nyiakengpuachuehmong hung oldhungarian ital olditalic java javanese kali kayahli kana " ++
      "katakana kawi khar kharoshthi khmer khmr khoj khojki khitansmallscript kits kannada knda " ++
      "kaithi kthi lana taitham lao laoo lepc lepcha limb limbu lina lineara linb linearb lisu " ++
      "lyci lycian lydi lydian mahajani mahj maka makasar mand mandaic mani manichaean marc " ++
      "marchen medefaidrin medf mend mendekikakui merc meroiticcursive mero meroitichieroglyphs " ++
      "malayalam mlym modi mong mongolian mro mroo meeteimayek mtei mult multani myanmar mymr " ++
      "nagm nagmundari nand nandinagari narb oldnortharabian nabataean nbat newa nko nkoo nshu " ++
      "nushu ogam ogham olchiki olck oldturkic orkh oriya orya osage osge osma osmanya " ++
      "olduyghur ougr palm palmyrene pauc paucinhau oldpermic perm phag phagspa " ++
      "inscriptionalpahlavi phli phlp psalterpahlavi phnx phoenician miao plrd " ++
      "inscriptionalparthian prti rejang rjng hanifirohingya rohg runic runr samaritan samr " ++
      "oldsoutharabian sarb saur saurashtra sgnw signwriting shavian shaw sharada shrd sidd " ++
      "siddham khudawadi sind sinh sinhala sogd sogdian oldsogdian sogo sora sorasompeng soyo " ++
      "soyombo sund sundanese sylo sylotinagri syrc syriac tagb tagbanwa takr takri taile tale " ++
      "newtailue talu tamil taml tang tangut taiviet tavt telu telugu tfng tifinagh tagalog " ++
      "tglg thaa thaana thai tibetan tibt tirh tirhuta tangsa tnsa toto ugar ugaritic vai vaii " ++
      "vith vithkuqi wara warangciti wancho wcho oldpersian xpeo cuneiform xsux yezi yezidi yi " ++
      "yiii zanabazarsquare zanb inherited qaai zinh gara garay gukh gurungkhema krai kiratrai " ++
      "onao olonal sunu sunuwar todr todhri tutg tulutigalari "),
    []⟩]

def ages : List Property := [
  ⟨words (
      "1.1 v11 10.0 v100 11.0 v110 12.0 v120 12.1 v121 13.0 v130 14.0 v140 15.0 v150 2.0 v20 " ++
      "2.1 v21 3.0 v30 3.1 v31 3.2 v32 4.0 v40 4.1 v41 5.0 v50 5.1 v51 5.2 v52 6.0 v60 6.1 v61 " ++
      "6.2 v62 6.3 v63 7.0 v70 8.0 v80 9.0 v90 15.1 v151 16.0 v160 "),
    [(0, 127), (383, 383), (8490, 8490)]⟩]

def graphemeBreaks : List Property := [
  ⟨words "cn control", [(0, 9), (11, 12), (14, 31), (127, 127)]⟩,
  ⟨words "cr", [(13, 13)]⟩,
  ⟨words "lf", [(10, 10)]⟩,
  ⟨words "ex extend l lv lvt pp prepend regionalindicator ri sm spacingmark t v zwj", []⟩]

def wordBreaks : List Property := [
  ⟨words "cr", [(13, 13)]⟩,
  ⟨words "doublequote dq", [(34, 34)]⟩,
  ⟨words "ex extendnumlet", [(95, 95)]⟩,
  ⟨words "aletter le", [(65, 90), (97, 122), (383, 383), (8490, 8490)]⟩,
  ⟨words "lf", [(10, 10)]⟩,
  ⟨words "mb midnumlet", [(46, 46)]⟩,
  ⟨words "midletter ml", [(58, 58)]⟩,
  ⟨words "midnum mn", [(44, 44), (59, 59)]⟩,
  ⟨words "newline nl", [(11, 12)]⟩,
  ⟨words "nu numeric", [(48, 57)]⟩,
  ⟨words "singlequote sq", [(39, 39)]⟩,
  ⟨words "wsegspace", [(32, 32)]⟩,
  ⟨words "extend fo format hebrewletter hl ka katakana regionalindicator ri zwj", []⟩]

def sentenceBreaks : List Property := [
  ⟨words "at aterm", [(46, 46)]⟩,
  ⟨words "cl close", [(34, 34), (39, 41), (91, 91), (93, 93), (123, 123), (125, 125)]⟩,
  ⟨words "cr", [(13, 13)]⟩,
  ⟨words "lf", [(10, 10)]⟩,
  ⟨words "lo lower", [(97, 122), (383, 383)]⟩,
  ⟨words "nu numeric", [(48, 57)]⟩,
  ⟨words "sc scontinue", [(44, 45), (58, 58)]⟩,
  ⟨words "sp", [(9, 9), (11, 12), (32, 32)]⟩,
  ⟨words "st sterm", [(33, 33), (63, 63)]⟩,
  ⟨words "up upper", [(65, 90), (8490, 8490)]⟩,
  ⟨words "ex extend fo format le oletter se sep", []⟩]

def squeeze (cs : List Char) : List Char :=
  (cs.filter fun c => c ≠ ' ' && c ≠ '_' && c ≠ '-' && c.toNat < 0x80).map Char.toLower

def normalize (name : String) : String :=
  match name.toList with
  | a :: b :: cs =>
    if a.toLower = 'i' && b.toLower = 's' then
      let rest := squeeze cs
      String.ofList (if rest = ['c'] then ['i', 's', 'c'] else rest)
    else String.ofList (squeeze (a :: b :: cs))
  | cs => String.ofList (squeeze cs)

def lookup? (table : List Property) (name : String) : Option Property :=
  table.find? fun p => p.names.contains name

def valuesOf? : String → Option (List Property)
  | "gc" | "generalcategory" => some categories
  | "sc" | "script" => some scripts
  | "scx" | "scriptextensions" => some scripts
  | "age" => some ages
  | "gcb" | "graphemeclusterbreak" => some graphemeBreaks
  | "wb" | "wordbreak" => some wordBreaks
  | "sb" | "sentencebreak" => some sentenceBreaks
  | _ => none

/-- The characters with a property. A name without value may be that of a category or a script. -/
def find? (name : String) : Option String → Option Property
  | some value => (valuesOf? (normalize name)).bind fun table => lookup? table (normalize value)
  | none =>
    let name := normalize name
    lookup? yesNo name <|> lookup? categories name <|> lookup? scripts name

end Property

end ReplicaPlacement.Pattern
