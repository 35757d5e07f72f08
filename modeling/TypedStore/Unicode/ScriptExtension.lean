import TypedStore.Unicode.Ranges

/-!
# Script extensions

The characters that are used with a script. Only scripts for which these differ from
the characters of the script have a table here.
-/

namespace TypedStore.Unicode

/-- The extended scripts, with the normal forms of their short and long names. -/
def scriptExtensions : List Table := [
  (["adlm", "adlam"], ["CIhaBgaJWoaFHhaGLRiCxejeb"]),
  (["aghb", "caucasianalbanian"], ["BDsaBsaBsaDTQnBzla"]),
  (["arab", "arabic"], [
    "CHcebIgbBhDcBvJgBebbfCwbBcIVnaFHhaCZRaEkqRccCbhaBgpEiebFeBMhBbEIeBeCpcCddDGLsdbBabbbacab",
    "jbdbabagaeabababcbbbacabababababbbacdbgbdbdbabjbqfcbebqCab"]),
  (["armn", "armenian"], ["BDwaVgBlcBxccDOZje"]),
  (["avst", "avestan"], ["HbaRFsbDFQcCbdg"]),
  (["beng", "bengali"], ["BAyaCMubrbBadbhcbcvbgbaddcicbcdiaebbecyHDhabacbbaiaiacaeaccCBAfa"]),
  (["bopo", "bopomofo"], ["BBjabcnaqbRBxcejbmkdcagaHnajBqEiBfCZLtbKwe"]),
  (["bugi", "buginese"], ["JWaBbcbCCKta"]),
  (["buhd", "buhid"], ["IUnbjt"]),
  (["cakm", "chakma"], ["DTmjCKejDTFqCabr"]),
  (["cari", "carian"], ["HbaLZmacaFGdaDCLqBw"]),
  (["cher", "cherokee"], ["BDocbagbwblbGFuDhcfCFJeDb"]),
  (["copt", "coptic", "qaac"], ["HbaWmadbbaEebEenPJkElfgKtaDCPcBb"]),
  (["cpmn", "cyprominoan"], ["DTImbRQkDu"]),
  (["cprt", "cypriot"], ["DTImceBsdiCOmfcabBrbbdaca"]),
  (["cyrl", "cyrillic"], ["BAyaCpcbababacafaJeLrIVokGeaCyaExaGApBfCpaBTLkDrBHEcbDHPgCjBha"]),
  (["deva", "devanagari"], ["BAyaCJrDecBqHIeBmbbBNaaBZFrjGkBfBREmj"]),
  (["dogr", "dogra"], ["DOmlCIDcjBQIoCh"]),
  (["dupl", "duployan"], ["HbaWtbbaybQIhaFUQlEcfmdihjch"]),
  (["elba", "elbasan"], ["HbaWraDTScBn"]),
  (["ethi", "ethiopic"], [
    "BEcaFRdCubdcgbabdcBobdcBgbdcgbabdcobCebdcCocBfdzJVawjgbgbgbgbgbgbgbgBVKcfcfcfjgbgEPYfgbd",
    "bbbo"]),
  (["geor", "georgian"], ["HbaBVlaEFeBlbafacBvEJwBqccBJmaEUnBlbafaJza"]),
  (["glag", "glagolitic"], ["HbaWpabaOsacaJxaEIraFViaEKrDrSpaBTNfaEOTkgbqcgbbbe"]),
  (["gong", "gunjalagondi"], ["HbaDHkbEANifbbbBkbbbfhj"]),
  (["gonm", "masaramgondi"], ["DOmbEAJqgbbbBrdabbbiij"]),
  (["goth", "gothic"], ["HbaWqbcaBoaDSYoBa"]),
  (["gran", "grantha"], ["DNtbrbYqnGKaabbBecdbBNaaDNRjdbhcbcvbgbbbebjcbcccagafgcgdeERrbba"]),
  (["grek", "greek"], [
    "HbaWmbcababakaBuacaBqhcdbaeababcbabtbCkopJNqeByeeeDgcMgvcfcBlcfchbabababBecCabobncfbsccb",
    "iDqaHsaCAJeaBGNiDaraDAXrCr"]),
  (["gujr", "gujarati"], ["DNtbrbKxcbibcbvbgbbbecjbcbccapdclhgCHNsj"]),
  (["guru", "gurmukhi"], ["DNtbrbFzcbfebcvbgbbbbbbcabeebccdahdbahqCHSzj"]),
  (["hang", "hangul"], ["GLkJvLJlcejbmocgaHnaCbDpEjBeCnBeBTAnBcYtQNrmweBwOMzbKweCgBedfcfcfcc"]),
  (["hani", "han"], [
    "HbaRIuzbDkmIfBapbcbmbmbmcagiHfaFspBgBljaBwBnCeBwplBzaDkykeDsBebJTnCmBFBjCQyhBFBcObcEbBHr",
    "bKweBQPobmbBLRarLRybFEsCLFbBgGDtgIncINpoLBkpXxDQwUvCFyHHyfGFf"]),
  (["hano", "hanunoo"], ["ITsw"]),
  (["hebr", "hebrew"], ["BDvbYyCciBaefDOVwzbebabbbbbj"]),
  (["hira", "hiragana"], ["SErcejbmqfbaebdDhchDmbCZTgbKwekaBtbCOUrLasaBdcYMva"]),
  (["hung", "oldhungarian"], ["MGoacaFGdapaDGEgBynByhf"]),
  (["java", "javanese"], ["CMEyCzbkeb"]),
  (["kali", "kayahli"], ["CMAaBv"]),
  (["kana", "katakana"], ["BDtaBdaQZtcejbmqfbaebDnddDrJgpIaBubDjCYWbbKwCkCOUadbgbbbaLbcByaod"]),
  (["khoj", "khojki"], ["EDijCHOijBOBmrbBu"]),
  (["knda", "kannada"], ["DNtbrbBEombcbwbjbecibcbdhbgbbdcjbcGAeabbgaxabaCASxf"]),
  (["kthi", "kaithi"], ["DOojNXxaBUFejBNMsCoka"]),
  (["latn", "latin"], [
    "CnzgzBvamacafwbBebRgdakabcbajabageBbobbbamacchbbbBmafaemKrbBVebCXkaEOiBlgBwfdfmbCrCfahJv",
    "LraCnanaqmDfaCfbgaBbarBoECtBfPraBTUmhBaDxdCocbbabhvnLqaTtBqbibdBEDqgBOkzgzDCffbBpbiDDNpB",
    "egf"]),
  (["limb", "limbu"], ["DOnaFXqBebleleadl"]),
  (["lina", "lineara"], ["DTItBsBVgLyjvkh"]),
  (["linb", "linearb"], ["DSYqlbzbsbbbocnBiEsfceBsdi"]),
  (["lisu"], ["BAyaqaRDkbBSFsBvBUMaa"]),
  (["lyci", "lycian"], ["MGoaDHQrBc"]),
  (["lydi", "lydian"], ["HbaRFtaDEXqzfa"]),
  (["mahj", "mahajani"], ["HbaDHklCIDcjBNUsBm"]),
  (["mand", "mandaic"], ["CJoaTrBbca"]),
  (["mani", "manichaean"], ["CJoaDUQxBmel"]),
  (["mero", "meroitichieroglyphs"], ["MGraDKHmBf"]),
  (["mlym", "malayalam"], ["DNtbrbBJmmbcbBybcbfepczFVeaxaCASzc"]),
  (["modi"], ["CLSajBPOwCqlj"]),
  (["mong", "mongolian"], ["JCizgDkhBqCWaaFZtbfdDJFwm"]),
  (["mult", "multani"], ["DYkjDWAagbabdbobk"]),
  (["mymr", "myanmar"], ["GBoGdCFUcaGvBeDtBfBPAmt"]),
  (["nand", "nandinagari"], ["DNtasbBImjGBhaiahaCASrfBQYshcBtck"]),
  (["nkoo", "nko"], ["CHoaoadaQaCgccDOWsb"]),
  (["orkh", "oldturkic"], ["MGoaFGfaDFZzCu"]),
  (["orya", "oriya"], ["DNtbrbPvcbhcbcvbgbbbecicbcchcebbecrGPeaxa"]),
  (["osge", "osage"], ["BDpacagaCyaDTLvBjeBj"]),
  (["ougr", "olduyghur"], ["CJoaDUSvaBSfz"]),
  (["perm", "oldpermic"], ["HbaWmafckaOdaDSMuBq"]),
  (["phag", "phagspa"], ["JCkbbaDCjaFZuaBTNxCd"]),
  (["phlp", "psalterpahlavi"], ["CJoaDUYhrhdmg"]),
  (["rohg", "hanifirohingya"], ["CHoaoadaBgaFraDVHjBnij"]),
  (["runr", "runic"], ["IOuDk"]),
  (["samr", "samaritan"], ["DAuBtcoOJqa"]),
  (["shaw", "shavian"], ["HbaDUIaBv"]),
  (["shrd", "sharada"], ["DNtaHKfabacbcaCATrfcaBNWpDr"]),
  (["sind", "khudawadi"], ["DOmbCIDmjBOIgCgfj"]),
  (["sinh", "sinhala"], ["DOmbBOlcbrdxbibacgdaefbabhgjccFRpaDOTqt"]),
  (["sogd", "sogdian"], ["CJoaDWIpBp"]),
  (["sylo", "sylotinagri"], ["DOmbEyjCHWiBs"]),
  (["syrc", "syriac"], ["BDrbcbbavacchbbaBCdaobcaBgakkBaaFnnbChccKmkIEfaba"]),
  (["tagb", "tagbanwa"], ["IUnbBpmbcbb"]),
  (["takr", "takri"], ["DOmbCIDmjBPTuCfgj"]),
  (["tale", "taile"], ["BDobfbdaEZzjDKwBdce"]),
  (["taml", "tamil"], ["DNtbrbUubbfdcbddbbabbdbdcdleedcbdcagaouGKdaCBBkaBOEfabaCdbETfBxna"]),
  (["tang", "tangut"], ["SEapTbaEQKmaBfJBziBDnTsi"]),
  (["telu", "telugu"], ["DNtbrbZqmbcbwbpcibcbdhbbccacdcjhiGFaaxa"]),
  (["tfng", "tifinagh"], ["BDqababdzaPYaCdhboa"]),
  (["tglg", "tagalog"], ["ISmvjavb"]),
  (["thaa", "thaana"], ["CHoaobcaCmjKsBxDPGqaka"]),
  (["thai"], ["BAyaBaaBraBtaEClCffBb"]),
  (["tibt", "tibetan"], ["FRsCtbBjeBmbBjbobgebMEvd"]),
  (["tirh", "tirhuta"], ["DNtbrbHKmaCASzjBPAcCtij"]),
  (["toto"], ["BAyaGZSlBe"]),
  (["yezi", "yezidi"], ["CHoaoadaCmjDWAgBpbccb"]),
  (["yiii", "yi"], ["SErbfjchIpaBQBcBSudCcBIIce"]),
  (["zinh", "inherited", "qaai"], [
    "BEdacablbbdgcacpbbbrbebdCGmbGOxBeBDbCbbabeUebHmBfDFSqpqnBLnaCZQoBtcwUycrhcgBedBTLHiJf"]),
  (["zyyy", "common"], [
    "aCmBafBaBublbbbexaBfaRhcbjbadabibabffectEwagabaYnaIhaTwaCAuaPpdGDblcBgbBebjbbbgbkdkborBg",
    "ClBlbccfbBabqBpceZpwkvBJrJwYdcBfbEaTswbxcjbdbabzQcadananavaUjxBfaBxomdGfjfDrBfaJToClBHSq",
    "zDycBLoaobBFHsjwuclbsbdFrabBfBafBafExgbgkePmmBzBsCYNbJpgQtGaElCiJlkBmcCjdqibhBdeCiIftmtm",
    "DiBbgFfDgbCsbbcacbcdblbabgbCmbdchbgbBbbdbebadgbNbcLfcBxHThCpCyCiBBeBreDvmocobobBkkGrCezb",
    "bnBreixfFyBLveqdmdEoeDqgleapleCdijgBniBdclebCkNbmncmdjfCdhockgihFqbDxBSUXbaBeDr"]),
  (["gara", "garay"], ["CHoaoadaDVQuBldBcib"]),
  (["gukh", "gurungkhema"], ["DOnaFADeCf"]),
  (["onao", "olonal"], ["DOmbGYKwBqea"]),
  (["sunu", "sunuwar"], ["BDobbajacaBcadaECGkBhoj"]),
  (["todr", "todhri"], ["BDpacacajabaCwaDTWbBz"]),
  (["tutg", "tulutigalari"], ["EXajGBqabaCASxfHfaBOJejbacabBlbjbacabdbjbbib"])]

end TypedStore.Unicode
