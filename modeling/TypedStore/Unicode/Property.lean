import TypedStore.Unicode.Ranges

/-!
# Properties

Properties that a character has or has not.
-/

namespace TypedStore.Unicode

/-- The properties, with the normal forms of their short and long names. -/
def properties : List Table := [
  (["ahex", "asciihexdigit"], ["BwjhfBaf"]),
  (["alpha", "alphabetic"], [
    "CnzgzBvakaeafwbBebRpeloehabaDiaBdrbbcdbagabcbabtbDebFiiGjbBlcagBoBnnbabbbbbaiBaedBdkfCdb",
    "goDxbheheckccaqBvnDwyBgjbeafxcstyhkfxbfiaiBpkldggCxbpbceonsbhcbcvbgbadddhcbcbbaiaebbembk",
    "aecbfebcvbgbbbbbbeeebcbeahdbarflcbibcbvbgbbbedibcbbdapdvdecbhcbcvbgbbbedhcbcbjbebbenaqbb",
    "fdcbddbbabbdbdcdleedcbcdagaBombcbwbpdhbcbcibbccacdBcdbhbcbwbjbedhbcbcibgbbdncmmbcbBochbc",
    "bcbafdhewfbcbrdxbibacgifbabhsbnCffggaBzbbabebxbabsbccebagaodBgaClhbBjesepbBjCpCcbaceqClk",
    "dcBlbafacBqbMubdcgbabdcBobdcBgbdcgbabdcobCebdcCoBlpqDhcfdXvcqbzfCwdkhtlumtmmbcbbmBzcsoae",
    "aCpDkhBqfCrkBebleixBdcelBrezCcBbeCkctByaxblcBxBzbobhBzBpcdkBrbkoCcwckBjckfBqccBpdbfbbdaf",
    "HjtBhlKrcfcBlcfchbabababBecCabgbadcbgddcfemfcbgEmanaqmDxaeacjbadegabababdbkcdfeearBoBFhB",
    "zCRuIugddbmBlbafacCdhaqwjgbgbgbgbgbgbgbgbBfBvaSbcziheceeDhgcbDlbdfBqbDprBfBwpTsJTnCmBGUe",
    "CpBtcKidpkbuBufhdEiBnicDycCocbbabhvtbBgyBzmCpbaBsfdabckBgfBinBcdByblpaqpkebCcjnswdCqbaba",
    "yccpcdlfcfcfjgbgbBqbngEsvQNrmweBwMNcObcEbBmgmeflbmbebabbbbbEdBhNysClcCbBolEmebFeBkzgzlDk",
    "dfcfcfccBjlbzbsbbbocnBiEsCrCaKhBcdBwBvBfnBdfBqfBdcBjehbeBqGbsBjeBjeBniBzmkbobgbbbkbobgbb",
    "dBzmLyjvkhyfbBpbiCrfcabBrbbdacwkwjBeCnsbbkvkzCsCdgbCmdbbfhbcbBcBqBcdBcBjhbBbBbCbkvksnrEg",
    "CuCdBynBynBnBiBbdafwJqBpbbdbqcCdadBckaivBqrBuuBbwjCrBrekCejanyxByrdiBidajClbdjbkabaBjrbB",
    "hcagdCkgbabdbobjhCexdbhcbcvbgbbbedhcbcbdagafgBcjbacabBlbjbacabdbbdabaBsCnbcbducBeCncbbaH",
    "cCbcgzfBiCkbadaChCbcaCtBacnvgHdCeDzClBfhcachbbbBdbbcbcdDphcBtcfbabbBbBycjrCtfasCuHrBgBfi",
    "bBsbgbaBxBdcvbnCvgbbbBrdabbbcbacbyfbbbBkbbbdbaMpwjqbBodcEhaDbBJlDyEgrHnDXkDspBPfrfzFXqfW",
    "kKDdBuCPdVwhBerDarBdsBvqdBfufsQqBsIdClEyCweCehqCmbbamboJBziBVpBpjNFrdbgbbbLepaBdccaodiPf",
    "DKuEcfmdihjeaIWfDgbCsbbcacbcdblbabgbCmbdchbgbBbbdbebadgbNbcybybBebybBebybBebybBebybhCSyB",
    "egfIfgbqcgbbbefCjBhaEiBskgqaMjBdsBrSqBbIuBdcaTbgbdbbbobHoChCpdadaBUidbBabbbacabjbdbabaga",
    "eabababcbbbacabababababbbacdbgbdbdbabjbqfcbebqYezgzgzFMkCLFbBgGDtgIncINpoLBkpXxDQwUvCFyH",
    "HyfGFf"]),
  (["bidic", "bidicontrol"], ["CIeaJVlbBaeCdd"]),
  (["ci", "caseignorable"], [
    "BnagalaBjabaCtaeabaeacbTjHjebeajbbaJrgHzafaBxBsbabbbbbaBsalfkkbaBjakuqaDxhbjbdBhabaBeBaD",
    "nkCgkeacayxBrcBsahbfiBpCfCdabaeheadgkbnapaCgaediaubBaacbCfaebebccdaBebdalbCfaeebbeaubwfb",
    "aCgacabdiahblbBeaCjamaByadaCdabcfcbdhblbBdaCgacagafbubBcbCfbediaubBdaCuahcbaDmacgliDuaci",
    "jabgCvbBbababaCdnbebbfkbBjjaDydbfbbcbzbecqdnacbgapaDqaXkcBKkcBdbBebBebCmbbgiackdafaBteBz",
    "aCnbBiaEocebjagcIlbcaCgabgbabachgjcaBnaiBeBxdBwabebafaBoimbBgdcbbcCeabbdabcCghcbCmfDecbm",
    "bgeagadbByCknaBiDwRdabclcncncnbmeibkacaceBxebjbanaqmBzBgEJrbEjcEvapaDsBfBvaSbaBkddefaDpf",
    "DpcBQBuaBWcfKkaDudbjbaBcdDcboBhDaaxcDzcdbiadaeazbfaFvbBarnaBmhzkBucBwacdcbravbCofcbcbmai",
    "aBjalaBzabccbfbbaBbaobfbbaDwejcEracaeaBDZsaFrqWbpdampBiacaGnahagalaBjabaBvaBtbCpavcTtaIs",
    "aFteBNpfbBpbiWkcbbfdBoceaGjbWbdBmaBaebaMdbDbdCskBxdEtaCcoBpacbkcBxdcbcaeakaBycBkebhCkamb",
    "CaikdcaDrccabbgacaGbadhvbCfbdaBlgdeCsfnababaobDhhccbaxaDgfbaebbbJedgbbbBbbDhhcabbEcabacf",
    "baDxabacdbeJzibbJwbbaeaFodcbeaBgjBofcdiajfccBumbbPqgbfbaDevcgbbbbEsfdabbbgbaCubdabaNjblb",
    "CaefabaxaHXdqgoQYyldcDSaeChgjdTocBobSoaClqCmbbbYGpdbgbbEUgbbdGYuBtcwUycjpcgBedFscCYdCceB",
    "xiaoaweboCAigbqcgbbbefCjBhaGenOeaCjdTneJubBCigEfhEBfeBSXXpaBeDrEyJf"]),
  (["cased"], [
    "CnzgzBvakaeafwbBebHmbdeHzbBjhbBeeDsaBqdcbcdbagabcbabtbDebFiiGjbBljBoEFfBlbafacBqbdZwDhcf",
    "DFukfBqccCmHjCmKrcfcBlcfchbabababBecCabgbadcbgddcfemfcbgEmanaqmDxaeacjbadegabababdbfeacd",
    "feearBfdbBFlBzCRuIugddbmBlbafaBTWcBtsBdFcDxddbCjcbbabhvebcBFpBqbngDbBEAigmeBNtzgzBTtDbDs",
    "BjeBjEmkbobgbbbkbobgbbRjaccbBpbiBUzBynByDpvkvEFiClBGIqClBMLkDgbCsbbcacbcdblbabgbCmbdchbg",
    "bBbbdbebadgbNbcybybBebybBebybBebybBebybhCSyjbtgfKbCjDGkCpDAazgzgz"]),
  (["cwcf", "changeswhencasefolded"], [
    "CnzDmakwbhBgabababababababababababababababababababababababababababacababababababababbbab",
    "abababababababababababababababababababababbbabababbbabbbccdbbbcdbbbbababbbacabbbcbabbdah",
    "bbbbbbabababababababacababababababababacbbabcbababababababababababababababababababababab",
    "abababababababahbbbcabdbabababaJmaBqabadaiagabcbabbbqbiwamcdbbababababababababababababbc",
    "bbabbcByBwababababababababababababababababajabababababababababababababababababababababab",
    "abababababbbabababababacabababababababababababababababababababababababababababababababab",
    "abababababababababababababababacBlBwaEFgBlbafaBFefDFujgBqccMiabababababababababababababa",
    "babababababababababababababababababababababababababababababababababababababababababababa",
    "bababababababababababababababababafbcabababababababababababababababababababababababababa",
    "bababababababababababababababababababababababajhifkhihiflabababaihqBvcccffccfldmefccfLla",
    "dbgaBtptaBFmzCSuBvBwabccabababdbacaicbababababababababababababababababababababababababab",
    "abababababababababababababababababababababababaiabaeaBTYjabababababababababababababababa",
    "bababababababatabababababababababababababaFfababababababadababababababababababababababab",
    "abababababababababababababababakababbbabababaeabacabadababababababababababebebababababab",
    "ababdbabbdafabababayaBIgDbBEAigmeBNtzBUzBnFgBjGakbobgbbCQcByGbvEGoBfBGJwBfBULkBh"]),
  (["cwcm", "changeswhencasemapped"], [
    "CnzgzCgakwbBebClbDfbBbcncbbaeDobrgBabbbabbdbbdbecabbcahacabbdffakbGkaBqdcbdcbagabcbabtbB",
    "udBgbebFciGjbBlkBmEFgBlbafacBqccZwDhcfDFukfBqccHdadaqaEjFzcabEncfcBlcfchbabababBecCabgba",
    "dcbgddcfemfcbgLladbgaBbarBfdbBFlBzCRuEibbbbhDxhddbmBlbafaBTWcBtsBbFencCjjodccebybBdcbegy",
    "bBHcaBcDbBEAigmeBNtzgzBTtDbDsBjeBjEmkbobgbbbkbobgbbCOpBynByDpvkvEFiClBGIqClBUKeCp"]),
  (["cwl", "changeswhenlowercased"], [
    "CnzDxwbgBhabababababababababababababababababababababababababababacabababababababacababab",
    "ababababababababababababababababababababbbabadbbabbbccdbbbcdbbbbababbbacabbbcbabbdahbbbb",
    "bbabababababababacababababababababacbbabcbababababababababababababababababababababababab",
    "abababababahbbbcabdbabababaLdabadaiagabcbabbbqbiBjaiabababababababababababafacabbcByBwab",
    "abababababababababababababababajabababababababababababababababababababababababababababbb",
    "abababababacabababababababababababababababababababababababababababababababababababababab",
    "abababababababababacBlEHdBlbafaBBuDhDGlagBqccMiababababababababababababababababababababa",
    "babababababababababababababababababababababababababababababababababababababababababababa",
    "babababababababababajabababababababababababababababababababababababababababababababababa",
    "bababababababababababababababajhifkhihiflabababaihyhihihieleldmeleLladbgaBtptaBFmzCSuBvB",
    "wabccabababdbacaicbababababababababababababababababababababababababababababababababababa",
    "babababababababababababababaiabaeaBTYjababababababababababababababababababababababatabab",
    "abababababababababababaFfababababababadababababababababababababababababababababababababa",
    "babababababakababbbabababaeabacabadababababababababababebebabababababababdbabbdafabababa",
    "yaBHAhzBUzBnFgBjGakbobgbbCQcByGbvEGoBfBGJwBfBULkBh"]),
  (["cwt", "changeswhentitlecased"], [
    "DtzCgaBpxbhbabababababababababababababababababababababababababababacabababababababbbabab",
    "ababababababababababababababababababababacababccabacadafacadccacababacaeacadabacadabaeab",
    "bbbbababababababababbbababababababababcbabadabababababababababababababababababababadabab",
    "ababababababaiacbbaeababababfbbbabbdbbdbecabbcahacabbdffakbGkaBrabadadcsaBbBibbdcbababab",
    "ababababababababebacacaCaBvbababababababababababababababababajababababababababababababab",
    "abababababababababababababacababababababbbababababababababababababababababababababababab",
    "ababababababababababababababababababababababababaBxBmFMefDFuibaJeadaqaEkabababababababab",
    "abababababababababababababababababababababababababababababababababababababababababababab",
    "ababababababababababababababababababababababgfababababababababababababababababababababab",
    "ababababababababababababababababababababababababababiifkhihifkhihinchihihiebbgadcbbidcbi",
    "hkcbbNeaBhpeaBGlzCTqBvbadbbababagacakabababababababababababababababababababababababababa",
    "babababababababababababababababababababababababaiabaeamBlbafaBTWdabababababababababababa",
    "bababababababababababatabababababababababababababaFfababababababadababababababababababab",
    "abababababababababababababababababababakabacababababaeaeabbcabababababababababalabababab",
    "abababaeabacadafababaBaaBHcaBcDbBEAigmeBOzzBVhBnFgBjFzkbobgbbCRbByEvvEGoBfBGJwBfBULmBh"]),
  (["cwu", "changeswhenuppercased"], [
    "DtzCgaBpxbhbabababababababababababababababababababababababababababacabababababababbbabab",
    "ababababababababababababababababababababacababccabacadafacadccacababacaeacadabacadabafbb",
    "bbbbabababababababbbababababababababbbbbadabababababababababababababababababababadababab",
    "abababababaiacbbaeababababfbbbabbdbbdbecabbcahacabbdffakbGkaBrabadadcsaBbBibbdcbabababab",
    "abababababababebacacaCaBvbababababababababababababababababajabababababababababababababab",
    "ababababababababababababacababababababbbabababababababababababababababababababababababab",
    "abababababababababababababababababababababababaBxBmEHcBqccBDgfDFuibaJeadaqaEkabababababa",
    "babababababababababababababababababababababababababababababababababababababababababababa",
    "bababababababababababababababababababababababababgfababababababababababababababababababa",
    "bababababababababababababababababababababababababababababiifkhihifkhihincCabbeabadcbbead",
    "dcbihkcbbeaMzaBhpeaBGlzCTqBvbadbbababagacakababababababababababababababababababababababa",
    "bababababababababababababababababababababababababababaiabaeamBlbafaBTWdababababababababa",
    "babababababababababababababatabababababababababababababaFfababababababadabababababababab",
    "ababababababababababababababababababababababakabacababababaeaeabbcabababababababababalab",
    "ababababababaeabacadafababaBaaBHcaBcDbBEAigmeBOzzBVhBnFgBjFzkbobgbbCRbByEvvEGoBfBGJwBfBU",
    "LmBh"]),
  (["dash"], ["BtaCAuaBzaFKjaBNpaDBdfCjaBnapaPaaEOiacaBfbeaBcaReataEhaCZWabBlakaGnaFLoaMga"]),
  (["di", "defaultignorablecodepoint"], [
    "GraZxaBBoaEGwbCKhbDheDApeBaeBxpGKyaCZMppJfaGeaDbiCTLndHWxhBTKZlGBn"]),
  (["dep", "deprecated"], ["MraBYvaDKtabaDCjbDIjfBAvbBZRYka"]),
  (["dia", "diacritic"], [
    "DqabaCtagaeacbTjGcbhffrbeajbJteIbaCdqbBababbbaFehebFebebdcCpBaDnkCgkBibEwhBpjqBbCjaqaddB",
    "caCwaqaEgaqaEgaqaBvcCiaqahaEpaEgaqaEgaqaEfbqaEuaEhamfbaEdaneCxbBbababaebCocbbCkaEiabbBob",
    "eezgbakbBBdcBKmbBeaFskjaNjcLgauhcaBwockEaapaBmiCcbCgalbCobCmfDeyeagaccByCkDllBlkRdabclcn",
    "cncnbEXkcMfaTmfEbdDraBSMkambbaBcbDeboBhDycEfbmaBlaFvaBbrCfdBkaDramaBkaFtcCndBzaDwejcEybB",
    "DZsaBDppKkabaBvaBtbCpaBDkaBTnfbBpbiYnceaGjbVzfBmaBaePjcCskBxdHkaBpaCubEqbCkaCyajcEabGwbD",
    "cbqaygdeDlcbbnbDradaEtbJrbEwaEobElaKjbJybeaGaaDfasaDdaQfaJyabbDdaQjbxaHYaoQZpaDSaeChgVsb",
    "VaqDcbYGcdbgbbLThBtcwUycdfihcgBedFMwCjHmgOlaCjdBDmbBCigEfcbc"]),
  (["emoji"], [
    "BjagafjEhaeaLYramaIiawaDmfpbOdbmaGkazkecHraIxbkajaCgdbejacacbcaeacabbcadadbicfabafllbcab",
    "bbasacbsfbabbdbfacbeblbfbcafbbabbubffbdcaeacacfbacababagadagakbpacaeabaecbalbBwcjaoaoaOi",
    "bRvctbBzaeaBVuamaXdabaGMRqaHuaGebmboacjCxzbbxauacivbGsBhcEhcbbccDeccbKcbCklfbxhbchmacdca",
    "ebnbcaibjafcmciccabaeagadagDhBwCrfhccejdabbdacjItleaKxBubjbHcEimdjfCdhockgi"]),
  (["ecomp", "emojicomponent"], ["BjagafjMBjaIfaDFTraDOIwzTneCEadBSVUqDr"]),
  (["emod", "emojimodifier"], ["HHIxe"]),
  (["ebase", "emojimodifierbase"], [
    "OLhaIlaqdGSJvaCiccaccEnbckvsdaecbchabayaHtbeavaebGscdeDfaqcjalaWdacaihgajjccCeaCjbbbbarc",
    "bmIvcBqi"]),
  (["epres", "emojipresentation"], [
    "NHqbHxddacaUbbvbBylBratanaibrbfbiafavahbbaeacahaebBcaBjabaecbaCjcyaoaBHbbBzaeaGPLeaHuaHi",
    "acjCxzbayauacebcvbGsBgmibCrbvmBqeemqdadCsbabHecCkndbxsaBabnaDiDgBwCrgadcccedlbhiItleaKxB",
    "ubjbHcEimdjfCdhockgi"]),
  (["extpict", "extendedpictographic"], [
    "GnaeaLYramaIiawaDmfpbOdbmaDraCsazkecHraIxbkajaCgdbfblbEjkEnckbabagadagakbpacaeabaecbaleB",
    "tcjaoaoaOibRvctbBzaeaBVuamaXdabaGMRmJvncBfaCifmboacjsCeBbokauacibdjQrfMfiKfBwExEmlDhBqmd",
    "CehkfBohBeDdmBubjbQyJwBNh"]),
  (["ext", "extender"], [
    "HbaUqbBHuaQzaYgaFhaDlaBCyaExaDNfaCeaXnaPiaCqaHKjaBreDzbDpcBQBuaCGsaBLaawaFhaEeavbBFZvaDB",
    "kbCFbaBbaeaBVbaLhaEmbTecBVjaBEOfbBTkbbaBQYabBUfaBGuc"]),
  (["grbase", "graphemebase"], [
    "BgDqBhmbWvEihcfegbabtbIphGjbBlcBxccBuabacacajBaefrjlabBtvpbDwiagbcaeBfcabBdBdDklaoBqjgdx",
    "eajadahobyfabkfBerBpCfCcbabdidbchjcBcbbbhcbcvbgbadddabbgbcbbanbbcexfabfebcvbgbbbbbbecydb",
    "ahjccbamabibcbvbgbbbeddiabbdapbelhaibbhcbcvbgbbbedacagbcbpbbcerlabfdcbddbbabbdbdcdlfabbd",
    "cbcdavugcbhbcbwbpdaddtccacbejhjbkbcbwbjbedbcabbybbbejbcokbcbBocabbfcbcbbecbjezcbbrdxbiba",
    "cgjbgghjccmBvbblhimBlbbabebxbabjbbjacebajjcdBgxcBabababnbBjsafaceBxhbfbmBlBseagacbcycddp",
    "embbcfbobBnbafacOmbdcgbabdcBobdcBgbdcgbabdcobCebdcCofBcdzgDhcfcZsdDkhrnsdbjrombcpBzcahhb",
    "blidjgjgkfjgDkhecBhbafCrkBeedccebbfhadBpcelBrezgkdCecbdCdbajabbifnjgjgnDiBvkddhbBcjlcBfe",
    "bgCdbaccbanBvibfodCjfBqcklanahdbfbccafHjCmKrcfcBlcfchbabababBecCabobncfbsccbibkfxhBwqbcB",
    "abmdBgClFjeZpwkvCRrcBfbNfdbfBsbafacCdhbpwjgbgbgbgbgbgbgbgBhDpBizbDkmIfBaCfgpbDheDwfBqbDp",
    "bDhjBvbBRIqdCcjNjuBueakBfcDbcfiHxcbbabhvpbcbdbyceejgCdiCpklymbBliylamBdgBvbbebcbbmbkegby",
    "bBogbcblcbhbacjcBfbBybadbcecabayqchlfcfcfjgbgbCheEmbbbddjgQNrmweBwMNcObcEbBmgmefabxbebab",
    "bbbbEuqRccCbhaBgpqjwBibsbdeebFeeGacBedfcfcfccdgbgnbclbzbsbbbocnBiEsfceBsdDjbmdaBvBsFbBcd",
    "BwqBaeBjjBdfBlkBdbBkenBqGbcjgBjeBjeBniBzllbobgbbbkbobgbbdBzmLyjvkhyfbBpbiCrfcabBrbbdacwb",
    "CtiiBwsbbfBgdBafaCmCdetcBupdbcbBckihihClBgBkgljCbdBccBafzhdmgDcCuCdBynByhBpmjgBlixibIaBe",
    "bBpdacbqcChBnivliwredBmBbuwjabCbpgeBdbbcamBwebcbbdoyhjjBjfajriBibclBzjabhebbpbtlrbBbdbef",
    "bbClgbabdbobkgBubcnjibbhcbcvbgbbbedababdcbcbdamgBcjbacabBlbabbpabbdabcbbBnCdibdabubabcBe",
    "BvbbgabbbacacdijGkBubbgdcacBaBkByibbacdljgmtBqbabbibgjgtBcBadabbeajwHdBujacaDwDemhcachbb",
    "bxbebbgdbcjjCshcBpidbdBbakBngbehjagbdBtnacinCuhjHaBhojgibBloabfkBcdBfzahacaCxgbbbBlvajjg",
    "fbbbBkebbabahjLyscdjobBjibdwDiapBxnBJmDyEgbelHnDXkDunBPfrfzFXqfWkKDdBdmcdjCOsVwhBebjeDcb",
    "jgBdhakBvhokjbgbufsQqCfHqDmDxCwfCdlmCmdBcJBziBVpBpjNFrdbgbbbLepaBdccaodiPfDKuEcfmdihjcac",
    "aFVkJpgQtGaElCiJlkBmcChfcwbhBdeCivCndaEstmtmDijyFfDgbCsbbcacbcdblbabgbCmbdchbgbBbbdbebad",
    "gbNbcLfcVpCddByhbnbgBRwBegfKbCjFqBskgcjebMiBdsBrejfaRwBbejIgBdckeaSmgbdbbbobHociBwCphaej",
    "ebBEfCpCyCiHmdbBabbbacabjbdbabagaeabababcbbbacabababababbbacdbgbdbdbabjbqfcbebqCabKkBreD",
    "vmocobobBkkGrCeBcnBreihbofFyBLveqdmdEoeDqgleapleCdijgBniBdclebCkNbmncmdjfCdhockgihFqbDxB",
    "NqCLFbBgGDtgIncINpoLBkpXxDQwUvCFyHHyfGFf"]),
  (["grext", "graphemeextend"], [
    "BDoEhKpgKdBsbabbbbbaCukBwuqaDxgcfcbbdBjaBeBaDnkCgijaydbibcbeBrcChiBqxbBfCdabaeheadgkbBda",
    "CgabacdiajakbBaacbCfaebebccdaBebdalbCfaeebbeaubwfbaCgabbbdiahckbBeaChabamajaBoadaCdabcfc",
    "bdhblbBdaCgacbbadcbdhblbBcbCfbbacdiajakbBdaCuaeaccbaiaDdacgmhDuacilgCvbBbababaCdnbebbfkb",
    "BjjaDydbfbbcbzbecqdnacbgapaBBbcBKkdBccBdbBebCmbbgiackjaBtcbaEnbBiaEocebjagcIlbcaCgabgbab",
    "achgjcaBwBeBxdBwjecBmimbBgdcfCeabbdabeCehcbFwcbmbgeagadbHqClUeaHnBgEOccFlaDsBfVifEbbBSQe",
    "dbjBgbDcbKmadaeazbfaFvbBarnaBmhzkbaBscBwacdcbcaBkaCpfcbcbmaiaBvaBzabccbfbbaBqbiaJeacaeaB",
    "DZsaBCjpqpOcbXhaIsaFteCMgcbbfdBoceaGjbWbdCneMfbDbdCskBxdEtaCcoBpacbkcBxdcbhaCjcBkebhCkam",
    "bCaibaidcaDrccdgacaGbadhvbCfbbabamajaogdeCpacfbacabcecbaobDhhccbaxaDdacfbacabbbbJbacdgbb",
    "bBbbDhhcabbEcabachDxabacdbeJzibbJlakdeaFodcbeaBgjBofcdiajfccBumbbPqgbfbaDevcgbbbbEsfdabb",
    "bgbaCubdabaNjblbCaefcxaHXtagoQYyldcDSaeChgBOiaCldDdalbBDAxbGYzBtcwUwedfihcgBedFscCYdCceB",
    "xiaoaweboCAigbqcgbbbeDwaGegOlaCjdTodJubBCigEfgBTCAfDrEyJf"]),
  (["grlink", "graphemelink"], [
    "DNpaExaExaExaExaExaExaExaEfbqaEuaEhaExaHtaGybCPlbBeaGbaZdaItaDxbCsbGQtaBUKkaBlaFvaFmaEea",
    "LxaJmaBJSraCHiaBpaoaCfaErbFjaEmaGyaDuaEycEjaExaJsaExaEoaEmaKjaJzbGfaDfasaDdaQfaKabDdaQjb",
    "YZca"]),
  (["hex", "hexdigit"], ["BwjhfBafDSLljhfBaf"]),
  (["hyphen"], ["BtaExaBVwaGZzaDBdbFIbaBClaCZUlaGnaDja"]),
  (["idsb", "idsbinaryoperator"], ["SEabcjTda"]),
  (["idst", "idstrinaryoperator"], ["SEcb"]),
  (["idsu", "idsunaryoperator"], ["SEob"]),
  (["idcompatmathcontinue"], ["GwbfaMAgadkboOhaeawaGJJeazaBfazaBfazaBfazaBfaza"]),
  (["idcompatmathstart"], ["MWwaeawaGJJeazaBfazaBfazaBfazaBfaza"]),
  (["idc", "idcontinue"], [
    "BwjhzeabzBvakabacafwbBebRpeloehabarEmbbcdbagebabtbDebFibecGjbBlcagBoiBsbabbbbbaiBaedBdkf",
    "CveDxbhcjbscaqCgcDwoCbeacacBtsBbekfxbfiCwbEycjbsbhcbcvbgbaddcicbcdiaebbeclkabaccbfebcvbg",
    "bbbbbbcabeebccdahdbahplcbibcbvbgbbbecjbcbccapdcjjgbcbhcbcvbgbbbecicbcchcebbecjbaqbbfdcbd",
    "dbbabbdbdcdleedcbdcagaojqmbcbwbpcibcbdhbbccacdcjqdbhbcbwbjbecibcbdhbgbbdcjbcmmbcbBybcbef",
    "dhecjkfbcbrdxbibacgdaefbabhgjcbnCffobjBnbbabebxbabwcebabgbjcdBgaxbgjlababaejbBjetbrbBjja",
    "CfCvgCzcBlbafacBqbMubdcgbabdcBobdcBgbdcgbabdcobCebdcCoccjiopqDhcfdXvcqbzfCwdkhvjvltmmbcb",
    "bmDfdaebcjBhcbkgDkhBqfCrkBeblelkBncelBrezgkBlBbeCkbBcckgjnainbpBxCydjrimElmCdijdBwckfBqc",
    "cqcbBmfUncfcBlcfchbabababBecCabgbadcbgddcfemfcbgpbBxbtaBcanaqmBzmeadlraeacjbacfgabababpc",
    "dfeearBoDZbIugimBlbafacCdhapxjgbgbgbgbgbgbgbgbBfTxczobeceeDhcgbDqfBqbDprBfBwpTsJTnCmBGUe",
    "CpBtcKidBbuBvejbEkBlicDycCocbbabhvCbeatBzmCrkjgxdabBwcBjmBcdCmokgBebCcjncjgwdCuyccpcekfc",
    "fcfjgbgbBqbngEsbbcjgQNrmweBwMNcObcEbBmgmeflbmbebabbbbbEdBhNysClcCbBolepqpdbycBgebFetjhze",
    "abzkDldfcfcfccBjlbzbsbbbocnBiEsCrCaFgaFaBcdBwpaBfBfnBdfBqfBdcBjehbeBqGbcjgBjeBjeBniBzmkb",
    "obgbbbkbobgbbdBzmLyjvkhyfbBpbiCrfcabBrbbdacwkwjBeCnsbbkvkzCsCdgbCmdbbfhbcbBccceaBgBcdBcB",
    "jhbBdzCbkvksnrEgCuCdBynBynBnijgBldebwJqBpbbdbqcCdBgkaiBgBfvBquBbwjCsBfpjChhanyhjgCabjedi",
    "BjcajCqedbmbaBjrbBkgdCkgbabdbobjhCgfjgdbhcbcvbgbbbebjcbcccagafgcgdeljbacabBlbjbacabdbhnb",
    "BdCwfjedBeCrbaijGkCbcixfBiCmdaljBmCehjgtBcBacoejggHdCgDxCvvhcachbbbBdbbcimjCshcBtchbbBbC",
    "kiaiCvdasCuHrBgpjgibBsbipjyBdcvbnCvgbbbBrdabbbiijgfbbbBkbbbfhjLywjqbBodenkDhaDbBJlDyEgrH",
    "nDXkDspBPfqvkFXqfWkKDdCfCOsVwhBebjgDabjgBdcelCcjdmjjufsQqBsdjHqClEyCweCehqCmbbblboJBziBV",
    "pBpjNFrdbgbbbLepaBdccaodiPfDKuEcfmdihjdbGErjTyBtcwUwedfihcgBedFscRbDgbCsbbcacbcdblbabgbC",
    "mbdchbgbBbbdbebadgbNbcybybBebybBebybBebybBebybhcBxTsCceBxiaoaweboBQmBegfIfgbqcgbbbefCjBh",
    "aEiBsdncjeaMjBerCfScBpIgBqSrgbdbbbobHolgBpCxejBTudbBabbbacabjbdbabagaeabababcbbbacababab",
    "ababbbacdbgbdbdbabjbqfcbebqFAajBNqCLFbBgGDtgIncINpoLBkpXxDQwUvCFyHHyfGFfBONHgJf"]),
  (["ids", "idstart"], [
    "CnzgzBvakaeafwbBebRpeloehabaEzebbcdbagabcbabtbDebFiiGjbBlcagBoCtBaedBtBqBjbbDubapbhbkcca",
    "qabBdBdDklayBgjbeafveajadaxyhkfxbfrBpCgCbdasahjppehcbcvbgbadddaqanbbcobkaifebcvbgbbbbbbB",
    "fdbatcqibcbvbgbbbedasapbxalhcbcvbgbbbedaBebbcparabfdcbddbbabbdbdcdlwaCahbcbwbpdaBaccacbB",
    "eaehbcbwbjbedaBfbbbpbribcbBocaqafcicyffrdxbibacgCgBvbbmgCgbbabebxbabjbbjacebavdBgaClhbBj",
    "BbeElBquaqfeddadbhcemmarBlbafacBqbMubdcgbabdcBobdcBgbdcgbabdcobCebdcCoBlpqDhcfdXvcqbzfCw",
    "dkhrnsorombcpBzBjaeaCpDkhBobafCrkBeBxBdcelBrezCcwjCaDeaDpBurhCcBdnbkBrBaBjBpckBjckfBqccB",
    "pdbfbbdafHjCmKrcfcBlcfchbabababBecCabgbadcbgddcfemfcbgEmanaqmDxaeacjbacfgabababpcdfeearB",
    "oDZbIugddbmBlbafacCdhaqwjgbgbgbgbgbgbgbgVecziheceeDheebDlbdfBqbDprBfBwpTsJTnCmBGUeCpBtcK",
    "idpkbuBuqBecDbBnicDycCocbbabhvpbcbdbwBdBzoBxCkfdabblBbkwzBchBuBcaqebjkebBoxcbhuwdadBxbad",
    "bcecabaycckhcmfcfcfjgbgbBqbngEkBdQNrmweBwMNcObcEbBmgmefabjbmbebabbbbbEdBhNysClcCbBolEmeb",
    "FeBkzgzlDkdfcfcfccBjlbzbsbbbocnBiEsCrCaKhBcdBwBvBfnBdfBlkBdcBjehbeBqGbsBjeBjeBniBzmkbobg",
    "bbbkbobgbbdBzmLyjvkhyfbBpbiCrfcabBrbbdacwkwjBeCnsbbkvkzCsCdgbCmapdbcbBcBqBcdBcBjhbBbBbCb",
    "kvksnrEgCuCdBynBynBjBmBbjwJqBpgbqcChBckaivBqrBuuBbwmCaCfbcanBsBgyBaBjBdacaiBidamBvodvaba",
    "BjrbytbClgbabdbobjhBuBmhcbcvbgbbbedasameBejbacabBlbazabaBsCasducBeBvubbaHcBuBpdBkBvuaChB",
    "qnaCtBaBlgHdBrEmClBfhcachbbbxpabaDqhcBmqabaBcakBnhavalBttasCuHrBgBfibBkraBxBdEigbbbBlvaz",
    "fbbbBfoaMpspabmbBhEuaDbBJlDyEgrHnDXkDspBPfrfzFXqfWkKDdBdCPuVwhBerDarBdsBvqdBfufsQqBsIdCl",
    "EyCwfaComCmbbaBcJBziBVpBpjNFrdbgbbbLepaBdccaodiPfDKuEcfmdihjIWkDgbCsbbcacbcdblbabgbCmbdc",
    "hbgbBbbdbebadgbNbcybybBebybBebybBebybBebybhCSyBegfKbCjFqBskgqaMjBdsBrSqBbIuBdcaTbgbdbbbo",
    "bHoChCphaBUidbBabbbacabjbdbabagaeabababcbbbacabababababbbacdbgbdbdbabjbqfcbebqGOaCLFbBgG",
    "DtgIncINpoLBkpXxDQwUvCFyHHyfGFf"]),
  (["ideo", "ideographic"], [
    "SEwbziocBLdJTnCmBFBjBHSiObcEbBSIkaBbJBziBVpBpjNUlPfBDEiCLFbBgGDtgIncINpoLBkpXxDQwUvCFyHH",
    "yfGFf"]),
  (["joinc", "joincontrol"], ["MDob"]),
  (["loe", "logicalorderexception"], ["FKieEteEDsccaCCXmbcabb"]),
  (["lower", "lowercase"], [
    "DtzBvakaeaBkxbhbabababababababababababababababababababababababababababbbabababababababbb",
    "ababababababababababababababababababababababacababccabacadbeacadccacababacabbbacadabacbc",
    "cgacacababababababababbbababababababababbcabadababababababababababababababababababababab",
    "ababababababababgcacbbaeababababCqbBjhbBeeDsaBrabadacdsaBbBibbdcbabababababababababababe",
    "bacacbBzBvbababababababababababababababababajabababababababababababababababababababababa",
    "bababababacababababababbbabababababababababababababababababababababababababababababababa",
    "babababababababababababababababaBwBoEHbBqbdBDgfDFuibaEnHjCnababababababababababababababa",
    "babababababababababababababababababababababababababababababababababababababababababababa",
    "babababababababababababababababibabababababababababababababababababababababababababababa",
    "bababababababababababababababababababababiifkhihifkhihinchihihiebbgadcbbidcbihkcbbEranaq",
    "mEfadbdaBbaeaeacbideaBhpeaBGlzCTqBvbadbbababaeabbbhdabababababababababababababababababab",
    "abababababababababababababababababababababababababababababababbhabaeamBlbafaBTWdabababab",
    "ababababababababababababababababababatabababababababababababababcFdababababababcbabababa",
    "bababababababababababababababababababababababababababjbabacababababaeabacabcbabababababa",
    "babababafafabababababababaeabacadabababababawcbabcBFpBqbngDbBEAigmeBOzzBVhBnFgBjFzkbobgb",
    "bRjaccbBpbiBXlByEvvEGoBfBGJwBfBMMkzBagbrBazBadbabgbkBazBazBazBazBazBazBazBazBaBbBcybfBay",
    "bfBaybfBaybfBaybfbaCSyjbtgfKbCjDHsBh"]),
  (["math"], [
    "BraqcBfaBdabaBtaeaBlaBfaBCaccaBabccUhcJWnaBbcladanaodveleCnmeadbeesaeacjbacfgadbcbbcbfdn",
    "baCqxbfbbebeBfbagboKhidubDmaBeBabayalgRdbmjefebcbdeoabacflhfbCfabaBddjcMyClJwTrBwucfDASq",
    "aBFrfbaGgaqcBdabaBdabaFbagdFEfbCXDwDgbCsbbcacbcdblbabgbCmbdchbgbBbbdbebadgbNbcLfcBxIIqdb",
    "BabbbacabjbdbabagaeabababcbbbacabababababbbacdbgbdbdbabjbqfcbebqCab"]),
  (["mcm", "modifiercombiningmark"], ["CKibcaFbagadbSnbbcdaBfa"]),
  (["nchar", "noncharactercodepoint"], [
    "DSDcBfUgbDSYobDSYobDSYobDSYobDSYobDSYobDSYobDSYobDSYobDSYobDSYobDSYobDSYobDSYobDSYobDSYo",
    "b"]),
  (["oalpha", "otheralphabetic"], [
    "BGfaBdmWenbabbbbbaCukBwmbgqaDxgedcbeaBjaBepDykDxbdibcbdEcaCildggtCcbcobbfckbBdcCggcbcbka",
    "kbBdcCgeebcbeaBebdalcCghbcbbvbwcecCggcbcbjbkbBeaChedcbckaBoeCfgbcbciblbBdcCggbcbciblbpam",
    "dCggbcbckakbBdcCxfbabhsbCjacgsaDvacfbbqaGhsjkbBjEglbacdxdecbccgddnlbakdCLobBebBebBebCosH",
    "gbBiaEoleiIoeCfjctCwblcBxeBwoCicBeicbCfkBysPwBhCOnBzDKgBfBTQahBibNqaiaxeDkbBypbaCfaBmeBc",
    "lBtdBwlBlaCpnmaibBtcByabccbfaBsefaJdhBDZvaDEdeCMgcbbfdBEidCnaMjbDbaJzcCbnBtblcBtijaCjcBk",
    "lsbCfcBwmobDoicagacaGbjxdCggcbcbkakbDgibacabdbbDzmbcEcrJdgcgBdbDeobaEckDznJxmJnfbbcbdaba",
    "FmgcfeaBcjBqebdskBunPrhbgDfvbnEsfdabbbcbadaCoebbbdNkdjbbaBwgdcYYnqFJcabCchdDpbBDAyaNKjgb",
    "qcgbbbeDwaDHvaCZwzgzgz"]),
  (["odi", "otherdefaultignorablecodepoint"], ["BGpaFIlbCKhbDHnaGLiaDACpaDbiBWMIhabBdDsExJgFIl"]),
  (["ogrext", "othergraphemeextend"], [
    "DRyayaNuayaDyayaIyabaebbbjbDzayaEpapaDMraBeaBNkafabafbDxaCtbBOiaGCvbBTWtaEeaBGNlbGWmaEma",
    "KeaoajaDsajacabcfaIqamaJhaKcaYjamaCHfaBEOkbBKXnbgfBTLAzDr"]),
  (["oidc", "otheridcontinue"], ["HbaBBraGAjiCLcaCIzbGKraDAEja"]),
  (["oids", "otheridstart"], ["JHlbDGjavaFVwb"]),
  (["olower", "otherlowercase"], [
    "GoapaThihbBeeDsaCaaFCzaEPzCknaBiBkBAnanaqmIdpBGqzCWobBUGkbIcaEzcdbBHidjaBIWsaccbBpbiDDZh",
    "Cj"]),
  (["omath", "othermath"], [
    "DqaBHxccaBabcbKQyaBbclaBgdybobCnmeadbeesaeacjbadegadbcbbcbfddfeCxecdbbbbbabecbebercbbabg",
    "bagbLedGmbbayaraRdbmifefbcbdeoabacfybCfabaBddjbNebBfjPnvCldBgbDCLfabaeaIdabaDCOvDgbCsbbc",
    "acbcdblbabgbCmbdchbgbBbbdbebadgbNbcybybBebybBebybBebybBebybhcBxIIqdbBabbbacabjbdbabagaea",
    "bababcbbbacabababababbbacdbgbdbdbabjbqfcbebq"]),
  (["oupper", "otheruppercase"], ["MQqpBGgzGSIyzgzgz"]),
  (["patsyn", "patternsyntax"], [
    "BhokgBadbaBadBigbabbbabbeaeadaxaBfaLUexiocsbjLtBBrGeYfBeBRnTsExOvceypaCZQzbKbb"]),
  (["patws", "patternwhitespace"], ["jesaDwaLYmbyb"]),
  (["pcm", "prependedconcatenationmark"], ["CHcfIhaBxaOubDcaDVXyapa"]),
  (["qmark", "quotationmark"], ["BiaeaFbapaLWuhzbFIdaRpdncDABpdHhaeaDmb"]),
  (["radical"], ["RPwzbDkmIf"]),
  (["ri", "regionalindicator"], ["HGOkz"]),
  (["sterm", "sentenceterminal"], [
    "BhamaqaCAbaFrcGyaBrcJmaCjabadbLhbCPwbBEkaebBDtaHqbGbbBtafaMcbNqdGgbkbcbBdcHfbCnbBJwaxbjc",
    "EUxcLuanawbQnaBSHwaKkbItadaOsbDibDraFwbFrcFobJpaBFCwacbChadbGnamaqaCnaEDwbBXdeBsdHhbEndE",
    "xcEzbgaqbDkbbbEeaLmbEnbOjbfoEbbJpcTxabaJrbDjbQebBAqbCwbBCMbbFdaCnblaVhbLkaBDOgaLIma"]),
  (["sd", "softdotted"], [
    "EbbHoaKvaBeaCaauaMiaDuabaJMnaBzanadaFcaGbaQfaIgbEGgaGELhbBybBybBybBybBybBybBybBybBybBybB",
    "ybBybDFyaLtbBaa"]),
  (["term", "terminalpunctuation"], [
    "BhakabalbdaBFyaiaTtaCfaCuaoabcGyaBrkbaJbbCcfbhBfaKbbBWubGqaefLzbBEjhBDtaEucCtbGbcdaBndcb",
    "McbNqdGgbkbbcBdcHfeCkbBJwaxbjcEUxcLuanaeakabbdbQmbBSHvbKjcIteOsbDibDraFvcFrcExaqbJpaBFCw",
    "acbCfcbdGnakabalbdaCnacaBPqaBwaBSoaHraLybFwfCqfDldBKqeBsdHhgEidExcEzbgaqbDkeEeaLmbEncmbN",
    "uddoEbbJpcTxabaJrbDjbebPycBtaYvbCwbBYxeBAMzbFdaCnckaVhbLjbBDOgaLIld"]),
  (["uideo", "unifiedideograph"], [
    "TSaJTnCmBFBjBICsbbabbkababbccDVEcCLFbBgGDtgIncINpoLBkpXxGRqHHyfGFf"]),
  (["upper", "uppercase"], [
    "CnzDxwbgBhabababababababababababababababababababababababababababacabababababababacababab",
    "ababababababababababababababababababababbbabadbbabbbccdbbbcdbbbbababbbacabbbcbabbdahacac",
    "acabababababababacababababababababacacabcbababababababababababababababababababababababab",
    "abababababahbbbcabdbabababaLdabadaiagabcbabbbqbiBjaccdabababababababababababafacabbcByBw",
    "ababababababababababababababababajababababababababababababababababababababababababababab",
    "bbabababababacababababababababababababababababababababababababababababababababababababab",
    "ababababababababababacBlEHdBlbafaBBuDhDGlagBqccMiabababababababababababababababababababa",
    "babababababababababababababababababababababababababababababababababababababababababababa",
    "bababababababababababajababababababababababababababababababababababababababababababababa",
    "babababababababababababababababajhifkhihiflabababaihCudmdmdmeldKcaeadccccadegabababdcdkb",
    "faBaptaBFmzCSuBvBwabccabababdbacaicbabababababababababababababababababababababababababab",
    "ababababababababababababababababababababababaiabaeaBTYjababababababababababababababababa",
    "babababababatabababababababababababababaFfababababababadabababababababababababababababab",
    "ababababababababababababababakababbbabababaeabacabadababababababababababebebabababababab",
    "abdbabbdafabababayaBHAhzBUzBnFgBjGakbobgbbCQcByGbvEGoBfBGJwBfBMMqzBazBazBaabbcacbcdbhBaz",
    "BabbdchbgBbbbdbebadgBbzBazBazBazBazBazBeyBhyBhyBhyBhyBhaGNlBhDBizgzgz"]),
  (["vs", "variationselector"], ["JCtcbaDJCapBWNKyJf"]),
  (["wspace", "whitespace", "space"], ["jesaDwaBaaIHjaDPnkBdbfaBvaFXwa"]),
  (["xidc", "xidcontinue"], [
    "BwjhzeabzBvakabacafwbBebRpeloehabarEmbbdcbagebabtbDebFibecGjbBlcagBoiBsbabbbbbaiBaedBdkf",
    "CveDxbhcjbscaqCgcDwoCbeacacBtsBbekfxbfiCwbEycjbsbhcbcvbgbaddcicbcdiaebbeclkabaccbfebcvbg",
    "bbbbbbcabeebccdahdbahplcbibcbvbgbbbecjbcbccapdcjjgbcbhcbcvbgbbbecicbcchcebbecjbaqbbfdcbd",
    "dbbabbdbdcdleedcbdcagaojqmbcbwbpcibcbdhbbccacdcjqdbhbcbwbjbecibcbdhbgbbdcjbcmmbcbBybcbef",
    "dhecjkfbcbrdxbibacgdaefbabhgjcbnCffobjBnbbabebxbabwcebabgbjcdBgaxbgjlababaejbBjetbrbBjja",
    "CfCvgCzcBlbafacBqbMubdcgbabdcBobdcBgbdcgbabdcobCebdcCoccjiopqDhcfdXvcqbzfCwdkhvjvltmmbcb",
    "bmDfdaebcjBhcbkgDkhBqfCrkBeblelkBncelBrezgkBlBbeCkbBcckgjnainbpBxCydjrimElmCdijdBwckfBqc",
    "cqcbBmfUncfcBlcfchbabababBecCabgbadcbgddcfemfcbgpbBxbtaBcanaqmBzmeadlraeacjbacfgabababpc",
    "dfeearBoDZbIugimBlbafacCdhapxjgbgbgbgbgbgbgbgbBfTxczobeceeDhcbccbDqfBqbDprBfBwpTsJTnCmBG",
    "UeCpBtcKidBbuBvejbEkBlicDycCocbbabhvCbeatBzmCrkjgxdabBwcBjmBcdCmokgBebCcjncjgwdCuyccpcek",
    "fcfcfjgbgbBqbngEsbbcjgQNrmweBwMNcObcEbBmgmeflbmbebabbbbbEdBhFigIjsClcCbBojgpqpdbycBhabad",
    "ababababEvtjhzeabzkDldfcfcfccBjlbzbsbbbocnBiEsCrCaFgaFaBcdBwpaBfBfnBdfBqfBdcBjehbeBqGbcj",
    "gBjeBjeBniBzmkbobgbbbkbobgbbdBzmLyjvkhyfbBpbiCrfcabBrbbdacwkwjBeCnsbbkvkzCsCdgbCmdbbfhbc",
    "bBccceaBgBcdBcBjhbBdzCbkvksnrEgCuCdBynBynBnijgBldebwJqBpbbdbqcCdBgkaiBgBfvBquBbwjCsBfpjC",
    "hhanyhjgCabjediBjcajCqedbmbaBjrbBkgdCkgbabdbobjhCgfjgdbhcbcvbgbbbebjcbcccagafgcgdeljbaca",
    "bBlbjbacabdbhnbBdCwfjedBeCrbaijGkCbcixfBiCmdaljBmCehjgtBcBacoejggHdCgDxCvvhcachbbbBdbbci",
    "mjCshcBtchbbBbCkiaiCvdasCuHrBgpjgibBsbipjyBdcvbnCvgbbbBrdabbbiijgfbbbBkbbbfhjLywjqbBoden",
    "kDhaDbBJlDyEgrHnDXkDspBPfqvkFXqfWkKDdCfCOsVwhBebjgDabjgBdcelCcjdmjjufsQqBsdjHqClEyCweCeh",
    "qCmbbblboJBziBVpBpjNFrdbgbbbLepaBdccaodiPfDKuEcfmdihjdbGErjTyBtcwUwedfihcgBedFscRbDgbCsb",
    "bcacbcdblbabgbCmbdchbgbBbbdbebadgbNbcybybBebybBebybBebybBebybhcBxTsCceBxiaoaweboBQmBegfI",
    "fgbqcgbbbefCjBhaEiBsdncjeaMjBerCfScBpIgBqSrgbdbbbobHolgBpCxejBTudbBabbbacabjbdbabagaeaba",
    "babcbbbacabababababbbacdbgbdbdbabjbqfcbebqFAajBNqCLFbBgGDtgIncINpoLBkpXxDQwUvCFyHHyfGFfB",
    "ONHgJf"]),
  (["xids", "xidstart"], [
    "CnzgzBvakaeafwbBebRpeloehabaEzebbdcbagabcbabtbDebFiiGjbBlcagBoCtBaedBtBqBjbbDubapbhbkcca",
    "qabBdBdDklayBgjbeafveajadaxyhkfxbfrBpCgCbdasahjppehcbcvbgbadddaqanbbcobkaifebcvbgbbbbbbB",
    "fdbatcqibcbvbgbbbedasapbxalhcbcvbgbbbedaBebbcparabfdcbddbbabbdbdcdlwaCahbcbwbpdaBaccacbB",
    "eaehbcbwbjbedaBfbbbpbribcbBocaqafcicyffrdxbibacgCgBvbangCgbbabebxbabjbakacebavdBgaClhbBj",
    "BbeElBquaqfeddadbhcemmarBlbafacBqbMubdcgbabdcBobdcBgbdcgbabdcobCebdcCoBlpqDhcfdXvcqbzfCw",
    "dkhrnsorombcpBzBjaeaCpDkhBobafCrkBeBxBdcelBrezCcwjCaDeaDpBurhCcBdnbkBrBaBjBpckBjckfBqccB",
    "pdbfbbdafHjCmKrcfcBlcfchbabababBecCabgbadcbgddcfemfcbgEmanaqmDxaeacjbacfgabababpcdfeearB",
    "oDZbIugddbmBlbafacCdhaqwjgbgbgbgbgbgbgbgVecziheceeDhgcbDlbdfBqbDprBfBwpTsJTnCmBGUeCpBtcK",
    "idpkbuBuqBecDbBnicDycCocbbabhvpbcbdbwBdBzoBxCkfdabblBbkwzBchBuBcaqebjkebBoxcbhuwdadBxbad",
    "bcecabaycckhcmfcfcfjgbgbBqbngEkBdQNrmweBwMNcObcEbBmgmefabjbmbebabbbbbEdBhFigIjsClcCbBojE",
    "pabadababababEvBkzgzlCdcBedfcfcfccBjlbzbsbbbocnBiEsCrCaKhBcdBwBvBfnBdfBlkBdcBjehbeBqGbsB",
    "jeBjeBniBzmkbobgbbbkbobgbbdBzmLyjvkhyfbBpbiCrfcabBrbbdacwkwjBeCnsbbkvkzCsCdgbCmapdbcbBcB",
    "qBcdBcBjhbBbBbCbkvksnrEgCuCdBynBynBjBmBbjwJqBpgbqcChBckaivBqrBuuBbwmCaCfbcanBsBgyBaBjBda",
    "caiBidamBvodvabaBjrbytbClgbabdbobjhBuBmhcbcvbgbbbedasameBejbacabBlbazabaBsCasducBeBvubba",
    "HcBuBpdBkBvuaChBqnaCtBaBlgHdBrEmClBfhcachbbbxpabaDqhcBmqabaBcakBnhavalBttasCuHrBgBfibBkr",
    "aBxBdEigbbbBlvazfbbbBfoaMpspabmbBhEuaDbBJlDyEgrHnDXkDspBPfrfzFXqfWkKDdBdCPuVwhBerDarBdsB",
    "vqdBfufsQqBsIdClEyCwfaComCmbbaBcJBziBVpBpjNFrdbgbbbLepaBdccaodiPfDKuEcfmdihjIWkDgbCsbbca",
    "cbcdblbabgbCmbdchbgbBbbdbebadgbNbcybybBebybBebybBebybBebybhCSyBegfKbCjFqBskgqaMjBdsBrSqB",
    "bIuBdcaTbgbdbbbobHoChCphaBUidbBabbbacabjbdbabagaeabababcbbbacabababababbbacdbgbdbdbabjbq",
    "fcbebqGOaCLFbBgGDtgIncINpoLBkpXxDQwUvCFyHHyfGFf"])]

end TypedStore.Unicode
