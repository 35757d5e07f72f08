import TypedStore.Unicode.Ranges

/-!
# Roles at breaks

The role that a character plays where a text is divided into graphemes, words and
sentences. A character in no table of a kind plays no role there.
-/

namespace TypedStore.Unicode

/-- The roles at the breaks between graphemes, with the normal forms of their names. -/
def graphemeRoles : List Table := [
  (["cr"], ["na"]),
  (["cn", "control"], ["ajbbbrDrBgnaCBmaGUraDAqacbygBxpDGHjaJglTUapBZQudHWxhBTKZlBfDsExJgFIl"]),
  (["ex", "extend"], [
    "BDoEhKpgKdBsbabbbbbaCukBwuqaDxgcfcbbdBjaBeBaDnkCgijaydbibcbeBrcChiBqxbBfCdabaeheadgkbBda",
    "CgabacdiajakbBaacbCfaebebccdaBebdalbCfaeebbeaubwfbaCgabbbdiahckbBeaChabamajaBoadaCdabcfc",
    "bdhblbBdaCgacbbadcbdhblbBcbCfbbacdiajakbBdaCuaeaccbaiaDdacgmhDuacilgCvbBbababaCdnbebbfkb",
    "BjjaDydbfbbcbzbecqdnacbgapaBBbcBKkdBccBdbBebCmbbgiackjaBtcbaEnbBiaEocebjagcIlbcaCgabgbab",
    "achgjcaBwBeBxdBwjecBmimbBgdcfCeabbdabeCehcbFwcbmbgeagadbHqClUeaHnBgEOccFlaDsBfVifEbbBSQe",
    "dbjBgbDcbKmadaeazbfaFvbBarnaBmhzkbaBscBwacdcbcaBkaCpfcbcbmaiaBvaBzabccbfbbaBqbiaJeacaeaB",
    "DZsaBCjpqpOcbXhaIsaFteCMgcbbfdBoceaGjbWbdCneMfbDbdCskBxdEtaCcoBpacbkcBxdcbhaCjcBkebhCkam",
    "bCaibaidcaDrccdgacaGbadhvbCfbbabamajaogdeCpacfbacabcecbaobDhhccbaxaDdacfbacabbbbJbacdgbb",
    "bBbbDhhcabbEcabachDxabacdbeJzibbJlakdeaFodcbeaBgjBofcdiajfccBumbbPqgbfbaDevcgbbbbEsfdabb",
    "bgbaCubdabaNjblbCaefcxaHXtagoQYyldcDSaeChgBOiaCldDdalbBDAxbGYzBtcwUwedfihcgBedFscCYdCceB",
    "xiaoaweboCAigbqcgbbbeDwaGegOlaCjdTodJubBCigEfgEBgeBSXYuDrEyJf"]),
  (["l"], ["GLkDrCFOqBc"]),
  (["lf"], ["ka"]),
  (["lv"], [
    "CNDoaBbaBbaBbaBbaBbaBbaBbaBbaBbaBbaBbaBbaBbaBbaBbaBbaBbaBbaBbaBbaBbaBbaBbaBbaBbaBbaBbaBb",
    "aBbaBbaBbaBbaBbaBbaBbaBbaBbaBbaBbaBbaBbaBbaBbaBbaBbaBbaBbaBbaBbaBbaBbaBbaBbaBbaBbaBbaBba",
    "BbaBbaBbaBbaBbaBbaBbaBbaBbaBbaBbaBbaBbaBbaBbaBbaBbaBbaBbaBbaBbaBbaBbaBbaBbaBbaBbaBbaBbaB",
    "baBbaBbaBbaBbaBbaBbaBbaBbaBbaBbaBbaBbaBbaBbaBbaBbaBbaBbaBbaBbaBbaBbaBbaBbaBbaBbaBbaBbaBb",
    "aBbaBbaBbaBbaBbaBbaBbaBbaBbaBbaBbaBbaBbaBbaBbaBbaBbaBbaBbaBbaBbaBbaBbaBbaBbaBbaBbaBbaBba",
    "BbaBbaBbaBbaBbaBbaBbaBbaBbaBbaBbaBbaBbaBbaBbaBbaBbaBbaBbaBbaBbaBbaBbaBbaBbaBbaBbaBbaBbaB",
    "baBbaBbaBbaBbaBbaBbaBbaBbaBbaBbaBbaBbaBbaBbaBbaBbaBbaBbaBbaBbaBbaBbaBbaBbaBbaBbaBbaBbaBb",
    "aBbaBbaBbaBbaBbaBbaBbaBbaBbaBbaBbaBbaBbaBbaBbaBbaBbaBbaBbaBbaBbaBbaBbaBbaBbaBbaBbaBbaBba",
    "BbaBbaBbaBbaBbaBbaBbaBbaBbaBbaBbaBbaBbaBbaBbaBbaBbaBbaBbaBbaBbaBbaBbaBbaBbaBbaBbaBbaBbaB",
    "baBbaBbaBbaBbaBbaBbaBbaBbaBbaBbaBbaBbaBbaBbaBbaBbaBbaBbaBbaBbaBbaBbaBbaBbaBbaBbaBbaBbaBb",
    "aBbaBbaBbaBbaBbaBbaBbaBbaBbaBbaBbaBbaBbaBbaBbaBbaBbaBbaBbaBbaBbaBbaBbaBbaBbaBbaBbaBbaBba",
    "BbaBbaBbaBbaBbaBbaBbaBbaBbaBbaBbaBbaBbaBbaBbaBbaBbaBbaBbaBbaBbaBbaBbaBbaBbaBbaBbaBbaBbaB",
    "baBbaBbaBbaBbaBbaBbaBbaBbaBbaBbaBbaBbaBbaBbaBbaBbaBbaBbaBbaBbaBbaBbaBbaBbaBbaBbaBbaBbaBb",
    "aBbaBbaBbaBbaBbaBbaBbaBbaBbaBbaBbaBbaBbaBbaBbaBbaBbaBba"]),
  (["lvt"], [
    "CNDpBabBabBabBabBabBabBabBabBabBabBabBabBabBabBabBabBabBabBabBabBabBabBabBabBabBabBabBab",
    "BabBabBabBabBabBabBabBabBabBabBabBabBabBabBabBabBabBabBabBabBabBabBabBabBabBabBabBabBabB",
    "abBabBabBabBabBabBabBabBabBabBabBabBabBabBabBabBabBabBabBabBabBabBabBabBabBabBabBabBabBa",
    "bBabBabBabBabBabBabBabBabBabBabBabBabBabBabBabBabBabBabBabBabBabBabBabBabBabBabBabBabBab",
    "BabBabBabBabBabBabBabBabBabBabBabBabBabBabBabBabBabBabBabBabBabBabBabBabBabBabBabBabBabB",
    "abBabBabBabBabBabBabBabBabBabBabBabBabBabBabBabBabBabBabBabBabBabBabBabBabBabBabBabBabBa",
    "bBabBabBabBabBabBabBabBabBabBabBabBabBabBabBabBabBabBabBabBabBabBabBabBabBabBabBabBabBab",
    "BabBabBabBabBabBabBabBabBabBabBabBabBabBabBabBabBabBabBabBabBabBabBabBabBabBabBabBabBabB",
    "abBabBabBabBabBabBabBabBabBabBabBabBabBabBabBabBabBabBabBabBabBabBabBabBabBabBabBabBabBa",
    "bBabBabBabBabBabBabBabBabBabBabBabBabBabBabBabBabBabBabBabBabBabBabBabBabBabBabBabBabBab",
    "BabBabBabBabBabBabBabBabBabBabBabBabBabBabBabBabBabBabBabBabBabBabBabBabBabBabBabBabBabB",
    "abBabBabBabBabBabBabBabBabBabBabBabBabBabBabBabBabBabBabBabBabBabBabBabBabBabBabBabBabBa",
    "bBabBabBabBabBabBabBabBabBabBabBabBabBabBabBabBabBabBabBabBabBabBabBabBabBabBabBabBabBab",
    "BabBabBabBabBabBabBabBabBabBabBabBabBabBabBabBabBabBabBa"]),
  (["pp", "prepend"], ["CHcfIhaBxaOubDcaBRnaDUGkapaJkbUfaCBlabaJoaCvfBAyaRba"]),
  (["ri", "regionalindicator"], ["HGOkz"]),
  (["sm", "spacingmark"], [
    "DKtaCdaccidbbBybChbgbcbCcaCgcCoaCgciabbCbbCiagbcbEkabbdcbcCacCjdCjbCgacabbBuaobChbfcbcCb",
    "bCybggtbClaExaFibClaGvajbzbBsaCSvahhbbNidccebbfIqbCgabavfFpaCfdCmaBeaebClaccbaCbhibGpava",
    "CAShbcaDkbBypFmaBwaBwbebcbEhbcbyaGbacbfaJdbbbbbbaBLXjabaExaBtcebElaybChaBwcjaoaDpcdbGqcB",
    "fbChabdcbcbvbDhbpabbDzcibdaEdbgabbbacaJebgdcaEjcibbaEfabbEgahaKbcjaJoebbhabaFmcideaDgaBd",
    "bCkaPraoaEcahacaIfeebbaNmbmaBwbibYZacFJgCc"]),
  (["t"], ["GRwDjCWXnBw"]),
  (["v"], ["GPcCtCWZwwCERcadd"]),
  (["zwj"], ["MDpa"])]

/-- The roles at the breaks between words. -/
def wordRoles : List Table := [
  (["le", "aletter"], [
    "CnzgzBvakacabafwbBebSlgBhEiebbcdbagabcbabtbDebFiiGjbBlcdbabBobaEaaBsBqBjbbDubapbhbkccapb",
    "bBdBdDklayBgjbeafveajadaxyhkfxbfrBpCgCbdasahjppehcbcvbgbadddaqanbbcobkaifebcvbgbbbbbbBfd",
    "batcqibcbvbgbbbedasapbxalhcbcvbgbbbedaBebbcparabfdcbddbbabbdbdcdlwaCahbcbwbpdaBaccacbBea",
    "ehbcbwbjbedaBfbbbpbribcbBocaqafcicyffrdxbibacgMbaClhbBjBbeKpBlbafacBqbMubdcgbabdcBobdcBg",
    "bdcgbabdcobCebdcCoBlpqDhcfdXvcqbzfCwdkhrnsorombcGtDkhecBhbafCrkBeIrwJeBurhCcBdnbkBrBaBjB",
    "pckBjckfBqccBpdbfbbdafHjCmKrcfcBlcfchbabababBecCabgbadcbgddcfemfcbgEmanaqmDxaeacjbadegab",
    "ababdbkcdfeearBoBFhBzCRuIugddbmBlbafacCdhaqwjgbgbgbgbgbgbgbgDcaSbaCbbHsBqbDprBfBPToBSuCp",
    "BtcKidpkbuBuqBecDbyHpcbbabhvpbcbdbwBdBzoBxCkfdabblBbkwzBchBuBcaBwBoxcbhFskhcmfcfcfjgbgbC",
    "fgEkBdQNrmweBwNGugmeCeDtBhNysClcCbBolEmebFeBkzgzCrBedfcfcfccBjlbzbsbbbocnBiEsCrCaKhBcdBw",
    "BvBfnBdfBlkBdcBjehbeBqGbsBjeBjeBniBzmkbobgbbbkbobgbbdBzmLyjvkhyfbBpbiCrfcabBrbbdacwkwjBe",
    "CnsbbkvkzCsCdgbCmapdbcbBcBqBcdBcBjhbBbBbCbkvksnrEgCuCdBynBynBjBmBbjwJqBpgbqcChBckaivBqrB",
    "uuBbwmCaCfbcanBsBgyBaBjBdacaiBidamBvodvabaBjrbytbClgbabdbobjhBuBmhcbcvbgbbbedasameBejbac",
    "abBlbazabaBsCasducBeBvubbaHcBuBpdBkBvuaChBqnaMpBrEmClBfhcachbbbxpabaDqhcBmqabaBcakBnhava",
    "lBttasCuHrBgBfibBkraBxBdEigbbbBlvazfbbbBfoaMpspabmbBhEuaDbBJlDyEgrHnDXkDspBPfrfzFXqfWkKD",
    "dBdCPuVwhBerDarBdsBvqdBfufsQqBsIdClEyCwfaComCmbbaBCVkEcfmdihjIWkDgbCsbbcacbcdblbabgbCmbd",
    "chbgbBbbdbebadgbNbcybybBebybBebybBebybBebybhCSyBegfKbCjFqBskgqaMjBdsBrSqBbIuBdcaTbgbdbbb",
    "obHoChCphaBUidbBabbbacabjbdbabagaeabababcbbbacabababababbbacdbgbdbdbabjbqfcbebqYezgzgz"]),
  (["cr"], ["na"]),
  (["dq", "doublequote"], ["Bia"]),
  (["extend"], [
    "BDoEhKpgKdBsbabbbbbaCukBwuqaDxgcfcbbdBjaBeBaDnkCgijaydbibcbeBrcChiBqxbBgCccbrbgkbBdcCeab",
    "gcbccjakbBaaccCeabeebccdaBebdalcCeabhbcbcubwfbcCeabgcbcchckbBeaChedcbdjaBoeCdabgbcbdhblb",
    "BdcCeabgbcbdhblbpamdCdbbgbcbdjakbBdcCsaefbabhsbCjacgmhDuacilgCvbBbababaebBxtbbfkbBjjaDwt",
    "xdecbccgddnlbakdBBbcBKkdBccBdbBebCmBfjaBtcbaEnbBiaEolelIleCfjbBccaBwBeBxeBvqBmimcBemCenB",
    "wtFwcbueagaccHqClUeaHnBgEOccFlaDsBfVifEbbBSQedbjBgbDcbKmadaeaxeeaDfbByrBarnaBmhzmBsdBvnB",
    "kaCpnmaibBtcByabccbfbbaBpefbJchbbBDZsaBCjpqpOcbXhaIsaFteCMgcbbfdBoceaGjbWbdCneMfbDbdCskB",
    "xdEscCboBpacbkdBtkhaCjcBknqbBsamcBwnidbbDolgacaGblvdCdbbgcbccjakbcgdeCpibacabdbebaobDerx",
    "aDdtJbgciBbbDeqEcmDxoJwoJlfbbcdbabbFlgcgdaBcjBogbdiajkBupPphbhDevbnEsfdabbbgbaCoebbbeNjd",
    "jbbaBwgdexaHXtagoQYyrDSaeChgBOiabCchdDdalbBDAxbGYzBtcwUwedfihcgBedFscCYdCceBxiaoaweboCAi",
    "gbqcgbbbeDwaGegOlaCjdTodJubBCigEfgEBgeBSXYuDrEyJf"]),
  (["ex", "extendnumlet"], ["DraMBfapbtaDGAobycJfa"]),
  (["fo", "format"], ["GraCBmaGUraDAtbBaeBxebjDGHjaJpcTUapBZQudHWxhBTKZma"]),
  (["hl", "hebrewletter"], ["CFgBaedDOVyabjbmbebabbbbbj"]),
  (["ka", "katakana"], ["SGneDxbdDmbdJgpIaBubDjCZHeCdCOUcdbgbbbaLbcByaod"]),
  (["lf"], ["ka"]),
  (["ml", "midletter"], ["CgaEuaBBraSdaFsaJXyaDGBbaCnaHoa"]),
  (["mn", "midnum"], ["BsaoaBGcaUcaFabDqaPfaJFfaDFZvadaChadaHbaoa"]),
  (["mb", "midnumlet"], ["BuaMCfbkaDGDpaGyaga"]),
  (["nl", "newline"], ["lbEqaLZmb"]),
  (["nu", "numeric"], [
    "BwjCEwfDmjbaEjasjHqjHqbDcaFbjEojEojEojEojEojEojEojEojEojDsjEojCsjKsjCsjCTqjBmjLojEyjGkjg",
    "jHajDijFejgjCAEojBAcjBmjHqjwjDijPqjBFMcjCCkjDFyjgjBEqjCzapaBijCijFojKsjNejEojOkjDyjgtCyj",
    "QgjDyjZmjDijJmjCsjQgjYYgjDMcjDijFejUojBKDyjECqBxDNcjQgjTijJnjBGvjHBaj"]),
  (["ri", "regionalindicator"], ["HGOkz"]),
  (["sq", "singlequote"], ["Bna"]),
  (["wsegspace"], ["BgaIMhaDPngbcDgaFXwa"]),
  (["zwj"], ["MDpa"])]

/-- The roles at the breaks between sentences. -/
def sentenceRoles : List Table := [
  (["at", "aterm"], ["BuaMCraDGDpaHfa"]),
  (["cr"], ["na"]),
  (["cl", "close"], [
    "BiaecBxabaBdabaBtapaFMsdCUnbDPjhzbkbCcbobYjdBdbBPgfhnDbbBfjPnvCldBgbBNmnobcjyashQljchbcC",
    "ZRqbIhbBcpcbqfGnbBxabaBdababbbbDPOsc"]),
  (["ex", "extend"], [
    "BDoEhKpgKdBsbabbbbbaCukBwuqaDxgcfcbbdBjaBeBaDnkCgijaydbibcbeBrcChiBqxbBgCccbrbgkbBdcCeab",
    "gcbccjakbBaaccCeabeebccdaBebdalcCeabhbcbcubwfbcCeabgcbcchckbBeaChedcbdjaBoeCdabgbcbdhblb",
    "BdcCeabgbcbdhblbpamdCdbbgbcbdjakbBdcCsaefbabhsbCjacgmhDuacilgCvbBbababaebBxtbbfkbBjjaDwt",
    "xdecbccgddnlbakdBBbcBKkdBccBdbBebCmBfjaBtcbaEnbBiaEolelIleCfjbBccaBwBeBxeBvqBmimcBemCenB",
    "wtFwcbueagaccHqClUebHmBgEOccFlaDsBfVifEbbBSQedbjBgbDcbKmadaeaxeeaDfbByrBarnaBmhzmBsdBvnB",
    "kaCpnmaibBtcByabccbfbbaBpefbJchbbBDZsaBCjpqpOcbXhaIsaFteCMgcbbfdBoceaGjbWbdCneMfbDbdCskB",
    "xdEscCboBpacbkdBtkhaCjcBknqbBsamcBwnidbbDolgacaGblvdCdbbgcbccjakbcgdeCpibacabdbebaobDerx",
    "aDdtJbgciBbbDeqEcmDxoJwoJlfbbcdbabbFlgcgdaBcjBogbdiajkBupPphbhDevbnEsfdabbbgbaCoebbbeNjd",
    "jbbaBwgdexaHXtagoQYyrDSaeChgBOiabCchdDdalbBDAxbGYzBtcwUwedfihcgBedFscCYdCceBxiaoaweboCAi",
    "gbqcgbbbeDwaGegOlaCjdTodJubBCigEfgBTCAfDrEyJf"]),
  (["fo", "format"], ["GraCBmaJiaGLiaDAqacbBaeBxebjDGHjaJpcTUapBZQudHWxhBTKZma"]),
  (["lf"], ["ka"]),
  (["lo", "lower"], [
    "DtzBvakaeaBkxbhbabababababababababababababababababababababababababababbbabababababababbb",
    "ababababababababababababababababababababababacababccabacadbeacadccacababacabbbacadabacbc",
    "cgacacababababababababbbababababababababbcabadababababababababababababababababababababab",
    "ababababababababgcacbbaeababababCqbBjhbBeeFkabadacdsaBbBibbdcbabababababababababababebac",
    "acbBzBvbababababababababababababababababajababababababababababababababababababababababab",
    "abababacababababababbbababababababababababababababababababababababababababababababababab",
    "ababababababababababababababaBwBoEItaBDjfDFuibaEnHjCnabababababababababababababababababa",
    "babababababababababababababababababababababababababababababababababababababababababababa",
    "bababababababababababababibababababababababababababababababababababababababababababababa",
    "babababababababababababababababababiifkhihifkhihinchihihiebbgadcbbidcbihkcbbEranaqmEfadb",
    "daBbaeaeacbideaBhpeaBGlzCTqBvbadbbababaeabbbhdababababababababababababababababababababab",
    "ababababababababababababababababababababababababababababbhabaeamBlbafaBTWdababababababab",
    "abababababababababababababababatabababababababababababababcFdababababababcbababababababa",
    "babababababababababababababababababababababababjbabacababababaeabacabcbababababababababa",
    "bafafabababababababaeabacadabababababawcbabcBFpBqbngDbBEAigmeBOzzBVhBnFgBjFzkbobgbbRjacc",
    "bBpbiBXlByEvvEGoBfBGJwBfBMMkzBagbrBazBadbabgbkBazBazBazBazBazBazBazBazBaBbBcybfBaybfBayb",
    "fBaybfBaybfbaCSyjbtgfKbCjDHsBh"]),
  (["nu", "numeric"], [
    "BwjCEwfDmjbbEiasjHqjHqbDcaFbjEojEojEojEojEojEojEojEojEojDsjEojCsjKsjCsjCTqjBmjLojEyjGkjg",
    "jHajDijFejgjCAEojBAcjBmjHqjwjDijPqjBFMcjCCkjDFyjgjBEqjCzapaBijCijFojKsjNejEojOkjDyjgtCyj",
    "QgjDyjZmjDijJmjCsjQgjYYgjDMcjDijFejUojBKDyjECqBxDNcjQgjTijJnjBGvjHBaj"]),
  (["le", "oletter"], [
    "RbaedIaaBkgglBaabaFdaSqaEoBaeeBsBqBjbbDubapbhbkccaqabBdBdDklayBgjbeafveajadaxyhkfxbfrBpC",
    "gCbdasahjppehcbcvbgbadddaqanbbcobkaifebcvbgbbbbbbBfdbatcqibcbvbgbbbedasapbxalhcbcvbgbbbe",
    "daBebbcparabfdcbddbbabbdbdcdlwaCahbcbwbpdaBaccacbBeaehbcbwbjbedaBfbbbpbribcbBocaqafcicyf",
    "frdxbibacgCgBvbbmgCgbbabebxbabjbbjacebavdBgaClhbBjBbeElBquaqfeddadbhcemmaCnBqcMtbdcgbabd",
    "cBobdcBgbdcgbabdcobCebdcCoBlpEjXvcqbzfCwdkhrnsorombcpBzBjaeaCpDkhecBhbafCrkBeBxBdcelBrez",
    "CcwjCaDeaDpBurhCcBdnbkBrBaBjBpckBjsBqccBpdbfbbdaBPqdCtccdEKtCdhaqwjgbgbgbgbgbgbgbgDcaSbc",
    "ziheceeDhgcbDlbdfBqbDprBfBwpTsJTnCmBGUeCpBtcKidpkbCoaqaBgDbBniEaagaDzadgbcbdbwBdBzoBxCkf",
    "dabblBbkwzBchBuBcaqebjkebBoxcbhuwdadBxbadbcecabaycckhcmfcfcfjgbgFpBiBdQNrmweBwMNcObcEbCp",
    "abjbmbebabbbbbEdBhNysClcCbBolEmebFeEbCdcBedfcfcfccBjlbzbsbbbocnBiEsCrCaKhBcdBwBvBfnBdfBl",
    "kBdcBjehbeEsCzDuBniBzDoBzmLyjvkhzbEvfcabBrbbdacwkwjBeCnsbbkvkzCsCdgbCmapdbcbBcBqBcdBcBjh",
    "bBbBbCbkvksnrEgCuHbBjBmfBfaKmBpgbqcChBckaivBqrBuuBbwmCaCfbcanBsBgyBaBjBdacaiBidamBvodvab",
    "aBjrbytbClgbabdbobjhBuBmhcbcvbgbbbedasameBejbacabBlbazabaBsCasducBeBvubbaHcBuBpdBkBvuaCh",
    "BqnaCtBaBlgHdBrIdhcachbbbxpabaDqhcBmqabaBcakBnhavalBttasCuHrBgBfibBkraBxBdEigbbbBlvazfbb",
    "bBfoaMpspabmbBhEuaDbBJlDyEgrHnDXkDspBPfrfzFXqfWkKDdBdCPuVwhBerDarBdsBvqdBfufsQqBsPnCwfaC",
    "omCmbbaBcJBziBVpBpjNFrdbgbbbLepaBdccaodiPfDKuEcfmdihjNBcaThBskgqaMjBdsBrSqBbIuBdcaTbgbdb",
    "bbobHoFeaBUidbBabbbacabjbdbabagaeabababcbbbacabababababbbacdbgbdbdbabjbqfcbebqGOaCLFbBgG",
    "DtgIncINpoLBkpXxDQwUvCFyHHyfGFf"]),
  (["sc", "scontinue"], ["BsbmbBGcaSkaGsbSwaGBxafaDBebGAuaDAAwbbbBcbBdbcbcakaGmbmbCua"]),
  (["st", "sterm"], [
    "BhaBdaCAbaFrcGyaBrcJmaCjabadbLhbCPwbBEkaebBDtaHqbGbbBtafaMcbNqdGgbkbcbBdcHfbCnbBKubjcEUx",
    "cLuanawbQnaBSHwaKkbItadaOsbDibDraFwbFrcFobJpaBFCwacbClbGnaBdaCnaEDwbBXdeBsdHhbEndExcEzbg",
    "aqbDkbbbEeaLmbEnbOjbfoEbbJpcTxabaJrbDjbQebBAqbCwbBCMbbFdaCnblaVhbLkaBDOgaLIma"]),
  (["se", "sep"], ["FdaLZmb"]),
  (["sp"], ["jabbtaExaIHjaDPnkBkaBvaFXwa"]),
  (["up", "upper"], [
    "CnzDxwbgBhabababababababababababababababababababababababababababacabababababababacababab",
    "ababababababababababababababababababababbbabadbbabbbccdbbbcdbbbbababbbacabbbcbabbdahbbbb",
    "bbabababababababacababababababababacbbabcbababababababababababababababababababababababab",
    "abababababahbbbcabdbabababaLdabadaiagabcbabbbqbiBjaccdabababababababababababafacabbcByBw",
    "ababababababababababababababababajababababababababababababababababababababababababababab",
    "bbabababababacababababababababababababababababababababababababababababababababababababab",
    "ababababababababababacBlEHdBlbafaBBuDhDGlaOkabababababababababababababababababababababab",
    "abababababababababababababababababababababababababababababababababababababababababababab",
    "ababababababababajababababababababababababababababababababababababababababababababababab",
    "abababababababababababababajhifkhihiflabababaihyhihihieleldmeleKbaeadccccadegabababdcdkb",
    "faBaptaBFmzCSuBvBwabccabababdbacaicbabababababababababababababababababababababababababab",
    "ababababababababababababababababababababababaiabaeaBTYjababababababababababababababababa",
    "babababababatabababababababababababababaFfababababababadabababababababababababababababab",
    "ababababababababababababababakababbbabababaeabacabadababababababababababebebabababababab",
    "abdbabbdafabababayaBHAhzBUzBnFgBjGakbobgbbCQcByGbvEGoBfBGJwBfBMMqzBazBazBaabbcacbcdbhBaz",
    "BabbdchbgBbbbdbebadgBbzBazBazBazBazBazBeyBhyBhyBhyBhyBhaGNlBhDBizgzgz"])]

end TypedStore.Unicode
