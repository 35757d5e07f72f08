import TypedStore.Unicode.Ranges

/-!
# General categories

The general category of every assigned character, one table for each category that is
not a union of others. Surrogates are no characters, and what is in no table is
unassigned.
-/

namespace TypedStore.Unicode

/-- The categories, with the normal forms of their short and long names. -/
def categories : List Table := [
  (["cc", "control", "cntrl"], ["aBfDrBg"]),
  (["cf", "format"], [
    "GraCAkfwaHkaBxaOubDcaFTjaDAqeBaeBxebjDGHjaJpcGIzapaNKkpBZQudHWxhBTKZmaBeDr"]),
  (["co", "privateuse"], ["DGVoJMdCAHXoDSYncDSYn"]),
  (["ll", "lowercaseletter"], [
    "DtzCgaBpxbhbabababababababababababababababababababababababababababbbabababababababbbabab",
    "ababababababababababababababababababababacababccabacadbeacadccacababacabbbacadabacbccgac",
    "acababababababababbbababababababababbcabadababababababababababababababababababababababab",
    "ababababababgcacbbaeababababCqbBaHlabadadcsaBbBibbdcbabababababababababababebacacbBzBvba",
    "babababababababababababababababajababababababababababababababababababababababababababaca",
    "babababababbbabababababababababababababababababababababababababababababababababababababa",
    "babababababababababaBwBoEHbBqccBDgfDFuibaEnBrClmbBhDyabababababababababababababababababa",
    "babababababababababababababababababababababababababababababababababababababababababababa",
    "bababababababababababababibababababababababababababababababababababababababababababababa",
    "babababababababababababababababababiifkhihifkhihinchihihiebbgadcbbidcbihkcbbKoadbdaBbaea",
    "eacbideaCbaEBbBvbadbbababaeabbbffabababababababababababababababababababababababababababa",
    "babababababababababababababababababababababbhabaeamBlbafaBTWdabababababababababababababa",
    "bababababababababatabababababababababababababaFfababababababcbababababababababababababab",
    "ababababababababababababababababababhbabacababababaeabacabcbabababababababababafafababab",
    "ababababaeabacadabababababaBaadaBFpBqfihDbBEAigmeBOzzBVhBnFgBjFzkbobgbbCRbByEvvEGoBfBGJw",
    "BfBMMkzBagbrBazBadbabgbkBazBazBazBazBazBazBazBazBaBbBcybfBaybfBaybfBaybfBaybfbaCSyjbtgfD",
    "UdBh"]),
  (["lm", "modifierletter"], [
    "BAmreloehabaFdafaSkaIwaGibKjbeaBfajadaGeaGlaBVoaExaVtaCPmaEdaXnaRwfGsCknaBiBkBAnanaqmEMx",
    "bJhaHjaSbaBrefaDtbDpcBQBuaBWcfKkaEkaBcbEriDcaxaEbcdbSbawaFhaEeavbDzdjaBFViaBtbCZofbBpbiC",
    "CxaBgaBJNsdTocBobVemCmbbaYGqdbgbbSGnCjHtgBKfaBRba"]),
  (["lo", "otherletter"], [
    "GoapaJwaedIaaBFvBaedBtBfbjBjbbDubaybkccaqabBdBdDklayBgvvBqyhkfxbfrBoChCbdasahjqoehcbcvbg",
    "badddaqanbbcobkaifebcvbgbbbbbbBfdbatcqibcbvbgbbbedasapbxalhcbcvbgbbbedaBebbcparabfdcbddb",
    "babbdbdcdlwaCahbcbwbpdaBaccacbBeaehbcbwbjbedaBfbbbpbribcbBocaqafcicyffrdxbibacgCgBvbbmfC",
    "hbbabebxbabjbbjacexdBgaClhbBjBbeElBquaqfeddadbhcemmaEjMqbdcgbabdcBobdcBgbdcgbabdcobCebdc",
    "CoBlpEjXvcqbzfCwghhrnsorombcpBzBoaCpBibCahecBhbafCrkBeBxBdcelBrezCcwjCaGuBurhCcBdnbkBrBa",
    "BjBpckBdEjdbfbbdaBPqdENvCdywjgbgbgbgbgbgbgbgVfaCbaeDhiabDleafBqbDprBfBwpTsJTnCmBFCebBRyC",
    "pBniKhepkbCoaBxCrGnaDzadgbcbdbwBdBzoBxCkfdabblBbkwzBchBuBtecikebBoxcbhupbfdadBxbadbcecab",
    "aybdkhaofcfcfjgbgFpBiBdQNrmweBwMNcObcEbCpabjbmbebabbbbbEdBhNysClcCbBolEmebFeEbjbBscBedfc",
    "fcfccBjlbzbsbbbocnBiEsOzBcdBwBvBfntbhgBlkBdcBjehEyCzDuBniBzDoBzmLyjvkhFwfcabBrbbdacwkwjB",
    "eCnsbbkvkzCsCdgbCmapdbcbBcBqBcdBcBjhbBbBbCbkvksnrEgCuHbBjBmdbaLsBpgbqcChBckaivBqrBuuBbwm",
    "CaCfbcanBsBgyBaBjBdacaiBidamBvodvabaBjrbytbClgbabdbobjhBuBmhcbcvbgbbbedasameBejbacabBlba",
    "zabaBsCasducBeBvubbaHcBuBpdBkBvuaChBqnaCtBaBlgHdBrIdhcachbbbxpabaDqhcBmqabaBcakBnhavalBt",
    "tasCuHrBgBfibBkraBxBdEigbbbBlvazfbbbBfoaMpspabmbBhEuaDbBJlIwHnDXkDspBPfrfzFXqfWkKDdBdCPu",
    "VwhBerDarBdsBvBzufsQtBnPpCwfaGtJBziBVpBpjNGhLepaBdccaodiPfDKuEcfmdihjNBcaThBsBhaMjBdsBrS",
    "qBaIvBdcaTbgbdbbbobHoBZndbBabbbacabjbdbabagaeabababcbbbacabababababbbacdbgbdbdbabjbqfcbe",
    "bqGOaCLFbBgGDtgIncINpoLBkpXxDQwUvCFyHHyfGFf"]),
  (["lt", "titlecaseletter"], ["RlacacaBmaLFhhihihmapaBva"]),
  (["lu", "uppercaseletter"], [
    "CnzDxwbgBhabababababababababababababababababababababababababababacabababababababacababab",
    "ababababababababababababababababababababbbabadbbabbbccdbbbcdbbbbababbbacabbbcbabbdahacac",
    "acabababababababacababababababababacacabcbababababababababababababababababababababababab",
    "abababababahbbbcabdbabababaLdabadaiagabcbabbbqbiBjaccdabababababababababababafacabbcByBw",
    "ababababababababababababababababajababababababababababababababababababababababababababab",
    "bbabababababacababababababababababababababababababababababababababababababababababababab",
    "ababababababababababacBlEHdBlbafaBBuDhDGlagBqccMiabababababababababababababababababababa",
    "babababababababababababababababababababababababababababababababababababababababababababa",
    "bababababababababababajababababababababababababababababababababababababababababababababa",
    "babababababababababababababababajhifkhihiflabababaihCudmdmdmeldKcaeadccccadegabababdcdkb",
    "faCjaDZgBvBwabccabababdbacaicbababababababababababababababababababababababababababababab",
    "abababababababababababababababababababaiabaeaBTYjabababababababababababababababababababa",
    "bababatabababababababababababababaFfababababababadababababababababababababababababababab",
    "abababababababababababakababbbabababaeabacabadababababababababababebebabababababababdbab",
    "bdafabababayaBHAhzBUzBnFgBjGakbobgbbCQcByGbvEGoBfBGJwBfBMMqzBazBazBaabbcacbcdbhBazBabbdc",
    "hbgBbbbdbebadgBbzBazBazBazBazBazBeyBhyBhyBhyBhyBhaGNlBh"]),
  (["mc", "spacingmark"], [
    "DKtaCdaccidbbBybCgcgbcbkaBraCgcCoaCgciabbCbbCgabagbcbkaDybbbdcbckaBpcCjdCjbCgabecbbbjbBc",
    "aobCgcfcbckaBqbCxcghsbMsbClaGpbeagacbzbkccgvbcfcakcCLsaBeaEzahhbbNidccebbfIqbCgabajabbif",
    "FpaBwafabebbCjaBeaebcaCiaccbadbBwhibGpavaHHebBTLbbcaDkbBypFmbBvaBwbebccEgbcbyaBtabaEfacb",
    "faJdbbbbbbaBLXjabaExaBtcebElaybChaBwcjbnaDpcdbbaGocBfbCgbbdcbccjakbDgchacabdbbbaDxcibdaE",
    "ccgabdcaJdcgdcaEjcibbaEfabbgaDzabbeaKbcjaJnfbbeacabaFmcideaDgaBdbCkaPraoaEcahacaIfeebbaN",
    "mbmaBwbibbaYYycFJgCcEabBKXnbgf"]),
  (["me", "enclosingmark"], ["BSqbIKqaCIgdbcBYOxc"]),
  (["mn", "nonspacingmark"], [
    "BDoEhKpeKfBsbabbbbbaCukBwuqaDxgcfcbbdBjaBeBaDnkCgijaydbibcbeBrcChiBqxbBfCdabaeheadgkbBda",
    "CgaediaubBaacbCfaebebccdaBebdalbCfaeebbeaubwfbaCgacabdiahblbBeaCjamaByadaCdabcfcbdhblbBd",
    "aCgacagafbubBcbCfbediaubBdaCuahcbaDmacgmhDuacilgCvbBbababaCdnbebbfkbBjjaDydbfbbcbzbecqdn",
    "acbgapaBBbcBKkcBdbBebBebCmbbgiackjaBtcbaEnbBiaEocebjagcIlbcaCgabgbabachgjcaBwnbpBxdBwabe",
    "bafaBoimbBgdcbbcCeabbdabcCghcbFwcbmbgeagadbHqClBBsmeadlEOccFlaDsBfVidEdbBSQeaejBgbDcbKma",
    "daeazbfaFvbBarnaBmhzkBucBwacdcbBnaCpfcbcbmaiaBvaBzabccbfbbaBqbiaJeacaeaBDZsaBCjpqpBLlaIs",
    "aFteCMgcbbfdBoceaGjbWbdCneMfbDbdCskBxdEtaCcoBpacbkcBxdcbhaCjcBkebhCkambCaikdcaDrccabbgac",
    "aGbadhvbCfbdaBlgdeCsfnababaobDhhccbaxaDgfbaebbbJedgbbbBbbDhhcabbEcabacfbaDxabacdbeJzibbJ",
    "wbbaeaFodcbeaBgjBofcdiajfccBumbbPqgbfbaDevcgbbbbEsfdabbbgbaCubdabaNjblbCaefabaxaHXtagoQY",
    "yldcDSaeChgBOiaCldDdaBDBkbGYzBtcwUycrhcgBedFscCYdCceBxiaoaweboCAigbqcgbbbeDwaGegOlaCjdTo",
    "dJubBCigEfgBTCIvJf"]),
  (["nd", "decimalnumber", "digit"], [
    "BwjCIojFejHqjPwjEojEojEojEojEojEojEojEojEojDsjEojCsjKsjCsjCTqjBmjLojEyjGkjgjHajDijFejgjC",
    "AEojBAcjBmjHqjwjDijPqjBFMcjCCkjDFyjgjBEqjEyjCijFojKsjNejEojOkjDyjgtCyjQgjDyjZmjDijJmjCsj",
    "QgjYYgjDMcjDijFejUojBKDyjECqBxDNcjQgjTijJnjBGvjHBaj"]),
  (["nl", "letternumber"], ["IRucDYtBicdFMsaziocBSYljBIFgCaRsaiaFeeMEsEg"]),
  (["no", "othernumber"], [
    "GwbfaccDMrfOmfEqcFdgIjgriQrjBPltBRvjSmaCMvadfgjHqpBpaBByChDavYgBdCBhaBTcdFijBehboBgjBnoB",
    "SMifBHQnBsCndrbNdBaBkdBZghzgBniCxewfGebcpcBtCmiCabBecCxeEahyhBpgMsfNoBeGcjBqdEigFetOptBZ",
    "xbQoiBHnsBGtuBCPqgBEswBLYftmtEeyIBuiBJtCgbcbdCyBsboBLam"]),
  (["pc", "connectorpunctuation"], ["DraMBvbtaDGAobycJfa"]),
  (["pd", "dashpunctuation"], [
    "BtaCAuaBzaFKjaBNpaDBdfFHxacaBfbeaBcaReataEhaCZWabBlakaGnaFLoaMga"]),
  (["pe", "closepunctuation"], [
    "BpaBzaBfaFPdabaCUoaDRdaCdapaYkabaBeaBPuababababababaDcaBgababababaPoabababababababababab",
    "aCmabaBhaBOvabababaBsabababaQmababababadabababacbCZRqaIjaBdabababababababadarababaGoaBza",
    "Bfacaca"]),
  (["pf", "finalpunctuation"], ["HfaLWvadaBcaFFsabaeacapada"]),
  (["pi", "initialpunctuation"], ["GpaLXkacbcazaFFsabaeacapada"]),
  (["po", "otherpunctuation"], [
    "BhcbccababbkbdbBbaCqafaobhaBBaaiaRyfBpaCcacacaBsbubbbnabcCwdDyaBrnIzcCcoBfaKbbkaFkaEqaEr",
    "aPaamaOdaDmakbGmobaEiaCweebEhfGpaXoiBDtaEucCtbGbcbcBlfbdMbbIibEygbfGebkgBccEudCheCkbCmhl",
    "aBGcbihiicdccdkbabjEUcdbbEiaFnbeccacibbbacbkebjcdbabmccQmcCfaHhaBRYgbKjcDvakaElfOqdDibBo",
    "cbaBxbBvaDtmqbEudEwbqbJpaBFCugcawaubcddcbdhcgabbFtcbccababbkbdbBbaBkacbPucZsaBwaPyaBCpaH",
    "raBfaKmiBmaEigCogDldBKqeBsdHhgEfbbdEwdBwbDbdeanabcDkfEdaLmbbbEkekbbaEaaJqwEbcBcmCyaFacJs",
    "aKecFzaDohDfcbeDpjIhaDreBqbYvbCwmGtaBRseEJcbWDvbFdaCneiaVgcLjdMpaBDBoaLIleEItaBHeb"]),
  (["ps", "openpunctuation"], [
    "BoaByaBfaFPeabaCUoaDPmadaBmaCdapaYkabaBeaBPuababababababaDcaBgababababaPoabababababababa",
    "bababaCmabaBhaBOvabababazasabababaQmababababadabababacaCZRtaIhaBdabababababababadarababa",
    "GoaByaBfadaca"]),
  (["sc", "currencysymbol"], [
    "BkaEvdBWjaEtaTebTebhaJlaKdaWjaDQpaDIiBgBZHvaBGMlaEeaFyaIlbdbMCsdCVXeaDRka"]),
  (["sk", "modifiersymbol"], [
    "DqabaCtagaeadaUbdmnfgbabqEnaobBXiaIUmabclcncncnbGHobBSVrwjbDzbBLoaobBEKkqBIhabaGgaDOLje"]),
  (["sm", "mathsymbol"], [
    "BraqcCjabaBtaeaBlaBfaBDmaUhcJYhanaBncncFjaBnegaCqefbeacacahaBfbcabaBfKhBgbDmaBeyBofSbaja",
    "CchEhaMyecBekpJwFawCkeBfcJxBwucfDASqaBFsabcGiaqcCjabaFbagdFEfbCYEzazaBfazaBfazaBfazaBfaz",
    "aIUeb"]),
  (["so", "othersymbol"], [
    "GkacaeabaBLpaKgbExbHyakatbJnaTvaOjaFafbaFcaHzaBpaPbcpabccfuababaFdhbfbbfdHpbBCyjBBvaBBua",
    "GbBhNpjjiCChbbdbbkabbgfbababaealboabbbaCgbjecdbbbbbgbBecbbabBeKihetcgcDcbBdzBngCtwkDdCzw",
    "HabibCbiEgbJnBsBrCmJvTsBvvbgBmcBfbEaIvfNtbBuzbDkmIfBapeanbmavbgbMybejBgBljaqBelBdiapBfkB",
    "mpMhJToClBGUiCcBHhdkbbaWbcBFJapExaBtcSqadaebnbMbiCfqccbmdaBvBsCLubWtaESsaDGnheqBCNidfaBE",
    "UwaFVnJfqQtGaElCiJlkBmcChfcwbhBdeCivCndaHeDiBTxTrCddByhbnbbCOuaEHwaEzaBBtBreDvmocobobBkx",
    "GeCeBcnBreihbofFyJqfBBzeqdmdEoeDqgleapleCdijgBniBdclebCkNbmncmdjfCdhockgihFqbDn"]),
  (["zl", "lineseparator"], ["MEqa"]),
  (["zp", "paragraphseparator"], ["MEra"]),
  (["zs", "spaceseparator"], ["BgaExaIHjaDPnkBkaBvaFXwa"])]

end TypedStore.Unicode
