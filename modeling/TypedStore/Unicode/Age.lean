import TypedStore.Unicode.Ranges

/-!
# Ages

The version of the standard that each character came with. What is of some age has come
with that version or with an earlier one.
-/

namespace TypedStore.Unicode

/-- The versions in the order of their dates, each with the characters that it added. -/
def ages : List Table := [
  (["1.1", "v11"], [
    "aTheBdCeDkhBubjwCrBabsbeadafgbabtbBrbgdababababrnlbCnblbBojCacbcbdBbchcbCdBlcgbBmbaBmjbi",
    "mBafexaoadabzfsnncCtcebobBdcjTzcbCacrcedyqcbhcbcvbgbaddcabgcbccjaebbecuhacfebcvbgbbbbbbc",
    "abeebccldbahomcbgbabcbvbgbbbecjbcbccapafjrcbhcbcvbgbbcdchdbccibebbcekrbbfdcbddbbabbdbdcd",
    "hbceedcbdjaplocbhbcbwbjbeegbcbdhbjbejsbbhbcbwbjbeegbcbdhbhabbejsbbhbcbwbpefccbdjaibejFpC",
    "feBcBlbbacbbacagdbgbcbabacbbmbccebabfcjcbRiBlkBmeaeDlfCpfDdEOkFyfDlgvcfcBlcfchbabababBec",
    "CabobncfbsccbibBubwBjgdBarkBlrBeCeBaBvnDmvJhoabEqFdBkBbkvFivFtkDbqtgDhFpdbdcBbbBibabddab",
    "gcgoBedxbnDDhCdhabDfefcDpgBneDpbpDsBcdBjBcBbdBxpleBubEoeDucBeJWbBEXxYJqJXtIcgmegybebabbb",
    "bbEdBhOaqClcCbBolBkdmuejbsbdecbabFecabDpcDpdfcfcfccdgbgoc"]),
  (["2.0", "v20"], [
    "CCvqbmuaDMxCtbBghBaefbabudgbaFQnaUhaCATwQNrEIFybDSYobDSYobDSYobDSYobDSYobDSYobDSYobDSYob",
    "DSYobDSYobDSYobDSYobDSYoHLXh"]),
  (["2.1", "v21"], ["MJsaDGOta"]),
  (["3.0", "v30"], [
    "TidBehcrEneBxakeDjitaEmadabababaBeamaCoamaBqbcdDobGaaHscDubfapaBqebnbBddBaCbBwCFhbbrdxbi",
    "bacgdaefbabhscOjaBraxchabcbocaBwBhbebbbgddgzQggbCkbabdcgbabdcBmbabdcBebabdcgbabdcgbgbwbB",
    "ebabdcgbBmbsgBbBjDgmYfjBcdDcFnDodjwobjgDjiBpCWbayfDrcBybDhbCuaDziKjaErabBdFibRphBhaDibPi",
    "JvCCezbDkmIfBalCicdaNpxWmJTdBFEgBSudrcpblbcbaBGScaBVvc"]),
  (["3.1", "v31"], [
    "BMybDQQcBfBXwBebdmBaGzBlcBlCZDqJlkBmdGxVaDgbCsbbcacbcdblbabdbbbCmbdchbgbBbbdbebadgbMzeLd",
    "eBxPDwCLEsBETdUvBPCQtaBeDr"]),
  (["3.2", "v32"], [
    "UyaLqatmEabBcaFrbCfbcbcbBxpNmbMjaDNhbCHjmbglwjtmmbcbbDIxageeahenaCkbBygDeoGmlJinEuaBeBzK",
    "ytFvjDkhwbDmlcjIonDmBbepJwTrBZncDjbibDqaJgpDdoDdoBRDibqamadaBGJaCgBJdadpCbbBsaJbb"]),
  (["4.0", "v40"], [
    "UzascEpbClqDchfcFveTwdjiCmcFtbpaBtcBdcQuaHcaCpabaFgaDgcnaCpaChaEzhHlbEFnasjKcBcdleleadBp",
    "ceEdBfBDoEdBCpbIwaZjbLqaKqbEmhobBRanCRnbBxaBrbDadGldDvbBfaJToClCOQvaCvbQxlbzbsbbbocnBiEs",
    "fceBsdiWeBdbaFebBmDbcjBGwfcabBrbbdacaCYUiDiNyaBTKDaJf"]),
  (["4.1", "v41"], [
    "VvkKseGddJmbGoaBicCpasaCgfJhBdUhaDcaStaBvaBMnbLjbbaKgaClaClaBnaBfaBfaBfapaBnaxbBfzCGcBpg",
    "zgjebBgBbcbBGmDjZhbbgBxeBddCbaDcapaYukWaaDxbskfpKkgBGhfJcBubBuBhEcoBskCbjaqwjgbgbgbgbgbg",
    "bgbgBhxebBJupGsaBPItvCTowIzBrBFEaEbBFqjBFaCwUnBjenCIsdbbfhbcbBaeceiiiCXPvCrBRab"]),
  (["5.0", "v50"], [
    "WgnLncMzaBqfqdGkaTxCgOubbbBHibnbFIjCxeBsWlgBzbBCudDpbCbaXblBBmaKqdBGjgfdMemhdBULjdfbLaCd",
    "BKOmzfaIRgBHuFpDundCOGirBQub"]),
  (["5.1", "v51"], [
    "BHwdcbDjaHbaFkpIseleBgeLqrTdbIoaBjaHyaBdbEeaEeaBabibuhHhagaBdbmfdgSxbDtadcCzafacahcefBaC",
    "lebDBeaBBxBqdlCsCddodByMtBbGzdDmfNsaFjaDqaCbdBYaavjddKeaBfdBFfeeBodeKucbcefNqBfydcsBDkaG",
    "gtBPPohBZoLnuBfcriBbFbecEcEgeEyCqjlBmDflaGeCcjncjcdBFSucBHplCaBtFaBcdBwCKdzfaCXSjaLRqBre",
    "Dv"]),
  (["5.2", "v52"], [
    "BYqbBCcBtcoHlaCzagaBjbEyaCFpdHldHgeCqeDefTsaYgiVoCrGybBuaCrCkbBcckgjgnVaBiKgaBAucFvcCcaX",
    "iaBArbBdcejbsbaexDjaBNheKsanbEdgMhaBOclBPLshBXkBvQaDjMajGkBbDwBcdCzbkebEyBbeCoyeIqBtcjQO",
    "kweBwNBbcFGcvbiHebMmBfEyCbdBccBafhEyCuUpBeTtCnLVqBPeCTNdkfBecalabacadadeiahazabbcakdcaEh",
    "apBhoiCQLjGDo"]),
  (["6.0", "v60"], [
    "BYsbJoaCkaSmBbcaIlbtagbBbeTmfQraqataWbdCvbBIobDEnBzidToaZohBcaBFjkBCcatabdBdaebBcaBjabae",
    "cjbCacyaoaobCDkaoaBPocBSEnbLnbbbojDcaBDufcfcfjgbgBEMtpHRiCzeBdBHEeVwBALbbYMgocncoboDcabk",
    "babbbcbcfhbgbjgibacbbjebbjCxzbbBvivbGsBgpfbCrdtmBkbevqpCkbabGzbddCjsxFrebpbcbabababcbfcd",
    "bacdblekBwCrCgElCUQmIn"]),
  (["6.1", "v61"], [
    "CCtaEmaZrabkCdBaTdaBMrbStafaBvcEBbcmfJwhBrdECqabaBYqbBzafaCebHujBRAeaCNnhBjaJibwaCzbBCow",
    "BDZzbFUuCdgbCRoyhjgCabnCiCuhjBTuCdijBHKoCqlBuqqBVWidbBabbbacabjbdbabagaeabababcbbbacabab",
    "abababbbacdbgbdbdbabjbqfcbebqCabYibBLsdHgaqadabababadagbeabbea"]),
  (["6.2", "v62"], ["MKga"]),
  (["6.3", "v63"], ["CIeaJYvd"]),
  (["7.0", "v70"], [
    "BIlaQihDpbEoaZralfCyaEqahaYpaBzaCyaExaIujDKrhVcbPloVxbJdoBBhcBFqgBDtaBQickzcBfcBhdlbhXug",
    "BTOvfJmllccbCraSuBeEvdGuBvebBFIvgBHdbtaMhBbBjaBwBqOzBniBzlaFoLyjvkhJoCkiiRwBfBgBmelFhrhd",
    "mgBVjaIaBmDiamagtlrbBqEkCgfjhcbhcbcvbgbbbecicbccjafgcgdeKhCtijGkCbcrCcCqljWkDemaRgCeDFiB",
    "pHulfaBALfBebjebDsBdcfkCrkjbgbufsBEMaEcfmdihjchQKyHocpCZwaBgvvbUmljaCsawlBlafdflrgCtabaH",
    "aaebClbegBdrbBobDhCsbnBvCsjqmddFkDgBrleCdijgBniBd"]),
  (["8.0", "v80"], [
    "DHrbBuaUnaNoaKaaCMvacfEVoaHvbDYedBRWviCOuaJgaBifMmbXmdmDbBFFqbEBgsbbfeHgbcpcBtYqBynByhfB",
    "VddoeGegbabdbobkDiaDbaYjtLezdoepERpaIwHnLQqWkCAWlkCHzZbpeboJHdcDabDbeBkhJvaCxeJjbFjaWdiD",
    "zeChaCUClINp"]),
  (["9.0", "v90"], [
    "DHuhwoBJpaHyaecbgxcFRziOgaCHbdDXcbBTZlaKsaBHQdbBEvBjeBjFAoaRhDlbabaTumCCxibBsbnkBcdBfcvb",
    "nBFMvaBfJBotBDaBGFlgbqcgbbbeDIzCwfjebDDbrFmaBFyaBpaLobBhcVafbhiaclbleoBmm"]),
  (["10.0", "v100"], [
    "DEmkPlbJsfTsaCgbFYwaJudBBhaBFzaCZaaYceBCmaBPXnuBLPicIQqCtiBzcwbeXhgbbbBrdabbbiijBFGpaYHk",
    "KyDdPfYAefBRpbBibTzltaihbbzasmBmfCewDCPdLBk"]),
  (["11.0", "v110"], [
    "CAyaBnaDyaUfcIdaLmaEpaPhaExaENraBOhBqccFRmcwyeoWpeBCiaBPYheCYhaibMmbBKVcbsaBAtBnijRmBniB",
    "pOhaEocTgaLeaBAxaIvChXlaBBefbbbBkbbbfhjLyyBEApDmJPieBCJutEwgJLwCpBScaCEzaIldOicBcecddabd",
    "yknjhbBkyDsn"]),
  (["12.0", "v120"], [
    "EStaUgacacabfeahahbcanaFKhaFPuaCbaWtaBTZmfceBJrbBMBgwBRkaXcaBCphcBtckGdbBZmBxnaHQuiWJkfe",
    "aBviDmbJCwfPRccrdSAqBsdncjebOeCffaCJzaBKnCiBPeaCBgaBkaIvlLdcBvaBxajaBpfdbkfdhccBwDfBcdec",
    "fcnf"]),
  (["12.1", "v121"], ["TIda"]),
  (["13.0", "v130"], [
    "DIcjZdaQoaEuaFAjbGJuaBAucBHoeKPijBFDgmCYsdBqbCbaBFvdBGQqaEWxBpbccbJuBbOpaFebZaafbBTmgcac",
    "hbbbBdbbcljjCKkaBEJralbKFxSoBqiBLWucDpcCjaBYubBjbQtbDmaDxaebBqbgcBdaGmaodpshgjcngBpFqbCc",
    "BljCMSjgBHTqHHy"]),
  (["14.0", "v140"], [
    "CIfaWwBebbghvaskBHpaBgaExaDWhahajaJfaBAnnEvaBwbYlaBBhaEIoaBvaTfkBRAtcCYibobbabeycBFTdaOr",
    "pExaBubCVgkbobgbbbkbobgbbRjfbBpbiCXxzIwfCyaCGsaFegBHppHWyDuWDxDabjBAEwdbgbbLcdLIbBtcwjEl",
    "VdbEYvBeBHxBeBZdgbdbbboFQkcKmaPcaDeaGsbBsdkdicrcghigCNCpbGEvd"]),
  (["15.0", "v150"], [
    "EXnaSgaDTAkcBFzcDIcjBNaqbBodBbHXdajBcBVHkaBiaMRatERhfKbCjBhaBPwBpGUcaFvceeDlaZrcpbBkclcb",
    "aobkbmaobCTHoaBIWsGFf"]),
  (["15.1", "v151"], ["SEmdTbaKEIqXx"]),
  (["16.0", "v160"], [
    "DGpaHCgbBvaKfbCWycFFebBSQvcmcBJOlBzCTwBldBcibLucCdaBSljbacabBlbjbacabdbjbbibBCvtBVwBhojB",
    "HgaHYzFXqKZtCfEOkCfLYjaXWiJpgQtIToBqeaHCcjebRnafaBuahavacajaIrBk"])]

end TypedStore.Unicode
