import TypedStore.Unicode.Ranges

/-!
# Characters that are not seen

Controls, separators other than the blank, characters without a meaning of their own,
marks that join the character before them, and all that may be ignored when a text is shown.
-/

namespace TypedStore.Unicode

/-- The letters that spell the characters that are not seen. -/
def unseenRows : List String := [
  "aBfDrBhmaWwEhibgdhabauaIqgGkaBmbBybdBtbabbbbbiBbdgqkkbaBuuqaDxhbfcbbdBgbbaBeBcDlkbnBrihcydbibc",
  "bgpazebaleBgpBqCeCdabaeheadgkbBdacaibcbwahabcecbacfcbcabmcaddyebagdcbwahacacacddxeabgkbdablbaj",
  "adawahacafcehbaccbocdmgbhcaibcbwahacafcbbbfcbcocaddskbagcdaeccabaccccdcmebaccdadcbuvfdaiadaxaq",
  "cbcesdacbcdkgkaladaxakafccbbacwdacdkadnladaBpbbacedadacddakdBabcascyajabbhicfhgkbdlBwackihnBkc",
  "abafayabakacibbfabikbeBfybBbababaoaBkrbebbfBwiaganBkBtdbfbbcbzbecqdnacbgapaBoabebbFnbIyaebhaba",
  "ebBpaebBhaebhabaebpaCfaebCpeBdcBafDibgbYqaBccDlgsmtccisnnadoCabbgiackjckfkflekfDlgfbBiabeCsjBf",
  "debddcaggbcBqbfkBsdBaflcCfbccCeabibachgmkfkfoDhBwjeciaBdimbBgdcfCeabbdabmBwhcepcCkeBrblkbmbgea",
  "gadbbeHkClKsbgbBmbgbiabababaBfbCbapaobgatbdajqyhBvqcbBbancBiCjFkdZqvluCRsbOncceBtabebbCegcoxih",
  "ahahahahahahahBgDqBhBaaDllIgzqaBpfqaDidDxeBraBzaBqaDiiBwaBRIrcCdiNktBvdbjBgbDcbghIntradaeazbfd",
  "kfCehCqjmxnaBmhzkblBefBwacdcbcanaldhazaBpfcbckdaiabbkbBgaBzabccbfbbabxrbikgbgbgihahaCidEnacaec",
  "kfQNslxdBxMNbOcbEcBlhlfebayafabacacaZaBfqpkvBjataedfaFfdGdaBecgbgbgbdchahmcbmaBaatacapboBhEted",
  "dBtcDkancbBuBtFaBdcBxpBbdBkiBeeBmjBeaBldoBpGcbkfBkdBkdBohCakmapahacalapahaccCalLziwjixgaBqajCq",
  "gbbaBsaccbbxaCuhjBvtaceBhcBbeBbBlCedubBvoeadaBdjjgjgCmBfBlfmiCccBdbBbeBagelhDbCvCcBzmBzgBqlkfB",
  "mhyhcHzBfaBqcbbcpghjBmBohwkjvsdeBlBctxibaCcohdBeacbblBxdcbcaenzgkiBkebishBjadkCaibaidcaqauksaB",
  "cccdgacCkhabaeapalfBvadmkhcaibcbwahacafcbabaebcbccblhBbkabbbaBmabacobaccbadacBmCehccbavabadBdB",
  "wacfbacabbbbehkGjBvacfebbbBbBjBzhcabbekkfnsBrabachcfkfuBbBbcbacdbixHcBvibbbDvDflibbbiacayafacf",
  "eadikCribBqheaeBabjBofcdiibfccBumbbjmCvgkDibcbabDjBinkfjaBmnbagjBdcBgybgbbbCwhacaBmubikfgacaBl",
  "dcababgkfBsdkJltbeipaBkhccxDhboBymBJnDxEhafkHoDXjDvmBPgqgyFXreWlKDcBeldckCOrVxgBfakdDdakfBegbj",
  "BwgpjkahavetQpCgHpDnezbzBrCxeCeknClenfiKXyBoBgDsElMWqeahacaLfobBcdbbnehPgDKtEdencjgkbbbbFVjJtc",
  "QufxorDqEmChJmjBnbCiedvcgBedCjuCocbErululDjizFeDhaCtacbbbcbeamabahaCnaebiahaBcaeafabchaNcbLgbV",
  "qCceBxiaoahBRvBffgKaCkFpBtjhbkdcMhBerBsdkebRvBcdkIfBebldbHjBfadacahbficIphaeacapaHpbjBvCqgbdkd",
  "cBEeCqCxCjHleaBbacabbbakaeababfbdbababadacabbbababababacabbeahaeaeabakaredafarBzcKjBsdDwlpbpap",
  "aBljGsCdBdmBsdjgcngFxBLxcrcncIkfmdbomdCehkfBohBebmdcnjBmNghobnclcCfabdqbmdkgFraDzBNoCLFcBfGMob",
  "IOcbLBloXyDQvUwCFxHHzeMOoBZLJx"]

/-- The characters that are not seen. -/
def unseen : Ranges := Ranges.ofRows unseenRows

end TypedStore.Unicode
