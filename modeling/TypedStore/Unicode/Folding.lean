import TypedStore.Unicode.Ranges

/-!
# Case folding

Characters that differ in case only form an orbit. The table leads each character
to the least one of its orbit; the runs in it hold characters at a fixed distance
from each other that lie equally far above their leaders.
-/

namespace TypedStore.Unicode

/-- Characters at a fixed step from each other, each with the same distance to its leader. -/
structure FoldRun where
  first : Nat
  count : Nat
  step : Nat
  distance : Nat

/-- The runs written by a list of numbers: how far each starts behind the one before,
how many characters follow its first one, their step and their distance. -/
def foldRuns (start : Nat) : List Nat → List FoldRun
  | gap :: more :: step :: distance :: rest =>
      ⟨start + gap, more + 1, step, distance⟩ :: foldRuns (start + gap) rest
  | _ => []

/-- The numbers of the runs. -/
def foldTable : List String := [
  "DtzbBgExwbBgygbBgjxcbByccbhhcbrwcbBtabErcccbfabLoebcbfabbeabbgabbhabbiccbhabbfabbdabbebcbfab",
  "beabbiabbbabccabbbabccabbbabcchcbpabDbcicbtabbbabccabbbabDtbabCectcbBnabFadicbzabbbabGhfabbb",
  "abHneecbmabIcbabHycbbHxdabHucabHvfabHxdabHzfabIbbabIdgabIddabIfdabIglabIkdabIkfabIkbabCrbbbI",
  "jcabCtgabIlIpbcbgabbBiabDgdabBCpqabBmbcbBlehbBgiabEmbbbBgcabBDvbhcBgbbcBgeabBfcdcBgiabCmbbbC",
  "ldabCkbabCfeabBvbabCcbabiclcbxabDibabDccabEmbabDobabDsdabbbabhcabbccbFaBzBfbBgBgpbDcrqcbBqBa",
  "cbCdgcbnabpcBvcbFoBlbBwFNrfbiDGaabJGobabJGnbabJGebbbJGccabJGdbabJFwbabJDtdabbgBqbELsBtcbELsM",
  "mCwcbFyabChdabLGxdBvcbDzhbiqfbiqhbiqhbiqfbirdciphbiBghbiqhbiqhbiqbbicbbCwcabjcabKUjkdbDieabj",
  "habKShfbbicbbDwjabKRrfbbicbbEicabhmbbEycbbEwcabjLmabLEjeabMLrbabMHaBjabBcBipbquabbBGmzbBaCUq",
  "BvbBwBxabbbabPXfbabFQsbabPWpbabPZfbabPZccccbfabPYqbabPXlbabPYtbabPYsdabbdabbibbPZzdBxcbEdbcb",
  "habbnBlbKTkBnabKTkgabKTkBTWeecbjabCAEkbabCAElcqcbCancbGggcbqBecbCtbcbdabCAGycecbnabbbabCKOee",
  "bcbgjcbtabCKPgbabCKPrbabCKPnbabCKPdbabCKPgcabCKNibabCKOgbabCKNldhcbpabBwbabCKPfbabCAIycbcbda",
  "bCKQpcabbeabbgccbfabCKYzBaabbBHdabBJsBdDbbCFMuBEDqabbBPrzbBgBWhBnbBoGuBjbBoHjscBnbecBnmgcBnq",
  "ccBniabBnCRcBybCmGuvbBgEHkBfbBgBGLcBfbBgBUMsBhbBi"]

/-- All runs. -/
def folding : List FoldRun := foldRuns 0 (numbers 0 (foldTable.flatMap String.toList))

/-- The characters of a run, each with its leader. -/
def FoldRun.pairs (run : FoldRun) : List (Nat × Nat) :=
  (List.range run.count).map fun place =>
    (run.first + place * run.step, run.first + place * run.step - run.distance)

/-- All characters that do not lead their orbit, each with its leader. -/
def foldPairs : List (Nat × Nat) := folding.flatMap FoldRun.pairs

/-- A set together with the characters that differ in case only from one of its members. -/
def Ranges.closed (set : Ranges) : Ranges :=
  let leaders := Ranges.ofList <| foldPairs.filterMap fun pair =>
    if set.contains pair.1 || set.contains pair.2 then some (pair.2, pair.2) else none
  let met := foldPairs.filter fun pair => leaders.contains pair.2
  set.union (leaders.union (Ranges.ofList (met.map fun pair => (pair.1, pair.1))))

end TypedStore.Unicode
