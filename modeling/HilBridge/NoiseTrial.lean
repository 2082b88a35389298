import HilBridge.Noise

/-!
# `HilBridge.NoiseTrial` — what a row of draws looks like

A trial draws many times from one source and asks whether the draws are those of a Gaussian cut off at three
standard deviations.
-/

namespace HilBridge

/-- What was found in a row of draws. -/
structure NoiseTrial where
  /-- Whether all draws are within the limits. -/
  isBounded : Bool
  /-- Whether some draw is one of the limits. -/
  hitsLimit : Bool
  /-- Whether not all draws are equal. -/
  varies : Bool
  /-- Whether the mean of the draws is close to the mean asked for. -/
  hasMean : Bool
  /-- Whether about two draws in three are within one standard deviation. -/
  hasSpread : Bool
  deriving Repr, DecidableEq

namespace NoiseSource

/-- So many readings of one value, the newest first, and the source behind them. -/
def addMany (s : NoiseSource) (x : Float) (n : Noise Float) (count : Nat) :
    List Float × NoiseSource :=
  (List.range count).foldl
    (fun (xs, s) _ =>
      let (x, s) := s.add x n
      (x :: xs, s))
    ([], s)

end NoiseSource

/-- How far the mean of the draws may be off, in standard deviations. -/
def meanTolerance : Float :=
  0.05

/-- What is found in some draws. -/
def NoiseTrial.ofDraws (n : Noise Float) (draws : List Float) : NoiseTrial :=
  let count := Float.ofNat draws.length
  let near := draws.countP fun d => (d - n.mean).abs ≤ n.stddev
  let share := Float.ofNat near / count
  { isBounded := draws.all fun d => n.low ≤ d && d ≤ n.high
    hitsLimit := draws.any fun d => d == n.low || d == n.high
    varies := draws.any fun d => draws.head?.any (· != d)
    hasMean := (draws.foldl (· + ·) 0.0 / count - n.mean).abs ≤ meanTolerance * n.stddev
    hasSpread := 0.6 ≤ share && share ≤ 0.76 }

end HilBridge
