import Mathlib.Algebra.Order.Ring.Int
import Mathlib.Data.Int.ConditionallyCompleteOrder

/-! Unix seconds and the clocks that report them. The source's `float` is any
ordered type here. A difference need only have the right sign, and of addition and
scaling nothing is assumed: where a sum has to be later than its term, a result says
so. NaN, which has no place in an order, and the infinities, whose difference has no
sign, are left out. -/

namespace Quidz

class Seconds (T : Type) extends LinearOrder T, Zero T, Add T, Sub T where
  sub_pos : ∀ first second : T, 0 < first - second ↔ second < first
  /-- `float(n)`, which overflows on an integer beyond the largest float. -/
  ofInt : Int → Option T
  /-- `int(x)`. -/
  toInt : T → Int
  /-- `int(x // 60)`. -/
  minute : T → Int
  /-- `x * 2**n`. -/
  scale : T → Nat → T

instance : Seconds Int where
  sub_pos := fun _ _ => Int.sub_pos
  ofInt := some
  toInt := id
  minute now := now / 60
  scale seconds n := seconds * 2 ^ n

/-- `now` may itself advance the clock, as the system's does. -/
structure Clock (T C : Type) where
  now : C → T × C
  sleep : C → T → C

/-- A clock whose state is the time it shows. -/
def FakeClock (T : Type) [Seconds T] : Clock T T where
  now t := (t, t)
  sleep t seconds := t + seconds

end Quidz
