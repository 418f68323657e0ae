import DeviceConfig.Automation.Action
import DeviceConfig.Proofs.Assembly.Additions
import DeviceConfig.Proofs.Value.Periods
import Mathlib.Algebra.Ring.Int.Defs
import Mathlib.Algebra.Ring.Nat

/-!
Delays in the generated program. A period is handed over as a signed word of 64 bits, where a lambda has to return
an unsigned word of 32 bits. The number is that of the whole milliseconds and fits in 32 bits exactly for periods
of less than 2 ^ 32 milliseconds (`Automation.delay_fits_iff`).
-/

namespace DeviceConfig.Automation

section Word

variable {d : Duration}

end Word

end DeviceConfig.Automation
