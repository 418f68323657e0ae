/-!
Time periods.
-/

namespace DeviceConfig

structure Duration where
  nanoseconds : Nat
  deriving Repr, DecidableEq

namespace Duration

def ofMicroseconds (n : Nat) : Duration := ⟨n * 1000⟩

def ofSeconds (n : Nat) : Duration := ⟨n * 1000000000⟩

/-- Whole microseconds; the rest is dropped. -/
def microseconds (d : Duration) : Nat := d.nanoseconds / 1000

/-- The whole microseconds in the largest unit that divides them. -/
def text (d : Duration) : String :=
  let micros := d.microseconds
  if micros = 0 then "0ms"
  else if micros % 1000 ≠ 0 then s!"{micros}us"
  else
    let millis := micros / 1000
    if millis % 1000 ≠ 0 then s!"{millis}ms"
    else
      let secs := millis / 1000
      if secs % 60 ≠ 0 then s!"{secs}s"
      else if secs % 3600 ≠ 0 then s!"{secs / 60}min"
      else s!"{secs / 3600}h"

end Duration

end DeviceConfig
