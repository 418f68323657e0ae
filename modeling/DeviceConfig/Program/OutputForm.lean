import DeviceConfig.Text.Case

/-!
What to write of a generated program.
-/

namespace DeviceConfig

inductive OutputForm where
  | fragment
  | main
  deriving Repr, DecidableEq

def OutputForm.ofText? (text : String) : Option OutputForm :=
  let name := Text.lowercase text
  if ["fragment", "setup"].contains name then some .fragment
  else if ["main", "main.cpp", "main-cpp", "cpp"].contains name then some .main
  else none

end DeviceConfig
