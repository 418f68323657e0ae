import DeviceConfig.Schema.Rule

/-!
What the section `core` may hold: the device, its chip and the automations of the whole device.
-/

namespace DeviceConfig.Core

def startupTrigger : CppType := .named "StartupTrigger"

def shutdownTrigger : CppType := .named "ShutdownTrigger"

def loopTrigger : CppType := .named "LoopTrigger"

def flashModes : List String := ["qio", "qout", "dio", "dout"]

def startupOptions : FieldSet Schema := FieldSet.empty.optional "priority" (.float none none)

/-- Options that are gone, and what to use in their place. -/
def removedFields : FieldSet Schema :=
  (FieldSet.empty.optional "library_uri" (.invalid
    ("the library_uri option has been removed; " ++
      "pin the library version with libraries instead"))).optional "use_build_flags"
    (.invalid "the use_build_flags option has been replaced by use_custom_code")

def fields : FieldSet Schema :=
  let device := ((FieldSet.empty.required "name" .name).required "platform"
    (.coerce .target)).required "board" .string
  let build := ((device.withDefault "use_custom_code" (.bool false) .boolean).optional
    "build_path" .string).optional "board_flash_mode" (.oneOf flashModes)
  let automations := ((build.optional "on_boot" (.ofAutomation startupTrigger
    startupOptions)).optional "on_shutdown" (.ofAutomation shutdownTrigger .empty)).optional
    "on_loop" (.ofAutomation loopTrigger .empty)
  ((automations.optional "includes" (.oneOrMany .string)).optional "libraries"
    (.oneOrMany .writtenString)).extend removedFields

def sectionSchema : Schema := .fields fields

end DeviceConfig.Core
