import DeviceConfig.Proofs.Check.Sections

/-!
Checking a document settles it: the normal form of a document is its own normal form.
-/

namespace DeviceConfig.Catalog

/-- What checking makes of a document, names of made-up identifiers included, checking leaves as it is. -/
theorem check_idempotent {document config : Node} (accepted : standard.check document = .ok config) :
    standard.check config = .ok config := by
  obtain ⟨sections, normal, resolved⟩ := check_gives isStable_standard accepted
  let checked : Node := ⟨document.path, .map sections⟩
  have config_eq : checked.named = config := by
    rw [Node.resolveIdentifiers_eq] at resolved
    exact (Prod.mk.inj resolved).2
  obtain ⟨named, value_eq, namedNormal⟩ := normal.rename isStable_standard checked.renames_named
  have whole : config = ⟨document.path, .map named⟩ := by
    rw [← config_eq, ← value_eq]
    rfl
  refine check_eq_ok_iff.mpr ⟨config, ?_, ?_⟩
  · rw [whole]
    exact namedNormal.checkEntries_eq document.path
  · rw [← config_eq, Node.resolveIdentifiers_named]
    rw [resolved, config_eq]

/-- A device with one switch, which toggles when the device starts and when it is turned on. -/
def fan : Value := .map [
  ("core", .map [
    ("name", .string "dev"), ("platform", .string "esp32"), ("board", .string "d1"),
    ("on_boot", .list [.map [("lambda", .string "id(fan).toggle();")]])]),
  ("switch", .map [
    ("platform", .string "template"), ("name", .string "Fan"), ("id", .string "fan"),
    ("turn_on_action", .map [("switch.toggle", .string "fan")])])]

def checkedFan : Value := .map [
  ("core", .map [
    ("name", .string "dev"), ("platform", .string "ESP32"), ("board", .string "d1"),
    ("on_boot", .list [.map [
      ("then", .list [.map [("lambda", .lambda "id(fan).toggle();")]]),
      ("trigger_id", .id ⟨"startuptrigger", Core.startupTrigger, .generated⟩),
      ("automation_id", .id ⟨"automation", Automation.type, .generated⟩)]]),
    ("use_custom_code", .bool false)]),
  ("switch", .list [.map [
    ("platform", .string "template"), ("name", .string "Fan"),
    ("id", .id ⟨"fan", Switch.templateType, .declared⟩),
    ("turn_on_action", .list [.map [
      ("switch.toggle", .map [("id", .id ⟨"fan", Switch.type, .used⟩)])]])]])]

theorem check_fan : standard.check (Node.atRoot fan) = .ok (Node.atRoot checkedFan) := rfl

theorem check_checkedFan : standard.check (Node.atRoot checkedFan) = .ok (Node.atRoot checkedFan) :=
  check_idempotent check_fan

end DeviceConfig.Catalog
