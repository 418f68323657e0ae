import DeviceConfig.Catalog
import DeviceConfig.Proofs.Check.Accepted
import DeviceConfig.Proofs.Generation.Switches
import DeviceConfig.Proofs.Objects.Steps

/-!
What the sections of a document bind objects for, in the order in which they are built (`Catalog.origins`).
-/

namespace DeviceConfig

open Build

variable {users : List String}

/-- The identifier under a key, if it is made up unless it stands there: it is for an object of this type. -/
def Node.idFor (node : Node) (key : String) (type : CppType) : ObjectId :=
  { (node.id? key).getD (.generated type) with type := type }

namespace Automation

/-- An automation that stands in a list is one of two objects: the other is its trigger. -/
def origins (trigger : CppType) (node : Node) : List Origin :=
  [.configured (node.idFor "trigger_id" trigger), .configured (node.idFor "automation_id" type)]

def originsUnder (key : String) (trigger : CppType) (node : Node) : List Origin :=
  match node.get? key with
  | some list => list.items.flatMap (origins trigger)
  | none => []

variable {arg trigger : CppType} {makeTrigger : Node → Cpp.Expr}

theorem bindsFor_connect {origin : Origin} {id : ObjectId}
    (isFor : IsFor origin id (some (instantiate "Automation" arg))) (start : Cpp.Expr) (list : Node) :
    BindsFor users [origin] (connect id start arg list) := by
  have closed := isClosed_bindsFor users
  exact (bindsFor_bindGlobal isFor _).bind fun _ => ((closed.action arg list.value).2.1 _).bind fun _ =>
    (closed.addActions _ _ _).bind fun _ => bindsFor_pure _

theorem bindsFor_build (start : Cpp.Expr) (node : Node) :
    BindsFor users [.configured (node.idFor "automation_id" type)] (build start arg node) := by
  have isFor : IsFor (.configured (node.idFor "automation_id" type))
      ((node.id? "automation_id").getD (.generated type)) (some (instantiate "Automation" arg)) := ⟨rfl, rfl, rfl⟩
  unfold build
  dsimp only
  split
  · exact bindsFor_connect isFor _ _
  · exact bindsFor_lacking _ _

theorem bindsFor_buildAll (nodes : List Node) :
    BindsFor users (nodes.flatMap (origins trigger)) (buildAll trigger arg makeTrigger nodes) := by
  induction nodes with
  | nil => exact bindsFor_pure _
  | cons node rest ih =>
    have isFor : IsFor (.configured (node.idFor "trigger_id" trigger))
        ((node.id? "trigger_id").getD (.generated trigger)) (some trigger) := ⟨rfl, rfl, rfl⟩
    exact (bindsFor_bindGlobal isFor _).bind fun _ => (bindsFor_build _ node).bind fun _ => ih

theorem bindsFor_buildUnder (key : String) (node : Node) :
    BindsFor users (originsUnder key trigger node) (buildUnder key trigger arg makeTrigger node) := by
  unfold buildUnder originsUnder
  cases node.get? key with
  | none => exact bindsFor_pure _
  | some list => exact bindsFor_buildAll list.items

end Automation

namespace Core

def origins (node : Node) : List Origin :=
  Automation.originsUnder "on_boot" startupTrigger node ++
    (Automation.originsUnder "on_shutdown" shutdownTrigger node ++ Automation.originsUnder "on_loop" loopTrigger node)

theorem bindsFor_addLibraries (libraries : List String) : BindsFor users [] (addLibraries libraries) := by
  induction libraries with
  | nil => exact bindsFor_pure _
  | cons library rest ih => exact (bindsFor_addLibrary library).bind fun _ => ih

theorem bindsFor_addIncludes (paths : BuildFolders) (files : List String) :
    BindsFor users [] (addIncludes paths files) := by
  induction files with
  | nil => exact bindsFor_pure _
  | cons file rest ih => exact (bindsFor_addInclude _).bind fun _ => ih

theorem bindsFor_buildSection (node : Node) : BindsFor users (origins node) (buildSection node) := by
  have paths : BindsFor users [] (get : Build Draft) := bindsFor_of_passes fun d => yields_get (.refl d)
  unfold buildSection
  split
  · exact bindsFor_lacking _ _
  · exact (bindsFor_evaluate _).none_bind fun _ =>
      (Automation.bindsFor_buildUnder "on_boot" node).bind fun _ =>
      (Automation.bindsFor_buildUnder "on_shutdown" node).bind fun _ =>
      (Automation.bindsFor_buildUnder "on_loop" node).bind_none fun _ =>
      (bindsFor_evaluate _).bind fun _ => (bindsFor_addLibraries _).bind fun _ =>
      paths.bind fun _ => bindsFor_addIncludes _ _

end Core

namespace Switch

/-- The object of the switch itself. -/
def ownOrigin (node : Node) : List Origin := (node.id? "id").toList.map .configured

def triggerOrigins (node : Node) : List Origin :=
  Automation.originsUnder "on_turn_on" turnOnTrigger node ++ Automation.originsUnder "on_turn_off" turnOffTrigger node

/-- The actions under this key are run by a trigger that the switch has anyway. -/
def connections (key : String) (node : Node) : List Origin := if node.contains key then [.connection] else []

/-- The switches that come out of the lambda of this one. -/
def listed (node : Node) : List Node := ((node.get? "switches").map Node.items).getD []

def Platform.origins : Platform → Node → List Origin
  | custom, node => ownOrigin node ++ ((listed node).flatMap ownOrigin ++ (listed node).flatMap triggerOrigins)
  | template, node => ownOrigin node ++ (triggerOrigins node ++
      (connections "turn_on_action" node ++ connections "turn_off_action" node))

def entryOrigins (node : Node) : List Origin :=
  match Platform.ofName? ((node.string? "platform").getD "") with
  | some platform => platform.origins node
  | none => []

def origins (node : Node) : List Origin := node.items.flatMap entryOrigins

theorem bindsFor_setUp (switch : Cpp.Expr) (node : Node) :
    BindsFor users (triggerOrigins node) (setUp switch node) := by
  rw [setUp_eq]
  exact (bindsFor_optionally _ fun _ => bindsFor_evaluate _).none_bind fun _ =>
    (bindsFor_optionally _ fun _ => bindsFor_evaluate _).none_bind fun _ =>
    (Automation.bindsFor_buildUnder "on_turn_on" node).bind fun _ =>
    Automation.bindsFor_buildUnder "on_turn_off" node

theorem bindsFor_register (switch : Cpp.Expr) (node : Node) :
    BindsFor users (triggerOrigins node) (register switch node) :=
  (bindsFor_evaluate _).none_bind fun _ => bindsFor_setUp switch node

section Listed

variable {α : Type} {others : List Origin} (node : Node)

theorem bindsFor_require (key : String) {rest : Node → Build α}
    (each : ∀ value, node.get? key = some value → BindsFor users others (rest value)) :
    BindsFor users others (require node key >>= rest) := by
  unfold require
  cases present : node.get? key with
  | none => exact bindsFor_throw_bind _
  | some value =>
    rw [pure_bind]
    exact each value present

/-- What is bound for the identifier is bound for the entry that it stands in. -/
theorem bindsFor_requireId (entry : Node) {rest : ObjectId → Build α}
    (each : ∀ id, BindsFor users (.configured id :: others) (rest id)) :
    BindsFor users (ownOrigin entry ++ others) (requireId node entry >>= rest) := by
  unfold requireId ownOrigin
  cases entry.id? "id" with
  | none => exact bindsFor_throw_bind _
  | some id =>
    rw [pure_bind]
    exact each id

theorem bindsFor_retrieve (constructor : Cpp.Expr) (position : Nat) (entries : List Node) :
    BindsFor users (entries.flatMap ownOrigin) (retrieve node constructor position entries) := by
  induction entries generalizing position with
  | nil => exact bindsFor_pure _
  | cons entry rest ih =>
    exact bindsFor_requireId node entry fun id => (bindsFor_bindGlobal (isFor_self (.configured id)) _).bind fun _ =>
      (ih _).bind_none fun _ => bindsFor_pure _

theorem retrieve_gives (constructor : Cpp.Expr) (position : Nat) (entries : List Node) (d : Draft) :
    Ensures (retrieve node constructor position entries) d fun pairs _ => pairs.map (·.2) = entries := by
  induction entries generalizing position d with
  | nil => exact yields_pure rfl
  | cons entry rest ih =>
    exact (ensures_any _ _).bind fun id first _ => (ensures_any _ _).bind fun symbol second _ =>
      (ih _ second).bind fun others third same => yields_pure (congrArg (entry :: ·) same)

theorem bindsFor_registerAll (pairs : List (Cpp.Expr × Node)) :
    BindsFor users ((pairs.map (·.2)).flatMap triggerOrigins) (registerAll pairs) := by
  induction pairs with
  | nil => exact bindsFor_pure _
  | cons pair rest ih =>
    obtain ⟨switch, entry⟩ := pair
    rw [registerAll_cons]
    exact (bindsFor_optionally _ fun _ => bindsFor_evaluate _).none_bind fun _ =>
      (bindsFor_register switch entry).bind fun _ => ih

end Listed

theorem bindsFor_buildCustom (node : Node) : BindsFor users (Platform.origins .custom node) (buildCustom node) := by
  have closed := isClosed_bindsFor users
  refine bindsFor_require node "lambda" fun lambda _ => bindsFor_requireId node node fun id => ?_
  refine bindsFor_require node "switches" fun switches present => ?_
  have items : listed node = switches.items := by rw [listed, present, Option.map_some, Option.getD_some]
  rw [items]
  refine (closed.lambdaAhead lambda _ _).none_bind fun pending => ?_
  refine (bindsFor_bindGlobal (isFor_self (.configured id)) _).bind fun _ => ?_
  refine (closed.defineLambda pending).none_bind fun _ => ?_
  refine (bindsFor_retrieve node _ _ _).bind_of (retrieve_gives node _ _ _) fun pairs same => ?_
  rw [← same]
  exact (bindsFor_registerAll pairs).bind_none fun _ => bindsFor_addFlag _

theorem bindsFor_connectActions (key trigger : String) (switch : Cpp.Expr) (node : Node) :
    BindsFor users (connections key node) (connectActions key trigger switch node) := by
  have isFor : IsFor .connection (.generated Automation.type) (some (Automation.instantiate "Automation" .noArg)) :=
    ⟨rfl, rfl, rfl⟩
  unfold connectActions connections Node.contains
  cases node.get? key with
  | none => exact bindsFor_pure _
  | some list => exact (Automation.bindsFor_connect isFor _ list).bind_none fun _ => bindsFor_pure _

theorem bindsFor_buildTemplate (node : Node) :
    BindsFor users (Platform.origins .template node) (buildTemplate node) := by
  have closed := isClosed_bindsFor users
  rw [buildTemplate_eq]
  refine bindsFor_requireId node node fun id => (bindsFor_bindGlobal (isFor_self (.configured id)) _).bind fun _ => ?_
  refine (bindsFor_register _ node).bind fun _ => ?_
  refine (bindsFor_optionally _ fun lambda => (closed.compileLambda lambda _ _).bind fun _ =>
    bindsFor_evaluate _).none_bind fun _ => ?_
  refine (bindsFor_optionally _ fun _ => bindsFor_evaluate _).none_bind fun _ => ?_
  exact (bindsFor_connectActions _ _ _ node).bind fun _ =>
    (bindsFor_connectActions _ _ _ node).bind_none fun _ => bindsFor_addFlag _

theorem bindsFor_buildEntry (node : Node) : BindsFor users (entryOrigins node) (buildEntry node) := by
  unfold buildEntry entryOrigins
  dsimp only
  cases Platform.ofName? ((node.string? "platform").getD "") with
  | none => exact bindsFor_lacking _ _
  | some platform =>
    refine (bindsFor_enter _).none_bind fun _ => (bindsFor_addFlag _).none_bind fun _ => ?_
    cases platform with
    | custom => exact bindsFor_buildCustom node
    | template => exact bindsFor_buildTemplate node

theorem bindsFor_buildSection (node : Node) : BindsFor users (origins node) (buildSection node) := by
  unfold buildSection origins
  induction node.items with
  | nil => exact bindsFor_pure _
  | cons entry rest ih => exact (bindsFor_buildEntry entry).bind fun _ => ih

end Switch

namespace Catalog

/-- What a section of the document binds objects for. -/
def sectionOrigins (key : String) (node : Node) : List Origin :=
  if key = Core.key then Core.origins node else Switch.origins node

/-- What the sections bind objects for, one after the other. -/
def originsOf (sections : List (String × Node)) : List Origin :=
  sections.flatMap fun entry => sectionOrigins entry.1 entry.2

def origins (config : Node) : List Origin := originsOf (buildOrder config.entries)

theorem bindsFor_buildSections (sections : List (String × Node)) :
    BindsFor users (originsOf sections) (standard.buildSections sections) := by
  induction sections with
  | nil => exact bindsFor_pure _
  | cons entry rest ih =>
    obtain ⟨key, node⟩ := entry
    unfold buildSections
    cases found : standard.component? key with
    | none => exact bindsFor_throw _
    | some component =>
      refine (bindsFor_enter key).none_bind fun _ => BindsFor.bind ?_ fun _ => ih
      rcases standard_component_cases found with ⟨rfl, rfl⟩ | ⟨rfl, rfl⟩
      · exact Core.bindsFor_buildSection node
      · exact Switch.bindsFor_buildSection node

end Catalog

end DeviceConfig
