import DeviceConfig.Core.Build
import DeviceConfig.Json.Basic
import DeviceConfig.Switch.Build

/-!
The sections that a document may have. A component says what its section may hold and makes code of it;
an exporter makes records of it for other programs.
-/

namespace DeviceConfig

structure Component where
  key : String
  schema : Schema
  /-- Makes code of a section that satisfies the schema. -/
  build : Node → Build Unit

/-- What exporters know besides the section. -/
structure ExportContext where
  deviceName : String
  extra : Entries Json

/-- A section, or part of one, as another program wants it. -/
structure ExportRecord where
  kind : String
  payload : Json

def ExportRecord.toJson (r : ExportRecord) : Json :=
  .object [("kind", .string r.kind), ("payload", r.payload)]

abbrev Exporter := ExportContext → Node → List ExportRecord

structure Catalog where
  components : Entries Component
  exporters : Entries Exporter

namespace Catalog

def empty : Catalog := ⟨[], []⟩

/-- Adds a component, in the place of one of the same key if there is one. -/
def register (catalog : Catalog) (component : Component) : Catalog :=
  { catalog with components := Entries.set component.key component catalog.components }

def registerExporter (catalog : Catalog) (key : String) (exporter : Exporter) : Catalog :=
  { catalog with exporters := Entries.set key exporter catalog.exporters }

def component? (catalog : Catalog) (key : String) : Option Component :=
  Entries.get? key catalog.components

def keys (catalog : Catalog) : List String := Entries.keys catalog.components

end Catalog

def Core.key : String := "core"

def Core.component : Component := ⟨Core.key, Core.sectionSchema, Core.buildSection⟩

def Switch.component : Component := ⟨"switch", Switch.sectionSchema, Switch.buildSection⟩

def Catalog.standard : Catalog := (empty.register Core.component).register Switch.component

end DeviceConfig
