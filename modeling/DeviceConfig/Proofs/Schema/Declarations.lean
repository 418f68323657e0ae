import DeviceConfig.Proofs.Schema.Shapes
import Mathlib.Data.List.Perm.Basic

/-!
The scalars in a value in normal form are those that its schema reads (`Schema.Normal.forall_scalars`). So what is
gathered from a mapping stands under the few keys whose schemas ask for it (`Schema.Normal.flatMap_perm`), such as
the names that users declare (`Schema.Normal.declaredNames_perm`).
-/

namespace DeviceConfig

namespace Schema

/-- Whether the schema takes mappings of any kind as they are. -/
def isOpen : Schema → Bool
  | any => true
  | coerce .simpleId => true
  | _ => false

end Schema

def FieldSet.isClosed (set : FieldSet Schema) : Bool :=
  !set.allowsExtra && set.expectations.all fun schema => !schema.isOpen

namespace Schema

/-- Whether the parts of a value are all checked by parts of the schema that are not open. -/
def isClosed : Schema → Bool
  | fields set => set.isClosed
  | automation set => set.isClosed
  | dispatch _ choices => choices.all fun choice => choice.2.isClosed
  | allOf steps => areSimpleId steps
  | schema => schema.parts.all fun part => !part.isOpen

/-- Whether the schema is closed and passes a test of what it reads. -/
def closedAnd (leaf : Schema → Bool) (schema : Schema) : Bool := schema.isClosed && leaf schema

/-- Whether the schema itself is no declaration. -/
def noDeclaration : Schema → Bool
  | declareId _ => false
  | _ => true

/-- Whether users can declare no objects in what the schema accepts. -/
def declaresNothing (schema : Schema) : Bool := schema.everywhere (closedAnd noDeclaration)

section Scalars

variable {leaf : Schema → Bool}

theorem inner_of_closed {schema inner : Schema} (parts : schema.parts = [inner])
    (closed : schema.isClosed = schema.parts.all fun part => !part.isOpen)
    (tested : schema.everywhere (closedAnd leaf) = true) :
    inner.everywhere (closedAnd leaf) = true ∧ inner.isOpen = false := by
  obtain ⟨here, inside⟩ := everywhere_iff.mp tested
  obtain ⟨shut, -⟩ := Bool.and_eq_true_iff.mp here
  rw [parts] at inside
  rw [closed, parts, List.all_cons, List.all_nil, Bool.and_true, Bool.not_eq_true'] at shut
  exact ⟨inside inner (List.mem_singleton_self _), shut⟩

theorem fields_closed (mapping : ∀ set, leaf (fields set) = true) {set : FieldSet Schema}
    (closed : set.isClosed = true)
    (inside : ∀ part ∈ set.expectations, part.everywhere (closedAnd leaf) = true) :
    (fields set).everywhere (closedAnd leaf) = true :=
  everywhere_iff.mpr ⟨Bool.and_eq_true_iff.mpr ⟨closed, mapping set⟩, inside⟩

/-- What holds of all scalars that the schema reads holds of those in its normal forms. -/
theorem Normal.forall_scalars {holds : Value → Prop} {schema : Schema} {value : Value}
    (normal : schema.Normal value)
    (rules : ∀ rule, leaf (Schema.recursive rule) = true → rule.schema.everywhere (closedAnd leaf) = true)
    (mapping : ∀ set, leaf (Schema.fields set) = true)
    (scalar : ∀ (schema : Schema) (read : Value → Scalar.Read) (value : Value), leaf schema = true →
      schema.reading? = some read → read value = .ok value → holds value)
    (embedded : ∀ inner code, leaf (templatable inner) = true → holds (.lambda code))
    (tested : schema.everywhere (closedAnd leaf) = true) (shut : schema.isOpen = false) :
    ∀ part ∈ value.scalars, holds part := by
  induction normal with
  | any => cases shut
  | @scalar schema read value reads same =>
    obtain ⟨here, -⟩ := everywhere_iff.mp tested
    obtain ⟨-, passes⟩ := Bool.and_eq_true_iff.mp here
    intro part member
    cases value with
    | list items => exact absurd same (not_list_of_reading reads)
    | map entries =>
      rw [coerce_of_reading reads same] at shut
      cases shut
    | _ =>
      cases List.mem_singleton.mp member
      exact scalar schema read _ passes reads same
  | lambda inner code =>
    obtain ⟨here, -⟩ := everywhere_iff.mp tested
    obtain ⟨-, passes⟩ := Bool.and_eq_true_iff.mp here
    intro part member
    cases List.mem_singleton.mp member
    exact embedded inner code passes
  | literal _ ih =>
    obtain ⟨inside, closed⟩ := inner_of_closed rfl rfl tested
    exact ih inside closed
  | oneOrMany _ ih =>
    obtain ⟨inside, closed⟩ := inner_of_closed rfl rfl tested
    intro part member
    rw [Value.scalars_list] at member
    obtain ⟨item, held, deeper⟩ := List.mem_flatMap.mp member
    exact ih item held inside closed part deeper
  | listOf _ ih =>
    obtain ⟨inside, closed⟩ := inner_of_closed rfl rfl tested
    intro part member
    rw [Value.scalars_list] at member
    obtain ⟨item, held, deeper⟩ := List.mem_flatMap.mp member
    exact ih item held inside closed part deeper
  | @fields set entries groups complete known _ ih =>
    obtain ⟨here, inside⟩ := everywhere_iff.mp tested
    obtain ⟨closed, -⟩ := Bool.and_eq_true_iff.mp here
    obtain ⟨noExtra, eachClosed⟩ := Bool.and_eq_true_iff.mp (closed : set.isClosed = true)
    intro part member
    rw [Value.scalars_map] at member
    obtain ⟨entry, held, deeper⟩ := List.mem_flatMap.mp member
    cases found : FieldSet.find? entry.1 set.fields with
    | none =>
      rw [known entry.1 (Entries.mem_keys_of_mem held) found] at noExtra
      cases noExtra
    | some field =>
      have own := FieldSet.expected_mem (FieldSet.find?_mem found).1
      have closedPart := List.all_eq_true.mp eachClosed _ own
      exact ih entry held field found (inside _ own) (by simpa using closedPart) part deeper
  | @allOf steps value _ ih =>
    obtain ⟨here, inside⟩ := everywhere_iff.mp tested
    obtain ⟨simple, -⟩ := Bool.and_eq_true_iff.mp here
    obtain ⟨set, rfl⟩ := steps_of_areSimpleId simple
    have last : Schema.fields set ∈ [coerce .simpleId, .fields set] :=
      List.mem_cons_of_mem _ (List.mem_singleton_self _)
    exact ih _ last (inside _ last) rfl
  | @dispatch key choices entries selector set present chosen _ ih =>
    obtain ⟨here, inside⟩ := everywhere_iff.mp tested
    obtain ⟨closed, -⟩ := Bool.and_eq_true_iff.mp here
    have choice := Entries.mem_of_get? chosen
    have closedSet := List.all_eq_true.mp closed _ choice
    have insideSet : ∀ part ∈ set.expectations, part.everywhere (closedAnd leaf) = true :=
      fun part member => inside part (List.mem_flatMap.mpr ⟨_, choice, member⟩)
    exact ih (fields_closed mapping closedSet insideSet) rfl
  | @singleKey kind key entries schema value chosen _ ih =>
    obtain ⟨here, inside⟩ := everywhere_iff.mp tested
    obtain ⟨closed, -⟩ := Bool.and_eq_true_iff.mp here
    have own : schema ∈ (Schema.singleKey kind entries).parts :=
      List.mem_map_of_mem (f := (·.2)) (Entries.mem_of_get? chosen)
    have closedPart := List.all_eq_true.mp closed _ own
    intro part member
    rw [Value.scalars_map, List.flatMap_singleton] at member
    exact ih (inside _ own) (by simpa using closedPart) part member
  | @automation set items some automations _ ih =>
    obtain ⟨here, inside⟩ := everywhere_iff.mp tested
    obtain ⟨closed, -⟩ := Bool.and_eq_true_iff.mp here
    intro part member
    rw [Value.scalars_list] at member
    obtain ⟨item, held, deeper⟩ := List.mem_flatMap.mp member
    exact ih item held (fields_closed mapping closed inside) rfl part deeper
  | @recursive rule value _ ih =>
    obtain ⟨here, -⟩ := everywhere_iff.mp tested
    obtain ⟨-, passes⟩ := Bool.and_eq_true_iff.mp here
    exact ih (rules rule passes) (by cases rule <;> rfl)

end Scalars

section Ids

variable {holds : ObjectId → Prop} {leaf : Schema → Bool}

/-- What holds of all identifiers that the schema asks for holds of those in its normal forms. -/
theorem Normal.forall_ids {schema : Schema} {value : Value} (normal : schema.Normal value)
    (rules : ∀ rule : Rule, rule.schema.everywhere (closedAnd leaf) = true)
    (composite : ∀ schema : Schema, schema.reading? = none → leaf schema = true)
    (declared : ∀ type, leaf (declareId type) = true → ∀ id, Scalar.Admits type .declared id → holds id)
    (used : ∀ type, leaf (useId type) = true → ∀ id, Scalar.Admits type .used id → holds id)
    (tested : schema.everywhere (closedAnd leaf) = true) (shut : schema.isOpen = false) :
    ∀ id ∈ value.ids, holds id := by
  have each : ∀ part ∈ value.scalars, ∀ id, part = .id id → holds id := by
    refine normal.forall_scalars (fun rule _ => rules rule) (fun set => composite _ rfl) ?_ (fun _ _ _ _ same => nomatch same)
      tested shut
    rintro schema read _ passes reads same id rfl
    rcases admits_of_reading reads same with ⟨type, rfl, admits⟩ | ⟨type, rfl, admits⟩
    · exact declared type passes id admits
    · exact used type passes id admits
  exact fun id member => each _ (Value.mem_scalars_of_mem_ids member) id rfl

theorem Normal.isName_ids {schema : Schema} {value : Value} (normal : schema.Normal value)
    (closed : schema.everywhere (closedAnd fun _ => true) = true) (shut : schema.isOpen = false) :
    ∀ id ∈ value.ids, Cpp.isName id.name = true :=
  normal.forall_ids (fun rule => by cases rule <;> rfl) (fun _ _ => rfl)
    (fun _ _ _ admits => admits.isName) (fun _ _ _ admits => admits.isName) closed shut

/-- Users can only refer to objects in such a value. -/
theorem Normal.role_eq_used {schema : Schema} {value : Value} (normal : schema.Normal value)
    (nothing : schema.declaresNothing = true) (shut : schema.isOpen = false) : ∀ id ∈ value.ids, id.role = .used := by
  refine normal.forall_ids (fun rule => by cases rule <;> rfl) ?_ ?_ ?_ nothing shut
  · intro schema composite
    cases schema <;> first | rfl | cases composite
  · intro type passes
    cases passes
  · intro type _ id admits
    rcases admits.role_eq with same | ⟨-, no⟩
    · exact same
    · cases no

theorem Normal.declaredNames_eq_nil {schema : Schema} {value : Value} (normal : schema.Normal value)
    (nothing : schema.declaresNothing = true) (shut : schema.isOpen = false) : value.declaredNames = [] := by
  refine List.eq_nil_iff_forall_not_mem.mpr fun name member => ?_
  obtain ⟨id, inside, declared, -⟩ := Value.mem_ids_of_mem_declaredNames member
  cases declared.symm.trans (normal.role_eq_used nothing shut id inside)

end Ids

end Schema

section Keys

section Under

variable {α : Type} {gather : Value → List α}

/-- What is gathered from the value under a key of a mapping. -/
def gatherUnder (gather : Value → List α) (entries : Entries Value) (key : String) : List α :=
  ((Entries.get? key entries).map gather).getD []

theorem gatherUnder_of_present {entries : Entries Value} {key : String} {value : Value}
    (present : Entries.get? key entries = some value) : gatherUnder gather entries key = gather value := by
  rw [gatherUnder, present, Option.map_some, Option.getD_some]

theorem gatherUnder_of_absent {entries : Entries Value} {key : String} (absent : Entries.get? key entries = none) :
    gatherUnder gather entries key = [] := by
  rw [gatherUnder, absent, Option.map_none, Option.getD_none]

theorem gatherUnder_cons (key other : String) (value : Value) (rest : Entries Value) :
    gatherUnder gather ((key, value) :: rest) other =
      if key = other then gather value else gatherUnder gather rest other := by
  rw [gatherUnder, Entries.get?]
  by_cases same : key = other <;> simp [same, gatherUnder]

/-- What is gathered from a mapping is what is gathered under each of its keys. -/
theorem flatMap_perm_keys {entries : Entries Value} {keys : List String} (distinct : Entries.Distinct entries)
    (differ : keys.Nodup) (all : ∀ key ∈ Entries.keys entries, key ∈ keys) :
    (entries.flatMap fun entry => gather entry.2).Perm (keys.flatMap (gatherUnder gather entries)) := by
  induction entries with
  | nil =>
    have nothing : keys.flatMap (gatherUnder gather []) = [] :=
      List.flatMap_eq_nil_iff.mpr fun key _ => gatherUnder_of_absent rfl
    rw [nothing]
    exact .refl _
  | cons entry rest ih =>
    obtain ⟨key, value⟩ := entry
    obtain ⟨absent, restDistinct⟩ := List.nodup_cons.mp distinct
    have others := ih restDistinct fun other member => all other (List.mem_cons_of_mem _ member)
    -- the first key stands once among the listed ones, and what is under the others is unchanged
    obtain ⟨before, after, rfl⟩ := List.append_of_mem (all key (List.mem_cons_self ..))
    obtain ⟨-, afterDiffer, apart⟩ := List.nodup_append.mp differ
    have notBefore : key ∉ before := fun member => apart key member key (List.mem_cons_self ..) rfl
    have notAfter : key ∉ after := (List.nodup_cons.mp afterDiffer).1
    have kept {part : List String} (notThere : key ∉ part) :
        part.flatMap (gatherUnder gather ((key, value) :: rest)) = part.flatMap (gatherUnder gather rest) := by
      refine List.flatMap_congr fun other member => ?_
      have apart : ¬key = other := by
        rintro rfl
        exact notThere member
      rw [gatherUnder_cons, if_neg apart]
    have here : gatherUnder gather rest key = [] := gatherUnder_of_absent (Entries.get?_eq_none_iff.mpr absent)
    rw [List.flatMap_append, List.flatMap_cons, here, List.nil_append] at others
    rw [List.flatMap_append, List.flatMap_cons, List.flatMap_cons, kept notBefore, kept notAfter,
      gatherUnder_cons, if_pos rfl]
    refine (others.append_left _).trans ?_
    rw [← List.append_assoc, ← List.append_assoc]
    exact List.perm_append_comm.append_right _

theorem flatMap_speaking {silent : Schema → Bool} {fields : List (Field Schema)} {gathered : String → List α}
    (nothing : ∀ field ∈ fields, silent field.expected = true → gathered field.key = []) :
    ((fields.filter fun field => !silent field.expected).map (·.key)).flatMap gathered =
      (fields.map (·.key)).flatMap gathered := by
  induction fields with
  | nil => rfl
  | cons field rest ih =>
    have others := ih fun other member => nothing other (List.mem_cons_of_mem _ member)
    cases quiet : silent field.expected with
    | true =>
      rw [List.filter_cons_of_neg (by simp [quiet]), others, List.map_cons, List.flatMap_cons,
        nothing field (List.mem_cons_self ..) quiet, List.nil_append]
    | false =>
      rw [List.filter_cons_of_pos (by simp [quiet]), List.map_cons, List.map_cons, List.flatMap_cons,
        List.flatMap_cons, others]

/-- What is gathered from a mapping in normal form is what is gathered under the keys whose schemas are not
    silent. -/
theorem Schema.Normal.flatMap_perm {set : FieldSet Schema} {entries : Entries Value}
    (normal : (Schema.fields set).Normal (.map entries)) (distinct : Entries.Distinct entries)
    (differ : (set.fields.map (·.key)).Nodup) (closed : set.isClosed = true) {silent : Schema → Bool}
    (nothing : ∀ schema value, silent schema = true → schema.isOpen = false → schema.Normal value →
      gather value = []) :
    (entries.flatMap fun entry => gather entry.2).Perm
      (((set.fields.filter fun field => !silent field.expected).map (·.key)).flatMap
        (gatherUnder gather entries)) := by
  obtain ⟨noExtra, eachClosed⟩ := Bool.and_eq_true_iff.mp closed
  have known : ∀ key ∈ Entries.keys entries, key ∈ set.fields.map (·.key) := by
    intro key member
    cases found : FieldSet.find? key set.fields with
    | some field =>
      obtain ⟨inside, rfl⟩ := FieldSet.find?_mem found
      exact List.mem_map_of_mem inside
    | none =>
      cases normal with
      | scalar reads => cases reads
      | fields groups complete allowed each =>
        rw [allowed key member found] at noExtra
        cases noExtra
  have quiet : ∀ field ∈ set.fields, silent field.expected = true →
      gatherUnder gather entries field.key = [] := by
    intro field member silence
    have shut := List.all_eq_true.mp eachClosed _ (FieldSet.expected_mem member)
    cases present : Entries.get? field.key entries with
    | none => exact gatherUnder_of_absent present
    | some value =>
      rw [gatherUnder_of_present present]
      exact nothing _ _ silence (by simpa using shut) (normal.entry (FieldSet.find?_of_mem differ member) present)
  rw [flatMap_speaking quiet]
  exact flatMap_perm_keys distinct differ known

end Under

/-- The names that users declare under a key of a mapping. -/
def namesUnder (entries : Entries Value) (key : String) : List String :=
  ((Entries.get? key entries).map Value.declaredNames).getD []

/-- The keys under which users may declare objects. -/
def FieldSet.declaringKeys (set : FieldSet Schema) : List String :=
  (set.fields.filter fun field => !field.expected.declaresNothing).map (·.key)

/-- The names of a mapping in normal form are those under its declaring keys. -/
theorem Schema.Normal.declaredNames_perm {set : FieldSet Schema} {entries : Entries Value}
    (normal : (Schema.fields set).Normal (.map entries)) (distinct : Entries.Distinct entries)
    (differ : (set.fields.map (·.key)).Nodup) (closed : set.isClosed = true) :
    (Value.map entries).declaredNames.Perm (set.declaringKeys.flatMap (namesUnder entries)) := by
  rw [Value.declaredNames_map]
  exact normal.flatMap_perm distinct differ closed fun _ _ silent shut own => own.declaredNames_eq_nil silent shut

end Keys

end DeviceConfig
