import DeviceConfig.Proofs.Schema.Declarations

/-!
The code in a value in normal form: it stands under the keys whose schemas ask for code
(`Schema.Normal.lambdas_perm`).
-/

namespace DeviceConfig

namespace Schema

/-- Whether the schema itself asks for no code. -/
def noLambda : Schema → Bool
  | lambda => false
  | templatable _ => false
  | recursive _ => false
  | _ => true

/-- Whether there is no code in what the schema accepts. -/
def asksNoCode (schema : Schema) : Bool := schema.everywhere (closedAnd noLambda)

theorem lambda_of_reading {schema : Schema} {read : Value → Scalar.Read} (reads : schema.reading? = some read)
    {code : String} (same : read (.lambda code) = .ok (.lambda code)) : schema = lambda := by
  cases schema <;> cases reads
  case lambda => rfl
  case coerce coercion => cases coercion <;> cases same
  all_goals cases same

theorem Normal.lambdas_eq_nil {schema : Schema} {value : Value} (normal : schema.Normal value)
    (nothing : schema.asksNoCode = true) (shut : schema.isOpen = false) : value.lambdas = [] := by
  have each : ∀ part ∈ value.scalars, ∀ code, part ≠ .lambda code := by
    refine normal.forall_scalars ?_ (fun _ => rfl) ?_ ?_ nothing shut
    · intro rule asks
      cases asks
    · rintro schema read _ passes reads same code rfl
      cases lambda_of_reading reads same
      cases passes
    · intro inner code asks
      cases asks
  refine List.eq_nil_iff_forall_not_mem.mpr fun code member => ?_
  exact each _ (Value.mem_scalars_of_mem_lambdas member) code rfl

end Schema

/-- The code under a key of a mapping. -/
def codeUnder (entries : Entries Value) (key : String) : List String := gatherUnder Value.lambdas entries key

/-- The keys under which there may be code. -/
def FieldSet.codeKeys (set : FieldSet Schema) : List String :=
  (set.fields.filter fun field => !field.expected.asksNoCode).map (·.key)

/-- The code of a mapping in normal form is that under its keys for code. -/
theorem Schema.Normal.lambdas_perm {set : FieldSet Schema} {entries : Entries Value}
    (normal : (Schema.fields set).Normal (.map entries)) (distinct : Entries.Distinct entries)
    (differ : (set.fields.map (·.key)).Nodup) (closed : set.isClosed = true) :
    (Value.map entries).lambdas.Perm (set.codeKeys.flatMap (codeUnder entries)) := by
  rw [Value.lambdas_map]
  exact normal.flatMap_perm distinct differ closed fun _ _ silent shut own => own.lambdas_eq_nil silent shut

end DeviceConfig
