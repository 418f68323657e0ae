import DeviceConfig.Proofs.Except
import DeviceConfig.Proofs.Schema.NormalForm
import DeviceConfig.Proofs.Text.Blank

/-!
Reading a scalar settles it: what a reading makes of a value, the same reading leaves as it is
(`Schema.settles_of_reading`).
-/

namespace DeviceConfig

namespace Scalar

/-- What the reading makes of a value it leaves as it is. -/
def Settles (read : Value → Read) : Prop :=
  ∀ value result, read value = .ok result → read result = .ok result

theorem settles_bind {α : Type} {find : Value → Except Complaint α} {write : α → Read}
    (finds : ∀ a result, write a = .ok result → find result = .ok a) :
    Settles fun value => find value >>= write := by
  intro value result accepted
  obtain ⟨a, -, written⟩ := bind_eq_ok_iff.mp accepted
  exact bind_eq_ok_iff.mpr ⟨a, finds a result written, written⟩

theorem settles_boolean : Settles boolean := by
  intro value result accepted
  unfold boolean at accepted
  split at accepted
  · cases accepted
    rfl
  · simp only at accepted
    split at accepted
    · cases accepted
      rfl
    · split at accepted <;> cases accepted
      rfl
  · cases accepted

theorem settles_int (least most : Option Int64) : Settles (int least most) := by
  refine settles_bind fun n result written => ?_
  have same : .ok (.int n) = (.ok result : Read) := by
    cases least <;> cases most <;> simp only [guard_eq_ok_iff] at written
    · exact written
    · exact written.2
    · exact written.2
    · exact written.2.2
  cases same
  rfl

theorem settles_float (least most : Option Float) : Settles (float least most) := by
  refine settles_bind fun x result written => ?_
  have same : .ok (.float x) = (.ok result : Read) := by
    cases least <;> cases most <;> simp only [guard_eq_ok_iff] at written
    · exact written
    · exact written.2
    · exact written.2
    · exact written.2.2
  cases same
  rfl

theorem scalarText_of_text {value : Value} {s : String} (read : text value = .ok s) :
    value.scalarText? = some s := by
  cases value <;> cases read <;> rfl

theorem settles_string : Settles string := by
  intro value result accepted
  obtain ⟨s, -, rfl⟩ := map_eq_ok_iff.mp accepted
  rfl

theorem settles_writtenString : Settles writtenString := by
  intro value result accepted
  unfold writtenString at accepted
  split at accepted <;> cases accepted
  rfl

theorem settles_name : Settles name := by
  refine settles_bind fun s result written => ?_
  simp only [guard_eq_ok_iff] at written
  obtain ⟨-, valid⟩ := written
  split at valid <;> cases valid
  rfl

theorem settles_icon : Settles icon := by
  refine settles_bind fun s result written => ?_
  split at written <;> cases written
  rfl

/-- A choice is found again by its own name: it is what the first was found by, up to case. -/
theorem settles_oneOf (choices : List String) : Settles (oneOf choices) := by
  intro value result accepted
  unfold oneOf at accepted
  split at accepted
  · cases accepted
  · rename_i s named
    simp only at accepted
    split at accepted
    · rename_i choice found
      cases accepted
      generalize word : String.ofList (Text.trim s.toList) = w at found
      have same := List.find?_some found
      have trimmed : Text.IsTrimmed w.toList := by
        rw [← word, String.toList_ofList]
        exact Text.isTrimmed_trim _
      have kept : Text.trim choice.toList = choice.toList :=
        Text.trim_of_equalIgnoringAsciiCase same trimmed
      have alike : (Text.equalIgnoringAsciiCase · choice) = (Text.equalIgnoringAsciiCase · w) := by
        funext other
        rw [Text.equalIgnoringAsciiCase, Text.equalIgnoringAsciiCase, eq_of_beq same]
      have again : choices.find? (Text.equalIgnoringAsciiCase · choice) = some choice := by
        rw [alike]
        exact found
      simp only [oneOf, Value.scalarText?, kept, String.ofList_toList, again]
    · cases accepted

theorem settles_target : Settles target := by
  intro value result accepted
  obtain ⟨s, -, written⟩ := bind_eq_ok_iff.mp accepted
  simp only at written
  split at written
  · cases written
    rfl
  · split at written <;> cases written
    rfl

theorem settles_duration : Settles duration := by
  intro value result accepted
  unfold duration at accepted
  split at accepted
  · cases accepted
    rfl
  · cases accepted
  · cases accepted
  · split at accepted <;> cases accepted
    rfl
  · cases accepted

theorem settles_quantity (unit : String) : Settles (quantity unit) := by
  intro value result accepted
  obtain ⟨x, -, rfl⟩ := map_eq_ok_iff.mp accepted
  have again : quantityValue unit (.quantity x unit) = .ok x := by
    simp only [quantityValue, beq_self_eq_true, if_true]
  exact map_eq_ok_iff.mpr ⟨x, again, rfl⟩

theorem settles_lambda : Settles lambda := by
  intro value result accepted
  unfold lambda at accepted
  split at accepted <;> cases accepted <;> rfl

/-- An identifier as the reading of identifiers leaves it. -/
structure Admits (type : CppType) (role : IdRole) (id : ObjectId) : Prop where
  type_eq : id.type = type
  isName : Cpp.isName id.name = true
  role_eq : id.role = role ∨ id.role = .generated ∧ role = .declared
  notReserved : id.role ≠ .generated → Cpp.isReserved id.name = false

theorem Admits.not_used {type : CppType} {id : ObjectId} (admits : Admits type .declared id) :
    id.role ≠ .used := by
  intro used
  rcases admits.role_eq with same | ⟨made, -⟩
  · cases used.symm.trans same
  · cases used.symm.trans made

/-- The name that a value writes, and the role of an identifier that is there already. -/
def writtenName? : Value → Option (String × Option IdRole)
  | .id i => some (i.name, some i.role)
  | .string s => some (s, none)
  | _ => none

/-- The role that an identifier takes where this one is asked for. -/
def roleFor (existing : Option IdRole) (role : IdRole) : IdRole :=
  if existing = some .generated ∧ role = .declared then .generated else role

theorem identifier_eq_ok_iff {type : CppType} {role : IdRole} {value result : Value} :
    identifier type role value = .ok result ↔
      ∃ name existing, writtenName? value = some (name, existing) ∧ Cpp.isName name = true ∧
        (roleFor existing role ≠ .generated → Cpp.isReserved name = false) ∧
        result = .id ⟨name, type, roleFor existing role⟩ := by
  have written (name : String) (existing : Option IdRole) :
      (¬(!Cpp.isName name) = true ∧
        ¬(decide (roleFor existing role ≠ .generated) && Cpp.isReserved name) = true ∧
        pure (.id ⟨name, type, roleFor existing role⟩) = (.ok result : Read)) ↔
      ∃ other role', some (name, existing) = some (other, role') ∧ Cpp.isName other = true ∧
        (roleFor role' role ≠ .generated → Cpp.isReserved other = false) ∧
        result = .id ⟨other, type, roleFor role' role⟩ := by
    simp only [pure, Except.pure, Except.ok.injEq, Option.some.injEq, Prod.mk.injEq, Bool.and_eq_true, decide_eq_true_eq,
      not_and, Bool.not_eq_true, Bool.not_eq_false']
    constructor
    · rintro ⟨valid, free, rfl⟩
      exact ⟨name, existing, ⟨rfl, rfl⟩, valid, free, rfl⟩
    · rintro ⟨_, _, ⟨rfl, rfl⟩, valid, free, rfl⟩
      exact ⟨valid, free, rfl⟩
  cases value with
  | id i =>
    simp only [identifier, pure_bind, guard_eq_ok_iff, writtenName?]
    exact written i.name (some i.role)
  | string s =>
    simp only [identifier, pure_bind, guard_eq_ok_iff, writtenName?]
    exact written s none
  | _ =>
    constructor
    · intro accepted
      cases accepted
    · rintro ⟨_, _, none, _⟩
      cases none

theorem identifier_gives {type : CppType} {role : IdRole} {value result : Value}
    (accepted : identifier type role value = .ok result) : ∃ id, result = .id id ∧ Admits type role id := by
  obtain ⟨name, existing, -, valid, free, rfl⟩ := identifier_eq_ok_iff.mp accepted
  refine ⟨_, rfl, rfl, valid, ?_, free⟩
  rw [roleFor]
  split
  · rename_i kept
    exact .inr ⟨rfl, kept.2⟩
  · exact .inl rfl

theorem identifier_of_admits {type : CppType} {role : IdRole} {id : ObjectId} (admits : Admits type role id) :
    identifier type role (.id id) = .ok (.id id) := by
  obtain ⟨name, own, ownRole⟩ := id
  obtain ⟨rfl, valid, fits, free⟩ := admits
  have kept : roleFor (some ownRole) role = ownRole := by
    rw [roleFor]
    rcases fits with same | ⟨made, declared⟩
    · simp only at same
      subst same
      split
      · rename_i both
        exact (Option.some.inj both.1).symm
      · rfl
    · simp only at made
      rw [if_pos ⟨congrArg some made, declared⟩, made]
  refine identifier_eq_ok_iff.mpr ⟨name, some ownRole, rfl, valid, ?_, ?_⟩
  · rw [kept]
    exact free
  · rw [kept]

theorem settles_identifier (type : CppType) (role : IdRole) : Settles (identifier type role) := by
  intro value result accepted
  obtain ⟨id, rfl, admits⟩ := identifier_gives accepted
  exact identifier_of_admits admits

theorem settles_coerce (coercion : Coercion) : Settles (coerce coercion) := by
  cases coercion with
  | icon => exact settles_icon
  | target => exact settles_target
  | simpleId =>
    intro value result accepted
    cases value <;> cases accepted <;> rfl

end Scalar

theorem Schema.settles_of_reading {schema : Schema} {read : Value → Scalar.Read}
    (reads : schema.reading? = some read) : Scalar.Settles read := by
  cases schema <;> cases reads
  · exact Scalar.settles_boolean
  · exact Scalar.settles_int _ _
  · exact Scalar.settles_float _ _
  · exact Scalar.settles_string
  · exact Scalar.settles_writtenString
  · exact Scalar.settles_name
  · exact Scalar.settles_oneOf _
  · exact Scalar.settles_duration
  · exact Scalar.settles_quantity _
  · exact Scalar.settles_lambda
  · exact Scalar.settles_identifier _ _
  · exact Scalar.settles_identifier _ _
  · exact Scalar.settles_coerce _

end DeviceConfig
