import DeviceConfig.Json.Encode
import DeviceConfig.Proofs.Yaml.Plain
import DeviceConfig.Schema.Scalar
import DeviceConfig.Yaml.Decode

/-!
Periods as texts. The text is exact and has the largest unit that allows this, so that periods of whole
microseconds, as all periods that are read, have texts of their own (`Duration.text_exact`).
-/

namespace DeviceConfig

/-- The units that the text of a period may have. -/
inductive TimeUnit where
  | microsecond
  | millisecond
  | second
  | minute
  | hour
  deriving Repr, DecidableEq

namespace TimeUnit

def sign : TimeUnit → String
  | microsecond => "us"
  | millisecond => "ms"
  | second => "s"
  | minute => "min"
  | hour => "h"

def microseconds : TimeUnit → Nat
  | microsecond => 1
  | millisecond => 1000
  | second => 1000000
  | minute => 60000000
  | hour => 3600000000

/-- The smallest of the larger units. -/
def next? : TimeUnit → Option TimeUnit
  | microsecond => some millisecond
  | millisecond => some second
  | second => some minute
  | minute => some hour
  | hour => none

/-- A larger unit is a multiple of the next one. -/
theorem exists_next_dvd {unit larger : TimeUnit} (more : unit.microseconds < larger.microseconds) :
    ∃ next, unit.next? = some next ∧ next.microseconds ∣ larger.microseconds := by
  cases unit
  case hour => cases larger <;> exact absurd more (by decide)
  all_goals exact ⟨_, rfl, by cases larger <;> revert more <;> decide⟩

theorem exists_letter (unit : TimeUnit) :
    ∃ mark word, unit.sign.toList = mark :: word ∧ mark ∈ Yaml.unitMarks ∧
      ∀ c ∈ word, Cpp.isNameChar c = true := by
  cases unit
  · exact ⟨'u', ['s'], rfl, by decide, List.all_eq_true.mp (by decide)⟩
  · exact ⟨'m', ['s'], rfl, by decide, List.all_eq_true.mp (by decide)⟩
  · exact ⟨'s', [], rfl, by decide, List.forall_mem_nil _⟩
  · exact ⟨'m', ['i', 'n'], rfl, by decide, List.all_eq_true.mp (by decide)⟩
  · exact ⟨'h', [], rfl, by decide, List.forall_mem_nil _⟩

theorem sign_injective {unit other : TimeUnit} (same : unit.sign = other.sign) : unit = other := by
  cases unit <;> cases other <;> first | rfl | exact absurd same (by decide)

end TimeUnit

section Written

variable {count other : Nat} {unit otherUnit : TimeUnit}

theorem toList_written (count : Nat) (unit : TimeUnit) :
    (toString count ++ unit.sign).toList = Nat.toDigits 10 count ++ unit.sign.toList := by
  rw [String.toList_append, Nat.toString_eq_repr, Nat.toList_repr]

theorem exists_isMeasure (count : Nat) (unit : TimeUnit) :
    ∃ mark word, Yaml.IsMeasure (toString count ++ unit.sign).toList (Nat.toDigits 10 count) mark word := by
  obtain ⟨mark, word, letters, marked, named⟩ := unit.exists_letter
  refine ⟨mark, word, ⟨?_, Nat.toDigits_ne_nil, fun c member => ?_, marked, named⟩⟩
  · rw [toList_written, letters]
  · exact Nat.isDigit_of_mem_toDigits (by decide) (by decide) member

/-- The digits of a written count end where its unit starts. -/
theorem written_injective (same : toString count ++ unit.sign = toString other ++ otherUnit.sign) :
    count = other ∧ unit = otherUnit := by
  have cut (n : Nat) (u : TimeUnit) :
      (toString n ++ u.sign).toList.takeWhile Decimal.isDigit = Nat.toDigits 10 n := by
    obtain ⟨mark, word, measure⟩ := exists_isMeasure n u
    exact measure.takeWhile_isDigit.1
  have digits : Nat.toDigits 10 count = Nat.toDigits 10 other := by rw [← cut count unit, same, cut]
  have counts : count = other := by
    have values := congrArg (fun ds => Nat.ofDigitChars 10 ds 0) digits
    simpa only [Nat.ofDigitChars_ten_toDigits] using values
  refine ⟨counts, TimeUnit.sign_injective ?_⟩
  rw [counts] at same
  exact String.append_right_inj _ |>.mp same

end Written

namespace Duration

variable {d : Duration}

/-- The text of the period is this count of this unit: no larger unit makes up the period. -/
structure Shows (d : Duration) (count : Nat) (unit : TimeUnit) : Prop where
  text : d.text = toString count ++ unit.sign
  exact : count * unit.microseconds = d.microseconds
  largest : d.microseconds ≠ 0 → ∀ larger : TimeUnit, unit.microseconds < larger.microseconds →
    ¬ larger.microseconds ∣ d.microseconds

/-- It is enough that the next unit does not make up the period. -/
theorem Shows.of_next {count : Nat} {unit : TimeUnit} (text : d.text = toString count ++ unit.sign)
    (exact : count * unit.microseconds = d.microseconds)
    (last : ∀ next, unit.next? = some next → ¬ next.microseconds ∣ d.microseconds) : d.Shows count unit := by
  refine ⟨text, exact, fun _ larger more multiple => ?_⟩
  obtain ⟨next, found, divides⟩ := TimeUnit.exists_next_dvd more
  exact last next found (Nat.dvd_trans divides multiple)

theorem exists_shows (d : Duration) : ∃ count unit, d.Shows count unit := by
  have written := text.eq_def d
  dsimp only at written
  -- each test that fails leaves a multiple of the next unit
  split_ifs at written with zero us ms s min
  · refine ⟨0, .millisecond, written, ?_, fun some => absurd zero some⟩
    rw [zero, Nat.zero_mul]
  · refine ⟨_, .microsecond, .of_next written (Nat.mul_one _) ?_⟩
    rintro _ ⟨⟩ multiple
    exact us (Nat.mod_eq_zero_of_dvd multiple)
  · refine ⟨_, .millisecond, .of_next written (Nat.div_mul_cancel ?_) ?_⟩
    · exact Nat.dvd_of_mod_eq_zero (not_not.mp us)
    · rintro _ ⟨⟩ multiple
      rw [TimeUnit.microseconds] at multiple
      omega
  · refine ⟨_, .second, .of_next written ?_ ?_⟩
    · rw [TimeUnit.microseconds]
      omega
    · rintro _ ⟨⟩ multiple
      rw [TimeUnit.microseconds] at multiple
      omega
  · refine ⟨_, .minute, .of_next written ?_ ?_⟩
    · rw [TimeUnit.microseconds]
      omega
    · rintro _ ⟨⟩ multiple
      rw [TimeUnit.microseconds] at multiple
      omega
  · refine ⟨_, .hour, .of_next written ?_ fun next none => by cases none⟩
    rw [TimeUnit.microseconds]
    omega

theorem microseconds_ofMicroseconds (n : Nat) : (ofMicroseconds n).microseconds = n := by
  rw [microseconds, ofMicroseconds, Nat.mul_div_cancel n (by decide)]

/-- Texts show all whole microseconds. -/
theorem microseconds_eq_of_text_eq {other : Duration} (same : d.text = other.text) :
    d.microseconds = other.microseconds := by
  obtain ⟨count, unit, shows⟩ := d.exists_shows
  obtain ⟨otherCount, otherUnit, otherShows⟩ := other.exists_shows
  obtain ⟨rfl, rfl⟩ := written_injective (shows.text.symm.trans (same.trans otherShows.text))
  rw [← shows.exact, ← otherShows.exact]

theorem exists_isMeasure_text (d : Duration) :
    ∃ digits mark word, Yaml.IsMeasure d.text.toList digits mark word := by
  obtain ⟨count, unit, shows⟩ := d.exists_shows
  obtain ⟨mark, word, measure⟩ := exists_isMeasure count unit
  exact ⟨_, mark, word, shows.text ▸ measure⟩

/-- In a YAML document a period stands without quotes. -/
theorem nodeText_toYaml (d : Duration) (outer : Option Nat) (place : Yaml.Place) :
    Yaml.nodeText outer place (Value.duration d).toYaml = place.gap ++ d.text := by
  obtain ⟨digits, mark, word, measure⟩ := d.exists_isMeasure_text
  have plain := Yaml.stringText_measure measure (Yaml.scalarIndent outer) false
  rw [String.ofList_toList] at plain
  rw [Value.toYaml, Yaml.nodeText, Yaml.scalarText, plain]
  all_goals nofun

theorem prettyAt_toJson (d : Duration) (depth : Nat) :
    Json.prettyAt depth (Value.duration d).toJson = String.ofList ('"' :: d.text.toList ++ ['"']) := by
  obtain ⟨digits, mark, word, measure⟩ := d.exists_isMeasure_text
  have quoted := Json.stringText_of_named measure.named
  rw [String.ofList_toList] at quoted
  rw [Value.toJson, Json.prettyAt, Json.scalarText, quoted]
  all_goals nofun

/-- What is read is a number of seconds from a clock, or a word of microseconds. -/
theorem period?_gives {text : String} (read : Scalar.period? text = some d) :
    (∃ seconds, d = ofSeconds seconds) ∨ ∃ word : UInt64, d = ofMicroseconds word.toNat := by
  unfold Scalar.period? at read
  dsimp only at read
  split at read
  · simp only [Option.bind_eq_bind, Option.bind_eq_some_iff] at read
    obtain ⟨numbers, -, seconds, -, made⟩ := read
    exact .inl ⟨seconds, (Option.some.inj made).symm⟩
  · simp only [Option.bind_eq_bind, Option.bind_eq_some_iff] at read
    obtain ⟨number, -, factor, -, made⟩ := read
    split at made
    · cases made
    · exact .inr ⟨_, (Option.some.inj made).symm⟩

theorem exists_ofMicroseconds_of_period? {text : String} (read : Scalar.period? text = some d) :
    ∃ n, d = ofMicroseconds n := by
  rcases period?_gives read with ⟨seconds, rfl⟩ | ⟨word, rfl⟩
  · refine ⟨seconds * 1000000, ?_⟩
    rw [ofSeconds, ofMicroseconds, Nat.mul_assoc]
  · exact ⟨word.toNat, rfl⟩

theorem period?_of_duration {text : String} (accepted : Scalar.duration (.string text) = .ok (.duration d)) :
    Scalar.period? text = some d := by
  rw [Scalar.duration] at accepted
  split at accepted
  · rename_i found
    cases accepted
    exact found
  · cases accepted

/-- The text of a period of whole microseconds, which all periods are that are read from texts, is a number with a
    unit that make up the period, and no larger unit does. Two such periods have different texts, and different
    ones in a document. -/
theorem text_exact :
    (∀ n, ∃ (count : Nat) (unit : TimeUnit), (ofMicroseconds n).text = toString count ++ unit.sign ∧
      count * unit.microseconds = n ∧
      (n ≠ 0 → ∀ larger : TimeUnit, unit.microseconds < larger.microseconds → ¬ larger.microseconds ∣ n)) ∧
    (ofMicroseconds 0).text = "0ms" ∧
    (∀ text d, Scalar.duration (.string text) = .ok (.duration d) → ∃ n, d = ofMicroseconds n) ∧
    ∀ n m, n ≠ m →
      (ofMicroseconds n).text ≠ (ofMicroseconds m).text ∧
      (∀ outer place, Yaml.nodeText outer place (Value.duration (ofMicroseconds n)).toYaml ≠
        Yaml.nodeText outer place (Value.duration (ofMicroseconds m)).toYaml) ∧
      ∀ depth, Json.prettyAt depth (Value.duration (ofMicroseconds n)).toJson ≠
        Json.prettyAt depth (Value.duration (ofMicroseconds m)).toJson := by
  have differ (n m : Nat) (same : (ofMicroseconds n).text = (ofMicroseconds m).text) : n = m := by
    have counts := microseconds_eq_of_text_eq same
    rwa [microseconds_ofMicroseconds, microseconds_ofMicroseconds] at counts
  refine ⟨fun n => ?_, rfl, fun text d accepted => ?_, fun n m apart => ⟨fun same => ?_, fun outer place same => ?_,
    fun depth same => ?_⟩⟩
  · obtain ⟨count, unit, shows⟩ := (ofMicroseconds n).exists_shows
    have exact := shows.exact
    have largest := shows.largest
    rw [microseconds_ofMicroseconds] at exact largest
    exact ⟨count, unit, shows.text, exact, largest⟩
  · exact exists_ofMicroseconds_of_period? (period?_of_duration accepted)
  · exact apart (differ n m same)
  · rw [nodeText_toYaml, nodeText_toYaml] at same
    exact apart (differ n m ((String.append_right_inj _).mp same))
  · rw [prettyAt_toJson, prettyAt_toJson, String.ofList_inj] at same
    have inner := List.append_cancel_right (List.cons.inj same).2
    exact apart (differ n m (String.toList_inj.mp inner))

/-- Ninety minutes are no whole hours. -/
example : (ofMicroseconds 5400000000).text = "90min" ∧ (ofMicroseconds 7200000000).text = "2h" := by
  decide

end Duration

end DeviceConfig
