import DeviceConfig.Cpp.Name
import DeviceConfig.Proofs.Text.Blank
import Mathlib.Data.List.Nodup
import Mathlib.Data.List.Perm.Subperm

/-!
Names that are made up are the first free ones (`Cpp.isFirstFree_fresh`), and they are names of the generated
program if what they are made from is one (`Cpp.isName_fresh`), as any text that was made a name
(`Cpp.isName_toName`).
-/

namespace DeviceConfig.Cpp

variable {preferred : String} {taken : List String}

theorem numbered_eq (preferred : String) (n : Nat) :
    numbered preferred n = preferred ++ "_" ++ n.repr := by
  simp [numbered, ToString.toString]

theorem toList_numbered (preferred : String) (n : Nat) :
    (numbered preferred n).toList = preferred.toList ++ '_' :: Nat.toDigits 10 n := by
  rw [numbered_eq, String.toList_append, String.toList_append, Nat.toList_repr, List.append_assoc]
  rfl

theorem numbered_injective {n m : Nat} (same : numbered preferred n = numbered preferred m) : n = m := by
  have lists := congrArg String.toList same
  rw [toList_numbered, toList_numbered] at lists
  have digits := (List.cons.inj (List.append_cancel_left lists)).2
  have values := congrArg (fun ds => Nat.ofDigitChars 10 ds 0) digits
  simpa only [Nat.ofDigitChars_ten_toDigits] using values

theorem numbered_mem_of_firstFree_mem {bound n : Nat} (used : firstFree preferred taken bound n ∈ taken)
    {k : Nat} (tried : k ≤ bound) : numbered preferred (n + k) ∈ taken := by
  induction bound generalizing n k with
  | zero =>
    obtain rfl : k = 0 := Nat.le_zero.mp tried
    exact used
  | succ bound ih =>
    rw [firstFree] at used
    split at used
    · rename_i first
      cases k with
      | zero => exact List.contains_iff_mem.mp first
      | succ k =>
        have later := ih used (Nat.le_of_succ_le_succ tried)
        rwa [Nat.add_assoc, Nat.add_comm 1] at later
    · rename_i free
      exact absurd (List.contains_iff_mem.mpr used) free

/-- There are more numbered names to try than names that are taken. -/
theorem firstFree_notMem (n : Nat) : firstFree preferred taken taken.length n ∉ taken := by
  intro used
  let tried := (List.range (taken.length + 1)).map fun k => numbered preferred (n + k)
  have differ : tried.Nodup := by
    refine List.Nodup.map_on (fun k _ l _ same => ?_) List.nodup_range
    have numbers := numbered_injective same
    omega
  have inside : tried ⊆ taken := by
    intro name member
    obtain ⟨k, small, rfl⟩ := List.mem_map.mp member
    exact numbered_mem_of_firstFree_mem used (Nat.le_of_lt_succ (List.mem_range.mp small))
  have fewer := (List.subperm_of_subset differ inside).length_le
  rw [List.length_map, List.length_range] at fewer
  omega

theorem fresh_notMem (preferred : String) (taken : List String) : fresh preferred taken ∉ taken := by
  rw [fresh]
  split
  · exact firstFree_notMem 2
  · rename_i free
    exact fun used => free (List.contains_iff_mem.mpr used)

theorem fresh_of_notMem (free : preferred ∉ taken) : fresh preferred taken = preferred := by
  rw [fresh, if_neg fun used => free (List.contains_iff_mem.mp used)]

theorem firstFree_eq_numbered (bound n : Nat) :
    ∃ m ≥ n, firstFree preferred taken bound n = numbered preferred m ∧
      ∀ k, n ≤ k → k < m → numbered preferred k ∈ taken := by
  induction bound generalizing n with
  | zero => exact ⟨n, Nat.le_refl n, rfl, fun k least below => absurd below (Nat.not_lt_of_le least)⟩
  | succ bound ih =>
    rw [firstFree]
    split
    · rename_i used
      obtain ⟨m, above, same, between⟩ := ih (n + 1)
      refine ⟨m, by omega, same, fun k least below => ?_⟩
      rcases Nat.eq_or_lt_of_le least with rfl | later
      · exact List.contains_iff_mem.mp used
      · exact between k later below
    · exact ⟨n, Nat.le_refl n, rfl, fun k least below => absurd below (Nat.not_lt_of_le least)⟩

/-- The name is the preferred one if that is free, and else its first numbered name from 2 on that is. -/
def IsFirstFree (preferred : String) (taken : List String) (name : String) : Prop :=
  preferred ∉ taken ∧ name = preferred ∨
  preferred ∈ taken ∧ ∃ n ≥ 2, name = numbered preferred n ∧ numbered preferred n ∉ taken ∧
    ∀ k, 2 ≤ k → k < n → numbered preferred k ∈ taken

theorem isFirstFree_fresh (preferred : String) (taken : List String) :
    IsFirstFree preferred taken (fresh preferred taken) := by
  by_cases used : preferred ∈ taken
  · obtain ⟨n, above, same, between⟩ := @firstFree_eq_numbered preferred taken taken.length 2
    have free := @firstFree_notMem preferred taken 2
    rw [same] at free
    refine .inr ⟨used, n, above, ?_, free, between⟩
    rw [fresh, if_pos (List.contains_iff_mem.mpr used), same]
  · exact .inl ⟨used, fresh_of_notMem used⟩

theorem isName_numbered (named : isName preferred = true) (n : Nat) :
    isName (numbered preferred n) = true := by
  have digits : (Nat.toDigits 10 n).all isNameChar = true := by
    refine List.all_eq_true.mpr fun c member => ?_
    have digit := Nat.isDigit_of_mem_toDigits (by decide) (by decide) member
    rw [isNameChar, Char.isAlphanum, digit, Bool.or_true, Bool.true_or]
  have underscore : isNameChar '_' = true := by decide
  rw [isName] at named ⊢
  rw [toList_numbered]
  cases whole : preferred.toList with
  | nil => rw [whole] at named; cases named
  | cons first rest =>
    rw [whole] at named
    obtain ⟨start, others⟩ := Bool.and_eq_true_iff.mp named
    simp only [List.cons_append, List.all_append, List.all_cons, start, others, underscore, digits,
      Bool.and_self]

theorem isName_fresh (named : isName preferred = true) (taken : List String) :
    isName (fresh preferred taken) = true := by
  rw [fresh]
  split
  · obtain ⟨m, -, same, -⟩ := @firstFree_eq_numbered preferred taken taken.length 2
    rw [same]
    exact isName_numbered named m
  · exact named

theorem isNameChar_of_isNameStart {c : Char} (start : isNameStart c = true) : isNameChar c = true := by
  rw [isNameStart, Bool.or_eq_true] at start
  rw [isNameChar, Char.isAlphanum, Bool.or_eq_true, Bool.or_eq_true]
  exact start.imp .inl id

theorem isDigit_eq_false_of_isNameStart {c : Char} (start : isNameStart c = true) :
    Decimal.isDigit c = false := by
  rw [isNameStart, Bool.or_eq_true] at start
  rw [Decimal.isDigit, Bool.and_eq_false_iff, decide_eq_false_iff_not, decide_eq_false_iff_not]
  refine .inr fun below => ?_
  have code : c.val.toNat ≤ 57 := UInt32.le_iff_toNat_le.mp below
  rcases start with letter | underscore
  · change (decide ('A'.val ≤ c.val ∧ c.val ≤ 'Z'.val) || ('a'.val ≤ c.val && c.val ≤ 'z'.val)) = true at letter
    simp only [Bool.or_eq_true, Bool.and_eq_true, decide_eq_true_eq, UInt32.le_iff_toNat_le] at letter
    have upper : 'A'.val.toNat = 65 := rfl
    have lower : 'a'.val.toNat = 97 := rfl
    omega
  · obtain rfl : c = '_' := eq_of_beq underscore
    exact absurd code (by decide)

theorem isNameStart_of_isNameChar {c : Char} (named : isNameChar c = true)
    (noDigit : Decimal.isDigit c = false) : isNameStart c = true := by
  have same : c.isDigit = false := noDigit
  rw [isNameChar, Char.isAlphanum, same, Bool.or_false] at named
  exact named

theorem bounds_of_isNameChar {c : Char} (named : isNameChar c = true) : 33 ≤ c.val.toNat ∧ c.val.toNat ≤ 126 := by
  change ((decide ('A'.val ≤ c.val ∧ c.val ≤ 'Z'.val) || ('a'.val ≤ c.val && c.val ≤ 'z'.val)) ||
    ('0'.val ≤ c.val && c.val ≤ '9'.val) || c == '_') = true at named
  simp only [Bool.or_eq_true, Bool.and_eq_true, decide_eq_true_eq, UInt32.le_iff_toNat_le, beq_iff_eq] at named
  rcases named with ((upper | lower) | digit) | rfl
  · exact ⟨Nat.le_trans (by decide) upper.1, Nat.le_trans upper.2 (by decide)⟩
  · exact ⟨Nat.le_trans (by decide) lower.1, Nat.le_trans lower.2 (by decide)⟩
  · exact ⟨Nat.le_trans (by decide) digit.1, Nat.le_trans digit.2 (by decide)⟩
  · decide

theorem isBlank_of_isNameChar {c : Char} (named : isNameChar c = true) : Text.isBlank c = false := by
  obtain ⟨low, high⟩ := bounds_of_isNameChar named
  exact Text.isBlank_of_visible low high

theorem utf8Size_of_isNameChar {c : Char} (named : isNameChar c = true) : c.utf8Size = 1 := by
  obtain ⟨-, high⟩ := bounds_of_isNameChar named
  exact Char.utf8Size_eq_one_iff.mpr (UInt32.le_iff_toNat_le.mpr (Nat.le_trans high (by decide)))

theorem isName_iff {name : String} :
    isName name = true ↔ name.toList.head?.any isNameStart = true ∧ ∀ c ∈ name.toList, isNameChar c = true := by
  rw [isName]
  cases name.toList with
  | nil => simp
  | cons c rest =>
    simp only [List.head?_cons, Option.any_some, Bool.and_eq_true, List.all_eq_true, List.forall_mem_cons]
    exact ⟨fun ⟨start, others⟩ => ⟨start, isNameChar_of_isNameStart start, others⟩, fun ⟨start, _, others⟩ => ⟨start, others⟩⟩

theorem chars_of_isName {name : String} (named : isName name = true) :
    name.toList ≠ [] ∧ (∀ c ∈ name.toList, isNameChar c = true) ∧
      name.toList.head?.any Decimal.isDigit = false := by
  obtain ⟨start, each⟩ := isName_iff.mp named
  cases whole : name.toList with
  | nil =>
    rw [whole] at start
    cases start
  | cons c rest =>
    rw [whole] at start each
    exact ⟨List.cons_ne_nil c rest, each, isDigit_eq_false_of_isNameStart start⟩

theorem isName_toName (text : String) : isName (toName text) = true := by
  have each : (text.toList.map fun c => if isNameChar c then c else '_').all isNameChar = true := by
    refine List.all_eq_true.mpr fun c member => ?_
    obtain ⟨original, -, rfl⟩ := List.mem_map.mp member
    split
    · assumption
    · rfl
  rw [toName]
  generalize text.toList.map (fun c => if isNameChar c then c else '_') = chars at each
  cases chars with
  | nil => rfl
  | cons c rest =>
    obtain ⟨first, others⟩ := Bool.and_eq_true_iff.mp each
    dsimp only
    split
    · simp [isName, first, others, show isNameStart '_' = true from rfl]
    · rename_i noDigit
      have start := isNameStart_of_isNameChar first (Bool.not_eq_true _ ▸ noDigit)
      simp [isName, start, others]

theorem toName_of_isName (named : isName preferred = true) : toName preferred = preferred := by
  rw [isName] at named
  rw [toName]
  cases whole : preferred.toList with
  | nil => rw [whole] at named; cases named
  | cons first rest =>
    rw [whole] at named
    obtain ⟨start, others⟩ := Bool.and_eq_true_iff.mp named
    have kept : rest.map (fun c => if isNameChar c then c else '_') = rest := by
      rw [List.map_congr_left fun c member => if_pos (List.all_eq_true.mp others c member)]
      exact List.map_id _
    simp only [List.map_cons, isNameChar_of_isNameStart start, if_true, kept,
      isDigit_eq_false_of_isNameStart start, Bool.false_eq_true, if_false]
    rw [← whole, String.ofList_toList]

end DeviceConfig.Cpp
