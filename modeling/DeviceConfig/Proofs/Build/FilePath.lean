import DeviceConfig.Build.FilePath
import DeviceConfig.Proofs.Text.Lines

/-!
Where paths lead without looking at any file. A place is given by the names that lead to it from the root,
nearest first.

A joined path leads where its second part leads from where its first part does (`locate_join`). A relative path is
a descent: so many directories up, then down by names (`locate_of_relative`). Normal forms keep the names of a
descent and the parity of its steps up (`normalize_parts`); `locate_between` says where the path from one directory
to another leads because of that.
-/

namespace DeviceConfig.FilePath

/-- The place that a step leads to. There is nothing above the root. -/
def move (place : List String) : Part → List String
  | .root => []
  | .here => place
  | .up => place.tail
  | .name text => text :: place

def follow (place : List String) (steps : List Part) : List String := steps.foldl move place

/-- What a path means to a reader in this directory. -/
def locate (directory : List String) (path : String) : List String := follow directory (parts path)

@[simp] theorem follow_nil (place : List String) : follow place [] = place := rfl

@[simp] theorem follow_cons (place : List String) (step : Part) (steps : List Part) :
    follow place (step :: steps) = follow (move place step) steps := rfl

@[simp] theorem follow_append (place : List String) (steps more : List Part) :
    follow place (steps ++ more) = follow (follow place steps) more := List.foldl_append

@[simp] theorem follow_names (place names : List String) :
    follow place (names.map .name) = names.reverse ++ place := by
  induction names generalizing place with
  | nil => rfl
  | cons name names ih => simp [move, ih]

@[simp] theorem follow_ups (place : List String) (n : Nat) :
    follow place (List.replicate n .up) = place.drop n := by
  induction n generalizing place with
  | zero => rfl
  | succ n ih => simp [List.replicate_succ, move, ih]

theorem pieces_eq (text : List Char) : pieces text = text.splitOn '/' := by
  have same : pieces text = Text.splitOn (· == '/') text := by
    induction text with
    | nil => rfl
    | cons c rest ih =>
      cases found : pieces rest with
      | nil => simp [pieces, Text.splitOn, found, ← ih]
      | cons piece more => simp [pieces, Text.splitOn, found, ← ih]
  exact same.trans (Text.splitOn_eq _ text)

/-- The steps of a path apart from how it starts. -/
def steps (path : String) : List Part := (path.toList.splitOn '/').filterMap partOf?

theorem root_notMem_steps (path : String) : .root ∉ steps path := by
  intro member
  obtain ⟨piece, -, read⟩ := List.mem_filterMap.mp member
  unfold partOf? at read
  split at read
  · cases read
  · split at read <;> cases read

/-- How a path starts, as a step of its own. -/
def start (path : String) : List Part :=
  if isAbsolute path then [.root] else if (path.toList.splitOn '/').head? == some ['.'] then [.here] else []

theorem parts_eq (path : String) : parts path = start path ++ steps path := by
  rw [parts, pieces_eq]
  rfl

theorem locate_eq (place : List String) (path : String) :
    locate place path = follow (if isAbsolute path then [] else place) (steps path) := by
  have begun : follow place (start path) = if isAbsolute path then [] else place := by
    unfold start
    split
    · rfl
    · split <;> rfl
  rw [locate, parts_eq, follow_append, begun]

/-! ### Joined paths -/

/-- A joined path is the two paths with a slash between them, which is not written twice. -/
theorem toList_join {base file : String} (relative : ¬ isAbsolute file) (given : base ≠ "") :
    ∃ before, (join base file).toList = before ++ '/' :: file.toList ∧
      (base.toList = before ∨ base.toList = before ++ ['/']) := by
  have notEmpty : base.isEmpty = false := by simpa using given
  rw [join, if_neg (by simp [relative, notEmpty])]
  split
  · rename_i ends
    obtain ⟨before, ended⟩ := List.getLast?_eq_some_iff.mp (beq_iff_eq.mp ends)
    exact ⟨before, by simp [ended], .inr ended⟩
  · exact ⟨base.toList, by simp, .inl rfl⟩

theorem isAbsolute_append {before after : List Char} {path : String} (cut : path.toList = before ++ '/' :: after)
    {base : String} (same : base.toList = before ∨ base.toList = before ++ ['/']) (given : base ≠ "") :
    isAbsolute path = isAbsolute base := by
  rw [isAbsolute, isAbsolute, cut]
  rcases same with same | same
  · cases before with
    | nil => exact absurd (String.toList_eq_nil_iff.mp same) given
    | cons c rest => simp [same]
  · cases before with
    | nil => simp [same]
    | cons c rest => simp [same]

@[simp] theorem join_empty (file : String) : join "" file = file := by simp [join]

theorem isAbsolute_join (base file : String) :
    isAbsolute (join base file) = (isAbsolute file || isAbsolute base) := by
  by_cases absolute : isAbsolute file
  · simp [join, absolute]
  · by_cases empty : base = ""
    · subst empty
      rw [join_empty]
      exact (Bool.or_false _).symm
    · obtain ⟨before, cut, same⟩ := toList_join absolute empty
      simp [isAbsolute_append cut same empty, absolute]

theorem start_join {base file : String} (relative : ¬ isAbsolute file) (given : base ≠ "") :
    start (join base file) = start base := by
  obtain ⟨before, cut, same⟩ := toList_join relative given
  obtain ⟨first, others, pieces⟩ := List.exists_cons_of_ne_nil (List.splitOn_ne_nil '/' before)
  have ofBase : (base.toList.splitOn '/').head? = some first := by
    rcases same with same | same
    · rw [same, pieces, List.head?_cons]
    · rw [same, List.splitOn_append_cons_self, pieces, List.cons_append, List.head?_cons]
  rw [start, start, isAbsolute_append cut same given, ofBase, cut, List.splitOn_append_cons_self, pieces,
    List.cons_append, List.head?_cons]

theorem steps_join {base file : String} (relative : ¬ isAbsolute file) :
    steps (join base file) = steps base ++ steps file := by
  by_cases empty : base = ""
  · subst empty
    rw [join_empty]
    rfl
  · obtain ⟨before, cut, same⟩ := toList_join relative empty
    have ofBase : steps base = (before.splitOn '/').filterMap partOf? := by
      rcases same with same | same
      · rw [steps, same]
      · rw [steps, same, List.splitOn_append_cons_self]
        simp [partOf?]
    rw [steps, cut, List.splitOn_append_cons_self, List.filterMap_append, ofBase, steps]

/-- A joined path leads where `file` leads from where `base` does. -/
theorem locate_join (place : List String) (base file : String) :
    locate place (join base file) = locate (locate place base) file := by
  by_cases absolute : isAbsolute file
  · simp [join, locate_eq, absolute]
  · simp only [locate_eq, isAbsolute_join, steps_join absolute, follow_append, absolute, Bool.false_or]
    rfl

/-! ### Descents -/

/-- A relative path without its detours: so many directories up from where it begins, and from there down by
    these names, nearest first. -/
structure Descent where
  above : Nat
  inside : List String

namespace Descent

def move (descent : Descent) : Part → Descent
  | .root | .here => descent
  | .up =>
    match descent.inside with
    | [] => ⟨descent.above + 1, []⟩
    | _ :: rest => ⟨descent.above, rest⟩
  | .name text => ⟨descent.above, text :: descent.inside⟩

def ofSteps (steps : List Part) : Descent := steps.foldl move ⟨0, []⟩

/-- Where the descent ends that begins at this place. -/
def leadsTo (descent : Descent) (place : List String) : List String := descent.inside ++ place.drop descent.above

/-- What normal forms keep of a descent, last step first: of the steps up, each two cancel out. -/
def kept (descent : Descent) : List Part :=
  descent.inside.map .name ++ List.replicate (descent.above % 2) .up

theorem leadsTo_move (descent : Descent) (place : List String) {step : Part} (within : step ≠ .root) :
    (descent.move step).leadsTo place = FilePath.move (descent.leadsTo place) step := by
  obtain ⟨above, inside⟩ := descent
  cases step with
  | root => exact absurd rfl within
  | here => rfl
  | up =>
    cases inside with
    | nil => simp [move, leadsTo, FilePath.move, List.tail_drop]
    | cons name rest => rfl
  | name text => rfl

theorem kept_move (descent : Descent) {step : Part} (within : step ≠ .root) {begun : List Part}
    (isStart : begun = [] ∨ begun = [.root]) :
    walk (descent.kept ++ begun) step = (descent.move step).kept ++ begun := by
  obtain ⟨above, inside⟩ := descent
  cases step with
  | root => exact absurd rfl within
  | here => rfl
  | name text => rfl
  | up =>
    cases inside with
    | cons name rest => rfl
    | nil =>
      rcases Nat.mod_two_eq_zero_or_one above with even | odd
      · rcases isStart with rfl | rfl <;> simp [kept, move, walk, even, Nat.add_mod]
      · simp [kept, move, walk, odd, Nat.add_mod]

theorem leadsTo_ofSteps (place : List String) {steps : List Part} (within : .root ∉ steps) :
    (ofSteps steps).leadsTo place = follow place steps := by
  have general (descent : Descent) :
      (steps.foldl move descent).leadsTo place = follow (descent.leadsTo place) steps := by
    induction steps generalizing descent with
    | nil => rfl
    | cons step steps ih =>
      obtain ⟨first, rest⟩ := not_or.mp (List.mem_cons.not.mp within)
      rw [List.foldl_cons, ih rest, leadsTo_move descent place (Ne.symm first), follow_cons]
  exact general ⟨0, []⟩

theorem kept_ofSteps {steps begun : List Part} (within : .root ∉ steps)
    (isStart : begun = [] ∨ begun = [.root]) :
    steps.foldl walk begun = (ofSteps steps).kept ++ begun := by
  have general (descent : Descent) :
      steps.foldl walk (descent.kept ++ begun) = (steps.foldl move descent).kept ++ begun := by
    induction steps generalizing descent with
    | nil => rfl
    | cons step steps ih =>
      obtain ⟨first, rest⟩ := not_or.mp (List.mem_cons.not.mp within)
      rw [List.foldl_cons, kept_move descent (Ne.symm first) isStart, ih rest, List.foldl_cons]
  exact general ⟨0, []⟩

end Descent

/-- The descent that a path describes after how it starts. -/
def descent (path : String) : Descent := Descent.ofSteps (steps path)

/-- How many directories above the one where a path begins it leads, at its highest. -/
def climbs (path : String) : Nat := (descent path).above

theorem locate_of_isAbsolute (place : List String) {path : String} (absolute : isAbsolute path) :
    locate place path = (descent path).inside := by
  rw [locate_eq, if_pos absolute, ← Descent.leadsTo_ofSteps _ (root_notMem_steps path)]
  simp [Descent.leadsTo, descent]

theorem locate_of_relative (place : List String) {path : String} (relative : ¬ isAbsolute path) :
    locate place path = (descent path).inside ++ place.drop (climbs path) := by
  rw [locate_eq, if_neg relative, ← Descent.leadsTo_ofSteps _ (root_notMem_steps path)]
  rfl

/-- The normal form of a path, first step first. -/
theorem normalize_parts (path : String) :
    normalize (parts path) = (if isAbsolute path then [.root] else []) ++ (descent path).kept.reverse := by
  have begun : (start path).foldl walk [] = if isAbsolute path then [.root] else [] := by
    unfold start
    split
    · rfl
    · split <;> rfl
  rw [normalize, parts_eq, List.foldl_append, begun,
    Descent.kept_ofSteps (root_notMem_steps path) (by split <;> simp), List.reverse_append]
  congr 1
  split <;> rfl

/-! ### From one directory to another -/

theorem kept_reverse (descent : Descent) :
    descent.kept.reverse = List.replicate (descent.above % 2) .up ++ descent.inside.reverse.map .name := by
  simp [Descent.kept]

theorem follow_kept (descent : Descent) (place : List String) :
    follow place descent.kept.reverse = descent.inside ++ place.drop (descent.above % 2) := by
  rw [kept_reverse, follow_append, follow_ups, follow_names, List.reverse_reverse]

theorem dropCommon_append (common as bs : List Part) :
    dropCommon (common ++ as) (common ++ bs) = dropCommon as bs := by
  induction common with
  | nil => rfl
  | cons step rest ih => simpa [dropCommon] using ih

theorem dropCommon_of_head {as bs : List Part} (differ : as.head? = bs.head? → as = []) :
    dropCommon as bs = (as, bs) := by
  cases as with
  | nil => cases bs <;> rfl
  | cons a as =>
    cases bs with
    | nil => rfl
    | cons b bs =>
      have other : a ≠ b := by
        rintro rfl
        exact List.cons_ne_nil a as (differ rfl)
      simp [dropCommon, other]

theorem dropCommon_suffix (as bs : List Part) : (dropCommon as bs).1 <:+ as := by
  fun_induction dropCommon as bs with
  | case1 as b bs ih => exact ih.trans (List.suffix_cons b as)
  | case2 => exact List.suffix_rfl
  | case3 => exact List.suffix_rfl

/-- Up from the names that are not shared, then down by the others. -/
theorem follow_dropCommon_names (names others rest : List String) :
    follow (others.reverse ++ rest)
        (List.replicate (dropCommon (names.map .name) (others.map .name)).2.length .up ++
          (dropCommon (names.map .name) (others.map .name)).1) =
      names.reverse ++ rest := by
  induction names generalizing others rest with
  | nil => simp [dropCommon]
  | cons name names ih =>
    cases others with
    | nil => simp [dropCommon, move]
    | cons other others =>
      by_cases same : name = other
      · subst same
        simpa [dropCommon] using ih others (name :: rest)
      · have cut : dropCommon ((name :: names).map .name) ((other :: others).map .name) =
            ((name :: names).map .name, (other :: others).map .name) :=
          dropCommon_of_head (by simp [same])
        rw [cut, follow_append, follow_ups, List.drop_left' (by simp), follow_names]

theorem relativeParts_eq (target base : List Part) :
    relativeParts target base =
      if (dropCommon (normalize target) (normalize base)).1.head? = some .root then
        (dropCommon (normalize target) (normalize base)).1
      else
        List.replicate (dropCommon (normalize target) (normalize base)).2.length .up ++
          (dropCommon (normalize target) (normalize base)).1 := by
  rw [relativeParts]
  split
  rename_i down back cut
  rw [cut]
  cases down with
  | nil => rfl
  | cons step rest => cases step <;> rfl

theorem head?_kept (descent : Descent) : descent.kept.reverse.head? ≠ some .root := by
  rw [kept_reverse]
  rcases Nat.mod_two_eq_zero_or_one descent.above with even | odd
  · cases names : descent.inside.reverse <;> simp [even]
  · simp [odd]

theorem head?_kept_ne {descent other : Descent} (differ : descent.above % 2 ≠ other.above % 2) :
    descent.kept.reverse.head? ≠ other.kept.reverse.head? := by
  rw [kept_reverse, kept_reverse]
  rcases Nat.mod_two_eq_zero_or_one descent.above with even | odd
  · have otherOdd : other.above % 2 = 1 := by omega
    cases names : descent.inside.reverse <;> simp [even, otherOdd]
  · have otherEven : other.above % 2 = 0 := by omega
    cases names : other.inside.reverse <;> simp [odd, otherEven]

section Relative

variable {target base common : List Part}

/-- Where the steps between two directories lead whose normal forms differ in names only. -/
theorem follow_relativeParts_names {names others : List String}
    (ofTarget : normalize target = common ++ names.reverse.map .name)
    (ofBase : normalize base = common ++ others.reverse.map .name) (rest : List String) :
    follow (others ++ rest) (relativeParts target base) = names ++ rest := by
  have cut : dropCommon (normalize target) (normalize base) =
      dropCommon (names.reverse.map .name) (others.reverse.map .name) := by
    rw [ofTarget, ofBase, dropCommon_append]
  have within : (dropCommon (normalize target) (normalize base)).1.head? ≠ some .root := by
    rw [cut]
    intro first
    have member := (dropCommon_suffix _ _).subset (List.mem_of_head? first)
    simp at member
  rw [relativeParts_eq, if_neg within, cut]
  simpa using follow_dropCommon_names names.reverse others.reverse rest

/-- Where they lead if the normal forms part at once: all steps to the base are taken back. -/
theorem follow_relativeParts_apart {down back : List Part} (ofTarget : normalize target = common ++ down)
    (ofBase : normalize base = common ++ back) (differ : down.head? = back.head? → down = [])
    (within : down.head? ≠ some .root) (place : List String) :
    follow place (relativeParts target base) = follow (place.drop back.length) down := by
  have cut : dropCommon (normalize target) (normalize base) = (down, back) := by
    rw [ofTarget, ofBase, dropCommon_append, dropCommon_of_head differ]
  rw [relativeParts_eq, cut, if_neg within, follow_append, follow_ups]

end Relative

theorem drop_length_kept (descent : Descent) (rest : List String) :
    (descent.inside ++ rest).drop descent.kept.reverse.length = rest.drop (descent.above % 2) := by
  rw [List.length_reverse, Descent.kept, List.length_append, List.length_map, List.length_replicate,
    List.drop_length_add_append]

/-- Where the steps lead between two paths that start alike. Each of the two counts its steps up by parity
    alone. -/
theorem follow_relativeParts_alike {target base : String} {begun : List Part}
    (ofTarget : normalize (parts target) = begun ++ (descent target).kept.reverse)
    (ofBase : normalize (parts base) = begun ++ (descent base).kept.reverse) (rest : List String) :
    follow ((descent base).inside ++ rest) (relativeParts (parts target) (parts base)) =
      (descent target).inside ++ rest.drop ((climbs target + climbs base) % 2) := by
  by_cases same : climbs target % 2 = climbs base % 2
  · have even : (climbs target + climbs base) % 2 = 0 := by omega
    have shared : (descent base).above % 2 = (descent target).above % 2 := same.symm
    rw [kept_reverse, ← List.append_assoc] at ofTarget ofBase
    rw [shared] at ofBase
    rw [follow_relativeParts_names ofTarget ofBase, even, List.drop_zero]
  · have odd : climbs base % 2 + climbs target % 2 = (climbs target + climbs base) % 2 := by omega
    have differ := head?_kept_ne same
    rw [follow_relativeParts_apart ofTarget ofBase (fun equal => absurd equal differ) (head?_kept _),
      drop_length_kept, follow_kept, List.drop_drop]
    exact congrArg (fun n => (descent target).inside ++ rest.drop n) odd

/-- Where the steps from the directory `base` to `target` lead from there, if both are read in `place`. -/
theorem follow_relativeParts (place : List String) (target base : String) :
    follow (locate place base) (relativeParts (parts target) (parts base)) =
      if isAbsolute target then locate place target
      else if isAbsolute base then (descent target).inside
      else (descent target).inside ++ place.drop (climbs base + (climbs target + climbs base) % 2) := by
  have ofTarget := normalize_parts target
  have ofBase := normalize_parts base
  by_cases absolute : isAbsolute target <;> by_cases baseAbsolute : isAbsolute base
  · rw [if_pos absolute] at ofTarget ⊢
    rw [if_pos baseAbsolute] at ofBase
    rw [locate_of_isAbsolute place baseAbsolute, locate_of_isAbsolute place absolute]
    simpa using follow_relativeParts_alike ofTarget ofBase []
  · rw [if_pos absolute] at ofTarget ⊢
    rw [if_neg baseAbsolute] at ofBase
    have differ : (normalize (parts target)).head? ≠ (normalize (parts base)).head? := by
      rw [ofTarget, ofBase]
      exact (head?_kept (descent base)).symm
    have cut := dropCommon_of_head fun equal => absurd equal differ
    rw [relativeParts, cut, ofTarget, locate_of_isAbsolute place absolute]
    simpa [move] using follow_kept (descent target) []
  · rw [if_neg absolute] at ofTarget
    rw [if_pos baseAbsolute] at ofBase
    have differ : (descent target).kept.reverse.head? ≠ (.root :: (descent base).kept.reverse).head? :=
      head?_kept (descent target)
    rw [if_neg absolute, if_pos baseAbsolute, locate_of_isAbsolute place baseAbsolute,
      @follow_relativeParts_apart _ _ [] _ _ ofTarget ofBase (fun equal => absurd equal differ) (head?_kept _)]
    have top : (descent base).inside.drop ([Part.root] ++ (descent base).kept.reverse).length = [] := by
      have longer : (descent base).inside.length ≤ (descent base).kept.length := by simp [Descent.kept]
      exact List.drop_eq_nil_of_le (by simp; omega)
    exact (congrArg (follow · _) top).trans (by rw [follow_kept, List.drop_nil, List.append_nil])
  · rw [if_neg absolute] at ofTarget
    rw [if_neg baseAbsolute] at ofBase
    rw [if_neg absolute, if_neg baseAbsolute, locate_of_relative place baseAbsolute,
      follow_relativeParts_alike ofTarget ofBase, List.drop_drop]

/-! ### Steps as text -/

/-- A step that is read back from its text. -/
structure Readable (step : Part) : Prop where
  whole : '/' ∉ step.text.toList
  read : partOf? step.text.toList = some step

theorem readable_up : Readable .up := ⟨by decide, rfl⟩

theorem readable_of_mem_steps {path : String} {step : Part} (member : step ∈ steps path) : Readable step := by
  obtain ⟨piece, inPath, read⟩ := List.mem_filterMap.mp member
  have whole := Text.notMem_of_mem_splitOn inPath
  have text : step = .up ∨ step.text.toList = piece := by
    unfold partOf? at read
    split at read
    · cases read
    · split at read
      · exact .inl (Option.some.inj read).symm
      · cases read
        exact .inr String.toList_ofList
  rcases text with rfl | rfl
  · exact readable_up
  · exact ⟨whole, read⟩

theorem Descent.name_mem_of_mem_inside {descent : Descent} {all : List Part} {name : String}
    (member : name ∈ (all.foldl move descent).inside) : name ∈ descent.inside ∨ .name name ∈ all := by
  induction all generalizing descent with
  | nil => exact .inl member
  | cons step rest ih =>
    rcases ih member with inside | later
    · cases step with
      | root => exact .inl inside
      | here => exact .inl inside
      | up =>
        refine .inl ?_
        cases names : descent.inside with
        | nil => simp [move, names] at inside
        | cons first others => simpa [move, names] using Or.inr inside
      | name text =>
        rcases List.mem_cons.mp inside with rfl | before
        · exact .inr List.mem_cons_self
        · exact .inl before
    · exact .inr (List.mem_cons_of_mem _ later)

theorem readable_of_mem_kept {path : String} {step : Part} (member : step ∈ (descent path).kept.reverse) :
    Readable step := by
  rw [kept_reverse, List.mem_append] at member
  rcases member with up | name
  · rw [List.eq_of_mem_replicate up]
    exact readable_up
  · obtain ⟨text, inside, rfl⟩ := List.mem_map.mp name
    have inPath := Descent.name_mem_of_mem_inside (List.mem_reverse.mp inside)
    exact readable_of_mem_steps (inPath.resolve_left List.not_mem_nil)

theorem not_readable_root : ¬ Readable .root := fun readable => readable.whole (by decide)

/-- The steps between two paths are steps that are read back, but for a root at their start. -/
theorem readable_relativeParts (target base : String) :
    ∃ rest, (relativeParts (parts target) (parts base) = rest ∨
        relativeParts (parts target) (parts base) = .root :: rest) ∧
      ∀ step ∈ rest, Readable step := by
  have suffix := dropCommon_suffix (normalize (parts target)) (normalize (parts base))
  rw [relativeParts_eq]
  generalize dropCommon (normalize (parts target)) (normalize (parts base)) = cut at suffix ⊢
  rw [normalize_parts target] at suffix
  have shape : cut.1 = .root :: (descent target).kept.reverse ∨ cut.1 <:+ (descent target).kept.reverse := by
    split at suffix
    · exact List.suffix_cons_iff.mp suffix
    · exact .inr suffix
  rcases shape with whole | within
  · rw [whole]
    exact ⟨(descent target).kept.reverse, .inr rfl, fun step member => readable_of_mem_kept member⟩
  · have readable (step : Part) (member : step ∈ cut.1) : Readable step :=
      readable_of_mem_kept (within.subset member)
    rw [if_neg fun first => not_readable_root (readable _ (List.mem_of_head? first))]
    refine ⟨_, .inl rfl, fun step member => ?_⟩
    rcases List.mem_append.mp member with up | later
    · rw [List.eq_of_mem_replicate up]
      exact readable_up
    · exact readable step later

theorem steps_text {all : List Part} (readable : ∀ step ∈ all, Readable step) :
    ((['/'].intercalate (all.map fun step => step.text.toList)).splitOn '/').filterMap partOf? = all := by
  cases all with
  | nil => rfl
  | cons first others =>
    have whole (piece : List Char) (member : piece ∈ (first :: others).map fun step => step.text.toList) :
        '/' ∉ piece := by
      obtain ⟨step, here, rfl⟩ := List.mem_map.mp member
      exact (readable step here).whole
    rw [List.splitOn_intercalate '/' whole (by simp), List.filterMap_map]
    exact (List.filterMap_congr fun step here => (readable step here).read).trans List.filterMap_some

theorem Readable.exists_first {step : Part} (readable : Readable step) :
    ∃ c rest, step.text.toList = c :: rest ∧ c ≠ '/' := by
  cases text : step.text.toList with
  | nil =>
    have read := readable.read
    rw [text] at read
    cases read
  | cons c rest =>
    have whole := readable.whole
    rw [text] at whole
    exact ⟨c, rest, rfl, fun slash => whole (slash ▸ List.mem_cons_self)⟩

theorem head?_text {all : List Part} (readable : ∀ step ∈ all, Readable step) :
    (['/'].intercalate (all.map fun step => step.text.toList)).head? ≠ some '/' := by
  cases all with
  | nil => simp
  | cons first others =>
    obtain ⟨c, rest, text, other⟩ := (readable first List.mem_cons_self).exists_first
    cases others <;> simp [text, List.intercalate_cons_cons, other]

/-- The text of these steps, read as a path, leads where they do. -/
theorem locate_text {rest all : List Part} (shape : all = rest ∨ all = .root :: rest)
    (readable : ∀ step ∈ rest, Readable step) (place : List String) :
    locate place (String.intercalate "/" (all.map Part.text)) = follow place all := by
  have written : (String.intercalate "/" (all.map Part.text)).toList =
      ['/'].intercalate (all.map fun step => step.text.toList) := by
    simp [String.toList_intercalate, Function.comp_def]
  rw [locate_eq, steps, isAbsolute, written]
  rcases shape with rfl | rfl
  · rw [steps_text readable, if_neg (by simpa using head?_text readable)]
  · -- The root is written as a slash, and what follows it after another one.
    have twice : ∃ later, ['/'].intercalate ((.root :: rest).map fun step => step.text.toList) = '/' :: later ∧
        (later.splitOn '/').filterMap partOf? = rest := by
      cases rest with
      | nil => exact ⟨[], rfl, rfl⟩
      | cons first others =>
        refine ⟨'/' :: ['/'].intercalate ((first :: others).map fun step => step.text.toList), ?_, ?_⟩
        · simp [List.intercalate_cons_cons, Part.text]
        · have apart := List.splitOn_append_cons_self (a := '/') []
            (['/'].intercalate ((first :: others).map fun step => step.text.toList))
          rw [List.nil_append] at apart
          rw [apart, List.filterMap_append, steps_text readable]
          rfl
    obtain ⟨later, text, same⟩ := twice
    have apart := List.splitOn_append_cons_self (a := '/') [] later
    rw [List.nil_append] at apart
    rw [text, if_pos (by simp), apart, List.filterMap_append, same]
    rfl

/-- The path from the directory `base` to `target`, as it is written. -/
def between (target base : String) : String :=
  String.intercalate "/" ((relativeParts (parts target) (parts base)).map Part.text)

/-- Where the written path leads. The directories above both paths are known by the parity of the steps up
    alone. -/
theorem locate_between (place : List String) (target base : String) :
    locate (locate place base) (between target base) =
      if isAbsolute target then locate place target
      else if isAbsolute base then (descent target).inside
      else (descent target).inside ++ place.drop (climbs base + (climbs target + climbs base) % 2) := by
  obtain ⟨rest, shape, readable⟩ := readable_relativeParts target base
  rw [between, locate_text shape readable, follow_relativeParts]

end DeviceConfig.FilePath
