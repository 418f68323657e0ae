import DeviceConfig.Core.Build
import DeviceConfig.Proofs.Build.FilePath
import DeviceConfig.Proofs.Generation.Steps

/-!
The lines that include files of the user. Each file gets its line, and `addIncludes_reaches_iff` says for which
files the path in it leads from the program's directory to the file.
-/

namespace DeviceConfig

open FilePath

/-- The path leads from the directory of the program to the file as the configuration means it. The two folders are
    read in `directory`, given by the names that lead to it from the root, nearest first. -/
def BuildFolders.Reaches (paths : BuildFolders) (directory : List String) (file path : String) : Prop :=
  locate (locate directory paths.mainFile).tail path = locate (locate directory paths.configDirectory) file

/-- An absolute file, or a file whose path climbs as high as that of the build folder or one directory higher.
    Where a path climbs to the root, it does not matter how often. -/
def BuildFolders.ClimbsAlike (paths : BuildFolders) (directory : List String) (file : String) : Prop :=
  isAbsolute (paths.resolve file) ∨
    if isAbsolute paths.buildDirectory then directory.length ≤ climbs (paths.resolve file)
    else
      climbs (paths.resolve file) = climbs paths.buildDirectory ∨
        climbs (paths.resolve file) = climbs paths.buildDirectory + 1 ∨
        directory.length ≤ climbs (paths.resolve file) ∧
          directory.length ≤ climbs paths.buildDirectory +
            (climbs (paths.resolve file) + climbs paths.buildDirectory) % 2

namespace BuildFolders

variable (paths : BuildFolders)

/-- The directory of the program. -/
def programDirectory : String := join paths.buildDirectory "src"

theorem programDirectory_ne_empty : paths.programDirectory ≠ "" := by
  intro empty
  have noSteps := congrArg steps empty
  rw [programDirectory, steps_join (by decide)] at noSteps
  exact absurd noSteps (List.append_ne_nil_of_right_ne_nil _ (by decide))

theorem locate_mainFile (directory : List String) :
    locate directory paths.mainFile = "main.cpp" :: locate directory paths.programDirectory := by
  rw [mainFile, locate_join]
  rfl

theorem isAbsolute_programDirectory : isAbsolute paths.programDirectory = isAbsolute paths.buildDirectory := by
  rw [programDirectory, isAbsolute_join]
  rfl

theorem climbs_programDirectory : climbs paths.programDirectory = climbs paths.buildDirectory := by
  rw [climbs, climbs, descent, descent, programDirectory, steps_join (by decide), Descent.ofSteps,
    List.foldl_append]
  rfl

theorem parentParts_mainFile : (parentParts (parts paths.mainFile)).getD [] = parts paths.programDirectory := by
  have split : parts paths.mainFile = parts paths.programDirectory ++ [.name "main.cpp"] := by
    rw [mainFile, ← programDirectory, parts_eq, parts_eq, steps_join (by decide),
      start_join (by decide) paths.programDirectory_ne_empty, ← List.append_assoc]
    rfl
  rw [split, parentParts, List.getLast?_concat, List.dropLast_concat]
  rfl

theorem includeLine_resolve (file : String) :
    includeLine (paths.resolve file) paths.mainFile =
      "#include \"" ++ between (paths.resolve file) paths.programDirectory ++ "\"" := by
  rw [includeLine, parentParts_mainFile]
  rfl

theorem drop_eq_drop_iff_climbs (place : List String) (a b : Nat) :
    place.drop (b + (a + b) % 2) = place.drop a ↔
      a = b ∨ a = b + 1 ∨ place.length ≤ a ∧ place.length ≤ b + (a + b) % 2 := by
  rw [List.drop_eq_drop_iff]
  omega

theorem reaches_between_iff (directory : List String) (file : String) :
    paths.Reaches directory file (between (paths.resolve file) paths.programDirectory) ↔
      paths.ClimbsAlike directory file := by
  rw [Reaches, ClimbsAlike, locate_mainFile, List.tail_cons, ← locate_join directory paths.configDirectory,
    locate_between, ← resolve, isAbsolute_programDirectory, climbs_programDirectory]
  by_cases absolute : isAbsolute (paths.resolve file)
  · simp [absolute]
  · rw [if_neg absolute, or_iff_right absolute, locate_of_relative directory absolute]
    split
    · rw [List.self_eq_append_right, List.drop_eq_nil_iff]
    · rw [List.append_cancel_left_eq, drop_eq_drop_iff_climbs]

end BuildFolders

theorem mem_addInclude (metadata : Metadata) (directive : String) :
    directive ∈ (metadata.addInclude directive).includes := by
  unfold Metadata.addInclude
  split
  · rename_i known
    exact List.contains_iff_mem.mp known
  · exact List.mem_append_right _ List.mem_cons_self

theorem subset_addInclude (metadata : Metadata) (directive : String) :
    metadata.includes ⊆ (metadata.addInclude directive).includes := by
  unfold Metadata.addInclude
  split
  · exact List.Subset.refl _
  · exact List.subset_append_left _ _

namespace Core

/-- A configuration in the current directory, built below it. -/
def sampleFolders : BuildFolders := ⟨".", "./dev"⟩

/-- Each file gets its line, and no line is lost. -/
theorem apply_addIncludes (paths : BuildFolders) (files : List String) (draft : Draft) :
    ∃ metadata, (addIncludes paths files).apply draft = (.ok (), { draft with metadata }) ∧
      draft.metadata.includes ⊆ metadata.includes ∧
      ∀ file ∈ files, includeLine (paths.resolve file) paths.mainFile ∈ metadata.includes := by
  induction files generalizing draft with
  | nil => exact ⟨draft.metadata, rfl, List.Subset.refl _, by simp⟩
  | cons file rest ih =>
    obtain ⟨metadata, run, kept, lines⟩ := ih
      { draft with metadata := draft.metadata.addInclude (includeLine (paths.resolve file) paths.mainFile) }
    refine ⟨metadata, run, List.Subset.trans (subset_addInclude _ _) kept, fun other member => ?_⟩
    rcases List.mem_cons.mp member with rfl | later
    · exact kept (mem_addInclude _ _)
    · exact lines other later

theorem addIncludes_reaches_iff (files : List String) (draft : Draft) :
    ∃ next, (addIncludes draft.paths files).apply draft = (.ok (), next) ∧
      ∀ file ∈ files, ∃ path, "#include \"" ++ path ++ "\"" ∈ next.metadata.includes ∧
        ∀ directory, draft.paths.Reaches directory file path ↔ draft.paths.ClimbsAlike directory file := by
  obtain ⟨metadata, run, -, lines⟩ := apply_addIncludes draft.paths files draft
  refine ⟨_, run, fun file member => ⟨_, ?_, fun _ => draft.paths.reaches_between_iff _ file⟩⟩
  rw [← draft.paths.includeLine_resolve]
  exact lines file member

/-- A file beside the configuration is reached from the program that is built there. -/
theorem addIncludes_reaches_relay :
    ∃ next, (addIncludes sampleFolders ["lib/relay.h"]).apply (Draft.start sampleFolders) = (.ok (), next) ∧
      ∃ path, "#include \"" ++ path ++ "\"" ∈ next.metadata.includes ∧
        sampleFolders.Reaches ["project", "home"] "lib/relay.h" path := by
  obtain ⟨next, run, lines⟩ := addIncludes_reaches_iff ["lib/relay.h"] (Draft.start sampleFolders)
  obtain ⟨path, line, reaches⟩ := lines "lib/relay.h" (List.mem_singleton_self _)
  exact ⟨next, run, path, line, (reaches ["project", "home"]).mpr (.inr (by decide))⟩

/-- A file two directories above the configuration is not: the two steps up take each other back. -/
theorem addIncludes_misses_relay :
    ((addIncludes sampleFolders ["../../lib/relay.h"]).apply (Draft.start sampleFolders)).2.metadata.includes =
        ["#include \"../../lib/relay.h\""] ∧
      ¬ sampleFolders.Reaches ["project", "user", "home"] "../../lib/relay.h" "../../lib/relay.h" := by
  unfold BuildFolders.Reaches
  decide

end Core

end DeviceConfig
