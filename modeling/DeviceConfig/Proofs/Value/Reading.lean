import DeviceConfig.Proofs.Except
import DeviceConfig.Proofs.Value.Entries
import DeviceConfig.Proofs.Value.Parts
import DeviceConfig.Yaml.Decode

/-!
Documents that are read repeat no key in a mapping (`Node.keysDiffer_of_ofText`): keys that become the same
text set the same entry.
-/

namespace DeviceConfig

namespace Value

theorem keysDiffer_set {entries : Entries Value} (differ : (map entries).keysDiffer = true) (key : String)
    {value : Value} (own : value.keysDiffer = true) : (map (Entries.set key value entries)).keysDiffer = true := by
  obtain ⟨distinct, each⟩ := keysDiffer_map.mp differ
  have kept := distinct.set key value
  refine keysDiffer_map.mpr ⟨kept, fun entry member => ?_⟩
  obtain ⟨other, held⟩ := entry
  have present := Entries.get?_of_mem kept member
  rw [Entries.get?_set] at present
  split at present
  · cases present
    exact own
  · exact each _ (Entries.mem_of_get? present)

theorem ofYaml_tagged {tag : String} {node : Yaml} {value : Value}
    (read : ofYaml (.tagged tag node) = .ok value) : ∃ code, value = .lambda code := by
  cases node with
  | string code =>
    rw [ofYaml] at read
    split at read
    · cases read
    · cases read
      exact ⟨code, rfl⟩
  | _ =>
    simp only [ofYaml] at read
    split at read
    · cases read
    · cases read

mutual

theorem keysDiffer_of_ofYaml : (yaml : Yaml) → ∀ {value : Value}, ofYaml yaml = .ok value → value.keysDiffer = true
  | .null, _, read => by cases read; rfl
  | .bool _, _, read => by cases read; rfl
  | .int n, _, read => by
    rw [ofYaml] at read
    cases read
    cases Decimal.word? n <;> rfl
  | .float _, _, read => by cases read; rfl
  | .string _, _, read => by cases read; rfl
  | .sequence items, _, read => by
    obtain ⟨values, inside, rfl⟩ := map_eq_ok_iff.mp read
    exact keysDiffer_list.mpr (keysDiffer_of_ofYamlItems items inside)
  | .mapping entries, _, read => by
    obtain ⟨values, inside, rfl⟩ := map_eq_ok_iff.mp read
    exact keysDiffer_of_ofYamlEntries entries rfl inside
  | .tagged tag node, _, read => by
    obtain ⟨code, rfl⟩ := ofYaml_tagged read
    rfl

theorem keysDiffer_of_ofYamlItems : (items : List Yaml) → ∀ {values : List Value},
    ofYamlItems items = .ok values → ∀ value ∈ values, value.keysDiffer = true
  | [], _, read => by
    cases read
    exact fun _ member => nomatch member
  | item :: rest, _, read => by
    obtain ⟨first, head, tail⟩ := bind_eq_ok_iff.mp read
    obtain ⟨others, more, whole⟩ := bind_eq_ok_iff.mp tail
    cases whole
    intro value member
    rcases List.mem_cons.mp member with rfl | inRest
    · exact keysDiffer_of_ofYaml item head
    · exact keysDiffer_of_ofYamlItems rest more value inRest

theorem keysDiffer_of_ofYamlEntries : (entries : List (Yaml × Yaml)) → ∀ {before values : Entries Value},
    (map before).keysDiffer = true → ofYamlEntries before entries = .ok values →
    (map values).keysDiffer = true
  | [], _, _, differ, read => by
    cases read
    exact differ
  | (key, value) :: rest, _, _, differ, read => by
    obtain ⟨name, -, tail⟩ := bind_eq_ok_iff.mp read
    obtain ⟨first, own, more⟩ := bind_eq_ok_iff.mp tail
    exact keysDiffer_of_ofYamlEntries rest (keysDiffer_set differ name (keysDiffer_of_ofYaml value own)) more

end

end Value

theorem Node.keysDiffer_of_ofText {text : String} {document : Node} (read : Node.ofText text = .ok document) :
    document.value.keysDiffer = true := by
  rw [ofText] at read
  split at read
  · cases read
  · obtain ⟨value, whole, rfl⟩ := map_eq_ok_iff.mp read
    exact Value.keysDiffer_of_ofYaml _ whole

end DeviceConfig
