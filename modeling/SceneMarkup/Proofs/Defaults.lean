import SceneMarkup.Proofs.Bindings
import SceneMarkup.Proofs.Overlay
import SceneMarkup.Unit

namespace SceneMarkup

theorem Plan.within_text {p : Plan} {block : String} (h : block ∈ p.blocks) :
    Text.Within block p.text :=
  Text.within_intercalate "\n" h

theorem Rig.nodup_keys : (["model", "materials", "transforms"] ++ Rig.catalog.map (·.key)).Nodup := by
  decide

namespace Setting

variable (s : Setting) (root : Node) (c : Composition)

theorem path?_model : (s.exactDefaults root c).path? modelPath = some (modelDefaults root) := rfl

theorem keys_exactDefaults : (s.exactDefaults root c).entries.map Prod.fst =
    ["model", "materials", "transforms"] ++ Rig.catalog.map (·.key) := rfl

theorem path?_rig {rig : Rig} (h : rig ∈ Rig.catalog) :
    (s.exactDefaults root c).path? [rig.key] = some (.group rig.fields) := by
  have hnodup : ((s.exactDefaults root c).entries.map Prod.fst).Nodup := by
    rw [keys_exactDefaults]
    exact Rig.nodup_keys
  have hmem : (rig.key, .group rig.fields) ∈ (s.exactDefaults root c).entries :=
    List.mem_append_right _ (List.mem_map_of_mem h)
  rw [ContextValue.path?, (ContextValue.get?_eq_some_iff hnodup).mpr hmem]
  rfl

theorem materialPath_injective : Function.Injective materialPath := fun _ _ h =>
  Naming.toString_injective (List.cons.inj (List.cons.inj h).2).1

theorem map_ordinal (f : Nat → α) (uses : List MaterialUse) :
    (uses.zipIdx.map fun (_, i) => f i) = (List.range uses.length).map f := by
  rw [List.range_eq_range', ← List.zipIdx_map_snd, List.map_map]
  rfl

theorem nodup_map_ordinal {f : Nat → α} (hf : Function.Injective f) (uses : List MaterialUse) :
    (uses.zipIdx.map fun (_, i) => f i).Nodup := by
  rw [map_ordinal]
  exact List.Nodup.map hf List.nodup_range

theorem nodup_keys_materials : ((s.survey.materials.zipIdx.map fun (usage, i) =>
    (toString i, materialDefaults usage.material)).map Prod.fst).Nodup := by
  rw [List.map_map]
  exact nodup_map_ordinal Naming.toString_injective s.survey.materials

theorem path?_material {usage : MaterialUse} {i : Nat}
    (h : (usage, i) ∈ s.survey.materials.zipIdx) :
    (s.exactDefaults root c).path? (materialPath i) = some (materialDefaults usage.material) := by
  have hmem : (toString i, materialDefaults usage.material) ∈ s.survey.materials.zipIdx.map
      fun (usage, i) => (toString i, materialDefaults usage.material) := List.mem_map_of_mem h
  change (Json.member? (toString i) (s.survey.materials.zipIdx.map fun (usage, i) =>
    (toString i, materialDefaults usage.material))).bind _ = _
  rw [(Json.member?_eq_some_iff s.nodup_keys_materials).mpr hmem]
  rfl

end Setting

namespace Plan

variable (scene : Scene) (options : Options) (saved : Option Json) (tree : SceneTree)

theorem defaults_of_none : (Plan.of scene options none tree).controls.defaults =
    ((Setting.of scene options).exactDefaults tree.node (.of (.of scene options) tree)).round
      options.canonical :=
  rfl

theorem defaults_of_some (j : Json) : (Plan.of scene options (some j) tree).controls.defaults =
    ((((Setting.of scene options).exactDefaults tree.node (.of (.of scene options) tree)).round
      options.canonical).overlay j).round options.canonical :=
  rfl

theorem schema_defaults_of : (Plan.of scene options saved tree).controls.defaults.schema =
    ((Setting.of scene options).exactDefaults tree.node (.of (.of scene options) tree)).schema := by
  cases saved with
  | none => rw [defaults_of_none, ContextValue.schema_round]
  | some j =>
    rw [defaults_of_some, ContextValue.schema_round, ContextValue.schema_overlay,
      ContextValue.schema_round]

end Plan

theorem plan_eq_ok {scene : Scene} {options : Options} {saved : Option Json} {p : Plan} :
    plan scene options saved = .ok p ↔
      ∃ tree, scene.validate = .ok tree ∧ Plan.of scene options saved tree = p := by
  rw [plan]
  cases scene.validate with
  | error e => simp [Except.map]
  | ok tree => simp [Except.map]

theorem generate_eq_ok {scene : Scene} {options : Options} {saved : Option Json} {u : SourceUnit} :
    generate scene options saved = .ok u ↔
      ∃ tree, scene.validate = .ok tree ∧ (Plan.of scene options saved tree).unit = u := by
  rw [generate, plan]
  cases scene.validate with
  | error e => simp [Except.map]
  | ok tree => simp [Except.map]

end SceneMarkup
