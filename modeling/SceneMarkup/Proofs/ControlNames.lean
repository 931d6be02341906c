import SceneMarkup.Proofs.IdentifierNames
import SceneMarkup.Proofs.Keyed

namespace SceneMarkup

inductive ContextValue.Contains : ContextValue → ContextValue → Prop
  | self {v} : Contains v v
  | entry {entries : List (String × ContextValue)} {e w} :
    e ∈ entries → Contains e.2 w → Contains (.group entries) w

theorem ContextValue.keyed_of_contains {v w : ContextValue} {depth : Nat}
    (h : v.schema.Keyed depth) (hw : v.Contains w) : ∃ d, w.schema.Keyed d := by
  induction hw generalizing depth with
  | self => exact ⟨depth, h⟩
  | entry he _ ih =>
    obtain ⟨d, rfl⟩ := h.exists_succ
    exact ih ((keyed_group.mp h).2 _ he)

theorem ContextValue.nodup_keys_of_contains {v : ContextValue} {depth : Nat}
    {entries : List (String × ContextValue)} (h : v.schema.Keyed depth)
    (hgroup : v.Contains (.group entries)) : (entries.map Prod.fst).Nodup := by
  obtain ⟨d, hd⟩ := keyed_of_contains h hgroup
  obtain ⟨d, rfl⟩ := hd.exists_succ
  exact (keyed_group.mp hd).1

namespace Setting

variable (s : Setting)

theorem map_title_plainGroups : s.plainGroups.map (·.title) =
    "Model" :: (s.survey.materials.zipIdx.map fun (usage, i) => materialTitle i usage.material) ++
      Rig.catalog.map (·.title) := by
  simp only [plainGroups, List.map_cons, List.map_append, List.map_map]
  rfl

theorem map_title_controlGroups : s.controlGroups.map (·.title) =
    Naming.uniqueAll [] (s.plainGroups.map (·.title)) := by
  rw [controlGroups, List.map_map]
  exact List.map_snd_zip (by simp [Naming.length_uniqueAll])

theorem numbered_titles : List.Forall₂ Naming.Numbered
    ("Model" :: (s.survey.materials.zipIdx.map fun (usage, i) =>
      if usage.material.name = "" then "Material " ++ toString i else usage.material.name) ++
        Rig.catalog.map (·.title))
    (s.controlGroups.map (·.title)) := by
  have hall := Naming.numbered_uniqueAll [] (s.plainGroups.map (·.title))
  rw [← map_title_controlGroups, map_title_plainGroups] at hall
  simpa [materialTitle] using hall

theorem nodup_titles : (s.controlGroups.map (·.title)).Nodup := by
  rw [map_title_controlGroups]
  exact Naming.nodup_uniqueAll _ _

def materialBinding (ordinal : Nat) : String := "material" ++ toString ordinal

theorem materialBinding_injective : Function.Injective materialBinding :=
  Naming.suffixed_injective "material"

theorem take_materialBinding (i : Nat) :
    (materialBinding i).toList.take 8 = "material".toList := by
  rw [materialBinding, String.toList_append]
  exact List.take_left' rfl

theorem map_binding_plainGroups : s.plainGroups.map (·.binding) =
    "model" :: (s.survey.materials.zipIdx.map fun (_, i) => materialBinding i) ++
      Rig.catalog.map (·.key) := by
  simp only [plainGroups, List.map_cons, List.map_append, List.map_map]
  rfl

theorem map_binding_controlGroups :
    s.controlGroups.map (·.binding) = s.plainGroups.map (·.binding) := by
  have h := congrArg (List.map ControlGroup.binding) s.map_untitled_controlGroups
  rwa [List.map_map, List.map_map] at h

theorem nodup_bindings : (s.controlGroups.map (·.binding)).Nodup := by
  have hfixed : ∀ binding ∈ "model" :: Rig.catalog.map (·.key),
      binding.toList.take 8 ≠ "material".toList := by decide
  have hmaterial : ∀ binding ∈ s.survey.materials.zipIdx.map (fun (_, i) => materialBinding i),
      binding.toList.take 8 = "material".toList := by
    rw [List.forall_mem_map]
    exact fun e _ => take_materialBinding e.2
  rw [map_binding_controlGroups, map_binding_plainGroups, List.cons_append, List.nodup_cons,
    List.nodup_append, List.mem_append]
  refine ⟨?_, nodup_map_ordinal materialBinding_injective _, by decide, ?_⟩
  · rintro (h | h)
    · exact hfixed "model" List.mem_cons_self (hmaterial "model" h)
    · exact absurd h (by decide)
  · rintro binding h _ hrig rfl
    exact hfixed binding (List.mem_cons_of_mem _ hrig) (hmaterial binding h)

theorem isBareIdentifier_materialBinding (i : Nat) :
    Naming.isBareIdentifier (materialBinding i) = true := by
  have hdigits := Naming.isDigit_toDigits i
  have hname : (materialBinding i).toList = 'm' :: ("aterial".toList ++ Nat.toDigits 10 i) := by
    rw [materialBinding, String.toList_append]
    simp
  obtain ⟨c, hc⟩ := List.exists_mem_of_ne_nil _ (Nat.toDigits_ne_nil (b := 10) (n := i))
  refine Naming.isBareIdentifier_of_alphanum hname rfl ?_ ⟨c, by simp [hname, hc], ?_⟩
  · rw [List.forall_mem_append]
    exact ⟨List.all_eq_true.mp rfl, fun c hc => by simp [Char.isAlphanum, hdigits c hc]⟩
  · exact Naming.isLower_eq_false_of_isDigit (hdigits c hc)

theorem isBareIdentifier_binding {g : ControlGroup} (h : g ∈ s.controlGroups) :
    Naming.isBareIdentifier g.binding = true := by
  have hfixed : ∀ binding ∈ "model" :: Rig.catalog.map (·.key),
      Naming.isBareIdentifier binding = true := by decide +kernel
  have hmem : g.binding ∈ s.controlGroups.map (·.binding) := List.mem_map_of_mem h
  rw [map_binding_controlGroups, map_binding_plainGroups, List.cons_append, List.mem_cons,
    List.mem_append] at hmem
  rcases hmem with hmodel | hmaterial | hrig
  · exact hmodel ▸ hfixed "model" List.mem_cons_self
  · obtain ⟨⟨usage, i⟩, -, he⟩ := List.mem_map.mp hmaterial
    rw [← he]
    exact isBareIdentifier_materialBinding i
  · exact hfixed _ (List.mem_cons_of_mem _ hrig)

end Setting

/-- The groups of controls of a good scene are apart by their titles, by their bindings and by their
paths. A title is that of the model, of a material or of a rig, with a number behind it if need be;
a binding is a bare identifier. In the context no group, at any depth, has a key twice. -/
theorem controls_distinct {scene : Scene} {options : Options} {saved : Option Json} {p : Plan}
    (h : plan scene options saved = .ok p) :
    let groups := p.controls.groups
    (groups.map (·.title)).Nodup ∧
    List.Forall₂ Naming.Numbered
      ("Model" :: (p.survey.materials.zipIdx.map fun (usage, i) =>
        if usage.material.name = "" then "Material " ++ toString i else usage.material.name) ++
          Rig.catalog.map (·.title))
      (groups.map (·.title)) ∧
    (groups.map (·.binding)).Nodup ∧
    (∀ g ∈ groups, Naming.isBareIdentifier g.binding = true) ∧
    (groups.map (·.path)).Nodup ∧
    ∀ entries, p.controls.defaults.Contains (.group entries) → (entries.map Prod.fst).Nodup := by
  obtain ⟨tree, htree, rfl⟩ := plan_eq_ok.mp h
  have hkeyed : (Plan.of scene options saved tree).controls.defaults.schema.Keyed 4 := by
    rw [Plan.schema_defaults_of]
    exact Setting.keyed_exactDefaults _ Setting.nodup_map_snd_transformKeys _ _ 0
  simp only [Plan.groups_of]
  refine ⟨Setting.nodup_titles _, Setting.numbered_titles _, Setting.nodup_bindings _,
    fun g hg => Setting.isBareIdentifier_binding _ hg, ?_,
    fun entries => ContextValue.nodup_keys_of_contains hkeyed⟩
  rw [Setting.map_path_controlGroups]
  exact Setting.nodup_paths _

def Scene.titled : Scene where
  nodes := #[
    { type := "Scene", children := [1, 2, 3, 4, 5, 6] },
    { type := "Points", name := "Dust", material := some 1 },
    { type := "Mesh", name := "Sky", geometry := some 0, material := some 3 },
    { type := "Mesh", name := "Wall", geometry := some 0, material := some 0 },
    { type := "Mesh", name := "Floor", geometry := some 0, material := some 2 },
    { type := "Mesh", name := "Roof", geometry := some 0, material := some 3 },
    { type := "SkinnedMesh", name := "Door", geometry := some 0, material := some 4 }]
  materials := #[{}, { name := "Dust" }, { name := "Material 1" },
    { name := "Stars", clearcoat := some 1 }, { name := "Stars1" }]
  geometries := #[{ key := "part" }]

theorem Scene.titled_validate : ∃ tree, Scene.titled.validate = .ok tree :=
  exists_tree_of_isOk (by decide +kernel)

theorem titled_controls_distinct : ∃ p, plan Scene.titled {} none = .ok p ∧
    (p.controls.groups.map (·.title)).Nodup ∧ (p.controls.groups.map (·.binding)).Nodup := by
  obtain ⟨tree, htree⟩ := Scene.titled_validate
  have hp : plan Scene.titled {} none = .ok (.of Scene.titled {} none tree) :=
    plan_eq_ok.mpr ⟨tree, htree, rfl⟩
  obtain ⟨htitles, -, hbindings, -⟩ := controls_distinct hp
  exact ⟨_, hp, htitles, hbindings⟩

example : Naming.uniqueAll [] ["Model", "Stars", "Material 1", "Material 1", "Stars1", "Stars"] =
    ["Model", "Stars", "Material 1", "Material 11", "Stars1", "Stars2"] := by
  decide +kernel

end SceneMarkup
