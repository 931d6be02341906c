import SceneMarkup.Proofs.Defaults

namespace SceneMarkup

namespace Kind

def isNumeric : Kind → Bool
  | number | vector _ => true
  | bool | text => false

def isAngular : Kind → Bool
  | vector angular => angular
  | _ => false

def goesWith (k : Kind) (range : Option ControlRange) : Bool :=
  range.isSome == k.isNumeric && range.any (·.angular) == k.isAngular

end Kind

def Schema.isEdited (s : Schema) (kind : RigKind) (names : List String) : Bool :=
  names.all fun name =>
    match s.get? name with
    | some (.leaf k) => k.goesWith (ControlRange.of? kind name)
    | _ => false

theorem Schema.isEdited_iff {s : Schema} {kind : RigKind} {names : List String} :
    s.isEdited kind names ↔ ∀ f ∈ controlFields kind names,
      ∃ k, s.get? f.name = some (.leaf k) ∧ k.goesWith f.range := by
  simp only [isEdited, List.all_eq_true, controlFields, List.forall_mem_map]
  refine forall₂_congr fun name _ => ?_
  split
  · next k hk => simp [hk]
  · next hk => simpa using fun k h => absurd h (hk k)

theorem Schema.isEdited_of_subset {s : Schema} {kind : RigKind} {names few : List String}
    (h : s.isEdited kind names) (hsub : few ⊆ names) : s.isEdited kind few :=
  List.all_eq_true.mpr fun name hn => List.all_eq_true.mp h name (hsub hn)

namespace Rig

theorem nodup_fields : ∀ rig ∈ catalog, (rig.fields.map Prod.fst).Nodup := by decide

theorem kind_ne_material : ∀ rig ∈ catalog, rig.kind ≠ .material := by decide

theorem isEdited : ∀ rig ∈ catalog,
    (ContextValue.group rig.fields).schema.isEdited rig.kind (rig.fields.map Prod.fst) := by
  decide

end Rig

def ControlGroup.untitled (g : ControlGroup) : ControlGroup := { g with title := "" }

namespace Setting

theorem schema_scaleValue (v : Vec3) : (scaleValue v).schema = .leaf .number ∨
    (scaleValue v).schema = .leaf (.vector false) := by
  rw [scaleValue]
  split
  · exact .inl rfl
  · exact .inr rfl

theorem isEdited_modelDefaults (root : Node) :
    (modelDefaults root).schema.isEdited .model ["position", "rotation", "scale"] := by
  rw [modelDefaults, ContextValue.schema_group]
  rcases schema_scaleValue root.scale with h | h <;> simp only [List.map_cons, h] <;> rfl

theorem materialFields_of (m : Material) : ∃ entries, materialDefaults m = .group entries ∧
    materialFields (.of m) = entries.map Prod.fst := by
  refine ⟨_, rfl, ?_⟩
  cases hc : m.clearcoat <;> cases hr : m.clearcoatRoughness <;>
    simp [materialFields, MaterialCaps.of, optionalEntry, hc, hr]

theorem isEdited_materialDefaults (m : Material) :
    (materialDefaults m).schema.isEdited .material (materialFields (.of m)) := by
  rw [materialDefaults, ContextValue.schema_group, materialFields, MaterialCaps.of]
  cases m.clearcoat <;> cases m.clearcoatRoughness <;> rfl

theorem nodup_materialFields (caps : MaterialCaps) : (materialFields caps).Nodup := by
  obtain ⟨clearcoat, roughness⟩ := caps
  cases clearcoat <;> cases roughness <;> decide

variable (s : Setting) (root : Node) (c : Composition)

theorem map_untitled_controlGroups :
    s.controlGroups.map ControlGroup.untitled = s.plainGroups.map ControlGroup.untitled := by
  have hlength : s.plainGroups.length ≤
      (Naming.uniqueAll [] (s.plainGroups.map (·.title))).length := by
    simp [Naming.length_uniqueAll]
  rw [controlGroups, List.map_map]
  conv_rhs => rw [← List.map_fst_zip hlength, List.map_map]
  rfl

end Setting

/-- What a schema has for a group of controls: a group at its path, with a leaf for each field. The
fields of a material are all that is there. -/
def ControlGroup.Fits (g : ControlGroup) (s : Schema) : Prop :=
  ∃ entries, s.path? g.path = some (.group entries) ∧
    (∀ f ∈ g.fields, ∃ k, Json.member? f.name entries = some (.leaf k) ∧ k.goesWith f.range) ∧
    (g.kind = .material → g.fields.map (·.name) = entries.map Prod.fst)

theorem ControlGroup.Fits.of_path? {g : ControlGroup} {v : ContextValue} {names : List String}
    {entries : List (String × ContextValue)} (hpath : v.path? g.path = some (.group entries))
    (hfields : g.fields = controlFields g.kind names)
    (hedited : (ContextValue.group entries).schema.isEdited g.kind names)
    (hmaterial : g.kind = .material → names = entries.map Prod.fst) : g.Fits v.schema := by
  rw [ContextValue.schema_group] at hedited
  refine ⟨entries.map fun e => (e.1, e.2.schema), ?_, ?_, fun hk => ?_⟩
  · rw [ContextValue.path?_schema, hpath, Option.map_some, ContextValue.schema_group]
  · rw [hfields]
    exact Schema.isEdited_iff.mp hedited
  · rw [hfields, controlFields, List.map_map, hmaterial hk]
    simp [Function.comp_def]

namespace Setting

variable (s : Setting) (root : Node) (c : Composition)

theorem mem_plainGroups {g : ControlGroup} : g ∈ s.plainGroups ↔ g = modelGroup ∨
    (∃ usage i, (usage, i) ∈ s.survey.materials.zipIdx ∧ g = materialGroup usage i) ∨
      ∃ rig ∈ Rig.catalog, g = s.rigGroup rig := by
  simp only [plainGroups, List.cons_append, List.mem_cons, List.mem_append, List.mem_map,
    Prod.exists, eq_comm]

theorem fits_of_mem_plainGroups {g : ControlGroup} (h : g ∈ s.plainGroups) :
    g.Fits (s.exactDefaults root c).schema := by
  rcases s.mem_plainGroups.mp h with rfl | ⟨usage, i, hu, rfl⟩ | ⟨rig, hr, rfl⟩
  · exact .of_path? (s.path?_model root c) rfl (isEdited_modelDefaults root) nofun
  · obtain ⟨entries, he, hnames⟩ := materialFields_of usage.material
    refine .of_path? (he ▸ s.path?_material root c hu) rfl ?_ fun _ => hnames
    exact he ▸ isEdited_materialDefaults usage.material
  · refine .of_path? (s.path?_rig root c hr) rfl ?_ fun hk => absurd hk (Rig.kind_ne_material rig hr)
    exact Schema.isEdited_of_subset (Rig.isEdited rig hr) (List.filter_subset_self _)

@[simp] theorem map_name_controlFields (kind : RigKind) (names : List String) :
    (controlFields kind names).map (·.name) = names := by
  simp [controlFields, Function.comp_def]

theorem nodup_fieldNames {g : ControlGroup} (h : g ∈ s.plainGroups) :
    (g.fields.map (·.name)).Nodup := by
  rcases s.mem_plainGroups.mp h with rfl | ⟨usage, i, -, rfl⟩ | ⟨rig, hr, rfl⟩
  · decide
  · rw [materialGroup, map_name_controlFields]
    exact nodup_materialFields _
  · rw [rigGroup, map_name_controlFields]
    exact (Rig.nodup_fields rig hr).filter _

theorem map_path_plainGroups : s.plainGroups.map (·.path) =
    modelPath :: (s.survey.materials.zipIdx.map fun (_, i) => materialPath i) ++
      Rig.catalog.map fun rig => [rig.key] := by
  simp only [plainGroups, List.map_cons, List.map_append, List.map_map]
  rfl

theorem nodup_paths : (s.plainGroups.map (·.path)).Nodup := by
  have hmaterial : ∀ path ∈ s.survey.materials.zipIdx.map (fun (_, i) => materialPath i),
      path.length = 2 := by
    rw [List.forall_mem_map]
    exact fun _ _ => rfl
  have hrig : ∀ path ∈ modelPath :: Rig.catalog.map fun rig => [rig.key], path.length = 1 := by
    decide
  rw [map_path_plainGroups, List.cons_append, List.nodup_cons, List.nodup_append]
  refine ⟨fun h => ?_, ?_, by decide, fun path hp path' hp' heq => ?_⟩
  · rcases List.mem_append.mp h with h | h
    · exact absurd (hmaterial _ h) (by decide)
    · exact absurd h (by decide)
  · exact nodup_map_ordinal materialPath_injective s.survey.materials
  · have hlength := hmaterial path hp
    rw [heq, hrig path' (List.mem_cons_of_mem _ hp')] at hlength
    exact absurd hlength (by decide)

theorem exists_mem_controlGroups {g : ControlGroup} (h : g ∈ s.plainGroups) :
    ∃ g' ∈ s.controlGroups, g'.untitled = g.untitled := by
  have hmem := List.mem_map_of_mem (f := ControlGroup.untitled) h
  rwa [← map_untitled_controlGroups, List.mem_map] at hmem

theorem forall_mem_controlGroups {P : ControlGroup → Prop}
    (hP : ∀ g : ControlGroup, P g.untitled ↔ P g) :
    (∀ g ∈ s.controlGroups, P g) ↔ ∀ g ∈ s.plainGroups, P g := by
  have hmap : ∀ groups : List ControlGroup,
      (∀ g ∈ groups, P g) ↔ ∀ g ∈ groups.map ControlGroup.untitled, P g := fun groups => by
    simp only [List.forall_mem_map, hP]
  rw [hmap, map_untitled_controlGroups, ← hmap]

theorem map_path_controlGroups : s.controlGroups.map (·.path) = s.plainGroups.map (·.path) := by
  have h := congrArg (List.map ControlGroup.path) s.map_untitled_controlGroups
  rwa [List.map_map, List.map_map] at h

end Setting

namespace ControlSet

variable {c : ControlSet}

theorem nodup_contextSync (hpath : (c.groups.map (·.path)).Nodup)
    (hfields : ∀ g ∈ c.groups, (g.fields.map (·.name)).Nodup) :
    (c.contextSync.map fun s => (s.path, s.field)).Nodup := by
  rw [contextSync, List.map_flatMap, List.nodup_flatMap]
  constructor
  · intro g hg
    rw [List.map_map, show (fun s : ContextSync => (s.path, s.field)) ∘
      (fun f : ControlField => ⟨g.binding, g.path, f.name⟩) = Prod.mk g.path ∘ (·.name) from rfl,
      ← List.map_map]
    exact (hfields g hg).map (Prod.mk_right_injective g.path)
  · refine (List.pairwise_map.mp hpath).imp fun {g g'} hne e he he' => ?_
    simp only [List.map_map, List.mem_map] at he he'
    obtain ⟨f, -, rfl⟩ := he
    obtain ⟨f', -, he'⟩ := he'
    exact hne (congrArg Prod.fst he').symm

theorem mem_map_contextSync {path : List String} {field : String} :
    (path, field) ∈ c.contextSync.map (fun s => (s.path, s.field)) ↔
      ∃ g ∈ c.groups, g.path = path ∧ field ∈ g.fields.map (·.name) := by
  constructor
  · intro h
    obtain ⟨s, hs, heq⟩ := List.mem_map.mp h
    obtain ⟨g, hg, hs⟩ := List.mem_flatMap.mp hs
    obtain ⟨f, hf, rfl⟩ := List.mem_map.mp hs
    cases heq
    exact ⟨g, hg, rfl, List.mem_map_of_mem hf⟩
  · rintro ⟨g, hg, rfl, hfield⟩
    obtain ⟨f, hf, rfl⟩ := List.mem_map.mp hfield
    exact List.mem_map.mpr ⟨⟨g.binding, g.path, f.name⟩,
      List.mem_flatMap.mpr ⟨g, hg, List.mem_map_of_mem hf⟩, rfl⟩

end ControlSet

namespace ControlGroup

variable {g : ControlGroup} {v : ContextValue}

theorem Fits.exists_entries (h : g.Fits v.schema) : ∃ entries,
    v.path? g.path = some (.group entries) ∧
      (g.kind = .material → g.fields.map (·.name) = entries.map Prod.fst) := by
  obtain ⟨es, hpath, -, hmaterial⟩ := h
  obtain ⟨entries, he, hkeys⟩ := ContextValue.exists_group_of_schema hpath
  exact ⟨entries, he, fun hk => (hmaterial hk).trans hkeys.symm⟩

theorem Fits.exists_leaf (h : g.Fits v.schema) {f : ControlField} (hf : f ∈ g.fields) :
    ∃ l : Leaf, v.path? (g.path ++ [f.name]) = some l.value ∧
      f.range.isSome = l.kind.isNumeric ∧ f.range.any (·.angular) = l.kind.isAngular := by
  obtain ⟨es, hpath, hfields, -⟩ := h
  obtain ⟨k, hk, hrange⟩ := hfields f hf
  have hleaf : v.schema.path? (g.path ++ [f.name]) = some (.leaf k) := by
    rw [Schema.path?_append, hpath, Option.bind_some, Schema.path?, Schema.get?, hk]
    rfl
  obtain ⟨l, hl, rfl⟩ := ContextValue.exists_leaf_of_schema hleaf
  rw [Kind.goesWith, Bool.and_eq_true, beq_iff_eq, beq_iff_eq] at hrange
  exact ⟨l, hl, hrange⟩

end ControlGroup

namespace Plan

variable (scene : Scene) (options : Options) (saved : Option Json) (tree : SceneTree)

theorem groups_of :
    (Plan.of scene options saved tree).controls.groups =
      (Setting.of scene options).controlGroups := by
  cases saved <;> rfl

theorem modelPath_of : (Plan.of scene options saved tree).modelPath = Setting.modelPath := by
  rw [modelPath, ControlSet.group?, groups_of]
  rfl

theorem materialSync_of : (Plan.of scene options saved tree).controls.materialSync =
    (Setting.of scene options).survey.materials.zipIdx.map
      fun (usage, i) => Setting.materialSync usage i := by
  cases saved <;> rfl

theorem fits_of_mem_groups {g : ControlGroup}
    (h : g ∈ (Plan.of scene options saved tree).controls.groups) :
    g.Fits (Plan.of scene options saved tree).controls.defaults.schema := by
  rw [groups_of] at h
  rw [schema_defaults_of]
  exact (Setting.forall_mem_controlGroups _ fun _ => Iff.rfl).mpr
    (fun _ => Setting.fits_of_mem_plainGroups _ _ _) g h

theorem nodup_contextSync_of :
    ((Plan.of scene options saved tree).controls.contextSync.map
      fun s => (s.path, s.field)).Nodup := by
  apply ControlSet.nodup_contextSync
  · rw [groups_of, Setting.map_path_controlGroups]
    exact Setting.nodup_paths _
  · rw [groups_of, Setting.forall_mem_controlGroups _ fun _ => Iff.rfl]
    exact fun _ => Setting.nodup_fieldNames _

theorem exists_group_of_material {usage : MaterialUse} {i : Nat}
    (h : (usage, i) ∈ (Setting.of scene options).survey.materials.zipIdx) :
    ∃ g ∈ (Plan.of scene options saved tree).controls.groups, g.kind = .material ∧
      g.path = (Setting.materialSync usage i).path ∧
      g.fields.map (·.name) = (Setting.materialSync usage i).fields := by
  have hplain := (Setting.mem_plainGroups _).mpr (.inr (.inl ⟨usage, i, h, rfl⟩))
  obtain ⟨g, hg, heq⟩ := Setting.exists_mem_controlGroups _ hplain
  rw [← groups_of scene options saved tree] at hg
  refine ⟨g, hg, congrArg ControlGroup.kind heq, congrArg ControlGroup.path heq, ?_⟩
  have hfields : g.untitled.fields = (Setting.materialGroup usage i).fields := by rw [heq]; rfl
  rw [show g.fields = _ from hfields]
  exact Setting.map_name_controlFields _ _

theorem exists_materialSync {i : Nat} (h : i < (Setting.of scene options).survey.materials.length) :
    ∃ m ∈ (Plan.of scene options saved tree).controls.materialSync,
      m.path = Setting.materialPath i := by
  have hu : ((Setting.of scene options).survey.materials[i], i) ∈
      (Setting.of scene options).survey.materials.zipIdx :=
    List.mk_mem_zipIdx_iff_getElem?.mpr (List.getElem?_eq_getElem h)
  rw [materialSync_of]
  exact ⟨_, List.mem_map_of_mem hu, rfl⟩

end Plan

/-- The controls of a good scene and its default context go together, whatever was saved. A group of
controls is a group of the context, and each of its fields is a leaf: one with a range if it is
numeric, with an angular one if it holds angles. All that is copied to a material or back to the
context is there. Every field is copied back once. The fields of a material are those of its group
in the context, in the same order. -/
theorem controls_resolve {scene : Scene} {options : Options} {saved : Option Json} {p : Plan}
    (h : plan scene options saved = .ok p) :
    let c := p.controls
    (∀ g ∈ c.groups, (∃ entries, c.defaults.path? g.path = some (.group entries)) ∧
      ∀ f ∈ g.fields, ∃ l : Leaf, c.defaults.path? (g.path ++ [f.name]) = some l.value ∧
        f.range.isSome = l.kind.isNumeric ∧ f.range.any (·.angular) = l.kind.isAngular) ∧
    (∀ m ∈ c.materialSync, ∀ field ∈ m.fields, ∃ l : Leaf,
      c.defaults.path? (m.path ++ [field]) = some l.value) ∧
    (∀ y ∈ c.contextSync, ∃ l : Leaf, c.defaults.path? (y.path ++ [y.field]) = some l.value) ∧
    (c.contextSync.map fun y => (y.path, y.field)).Nodup ∧
    (∀ path field, (path, field) ∈ c.contextSync.map (fun y => (y.path, y.field)) ↔
      ∃ g ∈ c.groups, g.path = path ∧ field ∈ g.fields.map (·.name)) ∧
    ∀ i < p.survey.materials.length, ∃ g ∈ c.groups, ∃ m ∈ c.materialSync, ∃ entries,
      g.path = Setting.materialPath i ∧ m.path = Setting.materialPath i ∧
      c.defaults.path? (Setting.materialPath i) = some (.group entries) ∧
      g.fields.map (·.name) = entries.map Prod.fst ∧ m.fields = entries.map Prod.fst := by
  obtain ⟨tree, -, rfl⟩ := plan_eq_ok.mp h
  intro c
  have hfits : ∀ g ∈ c.groups, g.Fits c.defaults.schema := fun _ =>
    Plan.fits_of_mem_groups scene options saved tree
  have hgroup : ∀ m ∈ c.materialSync, ∃ g ∈ c.groups, g.kind = .material ∧ g.path = m.path ∧
      g.fields.map (·.name) = m.fields := fun m hm => by
    rw [Plan.materialSync_of, List.mem_map] at hm
    obtain ⟨⟨usage, i⟩, hu, rfl⟩ := hm
    exact Plan.exists_group_of_material scene options saved tree hu
  refine ⟨fun g hg => ⟨?_, fun f => (hfits g hg).exists_leaf⟩, fun m hm field hf => ?_,
    fun y hy => ?_, Plan.nodup_contextSync_of scene options saved tree,
    fun path field => ControlSet.mem_map_contextSync, fun i hi => ?_⟩
  · obtain ⟨entries, he, -⟩ := (hfits g hg).exists_entries
    exact ⟨entries, he⟩
  · obtain ⟨g, hg, -, hpath, hfields⟩ := hgroup m hm
    rw [← hfields, List.mem_map] at hf
    obtain ⟨f, hf, rfl⟩ := hf
    obtain ⟨l, hl, -⟩ := (hfits g hg).exists_leaf hf
    exact ⟨l, hpath ▸ hl⟩
  · obtain ⟨g, hg, hy⟩ := List.mem_flatMap.mp hy
    obtain ⟨f, hf, rfl⟩ := List.mem_map.mp hy
    obtain ⟨l, hl, -⟩ := (hfits g hg).exists_leaf hf
    exact ⟨l, hl⟩
  · obtain ⟨m, hm, hpath⟩ := Plan.exists_materialSync scene options saved tree hi
    obtain ⟨g, hg, hkind, hg', hfields⟩ := hgroup m hm
    obtain ⟨entries, he, hkeys⟩ := (hfits g hg).exists_entries
    refine ⟨g, hg, m, hm, entries, hg'.trans hpath, hpath, ?_, hkeys hkind, ?_⟩
    · rw [← hpath, ← hg', he]
    · rw [← hfields, hkeys hkind]

theorem sample_controls : ∃ p, plan Scene.sample {} (some (.bool true)) = .ok p ∧
    (∀ g ∈ p.controls.groups, ∃ entries, p.controls.defaults.path? g.path = some (.group entries)) ∧
    (p.controls.contextSync.map fun y => (y.path, y.field)).Nodup := by
  obtain ⟨tree, h⟩ := Scene.sample_validate
  have hp : plan Scene.sample {} (some (.bool true)) =
      .ok (.of Scene.sample {} (some (.bool true)) tree) := plan_eq_ok.mpr ⟨tree, h, rfl⟩
  obtain ⟨hgroups, -, -, hnodup, -⟩ := controls_resolve hp
  exact ⟨_, hp, fun g hg => (hgroups g hg).1, hnodup⟩

end SceneMarkup
