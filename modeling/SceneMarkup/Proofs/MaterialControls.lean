import Mathlib.Data.List.Find
import SceneMarkup.Proofs.ControlNames
import SceneMarkup.Proofs.IndexedPlan

/-!
Materials from their first use to their controls. The survey lists the materials of the meshes in
the order in which they are first met, and the place of a material in that list is its ordinal in
the context, among the groups of controls and in the hook that keeps materials up to date. No
ordinal is left out, so no control reaches the material of another.
-/

namespace SceneMarkup

namespace Scene

def UsesMaterial (scene : Scene) (m : MaterialId) (id : NodeId) : Prop :=
  ∃ node, scene.nodes[id]? = some node ∧ node.isMesh ∧ node.material = some m

def IsFirstUse (scene : Scene) (order : List NodeId) (m : MaterialId) (id : NodeId) : Prop :=
  scene.UsesMaterial m id ∧
    ∃ before after, order = before ++ id :: after ∧ ∀ q ∈ before, ¬ scene.UsesMaterial m q

variable {scene : Scene} {tree : SceneTree} {p : Placed} {m : MaterialId}

theorem usesMaterial_iff (hp : scene.nodes[p.id]? = some p.node) :
    scene.UsesMaterial m p.id ↔ p.node.isMesh ∧ p.node.material = some m := by
  simp [UsesMaterial, hp]

theorem exists_materialUse (h : scene.validate = .ok tree)
    (hp : scene.nodes[p.id]? = some p.node) (hm : p.node.material = some m) :
    ∃ u, materialUse? scene p = some u ∧ u.id = m := by
  have hlt := (wellFormedNode_of_validate h hp).material_lt m hm
  have hread : scene.materials[m]? = some scene.materials[m] := Array.getElem?_eq_getElem hlt
  exact ⟨⟨m, scene.materials[m], p⟩, Survey.materialUse?_eq_some.mpr ⟨hm, hread, rfl⟩, rfl⟩

end Scene

namespace Survey

variable {scene : Scene} {tree : SceneTree} {options : Options} {m : MaterialId} {u : MaterialUse}

theorem nodup_map_id_materials : ((Survey.of scene options).materials.map (·.id)).Nodup :=
  nodup_map_distinctBy _

theorem materialUse?_iff_mem : (Survey.of scene options).materialUse? m = some u ↔
    u ∈ (Survey.of scene options).materials ∧ u.id = m :=
  find?_eq_some_iff_mem nodup_map_id_materials

theorem materials_eq (h : Search.Finds scene tree) (options : Options) :
    (Survey.of scene options).materials = distinctBy (·.id)
      ((tree.preorder.filter (·.node.isMesh)).filterMap (SceneMarkup.materialUse? scene)) := by
  rw [← h.map_placed_visits]
  rfl

theorem materialUse?_eq (h : scene.validate = .ok tree) (options : Options) (m : MaterialId) :
    (Survey.of scene options).materialUse? m = (tree.preorder.find? fun p =>
      p.node.isMesh && p.node.material == some m).bind (SceneMarkup.materialUse? scene) := by
  have hf := Scene.tree_finds (Scene.validate_eq_ok.mp h).1
  have hcarries : ∀ p ∈ tree.preorder, (SceneMarkup.materialUse? scene p).any (·.id == m) =
      (p.node.material == some m) := by
    intro p hp
    rw [Bool.eq_iff_iff, Option.any_eq_true, beq_iff_eq]
    constructor
    · rintro ⟨u, hu, hid⟩
      rw [(materialUse?_eq_some.mp hu).1, beq_iff_eq.mp hid]
    · intro hm
      obtain ⟨u, hu, hid⟩ := Scene.exists_materialUse h (hf.unfolds.node_of_mem hp) hm
      exact ⟨u, hu, by simpa using hid⟩
  rw [materialUse?, materials_eq hf, find?_distinctBy (· == m), List.find?_filterMap,
    List.find?_filter]
  congr 1
  refine List.find?_congr fun p hp => ?_
  rw [hcarries p hp, Bool.decide_and, Bool.decide_eq_true, Bool.decide_eq_true]

theorem exists_first_use (h : scene.validate = .ok tree)
    (hu : u ∈ (Survey.of scene options).materials) :
    scene.IsFirstUse tree.ids u.id u.firstUser.id := by
  have hf := Scene.tree_finds (Scene.validate_eq_ok.mp h).1
  have hfind := materialUse?_iff_mem.mpr ⟨hu, rfl⟩
  rw [materialUse?_eq h, Option.bind_eq_some_iff] at hfind
  obtain ⟨p, hp, huse⟩ := hfind
  obtain ⟨-, -, rfl⟩ := materialUse?_eq_some.mp huse
  obtain ⟨hcarries, before, after, heq, hbefore⟩ := List.find?_eq_some_iff_append.mp hp
  have hmem : ∀ q ∈ before ++ u.firstUser :: after, scene.nodes[q.id]? = some q.node := fun q hq =>
    hf.unfolds.node_of_mem (heq ▸ hq)
  refine ⟨(Scene.usesMaterial_iff (hmem _ (by simp))).mpr (by simpa using hcarries),
    before.map (·.id), after.map (·.id), by simp [SceneTree.ids, heq], ?_⟩
  rw [List.forall_mem_map]
  intro q hq huses
  have hq' := (Scene.usesMaterial_iff (hmem q (List.mem_append_left _ hq))).mp huses
  simpa [hq'] using hbefore q hq

theorem mem_map_id_materials (h : scene.validate = .ok tree) :
    m ∈ (Survey.of scene options).materials.map (·.id) ↔
      ∃ id ∈ scene.reachable, scene.UsesMaterial m id := by
  have hf := Scene.tree_finds (Scene.validate_eq_ok.mp h).1
  constructor
  · intro hm
    obtain ⟨u, hu, rfl⟩ := List.mem_map.mp hm
    obtain ⟨⟨v, hv, hplaced⟩, -⟩ := firstUser_of_mem_materials hu
    exact ⟨u.firstUser.id, hplaced ▸ hf.mem_reachable_of_mem_visits hv, (exists_first_use h hu).1⟩
  · rintro ⟨id, hid, huses⟩
    rw [hf.reachable_eq, List.mem_toFinset] at hid
    obtain ⟨p, hp, rfl⟩ := List.mem_map.mp hid
    have hcarries := (Scene.usesMaterial_iff (hf.unfolds.node_of_mem hp)).mp huses
    have hsome : (tree.preorder.find? fun p =>
        p.node.isMesh && p.node.material == some m).isSome :=
      List.find?_isSome.mpr ⟨p, hp, by simpa using hcarries⟩
    obtain ⟨q, hq⟩ := Option.isSome_iff_exists.mp hsome
    have hqm : q.node.isMesh ∧ q.node.material = some m := by simpa using List.find?_some hq
    obtain ⟨u, hu, rfl⟩ := Scene.exists_materialUse h
      (hf.unfolds.node_of_mem (List.mem_of_find?_eq_some hq)) hqm.2
    have hfind : (Survey.of scene options).materialUse? u.id = some u := by
      rw [materialUse?_eq h, hq, Option.bind_some, hu]
    exact List.mem_map_of_mem (materialUse?_iff_mem.mp hfind).1

theorem firstUsers_sublist (h : Search.Finds scene tree) :
    ((Survey.of scene options).materials.map (·.firstUser.id)).Sublist tree.ids := by
  have huser : ∀ p, (SceneMarkup.materialUse? scene p).map (·.firstUser) =
      Option.guard (fun p => (SceneMarkup.materialUse? scene p).isSome) p := by
    intro p
    cases hu : SceneMarkup.materialUse? scene p with
    | none => simp [Option.guard, hu]
    | some u => simp [Option.guard, hu, (materialUse?_eq_some.mp hu).2.2]
  have hsub : ((Survey.of scene options).materials.map (·.firstUser)).Sublist tree.preorder := by
    rw [materials_eq h]
    refine ((distinctBy_sublist _).map _).trans ?_
    simp only [List.map_filterMap, huser]
    rw [List.filterMap_eq_filter]
    exact List.filter_sublist.trans List.filter_sublist
  have hids := hsub.map (·.id)
  rwa [List.map_map] at hids

end Survey

theorem SceneIndex.materials_read?_eq {scene : Scene} {options : Options} {ix : SceneIndex}
    (hix : ix.Indexes scene options) (m : MaterialId) : ix.materials.read? m =
      some (((Survey.of scene options).materialUse? m).map (·.firstUser.id)) := by
  have hnodup : (ix.materials.entries.map Prod.fst).Nodup := by
    rw [hix.materials, List.map_map]
    exact Survey.nodup_map_id_materials
  rw [hix.soundMaterials.read?_eq hnodup, hix.materials, lookup_map_eq_find?]
  rfl

namespace Setting

variable (s : Setting)

theorem filter_material_plainGroups : s.plainGroups.filter (·.kind = .material) =
    s.survey.materials.zipIdx.map fun (usage, i) => materialGroup usage i := by
  have hmaterials : (s.survey.materials.zipIdx.map fun (usage, i) => materialGroup usage i).filter
      (·.kind = .material) = s.survey.materials.zipIdx.map fun (usage, i) => materialGroup usage i :=
    List.filter_eq_self.mpr (List.forall_mem_map.mpr fun _ _ => rfl)
  have hrigs : (Rig.catalog.map s.rigGroup).filter (·.kind = .material) = [] :=
    List.filter_eq_nil_iff.mpr (List.forall_mem_map.mpr fun rig hr => by
      simp [rigGroup, Rig.kind_ne_material rig hr])
  rw [plainGroups, List.cons_append, List.filter_cons_of_neg (by decide), List.filter_append,
    hmaterials, hrigs, List.append_nil]

theorem filter_material_controlGroups :
    (s.controlGroups.filter (·.kind = .material)).map (fun g => (g.binding, g.path)) =
      (List.range s.survey.materials.length).map fun i => (materialBinding i, materialPath i) := by
  have huntitled := congrArg (List.filter (·.kind = .material)) s.map_untitled_controlGroups
  rw [List.filter_map, List.filter_map] at huntitled
  have hsame := congrArg (List.map fun g => (g.binding, g.path)) huntitled
  rw [List.map_map, List.map_map] at hsame
  calc (s.controlGroups.filter (·.kind = .material)).map (fun g => (g.binding, g.path))
    _ = (s.plainGroups.filter (·.kind = .material)).map fun g => (g.binding, g.path) := hsame
    _ = s.survey.materials.zipIdx.map fun (_, i) => (materialBinding i, materialPath i) := by
      rw [filter_material_plainGroups, List.map_map]
      rfl
    _ = _ := map_ordinal (fun i => (materialBinding i, materialPath i)) _

end Setting

structure Plan.ControlsMaterial (p : Plan) (i : Nat) (u : MaterialUse) : Prop where
  group : ∃ g, p.controls.groups.filter (·.binding == "material" ++ toString i) = [g] ∧
    p.controls.groups.filter (·.path == ["materials", toString i]) = [g] ∧ g.kind = .material ∧
      g.fields.map (·.name) = Setting.materialFields (.of u.material)
  entries : ∃ entries, p.controls.defaults.path? ["materials", toString i] = some (.group entries) ∧
    entries.map Prod.fst = Setting.materialFields (.of u.material)
  named : u.firstUser.node.name ≠ ""
  sync : p.controls.materialSync[i]? = some
    ⟨["materials", toString i], u.firstUser.node.name, Setting.materialFields (.of u.material)⟩

namespace Plan

variable {scene : Scene} {options : Options} {saved : Option Json} {tree : SceneTree}

theorem exists_materials_entries : ∃ entries,
    (Plan.of scene options saved tree).controls.defaults.path? ["materials"] =
      some (.group entries) ∧
    entries.map Prod.fst = (List.range (Survey.of scene options).materials.length).map toString := by
  have hpath : (Plan.of scene options saved tree).controls.defaults.schema.path? ["materials"] =
      some (ContextValue.group ((Survey.of scene options).materials.zipIdx.map fun (usage, i) =>
        (toString i, Setting.materialDefaults usage.material))).schema := by
    rw [schema_defaults_of, ContextValue.path?_schema]
    rfl
  rw [ContextValue.schema_group] at hpath
  obtain ⟨entries, he, hkeys⟩ := ContextValue.exists_group_of_schema hpath
  refine ⟨entries, he, hkeys.trans ?_⟩
  rw [List.map_map, List.map_map]
  exact Setting.map_ordinal toString _

theorem controlsMaterial_of (h : scene.validate = .ok tree) {i : Nat} {u : MaterialUse}
    (hu : (Survey.of scene options).materials[i]? = some u) :
    (Plan.of scene options saved tree).ControlsMaterial i u := by
  have hindex : (u, i) ∈ (Setting.of scene options).survey.materials.zipIdx :=
    List.mk_mem_zipIdx_iff_getElem?.mpr hu
  obtain ⟨g, hg, heq⟩ := Setting.exists_mem_controlGroups _
    ((Setting.mem_plainGroups _).mpr (.inr (.inl ⟨u, i, hindex, rfl⟩)))
  have hbinding : g.binding = "material" ++ toString i := congrArg ControlGroup.binding heq
  have hpath : g.path = ["materials", toString i] := congrArg ControlGroup.path heq
  have hkind : g.kind = .material := congrArg ControlGroup.kind heq
  have hfields : g.fields.map (·.name) = Setting.materialFields (.of u.material) :=
    (congrArg (·.fields.map (·.name)) heq).trans (Setting.map_name_controlFields _ _)
  have hpaths : ((Setting.of scene options).controlGroups.map (·.path)).Nodup := by
    rw [Setting.map_path_controlGroups]
    exact Setting.nodup_paths _
  constructor
  case group =>
    rw [groups_of]
    refine ⟨g, ?_, ?_, hkind, hfields⟩
    · rw [← hbinding]
      exact filter_eq_singleton (Setting.nodup_bindings _) hg
    · rw [← hpath]
      exact filter_eq_singleton hpaths hg
  case entries =>
    rw [← groups_of scene options saved tree] at hg
    obtain ⟨entries, he, hkeys⟩ := (fits_of_mem_groups scene options saved tree hg).exists_entries
    exact ⟨entries, hpath ▸ he, (hkeys hkind).symm.trans hfields⟩
  case named =>
    have hf := Scene.tree_finds (Scene.validate_eq_ok.mp h).1
    obtain ⟨⟨v, hv, hplaced⟩, hmesh, -⟩ :=
      Survey.firstUser_of_mem_materials (List.mem_of_getElem? hu)
    have hn := hf.nodes_of_mem_visits hv
    rw [show v.node = u.firstUser.node from congrArg Placed.node hplaced] at hn
    exact Scene.name_ne_empty h hn (.inl (Scene.isSome_geometry h hn hmesh))
  case sync =>
    rw [materialSync_of, List.getElem?_map, List.getElem?_zipIdx,
      show (Setting.of scene options).survey.materials[i]? = some u from hu]
    simp [Setting.materialSync, Setting.materialPath]

end Plan

section Hook

variable (typed : Bool) (i : Nat)

def contextField (field : String) : String := "ctx.materials['" ++ toString i ++ "']." ++ field

def liveCast (m : Material) : String :=
  if typed then
    if m.clearcoat.isSome || m.clearcoatRoughness.isSome then " as THREE.MeshPhysicalMaterial"
    else " as THREE.MeshStandardMaterial"
  else ""

def copyText (field : String) : String :=
  "    material" ++ toString i ++
    if field = "color" then ".color.set(" ++ contextField i field ++ ")"
    else "." ++ field ++ " = " ++ contextField i field

/-- The lines for the material with the ordinal `i`: its local name, then its fields. -/
def materialLines (u : MaterialUse) : List String :=
  ("    const material" ++ toString i ++ " = nodes" ++
      Naming.propertySuffix u.firstUser.node.name ++ ".material" ++ liveCast typed u.material) ::
    (Setting.materialFields (.of u.material)).map (copyText i)

def hookText (uses : List MaterialUse) : String :=
  "function useMaterialSync(nodes" ++ (if typed then ": GLTFResult['nodes']" else "") ++ ", ctx" ++
    (if typed then ": SceneContext" else "") ++ ") \x7b\n  useFrame(() => \x7b\n" ++
    String.join (uses.zipIdx.map fun (u, i) => Text.unlines (materialLines typed i u)) ++
    "  \x7d)\n\x7d\n"

theorem Naming.propertySuffix_natural :
    propertySuffix (toString i) = "['" ++ toString i ++ "']" := by
  have hdigit : ∀ c ∈ (toString i).toList, c.isDigit = true := by simpa using isDigit_toDigits i
  have hplain : ∀ c : Char, c.isDigit = true → Text.escapeChar c = [c] := by
    intro c hc
    unfold Text.escapeChar
    split <;> first | rfl | exact absurd hc (by decide)
  have hquote : Text.quote (toString i) = "'" ++ toString i ++ "'" := by
    have hescaped : (toString i).toList.flatMap Text.escapeChar = (toString i).toList := by
      rw [List.flatMap_congr fun c hc => hplain c (hdigit c hc), List.flatMap_singleton']
    apply String.toList_injective
    rw [Text.quote, String.toList_ofList, Text.quoteChars, hescaped]
    simp
  have hbare : isBareIdentifier (toString i) = false := by
    obtain ⟨c, rest, hchars⟩ : ∃ c rest, (toString i).toList = c :: rest :=
      List.exists_cons_of_ne_nil (by simp [Nat.toDigits_ne_nil])
    have hstart := startsIdentifier_eq_false_of_isDigit (hdigit c (hchars ▸ List.mem_cons_self))
    rw [isBareIdentifier, hchars, hasIdentifierShape, hstart, Bool.false_and, Bool.false_and]
  rw [propertySuffix, hbare, hquote, show "['" = "[" ++ "'" from rfl,
    show "']" = "'" ++ "]" from rfl]
  simp only [Bool.false_eq_true, if_false, String.append_assoc]

theorem propertySuffix_field {caps : MaterialCaps} {field : String}
    (h : field ∈ Setting.materialFields caps) : Naming.propertySuffix field = "." ++ field := by
  have hbare : ∀ caps : MaterialCaps, ∀ f ∈ Setting.materialFields caps,
      Naming.isBareIdentifier f = true := by
    rintro ⟨clearcoat, clearcoatRoughness⟩
    cases clearcoat <;> cases clearcoatRoughness <;> decide +kernel
  exact if_pos (hbare caps field h)

theorem MaterialSync.fieldText_eq {caps : MaterialCaps} {field : String}
    (h : field ∈ Setting.materialFields caps) :
    fieldText ("material" ++ toString i) (Setting.materialPath i) field =
      copyText i field ++ "\n" := by
  have hcontext : Scope.context.reference (Setting.materialPath i ++ [field]) =
      contextField i field := by
    have hgroup : Naming.propertySuffix "materials" = ".materials" := by decide +kernel
    change "ctx" ++ Naming.propertySuffix "materials" ++ Naming.propertySuffix (toString i) ++
      Naming.propertySuffix field = _
    rw [hgroup, Naming.propertySuffix_natural, propertySuffix_field h]
    unfold contextField
    rw [show "ctx.materials['" = "ctx" ++ ".materials" ++ "['" from rfl,
      show "']." = "']" ++ "." from rfl]
    simp only [String.append_assoc]
  unfold fieldText copyText
  rw [hcontext]
  split <;> simp only [String.append_assoc] <;> rfl

theorem MaterialSync.castText_eq (u : MaterialUse) :
    (Setting.materialSync u i).castText typed = liveCast typed u.material := by
  have hcoat : ∀ caps : MaterialCaps, (Setting.materialFields caps).any (·.startsWith "clearcoat") =
      (caps.clearcoat || caps.clearcoatRoughness) := by
    rintro ⟨clearcoat, clearcoatRoughness⟩
    cases clearcoat <;> cases clearcoatRoughness <;> decide +kernel
  unfold castText liveCast
  rw [show (Setting.materialSync u i).fields = Setting.materialFields (.of u.material) from rfl,
    hcoat]
  cases typed <;> rfl

theorem MaterialSync.text_eq (u : MaterialUse) :
    (Setting.materialSync u i).text typed i = Text.unlines (materialLines typed i u) := by
  have hlive : Scope.nodes.reference [u.firstUser.node.name, "material"] =
      "nodes" ++ Naming.propertySuffix u.firstUser.node.name ++ ".material" := by
    have hmaterial : Naming.propertySuffix "material" = ".material" := by decide +kernel
    change "nodes" ++ Naming.propertySuffix u.firstUser.node.name ++
      Naming.propertySuffix "material" = _
    rw [hmaterial]
  have hfields : (Setting.materialFields (.of u.material)).map
      (fieldText ("material" ++ toString i) (Setting.materialPath i)) =
        (Setting.materialFields (.of u.material)).map fun field => copyText i field ++ "\n" :=
    List.map_congr_left fun _ hf => fieldText_eq i hf
  unfold text materialLines
  rw [Text.unlines_cons, Text.unlines, List.map_map, castText_eq]
  change _ ++ Scope.nodes.reference [u.firstUser.node.name, "material"] ++ _ ++ _ ++
    String.join ((Setting.materialFields (.of u.material)).map
      (fieldText ("material" ++ toString i) (Setting.materialPath i))) = _
  rw [hlive, hfields, show "    const material" = "    const " ++ "material" from rfl,
    show " = nodes" = " = " ++ "nodes" from rfl]
  simp only [String.append_assoc]
  rfl

theorem MaterialSync.map_text_zipIdx (uses : List MaterialUse) :
    ((uses.zipIdx.map fun (u, i) => Setting.materialSync u i).zipIdx.map
      fun (s, i) => s.text typed i) =
        uses.zipIdx.map fun (u, i) => Text.unlines (materialLines typed i u) := by
  apply List.ext_getElem (by simp)
  intro i hi hi'
  simp [text_eq]

theorem MaterialSync.hook_eq (uses : List MaterialUse) :
    hook typed (uses.zipIdx.map fun (u, i) => Setting.materialSync u i) = hookText typed uses := by
  unfold hook hookText
  rw [map_text_zipIdx]
  cases typed <;> simp only [String.append_assoc] <;> rfl

theorem Plan.within_hook (p : Plan) :
    Text.Within (MaterialSync.hook p.options.types p.controls.materialSync) p.text := by
  have hblock : p.controls.text p.setting.precision p.options.types ∈ p.blocks := by
    simp [blocks]
  exact Text.Within.trans ((Text.Within.refl _).append_left _) (within_text hblock)

end Hook

/-- The materials of a unit follow the meshes that carry them in the order of preorder. They are all
that the reachable meshes carry, each with its first mesh, and are found again by their indices, in
the list as in its slots. Each ordinal has one group in the context, one group of controls and one
block of the hook that is printed, and there are no other groups or blocks of materials. -/
structure Plan.FollowsFirstUse (p : Plan) (scene : Scene) (options : Options)
    (order : List NodeId) : Prop where
  nodup_order : order.Nodup
  preorder : ∀ ids, scene.Preorder [scene.root] ids ↔ ids = order
  sublist : (p.survey.materials.map (·.firstUser.id)).Sublist order
  nodup : (p.survey.materials.map (·.id)).Nodup
  complete : ∀ m, m ∈ p.survey.materials.map (·.id) ↔
    ∃ id ∈ scene.reachable, scene.UsesMaterial m id
  uses : ∀ u ∈ p.survey.materials, scene.materials[u.id]? = some u.material ∧
    scene.nodes[u.firstUser.id]? = some u.firstUser.node ∧
    scene.IsFirstUse order u.id u.firstUser.id
  found : ∀ m u, p.survey.materialUse? m = some u ↔ u ∈ p.survey.materials ∧ u.id = m
  slots : ∃ ix, SceneIndex.of? scene options = some ix ∧
    ix.materials.entries = p.survey.materials.map (fun u => (u.id, u.firstUser.id)) ∧
    ∀ m, ix.materials.read? m = some ((p.survey.materialUse? m).map (·.firstUser.id))
  schema : ∃ entries, p.controls.defaults.path? ["materials"] = some (.group entries) ∧
    entries.map Prod.fst = (List.range p.survey.materials.length).map toString
  groups : (p.controls.groups.filter (·.kind = .material)).map (fun g => (g.binding, g.path)) =
    (List.range p.survey.materials.length).map
      (fun i => ("material" ++ toString i, ["materials", toString i]))
  syncs : p.controls.materialSync.length = p.survey.materials.length
  controls : ∀ i u, p.survey.materials[i]? = some u → p.ControlsMaterial i u
  hook : ∀ typed,
    MaterialSync.hook typed p.controls.materialSync = hookText typed p.survey.materials
  printed : Text.Within (hookText p.options.types p.survey.materials) p.text

theorem material_controls_of_plan {scene : Scene} {options : Options} {saved : Option Json} {p : Plan}
    (h : plan scene options saved = .ok p) : ∃ order, p.FollowsFirstUse scene options order := by
  obtain ⟨tree, htree, rfl⟩ := plan_eq_ok.mp h
  have hf := Scene.tree_finds (Scene.validate_eq_ok.mp htree).1
  have hhook (typed : Bool) : MaterialSync.hook typed
      (Plan.of scene options saved tree).controls.materialSync =
        hookText typed (Plan.of scene options saved tree).survey.materials := by
    rw [Plan.materialSync_of]
    exact MaterialSync.hook_eq typed _
  refine ⟨tree.ids, ?_⟩
  constructor
  case nodup_order => exact hf.nodup
  case preorder => exact hf.preorder_iff
  case sublist => exact Survey.firstUsers_sublist hf
  case nodup => exact Survey.nodup_map_id_materials
  case complete => exact fun m => Survey.mem_map_id_materials htree
  case uses =>
    intro u hu
    obtain ⟨⟨v, hv, hplaced⟩, -, -, hmaterial⟩ := Survey.firstUser_of_mem_materials hu
    have hn := hf.unfolds.node_of_mem (hf.mem_visits hv)
    rw [hplaced] at hn
    exact ⟨hmaterial, hn, Survey.exists_first_use htree hu⟩
  case found => exact fun m u => Survey.materialUse?_iff_mem
  case slots =>
    obtain ⟨ix, hof, hix⟩ := SceneIndex.exists_of? hf options
    exact ⟨ix, hof, hix.materials, SceneIndex.materials_read?_eq hix⟩
  case schema => exact Plan.exists_materials_entries
  case groups =>
    rw [Plan.groups_of]
    exact Setting.filter_material_controlGroups _
  case syncs =>
    rw [Plan.materialSync_of, List.length_map, List.length_zipIdx]
    rfl
  case controls => exact fun i u hu => Plan.controlsMaterial_of htree hu
  case hook => exact hhook
  case printed =>
    rw [← hhook]
    exact Plan.within_hook _

theorem materials_titled :
    (Survey.of Scene.titled {}).materials.map (fun u => (u.id, u.firstUser.id)) =
      [(3, 2), (0, 3), (2, 4), (4, 6)] := by
  obtain ⟨tree, htree⟩ := Scene.titled_validate
  have hall : Scene.titled.validate.toOption.map (fun tree =>
      (distinctBy (·.id) ((tree.preorder.filter (·.node.isMesh)).filterMap
        (materialUse? Scene.titled))).map fun u => (u.id, u.firstUser.id)) =
          some [(3, 2), (0, 3), (2, 4), (4, 6)] := by
    decide +kernel
  rw [htree] at hall
  rw [Survey.materials_eq (Scene.tree_finds (Scene.validate_eq_ok.mp htree).1)]
  exact Option.some.inj hall

theorem titled_material_controls : ∃ p u, plan Scene.titled {} none = .ok p ∧
    p.survey.materials[2]? = some u ∧ (u.id, u.firstUser.id) = (2, 4) ∧ p.ControlsMaterial 2 u ∧
    p.controls.materialSync.length = 4 := by
  obtain ⟨tree, htree⟩ := Scene.titled_validate
  have hp : plan Scene.titled {} none = .ok (.of Scene.titled {} none tree) :=
    plan_eq_ok.mpr ⟨tree, htree, rfl⟩
  obtain ⟨order, hmaterials⟩ := material_controls_of_plan hp
  have hthird := congrArg (·[2]?) materials_titled
  rw [List.getElem?_map] at hthird
  obtain ⟨u, hu, hids⟩ := Option.map_eq_some_iff.mp hthird
  refine ⟨_, u, hp, hu, hids, hmaterials.controls 2 u hu, hmaterials.syncs.trans ?_⟩
  have hcount := congrArg List.length materials_titled
  rwa [List.length_map] at hcount

end SceneMarkup
