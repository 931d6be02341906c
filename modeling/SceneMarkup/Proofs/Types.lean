import SceneMarkup.Proofs.Accesses

namespace SceneMarkup

theorem elementTag_ne_groupTag {node : Node} (h : node.isMesh) :
    elementTag node.type ≠ groupTag := by
  have hmesh : ∀ type ∈ ["Mesh", "SkinnedMesh", "InstancedMesh"], elementTag type ≠ groupTag := by
    decide
  exact hmesh _ (Node.isMesh_iff.mp h)

namespace Scene

variable {scene : Scene} {tree : SceneTree} {id : NodeId} {node : Node}

theorem wellFormedNode_of_validate (h : scene.validate = .ok tree)
    (hn : scene.nodes[id]? = some node) : scene.WellFormedNode node :=
  (tableDefect?_eq_none.mp (validate_eq_ok.mp h).2).1 node (Array.mem_of_getElem? hn)

theorem name_ne_empty (h : scene.validate = .ok tree) (hn : scene.nodes[id]? = some node)
    (hq : node.geometry.isSome ∨ node.isBone) : node.name ≠ "" := by
  intro hname
  obtain ⟨hgeometry, hbone⟩ := (wellFormedNode_of_validate h hn).unnamed hname
  rcases hq with hq | hq
  · simp [hgeometry] at hq
  · exact hbone (Node.isBone_iff.mp hq)

theorem isSome_geometry (h : scene.validate = .ok tree) (hn : scene.nodes[id]? = some node)
    (hmesh : node.isMesh) : node.geometry.isSome :=
  Option.isSome_iff_ne_none.mpr
    ((wellFormedNode_of_validate h hn).mesh (Node.isMesh_iff.mp hmesh))

end Scene

namespace SceneTree

theorem exists_visit_of_mem_joints {t : SceneTree} {parent : Option Placed} (skinned : Bool)
    {p : Placed} (hparent : ∀ q ∈ parent, ¬ q.node.isBone) (hp : p ∈ t.joints) :
    ∃ v ∈ t.visits parent skinned, v.placed = p ∧ AssetTypes.isTopBone v := by
  induction t generalizing parent skinned with
  | branch q ts ih =>
    rw [joints_branch] at hp
    rw [visits_branch]
    split at hp
    case isTrue hb =>
      rw [List.mem_singleton] at hp
      subst hp
      refine ⟨_, List.mem_cons_self, rfl, ?_⟩
      cases parent with
      | none => simp [AssetTypes.isTopBone, Visit.node, hb]
      | some parent => simp [AssetTypes.isTopBone, Visit.node, hb, hparent parent rfl]
    case isFalse hb =>
      obtain ⟨t, ht, hp⟩ := List.mem_flatMap.mp hp
      have hself : ∀ q' ∈ some q, ¬ q'.node.isBone := by simpa using hb
      obtain ⟨v, hv, he⟩ := ih t ht _ hself hp
      exact ⟨v, List.mem_cons_of_mem _ (List.mem_flatMap.mpr ⟨t, ht, hv⟩), he⟩

end SceneTree

namespace Search.Finds

variable {scene : Scene} {t : SceneTree}

theorem mem_reachable_of_mem_visits (h : Finds scene t) {v : Visit} (hv : v ∈ scene.visits) :
    v.id ∈ scene.reachable := by
  rw [h.reachable_eq, List.mem_toFinset]
  exact List.mem_map_of_mem (h.mem_visits hv)

theorem exists_visit (h : Finds scene t) {id : NodeId} {node : Node}
    (hr : id ∈ scene.reachable) (hn : scene.nodes[id]? = some node) :
    ∃ v ∈ scene.visits, v.placed = ⟨id, node⟩ := by
  rw [h.reachable_eq, List.mem_toFinset] at hr
  obtain ⟨p, hp, rfl⟩ := List.mem_map.mp hr
  cases (h.unfolds.node_of_mem hp).symm.trans hn
  rw [← h.map_placed_visits] at hp
  obtain ⟨v, hv, he⟩ := List.mem_map.mp hp
  exact ⟨v, hv, he⟩

theorem isRemoved_eq_false (h : Finds scene t) {v : Visit} (hv : v ∈ scene.visits)
    (hq : v.node.isMesh ∨ v.node.isBone) (s : Setting) :
    (Composition.of s t).isRemoved v.id = false := by
  rw [Composition.isRemoved, ← Bool.not_eq_true, List.contains_iff_mem, Composition.mem_removed]
  rintro ⟨p, hp, he, hid⟩
  obtain ⟨t', ht', hexposed⟩ := List.mem_flatMap.mp hp
  have hpre := t.exposed_sublist.subset (t.outermost_sublist.subset hp)
  obtain rfl : p = v.placed := h.eq_of_id_eq hpre (h.mem_visits hv) hid
  rcases hq with hmesh | hbone
  · exact elementTag_ne_groupTag hmesh (Setting.elides_iff.mp he).group
  · exact SceneTree.not_isBone_of_mem_exposed hexposed hbone

end Search.Finds

namespace Survey

variable {scene : Scene}

theorem materialUse?_eq_some {p : Placed} {u : MaterialUse} :
    SceneMarkup.materialUse? scene p = some u ↔
      p.node.material = some u.id ∧ scene.materials[u.id]? = some u.material ∧ u.firstUser = p := by
  obtain ⟨id, material, firstUser⟩ := u
  simp only [SceneMarkup.materialUse?, Option.bind_eq_bind, Option.bind_eq_some_iff,
    Option.pure_def, Option.some.injEq, MaterialUse.mk.injEq]
  constructor
  · rintro ⟨_, hid, _, hm, rfl, rfl, rfl⟩
    exact ⟨hid, hm, rfl⟩
  · rintro ⟨hid, hm, rfl⟩
    exact ⟨id, hid, material, hm, rfl, rfl, rfl⟩

theorem firstUser_of_mem_materials {options : Options} {u : MaterialUse}
    (h : u ∈ (Survey.of scene options).materials) :
    (∃ v ∈ scene.visits, v.placed = u.firstUser) ∧ u.firstUser.node.isMesh ∧
      u.firstUser.node.material = some u.id ∧ scene.materials[u.id]? = some u.material := by
  have hm := (distinctBy_sublist _).subset h
  obtain ⟨p, hp, hu⟩ := List.mem_filterMap.mp hm
  obtain ⟨hp, hmesh⟩ := List.mem_filter.mp hp
  obtain ⟨hid, hmaterial, rfl⟩ := materialUse?_eq_some.mp hu
  exact ⟨List.mem_map.mp hp, hmesh, hid, hmaterial⟩

theorem exists_use (options : Options) {v : Visit} (hv : v ∈ scene.visits) (hmesh : v.node.isMesh)
    {m : Material} (hm : scene.materialOf? v.node = some m) :
    ∃ u ∈ (Survey.of scene options).materials, u.material = m := by
  obtain ⟨id, hid, hmaterial⟩ := Option.bind_eq_some_iff.mp hm
  have huse : SceneMarkup.materialUse? scene v.placed = some ⟨id, m, v.placed⟩ :=
    materialUse?_eq_some.mpr ⟨hid, hmaterial, rfl⟩
  have hall : id ∈ (((scene.visits.map (·.placed)).filter (·.node.isMesh)).filterMap
      (SceneMarkup.materialUse? scene)).map (·.id) :=
    List.mem_map.mpr ⟨⟨id, m, v.placed⟩, List.mem_filterMap.mpr ⟨v.placed,
      List.mem_filter.mpr ⟨List.mem_map_of_mem hv, hmesh⟩, huse⟩, rfl⟩
  obtain ⟨u, hu, rfl⟩ := List.mem_map.mp (mem_map_distinctBy.mpr hall)
  obtain ⟨-, -, -, hsame⟩ := @firstUser_of_mem_materials scene options u hu
  exact ⟨u, hu, Option.some.inj (hsame.symm.trans hmaterial)⟩

end Survey

namespace AssetTypes

variable {scene : Scene} {tree : SceneTree} {options : Options} {context : ContextValue}
  {name : String}

theorem mem_nodes (h : scene.validate = .ok tree) :
    name ∈ (of (.of scene options) (.of (.of scene options) tree) context).nodes.map Prod.fst ↔
      ∃ v ∈ scene.visits, (v.node.isMesh ∨ isTopBone v) ∧ v.node.name = name := by
  have hf := Scene.tree_finds (Scene.validate_eq_ok.mp h).1
  have htyped : ∀ v ∈ scene.visits, isTyped (.of (.of scene options) tree) v ↔
      v.node.isMesh ∨ isTopBone v := by
    intro v hv
    simp only [isTyped, Bool.and_eq_true, Bool.or_eq_true]
    refine and_iff_right_of_imp fun hq => ?_
    have hn := hf.nodes_of_mem_visits hv
    have hkind : v.node.isMesh ∨ v.node.isBone :=
      hq.imp_right fun ht => (Bool.and_eq_true_iff.mp ht).1
    have hname := Scene.name_ne_empty h hn (hkind.imp_left (Scene.isSome_geometry h hn))
    simp [hname, hf.isRemoved_eq_false hv hkind]
  have hvisits : (Setting.of scene options).survey.visits = scene.visits := rfl
  rw [of, mem_map_distinctBy, List.map_map, hvisits, List.mem_map]
  refine exists_congr fun v => ?_
  rw [List.mem_filter, and_assoc]
  exact and_congr_right fun hv => and_congr_left fun _ => htyped v hv

theorem mem_materials (h : Search.Finds scene tree) {c : Composition} :
    name ∈ (of (.of scene options) c context).materials.map Prod.fst ↔
      name ≠ "" ∧ (scene.carriers name).Nonempty := by
  rw [of, mem_map_distinctBy, List.map_map, List.mem_map]
  constructor
  · rintro ⟨u, hu, rfl⟩
    obtain ⟨hu, hname⟩ := List.mem_filter.mp hu
    obtain ⟨⟨v, hv, hplaced⟩, hmesh, hid, hm⟩ :=
      @Survey.firstUser_of_mem_materials scene options u hu
    rw [← hplaced] at hmesh hid
    have hmaterial : scene.materialOf? v.node = some u.material :=
      Option.bind_eq_some_iff.mpr ⟨u.id, hid, hm⟩
    exact ⟨by simpa using hname, v.id, Scene.mem_carriers.mpr ⟨h.mem_reachable_of_mem_visits hv,
      v.node, u.material, h.nodes_of_mem_visits hv, hmesh, hmaterial, rfl⟩⟩
  · rintro ⟨hname, id, hid⟩
    obtain ⟨hr, node, m, hn, hmesh, hm, rfl⟩ := Scene.mem_carriers.mp hid
    obtain ⟨v, hv, hplaced⟩ := h.exists_visit hr hn
    obtain ⟨u, hu, rfl⟩ := Survey.exists_use options hv
      (by rwa [Visit.node, hplaced]) (by rwa [Visit.node, hplaced])
    exact ⟨u, List.mem_filter.mpr ⟨hu, by simpa using hname⟩, rfl⟩

theorem nodup_clips (s : Setting) (c : Composition) : (of s c context).clips.Nodup :=
  nodup_distinctFrom_id _ _

end AssetTypes

/-- The names of live objects that have no entry of their own: they are asked for by elements of
nodes that are no meshes, or for geometries whose owner is no mesh that can be reached. -/
inductive Plan.Untyped (p : Plan) : String → Prop
  | element {e : Element} : e ∈ p.composition.written → ¬ e.origin.node.isMesh →
    p.setting.ReadsNode e.origin.node → Untyped p e.origin.node.name
  | owner {g : SharedGeometry} {node : Node} : p.survey.instancing →
    g ∈ p.survey.registry.geometries → p.setting.scene.nodes[g.owner]? = some node →
    ¬ (node.isMesh ∧ g.owner ∈ p.setting.scene.reachable) → Untyped p node.name

namespace Plan

variable {scene : Scene} {options : Options} {saved : Option Json} {tree : SceneTree}

theorem types_of : (Plan.of scene options saved tree).types =
    .of (.of scene options) (.of (.of scene options) tree)
      (Plan.of scene options saved tree).controls.defaults := rfl

theorem mem_nodes_types (h : scene.validate = .ok tree) {id : NodeId} {node : Node}
    (hr : id ∈ scene.reachable) (hn : scene.nodes[id]? = some node) (hmesh : node.isMesh) :
    node.name ∈ (Plan.of scene options saved tree).types.nodes.map Prod.fst := by
  have hf := Scene.tree_finds (Scene.validate_eq_ok.mp h).1
  obtain ⟨v, hv, hplaced⟩ := hf.exists_visit hr hn
  rw [types_of, AssetTypes.mem_nodes h]
  refine ⟨v, hv, .inl ?_, ?_⟩ <;> rw [Visit.node, hplaced]
  exact hmesh

theorem mem_nodes_types_of_mem_joints (h : scene.validate = .ok tree) {p : Placed}
    (hp : p ∈ tree.joints) :
    p.node.name ∈ (Plan.of scene options saved tree).types.nodes.map Prod.fst := by
  have hf := Scene.tree_finds (Scene.validate_eq_ok.mp h).1
  have hnone : ∀ q ∈ (none : Option Placed), ¬ q.node.isBone := by simp
  obtain ⟨v, hv, rfl, htop⟩ := SceneTree.exists_visit_of_mem_joints false hnone hp
  rw [types_of, AssetTypes.mem_nodes h]
  exact ⟨v, hf.visits_eq ▸ hv, .inr htop, rfl⟩

theorem mem_nodes_types_of_sync (h : scene.validate = .ok tree) {m : MaterialSync}
    (hm : m ∈ (Plan.of scene options saved tree).controls.materialSync) :
    m.owner ∈ (Plan.of scene options saved tree).types.nodes.map Prod.fst := by
  have hf := Scene.tree_finds (Scene.validate_eq_ok.mp h).1
  rw [materialSync_of, List.mem_map] at hm
  obtain ⟨⟨u, i⟩, hu, rfl⟩ := hm
  have hu := List.fst_mem_of_mem_zipIdx hu
  obtain ⟨⟨v, hv, hplaced⟩, hmesh, -⟩ := @Survey.firstUser_of_mem_materials scene options u hu
  rw [← hplaced] at hmesh
  rw [types_of, AssetTypes.mem_nodes h]
  exact ⟨v, hv, .inl hmesh, by rw [Visit.node, hplaced]; rfl⟩

theorem mem_nodes_types_of_element (h : scene.validate = .ok tree) {e : Element}
    (he : e ∈ (Plan.of scene options saved tree).composition.written)
    (hmesh : e.origin.node.isMesh) :
    e.origin.node.name ∈ (Plan.of scene options saved tree).types.nodes.map Prod.fst := by
  have hf := Scene.tree_finds (Scene.validate_eq_ok.mp h).1
  exact mem_nodes_types h (Composition.reachable_of_mem_written hf he)
    ((Composition.mem_written hf).mp he).1 hmesh

theorem untyped_of_access (h : scene.validate = .ok tree) {name : String}
    (ha : .node name ∈ (Plan.of scene options saved tree).accesses)
    (hname : name ∉ (Plan.of scene options saved tree).types.nodes.map Prod.fst) :
    (Plan.of scene options saved tree).Untyped name := by
  have hf := Scene.tree_finds (Scene.validate_eq_ok.mp h).1
  rcases mem_accesses_of.mp ha with (⟨p, hp, he⟩ | ⟨e, he, ha⟩) | ⟨r, hr, he⟩ | ⟨m, hm, he⟩
  · cases he
    exact absurd (mem_nodes_types_of_mem_joints h hp) hname
  · obtain ⟨-, ⟨m, -, -, hmaterial⟩ | ⟨hreads, hnode⟩⟩ :=
      (Composition.mem_accesses_of_mem_written hf he).mp ha
    · cases hmaterial
    · cases hnode
      exact .element he (fun hmesh => hname (mem_nodes_types_of_element h he hmesh)) hreads
  · cases he
    obtain ⟨hi, g, hg, node, hn, rfl⟩ := exists_owner_of_mem_instances h hr
    exact .owner hi hg hn fun ⟨hmesh, hr⟩ => hname (mem_nodes_types h hr hn hmesh)
  · cases he
    exact absurd (mem_nodes_types_of_sync h hm) hname

theorem mem_materials_types_of_access (h : scene.validate = .ok tree) {name : String}
    (ha : .material name ∈ (Plan.of scene options saved tree).accesses) :
    name ∈ (Plan.of scene options saved tree).types.materials.map Prod.fst := by
  have hf := Scene.tree_finds (Scene.validate_eq_ok.mp h).1
  rcases mem_accesses_of.mp ha with (⟨p, -, he⟩ | ⟨e, he, ha⟩) | ⟨r, -, he⟩ | ⟨m, -, he⟩
  case inl.inr =>
    obtain ⟨-, ⟨m, -, ⟨hne, hone⟩, hmaterial⟩ | ⟨-, hnode⟩⟩ :=
      (Composition.mem_accesses_of_mem_written hf he).mp ha
    · cases hmaterial
      have hcard := (hf.materialCount_survey options m.name).symm.trans hone
      rw [types_of, AssetTypes.mem_materials hf]
      exact ⟨hne, Finset.card_pos.mp (hcard ▸ Nat.one_pos)⟩
    · cases hnode
  all_goals cases he

theorem types_text_mem_blocks {p : Plan} (h : p.options.types) : p.types.text ∈ p.blocks := by
  simp [blocks, h]

end Plan

def entryText (entry : String × String) : String :=
  "    " ++ (if Naming.isBareIdentifier entry.1 then entry.1 else Text.quote entry.1) ++
    ": THREE." ++ entry.2

def assetTypeText (nodes materials : List (String × String)) : String :=
  "type GLTFResult = GLTF & \x7b\n  nodes: \x7b\n" ++ Text.unlines (nodes.map entryText) ++
    "  \x7d\n  materials: \x7b\n" ++ Text.unlines (materials.map entryText) ++ "  \x7d\n"

namespace AssetTypes

theorem join_rows (entries : List (String × String)) :
    String.join (entries.map row) = Text.unlines (entries.map entryText) := by
  rw [Text.unlines, List.map_map]
  refine congrArg String.join (List.map_congr_left fun entry _ => ?_)
  rw [Function.comp_apply]
  unfold row entryText Naming.objectKey
  rfl

theorem within_assetType (t : AssetTypes) :
    Text.Within (assetTypeText t.nodes t.materials) t.text := by
  unfold text assetTypeText
  rw [join_rows, join_rows]
  exact ((((Text.Within.refl _).append_right _).append_right _).append_right _).append_right _

theorem within_actionNames {t : AssetTypes} (h : t.clips ≠ []) :
    Text.Within ("type ActionName = " ++ " | ".intercalate (t.clips.map Text.quote) ++ "\n")
      t.text := by
  have hclips : Text.Within ("type ActionName = " ++ " | ".intercalate (t.clips.map Text.quote) ++
      "\n") (clipsText t.clips) := by
    unfold clipsText
    rw [if_neg (by simpa using h), show "\n\n" = "\n" ++ "\n" from rfl]
    exact ⟨"  animations: GLTFAction[]\n\x7d\n\n", _, by simp only [String.append_assoc]; rfl⟩
  unfold text
  exact (((hclips.append_left _).append_right _).append_right _).append_right _

end AssetTypes

structure Plan.TypesAccesses (p : Plan) (scene : Scene) (options : Options) : Prop where
  nodup_nodes : (p.types.nodes.map Prod.fst).Nodup
  nodup_materials : (p.types.materials.map Prod.fst).Nodup
  nodup_clips : p.types.clips.Nodup
  block : options.types → p.types.text ∈ p.blocks
  printed : options.types → Text.Within (assetTypeText p.types.nodes p.types.materials) p.text
  actions : options.types → p.types.clips ≠ [] →
    Text.Within ("type ActionName = " ++ " | ".intercalate (p.types.clips.map Text.quote) ++ "\n")
      p.text
  entries : ∀ name, name ∈ p.types.nodes.map Prod.fst ↔
    ∃ v ∈ scene.visits, (v.node.isMesh ∨ AssetTypes.isTopBone v) ∧ v.node.name = name
  bones : ∀ name ∈ p.composition.content.flatMap Markup.lives, name ∈ p.types.nodes.map Prod.fst
  meshes : ∀ e ∈ p.composition.written, e.origin.node.isMesh →
    ∀ name, .node name ∈ e.accesses → name ∈ p.types.nodes.map Prod.fst
  owners : ∀ g ∈ p.survey.registry.geometries, ∀ node, scene.nodes[g.owner]? = some node →
    node.isMesh → g.owner ∈ scene.reachable → node.name ∈ p.types.nodes.map Prod.fst
  syncs : ∀ m ∈ p.controls.materialSync, m.owner ∈ p.types.nodes.map Prod.fst
  untyped : ∀ name, .node name ∈ p.accesses →
    name ∈ p.types.nodes.map Prod.fst ∨ p.Untyped name
  materials : ∀ name, .material name ∈ p.accesses → name ∈ p.types.materials.map Prod.fst

/-- The types of a unit have an entry for all that the unit takes from the asset, but for the live
objects which they leave out: meshes that can be reached and bones below no other are typed and
nothing else, so what elements of other nodes go through, and owners of geometries that are no such
meshes, have an entry only if they share their name with one. No name is typed twice. -/
theorem typed_accesses {scene : Scene} {options : Options} {saved : Option Json} {p : Plan}
    (h : plan scene options saved = .ok p) : p.TypesAccesses scene options := by
  obtain ⟨tree, htree, rfl⟩ := plan_eq_ok.mp h
  have hf := Scene.tree_finds (Scene.validate_eq_ok.mp htree).1
  constructor
  case nodup_nodes => exact nodup_map_distinctBy _
  case nodup_materials => exact nodup_map_distinctBy _
  case nodup_clips => exact AssetTypes.nodup_clips _ _
  case block => exact fun htypes => Plan.types_text_mem_blocks htypes
  case printed =>
    exact fun htypes => (AssetTypes.within_assetType _).trans
      (Plan.within_text (Plan.types_text_mem_blocks htypes))
  case actions =>
    exact fun htypes hclips => (AssetTypes.within_actionNames hclips).trans
      (Plan.within_text (Plan.types_text_mem_blocks htypes))
  case entries => exact fun name => AssetTypes.mem_nodes htree
  case bones =>
    intro name hname
    have hlives : name ∈ tree.joints.map (·.node.name) := by
      rw [← Composition.lives_of (.of scene options)]
      exact hname
    obtain ⟨p, hp, rfl⟩ := List.mem_map.mp hlives
    exact Plan.mem_nodes_types_of_mem_joints htree hp
  case meshes =>
    intro e he hmesh name ha
    obtain ⟨-, ⟨m, -, -, hmaterial⟩ | ⟨-, hnode⟩⟩ :=
      (Composition.mem_accesses_of_mem_written hf he).mp ha
    · cases hmaterial
    · cases hnode
      exact Plan.mem_nodes_types_of_element htree he hmesh
  case owners => exact fun g _ node hn hmesh hr => Plan.mem_nodes_types htree hr hn hmesh
  case syncs => exact fun m => Plan.mem_nodes_types_of_sync htree
  case untyped => exact fun name ha => or_iff_not_imp_left.mpr (Plan.untyped_of_access htree ha)
  case materials => exact fun name => Plan.mem_materials_types_of_access htree

def Scene.cloud : Scene where
  nodes := #[
    { type := "Scene", children := [1] },
    { type := "Points", name := "Dots", geometry := some 0 }]
  geometries := #[{ key := "dots" }]

theorem Scene.cloud_validate : ∃ tree, Scene.cloud.validate = .ok tree :=
  exists_tree_of_isOk (by decide +kernel)

/-- The geometry of the cloud is taken from a node that has no entry. -/
theorem cloud_untyped : ∃ p, plan Scene.cloud { types := true } none = .ok p ∧
    .node "Dots" ∈ p.accesses ∧ "Dots" ∉ p.types.nodes.map Prod.fst := by
  obtain ⟨tree, htree⟩ := Scene.cloud_validate
  have hf := Scene.tree_finds (Scene.validate_eq_ok.mp htree).1
  refine ⟨_, plan_eq_ok.mpr ⟨tree, htree, rfl⟩, ?_, fun hname => ?_⟩
  · let dots : Placed := ⟨1, { type := "Points", name := "Dots", geometry := some 0 }⟩
    have hvisited : Scene.cloud.Visited 1 := .outermost (by
      simp [Scene.cloud, Scene.outermost, Scene.rootNode?, Node.nodeClass, NodeClass.ofType])
    have hgives : ¬ (Setting.of Scene.cloud { types := true }).GivesWay dots := fun hg =>
      absurd hg.group (by decide)
    have hunshared : ¬ ∃ g, (Setting.of Scene.cloud { types := true }).survey.Shares
        (Setting.of Scene.cloud { types := true }).scene dots.node g := by
      rintro ⟨g, hg⟩
      exact absurd hg.instancing Bool.false_ne_true
    refine Plan.mem_accesses_of.mpr (.inl (.inr
      ⟨(Setting.of Scene.cloud { types := true }).element dots, ?_, ?_⟩))
    · exact (Composition.mem_written hf).mpr ⟨rfl, hvisited, by decide, hgives, rfl⟩
    · exact Setting.mem_accesses_element.mpr ⟨hunshared, .inr ⟨.inl rfl, rfl⟩⟩
  · have hkinds : ∀ node ∈ Scene.cloud.nodes, ¬ node.isMesh ∧ ¬ node.isBone := by
      simp [Scene.cloud, Node.isMesh, Node.isBone, Node.nodeClass, NodeClass.ofType]
    rw [Plan.types_of, AssetTypes.mem_nodes htree] at hname
    obtain ⟨v, hv, hq, -⟩ := hname
    obtain ⟨hmesh, hbone⟩ := hkinds _ (Array.mem_of_getElem? (hf.nodes_of_mem_visits hv))
    exact hq.elim hmesh fun htop => hbone (Bool.and_eq_true_iff.mp htop).1

theorem sample_typed_accesses : ∃ p, plan Scene.sample { types := true } none = .ok p ∧
    p.types.text ∈ p.blocks ∧ "Arm" ∈ p.types.nodes.map Prod.fst ∧
    ∀ name, .node name ∈ p.accesses → name ∈ p.types.nodes.map Prod.fst ∨ p.Untyped name := by
  obtain ⟨tree, htree⟩ := Scene.sample_validate
  have hf := Scene.tree_finds (Scene.validate_eq_ok.mp htree).1
  have hp : plan Scene.sample { types := true } none =
      .ok (.of Scene.sample { types := true } none tree) := plan_eq_ok.mpr ⟨tree, htree, rfl⟩
  have htyped := typed_accesses hp
  have hroot : Scene.sample.Reaches 1 := .root
  obtain ⟨v, hv, hplaced⟩ := hf.exists_visit
    (Scene.mem_reachable.mpr ⟨by decide, hroot.child (by decide +kernel)⟩)
    (show Scene.sample.nodes[0]? = some _ from rfl)
  refine ⟨_, hp, htyped.block rfl, (htyped.entries "Arm").mpr ⟨v, hv, .inl ?_, ?_⟩,
      htyped.untyped⟩ <;>
    rw [Visit.node, hplaced]
  · decide
  · rfl

end SceneMarkup
