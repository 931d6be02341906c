import SceneMarkup.Proofs.Types

namespace SceneMarkup

/-- A node is reached by its name for its material, if that is not bound by its own name, for its
skeleton, or for its morph targets. -/
def Scene.ReachedUnchecked (scene : Scene) (node : Node) : Prop :=
  (∃ m, scene.materialOf? node = some m ∧ ¬ (m.name ≠ "" ∧ (scene.carriers m.name).card = 1)) ∨
    node.skeleton.isSome ∨
    ∃ morph, node.morph = some morph ∧ (morph.dictionary ≠ [] ∨ morph.influences ≠ [])

section

variable {scene : Scene} {options : Options} {saved : Option Json} {tree : SceneTree}

theorem readsNode_iff (h : Search.Finds scene tree) {node : Node} :
    (Setting.of scene options).ReadsNode node ↔
      node.geometry.isSome ∨ scene.ReachedUnchecked node := by
  have hcount (name : String) :
      (Setting.of scene options).survey.registry.materialCount name = (scene.carriers name).card :=
    h.materialCount_survey options name
  simp only [Setting.ReadsNode, Setting.NamesOneMaterial, Scene.ReachedUnchecked, hcount]
  rfl

theorem Setting.not_shares_of_geometry_eq_none {s : Setting} {node : Node}
    (h : node.geometry = none) : ¬ ∃ g, s.survey.Shares s.scene node g := by
  rintro ⟨g, hg⟩
  obtain ⟨own, hown, -⟩ := hg.listed
  simp [Scene.geometryOf?, h] at hown

theorem Scene.bone_name_ne_empty (h : scene.validate = .ok tree) {p : Placed}
    (hp : p ∈ tree.joints) : p.node.name ≠ "" := by
  have hf := tree_finds (validate_eq_ok.mp h).1
  have hnone : ∀ q ∈ (none : Option Placed), ¬ q.node.isBone := by simp
  obtain ⟨v, hv, rfl, htop⟩ := SceneTree.exists_visit_of_mem_joints false hnone hp
  exact name_ne_empty h (hf.nodes_of_mem_visits (hf.visits_eq ▸ hv))
    (.inr (Bool.and_eq_true_iff.mp htop).1)

theorem Plan.instance_owner_ne_empty (h : scene.validate = .ok tree) {r : InstanceRow}
    (hr : r ∈ (Plan.of scene options saved tree).instances) : r.owner ≠ "" := by
  obtain ⟨-, g, hg, node, hn, rfl⟩ := exists_owner_of_mem_instances h hr
  obtain ⟨owner, -, hn', hname, -⟩ := Scene.exists_owner h hg
  cases hn.symm.trans hn'
  exact hname

theorem Plan.sync_owner_ne_empty (h : scene.validate = .ok tree) {m : MaterialSync}
    (hm : m ∈ (Plan.of scene options saved tree).controls.materialSync) : m.owner ≠ "" := by
  have hf := Scene.tree_finds (Scene.validate_eq_ok.mp h).1
  rw [materialSync_of, List.mem_map] at hm
  obtain ⟨⟨u, i⟩, hu, rfl⟩ := hm
  obtain ⟨⟨v, hv, hplaced⟩, hmesh, -⟩ :=
    @Survey.firstUser_of_mem_materials scene options u (List.fst_mem_of_mem_zipIdx hu)
  rw [← hplaced] at hmesh
  have hn := hf.nodes_of_mem_visits hv
  have hname := Scene.name_ne_empty h hn (.inl (Scene.isSome_geometry h hn hmesh))
  rwa [Visit.node, hplaced] at hname

end

/-- By the empty name a unit reaches nothing but the materials, skeletons and morph targets of nodes
without a name. Bones, geometries, the owners of shared geometries and the meshes whose materials
are kept up to date have names, and so has what is bound by the name of a material. -/
structure Plan.NamesAccesses (p : Plan) (scene : Scene) : Prop where
  bones : "" ∉ p.composition.content.flatMap Markup.lives
  geometries : ∀ e ∈ p.composition.written,
    e.origin.node.geometry.isSome → e.origin.node.name ≠ ""
  owners : ∀ r ∈ p.instances, r.owner ≠ ""
  syncs : ∀ m ∈ p.controls.materialSync, m.owner ≠ ""
  materials : .material "" ∉ p.accesses
  unnamed : .node "" ∈ p.accesses ↔ ∃ e ∈ p.composition.written,
    e.origin.node.name = "" ∧ scene.ReachedUnchecked e.origin.node

theorem plan_empty_accesses {scene : Scene} {options : Options} {saved : Option Json} {p : Plan}
    (h : plan scene options saved = .ok p) : p.NamesAccesses scene := by
  obtain ⟨tree, htree, rfl⟩ := plan_eq_ok.mp h
  have hf := Scene.tree_finds (Scene.validate_eq_ok.mp htree).1
  have hlives : ∀ p ∈ tree.joints, p.node.name ≠ "" := fun p => Scene.bone_name_ne_empty htree
  have hrows : ∀ r ∈ (Plan.of scene options saved tree).instances, r.owner ≠ "" :=
    fun r => Plan.instance_owner_ne_empty htree
  have hsyncs : ∀ m ∈ (Plan.of scene options saved tree).controls.materialSync, m.owner ≠ "" :=
    fun m => Plan.sync_owner_ne_empty htree
  constructor
  case bones =>
    intro hname
    have hname : "" ∈ tree.joints.map (·.node.name) :=
      Composition.lives_of (.of scene options) tree ▸ hname
    obtain ⟨p, hp, he⟩ := List.mem_map.mp hname
    exact hlives p hp he
  case geometries =>
    exact fun e he hg => Scene.name_ne_empty htree ((Composition.mem_written hf).mp he).1 (.inl hg)
  case owners => exact hrows
  case syncs => exact hsyncs
  case materials =>
    intro ha
    rcases Plan.mem_accesses_of.mp ha with (⟨p, -, he⟩ | ⟨e, he, ha⟩) | ⟨r, -, he⟩ | ⟨m, -, he⟩
    case inl.inr =>
      obtain ⟨-, ⟨m, -, ⟨hne, -⟩, hmaterial⟩ | ⟨-, hnode⟩⟩ :=
        (Composition.mem_accesses_of_mem_written hf he).mp ha
      · exact hne (Access.material.inj hmaterial).symm
      · cases hnode
    all_goals cases he
  case unnamed =>
    constructor
    · intro ha
      -- Of all that reads a node, only what an element is made of may be without a name.
      rcases Plan.mem_accesses_of.mp ha with (⟨p, hp, he⟩ | ⟨e, he, ha⟩) | ⟨r, hr, he⟩ | ⟨m, hm, he⟩
      · exact absurd (Access.node.inj he).symm (hlives p hp)
      · obtain ⟨-, ⟨m, -, -, hmaterial⟩ | ⟨hreads, hnode⟩⟩ :=
          (Composition.mem_accesses_of_mem_written hf he).mp ha
        · cases hmaterial
        · have hname := (Access.node.inj hnode).symm
          refine ⟨e, he, hname, ((readsNode_iff hf).mp hreads).resolve_left fun hg => ?_⟩
          exact Scene.name_ne_empty htree ((Composition.mem_written hf).mp he).1 (.inl hg) hname
      · exact absurd (Access.node.inj he).symm (hrows r hr)
      · exact absurd (Access.node.inj he).symm (hsyncs m hm)
    · rintro ⟨e, he, hname, hreached⟩
      have hn := ((Composition.mem_written hf).mp he).1
      have hgeometry := ((Scene.wellFormedNode_of_validate htree hn).unnamed hname).1
      refine Plan.mem_accesses_of.mpr (.inl (.inr ⟨e, he, ?_⟩))
      exact (Composition.mem_accesses_of_mem_written hf he).mpr
        ⟨Setting.not_shares_of_geometry_eq_none hgeometry,
          .inr ⟨(readsNode_iff hf).mpr (.inr hreached), by rw [hname]⟩⟩

def Scene.nameless : Scene where
  nodes := #[
    { type := "Scene", children := [1] },
    { type := "Points", material := some 0 }]
  materials := #[{ name := "Dust" }]

theorem Scene.nameless_validate : ∃ tree, Scene.nameless.validate = .ok tree :=
  exists_tree_of_isOk (by decide +kernel)

/-- The material of the cloud is reached by the empty name. -/
theorem nameless_reached : ∃ p, plan Scene.nameless {} none = .ok p ∧ .node "" ∈ p.accesses := by
  obtain ⟨tree, htree⟩ := Scene.nameless_validate
  have hf := Scene.tree_finds (Scene.validate_eq_ok.mp htree).1
  let dust : Placed := ⟨1, { type := "Points", material := some 0 }⟩
  have hvisited : Scene.nameless.Visited 1 := .outermost (by
    simp [Scene.nameless, Scene.outermost, Scene.rootNode?, Node.nodeClass, NodeClass.ofType])
  have hgives : ¬ (Setting.of Scene.nameless {}).GivesWay dust := fun hg =>
    absurd hg.group (by decide)
  have hcarriers : (Scene.nameless.carriers "Dust").card ≠ 1 := by
    have hmeshes : ∀ node ∈ Scene.nameless.nodes, ¬ node.isMesh := by
      simp [Scene.nameless, Node.isMesh, Node.nodeClass, NodeClass.ofType]
    have hempty : Scene.nameless.carriers "Dust" = ∅ := by
      refine Finset.eq_empty_of_forall_notMem fun id hid => ?_
      obtain ⟨-, node, m, hn, hmesh, -⟩ := Scene.mem_carriers.mp hid
      exact hmeshes node (Array.mem_of_getElem? hn) hmesh
    simp [hempty]
  have hreached : Scene.nameless.ReachedUnchecked dust.node :=
    .inl ⟨{ name := "Dust" }, rfl, fun hone => hcarriers hone.2⟩
  refine ⟨_, plan_eq_ok.mpr ⟨tree, htree, rfl⟩, Plan.mem_accesses_of.mpr (.inl (.inr
    ⟨(Setting.of Scene.nameless {}).element dust, ?_, ?_⟩))⟩
  · exact (Composition.mem_written hf).mpr ⟨rfl, hvisited, by decide, hgives, rfl⟩
  · exact Setting.mem_accesses_element.mpr ⟨Setting.not_shares_of_geometry_eq_none rfl,
      .inr ⟨(readsNode_iff hf).mpr (.inr hreached), rfl⟩⟩

theorem sample_empty_accesses : ∃ p, plan Scene.sample { instancing := true } none = .ok p ∧
    .node "" ∉ p.accesses := by
  obtain ⟨tree, htree⟩ := Scene.sample_validate
  have hf := Scene.tree_finds (Scene.validate_eq_ok.mp htree).1
  have hp : plan Scene.sample { instancing := true } none =
      .ok (.of Scene.sample { instancing := true } none tree) := plan_eq_ok.mpr ⟨tree, htree, rfl⟩
  have hnames := plan_empty_accesses hp
  refine ⟨_, hp, fun ha => ?_⟩
  obtain ⟨e, he, -, hreached⟩ := hnames.unnamed.mp ha
  have hbare : ∀ node ∈ Scene.sample.nodes,
      node.material = none ∧ node.skeleton = none ∧ node.morph = none := by
    simp [Scene.sample]
  obtain ⟨hmaterial, hskeleton, hmorph⟩ :=
    hbare _ (Array.mem_of_getElem? ((Composition.mem_written hf).mp he).1)
  simp [Scene.ReachedUnchecked, Scene.materialOf?, hmaterial, hskeleton, hmorph] at hreached

end SceneMarkup
