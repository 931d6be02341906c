import SceneMarkup.Proofs.Registry
import SceneMarkup.Proofs.Visits
import SceneMarkup.Proofs.Walk
import SceneMarkup.Survey.Basic

namespace SceneMarkup

namespace Scene

def UsesGeometry (scene : Scene) (key : String) (id : NodeId) : Prop :=
  ∃ node g, scene.nodes[id]? = some node ∧ node.isMesh ∧ scene.geometryOf? node = some g ∧
    g.key = key

def CarriesMaterial (scene : Scene) (name : String) (id : NodeId) : Prop :=
  ∃ node m, scene.nodes[id]? = some node ∧ node.isMesh ∧ scene.materialOf? node = some m ∧
    m.name = name

open Classical in
noncomputable def users (scene : Scene) (key : String) : Finset NodeId :=
  {id ∈ scene.reachable | scene.UsesGeometry key id}

open Classical in
noncomputable def carriers (scene : Scene) (name : String) : Finset NodeId :=
  {id ∈ scene.reachable | scene.CarriesMaterial name id}

def IsFirstUser (scene : Scene) (order : List NodeId) (key : String) (id : NodeId) : Prop :=
  scene.UsesGeometry key id ∧
    ∃ before after, order = before ++ id :: after ∧ ∀ q ∈ before, ¬ scene.UsesGeometry key q

structure Shares (scene : Scene) (order : List NodeId) (p : Placed) (g : SharedGeometry) :
    Prop where
  first : scene.IsFirstUser order g.key p.id
  count : g.count = (scene.users g.key).card
  owner : g.owner = (Registry.declaredOwner? scene g.key).getD p.id

variable {scene : Scene} {node : Node}

theorem mem_users {key : String} {id : NodeId} :
    id ∈ scene.users key ↔ id ∈ scene.reachable ∧ scene.UsesGeometry key id := by
  simp [users]

theorem mem_carriers {name : String} {id : NodeId} :
    id ∈ scene.carriers name ↔ id ∈ scene.reachable ∧ scene.CarriesMaterial name id := by
  simp [carriers]

theorem meshKey?_eq_some {key : String} : scene.meshKey? node = some key ↔
    ∃ g, node.isMesh ∧ scene.geometryOf? node = some g ∧ g.key = key := by
  rw [meshKey?]
  cases node.isMesh <;> simp

theorem meshMaterial?_eq_some {name : String} : scene.meshMaterial? node = some name ↔
    ∃ m, node.isMesh ∧ scene.materialOf? node = some m ∧ m.name = name := by
  rw [meshMaterial?]
  cases node.isMesh <;> simp

theorem usesGeometry_iff {p : Placed} (hp : scene.nodes[p.id]? = some p.node) {key : String} :
    scene.UsesGeometry key p.id ↔ scene.meshKey? p.node = some key := by
  simp [UsesGeometry, hp, meshKey?_eq_some]

theorem carriesMaterial_iff {p : Placed} (hp : scene.nodes[p.id]? = some p.node) {name : String} :
    scene.CarriesMaterial name p.id ↔ scene.meshMaterial? p.node = some name := by
  simp [CarriesMaterial, hp, meshMaterial?_eq_some]

end Scene

namespace Search.Finds

variable {scene : Scene} {t : SceneTree}

theorem countP_preorder (h : Finds scene t) {q : Placed → Bool} {P : NodeId → Prop}
    [DecidablePred P] (hq : ∀ p ∈ t.preorder, q p ↔ P p.id) :
    t.preorder.countP q = Finset.card {id ∈ scene.reachable | P id} := by
  have hids : t.preorder.countP q = (t.ids.filter fun id => decide (P id)).length := by
    rw [SceneTree.ids, List.filter_map, List.length_map, ← List.countP_eq_length_filter]
    exact List.countP_congr fun p hp => by simpa using hq p hp
  rw [hids, h.reachable_eq, ← List.toFinset_card_of_nodup (h.nodup.filter _), List.toFinset_filter]
  simp only [decide_eq_true_eq]

theorem count_sightings (h : Finds scene t) (key : String) :
    (Registry.sightings scene t.preorder).count key = (scene.users key).card := by
  classical
  rw [Registry.sightings, List.count_filterMap, Scene.users]
  convert h.countP_preorder fun p hp => ?_
  rw [Scene.usesGeometry_iff (h.unfolds.node_of_mem hp), beq_iff_eq]

theorem count_meshMaterials (h : Finds scene t) (name : String) :
    (t.preorder.filterMap (scene.meshMaterial? ·.node)).count name =
      (scene.carriers name).card := by
  classical
  rw [List.count_filterMap, Scene.carriers]
  convert h.countP_preorder fun p hp => ?_
  rw [Scene.carriesMaterial_iff (h.unfolds.node_of_mem hp), beq_iff_eq]

theorem isFirstUser (h : Finds scene t) {key : String} {p : Placed}
    (hp : Registry.IsFirst scene t.preorder key p) : scene.IsFirstUser t.ids key p.id := by
  obtain ⟨hkey, before, after, heq, hbefore⟩ := List.find?_eq_some_iff_append.mp hp
  have hmem : ∀ q ∈ before ++ p :: after, scene.nodes[q.id]? = some q.node := fun q hq =>
    h.unfolds.node_of_mem (heq ▸ hq)
  refine ⟨(Scene.usesGeometry_iff (hmem p (by simp))).mpr (beq_iff_eq.mp hkey),
    before.map (·.id), after.map (·.id), by simp [SceneTree.ids, heq], ?_⟩
  rw [List.forall_mem_map]
  intro q hq huses
  have hs := (Scene.usesGeometry_iff (hmem q (List.mem_append_left _ hq))).mp huses
  simpa [hs] using hbefore q hq

theorem shares (h : Finds scene t) {p : Placed} {g : SharedGeometry}
    (hd : Registry.Describes scene t.preorder p g) : scene.Shares t.ids p g where
  first := h.isFirstUser hd.first
  count := hd.count.trans (h.count_sightings g.key)
  owner := hd.owner

theorem registry_eq (h : Finds scene t) (options : Options) :
    (Survey.of scene options).registry = .of scene options t.preorder := by
  rw [← h.map_placed_visits]
  rfl

theorem materialCount_survey (h : Finds scene t) (options : Options) (name : String) :
    (Survey.of scene options).registry.materialCount name = (scene.carriers name).card := by
  rw [h.registry_eq, Registry.materialCount_of, h.count_meshMaterials]

theorem mem_keys_survey (h : Finds scene t) (options : Options) (key : String) :
    key ∈ (Survey.of scene options).registry.geometries.map (·.key) ↔
      (if options.instanceAll then 1 else 2) ≤ (scene.users key).card := by
  obtain ⟨firsts, hr⟩ := Registry.Records.foldl scene t.preorder
  have hcount : ∀ g ∈ (t.preorder.foldl (Registry.record scene) .empty).geometries,
      g.count = (scene.users g.key).card := fun g hg =>
    have ⟨_, _, hd⟩ := hr.exists_describes hg
    (h.shares hd).count
  have hused : key ∈ Registry.sightings scene t.preorder ↔ 1 ≤ (scene.users key).card := by
    rw [← h.count_sightings, Nat.one_le_iff_ne_zero, ← Nat.pos_iff_ne_zero, List.count_pos_iff]
  have hkept : key ∈ (Survey.of scene options).registry.geometries.map (·.key) ↔
      key ∈ Registry.sightings scene t.preorder ∧
        (options.instanceAll ∨ 1 < (scene.users key).card) := by
    simp only [h.registry_eq, Registry.geometries_of, List.mem_map, List.mem_filter,
      Bool.or_eq_true, decide_eq_true_eq, ← hr.keys]
    constructor
    · rintro ⟨g, ⟨hg, hk⟩, rfl⟩
      exact ⟨⟨g, hg, rfl⟩, hcount g hg ▸ hk⟩
    · rintro ⟨⟨g, hg, rfl⟩, hk⟩
      exact ⟨g, ⟨hg, (hcount g hg).symm ▸ hk⟩, rfl⟩
  rw [hkept, hused]
  cases options.instanceAll with
  | true => simp
  | false =>
    simp only [Bool.false_eq_true, false_or, if_false]
    omega

end Search.Finds

namespace Survey

variable (scene : Scene) (options : Options)

theorem indexed_registry : (Survey.of scene options).registry.Indexed :=
  Registry.indexed_of scene options (scene.visits.map Visit.placed)

theorem instancing_iff : (Survey.of scene options).instancing ↔
    (options.instancing ∨ options.instanceAll) ∧
      (Survey.of scene options).registry.geometries ≠ [] := by
  have hand : (Survey.of scene options).instancing = (options.requestsInstancing &&
      !(Survey.of scene options).registry.geometries.isEmpty) := rfl
  rw [hand]
  simp [Options.requestsInstancing]

end Survey

/-- The registry of a good scene is exact. There are geometries in the order in which their keys are
first met in preorder, named there one after the other; of them the registry keeps, under all
options, those that are used often enough. It counts the meshes that can be reached, by material
name and by key, and finds the geometry of every key that it keeps. -/
theorem registry_of_validate {scene : Scene} {tree : SceneTree} (h : scene.validate = .ok tree) :
    ∃ order firsts all, (∀ ids, scene.Preorder [scene.root] ids ↔ ids = order) ∧
      (firsts.map Placed.id).Sublist order ∧ (∀ p ∈ firsts, scene.nodes[p.id]? = some p.node) ∧
      List.Forall₂ (scene.Shares order) firsts all ∧
      all.map (·.name) = Naming.uniqueAll [] (firsts.map fun p => Naming.displayBase p.node.name) ∧
      ∀ options : Options,
        let survey := Survey.of scene options
        let registry := survey.registry
        registry.geometries = all.filter (fun g => options.instanceAll || decide (1 < g.count)) ∧
        (registry.geometries.map (·.key)).Nodup ∧
        (∀ key, key ∈ registry.geometries.map (·.key) ↔
          (if options.instanceAll then 1 else 2) ≤ (scene.users key).card) ∧
        (∀ name, registry.materialCount name = (scene.carriers name).card) ∧
        (∀ key g, registry.geometry? key = some g ↔ g ∈ registry.geometries ∧ g.key = key) ∧
        (survey.instancing ↔
          (options.instancing ∨ options.instanceAll) ∧ registry.geometries ≠ []) := by
  have hf := Scene.tree_finds (Scene.validate_eq_ok.mp h).1
  have hpre : scene.Preorder [scene.root] tree.ids := hf.root ▸ .of_unfolds hf.unfolds
  obtain ⟨firsts, hr⟩ := Registry.Records.foldl scene tree.preorder
  refine ⟨tree.ids, firsts, _, fun ids => ⟨fun ho => ho.unique hpre, fun ho => ho ▸ hpre⟩,
    hr.sublist.map _, fun p hp => hf.unfolds.node_of_mem (hr.sublist.subset hp),
    hr.describes.imp fun p g => hf.shares, hr.names, fun options => ⟨?_, ?_⟩⟩
  · rw [hf.registry_eq]
    exact Registry.geometries_of ..
  · have hindexed := Survey.indexed_registry scene options
    exact ⟨hindexed.nodup, hf.mem_keys_survey options, hf.materialCount_survey options,
      fun key g => hindexed.geometry?_eq_some, Survey.instancing_iff scene options⟩

theorem sample_registry : (∃ tree, Scene.sample.validate = .ok tree) ∧
    ∃ g, (Survey.of Scene.sample {}).registry.geometry? "part" = some g := by
  obtain ⟨tree, h⟩ := Scene.sample_validate
  obtain ⟨_, _, _, _, _, _, _, _, hall⟩ := registry_of_validate h
  obtain ⟨-, -, hkeys, -, hfind, -⟩ := hall {}
  have hroot : Scene.sample.Reaches 1 := .root
  have hbone : Scene.sample.Reaches 2 := hroot.child (by decide +kernel)
  have hused : ({0, 4} : Finset NodeId) ⊆ Scene.sample.users "part" := by
    simp only [Finset.insert_subset_iff, Finset.singleton_subset_iff, Scene.mem_users,
      Scene.mem_reachable]
    exact ⟨⟨⟨by decide, hroot.child (by decide +kernel)⟩, _, _, rfl, by decide, rfl, rfl⟩,
      ⟨by decide, hbone.child (by decide +kernel)⟩, _, _, rfl, by decide, rfl, rfl⟩
  obtain ⟨g, hg, hk⟩ := List.mem_map.mp ((hkeys "part").mpr (Finset.card_le_card hused))
  exact ⟨⟨tree, h⟩, g, (hfind "part" g).mpr ⟨hg, hk⟩⟩

end SceneMarkup
