import SceneMarkup.Proofs.Bindings
import SceneMarkup.Proofs.Defects
import SceneMarkup.Proofs.Elements
import SceneMarkup.Proofs.IndexedPlan

/-!
Keys of bound transforms. Which nodes have one is said by the scene and the precision: what stands
above a node counts, and how far its transform is from the identity. So the keys are the same in all
runs at one precision, and a key that was saved in one of them leads to no other node in another.
-/

namespace SceneMarkup

open SceneTree

namespace Scene

def IsSkinned (scene : Scene) (id : NodeId) : Prop :=
  ∃ bone node, scene.Reaches bone ∧ scene.nodes[bone]? = some node ∧ node.type = "Bone" ∧
    Relation.ReflTransGen scene.Lists bone id

structure BindsTransform (scene : Scene) (precision : Number.Precision) (id : NodeId) : Prop where
  reaches : scene.Reaches id
  ne_root : id ≠ scene.root
  unskinned : ¬ scene.IsSkinned id
  moved : ∃ node, scene.nodes[id]? = some node ∧ (TransformDelta.of precision node).any

variable {scene : Scene} {id below : NodeId} {node : Node}

theorem not_isBone_of_not_isSkinned (h : ¬ scene.IsSkinned id) (hr : scene.Reaches id)
    (hn : scene.nodes[id]? = some node) : ¬ node.isBone := fun hb =>
  h ⟨id, node, hr, hn, Node.isBone_iff.mp hb, .refl⟩

theorem IsSkinned.child (h : scene.IsSkinned id) (hc : below ∈ scene.childrenOf id) :
    scene.IsSkinned below := by
  obtain ⟨bone, node, hr, hn, hb, hpath⟩ := h
  exact ⟨bone, node, hr, hn, hb, hpath.tail hc⟩

end Scene

theorem SceneTree.exposed_parent {scene : Scene} {t : SceneTree} (h : t.Unfolds scene) {p : Placed}
    (hp : p ∈ t.exposed) (hne : p.id ≠ t.id) : ∃ q ∈ t.exposed, p.id ∈ scene.childrenOf q.id := by
  induction t with
  | branch q ts ih =>
    have hc := h.childrenOf_id
    rw [exposed_branch] at hp ⊢
    split at hp
    · contradiction
    · next hb =>
      rw [if_neg hb]
      rcases List.mem_cons.mp hp with rfl | hp
      · exact absurd rfl hne
      · obtain ⟨t, ht, hp⟩ := List.mem_flatMap.mp hp
        by_cases hid : p.id = t.id
        · exact ⟨q, List.mem_cons_self, by rw [hc, hid]; exact List.mem_map_of_mem ht⟩
        · cases h with
          | branch _ _ hts =>
            obtain ⟨r, hr, hl⟩ := ih t ht (hts t ht) hp hid
            exact ⟨r, List.mem_cons_of_mem _ (List.mem_flatMap.mpr ⟨t, ht, hr⟩), hl⟩

namespace Search.Finds

variable {scene : Scene} {t : SceneTree} {p q : Placed}

theorem exists_mem_preorder (h : Finds scene t) {id : NodeId} (hr : scene.Reaches id) :
    ∃ p ∈ t.preorder, p.id = id :=
  List.mem_map.mp ((h.unfolds.mem_ids_iff h.root).mpr hr)

theorem reaches_of_mem (h : Finds scene t) (hp : p ∈ t.preorder) : scene.Reaches p.id :=
  (h.unfolds.mem_ids_iff h.root).mp (List.mem_map_of_mem hp)

theorem exposed_of_lists (h : Finds scene t) (hp : p ∈ t.exposed) (hq : q ∈ t.preorder)
    (hl : scene.Lists q.id p.id) : q ∈ t.exposed := by
  have hreach : q.id ∈ scene.reachable := by
    rw [h.reachable_eq, List.mem_toFinset]
    exact List.mem_map_of_mem hq
  have hne : p.id ≠ t.id := fun he =>
    h.wellFormedTree.root_unlisted q.id hreach (h.root ▸ he ▸ hl)
  obtain ⟨r, hr, hc⟩ := exposed_parent h.unfolds hp hne
  have hrpre := t.exposed_sublist.subset hr
  have hid := h.parent_unique (List.mem_map_of_mem hq) (List.mem_map_of_mem hrpre) hl hc
  rwa [h.eq_of_id_eq hq hrpre hid]

theorem mem_exposed_iff (h : Finds scene t) (hp : p ∈ t.preorder) :
    p ∈ t.exposed ↔ ¬ scene.IsSkinned p.id := by
  constructor
  · rintro hexposed ⟨bone, node, hr, hn, hb, hpath⟩
    -- Going up from the node, all that is above it is exposed as well, and so the bone would be.
    have hup : ∀ id, Relation.ReflTransGen scene.Lists id p.id → ∀ q ∈ t.preorder, q.id = id →
        q ∈ t.exposed := by
      intro id hpath
      induction hpath using Relation.ReflTransGen.head_induction_on with
      | refl =>
        intro q hq hid
        rwa [h.eq_of_id_eq hq hp hid]
      | head hl _ ih =>
        rintro q hq rfl
        obtain ⟨r, hrpre, rfl⟩ := h.exists_mem_preorder ((h.reaches_of_mem hq).child hl)
        exact h.exposed_of_lists (ih r hrpre rfl) hq hl
    obtain ⟨q, hq, rfl⟩ := h.exists_mem_preorder hr
    cases (h.unfolds.node_of_mem hq).symm.trans hn
    exact not_isBone_of_mem_exposed (hup q.id hpath q hq rfl) (Node.isBone_iff.mpr hb)
  · intro hs
    -- Going down from the root, nothing is a bone as long as the nodes are not skinned.
    have hdown : ∀ id, scene.Reaches id → ¬ scene.IsSkinned id → ∀ q ∈ t.preorder, q.id = id →
        q ∈ t.exposed := by
      intro id hr
      induction hr with
      | root =>
        intro hs q hq hid
        have hroot : t.placed ∈ t.preorder := by cases t; simp [placed]
        obtain rfl := h.eq_of_id_eq hq hroot (hid.trans h.root.symm)
        exact mem_exposed_self (Scene.not_isBone_of_not_isSkinned (hid ▸ hs) (h.reaches_of_mem hq)
          (h.unfolds.node_of_mem hq))
      | child hr hc ih =>
        rintro hs q hq rfl
        obtain ⟨r, hrpre, rfl⟩ := h.exists_mem_preorder hr
        have hexposed := ih (fun hskinned => hs (hskinned.child hc)) r hrpre rfl
        have hnode := h.unfolds.node_of_mem hq
        rw [Scene.childrenOf_eq (h.unfolds.node_of_mem hrpre)] at hc
        exact exposed_child h.unfolds hexposed hc hnode
          (Scene.not_isBone_of_not_isSkinned hs (h.reaches_of_mem hq) hnode)
    exact hdown p.id (h.reaches_of_mem hp) hs p hp rfl

end Search.Finds

theorem numbered_of_mem_boundKeys {precision : Number.Precision} {root : NodeId}
    {visits : List Visit} {p : Placed} {key : String}
    (h : (p, key) ∈ boundKeys precision root visits) :
    Naming.Numbered (transformKeyBase p.node) key := by
  have hall := List.forall₂_map_left_iff.mp (Naming.numbered_uniqueAll []
    (((visits.filter (·.isBound precision root)).map (·.placed)).map fun p =>
      transformKeyBase p.node))
  exact (List.forall₂_iff_zip.mp hall).2 h

namespace Setting

variable {scene : Scene} {tree : SceneTree} {options : Options}

theorem map_fst_transformKeys_eq (h : Search.Finds scene tree) :
    (of scene options).survey.transformKeys.map Prod.fst = tree.exposed.filter fun p =>
      p.id != scene.root && (TransformDelta.of options.canonical p.node).any := by
  rw [map_fst_transformKeys, ← h.map_placed_filter_visits, List.filter_map, List.filter_filter]
  congr 2
  funext v
  show (v.placed.id != scene.root && !v.skinned && _) = _
  rw [Bool.and_right_comm]
  rfl

theorem mem_transformKeys_iff (h : Search.Finds scene tree) {id : NodeId} :
    id ∈ (of scene options).survey.transformKeys.map (·.1.id) ↔
      scene.BindsTransform options.canonical id := by
  have hkeys : (of scene options).survey.transformKeys.map (·.1.id) =
      ((of scene options).survey.transformKeys.map Prod.fst).map (·.id) := by
    rw [List.map_map]
    rfl
  rw [hkeys, map_fst_transformKeys_eq h, List.mem_map]
  constructor
  · rintro ⟨p, hp, rfl⟩
    obtain ⟨hexposed, hbound⟩ := List.mem_filter.mp hp
    rw [Bool.and_eq_true, bne_iff_ne] at hbound
    have hpre := tree.exposed_sublist.subset hexposed
    exact ⟨h.reaches_of_mem hpre, hbound.1, (h.mem_exposed_iff hpre).mp hexposed, p.node,
      h.unfolds.node_of_mem hpre, hbound.2⟩
  · rintro ⟨hr, hroot, hskinned, node, hn, hmoved⟩
    obtain ⟨p, hpre, rfl⟩ := h.exists_mem_preorder hr
    cases (h.unfolds.node_of_mem hpre).symm.trans hn
    refine ⟨p, List.mem_filter.mpr ⟨(h.mem_exposed_iff hpre).mpr hskinned, ?_⟩, rfl⟩
    rw [Bool.and_eq_true, bne_iff_ne]
    exact ⟨hroot, hmoved⟩

end Setting

namespace Composition

def Addresses (c : Composition) (key : String) (id : NodeId) : Prop :=
  ∃ e ∈ c.written, e.origin.id = id ∧ ∃ a ∈ e.attributes, ∃ field, a.binding? = some (key, field)

variable {scene : Scene} {tree : SceneTree} {options : Options}

theorem addresses_iff (h : Search.Finds scene tree) {key : String} {id : NodeId} :
    (of (.of scene options) tree).Addresses key id ↔
      (Survey.of scene options).transformKey? id = some key ∧
        id ∉ (of (.of scene options) tree).removed := by
  have hbound : ∀ p : Placed, (∃ a ∈ (Setting.of scene options).attributes p, ∃ field,
      a.binding? = some (key, field)) ↔
        ∃ field, (key, field) ∈ (Setting.of scene options).boundFields p := fun p => by
    simp only [← Setting.filterMap_binding?_attributes, List.mem_filterMap]
    exact ⟨fun ⟨a, ha, field, hb⟩ => ⟨field, a, ha, hb⟩, fun ⟨field, a, ha, hb⟩ => ⟨a, ha, field, hb⟩⟩
  simp only [Addresses, written_of, List.mem_map, List.mem_filter, exists_exists_and_eq_and]
  constructor
  · rintro ⟨p, ⟨hp, he⟩, rfl, ha⟩
    obtain ⟨field, hf⟩ := (hbound p).mp ha
    refine ⟨((Setting.mem_boundFields _).mp hf).1, ?_⟩
    rw [show (Setting.element _ p).origin = p from rfl, mem_removed_iff_elides h hp]
    simpa using he
  · rintro ⟨hkey, hr⟩
    obtain ⟨⟨p, _⟩, hmem, rfl, rfl⟩ := (Setting.transformKey?_iff h).mp hkey
    have hp := outermost_of_mem_transformKeys h hmem
    rw [mem_removed_iff_elides h hp] at hr
    have hentries := (Setting.of scene options).transformEntries_ne_nil
      (Setting.delta_any_of_mem_transformKeys hmem)
    obtain ⟨e, he⟩ := List.exists_mem_of_ne_nil _ hentries
    refine ⟨p, ⟨hp, by simpa using hr⟩, rfl, (hbound p).mpr ⟨e.1, ?_⟩⟩
    exact (Setting.mem_boundFields _).mpr ⟨hkey, List.mem_map_of_mem he⟩

theorem isSome_path?_iff_addresses (h : Search.Finds scene tree) (root : Node) {key : String} :
    (((Setting.of scene options).controls root
      (of (.of scene options) tree)).defaults.path? ["transforms", key]).isSome ↔
        ∃ id, (of (.of scene options) tree).Addresses key id := by
  have hkey : ∀ {id}, (Survey.of scene options).transformKey? id = some key ↔
      ∃ e ∈ (Survey.of scene options).transformKeys, e.1.id = id ∧ e.2 = key :=
    Setting.transformKey?_iff h
  rw [Setting.path?_transforms, ContextValue.path?]
  simp only [Option.isSome_bind, Option.any_eq_true,
    Setting.get?_transformDefaults _ Setting.nodup_map_snd_transformKeys, addresses_iff h, hkey]
  constructor
  · rintro ⟨_, ⟨p, hp, hr, -⟩, -⟩
    exact ⟨p.id, ⟨(p, key), hp, rfl, rfl⟩, hr⟩
  · rintro ⟨_, ⟨⟨p, _⟩, hp, rfl, rfl⟩, hr⟩
    exact ⟨_, ⟨p, hp, hr, rfl⟩, rfl⟩

end Composition

theorem Survey.transformKeys_congr {scene : Scene} {options options' : Options}
    (h : options'.canonical = options.canonical) :
    (Survey.of scene options').transformKeys = (Survey.of scene options).transformKeys :=
  congrArg (boundKeys · scene.root scene.visits) h

/-- The transforms that have a key in a run, and the entries of the context under these keys. Runs
with one precision have the same keys, which lead to the same nodes. -/
structure Survey.KeysTransforms (scene : Scene) (tree : SceneTree) (options : Options) : Prop where
  sublist : ((Survey.of scene options).transformKeys.map (·.1.id)).Sublist tree.ids
  bound : ∀ id, id ∈ (Survey.of scene options).transformKeys.map (·.1.id) ↔
    scene.BindsTransform options.canonical id
  named : ∀ e ∈ (Survey.of scene options).transformKeys, scene.nodes[e.1.id]? = some e.1.node ∧
    Naming.Numbered (if e.1.node.name = "" then "node" else e.1.node.name) e.2
  nodup : ((Survey.of scene options).transformKeys.map Prod.snd).Nodup
  found : ∀ id key, (Survey.of scene options).transformKey? id = some key ↔
    ∃ e ∈ (Survey.of scene options).transformKeys, e.1.id = id ∧ e.2 = key
  slots : ∃ ix, SceneIndex.of? scene options = some ix ∧
    ix.transformKeys.entries = (Survey.of scene options).transformKeys.map (fun e => (e.1.id, e.2)) ∧
    ∀ id, ix.transformKeys.read? id = some ((Survey.of scene options).transformKey? id)
  addressed : ∀ key id, (Composition.of (.of scene options) tree).Addresses key id ↔
    (Survey.of scene options).transformKey? id = some key ∧
      id ∉ (Composition.of (.of scene options) tree).removed
  context : ∀ key,
    (((Setting.of scene options).controls tree.node (.of (.of scene options) tree)).defaults.path?
      ["transforms", key]).isSome ↔ ∃ id, (Composition.of (.of scene options) tree).Addresses key id
  stable : ∀ options' : Options, options'.canonical = options.canonical →
    (Survey.of scene options').transformKeys = (Survey.of scene options).transformKeys
  same : ∀ options' : Options, options'.canonical = options.canonical → ∀ key id id',
    (Composition.of (.of scene options) tree).Addresses key id →
      (Composition.of (.of scene options') tree).Addresses key id' → id = id'

/-- The transforms of a good scene that have a key are, in preorder, those of just the nodes that
are not skinned, not the root and not at the identity at the precision of the run. The keys are
distinct, each of them a name or a name with a number behind it, and are found again by their nodes,
in the list as in its slots. A key leads to its node if that is not removed, and the context has an
entry for it just then. -/
theorem transform_keys_of_validate {scene : Scene} {tree : SceneTree}
    (h : scene.validate = .ok tree) :
    tree.ids.Nodup ∧ (∀ ids, scene.Preorder [scene.root] ids ↔ ids = tree.ids) ∧
      ∀ options, Survey.KeysTransforms scene tree options := by
  have hf := Scene.tree_finds (Scene.validate_eq_ok.mp h).1
  refine ⟨hf.nodup, hf.preorder_iff, fun options => ?_⟩
  constructor
  case sublist =>
    have hsub : (((Setting.of scene options).survey.transformKeys.map Prod.fst).map (·.id)).Sublist
        tree.ids := ((Setting.map_fst_transformKeys_sublist hf).trans tree.exposed_sublist).map _
    rwa [List.map_map] at hsub
  case bound => exact fun id => Setting.mem_transformKeys_iff hf
  case named =>
    intro e he
    have hexposed := Setting.exposed_of_mem_transformKeys hf he
    refine ⟨hf.unfolds.node_of_mem (tree.exposed_sublist.subset hexposed), ?_⟩
    simpa [transformKeyBase, fallbackTransformKey] using numbered_of_mem_boundKeys he
  case nodup => exact Setting.nodup_map_snd_transformKeys
  case found => exact fun id key => Setting.transformKey?_iff hf
  case slots =>
    obtain ⟨ix, hof, hix⟩ := SceneIndex.exists_of? hf options
    exact ⟨ix, hof, hix.transformKeys, SceneIndex.read?_eq hf hix⟩
  case addressed => exact fun key id => Composition.addresses_iff hf
  case context => exact fun key => Composition.isSome_path?_iff_addresses hf _
  case stable => exact fun options' hsame => Survey.transformKeys_congr hsame
  case same =>
    intro options' hsame key id id' hid hid'
    obtain ⟨e, he, rfl, hkey⟩ := (Setting.transformKey?_iff hf).mp
      ((Composition.addresses_iff hf).mp hid).1
    obtain ⟨e', he', rfl, hkey'⟩ := (Setting.transformKey?_iff hf).mp
      ((Composition.addresses_iff hf).mp hid').1
    have hmem : e' ∈ (Survey.of scene options).transformKeys := Survey.transformKeys_congr hsame ▸ he'
    rw [List.inj_on_of_nodup_map Setting.nodup_map_snd_transformKeys he hmem (hkey.trans hkey'.symm)]

def Scene.posed : Scene where
  root := 0
  nodes := #[
    { type := "Scene", position := .one, children := [1, 2, 3, 4, 6, 7] },
    { type := "Group", name := "A", position := .one },
    { type := "Mesh", name := "A", position := .one, geometry := some 0 },
    { type := "Mesh", name := "A1", position := .one, geometry := some 0 },
    { type := "Bone", name := "Hip", position := .one, children := [5] },
    { type := "Mesh", name := "Sword", position := .one, geometry := some 0 },
    { type := "Points", position := ⟨0.004, 0, 0⟩ },
    { type := "Points", scale := ⟨1, 2, 1⟩ }]
  geometries := #[{ key := "part" }]

theorem Scene.posed_validate : ∃ tree, Scene.posed.validate = .ok tree :=
  exists_tree_of_isOk (by decide +kernel)

theorem transformKeys_posed : (Survey.of Scene.posed {}).transformKeys.map (fun e => (e.1.id, e.2)) =
    [(1, "A"), (2, "A1"), (3, "A11"), (7, "node")] := by
  obtain ⟨tree, htree⟩ := Scene.posed_validate
  have hall : Scene.posed.validate.toOption.map (fun tree =>
      (boundKeys (Options.canonical {}) 0 (tree.visits none false)).map fun e => (e.1.id, e.2)) =
        some [(1, "A"), (2, "A1"), (3, "A11"), (7, "node")] := by
    decide +kernel
  rw [htree] at hall
  rw [Setting.transformKeys_eq (Scene.tree_finds (Scene.validate_eq_ok.mp htree).1)]
  exact Option.some.inj hall

theorem posed_transform_keys : ∃ tree, Scene.posed.validate = .ok tree ∧
    (∀ id, Scene.posed.BindsTransform (Options.canonical {}) id ↔ id ∈ [1, 2, 3, 7]) ∧
    (Survey.of Scene.posed { keepGroups := true }).transformKeys =
      (Survey.of Scene.posed {}).transformKeys ∧
    (Survey.of Scene.posed { keepGroups := true }).transformKey? 2 = some "A1" := by
  obtain ⟨tree, htree⟩ := Scene.posed_validate
  obtain ⟨-, -, hkeyed⟩ := transform_keys_of_validate htree
  have hkeys := (hkeyed {}).stable { keepGroups := true } rfl
  refine ⟨tree, htree, fun id => ?_, hkeys, ?_⟩
  · have hids := congrArg (List.map Prod.fst) transformKeys_posed
    rw [List.map_map] at hids
    rw [← (hkeyed {}).bound]
    exact iff_of_eq (congrArg (id ∈ ·) hids)
  · have hmem : (2, "A1") ∈ (Survey.of Scene.posed {}).transformKeys.map fun e => (e.1.id, e.2) := by
      rw [transformKeys_posed]
      decide
    obtain ⟨e, he, heq⟩ := List.mem_map.mp hmem
    rw [(hkeyed { keepGroups := true }).found, hkeys]
    exact ⟨e, he, congrArg Prod.fst heq, congrArg Prod.snd heq⟩

end SceneMarkup
