import Mathlib.Algebra.Order.BigOperators.Group.Finset
import SceneMarkup.Proofs.Search
import SceneMarkup.Scene.Validity

namespace SceneMarkup

open SceneTree

namespace Scene

open Classical in
noncomputable def reachable (scene : Scene) : Finset NodeId :=
  {id ∈ Finset.range scene.nodes.size | scene.Reaches id}

noncomputable def timesListed (scene : Scene) (child : NodeId) : Nat :=
  ∑ id ∈ scene.reachable, (scene.childrenOf id).count child

structure WellFormedTree (scene : Scene) : Prop where
  root_lt : scene.root < scene.nodes.size
  child_lt : ∀ id ∈ scene.reachable, ∀ child ∈ scene.childrenOf id, child < scene.nodes.size
  root_unlisted : ∀ id ∈ scene.reachable, scene.root ∉ scene.childrenOf id
  listed_once : ∀ id ∈ scene.reachable, id ≠ scene.root → scene.timesListed id = 1

variable {scene : Scene}

theorem mem_reachable {id : NodeId} :
    id ∈ scene.reachable ↔ id < scene.nodes.size ∧ scene.Reaches id := by
  simp [reachable]

theorem count_flatMap_childrenOf {ids : List NodeId} (h : ids.Nodup) (child : NodeId) :
    (ids.flatMap scene.childrenOf).count child =
      ∑ id ∈ ids.toFinset, (scene.childrenOf id).count child := by
  rw [List.count_flatMap, List.sum_toFinset _ h]
  rfl

theorem WellFormedTree.mem_reachable_of_reaches (h : scene.WellFormedTree) {id : NodeId}
    (hr : scene.Reaches id) : id ∈ scene.reachable := by
  induction hr with
  | root => exact mem_reachable.mpr ⟨h.root_lt, .root⟩
  | child hr hc ih => exact mem_reachable.mpr ⟨h.child_lt _ ih _ hc, hr.child hc⟩

theorem WellFormedTree.treelike (h : scene.WellFormedTree) : scene.Treelike where
  child_lt _ hr := h.child_lt _ (h.mem_reachable_of_reaches hr)
  nodup ids hd hr := by
    have hmem : ∀ id ∈ ids, id ∈ scene.reachable := fun id hid =>
      h.mem_reachable_of_reaches (hr id hid)
    have hroot : scene.root ∉ ids.flatMap scene.childrenOf := by
      simpa using fun id hid => h.root_unlisted id (hmem id hid)
    refine List.nodup_cons.mpr ⟨hroot, List.nodup_iff_count_le_one.mpr fun child => ?_⟩
    by_cases hc : child ∈ ids.flatMap scene.childrenOf
    · obtain ⟨id, hid, hchild⟩ := List.mem_flatMap.mp hc
      have hreach := h.mem_reachable_of_reaches ((hr id hid).child hchild)
      calc
        (ids.flatMap scene.childrenOf).count child
          = ∑ id ∈ ids.toFinset, (scene.childrenOf id).count child :=
          count_flatMap_childrenOf hd child
        _ ≤ scene.timesListed child :=
          Finset.sum_le_sum_of_subset fun id hid => hmem id (List.mem_toFinset.mp hid)
        _ = 1 := h.listed_once child hreach fun he => hroot (he ▸ hc)
        _ ≤ 1 := le_rfl
    · simp [List.count_eq_zero_of_not_mem hc]

end Scene

namespace Search

variable {scene : Scene} {t : SceneTree}

theorem Finds.reachable_eq (h : Finds scene t) : scene.reachable = t.ids.toFinset := by
  ext id
  rw [Scene.mem_reachable, List.mem_toFinset, ← h.unfolds.mem_ids_iff h.root]
  exact and_iff_right_of_imp h.unfolds.lt_size

theorem Finds.timesListed_eq (h : Finds scene t) (id : NodeId) :
    scene.timesListed id = (t.ids.flatMap scene.childrenOf).count id := by
  rw [Scene.timesListed, h.reachable_eq, Scene.count_flatMap_childrenOf h.nodup]

theorem Finds.nodup_listed (h : Finds scene t) :
    (scene.root :: t.ids.flatMap scene.childrenOf).Nodup :=
  h.root ▸ h.unfolds.ids_perm.nodup_iff.mp h.nodup

theorem Finds.mem_listed_iff (h : Finds scene t) {id : NodeId} :
    id ∈ t.ids.flatMap scene.childrenOf ↔ id ∈ t.ids ∧ id ≠ scene.root := by
  have hroot := (List.nodup_cons.mp h.nodup_listed).1
  rw [h.unfolds.ids_perm.mem_iff, List.mem_cons, h.root]
  constructor
  · intro hl
    exact ⟨.inr hl, fun he => hroot (he ▸ hl)⟩
  · rintro ⟨hid, hne⟩
    exact hid.resolve_left hne

theorem Finds.wellFormedTree (h : Finds scene t) : scene.WellFormedTree where
  root_lt := h.unfolds.lt_size (h.root ▸ t.id_mem_ids)
  child_lt id hid child hc :=
    h.unfolds.lt_size ((h.unfolds.mem_ids_iff h.root).mpr ((Scene.mem_reachable.mp hid).2.child hc))
  root_unlisted id hid hc := by
    have hr := (h.unfolds.mem_ids_iff h.root).mpr (Scene.mem_reachable.mp hid).2
    exact (List.nodup_cons.mp h.nodup_listed).1 (List.mem_flatMap.mpr ⟨id, hr, hc⟩)
  listed_once id hid hne := by
    have hr := (h.unfolds.mem_ids_iff h.root).mpr (Scene.mem_reachable.mp hid).2
    rw [h.timesListed_eq]
    exact List.count_eq_one_of_mem (List.nodup_cons.mp h.nodup_listed).2
      (h.mem_listed_iff.mpr ⟨hr, hne⟩)

end Search

namespace Scene

variable {scene : Scene}

theorem tree_finds {t : SceneTree} (h : scene.tree = .ok t) : Search.Finds scene t := by
  unfold tree at h
  split at h
  · contradiction
  · next node hn => exact (Search.sound_start hn).finds h

theorem exists_tree_iff : (∃ t, scene.tree = .ok t) ↔ scene.WellFormedTree := by
  constructor
  · rintro ⟨t, ht⟩
    exact (tree_finds ht).wellFormedTree
  · intro h
    have hlt := h.root_lt
    have hn : scene.rootNode? = some scene.nodes[scene.root] := Array.getElem?_eq_getElem hlt
    unfold tree
    rw [hn]
    exact (Search.sound_start hn).exists_run h.treelike

theorem tree_eq_ok_iff {t : SceneTree} : scene.tree = .ok t ↔ Search.Finds scene t := by
  constructor
  · exact tree_finds
  · intro h
    obtain ⟨t', ht'⟩ := exists_tree_iff.mpr h.wellFormedTree
    have h' := tree_finds ht'
    rw [ht', h'.unfolds.unique h.unfolds (h'.root.trans h.root.symm)]

/-- What a node names exists, a mesh has a geometry, and what is reached by name has one. -/
structure WellFormedNode (scene : Scene) (node : Node) : Prop where
  geometry_lt : ∀ g, node.geometry = some g → g < scene.geometries.size
  mesh : node.type ∈ ["Mesh", "SkinnedMesh", "InstancedMesh"] → node.geometry ≠ none
  unnamed : node.name = "" → node.geometry = none ∧ node.type ≠ "Bone"
  material_lt : ∀ m, node.material = some m → m < scene.materials.size
  bone_lt : ∀ bones, node.skeleton = some bones → ∀ bone ∈ bones, bone < scene.nodes.size

def CountsAgree (geometries : List Geometry) : Prop :=
  ∀ g ∈ geometries, ∀ g' ∈ geometries, g.key = g'.key →
    ∀ n ∈ g.vertexCount, ∀ n' ∈ g'.vertexCount, n = n'

def OwnerUses (scene : Scene) (g : Geometry) : Prop :=
  ∀ owner ∈ g.owner, ∃ node own, scene.nodes[owner]? = some node ∧
    scene.geometryOf? node = some own ∧ own.key = g.key

structure WellFormed (scene : Scene) : Prop where
  tree : scene.WellFormedTree
  nodes : ∀ node ∈ scene.nodes, scene.WellFormedNode node
  counts : CountsAgree scene.geometries.toList
  owners : ∀ g ∈ scene.geometries, scene.OwnerUses g

end Scene

namespace Node

theorem isMesh_iff {node : Node} :
    node.isMesh ↔ node.type ∈ ["Mesh", "SkinnedMesh", "InstancedMesh"] := by
  rw [isMesh, nodeClass, beq_iff_eq, NodeClass.ofType]
  constructor
  · intro h
    by_contra hn
    simp only [List.contains_iff_mem, hn] at h
    split_ifs at h
    contradiction
  · intro h
    have hn : node.type ∉ ["Group", "Object3D", "Scene"] := by
      intro hg
      simp only [List.mem_cons, List.not_mem_nil, or_false] at h hg
      rcases h with h | h | h <;> simp [h] at hg
    simp [h, hn]

theorem isBone_iff {node : Node} : node.isBone ↔ node.type = "Bone" := by
  rw [isBone, nodeClass, beq_iff_eq, NodeClass.ofType]
  constructor
  · intro h
    by_contra hn
    simp only [beq_iff_eq, hn] at h
    split_ifs at h
    contradiction
  · intro h
    simp [h]

end Node

namespace Scene

variable {scene : Scene} {p : Placed}

theorem geometryDefect?_eq_none : scene.geometryDefect? p = none ↔
    (∀ g, p.node.geometry = some g → g < scene.geometries.size) ∧
      (p.node.isMesh → p.node.geometry ≠ none) := by
  unfold geometryDefect?
  cases p.node.geometry <;> simp

theorem nameDefect?_eq_none : nameDefect? p = none ↔
    (p.node.name = "" → p.node.geometry = none ∧ ¬ p.node.isBone) := by
  simp [nameDefect?, String.isEmpty_iff]

theorem materialDefect?_eq_none : scene.materialDefect? p = none ↔
    ∀ m, p.node.material = some m → m < scene.materials.size := by
  unfold materialDefect?
  cases p.node.material <;> simp

theorem boneDefect?_eq_none : scene.boneDefect? p = none ↔
    ∀ bones, p.node.skeleton = some bones → ∀ bone ∈ bones, bone < scene.nodes.size := by
  unfold boneDefect?
  cases p.node.skeleton <;> simp

theorem nodeDefect?_eq_none : scene.nodeDefect? p = none ↔ scene.WellFormedNode p.node := by
  simp only [nodeDefect?, Option.orElse_eq_none, geometryDefect?_eq_none, nameDefect?_eq_none,
    materialDefect?_eq_none, boneDefect?_eq_none, Node.isMesh_iff, Node.isBone_iff]
  constructor
  · rintro ⟨⟨hg, hm⟩, hn, hmat, hb⟩
    exact ⟨hg, hm, hn, hmat, hb⟩
  · intro h
    exact ⟨⟨h.geometry_lt, h.mesh⟩, h.unnamed, h.material_lt, h.bone_lt⟩

theorem mem_placedNodes : p ∈ scene.placedNodes ↔ scene.nodes[p.id]? = some p.node := by
  rw [placedNodes, List.mem_map]
  constructor
  · rintro ⟨⟨node, id⟩, hm, rfl⟩
    simpa using List.mk_mem_zipIdx_iff_getElem?.mp hm
  · intro h
    exact ⟨(p.node, p.id), List.mk_mem_zipIdx_iff_getElem?.mpr (by simpa using h), rfl⟩

theorem forall_nodeDefect?_eq_none : (∀ p ∈ scene.placedNodes, scene.nodeDefect? p = none) ↔
    ∀ node ∈ scene.nodes, scene.WellFormedNode node := by
  simp only [mem_placedNodes, nodeDefect?_eq_none]
  constructor
  · intro h node hm
    obtain ⟨id, hid⟩ := Array.mem_iff_getElem?.mp hm
    exact h ⟨id, node⟩ hid
  · intro h p hp
    exact h p.node (Array.mem_of_getElem? hp)

theorem declaredCount?_eq_some {key : String} {geometries : List Geometry} {n : Nat}
    (h : declaredCount? key geometries = some n) :
    ∃ g ∈ geometries, g.key = key ∧ n ∈ g.vertexCount := by
  obtain ⟨g, hg, hn⟩ := List.exists_of_findSome?_eq_some h
  split_ifs at hn with hk
  exact ⟨g, hg, hk, hn⟩

theorem declaredCount?_eq_none {key : String} {geometries : List Geometry}
    (h : declaredCount? key geometries = none) :
    ∀ g ∈ geometries, g.key = key → g.vertexCount = none := by
  intro g hg hk
  simpa [hk] using List.findSome?_eq_none_iff.mp h g hg

theorem countDefect?_eq_none {earlier : List Geometry} {g : Geometry} (h : CountsAgree earlier) :
    countDefect? earlier g = none ↔
      ∀ e ∈ earlier, e.key = g.key → ∀ n ∈ e.vertexCount, ∀ m ∈ g.vertexCount, n = m := by
  unfold countDefect?
  split
  · next first second hf hs =>
    obtain ⟨e, he, hk, hn⟩ := declaredCount?_eq_some hf
    simp only [ite_eq_left_iff, reduceCtorEq, imp_false, not_not, hs, Option.mem_some_iff,
      forall_eq']
    constructor
    · rintro rfl e' he' hk' n hn'
      exact h e' he' e he (hk'.trans hk.symm) n hn' first hn
    · exact fun hall => hall e he hk first hn
  · next hsome =>
    simp only [true_iff]
    intro e he hk n hn m hm
    cases hd : declaredCount? g.key earlier with
    | none => simp [declaredCount?_eq_none hd e he hk] at hn
    | some first => exact absurd hm (hsome first m hd)

theorem countsAgree_append {earlier : List Geometry} {g : Geometry} (h : CountsAgree earlier) :
    CountsAgree (earlier ++ [g]) ↔
      ∀ e ∈ earlier, e.key = g.key → ∀ n ∈ e.vertexCount, ∀ m ∈ g.vertexCount, n = m := by
  constructor
  · exact fun hall e he => hall e (by simp [he]) g (by simp)
  · intro hall e he e' he' hk n hn m hm
    rw [List.mem_append, List.mem_singleton] at he he'
    rcases he with he | rfl <;> rcases he' with he' | rfl
    · exact h e he e' he' hk n hn m hm
    · exact hall e he hk n hn m hm
    · exact (hall e' he' hk.symm m hm n hn).symm
    · exact Option.mem_unique hn hm

theorem ownerDefect?_eq_none {g : Geometry} :
    scene.ownerDefect? g = none ↔ scene.OwnerUses g := by
  unfold ownerDefect? OwnerUses
  cases g.owner with
  | none => simp
  | some owner =>
    cases hn : scene.nodes[owner]? with
    | none => simp [usesKey, hn]
    | some node => cases hg : scene.geometryOf? node <;> simp [usesKey, hn, hg]

theorem CountsAgree.of_append {earlier rest : List Geometry} (h : CountsAgree (earlier ++ rest)) :
    CountsAgree earlier := fun g hg g' hg' =>
  h g (List.mem_append_left _ hg) g' (List.mem_append_left _ hg')

theorem geometriesDefect?_eq_none {earlier rest : List Geometry} (h : CountsAgree earlier) :
    scene.geometriesDefect? earlier rest = none ↔
      CountsAgree (earlier ++ rest) ∧ ∀ g ∈ rest, scene.OwnerUses g := by
  induction rest generalizing earlier with
  | nil => simp [geometriesDefect?, h]
  | cons g rest ih =>
    rw [geometriesDefect?, Option.orElse_eq_none, Option.orElse_eq_none, countDefect?_eq_none h,
      ← countsAgree_append h, ownerDefect?_eq_none, List.append_cons earlier g rest,
      List.forall_mem_cons]
    constructor
    · rintro ⟨hc, ho, hrest⟩
      obtain ⟨hc', ho'⟩ := (ih hc).mp hrest
      exact ⟨hc', ho, ho'⟩
    · rintro ⟨hc, ho, ho'⟩
      exact ⟨hc.of_append, ho, (ih hc.of_append).mpr ⟨hc, ho'⟩⟩

theorem tableDefect?_eq_none : scene.tableDefect? = none ↔
    (∀ node ∈ scene.nodes, scene.WellFormedNode node) ∧
      CountsAgree scene.geometries.toList ∧ ∀ g ∈ scene.geometries, scene.OwnerUses g := by
  have hempty : CountsAgree [] := by simp [CountsAgree]
  simp [tableDefect?, forall_nodeDefect?_eq_none, geometriesDefect?_eq_none hempty]

theorem validate_eq_ok {t : SceneTree} :
    scene.validate = .ok t ↔ scene.tree = .ok t ∧ scene.tableDefect? = none := by
  unfold validate
  cases scene.tree with
  | error e => simp
  | ok tree => cases scene.tableDefect? <;> simp

theorem exists_validate_iff : (∃ t, scene.validate = .ok t) ↔
    (∃ t, scene.tree = .ok t) ∧ scene.tableDefect? = none := by
  simp only [validate_eq_ok, exists_and_right]

/-- Validation accepts the well-formed scenes, whatever their child lists look like. -/
theorem validate_ok_iff_wellFormed (scene : Scene) :
    (∃ tree, scene.validate = .ok tree) ↔ scene.WellFormed := by
  rw [exists_validate_iff, exists_tree_iff, tableDefect?_eq_none]
  constructor
  · rintro ⟨ht, hn, hc, ho⟩
    exact ⟨ht, hn, hc, ho⟩
  · intro h
    exact ⟨h.tree, h.nodes, h.counts, h.owners⟩

end Scene

end SceneMarkup
