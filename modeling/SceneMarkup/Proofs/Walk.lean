import SceneMarkup.Proofs.Lookup
import SceneMarkup.Proofs.WellFormed
import SceneMarkup.Survey.Walk

/-!
The walk through a good scene ends inside the table. It goes through the nodes of the scene's tree
in preorder, and knows the parent of each of them.
-/

namespace SceneMarkup

open SceneTree

open scoped List

inductive Scene.Preorder (scene : Scene) : List NodeId → List NodeId → Prop
  | nil : Preorder scene [] []
  | cons {id rest node below after} : scene.nodes[id]? = some node →
    Preorder scene node.children below → Preorder scene rest after →
    Preorder scene (id :: rest) (id :: below ++ after)

namespace Scene.Preorder

variable {scene : Scene}

theorem append {ids ids' order order' : List NodeId} (h : scene.Preorder ids order)
    (h' : scene.Preorder ids' order') : scene.Preorder (ids ++ ids') (order ++ order') := by
  induction h with
  | nil => exact h'
  | cons hn hc hr ihc ihr =>
    rw [List.append_assoc]
    exact .cons hn hc ihr

theorem unique {ids order order' : List NodeId} (h : scene.Preorder ids order)
    (h' : scene.Preorder ids order') : order = order' := by
  induction h generalizing order' with
  | nil =>
    cases h'
    rfl
  | cons hn hc hr ihc ihr =>
    cases h' with
    | cons hn' hc' hr' =>
      cases hn.symm.trans hn'
      rw [ihc hc', ihr hr']

theorem of_trees {ts : List SceneTree} (h : ∀ t ∈ ts, scene.Preorder [t.id] t.ids) :
    scene.Preorder (ts.map SceneTree.id) (ts.flatMap ids) := by
  induction ts with
  | nil => exact .nil
  | cons t rest ih =>
    obtain ⟨ht, hrest⟩ := List.forall_mem_cons.mp h
    exact ht.append (ih hrest)

theorem of_unfolds {t : SceneTree} (h : t.Unfolds scene) : scene.Preorder [t.id] t.ids := by
  induction t with
  | branch p ts ih =>
    cases h with
    | branch hn hc ht =>
      have hbelow := of_trees fun t hm => ih t hm (ht t hm)
      simpa [hc] using Preorder.cons hn (hc ▸ hbelow) Preorder.nil

end Scene.Preorder

namespace Walk

variable {scene : Scene} {t : SceneTree}

def listings (scene : Scene) (ids : List NodeId) : List (NodeId × NodeId) :=
  ids.reverse.flatMap fun id => (scene.childrenOf id).map (·, id)

theorem mem_listings {ids : List NodeId} {child id : NodeId} :
    (child, id) ∈ listings scene ids ↔ id ∈ ids ∧ child ∈ scene.childrenOf id := by
  simp [listings]

theorem map_fst_listings (ids : List NodeId) :
    (listings scene ids).map Prod.fst = ids.reverse.flatMap scene.childrenOf := by
  simp [listings, List.map_flatMap, Function.comp_def]

theorem run_trees (passed : List NodeId) (parents : List (NodeId × NodeId)) :
    ∀ ts : List SceneTree, (∀ t ∈ ts, t.Unfolds scene) →
      run scene ⟨ts.map SceneTree.id, passed, parents⟩ =
        some ⟨[], (ts.flatMap ids).reverse ++ passed, listings scene (ts.flatMap ids) ++ parents⟩
  | [], _ => by
    rw [run]
    rfl
  | .branch p cs :: rest, h => by
    obtain ⟨hp, hrest⟩ := List.forall_mem_cons.mp h
    have hc := hp.childrenOf_id
    cases hp with
    | branch hn hcs hts =>
      have hall : ∀ t ∈ cs ++ rest, t.Unfolds scene := List.forall_mem_append.mpr ⟨hts, hrest⟩
      have ih := run_trees (p.id :: passed) ((scene.childrenOf p.id).map (·, p.id) ++ parents)
        (cs ++ rest) hall
      rw [run]
      simp only [List.map_cons, id_branch, hn, pass, ← hcs, ← List.map_append, hc] at ih ⊢
      rw [ih]
      simp [listings, List.flatMap_append, hc]
termination_by ts => (ts.flatMap ids).length

theorem run_start (h : Search.Finds scene t) :
    (start scene.root).run scene = some ⟨[], t.ids.reverse, listings scene t.ids⟩ := by
  simpa [start, h.root] using run_trees [] [] [t] (by simpa using h.unfolds)

theorem lookup_listings (h : Search.Finds scene t) {child id : NodeId} :
    (listings scene t.ids).lookup child = some id ↔ id ∈ t.ids ∧ child ∈ scene.childrenOf id := by
  have hd : ((listings scene t.ids).map Prod.fst).Nodup := by
    rw [map_fst_listings]
    have hperm := (List.reverse_perm t.ids).flatMap_right scene.childrenOf
    exact hperm.nodup_iff.mpr (List.nodup_cons.mp h.nodup_listed).2
  rw [lookup_eq_some_iff_mem hd, mem_listings]

end Walk

theorem Search.Finds.parent_unique {scene : Scene} {tree : SceneTree} {id id' c : NodeId}
    (h : Search.Finds scene tree) (hid : id ∈ tree.ids) (hid' : id' ∈ tree.ids)
    (hc : c ∈ scene.childrenOf id) (hc' : c ∈ scene.childrenOf id') : id = id' := by
  have hfirst := (Walk.lookup_listings h).mpr ⟨hid, hc⟩
  have hsecond := (Walk.lookup_listings h).mpr ⟨hid', hc'⟩
  exact Option.some.inj (hfirst.symm.trans hsecond)

theorem Search.Finds.preorder_iff {scene : Scene} {tree : SceneTree} (h : Search.Finds scene tree)
    (ids : List NodeId) : scene.Preorder [scene.root] ids ↔ ids = tree.ids := by
  have hpre : scene.Preorder [scene.root] tree.ids := h.root ▸ .of_unfolds h.unfolds
  exact ⟨fun ho => ho.unique hpre, fun ho => ho ▸ hpre⟩

/-- A good scene can be walked: the walk ends, every node that can be reached is gone through once,
in preorder, and each but the root is known with the one node that lists it. -/
theorem walk_of_validate {scene : Scene} {tree : SceneTree} (h : scene.validate = .ok tree) :
    ∃ w, scene.walk? = some w ∧ w.order.Nodup ∧ (∀ id, id ∈ w.order ↔ id ∈ scene.reachable) ∧
      (∀ order, scene.Preorder [scene.root] order ↔ order = w.order) ∧
      (∀ child id, w.parent? child = some id ↔
        id ∈ scene.reachable ∧ child ∈ scene.childrenOf id) ∧
      ∀ child, (w.parent? child).isSome ↔ child ∈ scene.reachable ∧ child ≠ scene.root := by
  have hf := Scene.tree_finds (Scene.validate_eq_ok.mp h).1
  have hmem : ∀ id, id ∈ tree.ids ↔ id ∈ scene.reachable := by simp [hf.reachable_eq]
  have hpre : scene.Preorder [scene.root] tree.ids := hf.root ▸ .of_unfolds hf.unfolds
  have hparent : ∀ {child id}, (Walk.listings scene tree.ids).lookup child = some id ↔
      id ∈ scene.reachable ∧ child ∈ scene.childrenOf id := fun {child id} => by
    rw [Walk.lookup_listings hf, hmem]
  refine ⟨_, Walk.run_start hf, ?_⟩
  simp only [Walk.order, Walk.parent?, List.reverse_reverse]
  refine ⟨hf.nodup, hmem, fun order => ⟨fun ho => ho.unique hpre, fun ho => ho ▸ hpre⟩,
    fun child id => hparent, fun child => ?_⟩
  simp only [Option.isSome_iff_exists, hparent, ← hmem, ← hf.mem_listed_iff, List.mem_flatMap]

theorem Scene.exists_tree_of_isOk {scene : Scene} (h : scene.validate.isOk = true) :
    ∃ tree, scene.validate = .ok tree := by
  cases hv : scene.validate with
  | ok tree => exact ⟨tree, rfl⟩
  | error e => simp [hv, Except.isOk, Except.toBool] at h

/-- A mesh, a childless group and a bone with a mesh below it. The last node cannot be reached, and
lists the root, itself and a node that does not exist. -/
def Scene.sample : Scene where
  root := 1
  nodes := #[
    { type := "Mesh", name := "Arm", position := .one, geometry := some 0 },
    { type := "Scene", children := [3, 0, 2] },
    { type := "Bone", name := "Hip", children := [4] },
    { type := "Group", position := .one },
    { type := "Mesh", name := "Hand", position := .one, geometry := some 0 },
    { type := "Group", children := [1, 5, 9] }]
  geometries := #[{ key := "part" }]

theorem Scene.sample_validate : ∃ tree, Scene.sample.validate = .ok tree :=
  exists_tree_of_isOk (by decide +kernel)

theorem sample_walk : (∃ tree, Scene.sample.validate = .ok tree) ∧
    ∃ w, Scene.sample.walk? = some w ∧ w.order.Nodup ∧
      ∀ order, Scene.sample.Preorder [1] order ↔ order = w.order := by
  obtain ⟨tree, h⟩ := Scene.sample_validate
  obtain ⟨w, hw, hd, -, hp, -⟩ := walk_of_validate h
  exact ⟨⟨tree, h⟩, w, hw, hd, hp⟩

end SceneMarkup
