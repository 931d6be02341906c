import SceneMarkup.Proofs.Walk
import SceneMarkup.Scene.Basic

namespace SceneMarkup

theorem getElem?_concat_eq_some {as : List α} {a b : α} {i : Nat} :
    (as ++ [a])[i]? = some b ↔ as[i]? = some b ∨ i = as.length ∧ a = b := by
  grind

inductive Addition
  | node (parent : NodeId) (node : Node)
  | material (m : Material)
  | geometry (g : Geometry)

namespace Addition

def IsLeaf : Addition → Prop
  | node _ n => n.children = []
  | material _ => True
  | geometry _ => True

end Addition

namespace Scene

def add (scene : Scene) : Addition → Scene
  | .node parent n => (scene.addNode parent n).2
  | .material m => (scene.addMaterial m).2
  | .geometry g => (scene.addGeometry g).2

def built (steps : List Addition) : Scene := steps.foldl add initial

variable {scene : Scene} {parent id child : NodeId} {node : Node}

theorem childrenOf_of_size_le (h : scene.nodes.size ≤ id) : scene.childrenOf id = [] := by
  simp [childrenOf, Array.getElem?_eq_none h]

theorem childrenOf_push (h : node.children = []) (id : NodeId) :
    childrenOf { scene with nodes := scene.nodes.push node } id = scene.childrenOf id := by
  rw [childrenOf, Array.getElem?_push]
  split
  case isTrue hid =>
    rw [childrenOf_of_size_le (Nat.le_of_eq hid.symm)]
    exact h
  case isFalse => rfl

theorem childrenOf_pushChild (scene : Scene) (parent child id : NodeId) :
    (scene.pushChild parent child).childrenOf id =
      if id = parent ∧ parent < scene.nodes.size then scene.childrenOf id ++ [child]
      else scene.childrenOf id := by
  rw [childrenOf, pushChild, Array.getElem?_modify]
  by_cases hid : parent = id
  · subst hid
    by_cases hlt : parent < scene.nodes.size
    · simp [hlt, childrenOf]
    · simp [hlt, childrenOf]
  · simp [hid, Ne.symm hid, childrenOf]

theorem childrenOf_addNode (h : node.children = []) (scene : Scene) (parent id : NodeId) :
    (scene.addNode parent node).2.childrenOf id =
      if id = parent ∧ parent ≤ scene.nodes.size then scene.childrenOf id ++ [scene.nodes.size]
      else scene.childrenOf id := by
  rw [addNode, childrenOf_pushChild, childrenOf_push h]
  simp only [Array.size_push, Nat.lt_succ_iff]

theorem size_addNode (scene : Scene) (parent : NodeId) (node : Node) :
    (scene.addNode parent node).2.nodes.size = scene.nodes.size + 1 := by
  simp [addNode, pushChild]

theorem mem_childrenOf_addNode (h : node.children = []) :
    child ∈ (scene.addNode parent node).2.childrenOf id ↔
      child ∈ scene.childrenOf id ∨
        child = scene.nodes.size ∧ id = parent ∧ parent ≤ scene.nodes.size := by
  rw [childrenOf_addNode h]
  split
  case isTrue hp => simp [hp]
  case isFalse hp => simp [hp]

/-- What every addition keeps, for all nodes of the table and not just for those that can be
reached. -/
structure Grown (scene : Scene) : Prop where
  root_lt : scene.root < scene.nodes.size
  child_lt : ∀ id, ∀ child ∈ scene.childrenOf id, child < scene.nodes.size
  root_unlisted : ∀ id, scene.root ∉ scene.childrenOf id
  nodup : ∀ id, (scene.childrenOf id).Nodup
  parent_unique : ∀ id id' child, child ∈ scene.childrenOf id → child ∈ scene.childrenOf id' →
    id = id'

theorem childrenOf_initial (id : NodeId) : initial.childrenOf id = [] := by
  cases id with
  | zero => rfl
  | succ n => exact childrenOf_of_size_le (Nat.le_add_left 1 n)

theorem grown_initial : initial.Grown where
  root_lt := by decide
  child_lt := by simp [childrenOf_initial]
  root_unlisted := by simp [childrenOf_initial]
  nodup := by simp [childrenOf_initial]
  parent_unique := by simp [childrenOf_initial]

theorem Grown.addNode (h : scene.Grown) (hn : node.children = []) (parent : NodeId) :
    (scene.addNode parent node).2.Grown where
  root_lt := by
    rw [size_addNode]
    exact Nat.lt_succ_of_lt h.root_lt
  child_lt := by
    intro id child hc
    rw [size_addNode]
    rcases (mem_childrenOf_addNode hn).mp hc with hc | ⟨rfl, -⟩
    · exact Nat.lt_succ_of_lt (h.child_lt id child hc)
    · exact Nat.lt_succ_self _
  root_unlisted := by
    intro id hc
    rcases (mem_childrenOf_addNode hn).mp hc with hc | ⟨hroot, -⟩
    · exact h.root_unlisted id hc
    · exact Nat.ne_of_lt h.root_lt hroot
  nodup := by
    intro id
    rw [childrenOf_addNode hn]
    split
    · have hnew : scene.nodes.size ∉ scene.childrenOf id := fun hc =>
        Nat.lt_irrefl _ (h.child_lt id _ hc)
      exact List.nodup_append.mpr ⟨h.nodup id, List.nodup_singleton _, by grind⟩
    · exact h.nodup id
  parent_unique := by
    intro id id' child hc hc'
    rcases (mem_childrenOf_addNode hn).mp hc with hold | ⟨hnew, hid, -⟩ <;>
      rcases (mem_childrenOf_addNode hn).mp hc' with hold' | ⟨hnew', hid', -⟩
    · exact h.parent_unique id id' child hold hold'
    · exact absurd hnew' (Nat.ne_of_lt (h.child_lt id child hold))
    · exact absurd hnew (Nat.ne_of_lt (h.child_lt id' child hold'))
    · exact hid.trans hid'.symm

theorem Grown.add (h : scene.Grown) {a : Addition} (ha : a.IsLeaf) : (scene.add a).Grown := by
  cases a with
  | node parent n => exact h.addNode ha parent
  | material m => exact ⟨h.root_lt, h.child_lt, h.root_unlisted, h.nodup, h.parent_unique⟩
  | geometry g => exact ⟨h.root_lt, h.child_lt, h.root_unlisted, h.nodup, h.parent_unique⟩

theorem Grown.foldl {steps : List Addition} (h : scene.Grown) (hs : ∀ a ∈ steps, a.IsLeaf) :
    (steps.foldl Scene.add scene).Grown := by
  induction steps generalizing scene with
  | nil => exact h
  | cons a rest ih =>
    rw [List.forall_mem_cons] at hs
    exact ih (h.add hs.1) hs.2

theorem grown_built {steps : List Addition} (h : ∀ a ∈ steps, a.IsLeaf) : (built steps).Grown :=
  grown_initial.foldl h

def parents (steps : List Addition) : List NodeId :=
  steps.filterMap fun
    | .node parent _ => some parent
    | _ => none

theorem parents_concat_node (steps : List Addition) (parent : NodeId) (n : Node) :
    parents (steps ++ [.node parent n]) = parents steps ++ [parent] := by
  simp [parents]

theorem parents_concat_material (steps : List Addition) (m : Material) :
    parents (steps ++ [.material m]) = parents steps := by
  simp [parents]

theorem parents_concat_geometry (steps : List Addition) (g : Geometry) :
    parents (steps ++ [.geometry g]) = parents steps := by
  simp [parents]

theorem built_concat (steps : List Addition) (a : Addition) :
    built (steps ++ [a]) = (built steps).add a := by
  rw [built, List.foldl_concat]
  rfl

theorem size_built (steps : List Addition) :
    (built steps).nodes.size = (parents steps).length + 1 := by
  induction steps using List.reverseRecOn with
  | nil => rfl
  | append_singleton steps a ih =>
    rw [built_concat]
    cases a with
    | node parent n =>
      rw [parents_concat_node, List.length_append]
      exact (size_addNode _ parent n).trans (congrArg (· + 1) ih)
    | material m =>
      rw [parents_concat_material]
      exact ih
    | geometry g =>
      rw [parents_concat_geometry]
      exact ih

theorem mem_childrenOf_built {steps : List Addition} (h : ∀ a ∈ steps, a.IsLeaf) :
    child ∈ (built steps).childrenOf id ↔
      ∃ i, (parents steps)[i]? = some id ∧ child = i + 1 ∧ id ≤ child := by
  induction steps using List.reverseRecOn with
  | nil => simp [parents, show built [] = initial from rfl, childrenOf_initial]
  | append_singleton steps a ih =>
    rw [List.forall_mem_append, List.forall_mem_singleton] at h
    have ih := ih h.1
    rw [built_concat]
    cases a with
    | node parent n =>
      rw [parents_concat_node, Scene.add, mem_childrenOf_addNode h.2, ih, size_built]
      constructor
      · rintro (⟨i, hi, hc, hle⟩ | ⟨rfl, rfl, hle⟩)
        · exact ⟨i, getElem?_concat_eq_some.mpr (.inl hi), hc, hle⟩
        · exact ⟨_, getElem?_concat_eq_some.mpr (.inr ⟨rfl, rfl⟩), rfl, hle⟩
      · rintro ⟨i, hi, rfl, hle⟩
        rcases getElem?_concat_eq_some.mp hi with hi | ⟨rfl, rfl⟩
        · exact .inl ⟨i, hi, rfl, hle⟩
        · exact .inr ⟨rfl, rfl, hle⟩
    | material m =>
      rw [parents_concat_material]
      exact ih
    | geometry g =>
      rw [parents_concat_geometry]
      exact ih

theorem Grown.treelike (h : scene.Grown) : scene.Treelike where
  child_lt id _ := h.child_lt id
  nodup ids hids _ := by
    have hroot : scene.root ∉ ids.flatMap scene.childrenOf := by
      simpa using fun id _ => h.root_unlisted id
    refine List.nodup_cons.mpr ⟨hroot, List.nodup_flatMap.mpr ⟨fun id _ => h.nodup id, ?_⟩⟩
    refine hids.imp fun hne => ?_
    exact fun child hc hc' => hne (h.parent_unique _ _ child hc hc')

theorem Grown.exists_tree (h : scene.Grown) : ∃ t, scene.tree = .ok t := by
  have hlt := h.root_lt
  have hn : scene.rootNode? = some scene.nodes[scene.root] := Array.getElem?_eq_getElem hlt
  rw [tree, hn]
  exact (Search.sound_start hn).exists_run h.treelike

end Scene

def SceneError.IsOfTree : SceneError → Prop
  | missingRoot _ | danglingChild _ _ | sharedChild _ _ _ | cycle _ => True
  | _ => False

namespace Scene

variable {scene : Scene} {p : Placed} {e : SceneError}

theorem not_isOfTree_orElse {a b : Option SceneError} (ha : ∀ e ∈ a, ¬ e.IsOfTree)
    (hb : ∀ e ∈ b, ¬ e.IsOfTree) : ∀ e ∈ (a <|> b), ¬ e.IsOfTree := by
  cases a with
  | none => exact hb
  | some e => exact ha

theorem not_isOfTree_nodeDefect? (p : Placed) : ∀ e ∈ scene.nodeDefect? p, ¬ e.IsOfTree := by
  have hgeometry : ∀ e ∈ scene.geometryDefect? p, ¬ e.IsOfTree := by
    unfold geometryDefect?
    split <;> split <;> simp [SceneError.IsOfTree]
  have hname : ∀ e ∈ nameDefect? p, ¬ e.IsOfTree := by
    simp only [nameDefect?]
    split <;> simp [SceneError.IsOfTree]
  have hmaterial : ∀ e ∈ scene.materialDefect? p, ¬ e.IsOfTree := by
    unfold materialDefect?
    split
    · split <;> simp [SceneError.IsOfTree]
    · simp
  have hbone : ∀ e ∈ scene.boneDefect? p, ¬ e.IsOfTree := by
    intro e he
    obtain ⟨bone, -, rfl⟩ := Option.map_eq_some_iff.mp he
    exact id
  exact not_isOfTree_orElse hgeometry
    (not_isOfTree_orElse hname (not_isOfTree_orElse hmaterial hbone))

theorem not_isOfTree_geometriesDefect? (earlier rest : List Geometry) :
    ∀ e ∈ scene.geometriesDefect? earlier rest, ¬ e.IsOfTree := by
  induction rest generalizing earlier with
  | nil => simp [geometriesDefect?]
  | cons g rest ih =>
    have hcount : ∀ e ∈ countDefect? earlier g, ¬ e.IsOfTree := by
      unfold countDefect?
      split
      · split <;> simp [SceneError.IsOfTree]
      · simp
    have howner : ∀ e ∈ scene.ownerDefect? g, ¬ e.IsOfTree := by
      unfold ownerDefect?
      split
      · split <;> simp [SceneError.IsOfTree]
      · simp
    exact not_isOfTree_orElse hcount (not_isOfTree_orElse howner (ih _))

theorem not_isOfTree_tableDefect? : ∀ e ∈ scene.tableDefect?, ¬ e.IsOfTree := by
  refine not_isOfTree_orElse (fun e he => ?_) (not_isOfTree_geometriesDefect? _ _)
  obtain ⟨p, -, hp⟩ := List.exists_of_findSome?_eq_some he
  exact not_isOfTree_nodeDefect? p e hp

theorem Grown.not_isOfTree {e : SceneError} (h : scene.Grown) (he : scene.validate = .error e) :
    ¬ e.IsOfTree := by
  obtain ⟨tree, ht⟩ := h.exists_tree
  rw [validate, ht] at he
  cases hd : scene.tableDefect? with
  | none => simp [hd] at he
  | some e' =>
    simp only [hd, Except.error.injEq] at he
    exact he ▸ not_isOfTree_tableDefect? e' hd

/-- Scenes built from leaves are made of trees and of loops that the root does not reach: a node is
listed once at most, and then by the parent it was put under, which was there before it or is the
node itself. So validation finds no fault with the tree of such a scene. -/
theorem validate_built {steps : List Addition} (h : ∀ a ∈ steps, a.IsLeaf) :
    (built steps).Grown ∧
      (∀ id child, child ∈ (built steps).childrenOf id ↔
        ∃ i, (parents steps)[i]? = some id ∧ child = i + 1 ∧ id ≤ child) ∧
      (∃ tree, (built steps).tree = .ok tree) ∧
      ∀ e, (built steps).validate = .error e → ¬ e.IsOfTree := by
  have hgrown := grown_built h
  refine ⟨hgrown, fun id child => mem_childrenOf_built h, hgrown.exists_tree, ?_⟩
  intro e he
  exact hgrown.not_isOfTree he

def astray : List Addition := [
  .node 0 (.group "Pivot"),
  .node 3 (.group "Lost"),
  .node 3 (.group "Loop"),
  .material {},
  .node 3 (.group "Below")]

theorem validate_built_astray : (∀ a ∈ astray, a.IsLeaf) ∧ 3 ∈ (built astray).childrenOf 3 ∧
    ∀ e, (built astray).validate = .error e → ¬ e.IsOfTree := by
  have hleaf : ∀ a ∈ astray, a.IsLeaf := by
    simp [astray, Addition.IsLeaf, Node.group]
  obtain ⟨-, hlisted, -, hvalidate⟩ := validate_built hleaf
  exact ⟨hleaf, (hlisted 3 3).mpr ⟨2, rfl, rfl, Nat.le_refl 3⟩, hvalidate⟩

end Scene

end SceneMarkup
