import SceneMarkup.Proofs.RecastUnit

namespace SceneMarkup

namespace Scene

def appendNodes (scene : Scene) (extra : List Node) : Scene :=
  { scene with nodes := scene.nodes ++ extra.toArray }

variable {scene : Scene} {extra : List Node} {tree : SceneTree}

theorem getElem?_appendNodes {id : NodeId} {node : Node} (h : scene.nodes[id]? = some node) :
    (scene.appendNodes extra).nodes[id]? = some node := by
  have hlt := (Array.getElem?_eq_some_iff.mp h).1
  rw [appendNodes, Array.getElem?_append_left hlt, h]

theorem unfolds_appendNodes (h : tree.Unfolds scene) :
    tree.Unfolds (scene.appendNodes extra) := by
  induction tree with
  | branch p ts ih =>
    cases h with
    | branch hp hts hall =>
      exact .branch (getElem?_appendNodes hp) hts fun t hm => ih t hm (hall t hm)

theorem finds_appendNodes (h : Search.Finds scene tree) :
    Search.Finds (scene.appendNodes extra) tree where
  unfolds := unfolds_appendNodes h.unfolds
  root := h.root
  nodup := h.nodup

theorem tree_appendNodes (h : scene.tree = .ok tree) :
    (scene.appendNodes extra).tree = .ok tree := by
  rw [tree_eq_ok_iff] at h ⊢
  exact finds_appendNodes h

def unchanged (scene : Scene) (options : Options) : Recasting where
  rename := id
  isAdded _ := false
  options
  clips := scene.animations

theorem scenes_appendNodes (h : scene.validate = .ok tree)
    (h' : (scene.appendNodes extra).validate = .ok tree) (options : Options) :
    (unchanged scene options).Scenes scene (scene.appendNodes extra) tree tree where
  valid := h
  valid' := h'
  injective := Function.injective_id
  top := ⟨rfl, rfl, .refl tree.node⟩
  below := by
    have hall : (unchanged scene options).Trees tree.children (tree.children.map id) :=
      .of_forall fun t _ => .refl rfl t fun _ _ => rfl
    rw [List.map_id] at hall
    exact hall
  nodes id node hn := ⟨node, getElem?_appendNodes hn, .refl node⟩
  materials := rfl
  geometries := (Geometry.map_rename_id scene.geometries).symm
  animations := rfl
  clips := rfl

/-- Nodes behind the table of a good scene leave no trace, neither in the text nor in the reports,
if the scene stays good. -/
theorem generate_appendNodes {tree' : SceneTree} (h : scene.validate = .ok tree)
    (h' : (scene.appendNodes extra).validate = .ok tree') (options : Options)
    (saved : Option Json) : ∃ unit, generate scene options saved = .ok unit ∧
      generate (scene.appendNodes extra) options saved = .ok unit := by
  have htree : (scene.appendNodes extra).tree = .ok tree := tree_appendNodes (validate_eq_ok.mp h).1
  rw [validate_eq_ok, htree] at h'
  obtain ⟨hsame, htable⟩ := h'
  cases hsame
  have hscenes := scenes_appendNodes h (validate_eq_ok.mpr ⟨htree, htable⟩) options
  refine ⟨_, generate_eq_ok.mpr ⟨tree, h, rfl⟩, generate_eq_ok.mpr ⟨tree, hscenes.valid', ?_⟩⟩
  have hunit := hscenes.unit_of saved rfl
  rw [hscenes.reports_of saved fun _ => rfl] at hunit
  exact hunit

end Scene

def Scene.strays : List Node := [
  { type := "Group", children := [1, 7] },
  { type := "Mesh", name := "Arm", geometry := some 0, children := [6] }]

theorem sample_generate_appendNodes : ∃ unit, generate Scene.sample {} none = .ok unit ∧
    generate (Scene.sample.appendNodes Scene.strays) {} none = .ok unit := by
  obtain ⟨tree, htree⟩ := Scene.sample_validate
  obtain ⟨tree', htree'⟩ : ∃ tree, (Scene.sample.appendNodes Scene.strays).validate = .ok tree :=
    Scene.exists_tree_of_isOk (by decide +kernel)
  exact Scene.generate_appendNodes htree htree' {} none

end SceneMarkup
