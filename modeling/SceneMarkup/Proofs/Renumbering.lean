import Mathlib.Logic.Equiv.Fin.Rotate
import SceneMarkup.Proofs.RecastUnit

namespace SceneMarkup

def Node.rename (ρ : NodeId → NodeId) (n : Node) : Node :=
  { n with children := n.children.map ρ, skeleton := n.skeleton.map (·.map ρ) }

def Placed.rename (ρ : NodeId → NodeId) (p : Placed) : Placed := ⟨ρ p.id, p.node.rename ρ⟩

theorem Node.alike_rename (ρ : NodeId → NodeId) (n : Node) : n.Alike (n.rename ρ) :=
  .intro List.isEmpty_map Option.isSome_map

theorem Node.rename_symm (ρ : Equiv.Perm NodeId) (n : Node) : (n.rename ρ).rename ρ.symm = n := by
  cases n
  simp [Node.rename, Function.comp_def]

theorem Geometry.rename_symm (ρ : Equiv.Perm NodeId) (g : Geometry) :
    (g.rename ρ).rename ρ.symm = g := by
  cases g
  simp [Geometry.rename, Function.comp_def]

namespace SceneTree

mutual

def rename (ρ : NodeId → NodeId) : SceneTree → SceneTree
  | branch p ts => branch (p.rename ρ) (renameAll ρ ts)

def renameAll (ρ : NodeId → NodeId) : List SceneTree → List SceneTree
  | [] => []
  | t :: rest => rename ρ t :: renameAll ρ rest

end

variable {ρ : NodeId → NodeId}

theorem renameAll_eq (ts : List SceneTree) : renameAll ρ ts = ts.map (rename ρ) := by
  induction ts with
  | nil => rfl
  | cons t rest ih => rw [renameAll, ih, List.map_cons]

@[simp] theorem rename_branch (p : Placed) (ts : List SceneTree) :
    (branch p ts).rename ρ = branch (p.rename ρ) (ts.map (rename ρ)) := by
  rw [rename, renameAll_eq]

@[simp] theorem id_rename (t : SceneTree) : (t.rename ρ).id = ρ t.id := by
  cases t
  rw [rename_branch, id_branch, id_branch, Placed.rename]

theorem ids_rename (t : SceneTree) : (t.rename ρ).ids = t.ids.map ρ := by
  induction t with
  | branch p ts ih =>
    rw [rename_branch, ids_branch, ids_branch, List.map_cons, List.flatMap_map, List.map_flatMap,
      List.flatMap_congr ih]
    rfl

end SceneTree

namespace Scene

structure Renumbered (ρ : Equiv.Perm NodeId) (scene scene' : Scene) : Prop where
  root : scene'.root = ρ scene.root
  nodes : ∀ id, scene'.nodes[ρ id]? = scene.nodes[id]?.map (·.rename ρ)
  materials : scene'.materials = scene.materials
  geometries : scene'.geometries = scene.geometries.map (·.rename ρ)
  animations : scene'.animations = scene.animations

namespace Renumbered

variable {ρ : Equiv.Perm NodeId} {scene scene' : Scene}

theorem symm (h : Renumbered ρ scene scene') : Renumbered ρ.symm scene' scene where
  root := by rw [h.root, Equiv.symm_apply_apply]
  nodes id := by
    have hn := h.nodes (ρ.symm id)
    rw [Equiv.apply_symm_apply] at hn
    rw [hn, Option.map_map]
    simp [Function.comp_def, Node.rename_symm]
  materials := h.materials.symm
  geometries := by
    rw [h.geometries, Array.map_map]
    simp [Function.comp_def, Geometry.rename_symm]
  animations := h.animations.symm

theorem lt_size (h : Renumbered ρ scene scene') {id : NodeId} :
    ρ id < scene'.nodes.size ↔ id < scene.nodes.size := by
  rw [← not_le, ← Array.getElem?_eq_none_iff, h.nodes, Option.map_eq_none_iff,
    Array.getElem?_eq_none_iff, not_le]

variable {tree : SceneTree}

theorem unfolds (h : Renumbered ρ scene scene') (ht : tree.Unfolds scene) :
    (tree.rename ρ).Unfolds scene' := by
  induction tree with
  | branch p ts ih =>
    cases ht with
    | branch hp hts hall =>
      rw [SceneTree.rename_branch]
      refine .branch ?_ ?_ ?_
      · show scene'.nodes[ρ p.id]? = some (p.node.rename ρ)
        rw [h.nodes, hp, Option.map_some]
      · show _ = p.node.children.map ρ
        rw [← hts, List.map_map, List.map_map]
        exact List.map_congr_left fun t _ => t.id_rename
      · exact List.forall_mem_map.mpr fun t hm => ih t hm (hall t hm)

theorem finds (h : Renumbered ρ scene scene') (ht : Search.Finds scene tree) :
    Search.Finds scene' (tree.rename ρ) where
  unfolds := h.unfolds ht.unfolds
  root := by rw [SceneTree.id_rename, ht.root, h.root]
  nodup := by
    rw [SceneTree.ids_rename]
    exact ht.nodup.map ρ.injective

theorem exists_of_mem_nodes (h : Renumbered ρ scene scene') {node' : Node}
    (hn : node' ∈ scene'.nodes) : ∃ node ∈ scene.nodes, node' = node.rename ρ := by
  obtain ⟨id, hid⟩ := Array.mem_iff_getElem?.mp hn
  have hback := h.nodes (ρ.symm id)
  rw [Equiv.apply_symm_apply, hid] at hback
  obtain ⟨node, hnode, hrename⟩ := Option.map_eq_some_iff.mp hback.symm
  exact ⟨node, Array.mem_of_getElem? hnode, hrename.symm⟩

theorem wellFormedNode (h : Renumbered ρ scene scene') {node : Node}
    (hn : scene.WellFormedNode node) : scene'.WellFormedNode (node.rename ρ) where
  geometry_lt g hg := by
    rw [h.geometries, Array.size_map]
    exact hn.geometry_lt g hg
  mesh := hn.mesh
  unnamed := hn.unnamed
  material_lt m hm := by
    rw [h.materials]
    exact hn.material_lt m hm
  bone_lt bones hbones bone hbone := by
    obtain ⟨own, hown, rfl⟩ := Option.map_eq_some_iff.mp hbones
    obtain ⟨id, hid, rfl⟩ := List.mem_map.mp hbone
    exact h.lt_size.mpr (hn.bone_lt own hown id hid)

theorem geometryOf? (h : Renumbered ρ scene scene') (node : Node) :
    scene'.geometryOf? (node.rename ρ) = (scene.geometryOf? node).map (·.rename ρ) := by
  simp only [Scene.geometryOf?, h.geometries, Array.getElem?_map, Option.map_bind]
  rfl

theorem countsAgree (h : Renumbered ρ scene scene') (hc : CountsAgree scene.geometries.toList) :
    CountsAgree scene'.geometries.toList := by
  rw [h.geometries, Array.toList_map, CountsAgree]
  simp only [List.forall_mem_map]
  exact hc

theorem ownerUses (h : Renumbered ρ scene scene') {g : Geometry} (hg : scene.OwnerUses g) :
    scene'.OwnerUses (g.rename ρ) := by
  intro owner' howner
  obtain ⟨owner, ho, rfl⟩ := Option.map_eq_some_iff.mp howner
  obtain ⟨node, own, hn, hown, hkey⟩ := hg owner ho
  refine ⟨node.rename ρ, own.rename ρ, ?_, ?_, hkey⟩
  · rw [h.nodes, hn, Option.map_some]
  · rw [h.geometryOf?, hown, Option.map_some]

theorem validate (h : Renumbered ρ scene scene') (ht : scene.validate = .ok tree) :
    scene'.validate = .ok (tree.rename ρ) := by
  rw [validate_eq_ok, tree_eq_ok_iff, tableDefect?_eq_none] at ht ⊢
  obtain ⟨hfinds, hnodes, hcounts, howners⟩ := ht
  refine ⟨h.finds hfinds, ?_, h.countsAgree hcounts, ?_⟩
  · intro node' hn
    obtain ⟨node, hnode, rfl⟩ := h.exists_of_mem_nodes hn
    exact h.wellFormedNode (hnodes node hnode)
  · rw [h.geometries]
    intro g' hg
    obtain ⟨g, hmem, rfl⟩ := Array.mem_map.mp hg
    exact h.ownerUses (howners g hmem)

theorem exists_validate_iff (h : Renumbered ρ scene scene') :
    (∃ tree, scene.validate = .ok tree) ↔ ∃ tree, scene'.validate = .ok tree := by
  constructor
  · rintro ⟨tree, ht⟩
    exact ⟨_, h.validate ht⟩
  · rintro ⟨tree, ht⟩
    exact ⟨_, h.symm.validate ht⟩

def recasting (ρ : NodeId → NodeId) (scene : Scene) (options : Options) : Recasting where
  rename := ρ
  isAdded _ := false
  options
  clips := scene.animations

theorem trees_rename (ρ : NodeId → NodeId) (options : Options) (t : SceneTree) :
    (recasting ρ scene options).Trees [t] [t.rename ρ] := by
  induction t with
  | branch p ts ih =>
    rw [SceneTree.rename_branch]
    exact .branch ⟨rfl, rfl, p.node.alike_rename ρ⟩ (.of_forall ih) .nil

theorem scenes (h : Renumbered ρ scene scene') (ht : scene.validate = .ok tree)
    (options : Options) :
    (recasting ρ scene options).Scenes scene scene' tree (tree.rename ρ) where
  valid := ht
  valid' := h.validate ht
  injective := ρ.injective
  top := by
    cases tree with
    | branch p ts => exact ⟨rfl, rfl, p.node.alike_rename ρ⟩
  below := by
    cases tree with
    | branch p ts =>
      rw [SceneTree.rename_branch]
      exact .of_forall fun t _ => trees_rename ρ options t
  nodes id node hn := by
    refine ⟨node.rename ρ, ?_, node.alike_rename ρ⟩
    show scene'.nodes[ρ id]? = _
    rw [h.nodes, hn, Option.map_some]
  materials := h.materials
  geometries := h.geometries
  animations := h.animations
  clips := rfl

end Renumbered

variable {n : Nat}

def moved (σ : Equiv.Perm (Fin n)) : Equiv.Perm NodeId := σ.extendDomain Fin.equivSubtype

theorem moved_val (σ : Equiv.Perm (Fin n)) (i : Fin n) : moved σ i = σ i :=
  σ.extendDomain_apply_image Fin.equivSubtype i

theorem moved_of_le (σ : Equiv.Perm (Fin n)) {id : NodeId} (h : n ≤ id) : moved σ id = id :=
  σ.extendDomain_apply_not_subtype Fin.equivSubtype (Nat.not_lt.mpr h)

/-- The node at `i` moves to `σ i`, and every index of a node with it. -/
def renumber (scene : Scene) (σ : Equiv.Perm (Fin scene.nodes.size)) : Scene :=
  { scene with
    root := moved σ scene.root
    nodes := Array.ofFn fun i => scene.nodes[σ.symm i].rename (moved σ)
    geometries := scene.geometries.map (·.rename (moved σ)) }

theorem renumbered_renumber (scene : Scene) (σ : Equiv.Perm (Fin scene.nodes.size)) :
    Renumbered (moved σ) scene (scene.renumber σ) where
  root := rfl
  nodes id := by
    by_cases hid : id < scene.nodes.size
    · have hmoved : moved σ id = σ ⟨id, hid⟩ := moved_val σ ⟨id, hid⟩
      rw [hmoved, Array.getElem?_eq_getElem hid, Option.map_some]
      simp [renumber]
    · have hout := Nat.not_lt.mp hid
      rw [moved_of_le σ hout, Array.getElem?_eq_none hout, Option.map_none]
      simp [renumber, hout]
  materials := rfl
  geometries := rfl
  animations := rfl

theorem debugDump_eq_none (scene : Scene) (tree : SceneTree) (saved : Option Json)
    {options : Options} (hdebug : options.debug = false) :
    (Plan.of scene options saved tree).debugDump = none := by
  show (if options.debug then _ else none) = none
  rw [hdebug]
  rfl

/-- Nothing is written in the order of the table. However the nodes are permuted, the same
scenes are good, and a good one gives the same unit; the owners in its registry have moved along. -/
theorem generate_renumber (scene : Scene) (σ : Equiv.Perm (Fin scene.nodes.size)) :
    ((∃ tree, scene.validate = .ok tree) ↔ ∃ tree, (scene.renumber σ).validate = .ok tree) ∧
      ∀ tree, scene.validate = .ok tree → ∀ options : Options, options.debug = false →
        ∀ saved, ∃ unit, generate scene options saved = .ok unit ∧
          generate (scene.renumber σ) options saved =
            .ok { unit with registry := unit.registry.mapOwners (moved σ) } := by
  have hrenumbered := renumbered_renumber scene σ
  refine ⟨hrenumbered.exists_validate_iff, fun tree ht options hdebug saved => ?_⟩
  have hscenes := hrenumbered.scenes ht options
  have hdump := debugDump_eq_none scene tree saved hdebug
  have hdump' := debugDump_eq_none (scene.renumber σ) (tree.rename (moved σ)) saved hdebug
  refine ⟨_, generate_eq_ok.mpr ⟨tree, ht, rfl⟩, generate_eq_ok.mpr ⟨_, hscenes.valid', ?_⟩⟩
  have htext := hscenes.text_of saved (hdump'.trans hdump.symm)
  have hcontext := congrArg ControlSet.defaults (hscenes.controls_of saved)
  have hreports := hscenes.reports_of saved fun _ => rfl
  rw [Plan.unit, Plan.unit, SourceUnit.mk.injEq]
  exact ⟨htext, hcontext, hscenes.registry, hreports⟩

end Scene

theorem sample_generate_renumber : (Scene.sample.renumber (finRotate 6)).root = 2 ∧
    ∃ unit, generate Scene.sample {} none = .ok unit ∧
      generate (Scene.sample.renumber (finRotate 6)) {} none =
        .ok { unit with registry := unit.registry.mapOwners (Scene.moved (finRotate 6)) } := by
  obtain ⟨tree, htree⟩ := Scene.sample_validate
  exact ⟨by decide, (Scene.generate_renumber Scene.sample (finRotate 6)).2 tree htree {} rfl none⟩

end SceneMarkup
