import SceneMarkup.Proofs.Attributes
import SceneMarkup.Proofs.Defaults
import SceneMarkup.Proofs.IndexedWalk
import SceneMarkup.Proofs.Instances
import SceneMarkup.Proofs.Types

/-!
The plan by index. The parts of a unit are made from the index of a scene; they read the nodes
again, and the markup goes down from child to child. For a good scene no read is out of range, the
markup ends, and the plan is the same.
-/

namespace SceneMarkup

namespace SceneIndex

def visits? (scene : Scene) (ix : SceneIndex) : Option (List Visit) :=
  ix.order.mapM fun id => do
    let p ← scene.placed? id
    let parent ← (ix.parent? id).mapM scene.placed?
    return ⟨p, parent, ix.skinned.contains id⟩

def materials? (scene : Scene) (ix : SceneIndex) : Option (List MaterialUse) :=
  ix.materials.entries.mapM fun (id, user) => do
    let material ← scene.materials[id]?
    let firstUser ← scene.placed? user
    return ⟨id, material, firstUser⟩

def transformKeys? (scene : Scene) (ix : SceneIndex) : Option (List (Placed × String)) :=
  ix.transformKeys.entries.mapM fun (id, key) => do
    let p ← scene.placed? id
    return (p, key)

def survey? (scene : Scene) (options : Options) (ix : SceneIndex) : Option Survey := do
  let visits ← ix.visits? scene
  let transformKeys ← ix.transformKeys? scene
  let materials ← ix.materials? scene
  let instancing := options.requestsInstancing && !ix.registry.geometries.isEmpty
  return { visits, transformKeys, materials, registry := ix.registry, instancing }

end SceneIndex

namespace Setting

def boundAttributes (s : Setting) (node : Node) : Option String → List Attribute
  | some key => (s.transformEntries node).map fun e => .bound key e.1
  | none => []

def attributesWith (s : Setting) (node : Node) (shared : Option SharedGeometry)
    (key : Option String) : List Attribute :=
  match shared with
  | some _ =>
    s.nameAttribute node ++ visibleAttribute node ++ s.boundAttributes node key ++
      s.userDataAttribute node
  | none =>
    distinctBy (·.name) (s.leadingAttributes node ++ s.boundAttributes node key ++
      s.userDataAttribute node)

def tagWith (node : Node) : Option SharedGeometry → String
  | some g => Scope.instances.reference [g.name]
  | none => elementTag node.type

end Setting

namespace Composition

def join : List Composition → Composition
  | [] => ⟨[], [], 0⟩
  | c :: rest =>
    let after := join rest
    ⟨c.content ++ after.content, c.removed ++ after.removed, c.steps + after.steps⟩

end Composition

namespace SceneIndex

def shared? (s : Setting) (ix : SceneIndex) (node : Node) : Option (Option SharedGeometry) :=
  if s.survey.instancing then
    match s.scene.geometryOf? node with
    | some g => ix.registry.read? g.key
    | none => some none
  else some none

def emit? (s : Setting) (ix : SceneIndex) (id : NodeId) : Option Composition := do
  let node ← s.scene.nodes[id]?
  if node.isBone then return { content := [.live node.name], removed := [], steps := 1 }
  else
    let below := Composition.join (← node.children.mapM fun child => ix |>.emit? s child)
    let shared ← ix.shared? s node
    let key ← ix.transformKeys.read? id
    let tag := Setting.tagWith node shared
    let attributes := s.attributesWith node shared key
    if !s.options.keepGroups && tag == groupTag &&
        (attributes.isEmpty || node.children.isEmpty) then
      return { below with removed := id :: below.removed, steps := below.steps + 1 }
    else
      return { below with
        content := [.element ⟨id, node⟩ tag attributes below.content]
        steps := below.steps + 1 }
partial_fixpoint

def compose? (s : Setting) (ix : SceneIndex) : Option Composition := do
  let root ← s.scene.rootNode?
  if root.nodeClass == .container then
    let below := Composition.join (← root.children.mapM (ix.emit? s))
    return { below with steps := below.steps + 1 }
  else ix.emit? s s.scene.root

end SceneIndex

namespace Plan

/-- The plan made by index, if nothing is read out of range and the markup ends. -/
def byIndex? (scene : Scene) (options : Options) (saved : Option Json) : Option Plan := do
  let ix ← SceneIndex.of? scene options
  let survey ← ix.survey? scene options
  let s : Setting := ⟨scene, options, survey⟩
  let composition ← ix.compose? s
  let root ← scene.rootNode?
  let controls := restore s.precision saved (s.controls root composition)
  return { setting := s, composition, controls }

def instances? (p : Plan) : Option (List InstanceRow) :=
  if p.survey.instancing then
    p.survey.registry.geometries.mapM fun g => do
      let owner ← p.setting.scene.nodes[g.owner]?
      return ⟨g.name, owner.name⟩
  else some []

end Plan

namespace SceneIndex

variable {scene : Scene} {options : Options} {ix : SceneIndex} {tree : SceneTree}

theorem placed?_of_mem_visits (h : Search.Finds scene tree) {v : Visit} (hv : v ∈ scene.visits) :
    scene.placed? v.placed.id = some v.placed :=
  Scene.placed?_eq_some.mpr (h.nodes_of_mem_visits hv)

theorem visits?_eq (h : Search.Finds scene tree) (hix : ix.Indexes scene options) :
    ix.visits? scene = some scene.visits := by
  rw [visits?, hix.order]
  refine mapM_map_eq_some fun v hv => ?_
  have hparent : (v.parent.map (·.id)).mapM scene.placed? = some v.parent := by
    cases hq : v.parent with
    | none => rfl
    | some q =>
      show (scene.placed? q.id).map some = _
      rw [h.placed?_parent hv hq]
      rfl
  rw [hix.parents v hv, hix.skinned v hv, hparent]
  show (scene.placed? v.placed.id).bind _ = _
  rw [placed?_of_mem_visits h hv]
  rfl

theorem materials?_eq (h : Search.Finds scene tree) (hix : ix.Indexes scene options) :
    ix.materials? scene = some (Survey.of scene options).materials := by
  rw [materials?, hix.materials]
  refine mapM_map_eq_some fun use huse => ?_
  obtain ⟨⟨v, hv, hplaced⟩, -, -, hmaterial⟩ := Survey.firstUser_of_mem_materials huse
  have huser := placed?_of_mem_visits h hv
  rw [hplaced] at huser
  show scene.materials[use.id]?.bind (fun material => (scene.placed? use.firstUser.id).bind _) = _
  rw [hmaterial, huser]
  rfl

theorem transformKeys?_eq (h : Search.Finds scene tree) (hix : ix.Indexes scene options) :
    ix.transformKeys? scene = some (Survey.of scene options).transformKeys := by
  rw [transformKeys?, hix.transformKeys]
  refine mapM_map_eq_some fun e he => ?_
  have hexposed := Setting.exposed_of_mem_transformKeys h he
  have hnode := h.unfolds.node_of_mem (tree.exposed_sublist.subset hexposed)
  show (scene.placed? e.1.id).bind _ = _
  rw [Scene.placed?_eq_some.mpr hnode]
  rfl

theorem survey?_eq (h : Search.Finds scene tree) (hix : ix.Indexes scene options) :
    ix.survey? scene options = some (.of scene options) := by
  rw [survey?, visits?_eq h hix, transformKeys?_eq h hix, materials?_eq h hix, hix.registry]
  rfl

end SceneIndex

namespace Setting

variable {s : Setting}

theorem transformAttributes_eq_bound (p : Placed) :
    s.transformAttributes p = s.boundAttributes p.node (s.survey.transformKey? p.id) := by
  rw [transformAttributes_eq, boundFields]
  cases s.survey.transformKey? p.id with
  | none => rfl
  | some key =>
    rw [List.map_map]
    rfl

theorem attributes_eq (p : Placed) : s.attributes p =
    s.attributesWith p.node (s.shared? p.node) (s.survey.transformKey? p.id) := by
  rw [attributes]
  cases s.shared? p.node with
  | none =>
    rw [directAttributes, candidateAttributes_eq, transformAttributes_eq_bound]
    rfl
  | some g =>
    rw [instancedAttributes, transformAttributes_eq_bound]
    rfl

theorem tag_eq (node : Node) : s.tag node = tagWith node (s.shared? node) := rfl

end Setting

namespace SceneIndex

variable {scene : Scene} {options : Options} {ix : SceneIndex} {tree : SceneTree}

def emission (s : Setting) (t : SceneTree) : Composition where
  content := s.markup t
  removed := s.elided t
  steps := Setting.steps t

theorem join_emission (s : Setting) (ts : List SceneTree) :
    Composition.join (ts.map (emission s)) = {
      content := s.markupAll ts
      removed := s.elidedAll ts
      steps := Setting.stepsAll ts } := by
  induction ts with
  | nil => rfl
  | cons t rest ih =>
    rw [List.map_cons, Composition.join, ih]
    rfl

theorem shared?_eq (hix : ix.Indexes scene options) (node : Node) :
    ix.shared? (.of scene options) node = some ((Setting.of scene options).shared? node) := by
  have hindexed : ix.registry.Indexed := by
    rw [hix.registry]
    exact Registry.indexed_of scene options _
  have hsame : (Setting.of scene options).survey.registry = ix.registry := hix.registry.symm
  rw [shared?, Setting.shared?, hsame]
  split
  · cases (Setting.of scene options).scene.geometryOf? node with
    | none => rfl
    | some g => exact hindexed.read?_eq g.key
  · rfl

theorem read?_eq (h : Search.Finds scene tree) (hix : ix.Indexes scene options) (id : NodeId) :
    ix.transformKeys.read? id = some ((Survey.of scene options).transformKey? id) := by
  have hnodup : (ix.transformKeys.entries.map Prod.fst).Nodup := by
    rw [hix.transformKeys, List.map_map]
    exact Setting.nodup_map_id_transformKeys h
  rw [hix.soundKeys.read?_eq hnodup, hix.transformKeys, lookup_map_eq_find?]
  rfl

theorem mapM_emit? {s : Setting} {ids : List NodeId} {ts : List SceneTree}
    (hts : ts.map SceneTree.id = ids) (h : ∀ t ∈ ts, ix.emit? s t.id = some (emission s t)) :
    ids.mapM (ix.emit? s) = some (ts.map (emission s)) := by
  rw [← hts, List.mapM_map]
  exact mapM_eq_some_map h

theorem emit?_eq (h : Search.Finds scene tree) (hix : ix.Indexes scene options) {t : SceneTree}
    (ht : t.Unfolds scene) :
    ix.emit? (.of scene options) t.id = some (emission (.of scene options) t) := by
  induction t with
  | branch p ts ih =>
    cases ht with
    | branch hp hts hall =>
      have hbelow := mapM_emit? hts fun t hm => ih t hm (hall t hm)
      have hread : (Setting.of scene options).scene.nodes[p.id]? = some p.node := hp
      rw [SceneTree.id_branch, emit?, hread]
      simp only [Option.bind_eq_bind, Option.bind_some, hbelow, shared?_eq hix, read?_eq h hix,
        join_emission]
      rw [emission, Setting.markup, Setting.elided, Setting.steps]
      cases p.node.isBone with
      | true => rfl
      | false =>
        have hattributes : (Setting.of scene options).attributesWith p.node
            ((Setting.of scene options).shared? p.node)
            ((Survey.of scene options).transformKey? p.id) =
              (Setting.of scene options).attributes p := (Setting.attributes_eq p).symm
        rw [hattributes, ← Setting.tag_eq, Setting.elides]
        simp only [Bool.false_eq_true, if_false]
        split <;> rfl

theorem compose?_eq (h : Search.Finds scene tree) (hix : ix.Indexes scene options) :
    ix.compose? (.of scene options) = some (.of (.of scene options) tree) := by
  have hread : (Setting.of scene options).scene.rootNode? = some tree.node :=
    SceneTree.rootNode?_eq h
  have hroot : (Setting.of scene options).scene.root = tree.id := h.root.symm
  obtain ⟨hids, hall⟩ : tree.children.map SceneTree.id = tree.node.children ∧
      ∀ t ∈ tree.children, t.Unfolds scene := by
    cases h.unfolds with
    | branch _ hts hall => exact ⟨hts, hall⟩
  have hbelow := mapM_emit? hids fun t hm => emit?_eq h hix (hall t hm)
  rw [compose?, hread, hroot, emit?_eq h hix h.unfolds, Composition.of]
  simp only [Option.bind_eq_bind, Option.bind_some, hbelow, join_emission]
  split <;> rfl

end SceneIndex

variable {scene : Scene} {options : Options} {saved : Option Json} {tree : SceneTree}

theorem Plan.byIndex?_eq (h : scene.validate = .ok tree) :
    byIndex? scene options saved = some (.of scene options saved tree) := by
  have hfinds := Scene.tree_finds (Scene.validate_eq_ok.mp h).1
  obtain ⟨ix, hof, hix⟩ := SceneIndex.exists_of? hfinds options
  have hcompose : ix.compose? ⟨scene, options, .of scene options⟩ =
      some (.of (.of scene options) tree) := SceneIndex.compose?_eq hfinds hix
  rw [byIndex?, hof]
  simp only [Option.bind_eq_bind, Option.bind_some, SceneIndex.survey?_eq hfinds hix, hcompose,
    SceneTree.rootNode?_eq hfinds]
  rfl

theorem Plan.instances?_eq (h : scene.validate = .ok tree) :
    (Plan.of scene options saved tree).instances? =
      some (Plan.of scene options saved tree).instances := by
  rw [instances?, instances]
  split
  · refine mapM_eq_some_map fun g hg => ?_
    obtain ⟨owner, -, hread, -⟩ := Scene.exists_owner h hg
    have hnode : (Plan.of scene options saved tree).setting.scene.nodes[g.owner]? = some owner :=
      hread
    rw [hnode]
    rfl
  · rfl

theorem generate_eq_error {e : SceneError} :
    generate scene options saved = .error e ↔ scene.validate = .error e := by
  rw [generate, plan]
  cases scene.validate with
  | error e' => simp [Except.map]
  | ok tree => simp [Except.map]

/-- A generation fails just where validation does, and with its defect. For a good scene the plan
can be made by index: the walk and the markup end, and no read of the nodes, of the geometries or of
the slots is out of range. -/
theorem generate_by_index (scene : Scene) (options : Options) (saved : Option Json) :
    (∀ e, generate scene options saved = .error e ↔ scene.validate = .error e) ∧
      ∀ tree, scene.validate = .ok tree → ∃ plan, Plan.byIndex? scene options saved = some plan ∧
        plan.instances? = some plan.instances ∧ generate scene options saved = .ok plan.unit :=
  ⟨fun _ => generate_eq_error, fun tree h => ⟨.of scene options saved tree, Plan.byIndex?_eq h,
    Plan.instances?_eq h, generate_eq_ok.mpr ⟨tree, h, rfl⟩⟩⟩

theorem sample_generate_by_index :
    ∃ plan, Plan.byIndex? Scene.sample { instancing := true } none = some plan ∧
      plan.instances? = some plan.instances ∧
      generate Scene.sample { instancing := true } none = .ok plan.unit := by
  obtain ⟨tree, htree⟩ := Scene.sample_validate
  exact (generate_by_index Scene.sample { instancing := true } none).2 tree htree

end SceneMarkup
