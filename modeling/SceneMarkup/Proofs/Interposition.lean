import SceneMarkup.Proofs.RecastUnit

namespace SceneMarkup

def Node.relist (old new : NodeId) (n : Node) : Node :=
  { n with children := n.children.map fun id => if id = old then new else id }

theorem Node.relist_of_not_mem {old new : NodeId} {n : Node} (h : old ∉ n.children) :
    n.relist old new = n := by
  have hsame : n.children.map (fun id => if id = old then new else id) = n.children.map id := by
    apply List.map_congr_left
    intro child hmem
    exact if_neg fun hold : child = old => h (hold ▸ hmem)
  rw [relist, hsame, List.map_id]

theorem Node.alike_relist (old new : NodeId) (n : Node) : n.Alike (n.relist old new) :=
  .intro List.isEmpty_map rfl

theorem nodup_flatMap_insert {as : List α} [DecidableEq α] {old new : α} (h : as.Nodup)
    (hnew : new ∉ as) : (as.flatMap fun a => if a = old then [new, a] else [a]).Nodup := by
  rw [List.nodup_flatMap]
  constructor
  · intro a ha
    split
    · have hne : new ≠ a := fun he => hnew (he ▸ ha)
      simpa using hne
    · exact List.nodup_singleton a
  · apply h.pairwise_of_forall_ne
    intro a ha b hb hab x hx hx'
    have hcases {a : α} (hx : x ∈ if a = old then [new, a] else [a]) :
        x = a ∨ a = old ∧ x = new := by
      split at hx
      next ha => simpa [ha, or_comm] using hx
      next => exact .inl (List.mem_singleton.mp hx)
    rcases hcases hx with rfl | ⟨rfl, rfl⟩
    · rcases hcases hx' with rfl | ⟨-, rfl⟩
      · exact hab rfl
      · exact hnew ha
    · rcases hcases hx' with rfl | ⟨rfl, -⟩
      · exact hnew hb
      · exact hab rfl

theorem Node.IsBare.withChildren {options : Options} {clips : List AnimationClip} {n : Node}
    (h : n.IsBare options clips) (children : List NodeId) :
    Node.IsBare options clips { n with children } where
  container := h.container
  keepGroups := h.keepGroups
  keepNames := h.keepNames
  unreferenced := h.unreferenced
  identity := h.identity
  plain := congrArg (fun m : Node => { m with children }) h.plain

namespace SceneTree

def wrap (c : NodeId) (g : Placed) (t : SceneTree) : SceneTree :=
  if t.id = c then .branch g [t] else t

mutual

def interpose (c : NodeId) (g : Placed) : SceneTree → SceneTree
  | branch p ts => branch ⟨p.id, p.node.relist c g.id⟩ (interposeAll c g ts)

def interposeAll (c : NodeId) (g : Placed) : List SceneTree → List SceneTree
  | [] => []
  | t :: rest => (interpose c g t).wrap c g :: interposeAll c g rest

end

variable {c : NodeId} {g : Placed}

theorem interposeAll_eq (ts : List SceneTree) :
    interposeAll c g ts = ts.map fun t => (t.interpose c g).wrap c g := by
  induction ts with
  | nil => rfl
  | cons t rest ih => rw [interposeAll, ih, List.map_cons]

@[simp] theorem interpose_branch (p : Placed) (ts : List SceneTree) :
    (branch p ts).interpose c g =
      branch ⟨p.id, p.node.relist c g.id⟩ (ts.map fun t => (t.interpose c g).wrap c g) := by
  rw [interpose, interposeAll_eq]

@[simp] theorem id_interpose (t : SceneTree) : (t.interpose c g).id = t.id := by
  cases t
  rw [interpose_branch, id_branch, id_branch]

theorem id_wrap (t : SceneTree) : (t.wrap c g).id = if t.id = c then g.id else t.id := by
  rw [wrap]
  split <;> rfl

theorem ids_wrap_interpose (t : SceneTree) : ((t.interpose c g).wrap c g).ids =
    t.ids.flatMap fun id => if id = c then [g.id, id] else [id] := by
  induction t with
  | branch p ts ih =>
    have hbelow : (ts.map fun t => (t.interpose c g).wrap c g).flatMap ids =
        (ts.flatMap ids).flatMap fun id => if id = c then [g.id, id] else [id] := by
      rw [List.flatMap_map, List.flatMap_assoc]
      exact List.flatMap_congr ih
    rw [wrap, id_interpose, id_branch, interpose_branch, ids_branch, List.flatMap_cons]
    split
    next hc => simp [hbelow]
    next hc => simp [hbelow]

end SceneTree

namespace Scene

variable {scene : Scene} {tree : SceneTree} {parent c : NodeId} {w : Node}

def groupOf (scene : Scene) (c : NodeId) (w : Node) : Placed :=
  ⟨scene.nodes.size, { w with children := [c] }⟩

/-- Puts the group between `c` and its parent. -/
def interpose (scene : Scene) (parent c : NodeId) (w : Node) : Scene :=
  { scene with
    nodes := (scene.nodes.modify parent (·.relist c scene.nodes.size)).push
      (scene.groupOf c w).node }

theorem size_interpose :
    (scene.interpose parent c w).nodes.size = scene.nodes.size + 1 := by
  rw [interpose, Array.size_push, Array.size_modify]

theorem getElem?_interpose_size :
    (scene.interpose parent c w).nodes[scene.nodes.size]? = some (scene.groupOf c w).node := by
  rw [interpose, Array.getElem?_push, Array.size_modify, if_pos rfl]

theorem getElem?_interpose {id : NodeId} (h : id < scene.nodes.size) :
    (scene.interpose parent c w).nodes[id]? =
      if parent = id then scene.nodes[id]?.map (·.relist c scene.nodes.size)
      else scene.nodes[id]? := by
  rw [interpose, Array.getElem?_push, Array.size_modify, if_neg (Nat.ne_of_lt h),
    Array.getElem?_modify]

theorem exists_alike_interpose (parent c : NodeId) (w : Node) {id : NodeId} {node : Node}
    (h : scene.nodes[id]? = some node) :
    ∃ node', (scene.interpose parent c w).nodes[id]? = some node' ∧ node.Alike node' := by
  rw [getElem?_interpose (Array.getElem?_eq_some_iff.mp h).1, h]
  split
  · exact ⟨_, rfl, node.alike_relist c scene.nodes.size⟩
  · exact ⟨_, rfl, .refl node⟩

/-- Only one of the nodes that can be reached lists `c`, so all of them may be said to list the
group in its place. -/
theorem getElem?_interpose_of_mem (h : Search.Finds scene tree) (hparent : parent ∈ tree.ids)
    (hc : c ∈ scene.childrenOf parent) {p : Placed} (hp : p ∈ tree.preorder) :
    (scene.interpose parent c w).nodes[p.id]? = some (p.node.relist c scene.nodes.size) := by
  have hnode := h.unfolds.node_of_mem hp
  have hid : p.id ∈ tree.ids := List.mem_map_of_mem hp
  rw [getElem?_interpose (h.unfolds.lt_size hid), hnode]
  split
  case isTrue => rfl
  case isFalse hne =>
    rw [Node.relist_of_not_mem]
    rw [← childrenOf_eq hnode]
    exact fun hmem => hne (h.parent_unique hparent hid hc hmem)

theorem unfolds_interpose (h : Search.Finds scene tree) (hparent : parent ∈ tree.ids)
    (hc : c ∈ scene.childrenOf parent) {t : SceneTree} (ht : t.Unfolds scene)
    (hsub : t.preorder ⊆ tree.preorder) :
    (t.interpose c (scene.groupOf c w)).Unfolds (scene.interpose parent c w) := by
  induction t with
  | branch p ts ih =>
    cases ht with
    | branch hp hts hall =>
      rw [SceneTree.preorder_branch, List.cons_subset] at hsub
      rw [SceneTree.interpose_branch]
      refine .branch (getElem?_interpose_of_mem h hparent hc hsub.1) ?_ ?_
      · show _ = p.node.children.map _
        rw [← hts, List.map_map, List.map_map]
        apply List.map_congr_left
        intro t ht
        rw [Function.comp_apply, SceneTree.id_wrap, SceneTree.id_interpose]
        rfl
      · rw [List.forall_mem_map]
        intro t ht
        have hbelow := ih t ht (hall t ht) fun q hq =>
          hsub.2 (List.mem_flatMap.mpr ⟨t, ht, hq⟩)
        rw [SceneTree.wrap]
        split
        next hid =>
          refine .branch getElem?_interpose_size ?_ (by simpa using hbelow)
          rw [List.map_singleton, hid]
          rfl
        next => exact hbelow

theorem finds_interpose (h : Search.Finds scene tree) (hparent : parent ∈ tree.ids)
    (hc : c ∈ scene.childrenOf parent) :
    Search.Finds (scene.interpose parent c w) (tree.interpose c (scene.groupOf c w)) where
  unfolds := unfolds_interpose h hparent hc h.unfolds (List.Subset.refl _)
  root := by
    rw [SceneTree.id_interpose]
    exact h.root
  nodup := by
    have hlisted : c ∈ tree.ids.flatMap scene.childrenOf :=
      List.mem_flatMap.mpr ⟨parent, hparent, hc⟩
    have hroot : tree.id ≠ c := by
      rw [h.root]
      exact (h.mem_listed_iff.mp hlisted).2.symm
    have hnew : (scene.groupOf c w).id ∉ tree.ids := fun hid =>
      Nat.lt_irrefl _ (h.unfolds.lt_size hid)
    have hids := tree.ids_wrap_interpose (c := c) (g := scene.groupOf c w)
    rw [SceneTree.wrap, SceneTree.id_interpose, if_neg hroot] at hids
    rw [hids]
    exact nodup_flatMap_insert h.nodup hnew

theorem mem_nodes_interpose {node : Node} (h : node ∈ (scene.interpose parent c w).nodes) :
    node = (scene.groupOf c w).node ∨
      ∃ own ∈ scene.nodes, node = own ∨ node = own.relist c scene.nodes.size := by
  obtain ⟨id, hid⟩ := Array.mem_iff_getElem?.mp h
  by_cases hlt : id < scene.nodes.size
  · rw [getElem?_interpose hlt] at hid
    right
    split at hid
    · obtain ⟨own, hown, rfl⟩ := Option.map_eq_some_iff.mp hid
      exact ⟨own, Array.mem_of_getElem? hown, .inr rfl⟩
    · exact ⟨node, Array.mem_of_getElem? hid, .inl rfl⟩
  · left
    have hle := (Array.getElem?_eq_some_iff.mp hid).1
    rw [size_interpose] at hle
    obtain rfl : id = scene.nodes.size := by omega
    exact Option.some.inj (hid.symm.trans getElem?_interpose_size)

theorem wellFormedNode_interpose {node : Node} (h : scene.WellFormedNode node) :
    (scene.interpose parent c w).WellFormedNode node where
  geometry_lt := h.geometry_lt
  mesh := h.mesh
  unnamed := h.unnamed
  material_lt := h.material_lt
  bone_lt bones hbones bone hbone := by
    rw [size_interpose]
    exact Nat.lt_succ_of_lt (h.bone_lt bones hbones bone hbone)

theorem wellFormedNode_relist {node : Node} {old new : NodeId} (h : scene.WellFormedNode node) :
    scene.WellFormedNode (node.relist old new) :=
  ⟨h.geometry_lt, h.mesh, h.unnamed, h.material_lt, h.bone_lt⟩

theorem wellFormedNode_of_isBare {options : Options} {clips : List AnimationClip} {node : Node}
    (h : node.IsBare options clips) : scene.WellFormedNode node := by
  have hmesh : ¬ node.isMesh := Bool.eq_false_iff.mp h.isMesh
  have hbone : ¬ node.isBone := Bool.eq_false_iff.mp h.isBone
  have hgeometry : node.geometry = none := congrArg Node.geometry h.plain
  have hmaterial : node.material = none := congrArg Node.material h.plain
  have hskeleton : node.skeleton = none := congrArg Node.skeleton h.plain
  rw [Node.isMesh_iff] at hmesh
  rw [Node.isBone_iff] at hbone
  constructor
  · simp [hgeometry]
  · exact fun htype => absurd htype hmesh
  · exact fun _ => ⟨hgeometry, hbone⟩
  · simp [hmaterial]
  · simp [hskeleton]

theorem ownerUses_interpose {g : Geometry} (h : scene.OwnerUses g) :
    (scene.interpose parent c w).OwnerUses g := by
  intro owner howner
  obtain ⟨node, own, hn, hown, hkey⟩ := h owner howner
  obtain ⟨node', hn', halike⟩ := exists_alike_interpose parent c w hn
  refine ⟨node', own, hn', ?_, hkey⟩
  cases halike
  exact hown

theorem validate_interpose {options : Options} (h : scene.validate = .ok tree)
    (hparent : parent ∈ tree.ids) (hc : c ∈ scene.childrenOf parent)
    (hw : (scene.groupOf c w).node.IsBare options scene.animations) :
    (scene.interpose parent c w).validate = .ok (tree.interpose c (scene.groupOf c w)) := by
  rw [validate_eq_ok, tree_eq_ok_iff, tableDefect?_eq_none] at h ⊢
  obtain ⟨hfinds, hnodes, hcounts, howners⟩ := h
  refine ⟨finds_interpose hfinds hparent hc, ?_, hcounts, ?_⟩
  · intro node hmem
    rcases mem_nodes_interpose hmem with rfl | ⟨own, hown, rfl | rfl⟩
    · exact wellFormedNode_of_isBare hw
    · exact wellFormedNode_interpose (hnodes node hown)
    · exact wellFormedNode_interpose (wellFormedNode_relist (hnodes own hown))
  · exact fun g hg => ownerUses_interpose (howners g hg)

def interposing (scene : Scene) (options : Options) : Recasting where
  rename := id
  isAdded := (· == scene.nodes.size)
  options
  clips := scene.animations

variable {options : Options}

theorem places_relist (hlt : p.id < scene.nodes.size) :
    (interposing scene options).Places p ⟨p.id, p.node.relist c scene.nodes.size⟩ where
  id := rfl
  kept := beq_false_of_ne (Nat.ne_of_lt hlt)
  node := p.node.alike_relist c scene.nodes.size

theorem trees_interpose (hw : (scene.groupOf c w).node.IsBare options scene.animations)
    (hbone : options.types → ∀ node, scene.nodes[c]? = some node → ¬ node.isBone)
    {t : SceneTree} (ht : t.Unfolds scene) : (interposing scene options).Trees [t]
      [(t.interpose c (scene.groupOf c w)).wrap c (scene.groupOf c w)] := by
  induction t with
  | branch p ts ih =>
    have hlt := ht.lt_size (SceneTree.id_mem_ids _)
    cases ht with
    | branch hp _ hall =>
      have hbranch : (interposing scene options).Trees [.branch p ts]
          [(SceneTree.branch p ts).interpose c (scene.groupOf c w)] := by
        rw [SceneTree.interpose_branch]
        exact .branch (places_relist hlt) (.of_forall fun t hm => ih t hm (hall t hm)) .nil
      rw [SceneTree.wrap]
      split
      next hid =>
        rw [SceneTree.id_interpose, SceneTree.id_branch] at hid
        have hnotBone : options.types → ∀ t ∈ [SceneTree.branch p ts], ¬ t.node.isBone := by
          intro htypes t ht
          rw [List.mem_singleton] at ht
          subst ht
          exact hbone htypes p.node (hid ▸ hp)
        exact .wrapped (beq_self_eq_true _) hw hnotBone hbranch .nil
      next => exact hbranch

theorem scenes_interpose (h : scene.validate = .ok tree) (hparent : parent ∈ tree.ids)
    (hc : c ∈ scene.childrenOf parent)
    (hw : (scene.groupOf c w).node.IsBare options scene.animations)
    (hbone : options.types → ∀ node, scene.nodes[c]? = some node → ¬ node.isBone) :
    (interposing scene options).Scenes scene (scene.interpose parent c w) tree
      (tree.interpose c (scene.groupOf c w)) := by
  have hunfolds := (tree_finds (validate_eq_ok.mp h).1).unfolds
  have hlt := hunfolds.lt_size tree.id_mem_ids
  constructor
  case valid => exact h
  case valid' => exact validate_interpose h hparent hc hw
  case injective => exact Function.injective_id
  case top =>
    cases tree
    rw [SceneTree.interpose_branch]
    exact places_relist hlt
  case below =>
    cases hunfolds with
    | branch _ _ hall =>
      rw [SceneTree.interpose_branch]
      exact .of_forall fun t hm => trees_interpose hw hbone (hall t hm)
  case nodes => exact fun id node hn => exists_alike_interpose parent c w hn
  case materials => rfl
  case geometries => exact (Geometry.map_rename_id scene.geometries).symm
  case animations => rfl
  case clips => rfl

theorem elides_interpose (h : scene.validate = .ok tree) (hparent : parent ∈ tree.ids)
    (hc : c ∈ scene.childrenOf parent)
    (hw : (scene.groupOf c w).node.IsBare options scene.animations)
    (hbone : options.types → ∀ node, scene.nodes[c]? = some node → ¬ node.isBone) :
    (Setting.of (scene.interpose parent c w) options).elides (scene.groupOf c w) = true :=
  (scenes_interpose h hparent hc hw hbone).elides_of_isAdded (beq_self_eq_true _) hw

/-- A group that has nothing of its own and need not be kept can be put around any node of a good
scene but the root, and around no bone if types are written. The scene stays good, and its unit is
the same but for the reports. -/
theorem generate_interpose (h : scene.validate = .ok tree) (hc : c ∈ scene.reachable)
    (hroot : c ≠ scene.root) (hw : w.IsBare options scene.animations)
    (hbone : options.types → ∀ node, scene.nodes[c]? = some node → node.type ≠ "Bone") :
    (∃ parent ∈ scene.reachable, c ∈ scene.childrenOf parent) ∧
      ∀ parent ∈ scene.reachable, c ∈ scene.childrenOf parent →
        (∃ tree', (scene.interpose parent c w).validate = .ok tree') ∧
        ∀ saved, ∃ unit reports, generate scene options saved = .ok unit ∧
          generate (scene.interpose parent c w) options saved = .ok { unit with reports } := by
  have hfinds := tree_finds (validate_eq_ok.mp h).1
  constructor
  · cases (mem_reachable.mp hc).2 with
    | root => contradiction
    | child hr hchild => exact ⟨_, hfinds.wellFormedTree.mem_reachable_of_reaches hr, hchild⟩
  · intro parent hparent hchild
    rw [hfinds.reachable_eq, List.mem_toFinset] at hparent
    have hscenes := scenes_interpose h hparent hchild (hw.withChildren [c]) fun htypes node hn =>
      Node.isBone_iff.not.mpr (hbone htypes node hn)
    refine ⟨⟨_, hscenes.valid'⟩, fun saved => ?_⟩
    have hunit := hscenes.unit_of saved rfl
    exact ⟨_, _, generate_eq_ok.mpr ⟨tree, h, rfl⟩, generate_eq_ok.mpr ⟨_, hscenes.valid', hunit⟩⟩

end Scene

theorem sample_generate_interpose :
    (∃ tree, (Scene.sample.interpose 1 0 { type := "Group" }).validate = .ok tree ∧
      6 ∈ (Composition.of (.of (Scene.sample.interpose 1 0 { type := "Group" }) { types := true })
        tree).removed) ∧
    (∃ unit reports, generate Scene.sample { types := true } none = .ok unit ∧
      generate (Scene.sample.interpose 1 0 { type := "Group" }) { types := true } none =
        .ok { unit with reports }) ∧
    (∃ tree, (Scene.sample.interpose 2 4 { type := "Group" }).validate = .ok tree) ∧
    ∃ unit reports, generate Scene.sample { types := true } none = .ok unit ∧
      generate (Scene.sample.interpose 2 4 { type := "Group" }) { types := true } none =
        .ok { unit with reports } := by
  obtain ⟨tree, htree⟩ := Scene.sample_validate
  have hreachable {id : NodeId} (hr : Scene.sample.Reaches id) : id ∈ Scene.sample.reachable :=
    (Scene.tree_finds (Scene.validate_eq_ok.mp htree).1).wellFormedTree.mem_reachable_of_reaches hr
  have hroot : Scene.sample.Reaches 1 := .root
  have hmesh : 0 ∈ Scene.sample.childrenOf 1 := by simp [Scene.childrenOf, Scene.sample]
  have hbone : 2 ∈ Scene.sample.childrenOf 1 := by simp [Scene.childrenOf, Scene.sample]
  have hhand : 4 ∈ Scene.sample.childrenOf 2 := by simp [Scene.childrenOf, Scene.sample]
  have hbare : Node.IsBare { types := true } Scene.sample.animations { type := "Group" } :=
    ⟨by decide, rfl, rfl, by decide, by decide, rfl⟩
  have hmeshes : ∀ id ∈ [0, 4], ∀ node, Scene.sample.nodes[id]? = some node →
      node.type ≠ "Bone" := by
    simp [Scene.sample]
  obtain ⟨-, harm⟩ := Scene.generate_interpose htree (hreachable (hroot.child hmesh)) (by decide)
    hbare fun _ => hmeshes 0 (by decide)
  obtain ⟨-, hhip⟩ := Scene.generate_interpose htree
    (hreachable ((hroot.child hbone).child hhand)) (by decide) hbare fun _ => hmeshes 4 (by decide)
  obtain ⟨⟨tree', hvalid⟩, hunit⟩ := harm 1 (hreachable hroot) hmesh
  obtain ⟨hvalid', hunit'⟩ := hhip 2 (hreachable (hroot.child hbone)) hhand
  refine ⟨⟨tree', hvalid, ?_⟩, hunit none, hvalid', hunit' none⟩
  have hvisited : (Scene.sample.interpose 1 0 { type := "Group" }).Visited 6 := .outermost (by
    simp [Scene.interpose, Scene.sample, Scene.outermost, Scene.rootNode?, Node.nodeClass,
      NodeClass.ofType, Node.relist])
  have hparent : 1 ∈ tree.ids := by
    rw [← List.mem_toFinset, ← (Scene.tree_finds (Scene.validate_eq_ok.mp htree).1).reachable_eq]
    exact hreachable hroot
  have helides := Scene.elides_interpose htree hparent hmesh (hbare.withChildren [0])
    fun _ node hn => Node.isBone_iff.not.mpr (hmeshes 0 (by decide) node hn)
  exact (Composition.mem_removed_iff_givesWay
    (Scene.tree_finds (Scene.validate_eq_ok.mp hvalid).1)).mpr
      ⟨{ type := "Group", children := [0] }, rfl, hvisited, by decide,
        Setting.elides_iff.mp helides⟩

end SceneMarkup
