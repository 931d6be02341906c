import Mathlib.Logic.Relation
import SceneMarkup.Proofs.Construction

/-!
What a refused scene has wrong with it. The search keeps, beside its path, who listed each node that
it has entered; so the loop that it names is one, and a child that it calls shared is listed twice.
The other defects are read off the tables, and the first in order is the one that is named.
-/

namespace SceneMarkup

open scoped List

namespace Scene

def Lists (scene : Scene) (parent child : NodeId) : Prop := child ∈ scene.childrenOf parent

end Scene

namespace SceneError

/-- What an error says of a scene, with all that it names. -/
def Truthful (scene : Scene) : SceneError → Prop
  | missingRoot root => root = scene.root ∧ scene.nodes.size ≤ root
  | danglingChild parent child =>
    scene.Reaches parent ∧ scene.Lists parent child ∧ scene.nodes.size ≤ child
  | sharedChild child first second =>
    scene.Reaches first ∧ scene.Reaches second ∧ scene.Lists first child ∧
      scene.Lists second child ∧ (first = second → 2 ≤ (scene.childrenOf first).count child)
  | cycle node => scene.Reaches node ∧ Relation.TransGen scene.Lists node node
  | missingGeometry id name => ∃ node, scene.nodes[id]? = some node ∧ node.name = name ∧
      node.type ∈ ["Mesh", "SkinnedMesh", "InstancedMesh"] ∧ node.geometry = none
  | unnamedNode id type => ∃ node, scene.nodes[id]? = some node ∧ node.type = type ∧
      node.name = "" ∧ (node.geometry ≠ none ∨ node.type = "Bone")
  | danglingMaterial id m => ∃ node, scene.nodes[id]? = some node ∧
      node.material = some m ∧ scene.materials.size ≤ m
  | danglingGeometry id g => ∃ node, scene.nodes[id]? = some node ∧
      node.geometry = some g ∧ scene.geometries.size ≤ g
  | danglingBone id bone => ∃ node bones, scene.nodes[id]? = some node ∧
      node.skeleton = some bones ∧ bone ∈ bones ∧ scene.nodes.size ≤ bone
  | inconsistentGeometry key first second => first ≠ second ∧
      ∃ (i j : GeometryId) (g g' : Geometry), i < j ∧ scene.geometries[i]? = some g ∧
        scene.geometries[j]? = some g' ∧ g.key = key ∧ g'.key = key ∧
        g.vertexCount = some first ∧ g'.vertexCount = some second
  | danglingOwner key owner => (∃ g ∈ scene.geometries, g.key = key ∧ g.owner = some owner) ∧
      ∀ node own, scene.nodes[owner]? = some node → scene.geometryOf? node = some own →
        own.key ≠ key

def faulty? : SceneError → Option NodeId
  | missingGeometry id _ | unnamedNode id _ | danglingMaterial id _ | danglingGeometry id _
  | danglingBone id _ => some id
  | _ => none

theorem IsOfTree.faulty?_eq_none {e : SceneError} (h : e.IsOfTree) : e.faulty? = none := by
  cases e with
  | missingRoot | danglingChild | sharedChild | cycle => rfl
  | _ => exact h.elim

end SceneError

namespace Frame

variable {scene : Scene} {f : Frame} {above : List NodeId}

theorem Fits.lists_above (h : f.Fits scene above) {id : NodeId} (hid : id ∈ above) :
    scene.Lists f.placed.id id := by
  rw [Scene.Lists, Scene.childrenOf_eq h.node, h.children]
  simp [hid]

theorem IsPath.transGen {frames : List Frame} (h : IsPath scene above frames)
    (hf : f ∈ frames) {id : NodeId} (hid : id ∈ above) :
    Relation.TransGen scene.Lists f.placed.id id := by
  induction frames generalizing above id with
  | nil => contradiction
  | cons g below ih =>
    obtain ⟨hg, hb⟩ := h
    rcases List.mem_cons.mp hf with rfl | hf
    · exact .single (hg.lists_above hid)
    · exact (ih hb hf List.mem_cons_self).tail (hg.lists_above hid)

theorem IsPath.root_mem {frames : List Frame} (h : IsPath scene above frames) :
    scene.root ∈ above ++ frames.map (·.placed.id) := by
  induction frames generalizing above with
  | nil => simp [show above = [scene.root] from h]
  | cons f below ih => simpa using Or.inr (ih h.2)

/-- The children that were entered from the nodes of a path are those left behind, and the one that
the path goes on to. -/
def Entered (parents : List (NodeId × NodeId)) : List NodeId → List Frame → Prop
  | _, [] => True
  | above, f :: below =>
    (∀ e ∈ parents, e.2 = f.placed.id → e.1 ∈ f.finished.map SceneTree.id ++ above) ∧
      Entered parents [f.placed.id] below

theorem Entered.cons {parents : List (NodeId × NodeId)} {frames : List Frame} {e : NodeId × NodeId}
    (h : Entered parents above frames) (he : e.2 ∉ frames.map (·.placed.id)) :
    Entered (e :: parents) above frames := by
  induction frames generalizing above with
  | nil => trivial
  | cons f below ih =>
    rw [List.map_cons, List.mem_cons, not_or] at he
    exact ⟨List.forall_mem_cons.mpr ⟨fun hf => absurd hf he.1, h.1⟩, ih h.2 he.2⟩

end Frame

namespace Search

variable {scene : Scene} {s s' : Search} {e : SceneError}

theorem step_refused (h : s.step scene = .refused e) :
    ∃ child pending, s.top.pending = child :: pending ∧
      (scene.nodes[child]? = none ∧ e = .danglingChild s.top.placed.id child ∨
      child ∈ s.path ∧ e = .cycle child ∨
      child < scene.nodes.size ∧ child ∉ s.path ∧ child ∉ s.unseen ∧
        e = .sharedChild child (s.firstParent scene child) s.top.placed.id) := by
  unfold step at h
  split at h
  · unfold leave at h
    split at h <;> contradiction
  · next child pending hp =>
    refine ⟨child, pending, hp, ?_⟩
    split at h
    · next hn =>
      cases h
      exact .inl ⟨hn, rfl⟩
    · next node hn =>
      have hlt := (Array.getElem?_eq_some_iff.mp hn).1
      split at h
      · next hpath =>
        cases h
        exact .inr (.inl ⟨hpath, rfl⟩)
      · next hpath =>
        split at h
        · contradiction
        · next hu =>
          cases h
          exact .inr (.inr ⟨hlt, hpath, hu, rfl⟩)

structure Recorded (scene : Scene) (s : Search) : Prop where
  covers : ∀ id ∈ s.entered, id = scene.root ∨ id ∈ s.parents.map Prod.fst
  lists : ∀ e ∈ s.parents, e.2 ∈ s.entered ∧ scene.Lists e.2 e.1
  entered : Frame.Entered s.parents [] (s.top :: s.below)

theorem recorded_start (node : Node) : (start scene ⟨scene.root, node⟩).Recorded scene where
  covers := by simp [Search.entered, start, Frame.enter, Frame.entered]
  lists := by simp [start]
  entered := by simp [start, Frame.Entered]

theorem entered_leave_perm {parent : Frame} {below : List Frame} (hb : s.below = parent :: below) :
    Search.entered
      { s with top := { parent with finished := s.top.close :: parent.finished }, below } ~
        s.entered := by
  have hclose := s.top.ids_close_perm
  rw [List.perm_iff_count] at hclose ⊢
  intro id
  have := hclose id
  simp only [Search.entered, hb, Frame.entered, List.flatMap_cons, List.count_append,
    List.count_cons] at *
  omega

theorem Recorded.leave {parent : Frame} {below : List Frame} (h : s.Recorded scene)
    (hb : s.below = parent :: below) : Recorded scene
      { s with top := { parent with finished := s.top.close :: parent.finished }, below } where
  covers id hid := h.covers id ((entered_leave_perm hb).mem_iff.mp hid)
  lists e he := ⟨(entered_leave_perm hb).mem_iff.mpr (h.lists e he).1, (h.lists e he).2⟩
  entered := by
    have hentered := h.entered
    rw [hb] at hentered
    obtain ⟨-, hparent, hbelow⟩ := hentered
    refine ⟨fun e he hid => ?_, hbelow⟩
    simpa [Frame.close, or_comm] using hparent e he hid

theorem entered_enter (pending : List NodeId) (child : Placed) :
    (s.enter pending child).entered = child.id :: s.entered := by
  simp [Search.entered, Search.enter, Frame.enter, Frame.entered]

theorem path_sublist_entered (s : Search) : s.path <+ s.entered := by
  have hall (frames : List Frame) :
      frames.map (·.placed.id) <+ frames.flatMap Frame.entered := by
    induction frames with
    | nil => exact .slnil
    | cons f below ih => exact (ih.trans (List.sublist_append_right _ _)).cons_cons _
  exact hall _

theorem Sound.nodup_path (h : s.Sound scene) : s.path.Nodup :=
  s.path_sublist_entered.nodup h.nodup

theorem Recorded.enter {child : Placed} {pending : List NodeId} (h : s.Recorded scene)
    (hs : s.Sound scene) (hp : s.top.pending = child.id :: pending) (hu : child.id ∈ s.unseen) :
    (s.enter pending child).Recorded scene where
  covers := by
    simp only [entered_enter, List.forall_mem_cons]
    refine ⟨.inr List.mem_cons_self, fun id hid => ?_⟩
    exact (h.covers id hid).imp_right (List.mem_cons_of_mem _)
  lists := by
    have htop : s.top.placed.id ∈ s.entered := by simp [Search.entered, Frame.entered]
    have hlists : scene.Lists s.top.placed.id child.id :=
      (hs.path.1.descend hp).lists_above List.mem_cons_self
    simp only [entered_enter]
    refine List.forall_mem_cons.mpr ⟨⟨List.mem_cons_of_mem _ htop, hlists⟩, fun e he => ?_⟩
    exact ⟨List.mem_cons_of_mem _ (h.lists e he).1, (h.lists e he).2⟩
  entered := by
    have hnew : child.id ∉ s.entered := fun he => hs.not_mem_unseen he hu
    have hpath : s.path.Nodup := hs.nodup_path
    have hne : s.top.placed.id ≠ child.id := fun heq =>
      hnew (heq ▸ s.path_sublist_entered.subset List.mem_cons_self)
    refine ⟨?_, ?_, h.entered.2.cons (List.nodup_cons.mp hpath).1⟩
    · refine List.forall_mem_cons.mpr ⟨fun heq => absurd heq hne, fun e he heq => ?_⟩
      exact absurd (heq ▸ (h.lists e he).1) hnew
    · refine List.forall_mem_cons.mpr ⟨fun _ => List.mem_append_right _ List.mem_cons_self, ?_⟩
      intro e he heq
      have hmem := h.entered.1 e he heq
      rw [List.append_nil] at hmem
      exact List.mem_append_left _ hmem

theorem Recorded.step (h : s.Recorded scene) (hs : s.Sound scene) (hstep : s.step scene = .next s') :
    s'.Recorded scene := by
  rcases step_cases hstep with ⟨parent, below, -, hb, rfl⟩ | ⟨child, pending, hp, -, hu, rfl⟩
  · exact h.leave hb
  · exact h.enter hs hp hu

/-- A child that was seen before and is not on the path was left behind by the node that it was
entered from, which may be the node at hand. -/
theorem Recorded.shared {child : NodeId} {pending : List NodeId} (h : s.Recorded scene)
    (hs : s.Sound scene) (hp : s.top.pending = child :: pending) (hlt : child < scene.nodes.size)
    (hpath : child ∉ s.path) (hu : child ∉ s.unseen) :
    (SceneError.sharedChild child (s.firstParent scene child) s.top.placed.id).Truthful scene := by
  have hentered : child ∈ s.entered :=
    (List.mem_append.mp (hs.nodes.mem_iff.mpr (List.mem_range.mpr hlt))).resolve_right hu
  have hroot : child ≠ scene.root := by
    rintro rfl
    exact hpath hs.path.root_mem
  obtain ⟨first, hfirst⟩ := Option.ne_none_iff_exists'.mp fun hnone =>
    lookup_eq_none_iff_not_mem.mp hnone ((h.covers child hentered).resolve_left hroot)
  have hmem := mem_of_lookup_eq_some hfirst
  have hreach : ∀ id ∈ s.entered, scene.Reaches id := hs.path.reaches
  obtain ⟨hin, hlists⟩ := h.lists _ hmem
  rw [firstParent, hfirst, Option.getD_some]
  refine ⟨hreach first hin, hreach _ (s.path_subset_entered List.mem_cons_self), hlists,
    (hs.path.1.descend hp).lists_above List.mem_cons_self, ?_⟩
  rintro rfl
  have hleft : child ∈ s.top.finished.map SceneTree.id ++ [] := h.entered.1 _ hmem rfl
  rw [List.append_nil] at hleft
  have hpos := List.count_pos_iff.mpr hleft
  rw [Scene.childrenOf_eq hs.path.1.node, hs.path.1.children, hp, List.map_reverse]
  simp only [List.count_append, List.count_reverse, List.count_cons_self]
  omega

theorem Recorded.refused (h : s.Recorded scene) (hs : s.Sound scene)
    (hstep : s.step scene = .refused e) : e.Truthful scene ∧ e.IsOfTree := by
  obtain ⟨child, pending, hp, hcases⟩ := step_refused hstep
  have htop : scene.Reaches s.top.placed.id :=
    hs.path.reaches _ (s.path_subset_entered List.mem_cons_self)
  have hlists : scene.Lists s.top.placed.id child :=
    (hs.path.1.descend hp).lists_above List.mem_cons_self
  rcases hcases with ⟨hn, rfl⟩ | ⟨hpath, rfl⟩ | ⟨hlt, hpath, hu, rfl⟩
  · exact ⟨⟨htop, hlists, Array.getElem?_eq_none_iff.mp hn⟩, trivial⟩
  · have hforward : Frame.IsPath scene [child] ({ s.top with pending } :: s.below) :=
      ⟨hs.path.1.descend hp, hs.path.2⟩
    obtain ⟨f, hf, hid⟩ : ∃ f ∈ { s.top with pending } :: s.below, f.placed.id = child := by
      simpa [Search.path, eq_comm] using hpath
    refine ⟨⟨htop.child hlists, ?_⟩, trivial⟩
    have hloop := hforward.transGen hf List.mem_cons_self
    rwa [hid] at hloop
  · exact ⟨h.shared hs hp hlt hpath hu, trivial⟩

theorem Recorded.run_error (h : s.Recorded scene) (hs : s.Sound scene)
    (hr : s.run scene = .error e) : e.Truthful scene ∧ e.IsOfTree := by
  fun_induction Search.run scene s with
  | case1 s s' hstep ih => exact ih (h.step hs hstep) (hs.step hstep) hr
  | case2 s t hstep => contradiction
  | case3 s e' hstep =>
    cases hr
    exact h.refused hs hstep

end Search

namespace Scene

variable {scene : Scene} {p : Placed} {e : SceneError}

theorem tree_error (h : scene.tree = .error e) : e.Truthful scene ∧ e.IsOfTree := by
  unfold tree at h
  split at h
  · next hn =>
    cases h
    exact ⟨⟨rfl, Array.getElem?_eq_none_iff.mp hn⟩, trivial⟩
  · next node hn => exact (Search.recorded_start node).run_error (Search.sound_start hn) h

theorem geometryDefect?_truthful (hp : scene.nodes[p.id]? = some p.node)
    (h : scene.geometryDefect? p = some e) : e.Truthful scene ∧ e.faulty? = some p.id := by
  unfold geometryDefect? at h
  split at h
  · next g hg =>
    split at h
    · contradiction
    · next hlt =>
      cases h
      exact ⟨⟨p.node, hp, hg, not_lt.mp hlt⟩, rfl⟩
  · next hg =>
    split at h
    · next hmesh =>
      cases h
      exact ⟨⟨p.node, hp, rfl, Node.isMesh_iff.mp hmesh, hg⟩, rfl⟩
    · contradiction

theorem nameDefect?_truthful (hp : scene.nodes[p.id]? = some p.node)
    (h : nameDefect? p = some e) : e.Truthful scene ∧ e.faulty? = some p.id := by
  simp only [nameDefect?] at h
  split at h
  · next hn =>
    cases h
    rw [Bool.and_eq_true, String.isEmpty_iff, Bool.or_eq_true, Node.isBone_iff,
      Option.isSome_iff_ne_none] at hn
    exact ⟨⟨p.node, hp, rfl, hn.1, hn.2⟩, rfl⟩
  · contradiction

theorem materialDefect?_truthful (hp : scene.nodes[p.id]? = some p.node)
    (h : scene.materialDefect? p = some e) : e.Truthful scene ∧ e.faulty? = some p.id := by
  unfold materialDefect? at h
  split at h
  · next m hm =>
    split at h
    · contradiction
    · next hlt =>
      cases h
      exact ⟨⟨p.node, hp, hm, not_lt.mp hlt⟩, rfl⟩
  · contradiction

theorem boneDefect?_truthful (hp : scene.nodes[p.id]? = some p.node)
    (h : scene.boneDefect? p = some e) : e.Truthful scene ∧ e.faulty? = some p.id := by
  obtain ⟨bone, hbone, rfl⟩ := Option.map_eq_some_iff.mp h
  have hmem := List.mem_of_find?_eq_some hbone
  have hle := List.find?_some hbone
  cases hs : p.node.skeleton with
  | none => simp [hs] at hmem
  | some bones =>
    rw [hs, Option.getD_some] at hmem
    exact ⟨⟨p.node, bones, hp, hs, hmem, of_decide_eq_true hle⟩, rfl⟩

theorem nodeDefect?_truthful (hp : scene.nodes[p.id]? = some p.node)
    (h : scene.nodeDefect? p = some e) : e.Truthful scene ∧ e.faulty? = some p.id := by
  simp only [nodeDefect?, Option.orElse_eq_some] at h
  rcases h with h | ⟨-, h | ⟨-, h | ⟨-, h⟩⟩⟩
  · exact geometryDefect?_truthful hp h
  · exact nameDefect?_truthful hp h
  · exact materialDefect?_truthful hp h
  · exact boneDefect?_truthful hp h

theorem countDefect?_truthful {earlier rest : List Geometry} {g : Geometry}
    (hg : scene.geometries.toList = earlier ++ rest)
    (hget : scene.geometries[earlier.length]? = some g) (h : countDefect? earlier g = some e) :
    e.Truthful scene ∧ e.faulty? = none := by
  unfold countDefect? at h
  split at h
  · next first second hfirst hsecond =>
    split at h
    · contradiction
    · next hne =>
      cases h
      obtain ⟨g', hg', hkey, hcount⟩ := declaredCount?_eq_some hfirst
      obtain ⟨i, hi, rfl⟩ := List.mem_iff_getElem.mp hg'
      have hget' : scene.geometries[i]? = some earlier[i] := by
        rw [← Array.getElem?_toList, hg, List.getElem?_append_left hi, List.getElem?_eq_getElem hi]
      exact ⟨⟨hne, i, earlier.length, earlier[i], g, hi, hget', hget, hkey, rfl, hcount, hsecond⟩,
        rfl⟩
  · contradiction

theorem ownerDefect?_truthful {g : Geometry} (hg : g ∈ scene.geometries)
    (h : scene.ownerDefect? g = some e) : e.Truthful scene ∧ e.faulty? = none := by
  unfold ownerDefect? at h
  split at h
  · next owner ho =>
    split at h
    · contradiction
    · next huses =>
      cases h
      refine ⟨⟨⟨g, hg, rfl, ho⟩, fun node own hn hown hkey => huses ?_⟩, rfl⟩
      simp [usesKey, hn, hown, hkey]
  · contradiction

theorem geometriesDefect?_truthful {earlier rest : List Geometry}
    (hg : scene.geometries.toList = earlier ++ rest)
    (h : scene.geometriesDefect? earlier rest = some e) : e.Truthful scene ∧ e.faulty? = none := by
  induction rest generalizing earlier with
  | nil => contradiction
  | cons g rest ih =>
    have hget : scene.geometries[earlier.length]? = some g := by
      rw [← Array.getElem?_toList, hg]
      simp
    simp only [geometriesDefect?, Option.orElse_eq_some] at h
    rcases h with h | ⟨-, h | ⟨-, h⟩⟩
    · exact countDefect?_truthful hg hget h
    · exact ownerDefect?_truthful (Array.mem_of_getElem? hget) h
    · exact ih (by simpa using hg) h

theorem getElem?_placedNodes (scene : Scene) (id : NodeId) :
    scene.placedNodes[id]? = scene.nodes[id]?.map (⟨id, ·⟩) := by
  simp [placedNodes, List.getElem?_zipIdx, Function.comp_def]

theorem wellFormedNode_of_lt_faulty {id earlier : NodeId}
    (h : scene.placedNodes.findSome? scene.nodeDefect? = some e) (hid : e.faulty? = some id)
    (hlt : earlier < id) : ∀ node ∈ scene.nodes[earlier]?, scene.WellFormedNode node := by
  intro node hn
  obtain ⟨before, p, after, hsplit, hp, hbefore⟩ := List.findSome?_eq_some_iff.mp h
  have hget : scene.placedNodes[before.length]? = some p := by simp [hsplit]
  have hlength : p.id = before.length := by
    rw [getElem?_placedNodes, Option.map_eq_some_iff] at hget
    obtain ⟨node, -, rfl⟩ := hget
    rfl
  have hfaulty := (nodeDefect?_truthful (mem_placedNodes.mp (List.mem_of_getElem? hget)) hp).2
  obtain rfl : p.id = id := Option.some.inj (hfaulty.symm.trans hid)
  have hearlier : scene.placedNodes[earlier]? = some ⟨earlier, node⟩ := by
    rw [getElem?_placedNodes, Option.mem_def.mp hn, Option.map_some]
  rw [hsplit, List.getElem?_append_left (hlength ▸ hlt)] at hearlier
  exact nodeDefect?_eq_none.mp (hbefore _ (List.mem_of_getElem? hearlier))

theorem tableDefect?_truthful (h : scene.tableDefect? = some e) : e.Truthful scene ∧
    (∀ id ∈ e.faulty?, ∀ earlier < id, ∀ node ∈ scene.nodes[earlier]?,
      scene.WellFormedNode node) ∧
    (e.faulty? = none → ∀ node ∈ scene.nodes, scene.WellFormedNode node) := by
  rw [tableDefect?, Option.orElse_eq_some] at h
  rcases h with h | ⟨hnodes, h⟩
  · obtain ⟨p, hp, hdefect⟩ := List.exists_of_findSome?_eq_some h
    obtain ⟨htrue, hfaulty⟩ := nodeDefect?_truthful (mem_placedNodes.mp hp) hdefect
    refine ⟨htrue, fun id hid earlier => wellFormedNode_of_lt_faulty h hid, fun hnone => ?_⟩
    rw [hfaulty] at hnone
    contradiction
  · obtain ⟨htrue, hfaulty⟩ := geometriesDefect?_truthful (List.nil_append _).symm h
    refine ⟨htrue, by simp [hfaulty], fun _ => ?_⟩
    exact forall_nodeDefect?_eq_none.mp (List.findSome?_eq_none_iff.mp hnodes)

theorem validate_eq_error : scene.validate = .error e ↔
    scene.tree = .error e ∨ (∃ t, scene.tree = .ok t) ∧ scene.tableDefect? = some e := by
  unfold validate
  cases scene.tree with
  | error e' => simp
  | ok tree => cases scene.tableDefect? <;> simp

/-- The error of a refused scene is true of it. It is about the tree if and only if that is not well
formed; else it is about the first node of the table with a defect, and about the geometries only
where no node has one. -/
theorem validate_error_truthful (h : scene.validate = .error e) : e.Truthful scene ∧
    (e.IsOfTree ↔ ¬ scene.WellFormedTree) ∧
    (∀ id ∈ e.faulty?, ∀ earlier < id, ∀ node ∈ scene.nodes[earlier]?,
      scene.WellFormedNode node) ∧
    (¬ e.IsOfTree → e.faulty? = none → ∀ node ∈ scene.nodes, scene.WellFormedNode node) := by
  rcases validate_eq_error.mp h with h | ⟨htree, h⟩
  · obtain ⟨htrue, htree⟩ := tree_error h
    have hmalformed : ¬ scene.WellFormedTree := by
      rw [← exists_tree_iff, h]
      simp
    exact ⟨htrue, iff_of_true htree hmalformed, by simp [htree.faulty?_eq_none],
      fun hn => absurd htree hn⟩
  · obtain ⟨htrue, hearlier, hnodes⟩ := tableDefect?_truthful h
    have hn := not_isOfTree_tableDefect? e h
    exact ⟨htrue, iff_of_false hn (not_not.mpr (exists_tree_iff.mp htree)), hearlier,
      fun _ => hnodes⟩

instance decidableValidateError (scene : Scene) (e : SceneError) :
    Decidable (scene.validate = .error e) :=
  match scene.validate with
  | .ok _ => isFalse (by simp)
  | .error e' => decidable_of_iff (e' = e) (by simp)

def twins : Scene where
  nodes := #[
    { type := "Scene", children := [1, 3] },
    { type := "Group", children := [2, 2] },
    { type := "Group" },
    { type := "Mesh", name := "Body" }]

theorem validate_twins_truthful : twins.validate = .error (.sharedChild 2 1 1) ∧
    2 ≤ (twins.childrenOf 1).count 2 ∧ ¬ twins.WellFormedTree := by
  have h : twins.validate = .error (.sharedChild 2 1 1) := by decide +kernel
  obtain ⟨⟨-, -, -, -, hcount⟩, htree, -⟩ := validate_error_truthful h
  exact ⟨h, hcount rfl, htree.mp trivial⟩

end Scene

end SceneMarkup
