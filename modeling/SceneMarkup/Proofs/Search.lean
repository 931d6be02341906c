import SceneMarkup.Proofs.Unfolding
import SceneMarkup.Scene.Search

namespace SceneMarkup

open SceneTree

open scoped List

namespace Frame

def entered (f : Frame) : List NodeId := f.placed.id :: f.finished.flatMap ids

/-- A frame between the child that the path goes on to, if there is one, and its other children. -/
structure Fits (scene : Scene) (above : List NodeId) (f : Frame) : Prop where
  node : scene.nodes[f.placed.id]? = some f.placed.node
  children :
    f.placed.node.children = f.finished.reverse.map SceneTree.id ++ above ++ f.pending
  finished : ∀ t ∈ f.finished, t.Unfolds scene

def IsPath (scene : Scene) : List NodeId → List Frame → Prop
  | above, [] => above = [scene.root]
  | above, f :: below => f.Fits scene above ∧ IsPath scene [f.placed.id] below

variable {scene : Scene} {f : Frame} {above : List NodeId}

theorem fits_enter {p : Placed} (h : scene.nodes[p.id]? = some p.node) :
    (Frame.enter p).Fits scene [] where
  node := h
  children := rfl
  finished := by simp [Frame.enter]

theorem Fits.unfolds_close (h : f.Fits scene []) (hp : f.pending = []) :
    f.close.Unfolds scene := by
  apply Unfolds.branch h.node
  · simpa [hp] using h.children.symm
  · simpa using h.finished

theorem Fits.finish {t : SceneTree} (h : f.Fits scene [t.id]) (ht : t.Unfolds scene) :
    { f with finished := t :: f.finished }.Fits scene [] where
  node := h.node
  children := by simpa using h.children
  finished := by simpa using ⟨ht, h.finished⟩

theorem Fits.descend {child : NodeId} {pending : List NodeId} (h : f.Fits scene [])
    (hp : f.pending = child :: pending) : { f with pending }.Fits scene [child] where
  node := h.node
  children := by simpa [hp] using h.children
  finished := h.finished

theorem ids_close_perm (f : Frame) : f.close.ids ~ f.entered := by
  simpa [Frame.close, entered] using (List.reverse_perm f.finished).flatMap_right ids

theorem Fits.childrenOf_entered (h : f.Fits scene above) :
    f.placed.id :: f.entered.flatMap scene.childrenOf ~ f.entered ++ above ++ f.pending := by
  have hf := Unfolds.flatMap_ids_perm fun t ht => (h.finished t ht).ids_perm
  have hr := List.reverse_perm (f.finished.map SceneTree.id)
  rw [List.perm_iff_count] at hf hr ⊢
  intro id
  have := hf id
  have := hr id
  simp only [entered, List.flatMap_cons, Scene.childrenOf_eq h.node, h.children, List.map_reverse,
    List.count_append, List.count_cons] at *
  omega

theorem Fits.reaches (h : f.Fits scene above) (hr : scene.Reaches f.placed.id) :
    ∀ id ∈ f.placed.node.children ++ f.entered, scene.Reaches id := by
  have hc : ∀ id ∈ f.placed.node.children, scene.Reaches id := fun id hid =>
    hr.child (Scene.childrenOf_eq h.node ▸ hid)
  intro id hid
  simp only [entered, List.mem_append, List.mem_cons, List.mem_flatMap] at hid
  rcases hid with hid | rfl | ⟨t, ht, hid⟩
  · exact hc id hid
  · exact hr
  · have htop : scene.Reaches t.id := hc t.id (by
      rw [h.children]
      simpa using Or.inl ⟨t, ht, rfl⟩)
    exact (h.finished t ht).reaches_of_mem htop hid

theorem IsPath.reaches {frames : List Frame} (h : IsPath scene above frames) :
    ∀ id ∈ above ++ frames.flatMap entered, scene.Reaches id := by
  induction frames generalizing above with
  | nil =>
    obtain rfl : above = [scene.root] := h
    simpa using Scene.Reaches.root
  | cons f below ih =>
    obtain ⟨hf, hb⟩ := h
    have hr := hf.reaches (ih hb f.placed.id (by simp))
    intro id hid
    simp only [List.flatMap_cons, List.mem_append] at hid
    rcases hid with hid | hid | hid
    · exact hr id (by simp [hf.children, hid])
    · exact hr id (by simp [hid])
    · exact ih hb id (by simp [hid])

theorem IsPath.childrenOf_entered {frames : List Frame} (h : IsPath scene above frames) :
    scene.root :: (frames.flatMap entered).flatMap scene.childrenOf ~
      above ++ frames.flatMap entered ++ frames.flatMap (·.pending) := by
  induction frames generalizing above with
  | nil => simp [show above = [scene.root] from h]
  | cons f below ih =>
    obtain ⟨hf, hb⟩ := h
    have hb := ih hb
    have hf := hf.childrenOf_entered
    rw [List.perm_iff_count] at hb hf ⊢
    intro id
    have := hb id
    have := hf id
    simp only [List.flatMap_cons, List.flatMap_append, List.count_append, List.count_cons,
      List.count_nil] at *
    omega

end Frame

/-- Every child of a node that can be reached exists, and distinct such nodes list distinct children,
none of them the root. -/
structure Scene.Treelike (scene : Scene) : Prop where
  child_lt : ∀ id, scene.Reaches id → ∀ child ∈ scene.childrenOf id, child < scene.nodes.size
  nodup : ∀ ids : List NodeId, ids.Nodup → (∀ id ∈ ids, scene.Reaches id) →
    (scene.root :: ids.flatMap scene.childrenOf).Nodup

namespace Search

variable {scene : Scene} {s s' : Search}

def entered (s : Search) : List NodeId := (s.top :: s.below).flatMap Frame.entered

structure Sound (scene : Scene) (s : Search) : Prop where
  path : Frame.IsPath scene [] (s.top :: s.below)
  nodes : s.entered ++ s.unseen ~ List.range scene.nodes.size

theorem step_cases (h : s.step scene = .next s') :
    (∃ parent below, s.top.pending = [] ∧ s.below = parent :: below ∧
      s' = { s with top := { parent with finished := s.top.close :: parent.finished }, below }) ∨
    (∃ child pending, s.top.pending = child.id :: pending ∧
      scene.nodes[child.id]? = some child.node ∧ child.id ∈ s.unseen ∧
      s' = s.enter pending child) := by
  unfold step at h
  split at h
  · next hp =>
    unfold leave at h
    split at h
    · contradiction
    · next parent below hb =>
      cases h
      exact .inl ⟨parent, below, hp, hb, rfl⟩
  · next child pending hp =>
    split at h
    · contradiction
    · next node hn =>
      split at h
      · contradiction
      · split at h
        · next hu =>
          cases h
          exact .inr ⟨⟨child, node⟩, pending, hp, hn, hu, rfl⟩
        · contradiction

theorem step_found {t : SceneTree} (h : s.step scene = .found t) :
    s.top.pending = [] ∧ s.below = [] ∧ t = s.top.close := by
  unfold step at h
  split at h
  · next hp =>
    unfold leave at h
    split at h
    · next hb =>
      cases h
      exact ⟨hp, hb, rfl⟩
    · contradiction
  · split at h
    · contradiction
    · split at h
      · contradiction
      · split at h <;> contradiction

theorem sound_start {node : Node} (h : scene.nodes[scene.root]? = some node) :
    (start scene ⟨scene.root, node⟩).Sound scene where
  path := ⟨Frame.fits_enter h, rfl⟩
  nodes := by
    have hroot : scene.root ∈ List.range scene.nodes.size :=
      List.mem_range.mpr (Array.getElem?_eq_some_iff.mp h).1
    simpa [entered, start, Frame.enter, Frame.entered] using (List.perm_cons_erase hroot).symm

theorem Sound.leave {parent : Frame} {below : List Frame} (h : s.Sound scene)
    (hp : s.top.pending = []) (hb : s.below = parent :: below) :
    Sound scene
      { s with top := { parent with finished := s.top.close :: parent.finished }, below } where
  path := by
    have hpath := h.path
    rw [hb] at hpath
    obtain ⟨htop, hparent, hbelow⟩ := hpath
    exact ⟨Frame.Fits.finish hparent (htop.unfolds_close hp), hbelow⟩
  nodes := by
    have hnodes := h.nodes
    have hclose := s.top.ids_close_perm
    rw [List.perm_iff_count] at hnodes hclose ⊢
    intro id
    have := hnodes id
    have := hclose id
    simp only [entered, hb, Frame.entered, List.flatMap_cons, List.count_append,
      List.count_cons] at *
    omega

theorem Sound.enter {child : Placed} {pending : List NodeId} (h : s.Sound scene)
    (hp : s.top.pending = child.id :: pending) (hn : scene.nodes[child.id]? = some child.node)
    (hu : child.id ∈ s.unseen) : (s.enter pending child).Sound scene where
  path := ⟨Frame.fits_enter hn, h.path.1.descend hp, h.path.2⟩
  nodes := by
    have hnodes := h.nodes
    have herase := List.perm_cons_erase hu
    rw [List.perm_iff_count] at hnodes herase ⊢
    intro id
    have := hnodes id
    have := herase id
    simp only [entered, Search.enter, Frame.enter, Frame.entered, List.flatMap_cons,
      List.flatMap_nil, List.count_append, List.count_cons, List.count_nil] at *
    omega

theorem Sound.step (h : s.Sound scene) (hs : s.step scene = .next s') : s'.Sound scene := by
  rcases step_cases hs with ⟨parent, below, hp, hb, rfl⟩ | ⟨child, pending, hp, hn, hu, rfl⟩
  · exact h.leave hp hb
  · exact h.enter hp hn hu

theorem Sound.nodup_nodes (h : s.Sound scene) : (s.entered ++ s.unseen).Nodup :=
  h.nodes.nodup_iff.mpr List.nodup_range

theorem Sound.nodup (h : s.Sound scene) : s.entered.Nodup :=
  (List.nodup_append.mp h.nodup_nodes).1

theorem Sound.not_mem_unseen {id : NodeId} (h : s.Sound scene) (hid : id ∈ s.entered) :
    id ∉ s.unseen := fun hu => (List.nodup_append.mp h.nodup_nodes).2.2 id hid id hu rfl

/-- The tree of a scene: its unfolding from the root, with every node once. -/
structure Finds (scene : Scene) (t : SceneTree) : Prop where
  unfolds : t.Unfolds scene
  root : t.id = scene.root
  nodup : t.ids.Nodup

theorem Sound.found {t : SceneTree} (h : s.Sound scene) (hs : s.step scene = .found t) :
    Finds scene t := by
  obtain ⟨hp, hb, rfl⟩ := step_found hs
  have hpath := h.path
  have hnodup := h.nodup
  rw [hb] at hpath
  simp only [entered, hb, List.flatMap_cons, List.flatMap_nil, List.append_nil] at hnodup
  refine ⟨hpath.1.unfolds_close hp, ?_, s.top.ids_close_perm.nodup_iff.mpr hnodup⟩
  simpa [Frame.close, Frame.IsPath] using hpath.2

theorem Sound.finds {t : SceneTree} (h : s.Sound scene) (hr : s.run scene = .ok t) :
    Finds scene t := by
  fun_induction Search.run scene s with
  | case1 s s' hs ih => exact ih (h.step hs) hr
  | case2 s t' hs =>
    cases hr
    exact h.found hs
  | case3 => contradiction

theorem path_subset_entered (s : Search) : s.path ⊆ s.entered := by
  intro id hid
  obtain ⟨f, hf, rfl⟩ := List.mem_map.mp hid
  exact List.mem_flatMap.mpr ⟨f, hf, List.mem_cons_self⟩

theorem Sound.pending_lt {child : NodeId} (h : s.Sound scene) (ht : scene.Treelike)
    (hc : child ∈ s.top.pending) : child < scene.nodes.size := by
  apply ht.child_lt s.top.placed.id (h.path.reaches _ (by simp [Frame.entered]))
  rw [Scene.childrenOf_eq h.path.1.node, h.path.1.children]
  simp [hc]

theorem Sound.pending_not_entered {child : NodeId} (h : s.Sound scene) (ht : scene.Treelike)
    (hc : child ∈ s.top.pending) : child ∉ s.entered := by
  intro he
  have hreach := h.path.reaches
  have hperm := h.path.childrenOf_entered
  rw [List.nil_append] at hreach hperm
  have hlisted := hperm.nodup_iff.mp (ht.nodup s.entered h.nodup hreach)
  exact (List.nodup_append.mp hlisted).2.2 child he child (by simp [hc]) rfl

theorem Sound.pending_unseen {child : NodeId} (h : s.Sound scene) (ht : scene.Treelike)
    (hc : child ∈ s.top.pending) : child ∈ s.unseen := by
  have hmem := h.nodes.mem_iff.mpr (List.mem_range.mpr (h.pending_lt ht hc))
  exact (List.mem_append.mp hmem).resolve_left (h.pending_not_entered ht hc)

theorem Sound.step_ne_refused {e : SceneError} (h : s.Sound scene) (ht : scene.Treelike) :
    s.step scene ≠ .refused e := by
  intro hs
  unfold Search.step at hs
  split at hs
  · unfold Search.leave at hs
    split at hs <;> contradiction
  · next child pending hp =>
    have hc : child ∈ s.top.pending := hp ▸ List.mem_cons_self
    have hlt := h.pending_lt ht hc
    have hpath := mt (@s.path_subset_entered child) (h.pending_not_entered ht hc)
    have hu := h.pending_unseen ht hc
    simp [Array.getElem?_eq_getElem hlt, hpath, hu] at hs

theorem Sound.exists_run (h : s.Sound scene) (ht : scene.Treelike) :
    ∃ t, s.run scene = .ok t := by
  fun_induction Search.run scene s with
  | case1 s s' hs ih => exact ih (h.step hs)
  | case2 s t hs => exact ⟨t, rfl⟩
  | case3 s e hs => exact absurd hs (h.step_ne_refused ht)

end Search

end SceneMarkup
