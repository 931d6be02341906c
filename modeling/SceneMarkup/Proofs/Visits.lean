import SceneMarkup.Proofs.Walk

namespace SceneMarkup

open SceneTree

namespace SceneTree

mutual

def visits (parent : Option Placed) (skinned : Bool) : SceneTree → List Visit
  | branch p ts =>
    ⟨p, parent, p.node.isBone || skinned⟩ :: visitsAll (some p) (p.node.isBone || skinned) ts

def visitsAll (parent : Option Placed) (skinned : Bool) : List SceneTree → List Visit
  | [] => []
  | t :: rest => visits parent skinned t ++ visitsAll parent skinned rest

end

mutual

def exposed : SceneTree → List Placed
  | branch p ts => if p.node.isBone then [] else p :: exposedAll ts

def exposedAll : List SceneTree → List Placed
  | [] => []
  | t :: rest => exposed t ++ exposedAll rest

end

theorem visitsAll_eq (parent : Option Placed) (skinned : Bool) (ts : List SceneTree) :
    visitsAll parent skinned ts = ts.flatMap (visits parent skinned) := by
  induction ts with
  | nil => rfl
  | cons t rest ih => simp [visitsAll, ih]

@[simp] theorem visits_branch (parent : Option Placed) (skinned : Bool) (p : Placed)
    (ts : List SceneTree) :
    (branch p ts).visits parent skinned = ⟨p, parent, p.node.isBone || skinned⟩ ::
      ts.flatMap (visits (some p) (p.node.isBone || skinned)) := by
  rw [visits, visitsAll_eq]

theorem exposedAll_eq (ts : List SceneTree) : exposedAll ts = ts.flatMap exposed := by
  induction ts with
  | nil => rfl
  | cons t rest ih => simp [exposedAll, ih]

@[simp] theorem exposed_branch (p : Placed) (ts : List SceneTree) :
    (branch p ts).exposed = if p.node.isBone then [] else p :: ts.flatMap exposed := by
  rw [exposed, exposedAll_eq]

theorem map_placed_visits (t : SceneTree) (parent : Option Placed) (skinned : Bool) :
    (t.visits parent skinned).map (·.placed) = t.preorder := by
  induction t generalizing parent skinned with
  | branch p ts ih =>
    simp only [visits_branch, preorder_branch, List.map_cons, List.map_flatMap]
    rw [List.flatMap_congr fun t ht => ih t ht _ _]

theorem map_placed_filter_visits (t : SceneTree) (parent : Option Placed) (skinned : Bool) :
    ((t.visits parent skinned).filter (!·.skinned)).map (·.placed) =
      if skinned then [] else t.exposed := by
  induction t generalizing parent skinned with
  | branch p ts ih =>
    rw [visits_branch, exposed_branch, List.filter_cons, List.filter_flatMap]
    cases p.node.isBone <;> cases skinned <;>
      simp [List.map_flatMap, List.flatMap_congr fun t ht => ih t ht _ _]

theorem exposed_sublist (t : SceneTree) : t.exposed.Sublist t.preorder := by
  rw [← t.map_placed_visits none false]
  have h := t.map_placed_filter_visits none false
  simp only [Bool.false_eq_true, if_false] at h
  rw [← h]
  exact List.filter_sublist.map _

end SceneTree

namespace Walk

variable {scene : Scene} {w : Walk} {skinned : List NodeId}

/-- The walk knows the parents of the nodes below these trees, and nothing of the trees has been
visited yet. -/
structure Ready (scene : Scene) (w : Walk) (skinned : List NodeId) (ts : List SceneTree) :
    Prop where
  unfolds : ∀ t ∈ ts, t.Unfolds scene
  nodup : (ts.flatMap ids).Nodup
  unseen : ∀ id ∈ ts.flatMap ids, id ∉ skinned
  outside : ∀ t ∈ ts, ∀ id ∈ w.parent? t.id, id ∉ ts.flatMap ids
  knows : ∀ id ∈ ts.flatMap ids, ∀ child ∈ scene.childrenOf id, w.parent? child = some id

theorem Ready.descend {p : Placed} {cs ts : List SceneTree} {skinned' : List NodeId}
    (h : Ready scene w skinned (.branch p cs :: ts)) (hs : skinned' ⊆ p.id :: skinned) :
    Ready scene w skinned' (cs ++ ts) := by
  have hc := (h.unfolds _ List.mem_cons_self).childrenOf_id
  have hd : (p.id :: (cs ++ ts).flatMap ids).Nodup := by simpa using h.nodup
  have hsub : ∀ id ∈ (cs ++ ts).flatMap ids, id ∈ (SceneTree.branch p cs :: ts).flatMap ids := by
    simp only [List.flatMap_append, List.flatMap_cons, ids_branch, List.cons_append]
    exact fun id hid => List.mem_cons_of_mem _ hid
  have hp : p.id ∈ (SceneTree.branch p cs :: ts).flatMap ids := by simp
  refine ⟨?_, (List.nodup_cons.mp hd).2, ?_, ?_, fun id hid => h.knows id (hsub id hid)⟩
  · have hts := fun t ht => h.unfolds t (List.mem_cons_of_mem _ ht)
    cases h.unfolds _ List.mem_cons_self with
    | branch _ _ hcs => exact List.forall_mem_append.mpr ⟨hcs, hts⟩
  · intro id hid hm
    rcases List.mem_cons.mp (hs hm) with rfl | hm
    · exact (List.nodup_cons.mp hd).1 hid
    · exact h.unseen id (hsub id hid) hm
  · intro t ht id hid hm
    rcases List.mem_append.mp ht with ht | ht
    · rw [h.knows p.id hp t.id (hc ▸ List.mem_map_of_mem ht), Option.mem_some_iff] at hid
      exact (List.nodup_cons.mp hd).1 (hid ▸ hm)
    · exact h.outside t (List.mem_cons_of_mem _ ht) id hid (hsub id hm)

def mark (isSkinned : Bool) (id : NodeId) (skinned : List NodeId) : List NodeId :=
  if isSkinned then id :: skinned else skinned

@[simp] theorem mem_mark {isSkinned : Bool} {id id' : NodeId} :
    id' ∈ mark isSkinned id skinned ↔ isSkinned = true ∧ id' = id ∨ id' ∈ skinned := by
  cases isSkinned <;> simp [mark]

theorem visitsFrom_cons {p : Placed} (h : scene.placed? p.id = some p) (rest : List NodeId) :
    w.visitsFrom scene skinned (p.id :: rest) =
      let isSkinned := p.node.isBone || (w.parent? p.id).any skinned.contains
      ⟨p, (w.parent? p.id).bind scene.placed?, isSkinned⟩ ::
        w.visitsFrom scene (mark isSkinned p.id skinned) rest := by
  rw [visitsFrom]
  simp only [h]
  split
  case isTrue hs => simp [hs, mark]
  case isFalse hs => simp [Bool.eq_false_iff.mpr hs, mark]

def visitsOf (scene : Scene) (w : Walk) (skinned : List NodeId) (t : SceneTree) : List Visit :=
  t.visits ((w.parent? t.id).bind scene.placed?) ((w.parent? t.id).any skinned.contains)

theorem visitsOf_eq {t : SceneTree} {p : Placed} (hp : scene.placed? p.id = some p)
    (h : w.parent? t.id = some p.id) :
    visitsOf scene w skinned t = t.visits (some p) (skinned.contains p.id) := by
  simp [visitsOf, h, hp]

theorem visitsOf_mark {t : SceneTree} {id : NodeId} {isSkinned : Bool}
    (h : w.parent? t.id ≠ some id) :
    visitsOf scene w (mark isSkinned id skinned) t = visitsOf scene w skinned t := by
  rw [visitsOf, visitsOf]
  cases hq : w.parent? t.id with
  | none => rfl
  | some q =>
    have hne : q ≠ id := fun he => h (he ▸ hq)
    have hc : (mark isSkinned id skinned).contains q = skinned.contains q := by
      rw [Bool.eq_iff_iff, List.contains_iff_mem, List.contains_iff_mem]
      simp [hne]
    simp only [Option.any_some, hc]

theorem visitsFrom_trees (skinned : List NodeId) : ∀ ts : List SceneTree,
    Ready scene w skinned ts →
      w.visitsFrom scene skinned (ts.flatMap ids) = ts.flatMap (visitsOf scene w skinned)
  | [], _ => rfl
  | .branch p cs :: ts, h => by
    have hu := h.unfolds _ List.mem_cons_self
    have hp : scene.placed? p.id = some p := by
      simp [Scene.placed?, hu.node_of_mem (p := p) (by simp)]
    have hmem : p.id ∈ (SceneTree.branch p cs :: ts).flatMap ids := by simp
    -- The node is marked before its children come; the mark means nothing to what is beside it.
    generalize hs : (p.node.isBone || (w.parent? p.id).any skinned.contains) = isSkinned
    have hself : (mark isSkinned p.id skinned).contains p.id = isSkinned := by
      cases isSkinned <;> simp [mark, h.unseen p.id hmem]
    have ih := visitsFrom_trees (mark isSkinned p.id skinned) (cs ++ ts)
      (h.descend fun id hid => by simpa [and_or_left] using (mem_mark.mp hid).imp_left And.right)
    have hbelow : ∀ t ∈ cs, visitsOf scene w (mark isSkinned p.id skinned) t =
        t.visits (some p) isSkinned := fun t ht => by
      have hparent := h.knows p.id hmem t.id (hu.childrenOf_id ▸ List.mem_map_of_mem ht)
      rw [visitsOf_eq hp hparent, hself]
    have hbeside : ∀ t ∈ ts, visitsOf scene w (mark isSkinned p.id skinned) t =
        visitsOf scene w skinned t := fun t ht =>
      visitsOf_mark fun hq => h.outside t (List.mem_cons_of_mem _ ht) p.id hq hmem
    calc w.visitsFrom scene skinned ((SceneTree.branch p cs :: ts).flatMap ids)
      _ = ⟨p, (w.parent? p.id).bind scene.placed?, isSkinned⟩ ::
          w.visitsFrom scene (mark isSkinned p.id skinned) ((cs ++ ts).flatMap ids) := by
        simp only [List.flatMap_cons, ids_branch, List.cons_append, visitsFrom_cons hp, hs,
          List.flatMap_append]
      _ = ⟨p, (w.parent? p.id).bind scene.placed?, isSkinned⟩ ::
          (cs.flatMap (visits (some p) isSkinned) ++ ts.flatMap (visitsOf scene w skinned)) := by
        rw [ih, List.flatMap_append, List.flatMap_congr hbelow, List.flatMap_congr hbeside]
      _ = (SceneTree.branch p cs :: ts).flatMap (visitsOf scene w skinned) := by
        simp only [List.flatMap_cons, visitsOf, visits_branch, id_branch, hs, List.cons_append]
termination_by ts => (ts.flatMap ids).length

end Walk

namespace Search.Finds

variable {scene : Scene} {t : SceneTree}

theorem lookup_root (h : Finds scene t) :
    (Walk.listings scene t.ids).lookup scene.root = none := by
  rw [Option.eq_none_iff_forall_not_mem]
  intro id hid
  have hl := List.mem_flatMap.mpr ⟨id, (Walk.lookup_listings h).mp hid⟩
  exact (h.mem_listed_iff.mp hl).2 rfl

theorem visits_eq (h : Finds scene t) : scene.visits = t.visits none false := by
  have hparent : ∀ child, Walk.parent? ⟨[], t.ids.reverse, Walk.listings scene t.ids⟩ child =
      (Walk.listings scene t.ids).lookup child := fun child => rfl
  have ready : Walk.Ready scene ⟨[], t.ids.reverse, Walk.listings scene t.ids⟩ [] [t] := {
    unfolds := by simpa using h.unfolds
    nodup := by simpa using h.nodup
    unseen := by simp
    outside := by simp [hparent, h.root, h.lookup_root]
    knows := by
      intro id hid child hc
      exact (Walk.lookup_listings h).mpr ⟨by simpa using hid, hc⟩ }
  have hv := Walk.visitsFrom_trees [] [t] ready
  rw [Scene.visits, Scene.walk?, Walk.run_start h]
  simpa [Walk.order, Walk.visitsOf, hparent, h.root, h.lookup_root] using hv

theorem visits_of_children_eq_nil (h : Finds scene t) (hleaf : t.node.children = []) :
    scene.visits = [⟨⟨scene.root, t.node⟩, none, t.node.isBone⟩] := by
  rw [h.visits_eq, ← h.root]
  cases h.unfolds with
  | @branch p _ _ hchildren _ =>
    rw [List.map_eq_nil_iff.mp (hchildren.trans hleaf), SceneTree.visits_branch, Bool.or_false]
    rfl

theorem map_placed_visits (h : Finds scene t) : scene.visits.map (·.placed) = t.preorder := by
  rw [h.visits_eq, SceneTree.map_placed_visits]

theorem mem_visits (h : Finds scene t) {v : Visit} (hv : v ∈ scene.visits) :
    v.placed ∈ t.preorder :=
  h.map_placed_visits ▸ List.mem_map_of_mem hv

theorem nodes_of_mem_visits (h : Finds scene t) {v : Visit} (hv : v ∈ scene.visits) :
    scene.nodes[v.id]? = some v.node :=
  h.unfolds.node_of_mem (h.mem_visits hv)

theorem map_placed_filter_visits (h : Finds scene t) :
    (scene.visits.filter (!·.skinned)).map (·.placed) = t.exposed := by
  simpa [h.visits_eq] using t.map_placed_filter_visits none false

theorem eq_of_id_eq (h : Finds scene t) {p q : Placed} (hp : p ∈ t.preorder)
    (hq : q ∈ t.preorder) (he : p.id = q.id) : p = q :=
  List.inj_on_of_nodup_map h.nodup hp hq he

theorem nodup_exposed (h : Finds scene t) : t.exposed.Nodup :=
  t.exposed_sublist.nodup (List.Nodup.of_map _ h.nodup)

end Search.Finds

end SceneMarkup
