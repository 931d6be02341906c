import Mathlib.Data.List.Perm.Basic
import SceneMarkup.Scene.Search

namespace SceneMarkup

open scoped List

theorem eq_of_map_eq {f : α → β} {as bs : List α} (h : as.map f = bs.map f)
    (hf : ∀ a ∈ as, ∀ b ∈ bs, f a = f b → a = b) : as = bs := by
  induction as generalizing bs with
  | nil => exact (List.map_eq_nil_iff.mp h.symm).symm
  | cons a rest ih =>
    cases bs with
    | nil => contradiction
    | cons b rest' =>
      rw [List.map_cons, List.map_cons, List.cons.injEq] at h
      have hab := hf a List.mem_cons_self b List.mem_cons_self h.1
      have hrest := ih h.2 fun a ha b hb =>
        hf a (List.mem_cons_of_mem _ ha) b (List.mem_cons_of_mem _ hb)
      rw [hab, hrest]

namespace Scene

def childrenOf (scene : Scene) (id : NodeId) : List NodeId :=
  (scene.nodes[id]?.map (·.children)).getD []

inductive Reaches (scene : Scene) : NodeId → Prop
  | root : Reaches scene scene.root
  | child {id child : NodeId} :
    Reaches scene id → child ∈ scene.childrenOf id → Reaches scene child

theorem childrenOf_eq {scene : Scene} {p : Placed} (h : scene.nodes[p.id]? = some p.node) :
    scene.childrenOf p.id = p.node.children := by simp [childrenOf, h]

end Scene

namespace SceneTree

theorem preorderAll_eq (ts : List SceneTree) : preorderAll ts = ts.flatMap preorder := by
  induction ts with
  | nil => rfl
  | cons t rest ih => simp [preorderAll, ih]

@[simp] theorem preorder_branch (p : Placed) (ts : List SceneTree) :
    (branch p ts).preorder = p :: ts.flatMap preorder := by
  rw [preorder, preorderAll_eq]

@[simp] theorem id_branch (p : Placed) (ts : List SceneTree) : (branch p ts).id = p.id := rfl

@[induction_eliminator] theorem induct {P : SceneTree → Prop}
    (branch : ∀ p ts, (∀ t ∈ ts, P t) → P (.branch p ts)) : ∀ t, P t
  | .branch p ts => branch p ts fun t _ => induct branch t

def ids (t : SceneTree) : List NodeId := t.preorder.map (·.id)

@[simp] theorem ids_branch (p : Placed) (ts : List SceneTree) :
    (branch p ts).ids = p.id :: ts.flatMap ids := by
  simp only [ids, preorder_branch, List.map_cons, List.map_flatMap]
  rfl

theorem id_mem_ids (t : SceneTree) : t.id ∈ t.ids := by cases t; simp

inductive Unfolds (scene : Scene) : SceneTree → Prop
  | branch : scene.nodes[p.id]? = some p.node → ts.map SceneTree.id = p.node.children →
    (∀ t ∈ ts, Unfolds scene t) → Unfolds scene (.branch p ts)

namespace Unfolds

variable {scene : Scene} {t : SceneTree}

theorem childrenOf_id {p : Placed} {ts : List SceneTree} (h : Unfolds scene (.branch p ts)) :
    scene.childrenOf p.id = ts.map SceneTree.id := by
  cases h with
  | branch hp hc _ => rw [Scene.childrenOf_eq hp, hc]

theorem unique {t' : SceneTree} (h : t.Unfolds scene) (h' : t'.Unfolds scene)
    (hid : t.id = t'.id) : t = t' := by
  induction t generalizing t' with
  | branch p ts ih =>
    cases t' with
    | branch q us =>
      cases h with
      | branch hp hts hall =>
        cases h' with
        | branch hq hus hall' =>
          have hpq : p = q := by
            rw [id_branch, id_branch] at hid
            rw [hid, hq, Option.some.injEq] at hp
            cases p
            cases q
            simp_all
          subst hpq
          have hsame : ts = us := eq_of_map_eq (hts.trans hus.symm) fun t ht u hu =>
            ih t ht (hall t ht) (hall' u hu)
          rw [hsame]

theorem flatMap_ids_perm {ts : List SceneTree}
    (h : ∀ t ∈ ts, t.ids ~ t.id :: t.ids.flatMap scene.childrenOf) :
    ts.flatMap ids ~ ts.map SceneTree.id ++ (ts.flatMap ids).flatMap scene.childrenOf := by
  rw [List.flatMap_assoc]
  exact (List.Perm.flatMap_left _ h).trans (List.map_append_flatMap_perm ts _ _).symm

theorem ids_perm (h : Unfolds scene t) : t.ids ~ t.id :: t.ids.flatMap scene.childrenOf := by
  induction t with
  | branch p ts ih =>
    have hc := h.childrenOf_id
    cases h with
    | branch _ _ ht =>
      rw [ids_branch, id_branch, List.flatMap_cons, hc]
      exact (flatMap_ids_perm fun t hm => ih t hm (ht t hm)).cons p.id

theorem node_of_mem (h : Unfolds scene t) {p : Placed} (hp : p ∈ t.preorder) :
    scene.nodes[p.id]? = some p.node := by
  induction t with
  | branch q ts ih =>
    cases h with
    | branch hq _ ht =>
      rw [preorder_branch, List.mem_cons, List.mem_flatMap] at hp
      rcases hp with rfl | ⟨t, hm, hp⟩
      · exact hq
      · exact ih t hm (ht t hm) hp

theorem lt_size (h : Unfolds scene t) {id : NodeId} (hid : id ∈ t.ids) :
    id < scene.nodes.size := by
  obtain ⟨p, hp, rfl⟩ := List.mem_map.mp hid
  exact (Array.getElem?_eq_some_iff.mp (h.node_of_mem hp)).1

theorem reaches_of_mem (h : Unfolds scene t) (hr : scene.Reaches t.id) {id : NodeId}
    (hid : id ∈ t.ids) : scene.Reaches id := by
  induction t with
  | branch p ts ih =>
    have hc := h.childrenOf_id
    cases h with
    | branch _ _ ht =>
      rw [ids_branch, List.mem_cons, List.mem_flatMap] at hid
      rcases hid with rfl | ⟨t, hm, hid⟩
      · exact hr
      · exact ih t hm (ht t hm) (hr.child (hc ▸ List.mem_map_of_mem hm)) hid

theorem mem_ids_iff (h : Unfolds scene t) (hroot : t.id = scene.root) {id : NodeId} :
    id ∈ t.ids ↔ scene.Reaches id := by
  constructor
  · exact h.reaches_of_mem (hroot ▸ .root)
  · intro hr
    induction hr with
    | root => exact hroot ▸ t.id_mem_ids
    | child _ hc ih =>
      exact h.ids_perm.mem_iff.mpr (List.mem_cons_of_mem _ (List.mem_flatMap.mpr ⟨_, ih, hc⟩))

end Unfolds

end SceneTree

end SceneMarkup
