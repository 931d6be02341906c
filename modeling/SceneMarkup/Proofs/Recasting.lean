import Mathlib.Data.List.Forall2
import SceneMarkup.Proofs.Distinct
import SceneMarkup.Proofs.Visits
import SceneMarkup.Source.Types

/-!
Trees recast. The nodes of a tree may be known by other indices and name other nodes, and groups
that say nothing may stand around some of them. Then the visits of the one tree are found again
among those of the other, and what comes in between has nothing to say.
-/

namespace SceneMarkup

open List (Forall₂)

theorem map_eq_of_forall₂ {R : α → β → Prop} {as : List α} {bs : List β} (h : Forall₂ R as bs)
    {f : α → γ} {g : β → γ} (hfg : ∀ a b, R a b → g b = f a) : bs.map g = as.map f := by
  induction h with
  | nil => rfl
  | cons hab _ ih => rw [List.map_cons, List.map_cons, hfg _ _ hab, ih]

theorem filterMap_eq_of_forall₂ {R : α → β → Prop} {as : List α} {bs : List β}
    (h : Forall₂ R as bs) {f : α → Option γ} {g : β → Option γ} (hfg : ∀ a b, R a b → g b = f a) :
    bs.filterMap g = as.filterMap f := by
  induction h with
  | nil => rfl
  | cons hab _ ih => rw [List.filterMap_cons, List.filterMap_cons, hfg _ _ hab, ih]

theorem forall₂_filter {R : α → β → Prop} {as : List α} {bs : List β} (h : Forall₂ R as bs)
    {p : α → Bool} {q : β → Bool} (hpq : ∀ a b, R a b → q b = p a) :
    Forall₂ R (as.filter p) (bs.filter q) := by
  apply List.rel_filter (R := R) _ h
  intro a b hab
  show p a = true ↔ q b = true
  rw [hpq a b hab]

theorem forall₂_filterMap {R : α → β → Prop} {S : γ → δ → Prop} {as : List α} {bs : List β}
    (h : Forall₂ R as bs) {f : α → Option γ} {g : β → Option δ}
    (hfg : ∀ a b, R a b → Option.Rel S (f a) (g b)) :
    Forall₂ S (as.filterMap f) (bs.filterMap g) :=
  List.rel_filterMap (R := R) (fun _ _ hab => hfg _ _ hab) h

theorem forall₂_zip_same {R : α → β → Prop} {as : List α} {bs : List β} (h : Forall₂ R as bs)
    (ks : List γ) : Forall₂ (fun a b => R a.1 b.1 ∧ b.2 = a.2) (as.zip ks) (bs.zip ks) := by
  induction h generalizing ks with
  | nil => exact .nil
  | cons hab _ ih =>
    cases ks with
    | nil => exact .nil
    | cons k ks => exact .cons ⟨hab, rfl⟩ (ih ks)

theorem forall₂_zipIdx {R : α → β → Prop} {as : List α} {bs : List β} (h : Forall₂ R as bs) :
    Forall₂ (fun a b => R a.1 b.1 ∧ b.2 = a.2) as.zipIdx bs.zipIdx := by
  rw [List.zipIdx_eq_zip_range', List.zipIdx_eq_zip_range', h.length_eq]
  exact forall₂_zip_same h _

theorem forall₂_distinctFrom [DecidableEq κ] {R : α → β → Prop} {as : List α} {bs : List β}
    (h : Forall₂ R as bs) {key : α → κ} {key' : β → κ} (hkey : ∀ a b, R a b → key' b = key a)
    (seen : List κ) : Forall₂ R (distinctFrom key seen as) (distinctFrom key' seen bs) := by
  induction h generalizing seen with
  | nil => exact .nil
  | cons hab _ ih =>
    rw [distinctFrom, distinctFrom, hkey _ _ hab]
    split
    · exact ih seen
    · exact .cons hab (ih _)

inductive Node.Alike (n : Node) : Node → Prop
  | intro {children : List NodeId} {skeleton : Option (List NodeId)} :
    children.isEmpty = n.children.isEmpty → skeleton.isSome = n.skeleton.isSome →
    Alike n { n with children, skeleton }

namespace Node.Alike

variable {n m : Node}

theorem refl (n : Node) : n.Alike n := .intro rfl rfl

theorem same {f : Node → α} (h : n.Alike m)
    (hf : ∀ (k : Node) children skeleton, f { k with children, skeleton } = f k) : f m = f n := by
  cases h
  exact hf n _ _

theorem name (h : n.Alike m) : m.name = n.name := h.same fun _ _ _ => rfl

theorem type (h : n.Alike m) : m.type = n.type := h.same fun _ _ _ => rfl

theorem nodeClass (h : n.Alike m) : m.nodeClass = n.nodeClass := h.same fun _ _ _ => rfl

theorem isBone (h : n.Alike m) : m.isBone = n.isBone := h.same fun _ _ _ => rfl

theorem isMesh (h : n.Alike m) : m.isMesh = n.isMesh := h.same fun _ _ _ => rfl

theorem material (h : n.Alike m) : m.material = n.material := h.same fun _ _ _ => rfl

theorem delta (h : n.Alike m) (precision : Number.Precision) :
    TransformDelta.of precision m = .of precision n := h.same fun _ _ _ => rfl

theorem isEmpty_children (h : n.Alike m) : m.children.isEmpty = n.children.isEmpty := by
  cases h
  assumption

end Node.Alike

/-- A container with nothing of its own, which gives way wherever it has a child. -/
structure Node.IsBare (options : Options) (clips : List AnimationClip) (n : Node) : Prop where
  container : n.nodeClass = .container
  keepGroups : options.keepGroups = false
  keepNames : options.keepNames = false
  unreferenced : ∀ clip ∈ clips, clip.references n.name = false
  identity : (TransformDelta.of options.canonical n).any = false
  plain : n = {
    type := n.type, name := n.name, position := n.position, rotation := n.rotation
    scale := n.scale, children := n.children }

namespace Node.IsBare

variable {options : Options} {clips : List AnimationClip} {n : Node}

theorem isMesh (h : n.IsBare options clips) : n.isMesh = false := by
  rw [Node.isMesh, h.container]
  rfl

theorem isBone (h : n.IsBare options clips) : n.isBone = false := by
  rw [Node.isBone, h.container]
  rfl

end Node.IsBare

/-- How the nodes of one scene are found again in another. -/
structure Recasting where
  rename : NodeId → NodeId
  isAdded : NodeId → Bool
  options : Options
  clips : List AnimationClip

namespace Recasting

variable {c : Recasting}

structure Places (c : Recasting) (p q : Placed) : Prop where
  id : q.id = c.rename p.id
  kept : c.isAdded q.id = false
  node : p.node.Alike q.node

/-- Trees in turn. A group may be added around some of them; no bone may then come to stand below
another parent if the types are to be written, as these tell the top bones apart. -/
inductive Trees (c : Recasting) : List SceneTree → List SceneTree → Prop
  | nil : Trees c [] []
  | branch {p q ts us rest rest'} : c.Places p q → Trees c ts us → Trees c rest rest' →
    Trees c (.branch p ts :: rest) (.branch q us :: rest')
  | wrapped {q ts us rest rest'} : c.isAdded q.id = true → q.node.IsBare c.options c.clips →
    (c.options.types → ∀ t ∈ ts, ¬ t.node.isBone) → Trees c ts us → Trees c rest rest' →
    Trees c (ts ++ rest) (.branch q us :: rest')

structure Visits (c : Recasting) (v w : Visit) : Prop where
  placed : c.Places v.placed w.placed
  skinned : w.skinned = v.skinned
  topBone : c.options.types → AssetTypes.isTopBone w = AssetTypes.isTopBone v

def isBelowBone (parent : Option Placed) : Bool := (parent.map (·.node.isBone)).getD false

namespace Trees

variable {ts us : List SceneTree}

theorem append {ts' us' : List SceneTree} (h : c.Trees ts us) (h' : c.Trees ts' us') :
    c.Trees (ts ++ ts') (us ++ us') := by
  induction h with
  | nil => exact h'
  | branch hpq hts _ _ ih => exact .branch hpq hts ih
  | wrapped ha hbare hbone hts _ _ ih =>
    rw [List.append_assoc]
    exact .wrapped ha hbare hbone hts ih

theorem of_forall {f : SceneTree → SceneTree} (h : ∀ t ∈ ts, c.Trees [t] [f t]) :
    c.Trees ts (ts.map f) := by
  induction ts with
  | nil => exact .nil
  | cons t rest ih =>
    rw [List.forall_mem_cons] at h
    exact h.1.append (ih h.2)

theorem refl (hrename : c.rename = id) (t : SceneTree)
    (ht : ∀ p ∈ t.preorder, c.isAdded p.id = false) : c.Trees [t] [t] := by
  induction t with
  | branch p ts ih =>
    rw [SceneTree.preorder_branch, List.forall_mem_cons] at ht
    have hp : c.Places p p := ⟨(congrFun hrename p.id).symm, ht.1, .refl p.node⟩
    have hall : c.Trees ts (ts.map id) :=
      .of_forall fun t hm => ih t hm fun q hq => ht.2 q (List.mem_flatMap.mpr ⟨t, hm, hq⟩)
    rw [List.map_id] at hall
    exact .branch hp hall .nil

theorem isBare (h : c.Trees ts us) {p : Placed} (hp : p ∈ us.flatMap SceneTree.preorder)
    (ha : c.isAdded p.id = true) : p.node.IsBare c.options c.clips := by
  induction h with
  | nil => contradiction
  | branch hpq _ _ ih ihr =>
    simp only [List.flatMap_cons, SceneTree.preorder_branch, List.cons_append, List.mem_cons,
      List.mem_append] at hp
    rcases hp with rfl | hp | hp
    · rw [hpq.kept] at ha
      contradiction
    · exact ih hp
    · exact ihr hp
  | wrapped _ hbare _ _ _ ih ihr =>
    simp only [List.flatMap_cons, SceneTree.preorder_branch, List.cons_append, List.mem_cons,
      List.mem_append] at hp
    rcases hp with rfl | hp | hp
    · exact hbare
    · exact ih hp
    · exact ihr hp

theorem visits (h : c.Trees ts us) (parent parent' : Option Placed) (skinned : Bool)
    (hbone : c.options.types → ∀ t ∈ ts, t.node.isBone → isBelowBone parent' = isBelowBone parent) :
    Forall₂ c.Visits (ts.flatMap (SceneTree.visits parent skinned))
      ((us.flatMap (SceneTree.visits parent' skinned)).filter (!c.isAdded ·.id)) := by
  induction h generalizing parent parent' skinned with
  | nil => exact .nil
  | @branch p q ts us rest rest' hpq _ _ ih ihr =>
    have htop : c.options.types →
        AssetTypes.isTopBone ⟨q, parent', q.node.isBone || skinned⟩ =
          AssetTypes.isTopBone ⟨p, parent, p.node.isBone || skinned⟩ := by
      intro htypes
      show (q.node.isBone && !isBelowBone parent') = (p.node.isBone && !isBelowBone parent)
      cases hb : p.node.isBone with
      | true => rw [hpq.node.isBone, hb, hbone htypes _ List.mem_cons_self hb]
      | false => rw [hpq.node.isBone, hb, Bool.false_and, Bool.false_and]
    have hbelow : isBelowBone (some q) = isBelowBone (some p) := hpq.node.isBone
    simp only [List.flatMap_cons, SceneTree.visits_branch, List.cons_append, List.filter_cons,
      List.filter_append]
    rw [if_pos (show (!c.isAdded (Visit.id ⟨q, parent', q.node.isBone || skinned⟩)) = true by
      simp [Visit.id, hpq.kept])]
    refine .cons ⟨hpq, by simp [hpq.node.isBone], htop⟩ (List.rel_append ?_ ?_)
    · rw [hpq.node.isBone]
      exact ih _ _ _ fun _ _ _ _ => hbelow
    · exact ihr _ _ _ fun htypes t ht => hbone htypes t (List.mem_cons_of_mem _ ht)
  | @wrapped q ts us rest rest' ha hbare hts _ _ ih ihr =>
    simp only [List.flatMap_cons, SceneTree.visits_branch, List.cons_append, List.filter_cons,
      List.filter_append, List.flatMap_append]
    rw [if_neg (show ¬ (!c.isAdded (Visit.id ⟨q, parent', q.node.isBone || skinned⟩)) = true by
      simp [Visit.id, ha])]
    refine List.rel_append ?_ ?_
    · rw [hbare.isBone, Bool.false_or]
      exact ih _ _ _ fun htypes t ht hb => absurd hb (hts htypes t ht)
    · exact ihr _ _ _ fun htypes t ht => hbone htypes t (List.mem_append_right _ ht)

theorem exposed (h : c.Trees ts us) : Forall₂ c.Places (ts.flatMap SceneTree.exposed)
    ((us.flatMap SceneTree.exposed).filter (!c.isAdded ·.id)) := by
  have hexposed (ts : List SceneTree) : ts.flatMap SceneTree.exposed =
      ((ts.flatMap (SceneTree.visits none false)).filter (!·.skinned)).map (·.placed) := by
    rw [List.filter_flatMap, List.map_flatMap]
    exact List.flatMap_congr fun t _ => (t.map_placed_filter_visits none false).symm
  have hvisits := h.visits none none false fun _ _ _ _ => rfl
  rw [hexposed, hexposed, List.filter_map, List.forall₂_map_left_iff, List.forall₂_map_right_iff]
  have hunskinned := forall₂_filter hvisits (p := (!·.skinned)) (q := (!·.skinned))
    fun v w hvw => by rw [hvw.skinned]
  rw [List.filter_comm] at hunskinned
  exact hunskinned.imp fun _ _ hvw => hvw.placed

end Trees

end Recasting

end SceneMarkup
