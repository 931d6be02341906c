import Mathlib.Data.List.Pairwise
import SceneMarkup.Controls.Build
import SceneMarkup.Proofs.Distinct

namespace SceneMarkup

def plainNames : List String := [
  "name", "makeDefault", "zoom", "far", "near", "fov", "castShadow", "receiveShadow", "geometry",
  "material", "skeleton", "visible", "morphTargetDictionary", "morphTargetInfluences", "intensity",
  "angle", "penumbra", "decay", "distance", "up", "color", "userData"]

def transformFields : List String := ["position", "rotation", "scale"]

def AttributeValue.isPlain : AttributeValue → Bool
  | .expression (.verbatim _) => false
  | .expression (.reference .context _) => false
  | _ => true

namespace Attribute

structure IsPlain (a : Attribute) : Prop where
  name : a.name ∈ plainNames
  value : a.value.isPlain

@[simp] theorem isPlain_flag {name : String} : (flag name).IsPlain ↔ name ∈ plainNames :=
  ⟨fun h => h.name, fun h => ⟨h, rfl⟩⟩

@[simp] theorem isPlain_text {name t : String} : (text name t).IsPlain ↔ name ∈ plainNames :=
  ⟨fun h => h.name, fun h => ⟨h, rfl⟩⟩

@[simp] theorem isPlain_expression {name : String} {e : Expression} :
    (expression name e).IsPlain ↔
      name ∈ plainNames ∧ (AttributeValue.expression e).isPlain :=
  ⟨fun h => ⟨h.name, h.value⟩, fun h => ⟨h.1, h.2⟩⟩

def bound (key field : String) : Attribute :=
  .expression field (.reference .context (Setting.transformPath key ++ [field]))

def binding? (a : Attribute) : Option (String × String) :=
  match a.value with
  | .expression (.reference .context ["transforms", key, field]) =>
    if field = a.name then some (key, field) else none
  | _ => none

@[simp] theorem binding?_bound (key field : String) :
    (bound key field).binding? = some (key, field) := by
  simp [bound, binding?, expression, Setting.transformPath]

theorem IsPlain.binding?_eq_none {a : Attribute} (h : a.IsPlain) : a.binding? = none := by
  have hv := h.value
  unfold binding?
  split
  next heq =>
    rw [heq] at hv
    contradiction
  next => rfl

end Attribute

namespace Setting

variable (s : Setting) (node : Node)

theorem isPlain_nameAttribute : ∀ a ∈ s.nameAttribute node, a.IsPlain := by
  rw [nameAttribute]
  split <;> simp [plainNames]

theorem isPlain_numberUnless {name : String} (h : name ∈ plainNames) (value default : Float) :
    ∀ a ∈ s.numberUnless name value default, a.IsPlain := by
  rw [numberUnless]
  split <;> simp [h, AttributeValue.isPlain]

theorem isPlain_optionalNumber {name : String} (h : name ∈ plainNames) (value : Option Float)
    (default : Float) : ∀ a ∈ s.optionalNumber name value default, a.IsPlain := by
  cases value with
  | none => simp [optionalNumber]
  | some x => exact s.isPlain_numberUnless h x default

theorem isPlain_cameraAttributes : ∀ a ∈ s.cameraAttributes node, a.IsPlain := by
  have hdefault : (Attribute.expression "makeDefault" (.bool false)).IsPlain := by
    simp [plainNames, AttributeValue.isPlain]
  have hzoom := @isPlain_numberUnless s "zoom" (by simp [plainNames])
  have hfar := @isPlain_numberUnless s "far" (by simp [plainNames])
  have hnear := @isPlain_numberUnless s "near" (by simp [plainNames])
  have hfov := @isPlain_numberUnless s "fov" (by simp [plainNames])
  unfold cameraAttributes
  split
  · simpa only [List.cons_append, List.forall_mem_cons, List.forall_mem_append] using
      ⟨hdefault, ⟨⟨hzoom _ _, hfar _ _⟩, hnear _ _⟩, hfov _ _⟩
  · simpa only [List.cons_append, List.forall_mem_cons, List.forall_mem_append] using
      ⟨hdefault, ⟨hzoom _ _, hfar _ _⟩, hnear _ _⟩
  · simp

theorem isPlain_optionalShadows : ∀ a ∈ s.optionalShadows node, a.IsPlain := by
  rw [optionalShadows]
  split <;> simp [shadowFlags, plainNames]

theorem isPlain_geometryAttribute : ∀ a ∈ geometryAttribute node, a.IsPlain := by
  rw [geometryAttribute]
  split <;> simp [plainNames, ofNode, AttributeValue.isPlain]

theorem isPlain_materialAttribute : ∀ a ∈ s.materialAttribute node, a.IsPlain := by
  rw [materialAttribute]
  split
  · rw [materialReference]
    split <;> simp [plainNames, ofNode, AttributeValue.isPlain]
  · simp

theorem isPlain_skeletonAttribute : ∀ a ∈ skeletonAttribute node, a.IsPlain := by
  rw [skeletonAttribute]
  split <;> simp [plainNames, ofNode, AttributeValue.isPlain]

theorem isPlain_visibleAttribute : ∀ a ∈ visibleAttribute node, a.IsPlain := by
  rw [visibleAttribute]
  split <;> simp [plainNames, AttributeValue.isPlain]

theorem isPlain_ownShadows : ∀ a ∈ ownShadows node, a.IsPlain := by
  rw [ownShadows, List.forall_mem_append]
  constructor <;> split <;> simp [plainNames]

theorem isPlain_morphAttributes : ∀ a ∈ morphAttributes node, a.IsPlain := by
  unfold morphAttributes
  split
  · simp
  · rw [List.forall_mem_append]
    constructor <;> split <;> simp [plainNames, ofNode, AttributeValue.isPlain]

theorem isPlain_angleAttribute (angle : Option Float) :
    ∀ a ∈ s.angleAttribute angle, a.IsPlain := by
  unfold angleAttribute
  split
  · split <;> simp [plainNames, AttributeValue.isPlain]
  · simp

theorem isPlain_upAttribute (up : Option Vec3) : ∀ a ∈ s.upAttribute up, a.IsPlain := by
  unfold upAttribute
  split
  · split <;> simp [plainNames, AttributeValue.isPlain]
  · simp

theorem isPlain_lightAttributes : ∀ a ∈ s.lightAttributes node, a.IsPlain := by
  have hnumber := fun name (h : name ∈ plainNames) => s.isPlain_optionalNumber h
  unfold lightAttributes
  split
  · simp
  · simp only [List.forall_mem_append]
    exact ⟨⟨⟨⟨⟨hnumber _ (by simp [plainNames]) _ _, s.isPlain_angleAttribute _⟩,
      hnumber _ (by simp [plainNames]) _ _⟩, hnumber _ (by simp [plainNames]) _ _⟩,
      hnumber _ (by simp [plainNames]) _ _⟩, s.isPlain_upAttribute _⟩

theorem isPlain_colorAttribute : ∀ a ∈ colorAttribute node, a.IsPlain := by
  unfold colorAttribute
  split
  · split <;> simp [plainNames]
  · simp

theorem isPlain_userDataAttribute : ∀ a ∈ s.userDataAttribute node, a.IsPlain := by
  unfold userDataAttribute
  split
  · split <;> simp [plainNames, AttributeValue.isPlain]
  · simp

def leadingAttributes (s : Setting) (node : Node) : List Attribute :=
  s.nameAttribute node ++ s.cameraAttributes node ++ s.optionalShadows node ++
    geometryAttribute node ++ s.materialAttribute node ++ skeletonAttribute node ++
    visibleAttribute node ++ ownShadows node ++ morphAttributes node ++ s.lightAttributes node ++
    colorAttribute node

theorem candidateAttributes_eq (placed : Placed) : s.candidateAttributes placed =
    s.leadingAttributes placed.node ++ s.transformAttributes placed ++
      s.userDataAttribute placed.node := rfl

theorem isPlain_leadingAttributes : ∀ a ∈ s.leadingAttributes node, a.IsPlain := by
  simp only [leadingAttributes, List.forall_mem_append]
  exact ⟨⟨⟨⟨⟨⟨⟨⟨⟨⟨s.isPlain_nameAttribute node, s.isPlain_cameraAttributes node⟩,
    s.isPlain_optionalShadows node⟩, isPlain_geometryAttribute node⟩,
    s.isPlain_materialAttribute node⟩, isPlain_skeletonAttribute node⟩,
    isPlain_visibleAttribute node⟩, isPlain_ownShadows node⟩, isPlain_morphAttributes node⟩,
    s.isPlain_lightAttributes node⟩, isPlain_colorAttribute node⟩

def boundFields (s : Setting) (placed : Placed) : List (String × String) :=
  match s.survey.transformKey? placed.id with
  | none => []
  | some key => (s.transformEntries placed.node).map fun e => (key, e.1)

theorem transformAttributes_eq (placed : Placed) :
    s.transformAttributes placed = (s.boundFields placed).map fun b => .bound b.1 b.2 := by
  rw [transformAttributes, boundFields]
  cases s.survey.transformKey? placed.id with
  | none => rfl
  | some key =>
    simp only [transformEntries]
    cases (TransformDelta.of s.precision placed.node).position <;>
      cases (TransformDelta.of s.precision placed.node).rotation <;>
        cases (TransformDelta.of s.precision placed.node).scale <;> rfl

theorem map_fst_transformEntries_sublist :
    ((s.transformEntries node).map Prod.fst).Sublist transformFields := by
  rw [transformEntries]
  cases (TransformDelta.of s.precision node).position <;>
    cases (TransformDelta.of s.precision node).rotation <;>
      cases (TransformDelta.of s.precision node).scale <;> simp [transformFields]

theorem nodup_map_snd_boundFields (placed : Placed) :
    ((s.boundFields placed).map Prod.snd).Nodup := by
  rw [boundFields]
  split
  · exact List.nodup_nil
  · rw [List.map_map]
    exact (s.map_fst_transformEntries_sublist placed.node).nodup (by simp [transformFields])

theorem snd_mem_of_mem_boundFields {placed : Placed} {b : String × String}
    (h : b ∈ s.boundFields placed) : b.2 ∈ transformFields := by
  rw [boundFields] at h
  split at h
  · contradiction
  · obtain ⟨e, he, rfl⟩ := List.mem_map.mp h
    exact (s.map_fst_transformEntries_sublist placed.node).subset (List.mem_map_of_mem he)

theorem isPlain_or_bound {placed : Placed} {a : Attribute} (h : a ∈ s.attributes placed) :
    a.IsPlain ∨ ∃ b ∈ s.boundFields placed, a = .bound b.1 b.2 := by
  have hname := s.isPlain_nameAttribute placed.node a
  have hvisible := isPlain_visibleAttribute placed.node a
  have hdata := s.isPlain_userDataAttribute placed.node a
  have hleading := s.isPlain_leadingAttributes placed.node a
  have hbound : a ∈ s.transformAttributes placed →
      ∃ b ∈ s.boundFields placed, a = .bound b.1 b.2 := by
    rw [transformAttributes_eq, List.mem_map]
    rintro ⟨b, hb, rfl⟩
    exact ⟨b, hb, rfl⟩
  rw [attributes] at h
  split at h
  · simp only [instancedAttributes, List.mem_append] at h
    rcases h with ((h | h) | h) | h
    · exact .inl (hname h)
    · exact .inl (hvisible h)
    · exact .inr (hbound h)
    · exact .inl (hdata h)
  · have hc := (distinctBy_sublist _).subset h
    rw [candidateAttributes_eq, List.mem_append, List.mem_append] at hc
    rcases hc with (hc | hc) | hc
    · exact .inl (hleading hc)
    · exact .inr (hbound hc)
    · exact .inl (hdata hc)

theorem pairwise_candidateAttributes (placed : Placed) : (s.candidateAttributes placed).Pairwise
    fun a b => b.binding?.isSome → a.name ≠ b.name := by
  have hplain : ∀ {a b : Attribute}, b.IsPlain → b.binding?.isSome → a.name ≠ b.name := fun h hs =>
    absurd hs (by simp [h.binding?_eq_none])
  have hnames : ∀ a ∈ s.transformAttributes placed, a.name ∈ transformFields := by
    rw [transformAttributes_eq, List.forall_mem_map]
    exact fun b hb => s.snd_mem_of_mem_boundFields hb
  have hdisjoint : ∀ n ∈ plainNames, n ∉ transformFields := by simp [plainNames, transformFields]
  rw [candidateAttributes_eq, List.pairwise_append, List.pairwise_append]
  refine ⟨⟨?_, ?_, ?_⟩, ?_, ?_⟩
  · exact List.pairwise_of_forall_mem_list fun a _ b hb =>
      hplain (s.isPlain_leadingAttributes placed.node b hb)
  · have hd := s.nodup_map_snd_boundFields placed
    rw [List.Nodup, List.pairwise_map] at hd
    rw [transformAttributes_eq, List.pairwise_map]
    refine hd.imp ?_
    exact fun hne _ => hne
  · intro a ha b hb _ he
    exact hdisjoint a.name (s.isPlain_leadingAttributes placed.node a ha).name
      (he ▸ hnames b hb)
  · exact List.pairwise_of_forall_mem_list fun a _ b hb =>
      hplain (s.isPlain_userDataAttribute placed.node b hb)
  · exact fun a _ b hb => hplain (s.isPlain_userDataAttribute placed.node b hb)

theorem filterMap_binding?_attributes (placed : Placed) :
    (s.attributes placed).filterMap Attribute.binding? = s.boundFields placed := by
  have hplain : ∀ {as : List Attribute}, (∀ a ∈ as, a.IsPlain) →
      as.filterMap Attribute.binding? = [] := fun h => by
    rw [List.filterMap_eq_nil_iff]
    exact fun a ha => (h a ha).binding?_eq_none
  have htransform : (s.transformAttributes placed).filterMap Attribute.binding? =
      s.boundFields placed := by
    have hbinding : Attribute.binding? ∘ (fun b => .bound b.1 b.2) = some :=
      funext fun b => Attribute.binding?_bound b.1 b.2
    rw [transformAttributes_eq, List.filterMap_map, hbinding, List.filterMap_some]
  rw [attributes]
  split
  · simp only [instancedAttributes, List.filterMap_append, htransform,
      hplain (s.isPlain_nameAttribute placed.node), hplain (isPlain_visibleAttribute placed.node),
      hplain (s.isPlain_userDataAttribute placed.node), List.nil_append, List.append_nil]
  · rw [directAttributes, filterMap_distinctBy (s.pairwise_candidateAttributes placed)]
    simp only [candidateAttributes_eq, List.filterMap_append, htransform,
      hplain (s.isPlain_leadingAttributes placed.node),
      hplain (s.isPlain_userDataAttribute placed.node), List.nil_append, List.append_nil]

end Setting

end SceneMarkup
