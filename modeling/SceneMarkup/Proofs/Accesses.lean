import SceneMarkup.Proofs.Controls
import SceneMarkup.Proofs.Instances

namespace SceneMarkup

inductive Access
  | node (name : String)
  | material (name : String)
  deriving DecidableEq

def Expression.access? : Expression → Option Access
  | .reference .nodes (name :: _) => some (.node name)
  | .reference .materials (name :: _) => some (.material name)
  | _ => none

namespace Attribute

def access? (a : Attribute) : Option Access :=
  match a.value with
  | .expression e => e.access?
  | _ => none

@[simp] theorem access?_flag (name : String) : (flag name).access? = none := rfl

@[simp] theorem access?_text (name t : String) : (text name t).access? = none := rfl

@[simp] theorem access?_expression (name : String) (e : Expression) :
    (expression name e).access? = e.access? := rfl

end Attribute

def Element.accesses (e : Element) : List Access := e.attributes.filterMap Attribute.access?

namespace Markup

mutual

def lives : Markup → List String
  | live name => [name]
  | element _ _ _ content => livesAll content

def livesAll : List Markup → List String
  | [] => []
  | m :: rest => lives m ++ livesAll rest

end

theorem livesAll_eq (ms : List Markup) : livesAll ms = ms.flatMap lives := by
  induction ms with
  | nil => rfl
  | cons m rest ih => simp [livesAll, ih]

@[simp] theorem lives_element (origin : Placed) (tag : String) (attributes : List Attribute)
    (content : List Markup) :
    (element origin tag attributes content).lives = content.flatMap lives := by
  rw [lives, livesAll_eq]

end Markup

def Composition.accesses (c : Composition) : List Access :=
  (c.content.flatMap Markup.lives).map .node ++ c.written.flatMap Element.accesses

def Plan.accesses (p : Plan) : List Access :=
  p.composition.accesses ++ p.instances.map (.node ·.owner) ++
    p.controls.materialSync.map (.node ·.owner)

namespace SceneTree

mutual

def joints : SceneTree → List Placed
  | branch p ts => if p.node.isBone then [p] else jointsAll ts

def jointsAll : List SceneTree → List Placed
  | [] => []
  | t :: rest => joints t ++ jointsAll rest

end

theorem jointsAll_eq (ts : List SceneTree) : jointsAll ts = ts.flatMap joints := by
  induction ts with
  | nil => rfl
  | cons t rest ih => simp [jointsAll, ih]

@[simp] theorem joints_branch (p : Placed) (ts : List SceneTree) :
    (branch p ts).joints = if p.node.isBone then [p] else ts.flatMap joints := by
  rw [joints, jointsAll_eq]

theorem joints_outermost (t : SceneTree) : t.outermost.flatMap joints = t.joints := by
  rw [outermost]
  split
  case isTrue hc =>
    cases t with
    | branch p ts =>
      have hb : p.node.isBone = false := Node.isBone_eq_false (beq_iff_eq.mp hc)
      simp [children, hb]
  case isFalse => simp

end SceneTree

theorem Setting.lives_markup (s : Setting) (t : SceneTree) :
    (s.markup t).flatMap Markup.lives = t.joints.map (·.node.name) := by
  induction t with
  | branch p ts ih =>
    have below : (ts.flatMap s.markup).flatMap Markup.lives =
        (ts.flatMap SceneTree.joints).map (·.node.name) := by
      rw [List.flatMap_assoc, List.map_flatMap, List.flatMap_congr ih]
    rw [markup_branch, SceneTree.joints_branch]
    cases p.node.isBone with
    | true => simp [Markup.lives]
    | false => cases s.elides p <;> simp [below]

theorem Composition.lives_of (s : Setting) (tree : SceneTree) :
    (of s tree).content.flatMap Markup.lives = tree.joints.map (·.node.name) := by
  rw [content_of, List.flatMap_assoc, List.flatMap_congr fun t _ => s.lives_markup t,
    ← List.map_flatMap, SceneTree.joints_outermost]

theorem filterMap_filter_isSome (f : α → Option β) (as : List α) :
    (as.filter fun a => (f a).isSome).filterMap f = as.filterMap f := by
  rw [List.filterMap_filter]
  refine List.filterMap_congr fun a _ => ?_
  cases f a <;> rfl

def accessNames : List String :=
  ["geometry", "material", "skeleton", "morphTargetDictionary", "morphTargetInfluences"]

namespace Setting

variable (s : Setting) (node : Node)

def assetAttributes : List Attribute :=
  geometryAttribute node ++ s.materialAttribute node ++ skeletonAttribute node ++
    morphAttributes node

theorem access?_nameAttribute : ∀ a ∈ s.nameAttribute node, a.access? = none := by
  rw [nameAttribute]
  split <;> simp

theorem access?_numberUnless (name : String) (value default : Float) :
    ∀ a ∈ s.numberUnless name value default, a.access? = none := by
  rw [numberUnless]
  split <;> simp [Expression.access?]

theorem access?_optionalNumber (name : String) (value : Option Float) (default : Float) :
    ∀ a ∈ s.optionalNumber name value default, a.access? = none := by
  cases value with
  | none => simp [optionalNumber]
  | some x => exact s.access?_numberUnless name x default

theorem access?_cameraAttributes : ∀ a ∈ s.cameraAttributes node, a.access? = none := by
  have hnumber := s.access?_numberUnless
  have hdefault : (Attribute.expression "makeDefault" (.bool false)).access? = none := rfl
  unfold cameraAttributes
  split
  · simpa only [List.cons_append, List.forall_mem_cons, List.forall_mem_append] using
      ⟨hdefault, ⟨⟨hnumber _ _ _, hnumber _ _ _⟩, hnumber _ _ _⟩, hnumber _ _ _⟩
  · simpa only [List.cons_append, List.forall_mem_cons, List.forall_mem_append] using
      ⟨hdefault, ⟨hnumber _ _ _, hnumber _ _ _⟩, hnumber _ _ _⟩
  · simp

theorem access?_optionalShadows : ∀ a ∈ s.optionalShadows node, a.access? = none := by
  rw [optionalShadows]
  split <;> simp [shadowFlags]

theorem access?_visibleAttribute : ∀ a ∈ visibleAttribute node, a.access? = none := by
  rw [visibleAttribute]
  split <;> simp [Expression.access?]

theorem access?_ownShadows : ∀ a ∈ ownShadows node, a.access? = none := by
  rw [ownShadows, List.forall_mem_append]
  constructor <;> split <;> simp

theorem access?_angleAttribute (angle : Option Float) :
    ∀ a ∈ s.angleAttribute angle, a.access? = none := by
  unfold angleAttribute
  split
  · split <;> simp [Expression.access?]
  · simp

theorem access?_upAttribute (up : Option Vec3) : ∀ a ∈ s.upAttribute up, a.access? = none := by
  unfold upAttribute
  split
  · split <;> simp [Expression.access?]
  · simp

theorem access?_lightAttributes : ∀ a ∈ s.lightAttributes node, a.access? = none := by
  have hnumber := s.access?_optionalNumber
  unfold lightAttributes
  split
  · simp
  · simp only [List.forall_mem_append]
    exact ⟨⟨⟨⟨⟨hnumber _ _ _, s.access?_angleAttribute _⟩, hnumber _ _ _⟩, hnumber _ _ _⟩,
      hnumber _ _ _⟩, s.access?_upAttribute _⟩

theorem access?_colorAttribute : ∀ a ∈ colorAttribute node, a.access? = none := by
  unfold colorAttribute
  split
  · split <;> simp
  · simp

theorem access?_userDataAttribute : ∀ a ∈ s.userDataAttribute node, a.access? = none := by
  unfold userDataAttribute
  split
  · split <;> simp [Expression.access?]
  · simp

theorem access?_transformAttributes (p : Placed) :
    ∀ a ∈ s.transformAttributes p, a.access? = none := by
  rw [transformAttributes_eq, List.forall_mem_map]
  exact fun _ _ => rfl

theorem name_mem_accessNames : ∀ a ∈ s.assetAttributes node, a.name ∈ accessNames := by
  have hsub {as : List Attribute} {names : List String} (h : (as.map (·.name)).Sublist names)
      (hnames : names ⊆ accessNames) : ∀ a ∈ as, a.name ∈ accessNames := fun a ha =>
    hnames (h.subset (List.mem_map_of_mem ha))
  have hmaterial : ∀ a ∈ s.materialAttribute node, a.name ∈ accessNames := by
    rw [materialAttribute]
    split <;> simp [Attribute.expression, accessNames]
  simp only [assetAttributes, List.forall_mem_append]
  exact ⟨⟨⟨hsub (names_geometryAttribute node) (by decide), hmaterial⟩,
    hsub (names_skeletonAttribute node) (by decide)⟩,
    hsub (names_morphAttributes node) (by decide)⟩

theorem filter_access?_candidateAttributes (p : Placed) :
    (s.candidateAttributes p).filter (·.access?.isSome) =
      (s.assetAttributes p.node).filter (·.access?.isSome) := by
  have hnil {as : List Attribute} (h : ∀ a ∈ as, a.access? = none) :
      as.filter (·.access?.isSome) = [] :=
    List.filter_eq_nil_iff.mpr fun a ha => by simp [h a ha]
  simp only [candidateAttributes, assetAttributes, List.filter_append,
    hnil (s.access?_nameAttribute p.node), hnil (s.access?_cameraAttributes p.node),
    hnil (s.access?_optionalShadows p.node), hnil (access?_visibleAttribute p.node),
    hnil (access?_ownShadows p.node), hnil (s.access?_lightAttributes p.node),
    hnil (access?_colorAttribute p.node), hnil (s.access?_transformAttributes p),
    hnil (s.access?_userDataAttribute p.node), List.nil_append, List.append_nil]

theorem pairwise_access?_candidateAttributes (p : Placed) : (s.candidateAttributes p).Pairwise
    fun a b => b.access?.isSome → a.name ≠ b.name := by
  have hname : ∀ a ∈ s.candidateAttributes p, a.access?.isSome → a.name ∈ accessNames := by
    intro a ha hs
    have hm : a ∈ (s.candidateAttributes p).filter (·.access?.isSome) :=
      List.mem_filter.mpr ⟨ha, hs⟩
    rw [filter_access?_candidateAttributes] at hm
    exact s.name_mem_accessNames p.node a (List.mem_filter.mp hm).1
  obtain ⟨lead, trail, heq, hlead, htrail⟩ := s.candidateAttributes_eq_append p
  have hsub : ((s.candidateAttributes p).map (·.name)).Sublist
      (leadNames ++ (["material"] ++ trailNames)) := by
    rw [heq, List.map_append, List.map_append]
    refine hlead.append (List.Sublist.append ?_ htrail)
    rw [materialAttribute]
    split <;> simp [Attribute.expression]
  have hfixed : (leadNames ++ (["material"] ++ trailNames)).Pairwise
      fun name name' => name' ∈ accessNames → name ≠ name' := by decide
  exact (List.pairwise_map.mp (hfixed.sublist hsub)).imp_of_mem
    fun _ hb hne hs => hne (hname _ hb hs)

theorem accesses_element_of_not_shares {p : Placed}
    (h : ¬ ∃ g, s.survey.Shares s.scene p.node g) :
    (s.element p).accesses = (s.assetAttributes p.node).filterMap Attribute.access? := by
  rw [element_of_not_shares h, Element.accesses, directAttributes,
    filterMap_distinctBy (s.pairwise_access?_candidateAttributes p),
    ← filterMap_filter_isSome, filter_access?_candidateAttributes, filterMap_filter_isSome]

theorem accesses_element_of_shares {p : Placed} {g : SharedGeometry}
    (h : s.survey.Shares s.scene p.node g) : (s.element p).accesses = [] := by
  rw [element_of_shares h, Element.accesses, List.filterMap_eq_nil_iff]
  simp only [instancedAttributes, List.forall_mem_append]
  exact ⟨⟨⟨s.access?_nameAttribute p.node, access?_visibleAttribute p.node⟩,
    s.access?_transformAttributes p⟩, s.access?_userDataAttribute p.node⟩

def NamesOneMaterial (m : Material) : Prop :=
  m.name ≠ "" ∧ s.survey.registry.materialCount m.name = 1

def ReadsNode : Prop :=
  node.geometry.isSome ∨ (∃ m, s.scene.materialOf? node = some m ∧ ¬ s.NamesOneMaterial m) ∨
    node.skeleton.isSome ∨
      ∃ morph, node.morph = some morph ∧ (morph.dictionary ≠ [] ∨ morph.influences ≠ [])

variable {s node} {a : Access}

@[simp] theorem access?_ofNode (member : String) :
    (ofNode node member).access? = some (.node node.name) := rfl

theorem mem_accesses_geometryAttribute :
    a ∈ (geometryAttribute node).filterMap Attribute.access? ↔
      node.geometry.isSome ∧ a = .node node.name := by
  rw [geometryAttribute]
  cases node.geometry <;> simp

theorem mem_accesses_skeletonAttribute :
    a ∈ (skeletonAttribute node).filterMap Attribute.access? ↔
      node.skeleton.isSome ∧ a = .node node.name := by
  rw [skeletonAttribute]
  cases node.skeleton <;> simp

theorem mem_accesses_morphAttributes :
    a ∈ (morphAttributes node).filterMap Attribute.access? ↔
      (∃ morph, node.morph = some morph ∧ (morph.dictionary ≠ [] ∨ morph.influences ≠ [])) ∧
        a = .node node.name := by
  rw [morphAttributes]
  cases node.morph with
  | none => simp
  | some morph =>
    by_cases hd : morph.dictionary = [] <;> by_cases hi : morph.influences = [] <;> simp [hd, hi]

theorem access?_materialReference (m : Material) :
    (s.materialReference node m).access? = some a ↔
      s.NamesOneMaterial m ∧ a = .material m.name ∨
        ¬ s.NamesOneMaterial m ∧ a = .node node.name := by
  have hone : (!m.name.isEmpty && s.survey.registry.materialCount m.name == 1) = true ↔
      s.NamesOneMaterial m := by
    simp [NamesOneMaterial]
  rw [materialReference, ← hone]
  split
  case isTrue h => simp [h, Expression.access?, @eq_comm _ _ a]
  case isFalse h =>
    rw [access?_ofNode]
    simp [h, @eq_comm _ _ a]

theorem mem_accesses_materialAttribute :
    a ∈ (s.materialAttribute node).filterMap Attribute.access? ↔
      ∃ m, s.scene.materialOf? node = some m ∧
        (s.NamesOneMaterial m ∧ a = .material m.name ∨
          ¬ s.NamesOneMaterial m ∧ a = .node node.name) := by
  rw [materialAttribute]
  cases s.scene.materialOf? node with
  | none => simp
  | some m => simp [access?_materialReference]

theorem mem_accesses_assetAttributes :
    a ∈ (s.assetAttributes node).filterMap Attribute.access? ↔
      (∃ m, s.scene.materialOf? node = some m ∧ s.NamesOneMaterial m ∧ a = .material m.name) ∨
        s.ReadsNode node ∧ a = .node node.name := by
  simp only [assetAttributes, List.filterMap_append, List.mem_append,
    mem_accesses_geometryAttribute, mem_accesses_materialAttribute, mem_accesses_skeletonAttribute,
    mem_accesses_morphAttributes, ReadsNode]
  constructor
  · rintro (((⟨h, rfl⟩ | ⟨m, hm, ⟨hone, rfl⟩ | ⟨hone, rfl⟩⟩) | ⟨h, rfl⟩) | ⟨h, rfl⟩)
    · exact .inr ⟨.inl h, rfl⟩
    · exact .inl ⟨m, hm, hone, rfl⟩
    · exact .inr ⟨.inr (.inl ⟨m, hm, hone⟩), rfl⟩
    · exact .inr ⟨.inr (.inr (.inl h)), rfl⟩
    · exact .inr ⟨.inr (.inr (.inr h)), rfl⟩
  · rintro (⟨m, hm, hone, rfl⟩ | ⟨h | ⟨m, hm, hone⟩ | h | h, rfl⟩)
    · exact .inl (.inl (.inr ⟨m, hm, .inl ⟨hone, rfl⟩⟩))
    · exact .inl (.inl (.inl ⟨h, rfl⟩))
    · exact .inl (.inl (.inr ⟨m, hm, .inr ⟨hone, rfl⟩⟩))
    · exact .inl (.inr ⟨h, rfl⟩)
    · exact .inr ⟨h, rfl⟩

theorem mem_accesses_element {p : Placed} : a ∈ (s.element p).accesses ↔
    (¬ ∃ g, s.survey.Shares s.scene p.node g) ∧
      ((∃ m, s.scene.materialOf? p.node = some m ∧ s.NamesOneMaterial m ∧ a = .material m.name) ∨
        s.ReadsNode p.node ∧ a = .node p.node.name) := by
  by_cases hs : ∃ g, s.survey.Shares s.scene p.node g
  · obtain ⟨g, hg⟩ := hs
    have hany : ∃ g, s.survey.Shares s.scene p.node g := ⟨g, hg⟩
    simp [s.accesses_element_of_shares hg, hany]
  · rw [s.accesses_element_of_not_shares hs, mem_accesses_assetAttributes]
    exact (and_iff_right hs).symm

end Setting

namespace Composition

variable {scene : Scene} {tree : SceneTree} {s : Setting} {e : Element}

theorem mem_accesses_of {a : Access} : a ∈ (of s tree).accesses ↔
    (∃ p ∈ tree.joints, a = .node p.node.name) ∨ ∃ e ∈ (of s tree).written, a ∈ e.accesses := by
  simp [accesses, lives_of, eq_comm]

theorem mem_accesses_of_mem_written (h : Search.Finds scene tree) (he : e ∈ (of s tree).written)
    {a : Access} : a ∈ e.accesses ↔
      (¬ ∃ g, s.survey.Shares s.scene e.origin.node g) ∧
        ((∃ m, s.scene.materialOf? e.origin.node = some m ∧ s.NamesOneMaterial m ∧
            a = .material m.name) ∨
          s.ReadsNode e.origin.node ∧ a = .node e.origin.node.name) := by
  obtain ⟨-, -, -, -, heq⟩ := (mem_written h).mp he
  rw [heq]
  exact Setting.mem_accesses_element

end Composition

namespace Plan

variable {scene : Scene} {options : Options} {saved : Option Json} {tree : SceneTree}

theorem exists_owner_of_mem_instances (h : scene.validate = .ok tree) {r : InstanceRow}
    (hr : r ∈ (Plan.of scene options saved tree).instances) :
    (Survey.of scene options).instancing ∧
      ∃ g ∈ (Survey.of scene options).registry.geometries, ∃ node,
        scene.nodes[g.owner]? = some node ∧ r = ⟨g.name, node.name⟩ := by
  have hi := instances_ne_nil.mp (List.ne_nil_of_mem hr)
  rw [instances_of hi] at hr
  obtain ⟨g, hg, rfl⟩ := List.mem_map.mp hr
  obtain ⟨node, -, hn, -⟩ := Scene.exists_owner h hg
  exact ⟨hi, g, hg, node, hn, by rw [hn]; rfl⟩

theorem mem_accesses_of {a : Access} : a ∈ (Plan.of scene options saved tree).accesses ↔
    ((∃ p ∈ tree.joints, a = .node p.node.name) ∨
      ∃ e ∈ (Plan.of scene options saved tree).composition.written, a ∈ e.accesses) ∨
    (∃ r ∈ (Plan.of scene options saved tree).instances, a = .node r.owner) ∨
    ∃ m ∈ (Plan.of scene options saved tree).controls.materialSync, a = .node m.owner := by
  have hcomposition : a ∈ (Plan.of scene options saved tree).composition.accesses ↔ _ :=
    Composition.mem_accesses_of
  rw [accesses, List.mem_append, List.mem_append, hcomposition, or_assoc]
  simp only [List.mem_map, @eq_comm _ _ a]
  rfl

end Plan

end SceneMarkup
