import SceneMarkup.Proofs.Accesses
import SceneMarkup.Proofs.AttributeNames
import SceneMarkup.Proofs.Bindings
import SceneMarkup.Proofs.Defaults

namespace SceneMarkup

def Options.adding (o : Options) (names shadows metadata : Bool) : Options :=
  { o with
    keepNames := o.keepNames || names
    shadows := o.shadows || shadows
    metadata := o.metadata || metadata }

structure Element.Keeps (e e' : Element) : Prop where
  origin : e'.origin = e.origin
  tag : e'.tag = e.tag
  attributes : e.attributes ⊆ e'.attributes

theorem ite_nil_subset {p q : Prop} [Decidable p] [Decidable q] {as : List α} (h : p → q) :
    (if p then as else []) ⊆ if q then as else [] := by
  intro a ha
  rw [List.mem_ite_nil_right] at ha ⊢
  exact ⟨h ha.1, ha.2⟩

theorem append_subset_append {as as' bs bs' : List α} (h : as ⊆ bs) (h' : as' ⊆ bs') :
    as ++ as' ⊆ bs ++ bs' :=
  List.append_subset.mpr ⟨List.subset_append_of_subset_left _ h,
    List.subset_append_of_subset_right _ h'⟩

namespace Setting

variable (s : Setting) (node : Node) (placed : Placed)

def fixedAttributes (s : Setting) (placed : Placed) : List Attribute :=
  let node := placed.node
  s.cameraAttributes node ++ geometryAttribute node ++ s.materialAttribute node ++
    skeletonAttribute node ++ visibleAttribute node ++ morphAttributes node ++
    s.lightAttributes node ++ colorAttribute node ++ s.transformAttributes placed

def otherAttributes (s : Setting) (placed : Placed) : List Attribute :=
  s.nameAttribute placed.node ++ s.fixedAttributes placed ++ s.userDataAttribute placed.node

def otherNames : List String := [
  "name", "makeDefault", "zoom", "far", "near", "fov", "geometry", "material", "skeleton",
  "visible", "morphTargetDictionary", "morphTargetInfluences", "intensity", "angle", "penumbra",
  "decay", "distance", "up", "color", "position", "rotation", "scale", "userData"]

theorem mem_candidateAttributes {a : Attribute} : a ∈ s.candidateAttributes placed ↔
    (a ∈ s.optionalShadows placed.node ∨ a ∈ ownShadows placed.node) ∨
      a ∈ s.otherAttributes placed := by
  simp only [candidateAttributes, otherAttributes, fixedAttributes, List.mem_append]
  grind

theorem names_otherAttributes :
    ((s.otherAttributes placed).map (·.name)).Sublist otherNames := by
  have hshape := (((s.names_cameraAttributes placed.node).append
    (names_geometryAttribute placed.node)).append (s.names_materialAttribute placed.node)).append
    (names_skeletonAttribute placed.node)
  have hlook := (((names_visibleAttribute placed.node).append
    (names_morphAttributes placed.node)).append (s.names_lightAttributes placed.node)).append
    (names_colorAttribute placed.node)
  have hfixed := (hshape.append hlook).append (s.names_transformAttributes placed)
  have hall := ((s.names_nameAttribute placed.node).append hfixed).append
    (s.names_userDataAttribute placed.node)
  simp only [otherAttributes, fixedAttributes, List.map_append, List.append_assoc] at hall ⊢
  exact hall

theorem mem_shadowFlags {a : Attribute}
    (h : a ∈ s.optionalShadows node ∨ a ∈ ownShadows node) : a ∈ shadowFlags := by
  rcases h with h | h
  · rw [optionalShadows] at h
    split at h
    · exact h
    · contradiction
  · simp only [ownShadows, List.mem_append, List.mem_ite_nil_right, List.mem_singleton] at h
    simp only [shadowFlags, List.mem_cons, List.not_mem_nil, or_false]
    exact h.imp And.right And.right

theorem eq_of_name_eq {a b : Attribute} (ha : a ∈ s.candidateAttributes placed)
    (hb : b ∈ s.candidateAttributes placed) (hname : a.name = b.name) : a = b := by
  have hflags : (shadowFlags.map (·.name)).Nodup ∧ ∀ n ∈ shadowFlags.map (·.name),
      n ∉ otherNames := by decide
  have hnames := s.names_otherAttributes placed
  have hapart : ∀ x ∈ shadowFlags, ∀ y ∈ s.otherAttributes placed, x.name ≠ y.name := by
    intro x hx y hy he
    exact hflags.2 x.name (List.mem_map_of_mem hx) (he ▸ hnames.subset (List.mem_map_of_mem hy))
  rw [mem_candidateAttributes] at ha hb
  rcases ha with ha | ha <;> rcases hb with hb | hb
  · exact List.inj_on_of_nodup_map hflags.1 (s.mem_shadowFlags _ ha) (s.mem_shadowFlags _ hb) hname
  · exact absurd hname (hapart a (s.mem_shadowFlags _ ha) b hb)
  · exact absurd hname.symm (hapart b (s.mem_shadowFlags _ hb) a ha)
  · exact List.inj_on_of_nodup_map (hnames.nodup (by decide)) ha hb hname

theorem mem_directAttributes {a : Attribute} :
    a ∈ s.directAttributes placed ↔ a ∈ s.candidateAttributes placed := by
  constructor
  · exact fun ha => (distinctBy_sublist _).subset ha
  · exact fun ha => (mem_distinctBy fun b hb hname => s.eq_of_name_eq placed hb ha hname).mpr ha

theorem nodup_names_attributes : ((s.attributes placed).map (·.name)).Nodup := by
  rw [attributes]
  split
  · exact (s.names_instancedAttributes placed).nodup (by decide)
  · exact nodup_map_distinctBy _

section

variable (names shadows metadata : Bool)

def adding (s : Setting) (names shadows metadata : Bool) : Setting :=
  { s with options := s.options.adding names shadows metadata }

theorem adding_of (scene : Scene) (options : Options) :
    Setting.of scene (options.adding names shadows metadata) =
      (Setting.of scene options).adding names shadows metadata := rfl

theorem nameAttribute_subset :
    s.nameAttribute node ⊆ (s.adding names shadows metadata).nameAttribute node := by
  apply ite_nil_subset
  simp only [keepsName, adding, Options.adding, Bool.or_eq_true]
  tauto

theorem optionalShadows_subset :
    s.optionalShadows node ⊆ (s.adding names shadows metadata).optionalShadows node := by
  apply ite_nil_subset
  simp only [adding, Options.adding, Bool.and_eq_true, Bool.or_eq_true]
  tauto

theorem userDataAttribute_subset :
    s.userDataAttribute node ⊆ (s.adding names shadows metadata).userDataAttribute node := by
  rw [userDataAttribute, userDataAttribute]
  split
  case h_1 data =>
    apply ite_nil_subset
    simp only [adding, Options.adding, Bool.and_eq_true, Bool.or_eq_true]
    tauto
  case h_2 => exact List.nil_subset _

theorem otherAttributes_subset : s.otherAttributes placed ⊆
    (s.adding names shadows metadata).otherAttributes placed :=
  append_subset_append
    (append_subset_append (s.nameAttribute_subset _ _ _ _) (List.Subset.refl _))
    (s.userDataAttribute_subset _ _ _ _)

theorem directAttributes_subset : s.directAttributes placed ⊆
    (s.adding names shadows metadata).directAttributes placed := by
  intro a ha
  rw [mem_directAttributes, mem_candidateAttributes] at ha ⊢
  exact ha.imp (Or.imp_left fun h => s.optionalShadows_subset _ _ _ _ h)
    fun h => s.otherAttributes_subset _ _ _ _ h

theorem instancedAttributes_subset : s.instancedAttributes placed ⊆
    (s.adding names shadows metadata).instancedAttributes placed := by
  apply append_subset_append
  · apply append_subset_append
    · exact append_subset_append (s.nameAttribute_subset _ _ _ _) (List.Subset.refl _)
    · exact List.Subset.refl _
  · exact s.userDataAttribute_subset _ _ _ _

theorem attributes_subset :
    s.attributes placed ⊆ (s.adding names shadows metadata).attributes placed := by
  have hshared : (s.adding names shadows metadata).shared? placed.node = s.shared? placed.node :=
    rfl
  rw [attributes, attributes, hshared]
  split
  · exact s.instancedAttributes_subset placed names shadows metadata
  · exact s.directAttributes_subset placed names shadows metadata

theorem elides_of_elides_adding (h : (s.adding names shadows metadata).elides placed) :
    s.elides placed := by
  have hnil : (s.adding names shadows metadata).attributes placed = [] →
      s.attributes placed = [] := fun h =>
    List.eq_nil_of_subset_nil (h ▸ s.attributes_subset placed names shadows metadata)
  rw [elides_iff] at h ⊢
  exact ⟨h.groups, h.unshared, h.group, h.bare.imp_left hnil⟩

theorem attributes_ne_nil (h : s.boundFields placed ≠ []) : s.attributes placed ≠ [] := by
  intro hnil
  rw [← filterMap_binding?_attributes, hnil] at h
  contradiction

theorem elides_adding_of_boundFields (h : s.boundFields placed ≠ []) :
    (s.adding names shadows metadata).elides placed = s.elides placed := by
  have hattributes : (s.attributes placed).isEmpty = false := by
    rw [List.isEmpty_eq_false_iff]
    exact s.attributes_ne_nil placed h
  have hadded : ((s.adding names shadows metadata).attributes placed).isEmpty = false := by
    rw [List.isEmpty_eq_false_iff]
    exact (s.adding names shadows metadata).attributes_ne_nil placed h
  rw [elides, elides, hattributes, hadded]
  rfl

variable {scene : Scene} {tree : SceneTree} {options : Options}

theorem boundFields_ne_nil (h : Search.Finds scene tree) {p : Placed} {key : String}
    (hp : (p, key) ∈ (of scene options).survey.transformKeys) :
    (of scene options).boundFields p ≠ [] := by
  have hpre := tree.exposed_sublist.subset (exposed_of_mem_transformKeys h hp)
  have hkey := (transformKey?_eq_some h hpre).mpr hp
  have hentries := (of scene options).transformEntries_ne_nil
    (delta_any_of_mem_transformKeys hp)
  rw [boundFields, hkey]
  simpa using hentries

end

end Setting

namespace Composition

variable (s : Setting) (tree : SceneTree) (names shadows metadata : Bool)

theorem written_adding : List.SublistForall₂ Element.Keeps (of s tree).written
    (of (s.adding names shadows metadata) tree).written := by
  have hkeeps : ∀ p, (s.element p).Keeps ((s.adding names shadows metadata).element p) := fun p =>
    ⟨rfl, rfl, s.attributes_subset p names shadows metadata⟩
  have hsub := List.monotone_filter_right (tree.outermost.flatMap SceneTree.exposed)
    fun p (hp : !s.elides p) => show !(s.adding names shadows metadata).elides p by
      simp only [Bool.not_eq_true', Bool.eq_false_iff, ne_eq] at hp ⊢
      exact fun he => hp (s.elides_of_elides_adding p names shadows metadata he)
  rw [written_of, written_of, List.sublistForall₂_iff]
  refine ⟨_, ?_, hsub.map _⟩
  rw [List.forall₂_map_left_iff, List.forall₂_map_right_iff, List.forall₂_same]
  exact fun p _ => hkeeps p

theorem removed_adding : (of (s.adding names shadows metadata) tree).removed ⊆
    (of s tree).removed := by
  intro id hid
  rw [mem_removed] at hid ⊢
  obtain ⟨p, hp, he, rfl⟩ := hid
  exact ⟨p, hp, s.elides_of_elides_adding p names shadows metadata he, rfl⟩

theorem nodup_names_of_mem_written {e : Element} (he : e ∈ (of s tree).written) :
    (e.attributes.map (·.name)).Nodup := by
  rw [written_of, List.mem_map] at he
  obtain ⟨p, -, rfl⟩ := he
  exact s.nodup_names_attributes p

theorem isRemoved_adding {scene : Scene} {tree : SceneTree} (h : Search.Finds scene tree)
    (options : Options) {p : Placed} {key : String}
    (hp : (p, key) ∈ (Setting.of scene options).survey.transformKeys) :
    (of ((Setting.of scene options).adding names shadows metadata) tree).isRemoved p.id =
      (of (.of scene options) tree).isRemoved p.id := by
  have houter := outermost_of_mem_transformKeys h hp
  have helides := (Setting.of scene options).elides_adding_of_boundFields p names shadows metadata
    (Setting.boundFields_ne_nil h hp)
  rw [Bool.eq_iff_iff, isRemoved, isRemoved, List.contains_iff_mem, List.contains_iff_mem,
    mem_removed_iff_elides h houter, mem_removed_iff_elides h houter, helides]

end Composition

theorem Setting.transformDefaults_adding {scene : Scene} {tree : SceneTree}
    (h : Search.Finds scene tree) (options : Options) (names shadows metadata : Bool) :
    ((of scene options).adding names shadows metadata).transformDefaults
        (.of ((of scene options).adding names shadows metadata) tree) =
      (of scene options).transformDefaults (.of (of scene options) tree) := by
  have hkept : ∀ e ∈ (of scene options).survey.transformKeys,
      (!(Composition.of ((of scene options).adding names shadows metadata) tree).isRemoved e.1.id) =
        !(Composition.of (of scene options) tree).isRemoved e.1.id := by
    intro e he
    rw [Composition.isRemoved_adding names shadows metadata h options he]
  rw [transformDefaults, transformDefaults]
  exact congrArg (fun kept => ContextValue.group (kept.map fun e =>
    (e.2, .group ((of scene options).transformEntries e.1.node)))) (List.filter_congr hkept)

structure Plan.Extends (p p' : Plan) : Prop where
  survey : p'.survey = p.survey
  written : List.SublistForall₂ Element.Keeps p.composition.written p'.composition.written
  lives : p'.composition.content.flatMap Markup.lives = p.composition.content.flatMap Markup.lives
  removed : p'.composition.removed ⊆ p.composition.removed
  controls : p'.controls = p.controls

theorem Plan.of_adding {scene : Scene} {tree : SceneTree} (h : Search.Finds scene tree)
    (options : Options) (saved : Option Json) (names shadows metadata : Bool) :
    (Plan.of scene options saved tree).Extends
      (.of scene (options.adding names shadows metadata) saved tree) where
  survey := rfl
  written := Composition.written_adding (.of scene options) tree names shadows metadata
  lives := by
    rw [Plan.of, Plan.of, Composition.lives_of, Composition.lives_of]
  removed := Composition.removed_adding (.of scene options) tree names shadows metadata
  controls := by
    have hdefaults := Setting.transformDefaults_adding h options names shadows metadata
    simp only [Plan.of, Setting.adding_of, Setting.controls, Setting.exactDefaults, hdefaults]
    rfl

/-- With more attributes asked for, a good scene has the same walk and the same controls, and its
elements are there as before, each with the attributes that it had. -/
theorem plan_adding {scene : Scene} {options : Options} {saved : Option Json} {p : Plan}
    (h : plan scene options saved = .ok p) (names shadows metadata : Bool) :
    ∃ p', plan scene (options.adding names shadows metadata) saved = .ok p' ∧ p.Extends p' ∧
      ∀ e ∈ p.composition.written ++ p'.composition.written,
        (e.attributes.map (·.name)).Nodup := by
  obtain ⟨tree, htree, rfl⟩ := plan_eq_ok.mp h
  have hf := Scene.tree_finds (Scene.validate_eq_ok.mp htree).1
  refine ⟨_, plan_eq_ok.mpr ⟨tree, htree, rfl⟩, Plan.of_adding hf options saved _ _ _, ?_⟩
  intro e he
  rw [List.mem_append] at he
  rcases he with he | he
  · exact Composition.nodup_names_of_mem_written _ _ he
  · exact Composition.nodup_names_of_mem_written _ _ he

theorem sample_plan_adding : ∃ p p', plan Scene.sample { shadows := true } none = .ok p ∧
    plan Scene.sample { shadows := true, keepNames := true, metadata := true } none = .ok p' ∧
    p.Extends p' ∧
    ∀ e ∈ p.composition.written ++ p'.composition.written, (e.attributes.map (·.name)).Nodup := by
  obtain ⟨tree, htree⟩ := Scene.sample_validate
  have hplan : plan Scene.sample { shadows := true } none =
      .ok (.of Scene.sample { shadows := true } none tree) := plan_eq_ok.mpr ⟨tree, htree, rfl⟩
  obtain ⟨p', hp', hextends, hnodup⟩ := plan_adding hplan true false true
  exact ⟨_, p', hplan, hp', hextends, hnodup⟩

end SceneMarkup
