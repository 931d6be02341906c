import SceneMarkup.Proofs.Instances

namespace SceneMarkup

namespace Attribute

def material? (a : Attribute) : Option AttributeValue :=
  if a.name = "material" then some a.value else none

theorem material?_eq_none {a : Attribute} (h : a.name ≠ "material") : a.material? = none := if_neg h

end Attribute

namespace Element

def materialValues (e : Element) : List AttributeValue := e.attributes.filterMap Attribute.material?

def BindsMaterial (e : Element) (name : String) : Prop :=
  .expression (.reference .materials [name]) ∈ e.materialValues

def BindsOwnMaterial (e : Element) : Prop :=
  e.materialValues = [.expression (.reference .nodes [e.origin.node.name, "material"])]

end Element

namespace Setting

variable (s : Setting)

theorem filterMap_material?_directAttributes (placed : Placed) :
    (s.directAttributes placed).filterMap Attribute.material? =
      (s.materialAttribute placed.node).map (·.value) := by
  have hne : ∀ {names : List String} {as : List Attribute}, "material" ∉ names →
      (as.map (·.name)).Sublist names → ∀ a ∈ as, a.name ≠ "material" :=
    fun hnames hsub a ha he => hnames (he ▸ hsub.subset (List.mem_map_of_mem ha))
  have hnone : ∀ {as : List Attribute}, (∀ a ∈ as, a.name ≠ "material") →
      as.filterMap Attribute.material? = [] := fun h =>
    List.filterMap_eq_nil_iff.mpr fun a ha => Attribute.material?_eq_none (h a ha)
  have hlater : ∀ {a b : Attribute}, b.name ≠ "material" → b.material?.isSome → a.name ≠ b.name :=
    fun h hs => absurd hs (by simp [Attribute.material?_eq_none h])
  obtain ⟨lead, trail, heq, hlead, htrail⟩ := s.candidateAttributes_eq_append placed
  have hlead := hne (by decide) hlead
  have htrail := hne (by decide) htrail
  have hpair : (s.candidateAttributes placed).Pairwise
      fun a b => b.material?.isSome → a.name ≠ b.name := by
    rw [heq, List.pairwise_append, List.pairwise_append]
    refine ⟨List.pairwise_of_forall_mem_list fun a _ b hb => hlater (hlead b hb), ⟨?_,
      List.pairwise_of_forall_mem_list fun a _ b hb => hlater (htrail b hb),
      fun a _ b hb => hlater (htrail b hb)⟩, fun a ha b _ hs he => ?_⟩
    · rw [materialAttribute]
      split <;> simp
    · have hb : b.name ≠ "material" := he ▸ hlead a ha
      exact hlater (a := a) hb hs he
  rw [directAttributes, filterMap_distinctBy hpair, heq, List.filterMap_append,
    List.filterMap_append, hnone hlead, hnone htrail, List.nil_append, List.append_nil,
    materialAttribute]
  split <;> rfl

theorem materialValues_of_shares {p : Placed} {g : SharedGeometry}
    (h : s.survey.Shares s.scene p.node g) : (s.element p).materialValues = [] := by
  have hnames : "material" ∉ instanceNames := by decide
  rw [element_of_shares h, Element.materialValues, List.filterMap_eq_nil_iff]
  refine fun a ha => Attribute.material?_eq_none fun he => hnames ?_
  exact he ▸ (s.names_instancedAttributes p).subset (List.mem_map_of_mem ha)

theorem materialValues_of_not_shares {p : Placed} (h : ¬ ∃ g, s.survey.Shares s.scene p.node g) :
    (s.element p).materialValues = (s.materialAttribute p.node).map (·.value) := by
  rw [element_of_not_shares h, Element.materialValues, filterMap_material?_directAttributes]

end Setting

namespace Composition

variable {scene : Scene} {tree : SceneTree} {options : Options} {e : Element}

theorem materialValues_of_mem_written (h : Search.Finds scene tree)
    (he : e ∈ (of (.of scene options) tree).written)
    (hs : ¬ ∃ g, (Survey.of scene options).Shares scene e.origin.node g) {m : Material}
    (hm : scene.materialOf? e.origin.node = some m) : e.materialValues = [.expression
      (if m.name ≠ "" ∧ (scene.carriers m.name).card = 1 then .reference .materials [m.name]
        else .reference .nodes [e.origin.node.name, "material"])] := by
  obtain ⟨-, -, -, -, heq⟩ := (mem_written h).mp he
  have hvalues := Setting.materialValues_of_not_shares (.of scene options) (p := e.origin) hs
  have hattribute : (Setting.of scene options).materialAttribute e.origin.node =
      [.expression "material" ((Setting.of scene options).materialReference e.origin.node m)] := by
    rw [Setting.materialAttribute, show (Setting.of scene options).scene = scene from rfl, hm]
  have hcount : (Setting.of scene options).survey.registry.materialCount m.name =
      (scene.carriers m.name).card := h.materialCount_survey options m.name
  rw [← heq, hattribute] at hvalues
  simp only [hvalues, List.map_cons, List.map_nil, Attribute.expression, Setting.materialReference,
    hcount, Setting.ofNode, Bool.and_eq_true, Bool.not_eq_true', String.isEmpty_eq_false_iff,
    beq_iff_eq]

theorem bindsMaterial_iff (h : Search.Finds scene tree)
    (he : e ∈ (of (.of scene options) tree).written) {name : String} :
    e.BindsMaterial name ↔
      (¬ ∃ g, (Survey.of scene options).Shares scene e.origin.node g) ∧
        (∃ m, scene.materialOf? e.origin.node = some m ∧ m.name = name) ∧
          name ≠ "" ∧ (scene.carriers name).card = 1 := by
  have heq := ((mem_written h).mp he).2.2.2.2
  rw [Element.BindsMaterial]
  constructor
  · intro hb
    by_cases hs : ∃ g, (Survey.of scene options).Shares scene e.origin.node g
    · obtain ⟨g, hg⟩ := hs
      have hnil := Setting.materialValues_of_shares (s := .of scene options) hg
      rw [← heq] at hnil
      simp [hnil] at hb
    cases hm : scene.materialOf? e.origin.node with
    | none =>
      have hnil := Setting.materialValues_of_not_shares (.of scene options) (p := e.origin) hs
      rw [← heq, Setting.materialAttribute,
        show (Setting.of scene options).scene = scene from rfl, hm] at hnil
      simp [hnil] at hb
    | some m =>
      rw [materialValues_of_mem_written h he hs hm, List.mem_singleton] at hb
      split at hb
      next hname =>
        cases hb
        exact ⟨hs, ⟨m, rfl, rfl⟩, hname⟩
      next => cases hb
  · rintro ⟨hs, ⟨m, hm, rfl⟩, hname⟩
    rw [materialValues_of_mem_written h he hs hm, if_pos hname, List.mem_singleton]

theorem bindsOwnMaterial (h : Search.Finds scene tree)
    (he : e ∈ (of (.of scene options) tree).written)
    (hs : ¬ ∃ g, (Survey.of scene options).Shares scene e.origin.node g) {m : Material}
    (hm : scene.materialOf? e.origin.node = some m) (hb : ¬ e.BindsMaterial m.name) :
    e.BindsOwnMaterial := by
  rw [Element.BindsOwnMaterial, materialValues_of_mem_written h he hs hm, if_neg]
  exact fun hname => hb ((bindsMaterial_iff h he).mpr ⟨hs, ⟨m, hm, rfl⟩, hname⟩)

theorem mem_carriers (h : Search.Finds scene tree) (he : e ∈ (of (.of scene options) tree).written)
    (hmesh : e.origin.node.isMesh) {m : Material}
    (hm : scene.materialOf? e.origin.node = some m) : e.origin.id ∈ scene.carriers m.name := by
  rw [Scene.mem_carriers]
  exact ⟨reachable_of_mem_written h he, _, m, ((mem_written h).mp he).1, hmesh, hm, rfl⟩

theorem eq_of_mem_carriers (h : Search.Finds scene tree)
    (he : e ∈ (of (.of scene options) tree).written) (hmesh : e.origin.node.isMesh) {name : String}
    (hb : e.BindsMaterial name) {id : NodeId} (hid : id ∈ scene.carriers name) :
    id = e.origin.id := by
  obtain ⟨-, ⟨m, hm, rfl⟩, -, hcard⟩ := (bindsMaterial_iff h he).mp hb
  exact Finset.card_le_one.mp hcard.le _ hid _ (mem_carriers h he hmesh hm)

end Composition

/-- Materials of meshes are bound without ambiguity: two meshes that are bound to one name are the
same, and a mesh is bound through its own node if another one carries a material of the same name. A
node of any type is bound by the name of its material if that is not empty and just one mesh carries
it; what the nodes that are no meshes carry is of no account. -/
theorem material_bindings_of_validate {scene : Scene} {tree : SceneTree}
    (h : scene.validate = .ok tree) (options : Options) :
    let written := (Composition.of (.of scene options) tree).written
    let shares := fun node => ∃ g, (Survey.of scene options).Shares scene node g
    (∀ e ∈ written, ∀ e' ∈ written, e.origin.node.isMesh → e'.origin.node.isMesh →
      ∀ name, e.BindsMaterial name → e'.BindsMaterial name →
        e.origin.id = e'.origin.id ∧ e.origin.node.material = e'.origin.node.material) ∧
    (∀ e ∈ written, ¬ shares e.origin.node → e.origin.node.isMesh →
      ∀ m, scene.materialOf? e.origin.node = some m →
        (∃ other ∈ scene.carriers m.name, other ≠ e.origin.id) → e.BindsOwnMaterial) ∧
    (∀ e ∈ written, ∀ name, e.BindsMaterial name ↔ ¬ shares e.origin.node ∧
      (∃ m, scene.materialOf? e.origin.node = some m ∧ m.name = name) ∧
        name ≠ "" ∧ (scene.carriers name).card = 1) ∧
    ∀ e ∈ written, ¬ shares e.origin.node → ∀ m, scene.materialOf? e.origin.node = some m →
      ¬ e.BindsMaterial m.name → e.BindsOwnMaterial := by
  have hf := Scene.tree_finds (Scene.validate_eq_ok.mp h).1
  refine ⟨fun e he e' he' hmesh hmesh' name hb hb' => ?_,
    fun e he hs hmesh m hm ⟨other, hother, hne⟩ => ?_,
    fun e he name => Composition.bindsMaterial_iff hf he,
    fun e he hs m hm => Composition.bindsOwnMaterial hf he hs hm⟩
  · obtain ⟨-, ⟨m, hm, rfl⟩, -⟩ := (Composition.bindsMaterial_iff hf he).mp hb
    have hid := Composition.eq_of_mem_carriers hf he' hmesh' hb'
      (Composition.mem_carriers hf he hmesh hm)
    have hn := ((Composition.mem_written hf).mp he').1
    rw [Composition.eq_of_mem_written hf he hn hid]
    exact ⟨rfl, rfl⟩
  · exact Composition.bindsOwnMaterial hf he hs hm fun hb =>
      hne (Composition.eq_of_mem_carriers hf he hmesh hb hother)

def Scene.namesakes : Scene where
  nodes := #[
    { type := "Scene", children := [1, 2] },
    { type := "Mesh", name := "Cube", geometry := some 0, material := some 0 },
    { type := "Points", name := "Dots", material := some 1 }]
  materials := #[{ name := "Steel" }, { name := "Steel" }]
  geometries := #[{ key := "cube" }]

theorem Scene.namesakes_validate : ∃ tree, Scene.namesakes.validate = .ok tree :=
  exists_tree_of_isOk (by decide +kernel)

theorem Scene.carriers_namesakes : namesakes.carriers "Steel" = {1} := by
  ext id
  rw [mem_carriers, Finset.mem_singleton]
  constructor
  · rintro ⟨-, node, m, hn, hmesh, -⟩
    match id, hn with
    | 0, hn | 2, hn =>
      cases hn
      exact absurd hmesh (by decide)
    | 1, _ => rfl
    | n + 3, hn => simp [namesakes] at hn
  · rintro rfl
    have hroot : namesakes.Reaches 0 := .root
    exact ⟨mem_reachable.mpr ⟨by decide, hroot.child (by decide +kernel)⟩,
      _, _, rfl, by decide, rfl, rfl⟩

theorem Scene.visited_namesakes {id : NodeId} (h : id ∈ [1, 2]) : namesakes.Visited id :=
  .outermost (by
    simpa [namesakes, outermost, rootNode?, Node.nodeClass, NodeClass.ofType] using h)

/-- The cloud is bound to the name of its material, which one mesh alone carries: that of another
material. -/
theorem namesakes_bind_alike : ∃ tree, Scene.namesakes.validate = .ok tree ∧
    ∃ e ∈ (Composition.of (.of Scene.namesakes {}) tree).written,
      ∃ e' ∈ (Composition.of (.of Scene.namesakes {}) tree).written,
        e.BindsMaterial "Steel" ∧ e'.BindsMaterial "Steel" ∧
          e.origin.node.material ≠ e'.origin.node.material := by
  obtain ⟨tree, h⟩ := Scene.namesakes_validate
  have hf := Scene.tree_finds (Scene.validate_eq_ok.mp h).1
  have hbinds : ∀ p : Placed, Scene.namesakes.nodes[p.id]? = some p.node → p.id ∈ [1, 2] →
      ¬ p.node.isBone → elementTag p.node.type ≠ groupTag →
      (∃ m, Scene.namesakes.materialOf? p.node = some m ∧ m.name = "Steel") →
      ∃ e ∈ (Composition.of (.of Scene.namesakes {}) tree).written, e.origin = p ∧
        e.BindsMaterial "Steel" := by
    intro p hn hid hb hgroup hm
    have he := (Composition.mem_written (s := .of Scene.namesakes {})
      (e := (Setting.of Scene.namesakes {}).element p) hf).mpr
        ⟨hn, Scene.visited_namesakes hid, hb, fun hg => hgroup hg.group, rfl⟩
    refine ⟨_, he, rfl, (Composition.bindsMaterial_iff hf he).mpr ⟨?_, hm, by decide, ?_⟩⟩
    · rintro ⟨g, hg⟩
      exact absurd hg.instancing Bool.false_ne_true
    · rw [Scene.carriers_namesakes, Finset.card_singleton]
  obtain ⟨e, he, horigin, hname⟩ := hbinds
    ⟨1, { type := "Mesh", name := "Cube", geometry := some 0, material := some 0 }⟩ rfl (by decide)
    (by decide) (by decide) ⟨_, rfl, rfl⟩
  obtain ⟨e', he', horigin', hname'⟩ := hbinds
    ⟨2, { type := "Points", name := "Dots", material := some 1 }⟩ rfl (by decide)
    (by decide) (by decide) ⟨_, rfl, rfl⟩
  refine ⟨tree, h, e, he, e', he', hname, hname', ?_⟩
  rw [horigin, horigin']
  decide

theorem namesakes_material_bindings : ∃ tree, Scene.namesakes.validate = .ok tree ∧
    ∀ e ∈ (Composition.of (.of Scene.namesakes {}) tree).written,
      ∀ e' ∈ (Composition.of (.of Scene.namesakes {}) tree).written,
        e.origin.node.isMesh → e'.origin.node.isMesh → e.BindsMaterial "Steel" →
          e'.BindsMaterial "Steel" → e.origin.id = e'.origin.id := by
  obtain ⟨tree, h⟩ := Scene.namesakes_validate
  obtain ⟨hmeshes, -⟩ := material_bindings_of_validate h {}
  exact ⟨tree, h, fun e he e' he' hmesh hmesh' hb hb' =>
    (hmeshes e he e' he' hmesh hmesh' "Steel" hb hb').1⟩

end SceneMarkup
