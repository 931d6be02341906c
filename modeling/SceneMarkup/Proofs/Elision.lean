import SceneMarkup.Proofs.Attributes
import SceneMarkup.Proofs.Layout

/-!
What the markup of a good scene is. Every node that the writing comes to stands for itself, for its
children, or, if it is a bone, for a live object; the text is laid out by depth.
-/

namespace SceneMarkup

namespace Scene

def outermost (scene : Scene) : List NodeId :=
  match scene.rootNode? with
  | some node => if node.nodeClass = .container then node.children else [scene.root]
  | none => []

/-- What the writing comes to: it stops at bones. -/
inductive Visited (scene : Scene) : NodeId → Prop
  | outermost {id} : id ∈ scene.outermost → Visited scene id
  | child {id node child} : Visited scene id → scene.nodes[id]? = some node → ¬ node.isBone →
    child ∈ node.children → Visited scene child

end Scene

namespace Setting

/-- A group that would be written without attributes or without children, and need not be kept. -/
structure GivesWay (s : Setting) (p : Placed) : Prop where
  groups : s.options.keepGroups = false
  unshared : s.shared? p.node = none
  group : elementTag p.node.type = groupTag
  bare : s.attributes p = [] ∨ p.node.children = []

inductive Forest (s : Setting) : List NodeId → List Markup → Prop
  | nil : Forest s [] []
  | bone {id node rest after} : s.scene.nodes[id]? = some node → node.isBone →
    Forest s rest after → Forest s (id :: rest) (.live node.name :: after)
  | elided {id node rest below after} : s.scene.nodes[id]? = some node → ¬ node.isBone →
    s.GivesWay ⟨id, node⟩ → Forest s node.children below → Forest s rest after →
    Forest s (id :: rest) (below ++ after)
  | element {id node rest below after} : s.scene.nodes[id]? = some node → ¬ node.isBone →
    ¬ s.GivesWay ⟨id, node⟩ → Forest s node.children below → Forest s rest after →
    Forest s (id :: rest)
      (.element ⟨id, node⟩ (s.tag node) (s.attributes ⟨id, node⟩) below :: after)

variable {s : Setting}

theorem reference_ne_groupTag (name : String) : Scope.instances.reference [name] ≠ groupTag := by
  intro h
  have hhead := congrArg (fun t => t.toList.head?) h
  simp [Scope.reference, Scope.text, Naming.accessPath, Naming.propertyAccess, groupTag] at hhead

theorem elides_iff {p : Placed} : s.elides p ↔ s.GivesWay p := by
  have htag : s.tag p.node = groupTag ↔
      s.shared? p.node = none ∧ elementTag p.node.type = groupTag := by
    rw [tag]
    cases s.shared? p.node with
    | none => simp
    | some g => simp [reference_ne_groupTag]
  simp only [elides, Bool.and_eq_true, Bool.or_eq_true, Bool.not_eq_true', beq_iff_eq, htag,
    List.isEmpty_iff]
  constructor
  · rintro ⟨⟨hgroups, hshared, hgroup⟩, hbare⟩
    exact ⟨hgroups, hshared, hgroup, hbare⟩
  · rintro ⟨hgroups, hshared, hgroup, hbare⟩
    exact ⟨⟨hgroups, hshared, hgroup⟩, hbare⟩

namespace Forest

theorem append {ids ids' : List NodeId} {ms ms' : List Markup} (h : s.Forest ids ms)
    (h' : s.Forest ids' ms') : s.Forest (ids ++ ids') (ms ++ ms') := by
  induction h with
  | nil => exact h'
  | bone hn hb _ ih => exact .bone hn hb ih
  | elided hn hb hg hc _ _ ih =>
    rw [List.append_assoc]
    exact .elided hn hb hg hc ih
  | element hn hb hg hc _ _ ih => exact .element hn hb hg hc ih

theorem unique {ids : List NodeId} {ms ms' : List Markup} (h : s.Forest ids ms)
    (h' : s.Forest ids ms') : ms = ms' := by
  -- Both derivations find the same node, which decides how it is written.
  induction h generalizing ms' with
  | nil =>
    cases h'
    rfl
  | bone hn hb _ ih =>
    cases h' with
    | bone hn' _ hr =>
      cases hn.symm.trans hn'
      rw [ih hr]
    | elided hn' hb' | element hn' hb' =>
      cases hn.symm.trans hn'
      contradiction
  | elided hn hb hg hc _ ihc ihr =>
    cases h' with
    | elided hn' _ _ hc' hr' =>
      cases hn.symm.trans hn'
      rw [ihc hc', ihr hr']
    | bone hn' hb' =>
      cases hn.symm.trans hn'
      contradiction
    | element hn' _ hg' =>
      cases hn.symm.trans hn'
      contradiction
  | element hn hb hg hc _ ihc ihr =>
    cases h' with
    | element hn' _ _ hc' hr' =>
      cases hn.symm.trans hn'
      rw [ihc hc', ihr hr']
    | bone hn' hb' =>
      cases hn.symm.trans hn'
      contradiction
    | elided hn' _ hg' =>
      cases hn.symm.trans hn'
      contradiction

theorem of_trees {ts : List SceneTree} (h : ∀ t ∈ ts, s.Forest [t.id] (s.markup t)) :
    s.Forest (ts.map SceneTree.id) (ts.flatMap s.markup) := by
  induction ts with
  | nil => exact .nil
  | cons t rest ih =>
    obtain ⟨ht, hrest⟩ := List.forall_mem_cons.mp h
    exact ht.append (ih hrest)

theorem of_unfolds {t : SceneTree} (h : t.Unfolds s.scene) : s.Forest [t.id] (s.markup t) := by
  induction t with
  | branch p ts ih =>
    cases h with
    | branch hn hc ht =>
      have hbelow := of_trees fun t hm => ih t hm (ht t hm)
      rw [hc] at hbelow
      rw [markup_branch]
      split
      next hb => exact .bone hn hb .nil
      next hb =>
        split
        next he => simpa using Forest.elided hn hb (elides_iff.mp he) hbelow .nil
        next he => exact .element hn hb (fun hg => he (elides_iff.mpr hg)) hbelow .nil

end Forest

end Setting

namespace SceneTree

variable {scene : Scene} {t : SceneTree}

theorem Unfolds.nodes_id (h : t.Unfolds scene) : scene.nodes[t.id]? = some t.node := by
  cases h with
  | branch hn _ _ => exact hn

theorem Unfolds.outermost (h : t.Unfolds scene) : ∀ t' ∈ t.outermost, t'.Unfolds scene := by
  rw [SceneTree.outermost]
  split
  · cases h with
    | branch _ _ ht => exact ht
  · simpa using h

theorem rootNode?_eq (h : Search.Finds scene t) : scene.rootNode? = some t.node := by
  rw [Scene.rootNode?, ← h.root]
  exact h.unfolds.nodes_id

theorem map_id_outermost (h : Search.Finds scene t) :
    t.outermost.map SceneTree.id = scene.outermost := by
  rw [outermost, Scene.outermost, rootNode?_eq h]
  by_cases hc : t.node.nodeClass = .container
  · cases h.unfolds with
    | branch _ hcs _ =>
      simp only [hc, beq_self_eq_true, if_true]
      exact hcs
  · simp [hc, h.root]

theorem mem_exposed_self (h : ¬ t.node.isBone) : t.placed ∈ t.exposed := by
  cases t with
  | branch p ts =>
    have hp : ¬ p.node.isBone := h
    simp [hp, placed]

theorem not_isBone_of_mem_exposed {p : Placed} (hp : p ∈ t.exposed) : ¬ p.node.isBone := by
  induction t with
  | branch q ts ih =>
    rw [exposed_branch] at hp
    split at hp
    · contradiction
    · next hb =>
      rw [List.mem_cons, List.mem_flatMap] at hp
      rcases hp with rfl | ⟨t, ht, hp⟩
      · exact hb
      · exact ih t ht hp

theorem visited_of_mem_exposed (h : t.Unfolds scene) (hv : scene.Visited t.id) {p : Placed}
    (hp : p ∈ t.exposed) : scene.Visited p.id := by
  induction t with
  | branch q ts ih =>
    rw [exposed_branch] at hp
    split at hp
    · contradiction
    · next hb =>
      rw [List.mem_cons, List.mem_flatMap] at hp
      rcases hp with rfl | ⟨t, ht, hp⟩
      · exact hv
      · cases h with
        | branch hn hc hts =>
          exact ih t ht (hts t ht) (hv.child hn hb (hc ▸ List.mem_map_of_mem ht)) hp

theorem exposed_child (h : t.Unfolds scene) {p : Placed} (hp : p ∈ t.exposed) {child : NodeId}
    {node : Node} (hc : child ∈ p.node.children) (hn : scene.nodes[child]? = some node)
    (hb : ¬ node.isBone) : ⟨child, node⟩ ∈ t.exposed := by
  induction t with
  | branch q ts ih =>
    rw [exposed_branch] at hp ⊢
    split at hp
    · contradiction
    · next hq =>
      rw [if_neg hq]
      apply List.mem_cons_of_mem
      rw [List.mem_flatMap]
      cases h with
      | branch _ hcs hts =>
        rw [List.mem_cons, List.mem_flatMap] at hp
        rcases hp with rfl | ⟨t, ht, hp⟩
        · rw [← hcs] at hc
          obtain ⟨t, ht, rfl⟩ := List.mem_map.mp hc
          cases (hts t ht).nodes_id.symm.trans hn
          exact ⟨t, ht, mem_exposed_self hb⟩
        · exact ⟨t, ht, ih t ht (hts t ht) hp⟩

theorem mem_exposed_outermost (h : Search.Finds scene t) {p : Placed} :
    p ∈ t.outermost.flatMap exposed ↔
      scene.nodes[p.id]? = some p.node ∧ scene.Visited p.id ∧ ¬ p.node.isBone := by
  constructor
  · intro hp
    have hpre := t.exposed_sublist.subset (t.outermost_sublist.subset hp)
    obtain ⟨t', ht', hp⟩ := List.mem_flatMap.mp hp
    have hv : scene.Visited t'.id := .outermost (map_id_outermost h ▸ List.mem_map_of_mem ht')
    exact ⟨h.unfolds.node_of_mem hpre,
      visited_of_mem_exposed (h.unfolds.outermost t' ht') hv hp, not_isBone_of_mem_exposed hp⟩
  · obtain ⟨id, node⟩ := p
    rintro ⟨hn, hv, hb⟩
    simp only at hn hv hb
    induction hv generalizing node with
    | outermost ho =>
      rw [← map_id_outermost h] at ho
      obtain ⟨t', ht', rfl⟩ := List.mem_map.mp ho
      cases (h.unfolds.outermost t' ht').nodes_id.symm.trans hn
      exact List.mem_flatMap.mpr ⟨t', ht', mem_exposed_self hb⟩
    | child _ hn' hb' hc ih =>
      obtain ⟨t', ht', hp⟩ := List.mem_flatMap.mp (ih _ hn' hb')
      exact List.mem_flatMap.mpr
        ⟨t', ht', exposed_child (h.unfolds.outermost t' ht') hp hc hn hb⟩

end SceneTree

namespace Setting

variable (s : Setting)

theorem unbroken_elementTag {type : String} (h : Text.Unbroken type) :
    Text.Unbroken (elementTag type) := by
  have hintrinsic : ∀ type ∈ intrinsicTypes, Text.Unbroken (lowerFirst type) := by decide
  rw [elementTag]
  split
  · decide
  · split
    next hi => exact hintrinsic type (by simpa using hi)
    next => exact h

theorem unbroken_tag {node : Node} (h : Text.Unbroken node.type) :
    Text.Unbroken (s.tag node) := by
  rw [tag]
  split
  · exact Scope.instances.unbroken_reference _
  · exact unbroken_elementTag h

theorem unbroken_render {p : Placed} {a : Attribute} (h : a ∈ s.attributes p) :
    Text.Unbroken a.render := by
  have hplain : ∀ n ∈ plainNames, Text.Unbroken n := by decide
  have hfields : ∀ n ∈ transformFields, Text.Unbroken n := by decide
  rcases s.isPlain_or_bound h with ha | ⟨b, hb, rfl⟩
  · refine Attribute.unbroken_render (hplain _ ha.name) fun t ht => ?_
    have hv := ha.value
    rw [ht] at hv
    contradiction
  · exact Attribute.unbroken_render (hfields _ (s.snd_mem_of_mem_boundFields hb)) (by
      simp [Attribute.bound, Attribute.expression])

theorem unbroken_markup {t : SceneTree} (h : ∀ p ∈ t.preorder, Text.Unbroken p.node.type) :
    ∀ m ∈ s.markup t, m.Unbroken := by
  induction t with
  | branch p ts ih =>
    rw [SceneTree.preorder_branch, List.forall_mem_cons] at h
    have hbelow : ∀ m ∈ ts.flatMap s.markup, m.Unbroken := by
      intro m hm
      obtain ⟨t, ht, hm⟩ := List.mem_flatMap.mp hm
      exact ih t ht (fun q hq => h.2 q (List.mem_flatMap.mpr ⟨t, ht, hq⟩)) m hm
    rw [markup_branch]
    split
    · rw [List.forall_mem_singleton]
      exact .live
    · split
      · exact hbelow
      · rw [List.forall_mem_singleton]
        exact .element (s.unbroken_tag h.1) (fun a ha => s.unbroken_render ha) hbelow

end Setting

theorem Composition.mem_removed_iff_givesWay {scene : Scene} {tree : SceneTree}
    (hf : Search.Finds scene tree) {s : Setting} {id : NodeId} : id ∈ (of s tree).removed ↔
      ∃ node, scene.nodes[id]? = some node ∧ scene.Visited id ∧ ¬ node.isBone ∧
        s.GivesWay ⟨id, node⟩ := by
  rw [mem_removed]
  constructor
  · rintro ⟨p, hp, he, rfl⟩
    obtain ⟨hn, hv, hb⟩ := (SceneTree.mem_exposed_outermost hf).mp hp
    exact ⟨p.node, hn, hv, hb, Setting.elides_iff.mp he⟩
  · rintro ⟨node, hn, hv, hb, hg⟩
    exact ⟨⟨id, node⟩, (SceneTree.mem_exposed_outermost hf).mpr ⟨hn, hv, hb⟩,
      Setting.elides_iff.mpr hg, rfl⟩

structure Composition.LaidOut (c : Composition) (forest : List Markup) : Prop where
  text : c.text = Text.unlines ((Markup.linesAllAt 0 forest).map Line.text)
  unbroken : ∀ l ∈ Markup.linesAllAt 0 forest, '\n' ∉ l.text.toList
  elements : (Markup.linesAllAt 0 forest).filterMap (·.kind.element?) = c.written

/-- The text of a good scene is the layout of its markup by depth, if no type has a line feed in it;
what was removed are the nodes that gave way. -/
theorem text_eq_layout {scene : Scene} {tree : SceneTree} (h : scene.validate = .ok tree)
    (htypes : ∀ node ∈ scene.nodes, '\n' ∉ node.type.toList) (options : Options) :
    ∃ forest, (∀ ms, (Setting.of scene options).Forest scene.outermost ms ↔ ms = forest) ∧
      (Composition.of (.of scene options) tree).LaidOut forest ∧
      ∀ id, id ∈ (Composition.of (.of scene options) tree).removed ↔
        ∃ node, scene.nodes[id]? = some node ∧ scene.Visited id ∧ ¬ node.isBone ∧
          (Setting.of scene options).GivesWay ⟨id, node⟩ := by
  have hf := Scene.tree_finds (Scene.validate_eq_ok.mp h).1
  have hforest : (Setting.of scene options).Forest scene.outermost
      (tree.outermost.flatMap (Setting.of scene options).markup) := by
    rw [← SceneTree.map_id_outermost hf]
    exact Setting.Forest.of_trees fun t ht =>
      Setting.Forest.of_unfolds (hf.unfolds.outermost t ht)
  -- Every tag comes from the type of a node in the table.
  have hunbroken : ∀ m ∈ tree.outermost.flatMap (Setting.of scene options).markup, m.Unbroken := by
    intro m hm
    obtain ⟨t, ht, hm⟩ := List.mem_flatMap.mp hm
    refine Setting.unbroken_markup _ (fun p hp => htypes p.node ?_) m hm
    exact Array.mem_of_getElem? ((hf.unfolds.outermost t ht).node_of_mem hp)
  refine ⟨_, fun ms => ⟨fun hms => hms.unique hforest, fun hms => hms ▸ hforest⟩, ?_, fun id => ?_⟩
  · rw [← Composition.content_of]
    constructor
    case text =>
      rw [← Composition.content_of] at hunbroken
      exact Markup.textAll_eq_unlines hunbroken
    case unbroken =>
      rw [Composition.content_of]
      exact Markup.unbroken_linesAllAt hunbroken
    case elements => exact Composition.filterMap_element?_lines _
  · exact Composition.mem_removed_iff_givesWay hf

theorem sample_layout : ∃ tree forest, Scene.sample.validate = .ok tree ∧
    (∀ node ∈ Scene.sample.nodes, '\n' ∉ node.type.toList) ∧
    (Composition.of (.of Scene.sample {}) tree).LaidOut forest ∧
    3 ∈ (Composition.of (.of Scene.sample {}) tree).removed := by
  have htypes : ∀ node ∈ Scene.sample.nodes, '\n' ∉ node.type.toList := by
    simp [Scene.sample]
  obtain ⟨tree, h⟩ := Scene.sample_validate
  obtain ⟨forest, -, hlayout, hremoved⟩ := text_eq_layout h htypes {}
  have hvisited : Scene.sample.Visited 3 := .outermost (by
    simp [Scene.sample, Scene.outermost, Scene.rootNode?, Node.nodeClass, NodeClass.ofType])
  exact ⟨tree, forest, h, htypes, hlayout, (hremoved 3).mpr
    ⟨{ type := "Group", position := .one }, rfl, hvisited, by decide,
      rfl, by simp [Setting.shared?, Scene.geometryOf?], by decide, .inr rfl⟩⟩

end SceneMarkup
