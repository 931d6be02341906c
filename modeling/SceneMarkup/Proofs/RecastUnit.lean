import SceneMarkup.Proofs.Defaults
import SceneMarkup.Proofs.Elements
import SceneMarkup.Proofs.Instances
import SceneMarkup.Proofs.RecastSurvey

namespace SceneMarkup

open List (Forall₂)

theorem Markup.textAll_append (ms ns : List Markup) :
    textAll (ms ++ ns) = textAll ms ++ textAll ns := by
  induction ms with
  | nil => simp [textAll]
  | cons m rest ih => rw [List.cons_append, textAll, textAll, ih, String.append_assoc]

namespace Setting

variable {s : Setting} {p : Placed}

theorem candidateAttributes_of_isBare (h : p.node.IsBare s.options s.scene.animations)
    (hkey : s.survey.transformKey? p.id = none) : s.candidateAttributes p = [] := by
  have hclips : s.scene.animations.any (·.references p.node.name) = false := by
    simpa using h.unreferenced
  have hmesh := h.isMesh
  have hcontainer := h.container
  have hplain := h.plain
  have hnames := h.keepNames
  rw [candidateAttributes, transformAttributes, hkey]
  generalize p.node = node at *
  cases node
  cases hplain
  simp [nameAttribute, keepsName, hnames, hclips, cameraAttributes, hcontainer, optionalShadows,
    hmesh, geometryAttribute, materialAttribute, Scene.materialOf?, skeletonAttribute,
    visibleAttribute, ownShadows, morphAttributes, lightAttributes, colorAttribute,
    userDataAttribute]

theorem elides_of_isBare (h : p.node.IsBare s.options s.scene.animations)
    (hkey : s.survey.transformKey? p.id = none) : s.elides p = true := by
  have hgeometry : s.scene.geometryOf? p.node = none := by
    rw [Scene.geometryOf?, h.plain]
    rfl
  have hshared : ¬ ∃ g, s.survey.Shares s.scene p.node g := by
    rintro ⟨g, hg⟩
    obtain ⟨own, hown, -⟩ := hg.listed
    rw [hgeometry] at hown
    contradiction
  have htag : elementTag p.node.type = groupTag := if_pos h.container
  have hbare : s.directAttributes p = [] := by
    rw [directAttributes, candidateAttributes_of_isBare h hkey]
    rfl
  refine elides_iff.mpr ⟨h.keepGroups, shared?_eq_none.mpr hshared, htag, .inl ?_⟩
  rw [attributes, shared?_eq_none.mpr hshared]
  exact hbare

end Setting

namespace Recasting.Scenes

variable {c : Recasting} {scene scene' : Scene} {tree tree' : SceneTree} {n m : Node}
  {p q : Placed}

theorem shared? (h : c.Scenes scene scene' tree tree') (hn : n.Alike m) :
    (Setting.of scene' c.options).shared? m =
      ((Setting.of scene c.options).shared? n).map (·.mapOwner c.rename) := by
  show (if (Survey.of scene' c.options).instancing then (scene'.geometryOf? m).bind fun g =>
      (Survey.of scene' c.options).registry.geometry? g.key else none) =
    (if (Survey.of scene c.options).instancing then (scene.geometryOf? n).bind fun g =>
      (Survey.of scene c.options).registry.geometry? g.key else none).map _
  rw [h.instancing, h.geometryOf? hn, h.registry]
  split
  · cases scene.geometryOf? n with
    | none => rfl
    | some g => exact Registry.geometry?_mapOwners _ _ _
  · rfl

theorem tag (h : c.Scenes scene scene' tree tree') (hn : n.Alike m) :
    (Setting.of scene' c.options).tag m = (Setting.of scene c.options).tag n := by
  rw [Setting.tag, Setting.tag, h.shared? hn, hn.type]
  cases (Setting.of scene c.options).shared? n <;> rfl

theorem nameAttribute (h : c.Scenes scene scene' tree tree') (hn : n.Alike m) :
    (Setting.of scene' c.options).nameAttribute m =
      (Setting.of scene c.options).nameAttribute n := by
  have hkeeps : (Setting.of scene' c.options).keepsName m =
      (Setting.of scene c.options).keepsName n := by
    show (_ || scene'.animations.any _) = (_ || scene.animations.any _)
    rw [h.animations]
    exact hn.same (f := (Setting.of scene c.options).keepsName) fun _ _ _ => rfl
  rw [Setting.nameAttribute, Setting.nameAttribute, hkeeps, hn.name]

theorem materialAttribute (h : c.Scenes scene scene' tree tree') (hn : n.Alike m) :
    (Setting.of scene' c.options).materialAttribute m =
      (Setting.of scene c.options).materialAttribute n := by
  have hcount (name : String) : (Survey.of scene' c.options).registry.materialCount name =
      (Survey.of scene c.options).registry.materialCount name := by
    rw [h.registry]
    rfl
  have hreference (material : Material) :
      (Setting.of scene' c.options).materialReference m material =
        (Setting.of scene c.options).materialReference n material := by
    show (if _ && (Survey.of scene' c.options).registry.materialCount _ == 1 then _ else _) =
      (if _ && (Survey.of scene c.options).registry.materialCount _ == 1 then _ else _)
    rw [hcount, Setting.ofNode, Setting.ofNode, hn.name]
  have hmaterial : (Setting.of scene' c.options).scene.materialOf? m =
    (Setting.of scene c.options).scene.materialOf? n := h.materialOf? hn
  rw [Setting.materialAttribute, Setting.materialAttribute, hmaterial]
  simp only [hreference]

theorem skeletonAttribute (hn : n.Alike m) :
    Setting.skeletonAttribute m = Setting.skeletonAttribute n := by
  cases hn with
  | intro _ hskeleton =>
    rw [Setting.skeletonAttribute, Setting.skeletonAttribute, hskeleton]
    rfl

theorem leadingAttributes (h : c.Scenes scene scene' tree tree') (hn : n.Alike m) :
    (Setting.of scene' c.options).leadingAttributes m =
      (Setting.of scene c.options).leadingAttributes n := by
  rw [Setting.leadingAttributes, Setting.leadingAttributes, h.nameAttribute hn,
    h.materialAttribute hn, skeletonAttribute hn]
  cases hn
  rfl

theorem transformAttributes (h : c.Scenes scene scene' tree tree') (hp : c.Places p q) :
    (Setting.of scene' c.options).transformAttributes q =
      (Setting.of scene c.options).transformAttributes p := by
  have hkey : (Setting.of scene' c.options).survey.transformKey? q.id =
      (Setting.of scene c.options).survey.transformKey? p.id := by
    rw [hp.id]
    exact h.transformKey? p.id
  rw [Setting.transformAttributes, Setting.transformAttributes, hkey]
  simp only [hp.node.delta]
  rfl

theorem visibleAttribute (hn : n.Alike m) :
    Setting.visibleAttribute m = Setting.visibleAttribute n := hn.same fun _ _ _ => rfl

theorem userDataAttribute (hn : n.Alike m) :
    (Setting.of scene' c.options).userDataAttribute m =
      (Setting.of scene c.options).userDataAttribute n := hn.same fun _ _ _ => rfl

theorem attributes (h : c.Scenes scene scene' tree tree') (hp : c.Places p q) :
    (Setting.of scene' c.options).attributes q = (Setting.of scene c.options).attributes p := by
  rw [Setting.attributes, Setting.attributes, h.shared? hp.node]
  cases (Setting.of scene c.options).shared? p.node with
  | none =>
    show Setting.directAttributes _ _ = Setting.directAttributes _ _
    rw [Setting.directAttributes, Setting.directAttributes, Setting.candidateAttributes_eq,
      Setting.candidateAttributes_eq, h.leadingAttributes hp.node, h.transformAttributes hp,
      userDataAttribute hp.node]
  | some g =>
    show Setting.instancedAttributes _ _ = Setting.instancedAttributes _ _
    rw [Setting.instancedAttributes, Setting.instancedAttributes, h.nameAttribute hp.node,
      h.transformAttributes hp, visibleAttribute hp.node, userDataAttribute hp.node]

theorem elides (h : c.Scenes scene scene' tree tree') (hp : c.Places p q) :
    (Setting.of scene' c.options).elides q = (Setting.of scene c.options).elides p := by
  rw [Setting.elides, Setting.elides, h.tag hp.node, h.attributes hp, hp.node.isEmpty_children]
  rfl

theorem elides_of_isAdded (h : c.Scenes scene scene' tree tree') (ha : c.isAdded q.id = true)
    (hq : q.node.IsBare c.options c.clips) : (Setting.of scene' c.options).elides q = true := by
  have hkey := h.transformKey?_of_isAdded ha
  have hbare : q.node.IsBare (Setting.of scene' c.options).options
      (Setting.of scene' c.options).scene.animations := by
    show q.node.IsBare c.options scene'.animations
    rw [h.animations, ← h.clips]
    exact hq
  exact Setting.elides_of_isBare hbare hkey

variable {ts us : List SceneTree}

theorem textAll (h : c.Scenes scene scene' tree tree') (ht : c.Trees ts us) :
    Markup.textAll (us.flatMap (Setting.of scene' c.options).markup) =
      Markup.textAll (ts.flatMap (Setting.of scene c.options).markup) := by
  induction ht with
  | nil => rfl
  | @branch p q ts us rest rest' hp _ _ ih ihr =>
    rw [List.flatMap_cons, List.flatMap_cons, Markup.textAll_append, Markup.textAll_append, ihr,
      Setting.markup_branch, Setting.markup_branch, hp.node.isBone, h.elides hp]
    split
    · rw [hp.node.name]
    · split
      · rw [ih]
      · simp only [Markup.textAll, Markup.text, h.tag hp.node, h.attributes hp, ih]
  | @wrapped q ts us rest rest' ha hq _ _ _ ih ihr =>
    rw [List.flatMap_cons, List.flatMap_append, Markup.textAll_append, Markup.textAll_append, ihr,
      Setting.markup_branch, hq.isBone, h.elides_of_isAdded ha hq, ← ih]
    rfl

theorem outermost (h : c.Scenes scene scene' tree tree') :
    c.Trees tree.outermost tree'.outermost := by
  have hclass : tree'.node.nodeClass = tree.node.nodeClass := h.top.node.nodeClass
  rw [SceneTree.outermost, SceneTree.outermost, hclass]
  split
  · exact h.below
  · exact h.trees

theorem text (h : c.Scenes scene scene' tree tree') :
    (Composition.of (.of scene' c.options) tree').text =
      (Composition.of (.of scene c.options) tree).text := by
  rw [Composition.text, Composition.text, Composition.content_of, Composition.content_of]
  exact h.textAll h.outermost

theorem removed (h : c.Scenes scene scene' tree tree') :
    (Composition.of (.of scene' c.options) tree').removed.filter (!c.isAdded ·) =
      (Composition.of (.of scene c.options) tree).removed.map c.rename := by
  have hremoved (s : Setting) (t : SceneTree) : (Composition.of s t).removed =
      ((t.outermost.flatMap SceneTree.exposed).filter s.elides).map (·.id) := by
    rw [Composition.removed_of, List.filter_flatMap, List.map_flatMap]
    exact List.flatMap_congr fun t _ => s.elided_eq t
  have hexposed := forall₂_filter h.outermost.exposed fun _ _ => h.elides
  rw [hremoved, hremoved, List.filter_map, List.map_map, List.filter_filter]
  rw [List.filter_filter] at hexposed
  have hids := map_eq_of_forall₂ hexposed (f := c.rename ∘ (·.id)) (g := (·.id))
    fun _ _ hp => hp.id
  rw [← hids]
  simp only [Bool.and_comm, Function.comp_def]

theorem isRemoved (h : c.Scenes scene scene' tree tree') (hp : c.Places p q) :
    (Composition.of (.of scene' c.options) tree').isRemoved q.id =
      (Composition.of (.of scene c.options) tree).isRemoved p.id := by
  have hmem : q.id ∈ (Composition.of (.of scene' c.options) tree').removed ↔
      p.id ∈ (Composition.of (.of scene c.options) tree).removed := by
    rw [← List.mem_map_of_injective h.injective (a := p.id), ← h.removed, ← hp.id,
      List.mem_filter]
    simp [hp.kept]
  rw [Composition.isRemoved, Composition.isRemoved, Bool.eq_iff_iff, List.contains_iff_mem,
    List.contains_iff_mem, hmem]

theorem cameras (h : c.Scenes scene scene' tree tree') :
    (Composition.of (.of scene' c.options) tree').cameras =
      (Composition.of (.of scene c.options) tree).cameras := by
  have hwritten : Forall₂ c.Places
      ((tree.outermost.flatMap SceneTree.exposed).filter
        (!(Setting.of scene c.options).elides ·))
      ((tree'.outermost.flatMap SceneTree.exposed).filter
        (!(Setting.of scene' c.options).elides ·)) := by
    have hkept := forall₂_filter h.outermost.exposed
      (p := (!(Setting.of scene c.options).elides ·))
      (q := (!(Setting.of scene' c.options).elides ·)) fun p q hp => by rw [h.elides hp]
    rw [List.filter_filter] at hkept
    convert hkept using 1
    refine List.filter_congr fun q hq => ?_
    cases ha : c.isAdded q.id with
    | true =>
      have hbare : q.node.IsBare c.options c.clips := by
        obtain ⟨t, ht, hqt⟩ := List.mem_flatMap.mp hq
        exact h.outermost.isBare
          (List.mem_flatMap.mpr ⟨t, ht, t.exposed_sublist.subset hqt⟩) ha
      simp [h.elides_of_isAdded ha hbare]
    | false => simp
  have htags := filterMap_eq_of_forall₂ hwritten
    (f := fun p => if p.node.nodeClass.isCamera then
      some ((Setting.of scene c.options).tag p.node) else none)
    (g := fun q => if q.node.nodeClass.isCamera then
      some ((Setting.of scene' c.options).tag q.node) else none)
    fun p q hp => by rw [hp.node.nodeClass, h.tag hp.node]
  rw [Composition.cameras, Composition.cameras, Composition.elementsAll_content,
    Composition.elementsAll_content, Composition.written_of, Composition.written_of,
    List.filterMap_map, List.filterMap_map, List.filterMap_map, List.filterMap_map]
  exact congrArg sortedDistinct htags

theorem transformDefaults (h : c.Scenes scene scene' tree tree') :
    (Setting.of scene' c.options).transformDefaults (.of (.of scene' c.options) tree') =
      (Setting.of scene c.options).transformDefaults (.of (.of scene c.options) tree) := by
  have hkept := forall₂_filter h.transformKeys
    (p := fun e => !(Composition.of (.of scene c.options) tree).isRemoved e.1.id)
    (q := fun e => !(Composition.of (.of scene' c.options) tree').isRemoved e.1.id)
    fun e e' he => by rw [h.isRemoved he.1]
  have hentries {p q : Placed} (hp : c.Places p q) :
      (Setting.of scene' c.options).transformEntries q.node =
        (Setting.of scene c.options).transformEntries p.node := hp.node.same fun _ _ _ => rfl
  refine congrArg ContextValue.group (map_eq_of_forall₂ hkept fun e e' he => ?_)
  show (e'.2, ContextValue.group ((Setting.of scene' c.options).transformEntries e'.1.node)) =
    (e.2, .group ((Setting.of scene c.options).transformEntries e.1.node))
  rw [he.2, hentries he.1]

theorem controls (h : c.Scenes scene scene' tree tree') :
    (Setting.of scene' c.options).controls tree'.node (.of (.of scene' c.options) tree') =
      (Setting.of scene c.options).controls tree.node (.of (.of scene c.options) tree) := by
  have huses := forall₂_zipIdx h.uses
  have hdefaults := map_eq_of_forall₂ huses
    (f := fun u => (toString u.2, Setting.materialDefaults u.1.material))
    (g := fun u => (toString u.2, Setting.materialDefaults u.1.material))
    fun u v hu => by rw [hu.1.material, hu.2]
  have hgroups := map_eq_of_forall₂ huses
    (f := fun u => Setting.materialGroup u.1 u.2) (g := fun u => Setting.materialGroup u.1 u.2)
    fun u v hu => by rw [Setting.materialGroup, Setting.materialGroup, hu.1.material, hu.2]
  have hsyncs := map_eq_of_forall₂ huses
    (f := fun u => Setting.materialSync u.1 u.2) (g := fun u => Setting.materialSync u.1 u.2)
    fun u v hu => by
      rw [Setting.materialSync, Setting.materialSync, hu.1.material, hu.1.user.node.name, hu.2]
  have hmodel : Setting.modelDefaults tree'.node = Setting.modelDefaults tree.node :=
    h.top.node.same (f := Setting.modelDefaults) fun _ _ _ => rfl
  have hexact : (Setting.of scene' c.options).exactDefaults tree'.node
        (.of (.of scene' c.options) tree') =
      (Setting.of scene c.options).exactDefaults tree.node (.of (.of scene c.options) tree) := by
    rw [Setting.exactDefaults, Setting.exactDefaults, hmodel, h.transformDefaults]
    exact congrArg (fun materials => ContextValue.group ([("model", _), ("materials",
      .group materials), ("transforms", _)] ++ _)) hdefaults
  have hplain : (Setting.of scene' c.options).plainGroups =
      (Setting.of scene c.options).plainGroups :=
    congrArg (fun groups => Setting.modelGroup :: groups ++ _) hgroups
  rw [Setting.controls, Setting.controls, hexact, Setting.controlGroups, Setting.controlGroups,
    hplain]
  exact congrArg (ControlSet.mk _ _) hsyncs

variable (saved : Option Json)

theorem controls_of (h : c.Scenes scene scene' tree tree') :
    (Plan.of scene' c.options saved tree').controls =
      (Plan.of scene c.options saved tree).controls :=
  congrArg (Plan.restore _ saved) h.controls

theorem types_of (h : c.Scenes scene scene' tree tree') (htypes : c.options.types = true) :
    (Plan.of scene' c.options saved tree').types = (Plan.of scene c.options saved tree).types := by
  -- What was added is bare and so never typed; the typed nodes of both stand side by side.
  have hvisits : Forall₂ c.Visits
      (scene.visits.filter (AssetTypes.isTyped (.of (.of scene c.options) tree)))
      (scene'.visits.filter (AssetTypes.isTyped (.of (.of scene' c.options) tree'))) := by
    refine h.filter_visits ?_ ?_
    · intro v w hvw
      have hp := hvw.placed
      rw [AssetTypes.isTyped, AssetTypes.isTyped, hvw.topBone htypes, Visit.node, Visit.node,
        hp.node.name, hp.node.isMesh]
      rw [show Composition.isRemoved _ w.id = _ from h.isRemoved hp]
      rfl
    · intro v hv ha
      have hbare := h.isBare_of_mem_visits hv ha
      have htop : AssetTypes.isTopBone v = false := by
        rw [AssetTypes.isTopBone, hbare.isBone, Bool.false_and]
      rw [AssetTypes.isTyped, hbare.isMesh, htop, Bool.or_false, Bool.and_false]
  have hnodes := map_eq_of_forall₂ hvisits
    (f := fun v => (v.node.name, v.node.type)) (g := fun v => (v.node.name, v.node.type))
    fun v w hvw => by
      rw [Visit.node, Visit.node, hvw.placed.node.name, hvw.placed.node.type]
  have huses := forall₂_filter h.uses
    (p := (!·.material.name.isEmpty)) (q := (!·.material.name.isEmpty))
    fun u v hu => by rw [hu.material]
  have hmaterials := map_eq_of_forall₂ huses
    (f := fun u => (u.material.name, u.material.type))
    (g := fun u => (u.material.name, u.material.type)) fun u v hu => by rw [hu.material]
  have hclips : scene'.animations.map (·.name) = scene.animations.map (·.name) := by
    rw [h.animations]
  show AssetTypes.mk _ _ _ _ = AssetTypes.mk _ _ _ _
  congr 1
  · exact congrArg (distinctBy Prod.fst) hnodes
  · exact congrArg (distinctBy Prod.fst) hmaterials
  · exact congrArg distinct hclips
  · exact congrArg (fun controls => Shape.of controls.defaults) (h.controls_of saved)

theorem instances_of (h : c.Scenes scene scene' tree tree') :
    (Plan.of scene' c.options saved tree').instances =
      (Plan.of scene c.options saved tree).instances := by
  have howner : ∀ g ∈ (Survey.of scene c.options).registry.geometries,
      scene'.nodes[c.rename g.owner]?.map (·.name) = scene.nodes[g.owner]?.map (·.name) := by
    intro g hg
    obtain ⟨node, own, hn, -⟩ := Scene.exists_owner h.valid hg
    obtain ⟨node', hn', halike⟩ := h.nodes g.owner node hn
    rw [hn, hn', Option.map_some, Option.map_some, halike.name]
  show (if (Survey.of scene' c.options).instancing then
      (Survey.of scene' c.options).registry.geometries.map fun g => InstanceRow.mk g.name
        ((scene'.nodes[g.owner]?.map (·.name)).getD "") else []) =
    if (Survey.of scene c.options).instancing then
      (Survey.of scene c.options).registry.geometries.map fun g => InstanceRow.mk g.name
        ((scene.nodes[g.owner]?.map (·.name)).getD "") else []
  rw [h.instancing, h.registry, Registry.geometries_mapOwners, List.map_map]
  split
  · refine List.map_congr_left fun g hg => ?_
    rw [← howner g hg]
    rfl
  · rfl

theorem imports_of (h : c.Scenes scene scene' tree tree') :
    (Plan.of scene' c.options saved tree').imports =
      (Plan.of scene c.options saved tree).imports := by
  have hcameras : (Plan.of scene' c.options saved tree').composition.cameras =
    (Plan.of scene c.options saved tree).composition.cameras := h.cameras
  have hanimated : (Plan.of scene' c.options saved tree').isAnimated =
      (Plan.of scene c.options saved tree).isAnimated :=
    congrArg (fun clips : List AnimationClip => !clips.isEmpty) h.animations
  rw [Plan.imports, Plan.imports, h.instances_of, h.controls_of, hcameras, hanimated]
  rfl

theorem model_of (h : c.Scenes scene scene' tree tree')
    (hdump : (Plan.of scene' c.options saved tree').debugDump =
      (Plan.of scene c.options saved tree).debugDump) :
    (Plan.of scene' c.options saved tree').model = (Plan.of scene c.options saved tree).model := by
  have hmarkup : (Plan.of scene' c.options saved tree').composition.text =
    (Plan.of scene c.options saved tree).composition.text := h.text
  have hanimated : (Plan.of scene' c.options saved tree').isAnimated =
      (Plan.of scene c.options saved tree).isAnimated :=
    congrArg (fun clips : List AnimationClip => !clips.isEmpty) h.animations
  rw [Plan.model, Plan.model, Plan.modelPath, Plan.modelPath, h.instances_of, h.controls_of, hmarkup,
    hanimated, hdump]
  rfl

theorem text_of (h : c.Scenes scene scene' tree tree')
    (hdump : (Plan.of scene' c.options saved tree').debugDump =
      (Plan.of scene c.options saved tree).debugDump) :
    (Plan.of scene' c.options saved tree').text = (Plan.of scene c.options saved tree).text := by
  have htypes : (if c.options.types then [(Plan.of scene' c.options saved tree').types.text]
      else []) = if c.options.types then [(Plan.of scene c.options saved tree).types.text]
      else [] := by
    split
    next ht => rw [h.types_of saved ht]
    next => rfl
  have hhost : (Plan.of scene' c.options saved tree').host =
      (Plan.of scene c.options saved tree).host := by
    rw [Plan.host, Plan.host, h.instances_of, h.controls_of]
    rfl
  have hblocks : (Plan.of scene' c.options saved tree').blocks =
      (Plan.of scene c.options saved tree).blocks := by
    rw [Plan.blocks, Plan.blocks, h.imports_of, h.controls_of, h.model_of saved hdump, hhost]
    exact congrArg (fun types => _ :: types ++ _) htypes
  exact congrArg ("\n".intercalate ·) hblocks

theorem unit_of (h : c.Scenes scene scene' tree tree') (hrename : c.rename = id) :
    (Plan.of scene' c.options saved tree').unit =
      { (Plan.of scene c.options saved tree).unit with
        reports := (Plan.of scene' c.options saved tree').reports } := by
  have hregistry : (Plan.of scene' c.options saved tree').survey.registry =
      (Plan.of scene c.options saved tree).survey.registry := by
    have hmapped := h.registry
    rw [hrename, Registry.mapOwners_id] at hmapped
    exact hmapped
  have hdump : (Plan.of scene' c.options saved tree').debugDump =
      (Plan.of scene c.options saved tree).debugDump := by
    rw [Plan.debugDump, Plan.debugDump, hregistry]
    rfl
  rw [Plan.unit, Plan.unit, h.text_of saved hdump, h.controls_of, hregistry]

theorem stepsAll (ht : c.Trees ts us) (hnone : ∀ id, c.isAdded id = false) :
    Setting.stepsAll us = Setting.stepsAll ts := by
  induction ht with
  | nil => rfl
  | branch hp _ _ ih ihr =>
    rw [Setting.stepsAll, Setting.stepsAll, Setting.steps, Setting.steps, hp.node.isBone, ih, ihr]
  | wrapped ha =>
    rw [hnone] at ha
    contradiction

theorem reports_of (h : c.Scenes scene scene' tree tree') (hnone : ∀ id, c.isAdded id = false) :
    (Plan.of scene' c.options saved tree').reports =
      (Plan.of scene c.options saved tree).reports := by
  have hvisits : scene'.visits.length = scene.visits.length := by
    have hall := h.visits
    simp only [hnone, Bool.not_false, List.filter_true] at hall
    exact hall.length_eq.symm
  have hsteps : (Composition.of (.of scene' c.options) tree').steps =
      (Composition.of (.of scene c.options) tree).steps := by
    have hclass : tree'.node.nodeClass = tree.node.nodeClass := h.top.node.nodeClass
    have htree := stepsAll h.trees hnone
    rw [Setting.stepsAll, Setting.stepsAll, Setting.stepsAll, Setting.stepsAll] at htree
    rw [Composition.of, Composition.of, hclass]
    split
    · exact congrArg (· + 1) (stepsAll h.below hnone)
    · exact htree
  show Stage.walk.reports _ scene'.visits.length scene'.visits.length ++
      Stage.emit.reports _ scene'.visits.length _ =
    Stage.walk.reports _ scene.visits.length scene.visits.length ++
      Stage.emit.reports _ scene.visits.length _
  rw [hvisits]
  exact congrArg (fun steps => _ ++ Stage.emit.reports _ _ steps) hsteps

end Recasting.Scenes

end SceneMarkup
