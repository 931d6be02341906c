import SceneMarkup.Proofs.Registry
import SceneMarkup.Proofs.Visits
import SceneMarkup.Survey.Basic

namespace SceneMarkup

/-- Entries under a key, and the slot where the entry of each key stands. -/
structure SlotTable (α : Type) where
  entries : List (Nat × α) := []
  slots : List (Nat × Nat) := []

namespace SlotTable

variable {α : Type} {t : SlotTable α} {key : Nat}

def has (t : SlotTable α) (key : Nat) : Bool := (t.slots.lookup key).isSome

def add (t : SlotTable α) (key : Nat) (a : α) : SlotTable α where
  entries := t.entries ++ [(key, a)]
  slots := (key, t.entries.length) :: t.slots

theorem has_iff : t.has key ↔ key ∈ t.slots.map Prod.fst := by
  rw [has, Option.isSome_iff_ne_none, ne_eq, lookup_eq_none_iff_not_mem, not_not]

def read? (t : SlotTable α) (key : Nat) : Option (Option α) :=
  match t.slots.lookup key with
  | none => some none
  | some i => t.entries[i]?.map fun e => some e.2

def Sound (t : SlotTable α) : Prop :=
  t.slots = (t.entries.zipIdx.map fun e => (e.1.1, e.2)).reverse

theorem sound_empty : Sound ({} : SlotTable α) := rfl

theorem Sound.add (h : t.Sound) (key : Nat) (a : α) : (t.add key a).Sound := by
  rw [Sound] at h
  simp [Sound, SlotTable.add, h, List.zipIdx_append]

theorem Sound.map_fst_slots (h : t.Sound) :
    t.slots.map Prod.fst = (t.entries.map Prod.fst).reverse := by
  have hkeys : t.entries.map Prod.fst = (t.entries.zipIdx.map Prod.fst).map Prod.fst := by
    rw [List.zipIdx_map_fst]
  rw [h, List.map_reverse, hkeys, List.map_map, List.map_map]
  rfl

theorem Sound.read?_eq (h : t.Sound) (hd : (t.entries.map Prod.fst).Nodup) (key : Nat) :
    t.read? key = some (t.entries.lookup key) := by
  have hslots : (t.slots.map Prod.fst).Nodup := by
    rw [h.map_fst_slots]
    exact List.nodup_reverse.mpr hd
  rw [read?]
  cases hl : t.slots.lookup key with
  | none =>
    rw [lookup_eq_none_iff_not_mem, h.map_fst_slots, List.mem_reverse,
      ← lookup_eq_none_iff_not_mem] at hl
    rw [hl]
  | some i =>
    have hmem := (lookup_eq_some_iff_mem hslots).mp hl
    rw [h, List.mem_reverse] at hmem
    obtain ⟨⟨⟨k, a⟩, j⟩, he, heq⟩ := List.mem_map.mp hmem
    obtain ⟨rfl, rfl⟩ := Prod.mk.inj heq
    have hat := List.mk_mem_zipIdx_iff_getElem?.mp he
    have hentry := (lookup_eq_some_iff_mem hd).mpr (List.mem_of_getElem? hat)
    show t.entries[j]?.map _ = some (t.entries.lookup k)
    rw [hat, hentry]
    rfl

end SlotTable

namespace Registry

variable {scene : Scene} {r : Registry}

def sight? (scene : Scene) (r : Registry) (p : Placed) : Option Registry :=
  match scene.meshKey? p.node with
  | none => some r
  | some key =>
    match r.places.lookup key with
    | some i => do
      let g ← r.geometries[i]?
      return { r with geometries := r.geometries.set i { g with count := g.count + 1 } }
    | none => some (r.recordGeometry scene p)

def read? (r : Registry) (key : String) : Option (Option SharedGeometry) :=
  match r.places.lookup key with
  | none => some none
  | some i => r.geometries[i]?.map some

theorem Indexed.exists_geometry (h : r.Indexed) {key : String} {i : Nat}
    (hi : r.places.lookup key = some i) : ∃ g, r.geometries[i]? = some g := by
  have hkey := (h key i).mp hi
  rw [List.getElem?_map] at hkey
  obtain ⟨g, hg, -⟩ := Option.map_eq_some_iff.mp hkey
  exact ⟨g, hg⟩

theorem Indexed.read?_eq (h : r.Indexed) (key : String) :
    r.read? key = some ( geometry? r key) := by
  rw [read?, geometry?]
  cases hi : r.places.lookup key with
  | none => rfl
  | some i =>
    obtain ⟨g, hg⟩ := h.exists_geometry hi
    simp [hg]

theorem Indexed.sight?_eq (h : r.Indexed) (p : Placed) :
    r.sight? scene p = some (r.recordGeometry scene p) := by
  rw [sight?]
  split
  case h_1 hkey => simp only [recordGeometry, hkey]
  case h_2 key hkey =>
    split
    case h_1 i hi =>
      obtain ⟨g, hg⟩ := h.exists_geometry hi
      simp [recordGeometry, hkey, hi, hg, List.modify_eq_set_getElem?]
    case h_2 => rfl

end Registry

theorem Scene.placed?_eq_some {scene : Scene} {p : Placed} :
    scene.placed? p.id = some p ↔ scene.nodes[p.id]? = some p.node := by
  cases p
  simp [placed?]

structure SceneIndex where
  order : List NodeId
  parents : List (NodeId × NodeId)
  materials : SlotTable NodeId := {}
  transformKeys : SlotTable String := {}
  takenKeys : List String := []
  skinned : List NodeId := []
  registry : Registry := .empty

namespace SceneIndex

def parent? (ix : SceneIndex) (id : NodeId) : Option NodeId := ix.parents.lookup id

def noteMaterial (scene : Scene) (p : Placed) (t : SlotTable NodeId) : SlotTable NodeId :=
  match if p.node.isMesh then materialUse? scene p else none with
  | some use => if t.has use.id then t else t.add use.id use.firstUser.id
  | none => t

def pass (scene : Scene) (options : Options) (ix : SceneIndex) (p : Placed) (isSkinned : Bool)
    (registry : Registry) : SceneIndex :=
  let isBound := Visit.isBound options.canonical scene.root ⟨p, none, isSkinned⟩
  let key := Naming.unique (transformKeyBase p.node) ix.takenKeys
  { ix with
    materials := noteMaterial scene p ix.materials
    transformKeys := if isBound then ix.transformKeys.add p.id key else ix.transformKeys
    takenKeys := if isBound then key :: ix.takenKeys else ix.takenKeys
    skinned := if isSkinned then p.id :: ix.skinned else ix.skinned
    registry }

def visit (scene : Scene) (options : Options) (ix : SceneIndex) (id : NodeId) :
    Option SceneIndex := do
  let node ← scene.nodes[id]?
  let isSkinned := node.isBone || (ix.parent? id).any ix.skinned.contains
  let registry ← (ix.registry.recordMaterial scene ⟨id, node⟩).sight? scene ⟨id, node⟩
  return ix.pass scene options ⟨id, node⟩ isSkinned registry

def of? (scene : Scene) (options : Options) : Option SceneIndex := do
  let w ← scene.walk?
  let ix ← w.order.foldlM (visit scene options) { order := w.order, parents := w.parents }
  return { ix with registry := if options.instanceAll then ix.registry else ix.registry.prune }

def add (scene : Scene) (options : Options) (ix : SceneIndex) (v : Visit) : SceneIndex :=
  ix.pass scene options v.placed v.skinned (ix.registry.record scene v.placed)

variable {scene : Scene} {options : Options} {ix : SceneIndex} {w : Walk}

theorem skinned_add (v : Visit) :
    (ix.add scene options v).skinned = Walk.mark v.skinned v.id ix.skinned := rfl

theorem visit_eq {p : Placed} (hp : scene.nodes[p.id]? = some p.node)
    (hindexed : ix.registry.Indexed) (parent : Option Placed) :
    ix.visit scene options p.id = some (ix.add scene options
      ⟨p, parent, p.node.isBone || (ix.parent? p.id).any ix.skinned.contains⟩) := by
  have hrecord : (ix.registry.recordMaterial scene p).Indexed := by
    rw [Registry.recordMaterial]
    split <;> exact hindexed
  simp [visit, hp, hrecord.sight?_eq]
  rfl

theorem foldlM_visit {ps passed : List Placed} (hps : ∀ p ∈ ps, scene.nodes[p.id]? = some p.node)
    (hw : ix.parents = w.parents)
    (hregistry : ix.registry = passed.foldl (Registry.record scene) .empty) :
    (ps.map (·.id)).foldlM (visit scene options) ix =
      some ((w.visitsFrom scene ix.skinned (ps.map (·.id))).foldl (add scene options) ix) := by
  induction ps generalizing ix passed with
  | nil => rfl
  | cons p rest ih =>
    rw [List.forall_mem_cons] at hps
    obtain ⟨hp, hrest⟩ := hps
    obtain ⟨firsts, hrecords⟩ := Registry.Records.foldl scene passed
    have hindexed : ix.registry.Indexed := by
      rw [hregistry]
      exact hrecords.indexed
    have hparent : ix.parent? p.id = w.parent? p.id := by rw [parent?, hw, Walk.parent?]
    have hplaced : scene.placed? p.id = some p := Scene.placed?_eq_some.mpr hp
    rw [List.map_cons, List.foldlM_cons, visit_eq hp hindexed ((w.parent? p.id).bind scene.placed?),
      Walk.visitsFrom_cons hplaced, hparent]
    have hnext : (ix.registry.record scene p) =
        (passed ++ [p]).foldl (Registry.record scene) .empty := by
      rw [List.foldl_concat, ← hregistry]
    exact ih hrest hw hnext

variable (vs : List Visit)

theorem order_foldl : (vs.foldl (add scene options) ix).order = ix.order := by
  induction vs generalizing ix with
  | nil => rfl
  | cons v rest ih => exact ih

theorem parents_foldl : (vs.foldl (add scene options) ix).parents = ix.parents := by
  induction vs generalizing ix with
  | nil => rfl
  | cons v rest ih => exact ih

theorem registry_foldl : (vs.foldl (add scene options) ix).registry =
    (vs.map (·.placed)).foldl (Registry.record scene) ix.registry := by
  induction vs generalizing ix with
  | nil => rfl
  | cons v rest ih => exact ih

theorem mem_skinned_foldl {id : NodeId} : id ∈ (vs.foldl (add scene options) ix).skinned ↔
    (∃ v ∈ vs, v.skinned = true ∧ id = v.id) ∨ id ∈ ix.skinned := by
  induction vs generalizing ix with
  | nil => simp
  | cons v rest ih =>
    rw [List.foldl_cons, ih, skinned_add, Walk.mem_mark]
    rw [List.exists_mem_cons_iff, or_left_comm, or_assoc]

theorem entries_transformKeys_foldl : (vs.foldl (add scene options) ix).transformKeys.entries =
    ix.transformKeys.entries ++
      (((vs.filter (·.isBound options.canonical scene.root)).map (·.id)).zip
        (Naming.uniqueAll ix.takenKeys ((vs.filter (·.isBound options.canonical scene.root)).map
          fun v => transformKeyBase v.node))) := by
  induction vs generalizing ix with
  | nil => simp
  | cons v rest ih =>
    rw [List.foldl_cons, ih, List.filter_cons]
    have hbound : Visit.isBound options.canonical scene.root ⟨v.placed, none, v.skinned⟩ =
        v.isBound options.canonical scene.root := rfl
    cases hv : v.isBound options.canonical scene.root with
    | true => simp [add, pass, hbound, hv, SlotTable.add, Naming.uniqueAll, Visit.id, Visit.node]
    | false => simp [add, pass, hbound, hv]

theorem entries_materials_foldl : (vs.foldl (add scene options) ix).materials.entries =
    ix.materials.entries ++
      (distinctFrom (·.id) (ix.materials.slots.map Prod.fst)
        (((vs.map (·.placed)).filter (·.node.isMesh)).filterMap (materialUse? scene))).map
          fun use => (use.id, use.firstUser.id) := by
  induction vs generalizing ix with
  | nil => simp [distinctFrom]
  | cons v rest ih =>
    have hnote : (ix.add scene options v).materials =
        noteMaterial scene v.placed ix.materials := rfl
    rw [List.foldl_cons, ih, List.map_cons, List.filter_cons, hnote, noteMaterial]
    by_cases hmesh : v.placed.node.isMesh
    · rw [if_pos hmesh, if_pos hmesh, List.filterMap_cons]
      cases materialUse? scene v.placed with
      | none => rfl
      | some use =>
        simp only [distinctFrom, ← SlotTable.has_iff]
        split
        · rfl
        · simp [SlotTable.add]
    · rw [if_neg hmesh, if_neg hmesh]

theorem sound_foldl (hkeys : ix.transformKeys.Sound) (hmaterials : ix.materials.Sound) :
    (vs.foldl (add scene options) ix).transformKeys.Sound ∧
      (vs.foldl (add scene options) ix).materials.Sound := by
  induction vs generalizing ix with
  | nil => exact ⟨hkeys, hmaterials⟩
  | cons v rest ih =>
    refine ih ?_ ?_
    · simp only [add, pass]
      split
      · exact hkeys.add _ _
      · exact hkeys
    · simp only [add, pass, noteMaterial]
      split
      · split
        · exact hmaterials
        · exact hmaterials.add _ _
      · exact hmaterials

structure Indexes (scene : Scene) (options : Options) (ix : SceneIndex) : Prop where
  order : ix.order = scene.visits.map (·.id)
  parents : ∀ v ∈ scene.visits, ix.parent? v.id = v.parent.map (·.id)
  skinned : ∀ v ∈ scene.visits, ix.skinned.contains v.id = v.skinned
  materials : ix.materials.entries =
    (Survey.of scene options).materials.map fun use => (use.id, use.firstUser.id)
  transformKeys : ix.transformKeys.entries =
    (Survey.of scene options).transformKeys.map fun e => (e.1.id, e.2)
  soundMaterials : ix.materials.Sound
  soundKeys : ix.transformKeys.Sound
  registry : ix.registry = (Survey.of scene options).registry

end SceneIndex

namespace Walk

variable {scene : Scene} {w : Walk}

theorem parent_of_mem_visitsFrom {ps : List Placed}
    (hps : ∀ p ∈ ps, scene.nodes[p.id]? = some p.node) {skinned : List NodeId} {v : Visit}
    (hv : v ∈ w.visitsFrom scene skinned (ps.map (·.id))) :
    v.parent = (w.parent? v.id).bind scene.placed? := by
  induction ps generalizing skinned with
  | nil => contradiction
  | cons p rest ih =>
    rw [List.forall_mem_cons] at hps
    rw [List.map_cons, visitsFrom_cons (Scene.placed?_eq_some.mpr hps.1)] at hv
    rcases List.mem_cons.mp hv with rfl | hv
    · rfl
    · exact ih hps.2 hv

def through (scene : Scene) (tree : SceneTree) : Walk :=
  ⟨[], tree.ids.reverse, listings scene tree.ids⟩

theorem order_through {tree : SceneTree} :
    (through scene tree).order = tree.preorder.map (·.id) := List.reverse_reverse _

end Walk

namespace Search.Finds

variable {scene : Scene} {tree : SceneTree} {v : Visit}

theorem walk?_eq (h : Finds scene tree) : scene.walk? = some (.through scene tree) :=
  Walk.run_start h

theorem visitsFrom_through (h : Finds scene tree) :
    (Walk.through scene tree).visitsFrom scene [] (tree.preorder.map (·.id)) = scene.visits := by
  rw [Scene.visits, h.walk?_eq, ← Walk.order_through]

theorem map_id_visits (h : Finds scene tree) :
    scene.visits.map (·.id) = tree.preorder.map (·.id) := by
  rw [← h.map_placed_visits, List.map_map]
  rfl

theorem parent_eq (h : Finds scene tree) (hv : v ∈ scene.visits) :
    v.parent = ((Walk.through scene tree).parent? v.id).bind scene.placed? := by
  rw [← h.visitsFrom_through] at hv
  exact Walk.parent_of_mem_visitsFrom (fun _ hp => h.unfolds.node_of_mem hp) hv

theorem placed?_parent (h : Finds scene tree) (hv : v ∈ scene.visits) {q : Placed}
    (hq : v.parent = some q) : scene.placed? q.id = some q := by
  rw [h.parent_eq hv, Option.bind_eq_some_iff] at hq
  obtain ⟨id, -, hid⟩ := hq
  obtain ⟨node, -, rfl⟩ := Option.map_eq_some_iff.mp hid
  exact hid

theorem parent?_through (h : Finds scene tree) (hv : v ∈ scene.visits) :
    (Walk.through scene tree).parent? v.id = v.parent.map (·.id) := by
  rw [h.parent_eq hv]
  cases hq : (Walk.through scene tree).parent? v.id with
  | none => rfl
  | some id =>
    obtain ⟨q, hplaced, rfl⟩ := List.mem_map.mp ((Walk.lookup_listings h).mp hq).1
    rw [Option.bind_some, Scene.placed?_eq_some.mpr (h.unfolds.node_of_mem hplaced)]
    rfl

theorem eq_of_mem_visits (h : Finds scene tree) {u : Visit} (hv : v ∈ scene.visits)
    (hu : u ∈ scene.visits) (hid : v.id = u.id) : v = u := by
  have hnodup : (scene.visits.map (·.id)).Nodup := h.map_id_visits ▸ h.nodup
  exact List.inj_on_of_nodup_map hnodup hv hu hid

end Search.Finds

namespace SceneIndex

variable {scene : Scene} {options : Options} {tree : SceneTree}

def full (scene : Scene) (options : Options) (tree : SceneTree) : SceneIndex :=
  let w := Walk.through scene tree
  scene.visits.foldl (add scene options) { order := w.order, parents := w.parents }

theorem of?_eq (h : Search.Finds scene tree) (options : Options) : of? scene options =
    some { full scene options tree with
      registry := (Survey.of scene options).registry } := by
  let start : SceneIndex :=
    { order := (Walk.through scene tree).order, parents := (Walk.through scene tree).parents }
  have hrun : (Walk.through scene tree).order.foldlM (visit scene options) start =
      some (full scene options tree) := by
    have hnodes : ∀ p ∈ tree.preorder, scene.nodes[p.id]? = some p.node :=
      fun p hp => h.unfolds.node_of_mem hp
    have hregistry : start.registry = [].foldl (Registry.record scene) .empty := rfl
    rw [Walk.order_through, foldlM_visit (w := .through scene tree) hnodes rfl hregistry]
    exact congrArg (fun vs : List Visit => some (vs.foldl _ start)) h.visitsFrom_through
  have hregistry : (if options.instanceAll then (full scene options tree).registry
      else (full scene options tree).registry.prune) = (Survey.of scene options).registry := by
    rw [full, registry_foldl]
    rfl
  rw [of?, h.walk?_eq, ← hregistry]
  show ((Walk.through scene tree).order.foldlM (visit scene options) start).bind _ = _
  rw [hrun]
  rfl

theorem exists_of? (h : Search.Finds scene tree) (options : Options) :
    ∃ ix, of? scene options = some ix ∧ Indexes scene options ix := by
  refine ⟨_, of?_eq h options, ?_⟩
  have hsound : (full scene options tree).transformKeys.Sound ∧
      (full scene options tree).materials.Sound :=
    sound_foldl _ SlotTable.sound_empty SlotTable.sound_empty
  constructor
  case order =>
    show (full scene options tree).order = _
    rw [full, order_foldl, h.map_id_visits]
    exact Walk.order_through
  case parents =>
    intro v hv
    show (full scene options tree).parents.lookup v.id = _
    rw [full, parents_foldl]
    exact h.parent?_through hv
  case skinned =>
    intro v hv
    rw [Bool.eq_iff_iff, List.contains_iff_mem]
    show v.id ∈ (full scene options tree).skinned ↔ _
    rw [full, mem_skinned_foldl]
    constructor
    · rintro (⟨u, hu, hskinned, hid⟩ | hnil)
      · rwa [h.eq_of_mem_visits hv hu hid]
      · contradiction
    · exact fun hskinned => .inl ⟨v, hv, hskinned, rfl⟩
  case materials =>
    show (full scene options tree).materials.entries = _
    rw [full, entries_materials_foldl]
    rfl
  case transformKeys =>
    show (full scene options tree).transformKeys.entries =
      (boundKeys options.canonical scene.root scene.visits).map _
    rw [full, entries_transformKeys_foldl, boundKeys, List.map_map, List.zip_map_left,
      List.zip_map_left, List.map_map]
    rfl
  case soundMaterials => exact hsound.2
  case soundKeys => exact hsound.1
  case registry => rfl

end SceneIndex

end SceneMarkup
