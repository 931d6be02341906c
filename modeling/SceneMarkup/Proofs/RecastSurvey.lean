import SceneMarkup.Proofs.Bindings
import SceneMarkup.Proofs.Recasting

namespace SceneMarkup

open List (Forall₂)

def Geometry.rename (ρ : NodeId → NodeId) (g : Geometry) : Geometry :=
  { g with owner := g.owner.map ρ }

@[simp] theorem Geometry.map_rename_id (gs : Array Geometry) : gs.map (·.rename id) = gs := by
  have hid : (fun g : Geometry => g.rename id) = id := by
    funext g
    rw [rename, Option.map_id]
    rfl
  rw [hid, Array.map_id]

def SharedGeometry.mapOwner (f : NodeId → NodeId) (g : SharedGeometry) : SharedGeometry :=
  { g with owner := f g.owner }

namespace Registry

def mapOwners (f : NodeId → NodeId) (r : Registry) : Registry :=
  { r with geometries := r.geometries.map (·.mapOwner f) }

@[simp] theorem mapOwners_id (r : Registry) : r.mapOwners id = r := by
  have hid : (fun g : SharedGeometry => g.mapOwner id) = id := rfl
  rw [mapOwners, hid, List.map_id]

@[simp] theorem geometries_mapOwners (f : NodeId → NodeId) (r : Registry) :
    (r.mapOwners f).geometries = r.geometries.map (·.mapOwner f) := rfl

@[simp] theorem places_mapOwners (f : NodeId → NodeId) (r : Registry) :
    (r.mapOwners f).places = r.places := rfl

theorem geometry?_mapOwners (f : NodeId → NodeId) (r : Registry) (key : String) :
    geometry? (r.mapOwners f) key = ( geometry? r key).map (·.mapOwner f) := by
  unfold geometry?
  rw [places_mapOwners, geometries_mapOwners]
  cases r.places.lookup key with
  | none => rfl
  | some i => simp

theorem prune_mapOwners (f : NodeId → NodeId) (r : Registry) :
    (r.mapOwners f).prune = r.prune.mapOwners f := by
  have hfilter : (r.geometries.map (·.mapOwner f)).filter (1 < ·.count) =
      (r.geometries.filter (1 < ·.count)).map (·.mapOwner f) := by
    rw [List.filter_map]
    rfl
  simp only [prune, mapOwners, hfilter, List.zipIdx_map, List.map_map]
  rfl

variable {scene : Scene}

theorem record_of_not_isMesh {p : Placed} (h : p.node.isMesh = false) (r : Registry) :
    r.record scene p = r := by
  simp [record, recordMaterial, recordGeometry, Scene.meshMaterial?, Scene.meshKey?, h]

theorem foldl_record_filter (ps : List Placed) (r : Registry) :
    (ps.filter (·.node.isMesh)).foldl (record scene) r = ps.foldl (record scene) r := by
  induction ps generalizing r with
  | nil => rfl
  | cons p rest ih =>
    rw [List.filter_cons, List.foldl_cons]
    split
    case isTrue => rw [List.foldl_cons, ih]
    case isFalse hp => rw [record_of_not_isMesh (Bool.eq_false_iff.mpr hp), ih]

end Registry

namespace Recasting

structure Scenes (c : Recasting) (scene scene' : Scene) (tree tree' : SceneTree) : Prop where
  valid : scene.validate = .ok tree
  valid' : scene'.validate = .ok tree'
  injective : Function.Injective c.rename
  top : c.Places tree.placed tree'.placed
  below : c.Trees tree.children tree'.children
  nodes : ∀ id node, scene.nodes[id]? = some node →
    ∃ node', scene'.nodes[c.rename id]? = some node' ∧ node.Alike node'
  materials : scene'.materials = scene.materials
  geometries : scene'.geometries = scene.geometries.map (·.rename c.rename)
  animations : scene'.animations = scene.animations
  clips : c.clips = scene.animations

namespace Scenes

variable {c : Recasting} {scene scene' : Scene} {tree tree' : SceneTree}

theorem finds (h : c.Scenes scene scene' tree tree') : Search.Finds scene tree :=
  Scene.tree_finds (Scene.validate_eq_ok.mp h.valid).1

theorem finds' (h : c.Scenes scene scene' tree tree') : Search.Finds scene' tree' :=
  Scene.tree_finds (Scene.validate_eq_ok.mp h.valid').1

theorem root (h : c.Scenes scene scene' tree tree') : scene'.root = c.rename scene.root := by
  rw [← h.finds.root, ← h.finds'.root]
  exact h.top.id

theorem trees (h : c.Scenes scene scene' tree tree') : c.Trees [tree] [tree'] := by
  have htop := h.top
  have hbelow := h.below
  cases tree
  cases tree'
  exact .branch htop hbelow .nil

theorem visits (h : c.Scenes scene scene' tree tree') :
    Forall₂ c.Visits scene.visits (scene'.visits.filter (!c.isAdded ·.id)) := by
  have hv := h.trees.visits none none false fun _ _ _ _ => rfl
  simpa [← h.finds.visits_eq, ← h.finds'.visits_eq] using hv

theorem isBare_of_mem_visits (h : c.Scenes scene scene' tree tree') {v : Visit}
    (hv : v ∈ scene'.visits) (ha : c.isAdded v.id = true) :
    v.node.IsBare c.options c.clips :=
  h.trees.isBare (p := v.placed) (by simpa using h.finds'.mem_visits hv) ha

theorem filter_visits (h : c.Scenes scene scene' tree tree') {p q : Visit → Bool}
    (hpq : ∀ v w, c.Visits v w → q w = p v)
    (hadded : ∀ v ∈ scene'.visits, c.isAdded v.id = true → q v = false) :
    Forall₂ c.Visits (scene.visits.filter p) (scene'.visits.filter q) := by
  have hkept : (scene'.visits.filter (!c.isAdded ·.id)).filter q = scene'.visits.filter q := by
    rw [List.filter_filter]
    refine List.filter_congr fun v hv => ?_
    cases ha : c.isAdded v.id with
    | true => simp [hadded v hv ha]
    | false => simp
  rw [← hkept]
  exact forall₂_filter h.visits hpq

theorem meshes (h : c.Scenes scene scene' tree tree') :
    Forall₂ c.Places ((scene.visits.map (·.placed)).filter (·.node.isMesh))
      ((scene'.visits.map (·.placed)).filter (·.node.isMesh)) := by
  rw [List.filter_map, List.filter_map, List.forall₂_map_left_iff, List.forall₂_map_right_iff]
  refine (h.filter_visits ?_ ?_).imp fun _ _ hvw => hvw.placed
  · intro v w hvw
    exact hvw.placed.node.isMesh
  · intro v hv ha
    exact (h.isBare_of_mem_visits hv ha).isMesh

theorem materialOf? (h : c.Scenes scene scene' tree tree') {n m : Node} (hn : n.Alike m) :
    scene'.materialOf? m = scene.materialOf? n := by
  cases hn
  rw [Scene.materialOf?, Scene.materialOf?, h.materials]

theorem geometryOf? (h : c.Scenes scene scene' tree tree') {n m : Node} (hn : n.Alike m) :
    scene'.geometryOf? m = (scene.geometryOf? n).map (·.rename c.rename) := by
  cases hn
  simp only [Scene.geometryOf?, h.geometries, Array.getElem?_map, Option.map_bind]
  rfl

theorem meshMaterial? (h : c.Scenes scene scene' tree tree') {n m : Node} (hn : n.Alike m) :
    scene'.meshMaterial? m = scene.meshMaterial? n := by
  rw [Scene.meshMaterial?, Scene.meshMaterial?, hn.isMesh, h.materialOf? hn]

theorem meshKey? (h : c.Scenes scene scene' tree tree') {n m : Node} (hn : n.Alike m) :
    scene'.meshKey? m = scene.meshKey? n := by
  rw [Scene.meshKey?, Scene.meshKey?, hn.isMesh, h.geometryOf? hn, Option.map_map]
  rfl

theorem declaredOwner? (h : c.Scenes scene scene' tree tree') (key : String) :
    Registry.declaredOwner? scene' key = (Registry.declaredOwner? scene key).map c.rename := by
  rw [Registry.declaredOwner?, Registry.declaredOwner?, h.geometries, Array.toList_map,
    List.findSome?_map, List.map_findSome?]
  congr 1
  funext g
  simp only [Function.comp_apply, Geometry.rename]
  split <;> rfl

theorem sighted (h : c.Scenes scene scene' tree tree') {p q : Placed} (hp : c.Places p q)
    (r : Registry) (key : String) : (r.mapOwners c.rename).sighted scene' q key =
      (r.sighted scene p key).mapOwner c.rename := by
  have hnames : (r.mapOwners c.rename).geometries.map (·.name) = r.geometries.map (·.name) := by
    rw [Registry.geometries_mapOwners, List.map_map]
    rfl
  have howner : ((Registry.declaredOwner? scene key).map c.rename).getD q.id =
      c.rename ((Registry.declaredOwner? scene key).getD p.id) := by
    rw [hp.id, Option.getD_map]
  rw [Registry.sighted, hnames, hp.node.name, h.declaredOwner?, howner]
  rfl

theorem record (h : c.Scenes scene scene' tree tree') {p q : Placed} (hp : c.Places p q)
    (r : Registry) :
    (r.mapOwners c.rename).record scene' q = (r.record scene p).mapOwners c.rename := by
  have hmaterial : (r.mapOwners c.rename).recordMaterial scene' q =
      (r.recordMaterial scene p).mapOwners c.rename := by
    rw [Registry.recordMaterial, Registry.recordMaterial, h.meshMaterial? hp.node]
    cases scene.meshMaterial? p.node <;> rfl
  rw [Registry.record, Registry.record, hmaterial]
  generalize r.recordMaterial scene p = r
  rw [Registry.recordGeometry, Registry.recordGeometry, h.meshKey? hp.node,
    Registry.places_mapOwners]
  cases scene.meshKey? p.node with
  | none => rfl
  | some key =>
    simp only [h.sighted hp, Registry.geometries_mapOwners]
    cases r.places.lookup key with
    | none => simp [Registry.mapOwners]
    | some i =>
      have hcount (gs : List SharedGeometry) :
          (gs.map (·.mapOwner c.rename)).modify i (fun g => { g with count := g.count + 1 }) =
            (gs.modify i fun g => { g with count := g.count + 1 }).map (·.mapOwner c.rename) := by
        induction gs generalizing i with
        | nil => cases i <;> rfl
        | cons g rest ih =>
          cases i with
          | zero => rfl
          | succ i => exact congrArg (_ :: ·) (ih i)
      simp only [hcount]
      rfl

theorem foldl_record (h : c.Scenes scene scene' tree tree') {ps qs : List Placed}
    (hps : Forall₂ c.Places ps qs) (r : Registry) :
    qs.foldl (Registry.record scene') (r.mapOwners c.rename) =
      (ps.foldl (Registry.record scene) r).mapOwners c.rename := by
  induction hps generalizing r with
  | nil => rfl
  | cons hp _ ih => rw [List.foldl_cons, List.foldl_cons, h.record hp, ih]

theorem registry (h : c.Scenes scene scene' tree tree') :
    (Survey.of scene' c.options).registry =
      (Survey.of scene c.options).registry.mapOwners c.rename := by
  have hall := h.foldl_record h.meshes .empty
  rw [Registry.foldl_record_filter, Registry.foldl_record_filter] at hall
  have hempty : Registry.empty.mapOwners c.rename = .empty := rfl
  show Registry.of scene' c.options (scene'.visits.map (·.placed)) =
    (Registry.of scene c.options (scene.visits.map (·.placed))).mapOwners c.rename
  rw [Registry.of, Registry.of, ← hempty, hall]
  split
  · rfl
  · exact Registry.prune_mapOwners _ _

theorem instancing (h : c.Scenes scene scene' tree tree') :
    (Survey.of scene' c.options).instancing = (Survey.of scene c.options).instancing := by
  show (c.options.requestsInstancing &&
      !(Survey.of scene' c.options).registry.geometries.isEmpty) =
    (c.options.requestsInstancing && !(Survey.of scene c.options).registry.geometries.isEmpty)
  rw [h.registry, Registry.geometries_mapOwners, List.isEmpty_map]

structure Uses (c : Recasting) (u v : MaterialUse) : Prop where
  id : v.id = u.id
  material : v.material = u.material
  user : c.Places u.firstUser v.firstUser

theorem materialUse? (h : c.Scenes scene scene' tree tree') {p q : Placed} (hp : c.Places p q) :
    Option.Rel (Uses c) (SceneMarkup.materialUse? scene p) (SceneMarkup.materialUse? scene' q) := by
  rw [SceneMarkup.materialUse?, SceneMarkup.materialUse?, hp.node.material, h.materials]
  cases p.node.material with
  | none => exact .none
  | some id =>
    show Option.Rel _ (scene.materials[id]?.bind _) (scene.materials[id]?.bind _)
    cases scene.materials[id]? with
    | none => exact .none
    | some material => exact .some ⟨rfl, rfl, hp⟩

theorem uses (h : c.Scenes scene scene' tree tree') :
    Forall₂ (Uses c) (Survey.of scene c.options).materials
      (Survey.of scene' c.options).materials := by
  have huses := forall₂_filterMap h.meshes fun _ _ => h.materialUse?
  exact forall₂_distinctFrom huses (fun _ _ hu => hu.id) []

theorem isBound (h : c.Scenes scene scene' tree tree') {v w : Visit} (hvw : c.Visits v w) :
    w.isBound c.options.canonical scene'.root = v.isBound c.options.canonical scene.root := by
  have hroot : (w.id != scene'.root) = (v.id != scene.root) := by
    rw [show w.id = c.rename v.id from hvw.placed.id, h.root, Bool.eq_iff_iff, bne_iff_ne,
      bne_iff_ne, h.injective.ne_iff]
  have hdelta := hvw.placed.node.delta c.options.canonical
  rw [Visit.isBound, Visit.isBound, hroot, hvw.skinned, Visit.node, Visit.node, hdelta]

theorem transformKeys (h : c.Scenes scene scene' tree tree') :
    Forall₂ (fun e e' => c.Places e.1 e'.1 ∧ e'.2 = e.2)
      (Survey.of scene c.options).transformKeys (Survey.of scene' c.options).transformKeys := by
  have hbound : Forall₂ c.Places
      ((scene.visits.filter (·.isBound c.options.canonical scene.root)).map (·.placed))
      ((scene'.visits.filter (·.isBound c.options.canonical scene'.root)).map (·.placed)) := by
    rw [List.forall₂_map_left_iff, List.forall₂_map_right_iff]
    refine (h.filter_visits ?_ ?_).imp fun _ _ hvw => hvw.placed
    · intro v w hvw
      exact h.isBound hvw
    · intro v hv ha
      have hstill := (h.isBare_of_mem_visits hv ha).identity
      rw [Visit.isBound, hstill, Bool.and_false]
  have hbases := map_eq_of_forall₂ hbound
    (f := fun p => transformKeyBase p.node) (g := fun p => transformKeyBase p.node)
    fun p q hp => by rw [transformKeyBase, transformKeyBase, hp.node.name]
  show Forall₂ _ (boundKeys _ _ _) (boundKeys _ _ _)
  rw [boundKeys, boundKeys, hbases]
  exact forall₂_zip_same hbound _

theorem transformKey? (h : c.Scenes scene scene' tree tree') (id : NodeId) :
    (Survey.of scene' c.options).transformKey? (c.rename id) =
      (Survey.of scene c.options).transformKey? id := by
  have hkeys := h.transformKeys
  rw [Survey.transformKey?, Survey.transformKey?]
  generalize (Survey.of scene c.options).transformKeys = es at hkeys ⊢
  generalize (Survey.of scene' c.options).transformKeys = es' at hkeys ⊢
  induction hkeys with
  | nil => rfl
  | @cons e e' _ _ hee _ ih =>
    have hid : (e'.1.id == c.rename id) = (e.1.id == id) := by
      rw [hee.1.id, Bool.eq_iff_iff, beq_iff_eq, beq_iff_eq, h.injective.eq_iff]
    rw [List.find?_cons, List.find?_cons, hid]
    cases e.1.id == id with
    | true => exact congrArg some hee.2
    | false => exact ih

theorem transformKey?_of_isAdded (h : c.Scenes scene scene' tree tree') {id : NodeId}
    (ha : c.isAdded id = true) : (Survey.of scene' c.options).transformKey? id = none := by
  have hkeys := h.transformKeys
  rw [Survey.transformKey?]
  generalize (Survey.of scene c.options).transformKeys = es at hkeys
  generalize (Survey.of scene' c.options).transformKeys = es' at hkeys ⊢
  induction hkeys with
  | nil => rfl
  | @cons e e' _ _ hee _ ih =>
    have hid : e'.1.id ≠ id := by
      rintro rfl
      rw [hee.1.kept] at ha
      contradiction
    rw [List.find?_cons, beq_false_of_ne hid]
    exact ih

end Scenes

end Recasting

end SceneMarkup
