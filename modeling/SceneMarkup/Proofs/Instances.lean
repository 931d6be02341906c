import SceneMarkup.Proofs.AttributeNames
import SceneMarkup.Proofs.Defaults
import SceneMarkup.Proofs.Duplicates
import SceneMarkup.Proofs.Elements
import SceneMarkup.Proofs.InstanceNames

/-!
Shared geometries through a whole unit. The element of a node, the table of the geometries, the
imports, the model and the host all go by the survey, and every row of the table names a node that
has the geometry.
-/

namespace SceneMarkup

structure Survey.Shares (survey : Survey) (scene : Scene) (node : Node) (g : SharedGeometry) :
    Prop where
  instancing : survey.instancing
  listed : ∃ own, scene.geometryOf? node = some own ∧ survey.registry.geometry? own.key = some g

def helperImport (names : List String) : String :=
  "import \x7b " ++ ", ".intercalate names ++ " \x7d from '@react-three/drei'\n"

theorem take_reference (name : String) :
    (Scope.instances.reference [name]).toList.take 9 = "instances".toList := by
  rw [Scope.reference, Naming.accessPath, List.foldl_cons, List.foldl_nil, Naming.propertyAccess,
    String.toList_append]
  exact List.take_left' rfl

namespace Setting

variable {s : Setting} {node : Node}

theorem shared?_eq_some {g : SharedGeometry} :
    s.shared? node = some g ↔ s.survey.Shares s.scene node g := by
  rw [shared?]
  split
  case isTrue hi =>
    rw [Option.bind_eq_some_iff]
    exact ⟨fun h => ⟨hi, h⟩, fun h => h.listed⟩
  case isFalse hi => exact ⟨fun h => absurd h (by simp), fun h => absurd h.instancing hi⟩

theorem shared?_eq_none :
    s.shared? node = none ↔ ¬ ∃ g, s.survey.Shares s.scene node g := by
  simp only [Option.eq_none_iff_forall_ne_some, ← shared?_eq_some, not_exists, ne_eq]

theorem tag_of_shares {g : SharedGeometry} (h : s.survey.Shares s.scene node g) :
    s.tag node = Scope.instances.reference [g.name] := by
  rw [tag, shared?_eq_some.mpr h]

theorem tag_of_not_shares (h : ¬ ∃ g, s.survey.Shares s.scene node g) :
    s.tag node = elementTag node.type := by
  rw [tag, shared?_eq_none.mpr h]

theorem element_of_shares {p : Placed} {g : SharedGeometry} (h : s.survey.Shares s.scene p.node g) :
    s.element p = ⟨p, Scope.instances.reference [g.name], s.instancedAttributes p⟩ := by
  rw [element, tag_of_shares h, attributes, shared?_eq_some.mpr h]

theorem element_of_not_shares {p : Placed} (h : ¬ ∃ g, s.survey.Shares s.scene p.node g) :
    s.element p = ⟨p, elementTag p.node.type, s.directAttributes p⟩ := by
  rw [element, tag_of_not_shares h, attributes, shared?_eq_none.mpr h]

end Setting

namespace Registry

variable {scene : Scene}

theorem exists_of_declaredOwner? {key : String} {id : NodeId}
    (h : declaredOwner? scene key = some id) :
    ∃ g ∈ scene.geometries, g.key = key ∧ id ∈ g.owner := by
  obtain ⟨g, hg, howner⟩ := List.exists_of_findSome?_eq_some h
  split_ifs at howner with hk
  exact ⟨g, Array.mem_toList_iff.mp hg, hk, howner⟩

end Registry

section Rows

variable {name name' : String}

end Rows

/-- The owner of a listed geometry has it too, even where it is no mesh or cannot be reached. -/
theorem Scene.exists_owner {scene : Scene} {tree : SceneTree} (h : scene.validate = .ok tree)
    {options : Options} {g : SharedGeometry}
    (hg : g ∈ (Survey.of scene options).registry.geometries) :
    ∃ node own, scene.nodes[g.owner]? = some node ∧ node.name ≠ "" ∧
      scene.geometryOf? node = some own ∧ own.key = g.key := by
  obtain ⟨htree, htable⟩ := validate_eq_ok.mp h
  obtain ⟨hnodes, -, howners⟩ := tableDefect?_eq_none.mp htable
  have hf := tree_finds htree
  have huses : ∃ node own, scene.nodes[g.owner]? = some node ∧
      scene.geometryOf? node = some own ∧ own.key = g.key := by
    rw [hf.registry_eq, Registry.geometries_of] at hg
    obtain ⟨firsts, hr⟩ := Registry.Records.foldl scene tree.preorder
    obtain ⟨p, -, hd⟩ := hr.exists_describes (List.mem_of_mem_filter hg)
    obtain ⟨⟨⟨node, own, hn, -, hown, hk⟩, -⟩, -, howner⟩ := hf.shares hd
    cases hdeclared : Registry.declaredOwner? scene g.key with
    | none =>
      rw [hdeclared, Option.getD_none] at howner
      exact ⟨node, own, howner ▸ hn, hown, hk⟩
    | some id =>
      rw [hdeclared, Option.getD_some] at howner
      obtain ⟨declared, hm, hk', hid⟩ := Registry.exists_of_declaredOwner? hdeclared
      obtain ⟨node, own, hn, hown, hsame⟩ := howners declared hm id hid
      exact ⟨node, own, howner ▸ hn, hown, hsame.trans hk'⟩
  obtain ⟨node, own, hn, hown, hk⟩ := huses
  refine ⟨node, own, hn, fun hname => ?_, hown, hk⟩
  have hnone := ((hnodes node (Array.mem_of_getElem? hn)).unnamed hname).1
  simp [geometryOf?, hnone] at hown

theorem Survey.Shares.mem_and_key {scene : Scene} {options : Options} {node : Node}
    {g : SharedGeometry} (h : (Survey.of scene options).Shares scene node g) :
    g ∈ (Survey.of scene options).registry.geometries ∧
      (scene.geometryOf? node).map (·.key) = some g.key := by
  obtain ⟨own, hown, hg⟩ := h.listed
  obtain ⟨hmem, hkey⟩ := (Survey.indexed_registry scene options).geometry?_eq_some.mp hg
  exact ⟨hmem, by rw [hown, Option.map_some, hkey]⟩

namespace Plan

variable {scene : Scene} {options : Options} {saved : Option Json} {tree : SceneTree}

theorem instances_of (h : (Survey.of scene options).instancing) :
    (Plan.of scene options saved tree).instances =
      (Survey.of scene options).registry.geometries.map fun g =>
        ⟨g.name, (scene.nodes[g.owner]?.map (·.name)).getD ""⟩ := by
  rw [instances, if_pos (show (Plan.of scene options saved tree).survey.instancing from h)]
  rfl

theorem instances_ne_nil : (Plan.of scene options saved tree).instances ≠ [] ↔
    (Survey.of scene options).instancing := by
  constructor
  · intro h
    by_contra hi
    exact h (if_neg hi)
  · intro h
    rw [instances_of h]
    simpa using ((Survey.instancing_iff scene options).mp h).2

end Plan

theorem Imports.within_text (i : Imports) :
    Text.Within (helperImport i.helperNames) i.text := by
  have hline : line "" i.helperNames "@react-three/drei" = helperImport i.helperNames := by
    unfold line Text.braced helperImport
    rw [show "import \x7b " = "import " ++ "" ++ "\x7b" ++ " " from rfl,
      show " \x7d from '@react-three/drei'\n" =
        " " ++ "\x7d" ++ " from '" ++ "@react-three/drei" ++ "'\n" from rfl]
    simp only [String.append_assoc]
  rw [← hline]
  exact (((Text.Within.refl _).append_left _).append_right _).append_right _

theorem Plan.within_imports (p : Plan) : Text.Within (helperImport p.imports.helperNames) p.text :=
  p.imports.within_text.trans (within_text (by simp [blocks]))

/-- The names of all geometries that are met, and so of those that are kept as shared, are distinct.
Each is a capital and letters with perhaps a number behind them, whatever the nodes are called, and
stands bare: as a key, and as a tag after the dot. -/
theorem names_of_survey (scene : Scene) (options : Options) :
    let met := (scene.visits.map Visit.placed).foldl (Registry.record scene) .empty
    let setting := Setting.of scene options
    let kept := setting.survey.registry
    (met.geometries.map (·.name)).Nodup ∧ (kept.geometries.map (·.name)).Nodup ∧
    kept.geometries.Sublist met.geometries ∧
    (∀ g ∈ met.geometries, Naming.IsDisplayName g.name ∧ Naming.isBareIdentifier g.name = true ∧
      Naming.objectKey g.name = g.name ∧
      Scope.instances.reference [g.name] = "instances." ++ g.name) ∧
    ∀ node g, setting.survey.Shares scene node g → setting.tag node = "instances." ++ g.name := by
  obtain ⟨firsts, hr⟩ := Registry.Records.foldl scene (scene.visits.map Visit.placed)
  have hkept : (Survey.of scene options).registry.geometries.Sublist
      ((scene.visits.map Visit.placed).foldl (Registry.record scene) .empty).geometries := by
    rw [show (Survey.of scene options).registry = .of scene options _ from rfl,
      Registry.geometries_of]
    exact List.filter_sublist
  refine ⟨hr.nodup_names, Registry.nodup_names_of .., hkept, fun g hg => ?_, fun node g hg => ?_⟩
  · have hdisplay := hr.isDisplayName hg
    exact ⟨hdisplay, hdisplay.isBareIdentifier, if_pos hdisplay.isBareIdentifier,
      hdisplay.reference_eq⟩
  · have hdisplay := hr.isDisplayName (hkept.subset hg.mem_and_key.1)
    exact (Setting.tag_of_shares (s := .of scene options) hg).trans hdisplay.reference_eq

end SceneMarkup
