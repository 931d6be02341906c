import SceneMarkup.Proofs.Instances

namespace SceneMarkup

def cameraTypes : List String := ["PerspectiveCamera", "OrthographicCamera"]

theorem Node.isCamera_iff {node : Node} : node.nodeClass.isCamera ↔ node.type ∈ cameraTypes := by
  rw [nodeClass]
  constructor
  · intro h
    by_contra hn
    simp only [cameraTypes, List.mem_cons, List.not_mem_nil, or_false, not_or] at hn
    simp only [NodeClass.ofType, beq_iff_eq, hn.1, hn.2] at h
    split_ifs at h <;> contradiction
  · have hcameras : ∀ type ∈ cameraTypes, (NodeClass.ofType type).isCamera := by decide
    exact hcameras _

theorem elementTag_eq_iff {type name : String} (h : name ∈ cameraTypes) :
    elementTag type = name ↔ type = name := by
  have hcontainer : ∀ name ∈ cameraTypes, groupTag ≠ name ∧ NodeClass.ofType name ≠ .container := by
    decide
  have hintrinsic : ∀ type ∈ intrinsicTypes, ∀ name ∈ cameraTypes,
      lowerFirst type ≠ name ∧ type ≠ name := by decide
  rw [elementTag]
  split
  case isTrue hc =>
    obtain ⟨hgroup, hne⟩ := hcontainer name h
    exact ⟨fun he => absurd he hgroup, fun he => absurd (he ▸ hc) hne⟩
  case isFalse =>
    split
    case isTrue hi =>
      obtain ⟨hlower, hne⟩ := hintrinsic type (List.contains_iff_mem.mp hi) name h
      exact ⟨fun he => absurd he hlower, fun he => absurd he hne⟩
    case isFalse => rfl

theorem reference_not_mem_cameraTypes (name : String) :
    Scope.instances.reference [name] ∉ cameraTypes := by
  have htake : ∀ type ∈ cameraTypes, type.toList.take 9 ≠ "instances".toList := by decide
  exact fun h => htake _ h (take_reference name)

namespace Setting

variable {s : Setting} {node : Node} {tag : String}

theorem tag_eq_iff (h : tag ∈ cameraTypes) :
    s.tag node = tag ↔ (¬ ∃ g, s.survey.Shares s.scene node g) ∧ node.type = tag := by
  by_cases hs : ∃ g, s.survey.Shares s.scene node g
  · obtain ⟨g, hg⟩ := hs
    rw [tag_of_shares hg]
    constructor
    · rintro rfl
      exact absurd h (reference_not_mem_cameraTypes g.name)
    · exact fun ⟨hnone, _⟩ => absurd ⟨g, hg⟩ hnone
  · rw [tag_of_not_shares hs, elementTag_eq_iff h]
    exact (and_iff_right hs).symm

end Setting

namespace Composition

variable {scene : Scene} {tree : SceneTree} {s : Setting} {tag : String}

theorem mem_cameras_of_mem_cameraTypes (h : tag ∈ cameraTypes) :
    tag ∈ (of s tree).cameras ↔ ∃ e ∈ (of s tree).written, e.tag = tag := by
  rw [mem_cameras]
  refine exists_congr fun e => and_congr_right fun he => and_iff_right_of_imp fun htag => ?_
  rw [written_of, List.mem_map] at he
  obtain ⟨p, -, rfl⟩ := he
  rw [Node.isCamera_iff]
  exact ((Setting.tag_eq_iff h).mp htag).2 ▸ h

theorem mem_cameras_iff : tag ∈ (of s tree).cameras ↔
    (tag ∈ cameraTypes ∧ ∃ e ∈ (of s tree).written, e.tag = tag) ∨
      ∃ e ∈ (of s tree).written, e.origin.node.type ∈ cameraTypes ∧
        ∃ g, s.survey.Shares s.scene e.origin.node g ∧
          tag = Scope.instances.reference [g.name] := by
  constructor
  · intro h
    obtain ⟨e, he, hcamera, rfl⟩ := mem_cameras.mp h
    rw [Node.isCamera_iff] at hcamera
    obtain ⟨p, -, rfl⟩ := List.mem_map.mp (written_of s tree ▸ he)
    by_cases hs : ∃ g, s.survey.Shares s.scene p.node g
    · obtain ⟨g, hg⟩ := hs
      exact .inr ⟨_, he, hcamera, g, hg, Setting.tag_of_shares hg⟩
    · have htag : s.tag p.node = p.node.type :=
        (Setting.tag_eq_iff hcamera).mpr ⟨hs, rfl⟩
      exact .inl ⟨show s.tag p.node ∈ cameraTypes from htag ▸ hcamera, _, he, rfl⟩
  · rintro (⟨htag, he⟩ | ⟨e, he, hcamera, g, hg, rfl⟩)
    · exact (mem_cameras_of_mem_cameraTypes htag).mpr he
    · obtain ⟨p, -, rfl⟩ := List.mem_map.mp (written_of s tree ▸ he)
      exact mem_cameras.mpr ⟨_, he, Node.isCamera_iff.mpr hcamera, Setting.tag_of_shares hg⟩

end Composition

/-- The camera components of a unit are imported once each, and under the name of a component if and
only if an element with that tag is written. The only other names that are imported for cameras are
those of shared geometries, where a camera is written as an instance; without such a camera there
are none. -/
structure Plan.ImportsCameras (p : Plan) (scene : Scene) : Prop where
  nodup : p.imports.cameras.Nodup
  imported : p.imports.cameras ⊆ p.imports.helperNames
  printed : Text.Within (helperImport p.imports.helperNames) p.text
  components : ∀ tag ∈ cameraTypes,
    tag ∈ p.imports.cameras ↔ ∃ e ∈ p.composition.written, e.tag = tag
  names : ∀ tag, tag ∈ p.imports.cameras ↔
    (tag ∈ cameraTypes ∧ ∃ e ∈ p.composition.written, e.tag = tag) ∨
      ∃ e ∈ p.composition.written, e.origin.node.type ∈ cameraTypes ∧
        ∃ g, p.survey.Shares scene e.origin.node g ∧
          tag = Scope.instances.reference [g.name]
  unshared : (∀ e ∈ p.composition.written, e.origin.node.type ∈ cameraTypes →
    ¬ ∃ g, p.survey.Shares scene e.origin.node g) → p.imports.cameras ⊆ cameraTypes

theorem plan_cameras {scene : Scene} {options : Options} {saved : Option Json} {p : Plan}
    (h : plan scene options saved = .ok p) : p.ImportsCameras scene := by
  obtain ⟨tree, -, rfl⟩ := plan_eq_ok.mp h
  constructor
  case nodup => exact nodup_sortedDistinct _
  case imported =>
    intro tag htag
    rw [Imports.helperNames]
    simp [htag]
  case printed => exact Plan.within_imports _
  case components => exact fun tag => Composition.mem_cameras_of_mem_cameraTypes
  case names => exact fun tag => Composition.mem_cameras_iff
  case unshared =>
    intro hunshared tag htag
    rcases Composition.mem_cameras_iff.mp htag with ⟨hmem, -⟩ | ⟨e, he, hcamera, g, hg, -⟩
    · exact hmem
    · exact absurd ⟨g, hg⟩ (hunshared e he hcamera)

def Scene.filming : Scene where
  nodes := #[
    { type := "Scene", children := [1, 2] },
    { type := "Mesh", name := "Body", geometry := some 0 },
    { type := "PerspectiveCamera", name := "Eye", geometry := some 0 }]
  geometries := #[{ key := "body" }]

theorem Scene.filming_validate : ∃ tree, Scene.filming.validate = .ok tree :=
  exists_tree_of_isOk (by decide +kernel)

theorem filming_written {tree : SceneTree} (h : Search.Finds Scene.filming tree)
    (options : Options) :
    (Setting.of Scene.filming options).element
        ⟨2, { type := "PerspectiveCamera", name := "Eye", geometry := some 0 }⟩ ∈
      (Composition.of (.of Scene.filming options) tree).written := by
  have hvisited : Scene.filming.Visited 2 := .outermost (by
    simp [Scene.filming, Scene.outermost, Scene.rootNode?, Node.nodeClass, NodeClass.ofType])
  have hbone : ¬ NodeClass.ofType "PerspectiveCamera" == .bone := by decide
  have hgroup : elementTag "PerspectiveCamera" ≠ groupTag := by decide
  exact (Composition.mem_written h).mpr ⟨rfl, hvisited, hbone, fun hg => hgroup hg.group, rfl⟩

/-- Where every geometry is shared, the camera is an instance of the mesh's. -/
theorem filming_imports_instance : ∃ p, plan Scene.filming { instanceAll := true } none = .ok p ∧
    ∃ tag ∈ p.imports.cameras, tag ∉ cameraTypes := by
  obtain ⟨tree, htree⟩ := Scene.filming_validate
  have hf := Scene.tree_finds (Scene.validate_eq_ok.mp htree).1
  have hlisted : (Survey.of Scene.filming { instanceAll := true }).registry.geometry? "body" =
      some ⟨"body", 1, "Body", 1⟩ := by
    have hall : Scene.filming.validate.toOption.map (fun tree => Registry.geometry?
        (.of Scene.filming { instanceAll := true } tree.preorder) "body") =
          some (some ⟨"body", 1, "Body", 1⟩) := by
      decide +kernel
    rw [htree] at hall
    rw [hf.registry_eq]
    exact Option.some.inj hall
  have hinstancing : (Survey.of Scene.filming { instanceAll := true }).instancing := by
    obtain ⟨i, -, hg⟩ := Option.bind_eq_some_iff.mp hlisted
    exact (Survey.instancing_iff ..).mpr
      ⟨.inr rfl, List.ne_nil_of_mem (List.mem_of_getElem? hg)⟩
  have hmem := Composition.mem_cameras_iff.mpr (.inr ⟨_, filming_written hf { instanceAll := true },
    by decide, _, ⟨hinstancing, { key := "body" }, rfl, hlisted⟩, rfl⟩)
  exact ⟨_, plan_eq_ok.mpr ⟨tree, htree, rfl⟩, _, hmem, reference_not_mem_cameraTypes _⟩

theorem filming_cameras : ∃ p, plan Scene.filming {} none = .ok p ∧
    p.imports.cameras.Nodup ∧ "PerspectiveCamera" ∈ p.imports.cameras := by
  obtain ⟨tree, htree⟩ := Scene.filming_validate
  have hf := Scene.tree_finds (Scene.validate_eq_ok.mp htree).1
  have hp : plan Scene.filming {} none = .ok (.of Scene.filming {} none tree) :=
    plan_eq_ok.mpr ⟨tree, htree, rfl⟩
  have himports := plan_cameras hp
  refine ⟨_, hp, himports.nodup,
    (himports.components _ (by decide)).mpr ⟨_, filming_written hf {}, ?_⟩⟩
  have hunshared : ¬ ∃ g, (Survey.of Scene.filming {}).Shares Scene.filming
      { type := "PerspectiveCamera", name := "Eye", geometry := some 0 } g := by
    rintro ⟨g, hg⟩
    exact absurd hg.instancing Bool.false_ne_true
  exact Setting.tag_of_not_shares (s := .of Scene.filming {}) hunshared

end SceneMarkup
