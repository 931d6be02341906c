import SceneMarkup.Proofs.Attributes

namespace SceneMarkup.Setting

variable (s : Setting) (node : Node)

theorem names_nameAttribute : ((s.nameAttribute node).map (·.name)).Sublist ["name"] := by
  rw [nameAttribute]
  split <;> simp [Attribute.text]

theorem names_numberUnless (name : String) (value default : Float) :
    ((s.numberUnless name value default).map (·.name)).Sublist [name] := by
  rw [numberUnless]
  split <;> simp [Attribute.expression]

theorem names_optionalNumber (name : String) (value : Option Float) (default : Float) :
    ((s.optionalNumber name value default).map (·.name)).Sublist [name] := by
  cases value with
  | none => simp [optionalNumber]
  | some x => exact s.names_numberUnless name x default

theorem names_cameraAttributes : ((s.cameraAttributes node).map (·.name)).Sublist
    ["makeDefault", "zoom", "far", "near", "fov"] := by
  have hcommon (camera : CameraParams) :
      ((Attribute.expression "makeDefault" (.bool false) :: s.numberUnless "zoom" camera.zoom 1 ++
        s.numberUnless "far" camera.far 2000 ++ s.numberUnless "near" camera.near 0.1).map
          (·.name)).Sublist ["makeDefault", "zoom", "far", "near"] := by
    simp only [List.cons_append, List.map_cons, List.map_append]
    exact (((s.names_numberUnless "zoom" _ _).append (s.names_numberUnless "far" _ _)).append
      (s.names_numberUnless "near" _ _)).cons_cons "makeDefault"
  unfold cameraAttributes
  split
  · rw [List.map_append]
    exact (hcommon _).append (s.names_numberUnless "fov" _ _)
  · exact (hcommon _).trans (by simp)
  · simp

theorem names_optionalShadows :
    ((s.optionalShadows node).map (·.name)).Sublist ["castShadow", "receiveShadow"] := by
  rw [optionalShadows]
  split <;> simp [shadowFlags, Attribute.flag]

theorem names_geometryAttribute : ((geometryAttribute node).map (·.name)).Sublist ["geometry"] := by
  rw [geometryAttribute]
  split <;> simp [Attribute.expression]

theorem names_materialAttribute :
    ((s.materialAttribute node).map (·.name)).Sublist ["material"] := by
  rw [materialAttribute]
  split <;> simp [Attribute.expression]

theorem names_skeletonAttribute : ((skeletonAttribute node).map (·.name)).Sublist ["skeleton"] := by
  rw [skeletonAttribute]
  split <;> simp [Attribute.expression]

theorem names_visibleAttribute : ((visibleAttribute node).map (·.name)).Sublist ["visible"] := by
  rw [visibleAttribute]
  split <;> simp [Attribute.expression]

theorem names_ownShadows :
    ((ownShadows node).map (·.name)).Sublist ["castShadow", "receiveShadow"] := by
  rw [ownShadows, List.map_append, ← List.singleton_append (x := "castShadow")]
  refine List.Sublist.append ?_ ?_ <;> split <;> simp [Attribute.flag]

theorem names_morphAttributes : ((morphAttributes node).map (·.name)).Sublist
    ["morphTargetDictionary", "morphTargetInfluences"] := by
  unfold morphAttributes
  split
  · simp
  · rw [List.map_append, ← List.singleton_append (x := "morphTargetDictionary")]
    refine List.Sublist.append ?_ ?_ <;> split <;> simp [Attribute.expression]

theorem names_angleAttribute (angle : Option Float) :
    ((s.angleAttribute angle).map (·.name)).Sublist ["angle"] := by
  unfold angleAttribute
  split
  · split <;> simp [Attribute.expression]
  · simp

theorem names_upAttribute (up : Option Vec3) :
    ((s.upAttribute up).map (·.name)).Sublist ["up"] := by
  unfold upAttribute
  split
  · split <;> simp [Attribute.expression]
  · simp

theorem names_lightAttributes : ((s.lightAttributes node).map (·.name)).Sublist
    ["intensity", "angle", "penumbra", "decay", "distance", "up"] := by
  have hnumber := s.names_optionalNumber
  unfold lightAttributes
  split
  · simp
  · simp only [List.map_append]
    exact (((((hnumber "intensity" _ _).append (s.names_angleAttribute _)).append
      (hnumber "penumbra" _ _)).append (hnumber "decay" _ _)).append
      (hnumber "distance" _ _)).append (s.names_upAttribute _)

theorem names_colorAttribute : ((colorAttribute node).map (·.name)).Sublist ["color"] := by
  unfold colorAttribute
  split
  · split <;> simp [Attribute.text]
  · simp

theorem names_transformAttributes (placed : Placed) :
    ((s.transformAttributes placed).map (·.name)).Sublist transformFields := by
  rw [transformAttributes_eq, List.map_map, boundFields]
  split
  · exact List.nil_sublist _
  · rw [List.map_map]
    exact s.map_fst_transformEntries_sublist placed.node

theorem names_userDataAttribute :
    ((s.userDataAttribute node).map (·.name)).Sublist ["userData"] := by
  unfold userDataAttribute
  split
  · split <;> simp [Attribute.expression]
  · simp

def instanceNames : List String := ["name", "visible"] ++ transformFields ++ ["userData"]

theorem names_instancedAttributes (placed : Placed) :
    ((s.instancedAttributes placed).map (·.name)).Sublist instanceNames := by
  simp only [instancedAttributes, List.map_append]
  exact (((s.names_nameAttribute _).append (names_visibleAttribute _)).append
    (s.names_transformAttributes placed)).append (s.names_userDataAttribute _)

def leadNames : List String := [
  "name", "makeDefault", "zoom", "far", "near", "fov", "castShadow", "receiveShadow", "geometry"]

def trailNames : List String := [
  "skeleton", "visible", "castShadow", "receiveShadow", "morphTargetDictionary",
  "morphTargetInfluences", "intensity", "angle", "penumbra", "decay", "distance", "up", "color",
  "position", "rotation", "scale", "userData"]

theorem candidateAttributes_eq_append (placed : Placed) : ∃ lead trail,
    s.candidateAttributes placed = lead ++ (s.materialAttribute placed.node ++ trail) ∧
      (lead.map (·.name)).Sublist leadNames ∧ (trail.map (·.name)).Sublist trailNames := by
  let node := placed.node
  refine ⟨s.nameAttribute node ++ s.cameraAttributes node ++ s.optionalShadows node ++
    geometryAttribute node, skeletonAttribute node ++ visibleAttribute node ++ ownShadows node ++
    morphAttributes node ++ s.lightAttributes node ++ colorAttribute node ++
    s.transformAttributes placed ++ s.userDataAttribute node, ?_, ?_, ?_⟩
  · simp only [candidateAttributes, List.append_assoc, node]
  · simp only [List.map_append]
    exact (((s.names_nameAttribute node).append (s.names_cameraAttributes node)).append
      (s.names_optionalShadows node)).append (names_geometryAttribute node)
  · simp only [List.map_append]
    exact (((((((names_skeletonAttribute node).append (names_visibleAttribute node)).append
      (names_ownShadows node)).append (names_morphAttributes node)).append
      (s.names_lightAttributes node)).append (names_colorAttribute node)).append
      (s.names_transformAttributes placed)).append (s.names_userDataAttribute node)

end SceneMarkup.Setting
