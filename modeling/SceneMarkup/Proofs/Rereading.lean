import SceneMarkup.Options
import SceneMarkup.Proofs.Kept
import SceneMarkup.Scene.Read
import SceneMarkup.Scene.Write

/-!
Scenes and options that are written and read again. Whatever was left out, repeated or unknown in the
text that a scene was read from, its own compact text is read as the same scene.
-/

namespace SceneMarkup

open Document

section Tuple

variable {parse : List Float → Option α} (print : α → List Float)

theorem Keeps.kept_tuple {a : α} (hfinite : ∀ x ∈ print a, x.isFinite)
    (h : parse (print a) = some a) :
    Kept (fun d => (list? real? d).bind parse) (fun a => .array ((print a).map .real)) a := by
  obtain ⟨hsound, hread⟩ := kept_list fun x hx => kept_real (hfinite x hx)
  exact ⟨hsound, Option.bind_eq_some_iff.mpr ⟨print a, hread, h⟩⟩

theorem Keeps.tuple (h : ∀ {xs a}, parse xs = some a ↔ xs = print a) :
    Keeps (fun d => (list? real? d).bind parse) fun a => .array ((print a).map .real) where
  kept hd hread := by
    obtain ⟨xs, hxs, hparse⟩ := Option.bind_eq_some_iff.mp hread
    obtain rfl := h.mp hparse
    obtain ⟨hsound, hagain⟩ := Keeps.real.list.kept hd hxs
    exact ⟨hsound, Option.bind_eq_some_iff.mpr ⟨_, hagain, hparse⟩⟩
  eq_null _ h := nomatch h

end Tuple

theorem Vec3.keeps : Keeps ofDocument? toJson := by
  refine .tuple toList ⟨fun h => ?_, fun h => ?_⟩
  · rw [ofList?.eq_def] at h
    split at h
    · cases h
      rfl
    · cases h
  · rw [h]
    rfl

theorem Vec3.kept {v : Vec3} (h : ∀ x ∈ v.toList, x.isFinite) : Kept ofDocument? toJson v :=
  Keeps.kept_tuple toList h rfl

theorem Color.keeps : Keeps ofDocument? toJson := by
  refine .tuple (fun c : Color => [c.red, c.green, c.blue]) ⟨fun h => ?_, fun h => ?_⟩
  · split at h
    · cases h
      rfl
    · cases h
  · rw [h]

theorem Color.kept_white : Kept ofDocument? toJson white :=
  Keeps.kept_tuple (fun c : Color => [c.red, c.green, c.blue]) (by decide +kernel) rfl

theorem CameraParams.keeps : Keeps ofDocument? toJson := by
  refine .record (fun _ => rfl) (by decide) fun hfields h => ?_
  obtain ⟨zoom, hzoom, h⟩ := Keeps.real.defaulted (Keeps.kept_real rfl) hfields h
  obtain ⟨far, hfar, h⟩ := Keeps.real.defaulted (Keeps.kept_real rfl) hfields h
  obtain ⟨near, hnear, h⟩ := Keeps.real.defaulted (Keeps.kept_real rfl) hfields h
  obtain ⟨fov, hfov, h⟩ := Keeps.real.defaulted (Keeps.kept_real rfl) hfields h
  cases h
  constructor
  · simp [hzoom.sound, hfar.sound, hnear.sound, hfov.sound]
  · simp [Fields.defaulted, Json.member?, hzoom.read_document, hfar.read_document,
      hnear.read_document, hfov.read_document]

theorem LightParams.keeps : Keeps ofDocument? toJson := by
  refine .record (fun _ => rfl) (by decide) fun hfields h => ?_
  obtain ⟨intensity, hintensity, h⟩ := Keeps.real.optional hfields h
  obtain ⟨angle, hangle, h⟩ := Keeps.real.optional hfields h
  obtain ⟨penumbra, hpenumbra, h⟩ := Keeps.real.optional hfields h
  obtain ⟨decay, hdecay, h⟩ := Keeps.real.optional hfields h
  obtain ⟨distance, hdistance, h⟩ := Keeps.real.optional hfields h
  obtain ⟨up, hup, h⟩ := Vec3.keeps.optional hfields h
  cases h
  constructor
  · simp [hintensity.sound, hangle.sound, hpenumbra.sound, hdecay.sound, hdistance.sound,
      hup.sound]
  · simp [Fields.optional, Fields.defaulted, Json.member?, hintensity.read_document,
      hangle.read_document, hpenumbra.read_document, hdecay.read_document,
      hdistance.read_document, hup.read_document]

theorem keeps_skeleton : Keeps skeletonOfDocument? skeletonToJson := by
  refine .record (fun _ => rfl) (by decide) fun hfields h => ?_
  rw [← Option.bind_fun_some (Fields.defaulted ..)] at h
  obtain ⟨bones, hbones, h⟩ :=
    Keeps.word64.list.defaulted (Keeps.kept_list (List.forall_mem_nil _)) hfields h
  cases h
  constructor
  · simpa using hbones.sound
  · simpa [Fields.defaulted, Json.member?] using hbones.read_document

theorem MorphTargets.keeps : Keeps ofDocument? toJson := by
  refine .record (fun _ => rfl) (by decide) fun hfields h => ?_
  obtain ⟨dictionary, hdictionary, h⟩ := Keeps.word64.dictionary.defaulted
    (Keeps.kept_dictionary List.Pairwise.nil (List.forall_mem_nil _)) hfields h
  obtain ⟨influences, hinfluences, h⟩ := Keeps.real.list.defaulted
    (Keeps.kept_list (List.forall_mem_nil _)) hfields h
  cases h
  constructor
  · exact List.forall_mem_cons.mpr
      ⟨hdictionary.sound, List.forall_mem_singleton.mpr hinfluences.sound⟩
  · simp [Fields.defaulted, Json.member?, hdictionary.read_document, hinfluences.read_document]

theorem Material.keeps : Keeps ofDocument? toJson := by
  refine .record (fun _ => rfl) (by decide) fun hfields h => ?_
  obtain ⟨name, hname, h⟩ := Keeps.text.defaulted ⟨Json.sound_string _, rfl⟩ hfields h
  obtain ⟨type, htype, h⟩ := Keeps.text.defaulted ⟨Json.sound_string _, rfl⟩ hfields h
  obtain ⟨metalness, hmetalness, h⟩ := Keeps.real.defaulted (Keeps.kept_real rfl) hfields h
  obtain ⟨roughness, hroughness, h⟩ := Keeps.real.defaulted (Keeps.kept_real rfl) hfields h
  obtain ⟨clearcoat, hclearcoat, h⟩ := Keeps.real.optional hfields h
  obtain ⟨clearcoatRoughness, hclearcoatRoughness, h⟩ := Keeps.real.optional hfields h
  obtain ⟨color, hcolor, h⟩ := Color.keeps.defaulted Color.kept_white hfields h
  cases h
  constructor
  · simp [hname.sound, htype.sound, hmetalness.sound, hroughness.sound, hclearcoat.sound,
      hclearcoatRoughness.sound, hcolor.sound]
  · simp [Fields.optional, Fields.defaulted, Json.member?, hname.read_document,
      htype.read_document, hmetalness.read_document, hroughness.read_document,
      hclearcoat.read_document, hclearcoatRoughness.read_document, hcolor.read_document]

theorem Geometry.keeps : Keeps ofDocument? toJson := by
  refine .record (fun _ => rfl) (by decide) fun hfields h => ?_
  obtain ⟨key, hkey, h⟩ := Keeps.text.required hfields h
  obtain ⟨owner, howner, h⟩ := Keeps.word64.optional hfields h
  obtain ⟨vertexCount, hvertexCount, h⟩ := Keeps.word32.optional hfields h
  cases h
  constructor
  · simp [hkey.sound, howner.sound, hvertexCount.sound]
  · simp [Fields.required, Fields.optional, Fields.defaulted, Json.member?, hkey.read_document,
      howner.read_document, hvertexCount.read_document]

theorem AnimationClip.keeps : Keeps ofDocument? toJson := by
  refine .record (fun _ => rfl) (by decide) fun hfields h => ?_
  obtain ⟨name, hname, h⟩ := Keeps.text.required hfields h
  obtain ⟨targets, htargets, h⟩ := Keeps.text.list.optional hfields h
  cases h
  have htargets : Kept (nullable? (list? text?)) (.ofOption (.array ∘ List.map .string)) targets :=
    htargets
  constructor
  · simp [hname.sound, htargets.sound]
  · simp [Fields.required, Fields.optional, Fields.defaulted, Json.member?, hname.read_document,
      htargets.read_document]

theorem Node.keeps : Keeps ofDocument? toJson := by
  refine .record (fun _ => rfl) (by decide) fun hfields h => ?_
  obtain ⟨type, htype, h⟩ := Keeps.text.required hfields h
  obtain ⟨name, hname, h⟩ := Keeps.text.defaulted ⟨Json.sound_string _, rfl⟩ hfields h
  obtain ⟨position, hposition, h⟩ := Vec3.keeps.defaulted (Vec3.kept (by decide +kernel)) hfields h
  obtain ⟨rotation, hrotation, h⟩ := Vec3.keeps.defaulted (Vec3.kept (by decide +kernel)) hfields h
  obtain ⟨scale, hscale, h⟩ := Vec3.keeps.defaulted (Vec3.kept (by decide +kernel)) hfields h
  obtain ⟨geometry, hgeometry, h⟩ := Keeps.word64.optional hfields h
  obtain ⟨material, hmaterial, h⟩ := Keeps.word64.optional hfields h
  obtain ⟨children, hchildren, h⟩ := Keeps.word64.list.defaulted (Keeps.kept_list
    (List.forall_mem_nil _)) hfields h
  obtain ⟨visible, hvisible, h⟩ := Keeps.flag.defaulted ⟨Json.sound_bool _, rfl⟩ hfields h
  obtain ⟨castShadow, hcastShadow, h⟩ := Keeps.flag.defaulted ⟨Json.sound_bool _, rfl⟩ hfields h
  obtain ⟨receiveShadow, hreceiveShadow, h⟩ := Keeps.flag.defaulted ⟨Json.sound_bool _, rfl⟩
    hfields h
  obtain ⟨color, hcolor, h⟩ := Color.keeps.optional hfields h
  obtain ⟨camera, hcamera, h⟩ := CameraParams.keeps.optional hfields h
  obtain ⟨light, hlight, h⟩ := LightParams.keeps.optional hfields h
  obtain ⟨skeleton, hskeleton, h⟩ := keeps_skeleton.optional hfields h
  obtain ⟨morph, hmorph, h⟩ := MorphTargets.keeps.optional hfields h
  obtain ⟨userData, huserData, h⟩ := (Keeps.json userDataDepth).optional hfields h
  cases h
  constructor
  · simp [htype.sound, hname.sound, hposition.sound, hrotation.sound, hscale.sound,
      hgeometry.sound, hmaterial.sound, hchildren.sound, hvisible.sound, hcastShadow.sound,
      hreceiveShadow.sound, hcolor.sound, hcamera.sound, hlight.sound, hskeleton.sound,
      hmorph.sound, huserData.sound]
  · simp [Fields.required, Fields.optional, Fields.defaulted, Json.member?, htype.read_document,
      hname.read_document, hposition.read_document, hrotation.read_document,
      hscale.read_document, hgeometry.read_document, hmaterial.read_document,
      hchildren.read_document, hvisible.read_document, hcastShadow.read_document,
      hreceiveShadow.read_document, hcolor.read_document, hcamera.read_document,
      hlight.read_document, hskeleton.read_document, hmorph.read_document,
      huserData.read_document]

theorem Scene.keeps : Keeps ofDocument? toJson := by
  refine .record (fun _ => rfl) (by decide) fun hfields h => ?_
  obtain ⟨root, hroot, h⟩ := Keeps.word64.defaulted (Keeps.kept_natural (by decide) le_rfl)
    hfields h
  obtain ⟨nodes, hnodes, h⟩ := Node.keeps.list.required hfields h
  obtain ⟨materials, hmaterials, h⟩ := Material.keeps.list.defaulted (Keeps.kept_list
    (List.forall_mem_nil _)) hfields h
  obtain ⟨geometries, hgeometries, h⟩ := Geometry.keeps.list.defaulted (Keeps.kept_list
    (List.forall_mem_nil _)) hfields h
  obtain ⟨animations, hanimations, h⟩ := AnimationClip.keeps.list.defaulted (Keeps.kept_list
    (List.forall_mem_nil _)) hfields h
  cases h
  constructor
  · simp [hroot.sound, hnodes.sound, hmaterials.sound, hgeometries.sound, hanimations.sound]
  · simp [Fields.required, Fields.defaulted, Json.member?, hroot.read_document,
      hnodes.read_document, hmaterials.read_document, hgeometries.read_document,
      hanimations.read_document]

theorem Options.keeps : Keeps ofDocument? toJson := by
  refine .record (fun _ => rfl) (by decide) fun hfields h => ?_
  obtain ⟨precision, hprecision, h⟩ := Keeps.word32.defaulted (Keeps.kept_natural (by decide) (by
    decide)) hfields h
  obtain ⟨instancing, hinstancing, h⟩ := Keeps.flag.defaulted ⟨Json.sound_bool _, rfl⟩ hfields h
  obtain ⟨instanceAll, hinstanceAll, h⟩ := Keeps.flag.defaulted ⟨Json.sound_bool _, rfl⟩ hfields h
  obtain ⟨keepNames, hkeepNames, h⟩ := Keeps.flag.defaulted ⟨Json.sound_bool _, rfl⟩ hfields h
  obtain ⟨keepGroups, hkeepGroups, h⟩ := Keeps.flag.defaulted ⟨Json.sound_bool _, rfl⟩ hfields h
  obtain ⟨debug, hdebug, h⟩ := Keeps.flag.defaulted ⟨Json.sound_bool _, rfl⟩ hfields h
  obtain ⟨types, htypes, h⟩ := Keeps.flag.defaulted ⟨Json.sound_bool _, rfl⟩ hfields h
  obtain ⟨shadows, hshadows, h⟩ := Keeps.flag.defaulted ⟨Json.sound_bool _, rfl⟩ hfields h
  obtain ⟨metadata, hmetadata, h⟩ := Keeps.flag.defaulted ⟨Json.sound_bool _, rfl⟩ hfields h
  obtain ⟨assetUrl, hassetUrl, h⟩ := Keeps.text.defaulted ⟨Json.sound_string _, rfl⟩ hfields h
  obtain ⟨decoder, hdecoder, h⟩ := Keeps.text.optional hfields h
  obtain ⟨componentName, hcomponentName, h⟩ := Keeps.text.defaulted ⟨Json.sound_string _, rfl⟩
    hfields h
  obtain ⟨storageKey, hstorageKey, h⟩ := Keeps.text.defaulted ⟨Json.sound_string _, rfl⟩ hfields h
  obtain ⟨lightRotationControls, hlightRotationControls, h⟩ := Keeps.flag.defaulted
    ⟨Json.sound_bool _, rfl⟩ hfields h
  obtain ⟨progressInterval, hprogressInterval, h⟩ := Keeps.word64.defaulted (Keeps.kept_natural
    (by decide) le_rfl) hfields h
  cases h
  constructor
  · simp [hprecision.sound, hinstancing.sound, hinstanceAll.sound, hkeepNames.sound,
      hkeepGroups.sound, hdebug.sound, htypes.sound, hshadows.sound, hmetadata.sound,
      hassetUrl.sound, hdecoder.sound, hcomponentName.sound, hstorageKey.sound,
      hlightRotationControls.sound, hprogressInterval.sound]
  · simp [Fields.optional, Fields.defaulted, Json.member?, hprecision.read_document,
      hinstancing.read_document, hinstanceAll.read_document, hkeepNames.read_document,
      hkeepGroups.read_document, hdebug.read_document, htypes.read_document,
      hshadows.read_document, hmetadata.read_document, hassetUrl.read_document,
      hdecoder.read_document, hcomponentName.read_document, hstorageKey.read_document,
      hlightRotationControls.read_document, hprogressInterval.read_document]

theorem Json.Sound.read?_compact {j : Json} (h : j.Sound) (hread : ∀ x, .real x ∈ j.numbers →
    read? (realText x) = some (.real x)) : Document.read? j.compact = some j.document := by
  refine Json.read?_compact (legible_of_depth_le le_rfl fun n hn _ => ?_)
  cases n with
  | integer n => exact Reader.read?_integer (h _ hn)
  | real x => exact hread x hn

/-- The compact text of a scene or of options that were read is read as the same again. For a scene
its finite reals have to be read from their own texts; options have none. -/
theorem read_compact_toJson :
    (∀ text scene, Scene.read? text = some scene →
      (∀ x, .real x ∈ scene.toJson.numbers → x.isFinite →
        Json.read? (Json.realText x) = some (.real x)) →
      Scene.read? scene.toJson.compact = some scene) ∧
    ∀ text options, Options.read? text = some options →
      Options.read? options.toJson.compact = some options := by
  refine ⟨fun text scene hscene hread => ?_, fun text options hoptions => ?_⟩
  · obtain ⟨d, hd, hscene⟩ := Option.bind_eq_some_iff.mp hscene
    obtain ⟨hsound, hagain⟩ := Scene.keeps.kept (Document.sound_of_read? hd) hscene
    rw [Scene.read?, hsound.read?_compact fun x hx => hread x hx (hsound _ hx), Option.bind_some,
      hagain]
  · obtain ⟨d, hd, hoptions⟩ := Option.bind_eq_some_iff.mp hoptions
    obtain ⟨hsound, hagain⟩ := Options.keeps.kept (Document.sound_of_read? hd) hoptions
    have hnone : ∀ x, .real x ∉ options.toJson.numbers := fun x => by
      cases hdecoder : options.decoder <;>
        simp [Options.toJson, hdecoder, Json.ofOption, Json.natural, Json.numbers]
    rw [Options.read?, hsound.read?_compact fun x hx => absurd hx (hnone x), Option.bind_some,
      hagain]

def mixedText : String :=
  "\x7b\"nodes\":[[\"Scene\",\"a\",[1,-2.5,3e2]],\x7b\"type\":\"Bone\",\"light\":null," ++
    "\"z\":[\x7b\x7d],\"userData\":\x7b\"k\":0,\"a\":18446744073709551616,\"k\":[-0]\x7d\x7d]\x7d"

def JsonNumber.readsBack : JsonNumber → Bool
  | .integer _ => true
  | .real x => decide (Json.read? (Json.realText x) = some (.real x))

theorem mixed_read_compact_toJson :
    (∃ scene, Scene.read? mixedText = some scene ∧
      Scene.read? scene.toJson.compact = some scene) ∧
    ∃ options, Options.read? "[4,true]" = some options ∧
      Options.read? options.toJson.compact = some options := by
  have hany : (Scene.read? mixedText).any fun s => s.toJson.numbers.all JsonNumber.readsBack := by
    decide +kernel
  obtain ⟨scene, hscene, hall⟩ := (Option.any_eq_true ..).mp hany
  obtain ⟨options, hoptions⟩ := Option.isSome_iff_exists.mp
    (by decide +kernel : (Options.read? "[4,true]").isSome)
  have hread : ∀ x, .real x ∈ scene.toJson.numbers → x.isFinite →
      Json.read? (Json.realText x) = some (.real x) :=
    fun x hx _ => of_decide_eq_true (List.all_eq_true.mp hall (.real x) hx)
  exact ⟨⟨scene, hscene, read_compact_toJson.1 _ _ hscene hread⟩,
    options, hoptions, read_compact_toJson.2 _ _ hoptions⟩

end SceneMarkup
