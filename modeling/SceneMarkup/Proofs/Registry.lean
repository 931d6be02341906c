import Mathlib.Data.List.Forall2
import Mathlib.Data.List.Induction
import SceneMarkup.Proofs.Lookup
import SceneMarkup.Proofs.Naming
import SceneMarkup.Survey.Registry

namespace SceneMarkup.Registry

variable {scene : Scene} {r : Registry} {ps firsts : List Placed}

theorem lookup_tallied (name other : String) (tally : List (String × Nat)) :
    ((tallied name tally).lookup other).getD 0 =
      (tally.lookup other).getD 0 + if name = other then 1 else 0 := by
  induction tally with
  | nil =>
    rw [tallied, List.lookup_cons]
    by_cases h : name = other
    · simp [h]
    · simp [h, beq_false_of_ne (Ne.symm h)]
  | cons e rest ih =>
    obtain ⟨key, n⟩ := e
    rw [tallied]
    split
    case isTrue hk =>
      rw [List.lookup_cons, List.lookup_cons, hk]
      by_cases h : name = other
      · simp [h]
      · simp [h, beq_false_of_ne (Ne.symm h)]
    case isFalse hk =>
      rw [List.lookup_cons, List.lookup_cons]
      by_cases h : other = key
      · have hne : name ≠ other := fun he => hk (h.symm.trans he.symm)
        simp [h, h ▸ hne]
      · rw [beq_false_of_ne h]
        exact ih

theorem materialCount_record (p : Placed) (name : String) :
    (r.record scene p).materialCount name =
      r.materialCount name + if scene.meshMaterial? p.node = some name then 1 else 0 := by
  have hgeometry (r : Registry) : (r.recordGeometry scene p).materials = r.materials := by
    unfold recordGeometry
    split
    · rfl
    · split <;> rfl
  rw [materialCount, record, hgeometry, recordMaterial]
  cases scene.meshMaterial? p.node with
  | none => simp [materialCount]
  | some carried =>
    simp only [Option.some.injEq]
    exact lookup_tallied carried name r.materials

theorem materialCount_foldl (r : Registry) (ps : List Placed) (name : String) :
    (ps.foldl (record scene) r).materialCount name =
      r.materialCount name + (ps.filterMap (scene.meshMaterial? ·.node)).count name := by
  induction ps generalizing r with
  | nil => rfl
  | cons p rest ih =>
    rw [List.foldl_cons, ih, materialCount_record, List.filterMap_cons]
    cases scene.meshMaterial? p.node with
    | none => rfl
    | some carried =>
      simp only [List.count_cons, beq_iff_eq, Option.some.injEq]
      omega

def Indexed (r : Registry) : Prop :=
  ∀ key i, r.places.lookup key = some i ↔ (r.geometries.map (·.key))[i]? = some key

theorem Indexed.nodup (h : r.Indexed) : (r.geometries.map (·.key)).Nodup := by
  rw [List.nodup_iff_getElem?_ne_getElem?]
  intro i j hij hj heq
  have hkey := List.getElem?_eq_getElem hj
  have hi := (h _ i).mpr (heq.trans hkey)
  have hj' := (h _ j).mpr hkey
  exact Nat.ne_of_lt hij (Option.some.inj (hi.symm.trans hj'))

theorem Indexed.geometry?_eq_some (h : r.Indexed) {key : String} {g : SharedGeometry} :
    r.geometry? key = some g ↔ g ∈ r.geometries ∧ g.key = key := by
  unfold geometry?
  rw [Option.bind_eq_some_iff]
  constructor
  · rintro ⟨i, hi, hg⟩
    have hkey := (h key i).mp hi
    rw [List.getElem?_map, hg] at hkey
    exact ⟨List.mem_of_getElem? hg, Option.some.inj hkey⟩
  · rintro ⟨hg, rfl⟩
    obtain ⟨i, hi⟩ := List.mem_iff_getElem?.mp hg
    exact ⟨i, (h g.key i).mpr (by simp [hi]), hi⟩

theorem Indexed.lookup_eq_none (h : r.Indexed) {key : String} :
    r.places.lookup key = none ↔ key ∉ r.geometries.map (·.key) := by
  rw [← not_iff_not, not_not, List.mem_iff_getElem?, ← ne_eq, Option.ne_none_iff_exists']
  exact exists_congr fun i => h key i

theorem indexed_empty : empty.Indexed := by simp [Indexed, empty]

theorem Indexed.concat (h : r.Indexed) {g : SharedGeometry} (hg : r.places.lookup g.key = none) :
    Indexed ⟨r.materials, r.geometries ++ [g], (g.key, r.geometries.length) :: r.places⟩ := by
  intro key i
  have hnew := h.lookup_eq_none.mp hg
  rw [List.lookup_cons, List.map_append, List.map_singleton]
  by_cases hk : key = g.key
  · subst hk
    rw [beq_self_eq_true, Option.some.injEq]
    constructor
    · rintro rfl
      rw [List.getElem?_append_right (by simp)]
      simp
    · intro hi
      by_contra hne
      rw [List.getElem?_append] at hi
      split at hi
      · exact hnew (List.mem_of_getElem? hi)
      · next hlt =>
        have hpos : [g.key].length ≤ i - (r.geometries.map (·.key)).length := by
          rw [List.length_map] at hlt ⊢
          rw [List.length_singleton]
          omega
        rw [List.getElem?_eq_none hpos] at hi
        contradiction
  · rw [beq_false_of_ne hk, h key i, List.getElem?_append]
    split
    · rfl
    · next hlt =>
      rw [List.getElem?_eq_none (Nat.le_of_not_lt hlt), List.getElem?_singleton]
      split <;> simp [Ne.symm hk]

theorem indexed_prune (h : (r.geometries.map (·.key)).Nodup) : r.prune.Indexed := by
  intro key i
  have hplaces : r.prune.places.map Prod.fst = r.prune.geometries.map (·.key) := by
    conv_rhs => rw [← List.zipIdx_map_fst 0 r.prune.geometries, List.map_map]
    rw [prune, List.map_map]
    rfl
  have hnodup : (r.prune.places.map Prod.fst).Nodup := by
    rw [hplaces]
    exact (List.filter_sublist.map _).nodup h
  have hmem : (key, i) ∈ r.prune.places ↔ ∃ g, r.prune.geometries[i]? = some g ∧ g.key = key := by
    constructor
    · intro hp
      obtain ⟨⟨g, j⟩, hg, he⟩ := List.mem_map.mp hp
      cases he
      exact ⟨g, List.mk_mem_zipIdx_iff_getElem?.mp hg, rfl⟩
    · rintro ⟨g, hg, rfl⟩
      exact List.mem_map.mpr ⟨(g, i), List.mk_mem_zipIdx_iff_getElem?.mpr hg, rfl⟩
  rw [lookup_eq_some_iff_mem hnodup, hmem, List.getElem?_map, Option.map_eq_some_iff]

def sightings (scene : Scene) (ps : List Placed) : List String :=
  ps.filterMap (scene.meshKey? ·.node)

def IsFirst (scene : Scene) (ps : List Placed) (key : String) (p : Placed) : Prop :=
  ps.find? (scene.meshKey? ·.node == some key) = some p

structure Describes (scene : Scene) (ps : List Placed) (p : Placed) (g : SharedGeometry) :
    Prop where
  first : IsFirst scene ps g.key p
  count : g.count = (sightings scene ps).count g.key
  owner : g.owner = (declaredOwner? scene g.key).getD p.id

structure Records (scene : Scene) (ps firsts : List Placed) (r : Registry) : Prop where
  indexed : r.Indexed
  keys : ∀ key, key ∈ r.geometries.map (·.key) ↔ key ∈ sightings scene ps
  sublist : firsts.Sublist ps
  describes : List.Forall₂ (Describes scene ps) firsts r.geometries
  names : r.geometries.map (·.name) =
    Naming.uniqueAll [] (firsts.map fun p => Naming.displayBase p.node.name)

theorem sightings_concat (p : Placed) : sightings scene (ps ++ [p]) =
    sightings scene ps ++ (scene.meshKey? p.node).toList := by
  rw [sightings, List.filterMap_append, sightings]
  cases h : scene.meshKey? p.node <;> simp [h]

theorem IsFirst.concat {key : String} {p : Placed} (h : IsFirst scene ps key p) (q : Placed) :
    IsFirst scene (ps ++ [q]) key p := by
  rw [IsFirst, List.find?_append, show List.find? _ ps = some p from h, Option.some_or]

theorem Describes.concat_of_ne {p q : Placed} {g : SharedGeometry} (h : Describes scene ps p g)
    (hq : scene.meshKey? q.node ≠ some g.key) : Describes scene (ps ++ [q]) p g where
  first := h.first.concat q
  count := by
    have hcount : (scene.meshKey? q.node).toList.count g.key = 0 :=
      List.count_eq_zero.mpr (by simpa using hq)
    rw [sightings_concat, List.count_append, hcount]
    exact h.count
  owner := h.owner

theorem Describes.concat_of_eq {p q : Placed} {g : SharedGeometry} (h : Describes scene ps p g)
    (hq : scene.meshKey? q.node = some g.key) :
    Describes scene (ps ++ [q]) p { g with count := g.count + 1 } where
  first := h.first.concat q
  count := by
    rw [sightings_concat, hq, Option.toList_some, List.count_append, List.count_singleton_self,
      ← h.count]
  owner := h.owner

theorem records_empty : Records scene [] [] empty where
  indexed := indexed_empty
  keys := by simp [empty, sightings]
  sublist := .slnil
  describes := .nil
  names := rfl

namespace Records

theorem recordMaterial (h : Records scene ps firsts r) (p : Placed) :
    Records scene ps firsts (r.recordMaterial scene p) := by
  rw [Registry.recordMaterial]
  split
  · exact ⟨h.indexed, h.keys, h.sublist, h.describes, h.names⟩
  · exact h

theorem skip (h : Records scene ps firsts r) {p : Placed} (hp : scene.meshKey? p.node = none) :
    Records scene (ps ++ [p]) firsts r where
  indexed := h.indexed
  keys key := by rw [h.keys, sightings_concat, hp, Option.toList_none, List.append_nil]
  sublist := h.sublist.trans (List.sublist_append_left _ _)
  describes := h.describes.imp fun _ _ hd => hd.concat_of_ne (by simp [hp])
  names := h.names

theorem modify_eq_map (h : r.Indexed) {key : String} {i : Nat} (hi : r.places.lookup key = some i)
    (f : SharedGeometry → SharedGeometry) :
    r.geometries.modify i f = r.geometries.map fun g => if g.key = key then f g else g := by
  have hkey := (h key i).mp hi
  refine List.ext_getElem? fun j => ?_
  rw [List.getElem?_modify, List.getElem?_map]
  cases hg : r.geometries[j]? with
  | none => rfl
  | some g =>
    have hij : i = j ↔ g.key = key := by
      constructor
      · rintro rfl
        simpa [hg] using hkey
      · rintro rfl
        exact Option.some.inj (hi.symm.trans ((h g.key j).mpr (by simp [hg])))
    simp [hij]

theorem again (h : Records scene ps firsts r) {p : Placed} {key : String} {i : Nat}
    (hp : scene.meshKey? p.node = some key) (hi : r.places.lookup key = some i) :
    Records scene (ps ++ [p]) firsts
      ⟨r.materials, r.geometries.modify i fun g => { g with count := g.count + 1 }, r.places⟩ := by
  have hmap (proj : SharedGeometry → String)
      (hproj : ∀ g n, proj { g with count := n } = proj g) :
      (r.geometries.map fun g => if g.key = key then { g with count := g.count + 1 } else g).map
        proj = r.geometries.map proj := by
    rw [List.map_map]
    refine List.map_congr_left fun g _ => ?_
    simp only [Function.comp_apply]
    split
    · exact hproj g _
    · rfl
  rw [modify_eq_map h.indexed hi]
  constructor
  case indexed => simpa only [Indexed, hmap (·.key) fun _ _ => rfl] using h.indexed
  case keys =>
    intro other
    have hold : key ∈ sightings scene ps :=
      (h.keys key).mp (List.mem_of_getElem? ((h.indexed key i).mp hi))
    rw [hmap (·.key) fun _ _ => rfl, h.keys, sightings_concat, hp, Option.toList_some,
      List.mem_append, List.mem_singleton]
    exact ⟨.inl, fun ho => ho.elim id fun he => he ▸ hold⟩
  case sublist => exact h.sublist.trans (List.sublist_append_left _ _)
  case describes =>
    refine List.forall₂_map_right_iff.mpr (h.describes.imp fun q g hd => ?_)
    split
    case isTrue hk => exact hd.concat_of_eq (hk ▸ hp)
    case isFalse hk =>
      refine hd.concat_of_ne fun hs => hk ?_
      exact Option.some.inj (hs.symm.trans hp)
  case names => rw [hmap (·.name) fun _ _ => rfl, h.names]

theorem first (h : Records scene ps firsts r) {p : Placed} {key : String}
    (hp : scene.meshKey? p.node = some key) (hnew : r.places.lookup key = none) :
    Records scene (ps ++ [p]) (firsts ++ [p])
      ⟨r.materials, r.geometries ++ [r.sighted scene p key],
        (key, r.geometries.length) :: r.places⟩ := by
  have hunseen : key ∉ sightings scene ps := fun hs =>
    h.indexed.lookup_eq_none.mp hnew ((h.keys key).mpr hs)
  constructor
  case indexed => exact h.indexed.concat hnew
  case keys =>
    intro other
    rw [List.map_append, List.mem_append, h.keys, sightings_concat, hp, List.mem_append]
    simp [sighted]
  case sublist => exact h.sublist.append (List.Sublist.refl _)
  case describes =>
    -- The geometries listed before have other keys, so that `p` changes nothing about them.
    have hbefore : List.Forall₂ (Describes scene (ps ++ [p])) firsts r.geometries := by
      refine List.forall₂_iff_zip.mpr ⟨h.describes.length_eq, fun {q g} hm => ?_⟩
      refine ((List.forall₂_iff_zip.mp h.describes).2 hm).concat_of_ne fun hs => hunseen ?_
      rw [← Option.some.inj (hs.symm.trans hp), ← h.keys]
      exact List.mem_map_of_mem (List.of_mem_zip hm).2
    refine List.rel_append hbefore (.cons ⟨?_, ?_, rfl⟩ .nil)
    · have hnone : ps.find? (scene.meshKey? ·.node == some key) = none := by
        rw [List.find?_eq_none]
        intro q hq hk
        exact hunseen (List.mem_filterMap.mpr ⟨q, hq, by simpa using hk⟩)
      rw [IsFirst, List.find?_append, show (r.sighted scene p key).key = key from rfl, hnone,
        Option.none_or]
      simp [hp]
    · rw [sightings_concat, hp, Option.toList_some, List.count_append,
        show (r.sighted scene p key).key = key from rfl, List.count_eq_zero.mpr hunseen,
        List.count_singleton_self]
      rfl
  case names =>
    rw [List.map_append, List.map_append, List.map_singleton, List.map_singleton,
      Naming.uniqueAll_concat, List.append_nil, h.names]
    simp [sighted, h.names]

theorem recordGeometry (h : Records scene ps firsts r) (p : Placed) :
    ∃ firsts, Records scene (ps ++ [p]) firsts (r.recordGeometry scene p) := by
  unfold Registry.recordGeometry
  split
  case h_1 hp => exact ⟨_, h.skip hp⟩
  case h_2 key hp =>
    split
    case h_1 i hi => exact ⟨_, h.again hp hi⟩
    case h_2 hnew => exact ⟨_, h.first hp hnew⟩

theorem foldl (scene : Scene) (ps : List Placed) :
    ∃ firsts, Records scene ps firsts (ps.foldl (record scene) empty) := by
  induction ps using List.reverseRecOn with
  | nil => exact ⟨[], records_empty⟩
  | append_singleton ps p ih =>
    obtain ⟨firsts, h⟩ := ih
    rw [List.foldl_concat]
    exact (h.recordMaterial p).recordGeometry p

theorem nodup_names (h : Records scene ps firsts r) : (r.geometries.map (·.name)).Nodup :=
  h.names ▸ Naming.nodup_uniqueAll _ _

theorem exists_describes (h : Records scene ps firsts r) {g : SharedGeometry}
    (hg : g ∈ r.geometries) : ∃ p ∈ firsts, Describes scene ps p g := by
  obtain ⟨i, hi, rfl⟩ := List.mem_iff_getElem.mp hg
  have hi' : i < firsts.length := h.describes.length_eq ▸ hi
  exact ⟨firsts[i], List.getElem_mem hi', h.describes.get hi' hi⟩

end Records

variable (scene : Scene) (options : Options) (ps : List Placed)

theorem geometries_of : (of scene options ps).geometries =
    (ps.foldl (record scene) empty).geometries.filter
      fun g => options.instanceAll || decide (1 < g.count) := by
  rw [of]
  cases options.instanceAll with
  | true => simp
  | false => simp [prune]

theorem indexed_of : (of scene options ps).Indexed := by
  obtain ⟨firsts, h⟩ := Records.foldl scene ps
  rw [of]
  split
  · exact h.indexed
  · exact indexed_prune h.indexed.nodup

theorem materialCount_of (name : String) : (of scene options ps).materialCount name =
    (ps.filterMap (scene.meshMaterial? ·.node)).count name := by
  have hall : (ps.foldl (record scene) empty).materialCount name = _ :=
    materialCount_foldl empty ps name
  rw [show empty.materialCount name = 0 from rfl, Nat.zero_add] at hall
  rw [← hall, of]
  split <;> rfl

theorem nodup_names_of : ((of scene options ps).geometries.map (·.name)).Nodup := by
  obtain ⟨firsts, h⟩ := Records.foldl scene ps
  rw [geometries_of]
  exact (List.filter_sublist.map _).nodup h.nodup_names

end SceneMarkup.Registry
