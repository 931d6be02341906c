import Mathlib.Data.Set.Lattice
import SceneMarkup.Proofs.JsonLayout
import SceneMarkup.Proofs.Keyed
import SceneMarkup.Source.Evaluation

namespace SceneMarkup

theorem Vec3.toList_injective : Function.Injective toList := fun v w h => by
  cases v
  cases w
  simpa [toList] using h

namespace Json

def own? : Json → String → Option Json
  | object members, key => member? key members
  | array items, key =>
    if key = "length" then some (.natural items.length)
    else (Script.index? key).bind (items[·]?)
  | _, _ => none

def kind : Json → String
  | null | array _ | object _ => "object"
  | bool _ => "boolean"
  | number _ => "number"
  | string _ => "string"

theorem kind_eq_number {j : Json} : j.kind = "number" ↔ ∃ n, j = .number n := by
  cases j <;> simp [kind]

end Json

namespace Script

structure Heap.Changes (written : Set Address) (heap heap' : Heap) : Prop where
  kept : ∀ a c, heap[a]? = some c → a ∉ written ∨ c.isArray → heap'[a]? = some c

namespace Heap.Changes

variable {written more : Set Address} {heap heap' heap'' : Heap}

theorem refl (written : Set Address) (heap : Heap) : Changes written heap heap :=
  ⟨fun _ _ h _ => h⟩

theorem trans (h : Changes written heap heap') (h' : Changes written heap' heap'') :
    Changes written heap heap'' :=
  ⟨fun a c hc hkept => h'.kept a c (h.kept a c hc hkept) hkept⟩

theorem mono (h : Changes written heap heap') (hsub : written ⊆ more) : Changes more heap heap' :=
  ⟨fun a c hc hkept => h.kept a c hc (hkept.imp_left fun hn hw => hn (hsub hw))⟩

theorem of_allocated (h : heap <+: heap') : Changes written heap heap' :=
  ⟨fun a c hc _ => by
    obtain ⟨rest, rfl⟩ := h
    rw [List.getElem?_append_left (List.getElem?_eq_some_iff.mp hc).1, hc]⟩

theorem set_record {a : Address} {fields : List (String × Value)}
    (h : heap[a]? = some (.record fields)) (c : Cell) : Changes {a} heap (heap.set a c) := by
  refine ⟨fun a' c' hc hkept => ?_⟩
  have hne : a ≠ a' := by
    rintro rfl
    cases h.symm.trans hc
    rcases hkept with hn | harray
    · exact hn rfl
    · cases harray
  rw [List.getElem?_set_ne hne, hc]

end Heap.Changes

/-- The value stands for a JSON value, with none of its records at the addresses to be avoided. The
same object may be in several places, as nothing of it is written to. -/
inductive Spells (heap : Heap) (avoid : Set Address) : Value → Json → Prop
  | null : Spells heap avoid .null .null
  | bool : Spells heap avoid (.bool b) (.bool b)
  | number : v.toFloat? = some n.toFloat → Spells heap avoid v (.number n)
  | string : Spells heap avoid (.string s) (.string s)
  | array : heap[a]? = some (.array vs) → vs.length = items.length →
      (∀ (i : Nat) v j, vs[i]? = some v → items[i]? = some j → Spells heap avoid v j) →
      Spells heap avoid (.reference a) (.array items)
  | object : a ∉ avoid → heap[a]? = some (.record fields) →
      (∀ key, key ∈ fields.map Prod.fst ↔ key ∈ members.map Prod.fst) →
      (∀ key v j, Json.member? key fields = some v → Json.member? key members = some j →
        Spells heap avoid v j) →
      Spells heap avoid (.reference a) (.object members)

namespace Spells

variable {heap heap' : Heap} {avoid : Set Address} {v : Value} {j : Json}

theorem kind_eq (h : Spells heap avoid v j) : v.kind = j.kind := by
  cases h with
  | @number v n hv => cases v <;> first | rfl | cases hv
  | _ => rfl

theorem toFloat?_eq (h : Spells heap avoid v j) : v.toFloat? = j.number? := by
  cases h with
  | number hv => exact hv
  | _ => rfl

theorem map_eq {f : Value → β} {g : Json → β} (hfg : ∀ {v j}, Spells heap avoid v j → f v = g j)
    {vs : List Value} {items : List Json} (hlength : vs.length = items.length)
    (h : ∀ (i : Nat) v j, vs[i]? = some v → items[i]? = some j → Spells heap avoid v j) :
    vs.map f = items.map g := by
  refine List.ext_getElem (by simp [hlength]) fun i hi hi' => ?_
  rw [List.length_map] at hi hi'
  rw [List.getElem_map, List.getElem_map]
  exact hfg (h i _ _ (List.getElem?_eq_getElem hi) (List.getElem?_eq_getElem hi'))

theorem changes (h : Spells heap avoid v j) (hchanges : Heap.Changes avoid heap heap') :
    Spells heap' avoid v j := by
  induction h with
  | null => exact .null
  | bool => exact .bool
  | number hv => exact .number hv
  | string => exact .string
  | array hc hlength _ ih => exact .array (hchanges.kept _ _ hc (.inr rfl)) hlength ih
  | object hn hc hkeys _ ih => exact .object hn (hchanges.kept _ _ hc (.inl hn)) hkeys ih

theorem property? {a : Address} (h : Spells heap avoid (.reference a) j) :
    ∃ c, heap[a]? = some c ∧
      ∀ key, Option.Rel (Spells heap avoid) (c.property? key) (j.own? key) := by
  cases h with
  | number hv => cases hv
  | @array _ vs items hc hlength hitems =>
    refine ⟨_, hc, fun key => ?_⟩
    simp only [Cell.property?, Json.own?]
    split
    · exact .some (.number (by rw [hlength]; rfl))
    · cases Script.index? key with
      | none => exact .none
      | some i =>
        simp only [Option.bind_some]
        cases hv : vs[i]? with
        | none =>
          rw [List.getElem?_eq_none (hlength ▸ List.getElem?_eq_none_iff.mp hv)]
          exact .none
        | some v =>
          have hi : i < items.length := hlength ▸ (List.getElem?_eq_some_iff.mp hv).1
          rw [List.getElem?_eq_getElem hi]
          exact .some (hitems i v _ hv (List.getElem?_eq_getElem hi))
  | @object _ fields members _ hc hkeys hmembers =>
    refine ⟨_, hc, fun key => ?_⟩
    simp only [Cell.property?, Json.own?]
    have hsome : (Json.member? key fields).isSome ↔ (Json.member? key members).isSome := by
      rw [Json.isSome_member?, Json.isSome_member?, hkeys]
    cases hv : Json.member? key fields with
    | none =>
      cases hj : Json.member? key members with
      | none => exact .none
      | some j => simp [hv, hj] at hsome
    | some v =>
      cases hj : Json.member? key members with
      | none => simp [hv, hj] at hsome
      | some j => exact .some (hmembers key v j hv hj)

theorem exists_items {items : List Json} (h : ∀ j ∈ items, ∀ heap : Heap,
      (∀ a ∈ avoid, a < heap.length) → ∃ heap' v, heap <+: heap' ∧ Spells heap' avoid v j)
    (heap : Heap) (havoid : ∀ a ∈ avoid, a < heap.length) :
    ∃ (heap' : Heap) (vs : List Value), heap <+: heap' ∧ vs.length = items.length ∧
      ∀ (i : Nat) v j, vs[i]? = some v → items[i]? = some j → Spells heap' avoid v j := by
  induction items generalizing heap with
  | nil => exact ⟨heap, [], List.prefix_rfl, rfl, nofun⟩
  | cons j rest ih =>
    rw [List.forall_mem_cons] at h
    obtain ⟨heap₁, v, hle₁, hv⟩ := h.1 heap havoid
    obtain ⟨heap₂, vs, hle₂, hlength, hvs⟩ :=
      ih h.2 heap₁ fun a ha => (havoid a ha).trans_le hle₁.length_le
    refine ⟨heap₂, v :: vs, hle₁.trans hle₂, congrArg (· + 1) hlength, fun i v' j' hv' hj' => ?_⟩
    cases i with
    | zero =>
      cases hv'
      cases hj'
      exact hv.changes (.of_allocated hle₂)
    | succ i => exact hvs i v' j' hv' hj'

theorem exists_members {members : List (String × Json)} (h : ∀ m ∈ members, ∀ heap : Heap,
      (∀ a ∈ avoid, a < heap.length) → ∃ heap' v, heap <+: heap' ∧ Spells heap' avoid v m.2)
    (heap : Heap) (havoid : ∀ a ∈ avoid, a < heap.length) :
    ∃ heap' fields, heap <+: heap' ∧ fields.map Prod.fst = members.map Prod.fst ∧
      ∀ key v j, Json.member? key fields = some v → Json.member? key members = some j →
        Spells heap' avoid v j := by
  induction members generalizing heap with
  | nil => exact ⟨heap, [], List.prefix_rfl, rfl, nofun⟩
  | cons m rest ih =>
    rw [List.forall_mem_cons] at h
    obtain ⟨heap₁, v, hle₁, hv⟩ := h.1 heap havoid
    obtain ⟨heap₂, fields, hle₂, hkeys, hfields⟩ :=
      ih h.2 heap₁ fun a ha => (havoid a ha).trans_le hle₁.length_le
    refine ⟨heap₂, (m.1, v) :: fields, hle₁.trans hle₂, congrArg (m.1 :: ·) hkeys,
      fun key v' j' hv' hj' => ?_⟩
    rw [Json.member?] at hv' hj'
    split at hv'
    · next hkey =>
      rw [if_pos hkey] at hj'
      cases hv'
      cases hj'
      exact hv.changes (.of_allocated hle₂)
    · next hkey =>
      rw [if_neg hkey] at hj'
      exact hfields key v' j' hv' hj'

theorem exists_allocated (j : Json) (heap : Heap) (havoid : ∀ a ∈ avoid, a < heap.length) :
    ∃ heap' v, heap <+: heap' ∧ Spells heap' avoid v j := by
  induction j using Json.induct generalizing heap with
  | null => exact ⟨heap, _, List.prefix_rfl, .null⟩
  | bool => exact ⟨heap, _, List.prefix_rfl, .bool⟩
  | number n => exact ⟨heap, .number n.toFloat, List.prefix_rfl, .number rfl⟩
  | string => exact ⟨heap, _, List.prefix_rfl, .string⟩
  | array items ih =>
    obtain ⟨heap', vs, hle, hlength, hvs⟩ := exists_items ih heap havoid
    have hstep : heap' <+: heap' ++ [.array vs] := List.prefix_append ..
    exact ⟨_, .reference heap'.length, hle.trans hstep, .array (by simp) hlength
      fun i v j hv hj => (hvs i v j hv hj).changes (.of_allocated hstep)⟩
  | object members ih =>
    obtain ⟨heap', fields, hle, hkeys, hfields⟩ := exists_members ih heap havoid
    have hstep : heap' <+: heap' ++ [.record fields] := List.prefix_append ..
    have hfresh : heap'.length ∉ avoid := fun ha => (havoid _ ha).not_ge hle.length_le
    exact ⟨_, .reference heap'.length, hle.trans hstep, .object hfresh (by simp) (by simp [hkeys])
      fun key v j hv hj => (hfields key v j hv hj).changes (.of_allocated hstep)⟩

end Spells

/-- The value stands for a context, with its records at the given addresses and none of them in two
places. The fields of a record may be in any order. -/
inductive Holds (heap : Heap) : ContextValue → Value → Set Address → Prop
  | number : v.toFloat? = some x → Holds heap (.number x) v ∅
  | bool : Holds heap (.bool b) (.bool b) ∅
  | text : Holds heap (.text t) (.string t) ∅
  | vector {a : Address} {vs : List Value} {v : Vec3} {angular : Bool} :
      heap[a]? = some (.array vs) → vs.map Value.toFloat? = v.toList.map some →
      Holds heap (.vector v angular) (.reference a) ∅
  | group {a : Address} {fields : List (String × Value)} {entries : List (String × ContextValue)}
      {value : String → Value} {below : String → Set Address} :
      heap[a]? = some (.record fields) → (fields.map Prod.fst).Nodup →
      List.Perm (fields.map Prod.fst) (entries.map Prod.fst) →
      (∀ e ∈ entries, Json.member? e.1 fields = some (value e.1)) →
      (∀ e ∈ entries, Holds heap e.2 (value e.1) (below e.1)) →
      (∀ key ∈ entries.map Prod.fst, a ∉ below key) →
      (∀ key ∈ entries.map Prod.fst, ∀ key' ∈ entries.map Prod.fst, ∀ d ∈ below key,
        d ∈ below key' → key = key') →
      Holds heap (.group entries) (.reference a)
        {d | d = a ∨ ∃ key ∈ entries.map Prod.fst, d ∈ below key}

namespace Holds

variable {heap heap' : Heap} {v w : ContextValue} {x : Value} {records records' : Set Address}

theorem changes {written : Set Address} (h : Holds heap v x records)
    (hchanges : Heap.Changes written heap heap') (hdisjoint : ∀ a ∈ records, a ∉ written) :
    Holds heap' v x records := by
  induction h with
  | number hv => exact .number hv
  | bool => exact .bool
  | text => exact .text
  | vector hc hvs => exact .vector (hchanges.kept _ _ hc (.inr rfl)) hvs
  | group hc hnodup hkeys hvalue _ hown hapart ih =>
    refine .group (hchanges.kept _ _ hc (.inl (hdisjoint _ (.inl rfl)))) hnodup hkeys hvalue
      (fun e he => ih e he fun a ha => ?_) hown hapart
    exact hdisjoint a (.inr ⟨e.1, List.mem_map_of_mem he, ha⟩)

theorem unique (h : Holds heap v x records) (h' : Holds heap w x records')
    (hschema : v.schema = w.schema) : v = w := by
  -- The cell at an address tells what kind of value it stands for, but not whether a vector is an
  -- angle: that is read off the schema.
  induction h generalizing w records' with
  | number hv =>
    cases h' with
    | number hv' => rw [Option.some.inj (hv.symm.trans hv')]
    | bool | text | vector | group => cases hv
  | bool =>
    cases h' with
    | number hv' => cases hv'
    | bool => rfl
  | text =>
    cases h' with
    | number hv' => cases hv'
    | text => rfl
  | @vector _ vs v angular hc hvs =>
    cases h' with
    | number hv' => cases hv'
    | @vector _ vs' v' angular' hc' hvs' =>
      cases hc.symm.trans hc'
      cases hschema
      have hv := hvs.symm.trans hvs'
      rw [Vec3.toList_injective (List.map_injective_iff.mpr (Option.some_injective _) hv)]
    | group hc' => cases hc.symm.trans hc'
  | @group _ fields entries value below hc hnodup hkeys hvalue _ hown hapart ih =>
    cases h' with
    | number hv' => cases hv'
    | vector hc' => cases hc.symm.trans hc'
    | @group _ fields' entries' value' below' hc' _ _ hvalue' hbelow' =>
      cases hc.symm.trans hc'
      rw [ContextValue.schema_group, ContextValue.schema_group, Schema.group.injEq] at hschema
      have hlength : entries.length = entries'.length := by simpa using congrArg List.length hschema
      refine congrArg ContextValue.group (List.ext_getElem hlength fun i hi hi' => ?_)
      have he : entries[i] ∈ entries := List.getElem_mem hi
      have he' : entries'[i] ∈ entries' := List.getElem_mem hi'
      obtain ⟨hkey, hbelow⟩ : entries[i].1 = entries'[i].1 ∧
          entries[i].2.schema = entries'[i].2.schema := by
        have hat := congrArg (·[i]?) hschema
        simpa [hi, hi'] using hat
      have hx : value entries[i].1 = value' entries'[i].1 := by
        have h := hvalue _ he
        rw [hkey, hvalue' _ he'] at h
        rw [hkey, Option.some.inj h]
      exact Prod.ext hkey (ih _ he (hx ▸ hbelow' _ he') hbelow)

def NewIn (heap heap' : Heap) (records : Set Address) : Prop :=
  ∀ a ∈ records, heap.length ≤ a ∧ a < heap'.length

theorem newIn_empty : NewIn heap heap' ∅ := fun _ ha => absurd ha (Set.notMem_empty _)

theorem exists_entries {entries : List (String × ContextValue)}
    (hkeys : (entries.map Prod.fst).Nodup) (h : ∀ e ∈ entries, ∀ heap : Heap,
      ∃ heap' x records, heap <+: heap' ∧ Holds heap' e.2 x records ∧ NewIn heap heap' records)
    (heap : Heap) : ∃ (heap' : Heap) (value : String → Value) (below : String → Set Address),
      heap <+: heap' ∧
      (∀ e ∈ entries, Holds heap' e.2 (value e.1) (below e.1) ∧ NewIn heap heap' (below e.1)) ∧
      ∀ key ∈ entries.map Prod.fst, ∀ key' ∈ entries.map Prod.fst, ∀ d ∈ below key,
        d ∈ below key' → key = key' := by
  -- The object of the first entry is made before the others, so that its records lie below theirs.
  induction entries generalizing heap with
  | nil => exact ⟨heap, fun _ => .undefined, fun _ => ∅, List.prefix_rfl, nofun, nofun⟩
  | cons e rest ih =>
    rw [List.forall_mem_cons] at h
    rw [List.map_cons, List.nodup_cons] at hkeys
    obtain ⟨heap₁, x, records, hle₁, hx, hnew₁⟩ := h.1 heap
    obtain ⟨heap₂, value, below, hle₂, hrest, hapart⟩ := ih hkeys.2 h.2 heap₁
    have hne : ∀ key ∈ rest.map Prod.fst, key ≠ e.1 := fun key hk heq => hkeys.1 (heq ▸ hk)
    have hfar : ∀ d ∈ records, ∀ key ∈ rest.map Prod.fst, d ∉ below key := by
      intro d hd
      rw [List.forall_mem_map]
      exact fun e' he' hd' => ((hnew₁ d hd).2.trans_le ((hrest e' he').2 d hd').1).false
    refine ⟨heap₂, Function.update value e.1 x, Function.update below e.1 records,
      hle₁.trans hle₂, ?_, ?_⟩
    · rw [List.forall_mem_cons]
      refine ⟨?_, fun e' he' => ?_⟩
      · rw [Function.update_self, Function.update_self]
        exact ⟨hx.changes (.of_allocated hle₂) (fun _ _ => Set.notMem_empty _), fun d hd =>
          ⟨(hnew₁ d hd).1, (hnew₁ d hd).2.trans_le hle₂.length_le⟩⟩
      · have hkey := hne e'.1 (List.mem_map_of_mem he')
        rw [Function.update_of_ne hkey, Function.update_of_ne hkey]
        exact ⟨(hrest e' he').1, fun d hd =>
          ⟨hle₁.length_le.trans ((hrest e' he').2 d hd).1, ((hrest e' he').2 d hd).2⟩⟩
    · intro key hk key' hk' d hd hd'
      rcases List.mem_cons.mp hk with rfl | hk <;> rcases List.mem_cons.mp hk' with rfl | hk'
      · rfl
      · rw [Function.update_self] at hd
        rw [Function.update_of_ne (hne key' hk')] at hd'
        exact absurd hd' (hfar d hd key' hk')
      · rw [Function.update_self] at hd'
        rw [Function.update_of_ne (hne key hk)] at hd
        exact absurd hd (hfar d hd' key hk)
      · rw [Function.update_of_ne (hne key hk)] at hd
        rw [Function.update_of_ne (hne key' hk')] at hd'
        exact hapart key hk key' hk' d hd hd'

theorem exists_allocated {depth : Nat} (h : v.schema.Keyed depth) (heap : Heap) :
    ∃ heap' x records, heap <+: heap' ∧ Holds heap' v x records ∧ NewIn heap heap' records := by
  induction v generalizing depth heap with
  | leaf l =>
    cases l with
    | number x => exact ⟨heap, .number x, _, List.prefix_rfl, .number rfl, newIn_empty⟩
    | bool => exact ⟨heap, _, _, List.prefix_rfl, .bool, newIn_empty⟩
    | text => exact ⟨heap, _, _, List.prefix_rfl, .text, newIn_empty⟩
    | vector v angular =>
      let items := [Value.number v.x, .number v.y, .number v.z]
      have hitem : (heap ++ [Cell.array items])[heap.length]? = some (.array items) := by simp
      exact ⟨_, _, _, List.prefix_append .., .vector hitem rfl, newIn_empty⟩
  | group entries ih =>
    obtain ⟨depth, rfl⟩ := h.exists_succ
    obtain ⟨hnodup, hbelow⟩ := ContextValue.keyed_group.mp h
    obtain ⟨heap', value, below, hle, hentries, hapart⟩ :=
      exists_entries hnodup (fun e he => ih e he (hbelow e he)) heap
    let fields := entries.map fun e => (e.1, value e.1)
    have hkeys : fields.map Prod.fst = entries.map Prod.fst := by simp [fields, Function.comp_def]
    have hstep : heap' <+: heap' ++ [.record fields] := List.prefix_append ..
    have hcell : (heap' ++ [Cell.record fields])[heap'.length]? = some (.record fields) := by simp
    have hvalue : ∀ e ∈ entries, Json.member? e.1 fields = some (value e.1) := fun e he =>
      (Json.member?_eq_some_iff (hkeys ▸ hnodup)).mpr (List.mem_map_of_mem he)
    refine ⟨_, _, _, hle.trans hstep, .group hcell (hkeys ▸ hnodup) (hkeys ▸ .refl _) hvalue
      (fun e he => (hentries e he).1.changes (.of_allocated hstep) fun _ _ => Set.notMem_empty _)
      (List.forall_mem_map.mpr fun e he ha => ((hentries e he).2 _ ha).2.false) hapart, ?_⟩
    · rintro a (rfl | ⟨key, hk, ha⟩)
      · exact ⟨hle.length_le, by simp⟩
      · obtain ⟨e, he, rfl⟩ := List.mem_map.mp hk
        exact ⟨((hentries e he).2 a ha).1, ((hentries e he).2 a ha).2.trans_le hstep.length_le⟩

end Holds

end Script

end SceneMarkup
