import SceneMarkup.Proofs.Evaluation
import SceneMarkup.Proofs.Overlay
import SceneMarkup.Proofs.Spelling
import SceneMarkup.Source.Script

namespace SceneMarkup

namespace Json

def reach? (j : Json) : List String → Option Json
  | [] => some j
  | key :: rest => (j.own? key).bind fun below => below.reach? rest

def isVector (length : Nat) : Json → Bool
  | array items => items.length == length && items.all (·.kind == "number")
  | _ => false

theorem isVector_three {j : Json} (h : j.isVector 3) :
    ∃ x y z, j = .array [.number x, .number y, .number z] := by
  match j with
  | array [a, b, c] =>
    simp only [isVector, List.all_cons, Bool.and_eq_true, beq_iff_eq, kind_eq_number] at h
    obtain ⟨-, ⟨x, rfl⟩, ⟨y, rfl⟩, ⟨z, rfl⟩, -⟩ := h
    exact ⟨x, y, z, rfl⟩
  | array [] | array [_] | array [_, _] | array (_ :: _ :: _ :: _ :: _) => simp [isVector] at h
  | null | bool _ | number _ | string _ | object _ => cases h

end Json

theorem Leaf.restored_vector_of_not {j : Json} (hvector : j.isVector 3 = false)
    (hnumber : j.kind ≠ "number") (v : Vec3) (angular : Bool) :
    (vector v angular).restored (some j) = vector v angular := by
  rw [restored.eq_def]
  split <;> simp_all [Json.isVector, Json.kind]

namespace ContextValue

/-- Gives each leaf what a script reads at its path, if that is of its kind. -/
def overlayOwn (saved : Option Json) (v : ContextValue) : ContextValue :=
  v.mapLeaves fun path l => l.restored (saved.bind (·.reach? path))

variable {saved : Option Json}

@[simp] theorem overlayOwn_none (v : ContextValue) : v.overlayOwn none = v := by
  simp [overlayOwn, mapLeaves_id]

@[simp] theorem overlayOwn_value (l : Leaf) :
    l.value.overlayOwn saved = (l.restored saved).value := by
  cases saved <;> simp [overlayOwn, Json.reach?]

theorem overlayOwn_group (entries : List (String × ContextValue)) :
    (group entries).overlayOwn saved =
      group (entries.map fun e => (e.1, e.2.overlayOwn (saved.bind (·.own? e.1)))) := by
  rw [overlayOwn, mapLeaves_group]
  congr 1
  refine List.map_congr_left fun e _ => ?_
  simp only [overlayOwn, Option.bind_assoc]
  rfl

theorem schema_overlayOwn (v : ContextValue) : (v.overlayOwn saved).schema = v.schema :=
  schema_mapLeaves (fun _ => Leaf.kind_restored _) v

theorem overlayOwn_group_of_kind {j : Json} (h : j = .null ∨ j.kind ≠ "object")
    (entries : List (String × ContextValue)) :
    (group entries).overlayOwn (some j) = group entries := by
  rw [overlayOwn_group]
  have hown (key : String) : j.own? key = none := by
    cases j <;> simp_all [Json.own?, Json.kind]
  simp [hown]

end ContextValue

namespace Script

variable {heap heap' : Heap} {avoid records : Set Address} {a b : Address} {key : String}
  {fields : List (String × Value)} {x y z : Value} {j : Json}

structure Puts (a : Address) (key : String) (z : Value) (fields : List (String × Value))
    (records : Set Address) (heap heap' : Heap) : Prop where
  changes : Heap.Changes (insert a records) heap heap'
  record : ∃ fields', heap'[a]? = some (.record fields') ∧
    fields'.map Prod.fst = fields.map Prod.fst ∧
    ∀ k, Json.member? k fields' = if k = key then some z else Json.member? k fields

theorem Puts.of_member? (hchanges : Heap.Changes records heap heap')
    (hrecord : heap'[a]? = some (.record fields)) (hx : Json.member? key fields = some x) :
    Puts a key x fields records heap heap' := by
  refine ⟨hchanges.mono (Set.subset_insert ..), fields, hrecord, rfl, fun k => ?_⟩
  split
  · next hk => rw [hk, hx]
  · rfl

theorem exists_put? (h : Json.member? key fields = some x) (z : Value) :
    ∃ fields', (Cell.record fields).put? key z = some (.record fields') ∧
      fields'.map Prod.fst = fields.map Prod.fst ∧
      ∀ k, Json.member? k fields' = if k = key then some z else Json.member? k fields := by
  have hmem : key ∈ fields.map Prod.fst := Json.isSome_member?.mp (by rw [h]; rfl)
  refine ⟨_, if_pos hmem, ?_, fun k => ?_⟩
  · rw [List.map_map]
    refine List.map_congr_left fun f _ => ?_
    by_cases hf : f.1 = key <;> simp [hf]
  · have hfields : (fields.map fun f => if f.1 = key then (key, z) else f) =
        fields.map fun f => (f.1, if f.1 = key then z else f.2) := by
      refine List.map_congr_left fun f _ => ?_
      split
      · next hf => rw [hf]
      · rfl
    rw [hfields, Json.member?_map_key fun k v => if k = key then z else v]
    split
    · next hk => rw [hk, h, Option.map_some]
    · exact Option.map_id'

theorem run_putValue (program : List Function) {locals : Locals} {value : Term}
    (htarget : Json.member? "target" locals = some (.reference a))
    (hkey : Json.member? "key" locals = some (.string key))
    (hvalue : value.eval locals heap = some (z, heap')) (hallocated : heap <+: heap')
    (hrecord : heap[a]? = some (.record fields)) (hx : Json.member? key fields = some x) :
    ∃ heap'', Task.run program locals (.statement (putValue value)) heap =
        some (.next locals, heap'') ∧
      Puts a key z fields ∅ heap heap'' ∧ Heap.Changes {a} heap' heap'' := by
  obtain ⟨fields', hput, hkeys, hfields⟩ := exists_put? hx z
  have hrecord' : heap'[a]? = some (.record fields) :=
    (Heap.Changes.of_allocated hallocated).kept a _ hrecord (.inl (Set.notMem_empty a))
  have hwritten : Heap.Changes {a} heap' (heap'.set a (.record fields')) :=
    .set_record hrecord' _
  refine ⟨_, run_put (Term.yields_name htarget) (Term.yields_name hkey) hvalue hrecord' hput,
    ⟨(Heap.Changes.of_allocated hallocated).trans (hwritten.mono (by simp)), fields', ?_, hkeys,
      hfields⟩, hwritten⟩
  exact List.getElem?_set_self (List.getElem?_eq_some_iff.mp hrecord').1

def keyLocals (a b : Address) (key : String) (x y : Value) : Locals :=
  [("value", y), ("current", x), ("key", .string key), ("target", .reference a),
    ("saved", .reference b)]

def overlayCases : Statement :=
  .cases [
    (.isArray (.name "current"), overlayVector),
    (isGroup, [.call "applySaved" [.name "current", .name "value"]]),
    (.binary .same (.kind (.name "value")) (.kind (.name "current")), [putValue (.name "value")])]

/-- What the script does at a key where a value is saved: it leaves an object for what the context
there takes from the value. -/
def Overlays (v : ContextValue) : Prop :=
  ∀ {heap : Heap} {avoid records : Set Address} {a b : Address} {key : String}
    {fields : List (String × Value)} {x y : Value} {j : Json},
    heap[a]? = some (.record fields) → Json.member? key fields = some x →
    Holds heap v x records → a ∉ records → insert a records ⊆ avoid → Spells heap avoid y j →
    ∃ heap' z, Task.run [overlay] (keyLocals a b key x y) (.statement overlayCases) heap =
        some (.next (keyLocals a b key x y), heap') ∧
      Puts a key z fields records heap heap' ∧ Holds heap' (v.overlayOwn (some j)) z records

section

variable {program : List Function}

theorem member?_current : Json.member? "current" (keyLocals a b key x y) = some x := by
  simp [keyLocals, Json.member?]

theorem member?_value : Json.member? "value" (keyLocals a b key x y) = some y := by
  simp [keyLocals, Json.member?]

theorem member?_key : Json.member? "key" (keyLocals a b key x y) = some (.string key) := by
  simp [keyLocals, Json.member?]

theorem member?_target : Json.member? "target" (keyLocals a b key x y) = some (.reference a) := by
  simp [keyLocals, Json.member?]

theorem counts_isKind {locals : Locals} {t : Term} (h : t.Yields locals heap x) (kind : String) :
    (isKind t kind).Counts locals heap (x.kind == kind) :=
  Term.counts_same (Term.yields_kind h) (Term.yields_string kind)

theorem run_putSaved (program : List Function) (hrecord : heap[a]? = some (.record fields))
    (hx : Json.member? key fields = some x) :
    ∃ heap', Task.run program (keyLocals a b key x y) (.body [putValue (.name "value")]) heap =
        some (.next (keyLocals a b key x y), heap') ∧ Puts a key y fields ∅ heap heap' := by
  obtain ⟨heap', hexec, hputs, -⟩ := run_putValue program member?_target member?_key
    (Term.yields_name member?_value) List.prefix_rfl hrecord hx
  exact ⟨heap', run_body_singleton hexec, hputs⟩

theorem run_overlayCases_of_kind (hrecord : heap[a]? = some (.record fields))
    (hx : Json.member? key fields = some x) (hkind : x.kind ≠ "object") :
    ∃ heap', Task.run program (keyLocals a b key x y) (.statement overlayCases) heap =
        some (.next (keyLocals a b key x y), heap') ∧
      Puts a key (if y.kind = x.kind then y else x) fields ∅ heap heap' := by
  have hcurrent : (Term.name "current").Yields (keyLocals a b key x y) heap x :=
    Term.yields_name member?_current
  have hvalue : (Term.name "value").Yields (keyLocals a b key x y) heap y :=
    Term.yields_name member?_value
  have harray : (Term.isArray (.name "current")).Counts (keyLocals a b key x y) heap false :=
    Term.counts_isArray_of_ne hcurrent fun c hc => hkind (hc ▸ rfl)
  have hgroup : isGroup.Counts (keyLocals a b key x y) heap false := by
    have h := Term.counts_and (Term.counts_differs hcurrent Term.yields_null)
      fun _ => counts_isKind hcurrent "object"
    rwa [beq_false_of_ne hkind, Bool.and_false] at h
  have hsame := Term.counts_same (Term.yields_kind hvalue) (Term.yields_kind hcurrent)
  rw [overlayCases, run_cases, run_branches_of_not_met harray, run_branches_of_not_met hgroup]
  split
  · next heq =>
    obtain ⟨heap', hexec, hputs⟩ := run_putSaved program hrecord hx
    exact ⟨heap', run_branches_of_met (by simpa [Value.isSame, heq] using hsame) hexec, hputs⟩
  · next hne =>
    refine ⟨heap, ?_, .of_member? (.refl _ _) hrecord hx⟩
    rw [run_branches_of_not_met (by simpa [Value.isSame, beq_false_of_ne hne] using hsame),
      Task.run]
    rfl

theorem overlays_of_kind {v : ContextValue}
    (hkind : ∀ {heap x records}, Holds heap v x records → x.kind ≠ "object" ∧ records = ∅)
    (htakes : ∀ {heap heap' avoid x y j}, Holds heap v x ∅ → Spells heap avoid y j →
      Holds heap' (v.overlayOwn (some j)) (if y.kind = x.kind then y else x) ∅) : Overlays v := by
  intro heap avoid records a b key fields x y j hrecord hx hholds _ _ hspells
  obtain ⟨hne, rfl⟩ := hkind hholds
  obtain ⟨heap', hexec, hputs⟩ := run_overlayCases_of_kind hrecord hx hne
  exact ⟨heap', _, hexec, hputs, htakes hholds hspells⟩

theorem kind_of_toFloat? {n : Float} (h : x.toFloat? = some n) : x.kind = "number" := by
  cases x <;> first | rfl | cases h

theorem overlays_number (n : Float) : Overlays (.number n) := by
  refine overlays_of_kind (fun h => ?_) fun h hspells => ?_
  · cases h with
    | number hn => exact ⟨by simp [kind_of_toFloat? hn], rfl⟩
  · cases h with
    | number hn =>
      rw [kind_of_toFloat? hn]
      cases hspells with
      | number hv =>
        rw [kind_of_toFloat? hv]
        exact .number hv
      | _ => exact .number hn

theorem overlays_bool (c : Bool) : Overlays (.bool c) := by
  refine overlays_of_kind (fun h => ?_) fun h hspells => ?_
  · cases h with
    | bool => exact ⟨by simp [Value.kind], rfl⟩
  · cases h with
    | bool =>
      cases hspells with
      | number hv =>
        rw [kind_of_toFloat? hv]
        exact .bool
      | _ => exact .bool

theorem overlays_text (t : String) : Overlays (.text t) := by
  refine overlays_of_kind (fun h => ?_) fun h hspells => ?_
  · cases h with
    | text => exact ⟨by simp [Value.kind], rfl⟩
  · cases h with
    | text =>
      cases hspells with
      | number hv =>
        rw [kind_of_toFloat? hv]
        exact .text
      | _ => exact .text

theorem counts_isFittingArray {c : Address} {vs : List Value}
    (hcurrent : heap[c]? = some (.array vs)) (hspells : Spells heap avoid y j) :
    isFittingArray.Counts (keyLocals a b key (.reference c) y) heap (j.isVector vs.length) := by
  have hvalue : (Term.name "value").Yields (keyLocals a b key (.reference c) y) heap y :=
    Term.yields_name member?_value
  have hx : (Term.name "current").Yields (keyLocals a b key (.reference c) y) heap (.reference c) :=
    Term.yields_name member?_current
  -- What is no array is refused at once, without a look at its length or at its items.
  have hrefused (h : (Term.isArray (.name "value")).Counts (keyLocals a b key (.reference c) y)
      heap false) : isFittingArray.Counts (keyLocals a b key (.reference c) y) heap false :=
    @Term.counts_and _ _ _ _ false false (@Term.counts_and _ _ _ _ false false h nofun) nofun
  have hother (hy : ∀ d, y ≠ .reference d) :
      isFittingArray.Counts (keyLocals a b key (.reference c) y) heap false :=
    hrefused (Term.counts_isArray_of_ne hvalue hy)
  cases hspells with
  | null => exact hother nofun
  | bool => exact hother nofun
  | number hv => exact hother fun d hd => by subst hd; cases hv
  | string => exact hother nofun
  | object _ hc => exact hrefused (Term.counts_isArray hvalue hc)
  | @array d ws items hc hlength hitems =>
    have hlengths : (Term.binary .same (.length (.name "value")) (.length (.name "current"))).Counts
        (keyLocals a b key (.reference c) (.reference d)) heap (items.length == vs.length) := by
      have h := Term.counts_same (Term.yields_length hvalue hc) (Term.yields_length hx hcurrent)
      rwa [← hlength]
    have hnumbers : (Term.every (.name "value") "v" (isKind (.name "v") "number")).Counts
        (keyLocals a b key (.reference c) (.reference d)) heap
        (items.all (·.kind == "number")) := by
      have h := Term.counts_every (x := "v") (p := fun v => v.kind == "number") hvalue hc
        fun v _ => counts_isKind (Term.yields_name (x := "v") (by simp [Json.member?])) "number"
      have hall : ws.all (·.kind == "number") = items.all (·.kind == "number") := by
        have hmap := congrArg (List.all · (· == "number"))
          (Spells.map_eq (fun h => h.kind_eq) hlength hitems)
        simpa [List.all_map, Function.comp_def] using hmap
      rwa [← hall]
    exact Term.counts_and (Term.counts_and (Term.counts_isArray hvalue hc) fun _ => hlengths)
      fun _ => hnumbers

theorem run_overlayVector {c : Address} {v : Vec3} {vs : List Value}
    (hrecord : heap[a]? = some (.record fields))
    (hx : Json.member? key fields = some (.reference c)) (hcurrent : heap[c]? = some (.array vs))
    (hvs : vs.map Value.toFloat? = v.toList.map some) (angular : Bool)
    (hspells : Spells heap avoid y j) :
    ∃ heap' z, Task.run program (keyLocals a b key (.reference c) y) (.body overlayVector) heap =
        some (.next (keyLocals a b key (.reference c) y), heap') ∧
      Puts a key z fields ∅ heap heap' ∧
      Holds heap' ((Leaf.vector v angular).restored (some j)).value z ∅ := by
  have hlength : vs.length = 3 := by simpa [Vec3.toList] using congrArg List.length hvs
  have hvalue : (Term.name "value").Yields (keyLocals a b key (.reference c) y) heap y :=
    Term.yields_name member?_value
  have hfits : isFittingArray.Counts (keyLocals a b key (.reference c) y) heap (j.isVector 3) :=
    hlength ▸ counts_isFittingArray hcurrent hspells
  have hnumber := counts_isKind hvalue "number"
  -- Three numbers are put in as they are and one number fills a new array; all else is passed over.
  cases hvector : j.isVector 3 with
  | true =>
    rw [hvector] at hfits
    obtain ⟨heap', hexec, hputs⟩ := run_putSaved program (b := b) (y := y) hrecord hx
    refine ⟨heap', y, run_body_singleton (run_cases ▸ run_branches_of_met hfits hexec), hputs, ?_⟩
    obtain ⟨n₁, n₂, n₃, rfl⟩ := Json.isVector_three hvector
    cases hspells with
    | array hc hlength hitems =>
      exact .vector (hputs.changes.kept _ _ hc (.inr rfl))
        (Spells.map_eq Spells.toFloat?_eq hlength hitems)
  | false =>
    rw [hvector] at hfits
    by_cases hkind : j.kind = "number"
    · rw [hspells.kind_eq, beq_iff_eq.mpr hkind] at hnumber
      have hfill := Term.eval_fill (Term.yields_name member?_current) hcurrent hvalue
      obtain ⟨heap', hexec, hputs, hwritten⟩ := run_putValue program member?_target
        member?_key hfill (List.prefix_append ..) hrecord hx
      refine ⟨heap', _, run_body_singleton (run_cases ▸ (run_branches_of_not_met hfits).trans
        (run_branches_of_met hnumber (run_body_singleton hexec))), hputs, ?_⟩
      obtain ⟨n, rfl⟩ := Json.kind_eq_number.mp hkind
      cases hspells with
      | number hv =>
        have hnew : (heap ++ [Cell.array (List.replicate vs.length y)])[heap.length]? =
            some (.array (List.replicate vs.length y)) := by simp
        refine .vector (hwritten.kept _ _ hnew (.inr rfl)) ?_
        rw [hlength, List.map_replicate, hv]
        rfl
    · rw [hspells.kind_eq, beq_false_of_ne hkind] at hnumber
      rw [Leaf.restored_vector_of_not hvector hkind]
      refine ⟨heap, _, run_body_singleton (run_cases ▸ (run_branches_of_not_met hfits).trans
        ((run_branches_of_not_met hnumber).trans ?_)), .of_member? (.refl _ _) hrecord hx,
        .vector hcurrent hvs⟩
      rw [Task.run]
      rfl

theorem overlays_vector (v : Vec3) (angular : Bool) : Overlays (.vector v angular) := by
  intro heap avoid records a b key fields x y j hrecord hx hholds _ _ hspells
  cases hholds with
  | @vector c vs _ _ hcurrent hvs =>
    have harray : (Term.isArray (.name "current")).Counts (keyLocals a b key (.reference c) y) heap
        true := Term.counts_isArray (Term.yields_name member?_current) hcurrent
    obtain ⟨heap', z, hexec, hputs, hz⟩ :=
      run_overlayVector hrecord hx hcurrent hvs angular hspells
    refine ⟨heap', z, run_cases ▸ run_branches_of_met harray hexec, hputs, ?_⟩
    exact ContextValue.overlayOwn_value (.vector v angular) ▸ hz

theorem overlays_value (l : Leaf) : Overlays l.value := by
  cases l with
  | number n => exact overlays_number n
  | bool c => exact overlays_bool c
  | text t => exact overlays_text t
  | vector v angular => exact overlays_vector v angular

end

end Script

end SceneMarkup
