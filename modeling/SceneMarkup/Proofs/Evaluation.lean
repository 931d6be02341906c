import SceneMarkup.Proofs.Lookup
import SceneMarkup.Source.Evaluation

namespace SceneMarkup.Script

attribute [simp] Term.eval Task.run

variable {program : List Function} {locals locals' : Locals} {heap heap' : Heap}

namespace Action

theorem bind_eq {m : Action α} {f : α → Action β} {a : α} (h : m heap = some (a, heap')) :
    (m >>= f) heap = f a heap' := by
  change (m heap).bind _ = _
  rw [h]
  rfl

theorem liftM_eq {o : Option α} {a : α} (h : o = some a) :
    (liftM o : Action α) heap = some (a, heap) := by
  subst h
  rfl

theorem cell_eq {a : Address} {c : Cell} (h : heap[a]? = some c) :
    cell a heap = some (c, heap) := by
  rw [cell, h]
  rfl

theorem items_eq {a : Address} {vs : List Value} (h : heap[a]? = some (.array vs)) :
    items (.reference a) heap = some (vs, heap) := by
  rw [items, bind_eq (cell_eq h)]
  rfl

theorem keys_eq {a : Address} {c : Cell} (h : heap[a]? = some c) : keys (.reference a) heap =
    some (.reference heap.length, heap ++ [.array (c.keys.map .string)]) := by
  rw [keys, bind_eq (cell_eq h)]
  rfl

theorem put_eq {a : Address} {c c' : Cell} {key : String} {value : Value} (h : heap[a]? = some c)
    (hput : c.put? key value = some c') :
    put (.reference a) (.string key) value heap = some ((), heap.set a c') := by
  rw [put, bind_eq (cell_eq h), bind_eq (liftM_eq hput)]
  rfl

theorem all_eq {condition : Value → Action Value} {p : Value → Bool} {vs : List Value}
    (h : ∀ v ∈ vs, ∃ w, condition v heap = some (w, heap) ∧ w.isTruthy = p v) :
    all condition vs heap = some (vs.all p, heap) := by
  induction vs with
  | nil => rfl
  | cons v rest ih =>
    rw [List.forall_mem_cons] at h
    obtain ⟨⟨w, hw, hp⟩, hrest⟩ := h
    rw [all, bind_eq hw, hp, List.all_cons]
    cases p v with
    | true => exact ih hrest
    | false => rfl

theorem mapM_eq_replicate {m : Action α} {a : α} (h : m heap = some (a, heap)) (items : List β) :
    (items.mapM fun _ => m) heap = some (List.replicate items.length a, heap) := by
  induction items with
  | nil => rfl
  | cons item rest ih =>
    rw [List.mapM_cons, bind_eq h, bind_eq ih]
    rfl

end Action

namespace Term

def Yields (locals : Locals) (heap : Heap) (t : Term) (v : Value) : Prop :=
  t.eval locals heap = some (v, heap)

def Counts (locals : Locals) (heap : Heap) (t : Term) (b : Bool) : Prop :=
  ∃ v, t.Yields locals heap v ∧ v.isTruthy = b

variable {t left right : Term} {v w : Value} {b : Bool} {a : Address} {c : Cell}

theorem yields_name {x : String} (h : Json.member? x locals = some v) :
    (name x).Yields locals heap v := by
  rw [Yields, eval]
  exact Action.liftM_eq h

theorem yields_null : null.Yields locals heap .null := rfl

theorem yields_string (s : String) : (string s).Yields locals heap (.string s) := rfl

theorem yields_kind (h : t.Yields locals heap v) :
    (kind t).Yields locals heap (.string v.kind) := by
  rw [Yields, eval, Action.bind_eq h]
  rfl

theorem yields_item {object key : Term} {k : String} (ho : object.Yields locals heap (.reference a))
    (hk : key.Yields locals heap (.string k)) (hc : heap[a]? = some c) :
    (item object key).Yields locals heap ((c.property? k).getD .undefined) := by
  rw [Yields, eval, Action.bind_eq ho, Action.bind_eq hk, Action.property,
    Action.bind_eq (Action.cell_eq hc)]
  rfl

theorem yields_length (h : t.Yields locals heap (.reference a)) (hc : heap[a]? = some c) :
    (length t).Yields locals heap ((c.property? "length").getD .undefined) := by
  rw [Yields, eval, Action.bind_eq h, Action.property, Action.bind_eq (Action.cell_eq hc)]
  rfl

theorem counts_not (h : t.Counts locals heap b) : (not t).Counts locals heap !b := by
  obtain ⟨v, hv, rfl⟩ := h
  refine ⟨.bool !v.isTruthy, ?_, rfl⟩
  rw [Yields, eval, Action.bind_eq hv]
  rfl

theorem counts_and {b' : Bool} (hl : left.Counts locals heap b)
    (hr : b = true → right.Counts locals heap b') :
    (binary .and left right).Counts locals heap (b && b') := by
  obtain ⟨v, hv, rfl⟩ := hl
  cases hb : v.isTruthy with
  | true =>
    obtain ⟨w, hw, rfl⟩ := hr hb
    refine ⟨w, ?_, rfl⟩
    rw [Yields, eval, Action.bind_eq hv, if_pos hb]
    exact hw
  | false =>
    refine ⟨v, ?_, hb⟩
    rw [Yields, eval, Action.bind_eq hv, if_neg (by simp [hb])]
    rfl

theorem counts_or {b' : Bool} (hl : left.Counts locals heap b)
    (hr : b = false → right.Counts locals heap b') :
    (binary .or left right).Counts locals heap (b || b') := by
  obtain ⟨v, hv, rfl⟩ := hl
  cases hb : v.isTruthy with
  | true =>
    refine ⟨v, ?_, hb⟩
    rw [Yields, eval, Action.bind_eq hv, if_pos hb]
    rfl
  | false =>
    obtain ⟨w, hw, rfl⟩ := hr hb
    refine ⟨w, ?_, rfl⟩
    rw [Yields, eval, Action.bind_eq hv, if_neg (by simp [hb])]
    exact hw

theorem counts_same (hl : left.Yields locals heap v) (hr : right.Yields locals heap w) :
    (binary .same left right).Counts locals heap (v.isSame w) := by
  refine ⟨.bool (v.isSame w), ?_, rfl⟩
  rw [Yields, eval, Action.bind_eq hl, Action.bind_eq hr]
  rfl

theorem counts_differs (hl : left.Yields locals heap v) (hr : right.Yields locals heap w) :
    (binary .differs left right).Counts locals heap !v.isSame w := by
  refine ⟨.bool !v.isSame w, ?_, rfl⟩
  rw [Yields, eval, Action.bind_eq hl, Action.bind_eq hr]
  rfl

theorem counts_isKeyOf {k : String} (hl : left.Yields locals heap (.string k))
    (hr : right.Yields locals heap (.reference a)) (hc : heap[a]? = some c) :
    (binary .isKeyOf left right).Counts locals heap (c.property? k).isSome := by
  refine ⟨.bool (c.property? k).isSome, ?_, rfl⟩
  rw [Yields, eval, Action.bind_eq hl, Action.bind_eq hr, Action.isKeyOf,
    Action.bind_eq (Action.cell_eq hc)]
  rfl

theorem counts_isArray (h : t.Yields locals heap (.reference a)) (hc : heap[a]? = some c) :
    (isArray t).Counts locals heap c.isArray := by
  have harray : Action.isArray (.reference a) heap = some (c.isArray, heap) := by
    rw [Action.isArray, Action.bind_eq (Action.cell_eq hc)]
    rfl
  refine ⟨.bool c.isArray, ?_, rfl⟩
  rw [Yields, eval, Action.bind_eq h, Action.bind_eq harray]
  rfl

theorem counts_isArray_of_ne (h : t.Yields locals heap v) (hv : ∀ a, v ≠ .reference a) :
    (isArray t).Counts locals heap false := by
  refine ⟨.bool false, ?_, rfl⟩
  rw [Yields, eval, Action.bind_eq h]
  cases v with
  | reference a => exact absurd rfl (hv a)
  | _ => rfl

theorem counts_every {items condition : Term} {x : String} {vs : List Value} {p : Value → Bool}
    (h : items.Yields locals heap (.reference a)) (hvs : heap[a]? = some (.array vs))
    (hp : ∀ v ∈ vs, condition.Counts ((x, v) :: locals) heap (p v)) :
    (every items x condition).Counts locals heap (vs.all p) := by
  refine ⟨.bool (vs.all p), ?_, rfl⟩
  rw [Yields, eval, Action.bind_eq h, Action.bind_eq (Action.items_eq hvs),
    Action.bind_eq (Action.all_eq hp)]
  rfl

theorem eval_keys (h : t.Yields locals heap (.reference a)) (hc : heap[a]? = some c) :
    (keys t).eval locals heap =
      some (.reference heap.length, heap ++ [.array (c.keys.map .string)]) := by
  rw [eval, Action.bind_eq h]
  exact Action.keys_eq hc

theorem eval_fill {items value : Term} {vs : List Value}
    (h : items.Yields locals heap (.reference a)) (hvs : heap[a]? = some (.array vs))
    (hv : value.Yields locals heap v) : (fill items value).eval locals heap =
      some (.reference heap.length, heap ++ [.array (List.replicate vs.length v)]) := by
  rw [eval, Action.bind_eq h, Action.bind_eq (Action.items_eq hvs),
    Action.bind_eq (Action.mapM_eq_replicate hv vs)]
  rfl

end Term

section

variable {s : Statement} {rest : List Statement} {condition : Term} {b : Bool} {v : Value}

theorem run_returnIf (h : condition.Counts locals heap b) :
    Task.run program locals (.statement (.returnIf condition)) heap =
      some (if b then .leave else .next locals, heap) := by
  obtain ⟨v, hv, rfl⟩ := h
  rw [Task.run, Action.bind_eq hv]
  cases v.isTruthy <;> rfl

theorem run_continueIf (h : condition.Counts locals heap b) :
    Task.run program locals (.statement (.continueIf condition)) heap =
      some (if b then .skip else .next locals, heap) := by
  obtain ⟨v, hv, rfl⟩ := h
  rw [Task.run, Action.bind_eq hv]
  cases v.isTruthy <;> rfl

theorem run_bind {x : String} {value : Term} (h : value.eval locals heap = some (v, heap')) :
    Task.run program locals (.statement (.bind x value)) heap =
      some (.next ((x, v) :: locals), heap') := by
  rw [Task.run, Action.bind_eq h]
  rfl

theorem run_put {object key value : Term} {a : Address} {k : String} {c c' : Cell}
    (ho : object.Yields locals heap (.reference a)) (hk : key.Yields locals heap (.string k))
    (hv : value.eval locals heap = some (v, heap')) (hc : heap'[a]? = some c)
    (hput : c.put? k v = some c') :
    Task.run program locals (.statement (.put object key value)) heap =
      some (.next locals, heap'.set a c') := by
  rw [Task.run, Action.bind_eq ho, Action.bind_eq hk, Action.bind_eq hv,
    Action.bind_eq (Action.put_eq hc hput)]
  rfl

theorem run_call_statement {function : String} {first second : Term} {v w : Value}
    (hv : first.Yields locals heap v) (hw : second.Yields locals heap w)
    (h : Task.run program locals (.call function [v, w]) heap = some (.next locals, heap')) :
    Task.run program locals (.statement (.call function [first, second])) heap =
      some (.next locals, heap') := by
  have harguments : ([first, second].mapM fun t : Term => t.eval locals) heap =
      some ([v, w], heap) := by
    rw [List.mapM_cons, Action.bind_eq hv, Action.bind_eq]
    · rfl
    · rw [List.mapM_cons, Action.bind_eq hw]
      rfl
  rw [Task.run, Action.bind_eq harguments, h]

theorem run_each {x : String} {items : Term} {body : List Statement} {a : Address}
    {vs : List Value} (h : items.eval locals heap = some (.reference a, heap'))
    (hvs : heap'[a]? = some (.array vs)) :
    Task.run program locals (.statement (.each x items body)) heap =
      Task.run program locals (.loop x body vs) heap' := by
  rw [Task.run, Action.bind_eq h, Action.bind_eq (Action.items_eq hvs)]

theorem run_cases {branches : List (Term × List Statement)} :
    Task.run program locals (.statement (.cases branches)) =
      Task.run program locals (.branches branches) := by
  rw [Task.run]

theorem run_body_of_next
    (h : Task.run program locals (.statement s) heap = some (.next locals', heap')) :
    Task.run program locals (.body (s :: rest)) heap =
      Task.run program locals' (.body rest) heap' := by
  rw [Task.run, Action.bind_eq h]

theorem run_body_of_skip (h : Task.run program locals (.statement s) heap = some (.skip, heap')) :
    Task.run program locals (.body (s :: rest)) heap = some (.skip, heap') := by
  rw [Task.run, Action.bind_eq h]
  rfl

theorem run_body_of_leave (h : Task.run program locals (.statement s) heap = some (.leave, heap')) :
    Task.run program locals (.body (s :: rest)) heap = some (.leave, heap') := by
  rw [Task.run, Action.bind_eq h]
  rfl

theorem run_body_singleton
    (h : Task.run program locals (.statement s) heap = some (.next locals', heap')) :
    Task.run program locals (.body [s]) heap = some (.next locals', heap') := by
  rw [run_body_of_next h, Task.run]
  rfl

theorem run_loop_cons {x : String} {body : List Statement} {outcome : Outcome} {vs : List Value}
    (h : Task.run program ((x, v) :: locals) (.body body) heap = some (outcome, heap'))
    (hgoes : outcome ≠ .leave) : Task.run program locals (.loop x body (v :: vs)) heap =
      Task.run program locals (.loop x body vs) heap' := by
  rw [Task.run, Action.bind_eq h]
  cases outcome with
  | leave => exact absurd rfl hgoes
  | _ => rfl

theorem run_branches_of_met {body : List Statement} {branches : List (Term × List Statement)}
    (h : condition.Counts locals heap true)
    (hbody : Task.run program locals (.body body) heap = some (.next locals', heap')) :
    Task.run program locals (.branches ((condition, body) :: branches)) heap =
      some (.next locals, heap') := by
  obtain ⟨v, hv, htrue⟩ := h
  rw [Task.run, Action.bind_eq hv, if_pos htrue, Action.bind_eq hbody]
  rfl

theorem run_branches_of_not_met {body : List Statement} {branches : List (Term × List Statement)}
    (h : condition.Counts locals heap false) :
    Task.run program locals (.branches ((condition, body) :: branches)) heap =
      Task.run program locals (.branches branches) heap := by
  obtain ⟨v, hv, hfalse⟩ := h
  rw [Task.run, Action.bind_eq hv, if_neg (by simp [hfalse])]

theorem run_call {f : Function} {function : String} {arguments : List Value} {outcome : Outcome}
    (hf : program.find? (·.name == function) = some f)
    (h : Task.run program (f.parameters.zip arguments) (.body f.body) heap =
      some (outcome, heap')) :
    Task.run program locals (.call function arguments) heap = some (.next locals, heap') := by
  rw [Task.run, Action.bind_eq (Action.liftM_eq hf), Action.bind_eq h]
  rfl

theorem call_eq {function : String} {arguments : List Value} {outcome : Outcome}
    (h : Task.run program [] (.call function arguments) heap = some (outcome, heap')) :
    call program function arguments heap = some ((), heap') := by
  rw [call, Action.bind_eq h]
  rfl

end

end SceneMarkup.Script
