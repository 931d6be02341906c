import Mathlib.Data.List.Basic
import SceneMarkup.Proofs.Lookup

namespace SceneMarkup

inductive Leaf
  | number (x : Float)
  | bool (b : Bool)
  | text (t : String)
  | vector (v : Vec3) (angular : Bool)
  deriving DecidableEq

namespace Leaf

def value : Leaf → ContextValue
  | number x => .number x
  | bool b => .bool b
  | text t => .text t
  | vector v angular => .vector v angular

def round (p : Number.Precision) : Leaf → Leaf
  | number x => number (p.round x)
  | bool b => bool b
  | text t => text t
  | vector v angular => vector (v.map p.round) angular

def numbers : Leaf → List Float
  | number x => [x]
  | bool _ => []
  | text _ => []
  | vector v _ => v.toList

theorem round_eq_self {l : Leaf} {p : Number.Precision} (h : ∀ x ∈ l.numbers, p.round x = x) :
    l.round p = l := by
  cases l with
  | number x => rw [round, h x (by simp [numbers])]
  | vector v angular =>
    simp only [numbers, Vec3.toList, List.forall_mem_cons] at h
    rw [round, Vec3.map, h.1, h.2.1, h.2.2.1]
  | bool | text => rfl

end Leaf

namespace ContextValue

@[induction_eliminator] theorem induct {P : ContextValue → Prop} (leaf : ∀ l : Leaf, P l.value)
    (group : ∀ entries, (∀ e ∈ entries, P e.2) → P (.group entries)) : ∀ v, P v
  | .number x => leaf (.number x)
  | .bool b => leaf (.bool b)
  | .text t => leaf (.text t)
  | .vector v angular => leaf (.vector v angular)
  | .group entries => group entries fun e _ => induct leaf group e.2
decreasing_by
  have he : sizeOf e < sizeOf entries := List.sizeOf_lt_of_mem ‹e ∈ entries›
  have hv : sizeOf e.2 < sizeOf e := by cases e; simp +arith
  rw [ContextValue.group.sizeOf_spec]
  omega

mutual

def leaves : ContextValue → List (List String × Leaf)
  | number x => [([], .number x)]
  | bool b => [([], .bool b)]
  | text t => [([], .text t)]
  | vector v angular => [([], .vector v angular)]
  | group entries => entryLeaves entries

def entryLeaves : List (String × ContextValue) → List (List String × Leaf)
  | [] => []
  | (key, v) :: rest => v.leaves.map (fun l => (key :: l.1, l.2)) ++ entryLeaves rest

end

mutual

def mapLeaves (f : List String → Leaf → Leaf) : ContextValue → ContextValue
  | number x => (f [] (.number x)).value
  | bool b => (f [] (.bool b)).value
  | text t => (f [] (.text t)).value
  | vector v angular => (f [] (.vector v angular)).value
  | group entries => group (mapEntryLeaves f entries)

def mapEntryLeaves (f : List String → Leaf → Leaf) :
    List (String × ContextValue) → List (String × ContextValue)
  | [] => []
  | (key, v) :: rest => (key, v.mapLeaves fun path => f (key :: path)) :: mapEntryLeaves f rest

end

def numbers (v : ContextValue) : List Float := v.leaves.flatMap fun l => l.2.numbers

variable {f g : List String → Leaf → Leaf}

theorem entryLeaves_eq (entries : List (String × ContextValue)) :
    entryLeaves entries = entries.flatMap fun e => e.2.leaves.map fun l => (e.1 :: l.1, l.2) := by
  induction entries with
  | nil => rfl
  | cons e rest ih => simp [entryLeaves, ih]

theorem mapEntryLeaves_eq (entries : List (String × ContextValue)) : mapEntryLeaves f entries =
    entries.map fun e => (e.1, e.2.mapLeaves fun path => f (e.1 :: path)) := by
  induction entries with
  | nil => rfl
  | cons e rest ih => simp [mapEntryLeaves, ih]

@[simp] theorem leaves_value (l : Leaf) : l.value.leaves = [([], l)] := by cases l <;> rfl

@[simp] theorem leaves_group (entries : List (String × ContextValue)) : (group entries).leaves =
    entries.flatMap fun e => e.2.leaves.map fun l => (e.1 :: l.1, l.2) := by
  rw [leaves, entryLeaves_eq]

theorem numbers_subset {entries : List (String × ContextValue)} {e : String × ContextValue}
    (he : e ∈ entries) : e.2.numbers ⊆ (group entries).numbers := by
  intro x hx
  obtain ⟨l, hl, hx⟩ := List.mem_flatMap.mp hx
  refine List.mem_flatMap.mpr ⟨(e.1 :: l.1, l.2), ?_, hx⟩
  rw [leaves_group]
  exact List.mem_flatMap.mpr ⟨e, he, List.mem_map_of_mem hl⟩

@[simp] theorem mapLeaves_value (l : Leaf) : l.value.mapLeaves f = (f [] l).value := by
  cases l <;> rfl

@[simp] theorem mapLeaves_group (entries : List (String × ContextValue)) :
    (group entries).mapLeaves f =
      group (entries.map fun e => (e.1, e.2.mapLeaves fun path => f (e.1 :: path))) := by
  rw [mapLeaves, mapEntryLeaves_eq]

@[simp] theorem leaves_mapLeaves (v : ContextValue) :
    (v.mapLeaves f).leaves = v.leaves.map fun l => (l.1, f l.1 l.2) := by
  induction v generalizing f with
  | leaf l => simp
  | group entries ih =>
    rw [mapLeaves_group, leaves_group, leaves_group, List.flatMap_map, List.map_flatMap]
    refine List.flatMap_congr fun e he => ?_
    simp [ih e he]

theorem mapLeaves_congr {v : ContextValue} (h : ∀ l ∈ v.leaves, f l.1 l.2 = g l.1 l.2) :
    v.mapLeaves f = v.mapLeaves g := by
  induction v generalizing f g with
  | leaf l => rw [mapLeaves_value, mapLeaves_value, h ([], l) (by simp)]
  | group entries ih =>
    rw [mapLeaves_group, mapLeaves_group]
    congr 1
    refine List.map_congr_left fun e he => ?_
    have hbelow : ∀ l ∈ e.2.leaves, f (e.1 :: l.1) l.2 = g (e.1 :: l.1) l.2 := fun l hl => by
      refine h (e.1 :: l.1, l.2) ?_
      rw [leaves_group, List.mem_flatMap]
      exact ⟨e, he, List.mem_map_of_mem hl⟩
    exact congrArg (e.1, ·) (ih e he hbelow)

theorem mapLeaves_mapLeaves (v : ContextValue) :
    (v.mapLeaves f).mapLeaves g = v.mapLeaves fun path l => g path (f path l) := by
  induction v generalizing f g with
  | leaf l => simp
  | group entries ih =>
    simp only [mapLeaves_group, List.map_map]
    congr 1
    refine List.map_congr_left fun e he => ?_
    simp [ih e he]

theorem get?_mapLeaves (v : ContextValue) (key : String) : (v.mapLeaves f).get? key =
    (v.get? key).map (·.mapLeaves fun path => f (key :: path)) := by
  cases v using induct with
  | leaf l => rw [mapLeaves_value]; cases f [] l <;> cases l <;> rfl
  | group entries =>
    rw [mapLeaves_group]
    exact Json.member?_map_key fun key (below : ContextValue) =>
      below.mapLeaves fun path => f (key :: path)

theorem path?_mapLeaves (v : ContextValue) (path : List String) : (v.mapLeaves f).path? path =
    (v.path? path).map (·.mapLeaves fun rest => f (path ++ rest)) := by
  induction path generalizing v f with
  | nil => rfl
  | cons key path ih =>
    rw [path?, path?, get?_mapLeaves]
    cases v.get? key with
    | none => rfl
    | some below => exact ih below

theorem mapLeaves_id (v : ContextValue) : (v.mapLeaves fun _ l => l) = v := by
  induction v with
  | leaf l => simp
  | group entries ih =>
    rw [mapLeaves_group]
    congr 1
    refine (List.map_congr_left fun e he => ?_).trans (List.map_id _)
    rw [ih e he]
    rfl

theorem mapLeaves_eq_self {v : ContextValue} (h : ∀ l ∈ v.leaves, f l.1 l.2 = l.2) :
    v.mapLeaves f = v :=
  (mapLeaves_congr h).trans v.mapLeaves_id

theorem round_eq_mapLeaves (p : Number.Precision) (v : ContextValue) :
    v.round p = v.mapLeaves fun _ l => l.round p := by
  induction v with
  | leaf l => cases l <;> rfl
  | group entries ih =>
    rw [round, roundEntries_eq, mapLeaves_group]
    congr 1
    refine List.map_congr_left fun e he => ?_
    rw [ih e he]

end ContextValue

end SceneMarkup
