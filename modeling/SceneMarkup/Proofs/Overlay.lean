import SceneMarkup.Proofs.Schema

/-!
Saved values over a context. A leaf takes what the saved value has at its path, if that is of its
kind; the schema stays, and a second overlay of the same value changes nothing.
-/

namespace SceneMarkup

namespace Json

def get? (j : Json) (key : String) : Option Json :=
  match j with
  | object members => member? key members
  | _ => none

def path? (j : Json) : List String → Option Json
  | [] => some j
  | key :: rest => (j.get? key).bind fun below => below.path? rest

end Json

namespace Leaf

/-- What becomes of a leaf where a value is saved, or where none is. A vector is saved as just three
numbers, or as one for all three. -/
def restored : Leaf → Option Json → Leaf
  | number _, some (.number n) => number n.toFloat
  | bool _, some (.bool b) => bool b
  | text _, some (.string t) => text t
  | vector _ angular, some (.array [.number x, .number y, .number z]) =>
    vector ⟨x.toFloat, y.toFloat, z.toFloat⟩ angular
  | vector _ angular, some (.number n) => vector (.splat n.toFloat) angular
  | leaf, _ => leaf

variable (saved : Option Json)

@[simp] theorem restored_none (l : Leaf) : l.restored none = l := by cases l <;> rfl

theorem kind_restored (l : Leaf) : (l.restored saved).kind = l.kind := by
  cases l <;> (rw [restored.eq_def]; split <;> simp_all [kind])

theorem restored_restored (l : Leaf) : (l.restored saved).restored saved = l.restored saved := by
  fun_cases restored l saved <;> simp_all [restored]

end Leaf

namespace ContextValue

variable (saved : Json)

theorem overlayEntries_eq (members : List (String × Json))
    (entries : List (String × ContextValue)) : overlayEntries members entries =
      entries.map fun e => (e.1, match Json.member? e.1 members with
        | some saved => e.2.overlay saved
        | none => e.2) := by
  induction entries with
  | nil => rfl
  | cons e rest ih =>
    obtain ⟨key, v⟩ := e
    rw [overlayEntries, List.map_cons, ih]
    cases Json.member? key members <;> rfl

theorem savedVector?_long (a b c d : Json) (rest : List Json) :
    savedVector? (.array (a :: b :: c :: d :: rest)) = none := by
  simp only [savedVector?, List.mapM_cons]
  cases a.number? <;> cases b.number? <;> cases c.number? <;> cases d.number? <;>
    cases rest.mapM Json.number? <;> rfl

theorem restored_vector (v : Vec3) (angular : Bool) :
    (Leaf.vector v angular).restored (some saved) =
      .vector ((savedVector? saved).getD v) angular := by
  match saved with
  | .array [] => rfl
  | .array [a] => cases a <;> rfl
  | .array [a, b] => cases a <;> cases b <;> rfl
  | .array [a, b, c] => cases a <;> cases b <;> cases c <;> rfl
  | .array (a :: b :: c :: d :: rest) => simp [savedVector?_long, Leaf.restored]
  | .null | .bool _ | .number _ | .string _ | .object _ => rfl

theorem overlay_value (l : Leaf) : l.value.overlay saved = (l.restored (some saved)).value := by
  cases l with
  | vector v angular =>
    rw [restored_vector]
    rfl
  | _ => cases saved <;> rfl

theorem overlay_eq_mapLeaves (v : ContextValue) :
    v.overlay saved = v.mapLeaves fun path l => l.restored (saved.path? path) := by
  induction v generalizing saved with
  | leaf l => rw [overlay_value, mapLeaves_value, Json.path?]
  | group entries ih =>
    rw [mapLeaves_group]
    cases saved with
    | object members =>
      rw [overlay, overlayEntries_eq]
      congr 1
      refine List.map_congr_left fun e he => congrArg (e.1, ·) ?_
      simp only [Json.path?, Json.get?]
      cases Json.member? e.1 members with
      | some below => exact ih e he below
      | none => simp [mapLeaves_id]
    | _ => simp [overlay, Json.path?, Json.get?, mapLeaves_id]

theorem schema_overlay (v : ContextValue) : (v.overlay saved).schema = v.schema := by
  rw [overlay_eq_mapLeaves]
  exact schema_mapLeaves (fun _ => Leaf.kind_restored _) v

theorem overlay_overlay (v : ContextValue) : (v.overlay saved).overlay saved = v.overlay saved := by
  simp only [overlay_eq_mapLeaves, mapLeaves_mapLeaves, Leaf.restored_restored]

theorem overlay_congr {v : ContextValue} {saved saved' : Json}
    (h : ∀ l ∈ v.leaves, saved'.path? l.1 = saved.path? l.1) :
    v.overlay saved' = v.overlay saved := by
  rw [overlay_eq_mapLeaves, overlay_eq_mapLeaves]
  exact mapLeaves_congr fun l hl => by rw [h l hl]

/-- A saved value of any form keeps the schema and the type of a context. It gives every leaf what
it has at the leaf's path, if that is of the leaf's kind, and what it has elsewhere, or that it is
overlaid once more, is of no account. -/
theorem overlay_leafwise (v : ContextValue) :
    (v.overlay saved).schema = v.schema ∧ Shape.of (v.overlay saved) = Shape.of v ∧
      (v.overlay saved).leaves =
        v.leaves.map (fun (path, leaf) => (path, leaf.restored (saved.path? path))) ∧
      (v.overlay saved).overlay saved = v.overlay saved ∧
      ∀ saved' : Json, (∀ path ∈ v.leaves.map Prod.fst, saved'.path? path = saved.path? path) →
        v.overlay saved' = v.overlay saved := by
  refine ⟨schema_overlay saved v, ?_, ?_, overlay_overlay saved v, fun saved' h => ?_⟩
  · rw [← shape_schema, schema_overlay, shape_schema]
  · rw [overlay_eq_mapLeaves, leaves_mapLeaves]
  · exact overlay_congr fun l hl => h l.1 (List.mem_map_of_mem hl)

theorem overlay_leafwise_stale :
    let v := group [("speed", number 2), ("sky", group [("top", text "#000000")])]
    let sky := ("sky", Json.object [("top", .natural 7)])
    (v.overlay (.object [("old", .null), ("speed", .natural 3), sky])).leaves =
        [(["speed"], .number (Float.ofInt 3)), (["sky", "top"], .text "#000000")] ∧
      v.overlay (.object [("speed", .natural 3), sky]) =
        v.overlay (.object [("old", .null), ("speed", .natural 3), sky]) := by
  intro v sky
  obtain ⟨-, -, hleaves, -, hold⟩ :=
    overlay_leafwise (.object [("old", .null), ("speed", .natural 3), sky]) v
  refine ⟨hleaves, hold _ fun path hp => ?_⟩
  have hp : path ∈ [["speed"], ["sky", "top"]] := hp
  rcases List.mem_pair.mp hp with rfl | rfl <;> rfl

end ContextValue

end SceneMarkup
