import SceneMarkup.Survey.Basic

namespace SceneMarkup

variable [DecidableEq κ] {key : α → κ}

theorem distinctFrom_sublist (seen : List κ) (as : List α) :
    (distinctFrom key seen as).Sublist as := by
  induction as generalizing seen with
  | nil => exact .slnil
  | cons a rest ih =>
    rw [distinctFrom]
    split
    · exact (ih seen).cons a
    · exact (ih _).cons_cons a

theorem distinctBy_sublist (as : List α) : (distinctBy key as).Sublist as :=
  distinctFrom_sublist [] as

theorem mem_distinctFrom_id {as seen : List κ} {a : κ} :
    a ∈ distinctFrom id seen as ↔ a ∈ as ∧ a ∉ seen := by
  induction as generalizing seen with
  | nil => simp [distinctFrom]
  | cons b rest ih =>
    rw [distinctFrom, id]
    split
    case isTrue hb =>
      rw [ih, List.mem_cons]
      exact ⟨fun ⟨ha, hs⟩ => ⟨.inr ha, hs⟩,
        fun ⟨ha, hs⟩ => ⟨ha.resolve_left fun he => hs (he ▸ hb), hs⟩⟩
    case isFalse hb =>
      rw [List.mem_cons, ih, List.mem_cons, List.mem_cons]
      by_cases he : a = b <;> simp [he, hb]

theorem nodup_distinctFrom_id (seen as : List κ) : (distinctFrom id seen as).Nodup := by
  induction as generalizing seen with
  | nil => exact List.nodup_nil
  | cons a rest ih =>
    rw [distinctFrom]
    split
    · exact ih seen
    · refine List.nodup_cons.mpr ⟨fun hm => ?_, ih _⟩
      exact (mem_distinctFrom_id.mp hm).2 List.mem_cons_self

theorem map_distinctFrom (seen : List κ) (as : List α) :
    (distinctFrom key seen as).map key = distinctFrom id seen (as.map key) := by
  induction as generalizing seen with
  | nil => rfl
  | cons a rest ih =>
    rw [List.map_cons, distinctFrom, distinctFrom, id]
    split
    · exact ih seen
    · rw [List.map_cons, ih]

theorem nodup_map_distinctBy (as : List α) : ((distinctBy key as).map key).Nodup := by
  rw [distinctBy, map_distinctFrom]
  exact nodup_distinctFrom_id _ _

theorem mem_map_distinctBy {as : List α} {k : κ} :
    k ∈ (distinctBy key as).map key ↔ k ∈ as.map key := by
  simp only [distinctBy, map_distinctFrom, mem_distinctFrom_id, List.not_mem_nil, not_false_eq_true,
    and_true]

theorem mem_distinctBy {as : List α} {a : α} (h : ∀ b ∈ as, key b = key a → b = a) :
    a ∈ distinctBy key as ↔ a ∈ as := by
  constructor
  · intro ha
    exact (distinctBy_sublist as).subset ha
  · intro ha
    have hkept : key a ∈ (distinctBy key as).map key :=
      mem_map_distinctBy.mpr (List.mem_map_of_mem ha)
    obtain ⟨b, hb, hkey⟩ := List.mem_map.mp hkept
    exact h b ((distinctBy_sublist as).subset hb) hkey ▸ hb

theorem find?_distinctFrom {p : κ → Bool} {seen : List κ} (h : ∀ k ∈ seen, ¬ p k) (as : List α) :
    (distinctFrom key seen as).find? (fun a => p (key a)) = as.find? fun a => p (key a) := by
  induction as generalizing seen with
  | nil => rfl
  | cons a rest ih =>
    rw [distinctFrom, List.find?_cons]
    split
    case isTrue ha =>
      rw [Bool.eq_false_iff.mpr (h (key a) ha)]
      exact ih h
    case isFalse =>
      rw [List.find?_cons]
      cases hp : p (key a) with
      | true => rfl
      | false => exact ih (List.forall_mem_cons.mpr ⟨by simp [hp], h⟩)

theorem find?_distinctBy (p : κ → Bool) (as : List α) :
    (distinctBy key as).find? (fun a => p (key a)) = as.find? fun a => p (key a) :=
  find?_distinctFrom (by simp) as

theorem mem_sortedDistinct {names : List String} {name : String} :
    name ∈ sortedDistinct names ↔ name ∈ names := by
  simp [sortedDistinct, distinct, distinctBy, mem_distinctFrom_id]

theorem nodup_sortedDistinct (names : List String) : (sortedDistinct names).Nodup :=
  (List.mergeSort_perm _ _).nodup_iff.mpr (nodup_distinctFrom_id _ _)

theorem filterMap_distinctFrom {f : α → Option β} {seen : List κ} {as : List α}
    (hseen : ∀ a ∈ as, (f a).isSome → key a ∉ seen)
    (hkey : as.Pairwise fun a b => (f b).isSome → key a ≠ key b) :
    (distinctFrom key seen as).filterMap f = as.filterMap f := by
  induction as generalizing seen with
  | nil => rfl
  | cons a rest ih =>
    rw [List.forall_mem_cons] at hseen
    rw [List.pairwise_cons] at hkey
    rw [distinctFrom]
    split
    case isTrue ha =>
      have hnone : f a = none := by
        rw [← Option.not_isSome_iff_eq_none]
        exact fun hs => hseen.1 hs ha
      rw [ih hseen.2 hkey.2, List.filterMap_cons_none hnone]
    case isFalse ha =>
      have hrest : ∀ b ∈ rest, (f b).isSome → key b ∉ key a :: seen := by
        intro b hb hs hm
        rcases List.mem_cons.mp hm with he | hm
        · exact hkey.1 b hb hs he.symm
        · exact hseen.2 b hb hs hm
      simp only [List.filterMap_cons, ih hrest hkey.2]

theorem filterMap_distinctBy {f : α → Option β} {as : List α}
    (h : as.Pairwise fun a b => (f b).isSome → key a ≠ key b) :
    (distinctBy key as).filterMap f = as.filterMap f :=
  filterMap_distinctFrom (by simp) h

end SceneMarkup
