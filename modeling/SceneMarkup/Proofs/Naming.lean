import Mathlib.Data.Finset.Card
import Mathlib.Data.List.Forall2
import Mathlib.Data.List.Nodup
import Mathlib.Data.List.Perm.Subperm
import Mathlib.Data.Nat.Find
import Mathlib.Order.Bounds.Basic
import SceneMarkup.Naming

namespace SceneMarkup.Naming

variable {base : String} {taken : List String}

@[simp] theorem toList_suffixed (base : String) (k : Nat) :
    (suffixed base k).toList = base.toList ++ Nat.toDigits 10 k := by
  simp [suffixed]

theorem isDigit_toDigits (k : Nat) : ∀ c ∈ Nat.toDigits 10 k, c.isDigit = true := fun _ hc =>
  Nat.isDigit_of_mem_toDigits (by decide) (by decide) hc

theorem head?_toDigits {k : Nat} (h : 0 < k) : (Nat.toDigits 10 k).head? ≠ some '0' := by
  induction k using Nat.strongRecOn with
  | ind k ih =>
    rw [Nat.toDigits_eq_if (by decide)]
    split
    case isTrue hk =>
      have hdigit : ∀ k < 10, 0 < k → Nat.digitChar k ≠ '0' := by decide
      simpa using hdigit k hk h
    case isFalse hk =>
      rw [List.head?_append_of_ne_nil _ Nat.toDigits_ne_nil]
      exact ih (k / 10) (by omega) (by omega)

theorem toString_injective : Function.Injective fun n : Nat => toString n := by
  intro i j h
  have hd : Nat.toDigits 10 i = Nat.toDigits 10 j := by
    simpa using congrArg String.toList h
  rw [← Nat.ofDigitChars_ten_toDigits (n := i), hd, Nat.ofDigitChars_ten_toDigits]

theorem suffixed_injective (base : String) : Function.Injective (suffixed base) := by
  intro i j h
  exact toString_injective (String.ext (by simpa using congrArg String.toList h))

theorem suffixed_ne (base : String) (k : Nat) : suffixed base k ≠ base := by
  intro h
  have hd : Nat.toDigits 10 k = [] := by
    simpa using congrArg String.toList h
  exact Nat.toDigits_ne_nil hd

theorem exists_free (h : base ∈ taken) :
    ∃ k ∈ List.range' 1 taken.length, suffixed base k ∉ taken := by
  by_contra hall
  have hnodup : (base :: (List.range' 1 taken.length).map (suffixed base)).Nodup := by
    rw [List.nodup_cons, List.mem_map]
    constructor
    · rintro ⟨k, -, hk⟩
      exact suffixed_ne base k hk
    · exact List.Nodup.map (suffixed_injective base) List.nodup_range'
  have hsub : base :: (List.range' 1 taken.length).map (suffixed base) ⊆ taken := by
    rw [List.cons_subset]
    refine ⟨h, fun name hn => ?_⟩
    obtain ⟨k, hk, rfl⟩ := List.mem_map.mp hn
    by_contra hfree
    exact hall ⟨k, hk, hfree⟩
  have hlen := (hnodup.subperm hsub).length_le
  rw [List.length_cons, List.length_map, List.length_range'] at hlen
  omega

def FreeSuffix (base : String) (taken : List String) (k : Nat) : Prop :=
  0 < k ∧ suffixed base k ∉ taken

theorem exists_isLeast_free (h : base ∈ taken) :
    ∃ k ≤ taken.toFinset.card, IsLeast {k | FreeSuffix base taken k} k := by
  obtain ⟨k, hk, hfree⟩ := exists_free (List.mem_dedup.mpr h)
  rw [List.mem_range'_1] at hk
  rw [List.mem_dedup] at hfree
  have hex : ∃ k, FreeSuffix base taken k := ⟨k, hk.1, hfree⟩
  classical
  have hle : Nat.find hex ≤ k := Nat.find_min' hex ⟨hk.1, hfree⟩
  refine ⟨Nat.find hex, ?_, Nat.find_spec hex, fun j hj => Nat.find_min' hex hj⟩
  rw [List.card_toFinset]
  omega

theorem unique_eq_of_isLeast {k : Nat} (h : base ∈ taken) (hle : k ≤ taken.length)
    (hk : IsLeast {k | FreeSuffix base taken k} k) : unique base taken = suffixed base k := by
  have hfind : ((List.range' 1 taken.length).find?
      fun k => !taken.contains (suffixed base k)) = some k := by
    rw [List.find?_range'_eq_some]
    refine ⟨by simpa using hk.1.2, List.mem_range'_1.mpr ⟨hk.1.1, by omega⟩, fun j hj hlt => ?_⟩
    by_contra hfree
    have hge : k ≤ j := hk.2 ⟨hj, by simpa using hfree⟩
    omega
  simp only [unique, List.contains_iff_mem.mpr h, hfind, Option.getD_some, if_true]

theorem unique_of_mem (h : base ∈ taken) :
    ∃ k, 0 < k ∧ unique base taken = suffixed base k ∧ suffixed base k ∉ taken := by
  obtain ⟨k, hle, hk⟩ := exists_isLeast_free h
  have hlength := hle.trans (List.toFinset_card_le taken)
  exact ⟨k, hk.1.1, unique_eq_of_isLeast h hlength hk, hk.1.2⟩

theorem unique_not_mem (base : String) (taken : List String) : unique base taken ∉ taken := by
  by_cases h : base ∈ taken
  · obtain ⟨k, -, he, hk⟩ := unique_of_mem h
    exact he ▸ hk
  · simp [unique, h]

/-- What a base is made into: the base itself, or the base with a number behind it. -/
inductive Numbered (base : String) : String → Prop
  | plain : Numbered base base
  | suffixed {k : Nat} : 0 < k → Numbered base (suffixed base k)

theorem numbered_unique (base : String) (taken : List String) :
    Numbered base (unique base taken) := by
  by_cases h : base ∈ taken
  · obtain ⟨k, hk, he, -⟩ := unique_of_mem h
    rw [he]
    exact .suffixed hk
  · rw [unique, if_neg (by simpa using h)]
    exact .plain

theorem uniqueAll_not_mem (taken bases : List String) :
    ∀ name ∈ uniqueAll taken bases, name ∉ taken := by
  induction bases generalizing taken with
  | nil => simp [uniqueAll]
  | cons base rest ih =>
    rw [uniqueAll, List.forall_mem_cons]
    exact ⟨unique_not_mem base taken, fun name hn hm => ih _ name hn (List.mem_cons_of_mem _ hm)⟩

theorem nodup_uniqueAll (taken bases : List String) : (uniqueAll taken bases).Nodup := by
  induction bases generalizing taken with
  | nil => exact List.nodup_nil
  | cons base rest ih =>
    rw [uniqueAll, List.nodup_cons]
    exact ⟨fun hn => uniqueAll_not_mem _ rest _ hn List.mem_cons_self, ih _⟩

theorem length_uniqueAll (taken bases : List String) :
    (uniqueAll taken bases).length = bases.length := by
  induction bases generalizing taken with
  | nil => rfl
  | cons base rest ih => simp [uniqueAll, ih]

theorem numbered_uniqueAll (taken bases : List String) :
    List.Forall₂ Numbered bases (uniqueAll taken bases) := by
  induction bases generalizing taken with
  | nil => exact .nil
  | cons base rest ih => exact .cons (numbered_unique base taken) (ih _)

theorem exists_base_of_mem {bases : List String} {name : String}
    (h : name ∈ uniqueAll taken bases) : ∃ base ∈ bases, Numbered base name := by
  have hall := numbered_uniqueAll taken bases
  obtain ⟨i, hi, rfl⟩ := List.mem_iff_getElem.mp h
  have hi' : i < bases.length := length_uniqueAll taken bases ▸ hi
  exact ⟨bases[i], List.getElem_mem hi', hall.get hi' hi⟩

theorem unique_perm {taken' : List String} (h : taken.Perm taken') :
    unique base taken = unique base taken' := by
  have hc : ∀ name, taken.contains name = taken'.contains name := fun name => by
    rw [Bool.eq_iff_iff, List.contains_iff_mem, List.contains_iff_mem, h.mem_iff]
  simp only [unique, hc, h.length_eq]

theorem uniqueAll_concat (taken bases : List String) (base : String) :
    uniqueAll taken (bases ++ [base]) =
      uniqueAll taken bases ++ [unique base (uniqueAll taken bases ++ taken)] := by
  induction bases generalizing taken with
  | nil => rfl
  | cons b rest ih =>
    rw [List.cons_append, uniqueAll, uniqueAll, ih, List.cons_append,
      unique_perm List.perm_middle, List.cons_append]

structure Probe where
  base : String
  suffix : Nat
  looks : Nat

structure Finding where
  name : String
  looks : Nat

namespace Probe

def next (p : Probe) : Probe := { p with suffix := p.suffix + 1, looks := p.looks + 1 }

/-- Tries the suffixes from here on up. There is no result if all of them are taken. -/
def run (isTaken : String → Bool) (p : Probe) : Option Finding :=
  let candidate := suffixed p.base p.suffix
  if isTaken candidate then p.next |>.run isTaken else some ⟨candidate, p.looks + 1⟩
partial_fixpoint

end Probe

def probe? (isTaken : String → Bool) (base : String) : Option Finding :=
  if isTaken base then (Probe.mk base 1 1).run isTaken else some ⟨base, 1⟩

theorem Probe.run_eq {isTaken : String → Bool} {n : Nat} (p : Probe)
    (htaken : ∀ i < n, isTaken (suffixed p.base (p.suffix + i)) = true)
    (hfree : isTaken (suffixed p.base (p.suffix + n)) = false) :
    p.run isTaken = some ⟨suffixed p.base (p.suffix + n), p.looks + n + 1⟩ := by
  induction n generalizing p with
  | zero =>
    have hfirst : isTaken (suffixed p.base p.suffix) = false := hfree
    rw [run]
    simp [hfirst]
  | succ n ih =>
    have hfirst : isTaken (suffixed p.base p.suffix) = true := htaken 0 n.succ_pos
    have hshift (i : Nat) : p.next.suffix + i = p.suffix + (i + 1) :=
      Nat.add_right_comm p.suffix 1 i
    have hrest := ih p.next (fun i hi => hshift i ▸ htaken (i + 1) (by omega)) (hshift n ▸ hfree)
    have hlooks : p.next.looks + n = p.looks + (n + 1) := Nat.add_right_comm p.looks 1 n
    rw [run, if_pos hfirst, hrest, hshift, hlooks]
    rfl

variable {base : String} {taken : List String}

theorem probe?_eq_of_isLeast {k : Nat} (h : base ∈ taken)
    (hk : IsLeast {k | FreeSuffix base taken k} k) :
    probe? taken.contains base = some ⟨suffixed base k, k + 1⟩ := by
  have hpos : 1 ≤ k := hk.1.1
  obtain ⟨n, rfl⟩ := Nat.exists_eq_add_of_le hpos
  have htaken : ∀ i < n, taken.contains (suffixed base (1 + i)) = true := by
    intro i hi
    by_contra hfree
    have hge : 1 + n ≤ 1 + i := hk.2 ⟨by omega, by simpa using hfree⟩
    omega
  have hfree : taken.contains (suffixed base (1 + n)) = false := by simpa using hk.1.2
  rw [probe?, if_pos (List.contains_iff_mem.mpr h), Probe.run_eq ⟨base, 1, 1⟩ htaken hfree]

/-- The loop ends on every list of taken names. It gives the base if that is free, and else the base
with the least free suffix, after no more candidates than one for each taken name and one more; so
no suffix that it tries goes beyond the number of the taken names. This is the name that is made
unique, and it is not taken. -/
theorem unique_probed (base : String) (taken : List String) :
    ∃ p, probe? taken.contains base = some p ∧ p.name = unique base taken ∧ p.name ∉ taken ∧
      p.looks ≤ taken.toFinset.card + 1 ∧
      (base ∉ taken ∧ p = ⟨base, 1⟩ ∨
        base ∈ taken ∧ ∃ k ≤ taken.toFinset.card, IsLeast {k | FreeSuffix base taken k} k ∧
          p = ⟨suffixed base k, k + 1⟩) := by
  by_cases h : base ∈ taken
  · obtain ⟨k, hle, hk⟩ := exists_isLeast_free h
    have hlength := List.toFinset_card_le taken
    exact ⟨_, probe?_eq_of_isLeast h hk, (unique_eq_of_isLeast h (hle.trans hlength) hk).symm,
      hk.1.2, by simpa using hle, .inr ⟨h, k, hle, hk, rfl⟩⟩
  · refine ⟨⟨base, 1⟩, ?_, ?_, h, Nat.le_add_left 1 _, .inl ⟨h, rfl⟩⟩
    · simp [probe?, h]
    · simp [unique, h]

end SceneMarkup.Naming
