/-
Keys that are held exclusively: a map with an entry for each key that is held,
and the holders, each of one key. A key is acquired where it has no entry, and
its holder removes the entry when it goes; in between a holder may become
another one, as a guard does that is moved.
-/
import AtomaProxy.Base.Table
import Mathlib.Data.Multiset.Filter
import Mathlib.Data.Multiset.Count
import Mathlib.Data.Multiset.UnionInter

namespace Base

universe u v

variable {κ υ : Type u} {η : Type v}

/-- No key has two holders, and the entries are those of the keys that have one. -/
structure Exclusive (key : η → κ) (map : Table κ υ) (holders : Multiset η) : Prop where
  nodup : (holders.map key).Nodup
  present : ∀ k, map k ≠ .none ↔ k ∈ holders.map key

namespace Exclusive

variable {key : η → κ} {map : Table κ υ} {holders : Multiset η}

theorem empty : Exclusive key (fun _ => .none : Table κ υ) 0 where
  nodup := Multiset.nodup_zero
  present _ := iff_of_false (fun h => h rfl) (Multiset.notMem_zero _)

/-- A key without an entry gets a holder. -/
theorem acquire [DecidableEq κ] (h : Exclusive key map holders) {a : η} (hfree : map (key a) = .none) (v : υ) :
    Exclusive key (Function.update map (key a) (.some v)) (a ::ₘ holders) where
  nodup := by
    rw [Multiset.map_cons]
    exact Multiset.nodup_cons.2 ⟨fun hmem => (h.present (key a)).2 hmem hfree, h.nodup⟩
  present k := by
    rw [Multiset.map_cons, Multiset.mem_cons]
    by_cases hk : k = key a
    · subst hk
      rw [Function.update_self]
      exact iff_of_true (fun hnone => Option.some_ne_none v hnone) (.inl rfl)
    · rw [Function.update_of_ne hk, h.present]
      exact ⟨.inr, fun hmem => hmem.resolve_left hk⟩

/-- The keys of the holders without one of them. -/
theorem mem_erase [DecidableEq η] (h : Exclusive key map holders) {a : η} (ha : a ∈ holders) (k : κ) :
    k ∈ (holders.erase a).map key ↔ k ∈ holders.map key ∧ k ≠ key a := by
  have hnodup := h.nodup
  rw [← Multiset.cons_erase ha, Multiset.map_cons, Multiset.nodup_cons] at hnodup
  rw [← Multiset.cons_erase ha, Multiset.map_cons, Multiset.mem_cons, Multiset.cons_erase ha]
  constructor
  · intro hmem
    exact ⟨.inr hmem, fun hk => hnodup.1 (hk ▸ hmem)⟩
  · rintro ⟨hmem, hk⟩
    exact hmem.resolve_left hk

/-- A holder goes, and its entry with it. -/
theorem release [DecidableEq κ] [DecidableEq η] (h : Exclusive key map holders) {a : η} (ha : a ∈ holders) :
    Exclusive key (Function.update map (key a) .none) (holders.erase a) where
  nodup := Multiset.nodup_of_le (Multiset.map_le_map (Multiset.erase_le a holders)) h.nodup
  present k := by
    rw [h.mem_erase ha]
    by_cases hk : k = key a
    · rw [hk, Function.update_self]
      exact iff_of_false (fun hne => hne rfl) fun hmem => hmem.2 rfl
    · rw [Function.update_of_ne hk, h.present]
      exact ⟨fun hmem => ⟨hmem, hk⟩, And.left⟩

/-- A holder becomes another one of its key. -/
theorem exchange [DecidableEq η] (h : Exclusive key map holders) {a b : η} (ha : a ∈ holders) (hb : key b = key a) :
    Exclusive key map (b ::ₘ holders.erase a) := by
  have hkeys : (b ::ₘ holders.erase a).map key = holders.map key := by
    rw [Multiset.map_cons, hb, ← Multiset.map_cons, Multiset.cons_erase ha]
  exact ⟨hkeys ▸ h.nodup, fun k => by rw [hkeys]; exact h.present k⟩

/-- Each key has one holder at the most. -/
theorem card_le_one [DecidableEq κ] (h : Exclusive key map holders) (k : κ) :
    Multiset.card (holders.filter fun a => key a = k) ≤ 1 := by
  have hcount := Multiset.nodup_iff_count_le_one.1 h.nodup k
  rw [Multiset.count_map] at hcount
  simpa only [eq_comm] using hcount

/-- A key without a holder has no entry. -/
theorem free (h : Exclusive key map holders) {k : κ} (hk : ∀ a ∈ holders, key a ≠ k) : map k = .none := by
  by_contra hmap
  obtain ⟨a, ha, hkey⟩ := Multiset.mem_map.1 ((h.present k).1 hmap)
  exact hk a ha hkey

end Exclusive

end Base
