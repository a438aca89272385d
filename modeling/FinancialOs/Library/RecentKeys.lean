import Mathlib.Data.Finset.Card
import Mathlib.Data.List.DropRight

/-! A count of keys behind a memory of the latest of them: a key that is remembered is not counted again. -/
namespace FinancialOs.Library
variable {α : Type}

/-- How many keys have been counted, and the latest of them. -/
structure Recent (α : Type) where
  count : ℕ
  keys : List α

namespace Recent

def note [DecidableEq α] (room : ℕ) (r : Recent α) (x : α) : Recent α :=
  if x ∈ r.keys then r else ⟨r.count + 1, (r.keys ++ [x]).rtake room⟩

def noteAll [DecidableEq α] (room : ℕ) (r : Recent α) (xs : List α) : Recent α := xs.foldl (note room) r

/-- Each key of the set has been counted once, and all of them are remembered. -/
structure Exact [DecidableEq α] (r : Recent α) (s : Finset α) : Prop where
  nodup : r.keys.Nodup
  keys : r.keys.toFinset = s
  count : r.count = s.card

theorem rtake_of_le {room : ℕ} {l : List α} (h : l.length ≤ room) : l.rtake room = l := by
  rw [List.rtake, Nat.sub_eq_zero_of_le h, List.drop_zero]

section Memory
variable [DecidableEq α] {room : ℕ} {r : Recent α} {s : Finset α} {x : α} {xs ys : List α}

theorem noteAll_append : r.noteAll room (xs ++ ys) = (r.noteAll room xs).noteAll room ys := List.foldl_append

theorem exact_empty : Exact (⟨0, []⟩ : Recent α) ∅ := ⟨List.nodup_nil, rfl, rfl⟩

theorem Exact.note (h : r.Exact s) (hroom : (insert x s).card ≤ room) : (r.note room x).Exact (insert x s) := by
  have hmem : x ∈ r.keys ↔ x ∈ s := by rw [← h.keys, List.mem_toFinset]
  have hlen : r.keys.length = s.card := by rw [← List.toFinset_card_of_nodup h.nodup, h.keys]
  rw [Recent.note]
  by_cases hx : x ∈ s
  · rw [if_pos (hmem.mpr hx), Finset.insert_eq_of_mem hx]
    exact h
  · rw [Finset.card_insert_of_notMem hx] at hroom
    rw [if_neg (mt hmem.mp hx), rtake_of_le (by rw [List.length_append, List.length_singleton]; omega)]
    refine ⟨?_, ?_, ?_⟩
    · exact h.nodup.append (List.nodup_singleton x) (by simpa using mt hmem.mp hx)
    · rw [List.toFinset_append, h.keys]
      ext y
      simp
    · rw [Finset.card_insert_of_notMem hx, h.count]

/-- As long as there is room for every key the count is that of the different keys. -/
theorem Exact.noteAll (h : r.Exact s) (hroom : (s ∪ xs.toFinset).card ≤ room) :
    (r.noteAll room xs).Exact (s ∪ xs.toFinset) := by
  induction xs generalizing r s with
  | nil => simpa [Recent.noteAll] using h
  | cons x xs ih =>
    have hunion : s ∪ (x :: xs).toFinset = insert x s ∪ xs.toFinset := by
      rw [List.toFinset_cons, Finset.union_insert, Finset.insert_union]
    rw [hunion] at hroom ⊢
    exact ih (h.note ((Finset.card_le_card Finset.subset_union_left).trans hroom)) hroom

theorem note_length (h : r.keys.length ≤ room) (x : α) : (r.note room x).keys.length ≤ room := by
  rw [note]
  split
  · exact h
  · rw [List.rtake, List.length_drop]
    omega

theorem noteAll_length (h : r.keys.length ≤ room) (xs : List α) : (r.noteAll room xs).keys.length ≤ room := by
  induction xs generalizing r with
  | nil => exact h
  | cons x xs ih => exact ih (note_length h x)

theorem count_le_note (x : α) : r.count ≤ (r.note room x).count := by
  rw [note]
  split
  · exact le_rfl
  · exact Nat.le_succ _

theorem count_le_noteAll (xs : List α) : r.count ≤ (r.noteAll room xs).count := by
  induction xs generalizing r with
  | nil => exact le_rfl
  | cons x xs ih => exact (count_le_note x).trans ih

theorem mem_keys_note {y : α} (h : y ∈ (r.note room x).keys) : y ∈ r.keys ∨ y = x := by
  rw [note] at h
  split at h
  · exact .inl h
  · rcases List.mem_append.mp (List.mem_of_mem_drop h) with h | h
    · exact .inl h
    · exact .inr (List.mem_singleton.mp h)

/-- A key that is not remembered is counted. -/
theorem count_lt_noteAll (hx : x ∈ xs) (hkeys : x ∉ r.keys) : r.count < (r.noteAll room xs).count := by
  induction xs generalizing r with
  | nil => cases hx
  | cons y xs ih =>
    by_cases hy : x = y
    · subst hy
      have hnote : r.count < (r.note room x).count := by
        rw [note, if_neg hkeys]
        exact Nat.lt_succ_self _
      exact hnote.trans_le (count_le_noteAll xs)
    · refine (count_le_note y).trans_lt (ih (List.mem_of_ne_of_mem hy hx) ?_)
      intro h
      rcases mem_keys_note h with h | h
      · exact hkeys h
      · exact hy h

/-- With more keys than there is room for, some are counted again. -/
theorem count_lt_noteAll_of_card (hkeys : r.keys.length ≤ room) (hcard : room < xs.toFinset.card) :
    r.count < (r.noteAll room xs).count := by
  obtain ⟨x, hx, hnot⟩ : ∃ x ∈ xs, x ∉ r.keys := by
    by_contra hall
    simp only [not_exists, not_and, not_not] at hall
    have hsub : xs.toFinset ⊆ r.keys.toFinset := fun x hx => List.mem_toFinset.mpr (hall x (List.mem_toFinset.mp hx))
    have hle := (Finset.card_le_card hsub).trans (List.toFinset_card_le r.keys)
    omega
  exact count_lt_noteAll hx hnot

end Memory
end Recent
end FinancialOs.Library
