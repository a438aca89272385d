import FinancialOs.Library.KeyedTable
import Mathlib.Data.Finset.Card

/-! Counting the rows of a table, and inserting under any key above those in use: a driver may leave
gaps between the keys, but the later row has the larger one. -/
namespace FinancialOs.Library
namespace Table
variable {α : Type}

/-- The number of rows that satisfy a predicate on their keys and contents. -/
def count (t : Table α) (p : ℕ → α → Bool) : ℕ := (t.rows.filter fun r => p r.1 r.2).length

theorem lt_freshKey {t : Table α} {k : ℕ} {a : α} (h : t.get? k = some a) : k < t.freshKey := by
  have hmem : k ∈ t.rows.map Prod.fst := List.mem_map.mpr ⟨(k, a), get?_eq_some.mp h, rfl⟩
  have hle : ∀ l : List ℕ, k ∈ l → k ≤ l.foldr max 0 := by
    intro l hl
    induction l with
    | nil => cases hl
    | cons j l ih =>
      rcases List.mem_cons.mp hl with rfl | hl
      · exact le_max_left _ _
      · exact (ih hl).trans (le_max_right _ _)
  exact Nat.lt_succ_of_le (hle _ hmem)

theorem not_mem_of_freshKey_le {t : Table α} {n : ℕ} (h : t.freshKey ≤ n) : n ∉ t.rows.map Prod.fst := by
  intro hn
  obtain ⟨⟨k, a⟩, hr, rfl⟩ := List.mem_map.mp hn
  exact absurd (lt_freshKey (get?_eq_some.mpr hr)) (not_lt.mpr h)

/-- Insert a row above every key in use. -/
def pushAbove (t : Table α) (gap : ℕ) (a : α) : Table α :=
  ⟨t.rows ++ [(t.freshKey + gap, a)], by
    rw [List.map_append, List.nodup_append]
    refine ⟨t.nodup, List.nodup_singleton _, fun k hk j hj he => ?_⟩
    obtain rfl : j = t.freshKey + gap := by simpa using hj
    exact not_mem_of_freshKey_le (Nat.le_add_right _ _) (he ▸ hk), by
    intro r hr
    rcases List.mem_append.mp hr with hr | hr
    · exact t.positive r hr
    · obtain rfl := List.mem_singleton.mp hr
      exact Nat.add_pos_left (Nat.succ_pos _) gap⟩

section Lemmas
variable {t : Table α} {gap n : ℕ} {a : α} {p q : ℕ → α → Bool}

theorem get?_pushAbove {k : ℕ} :
    (t.pushAbove gap a).get? k = if k = t.freshKey + gap then some a else t.get? k := by
  split
  · next hk => exact get?_eq_some.mpr (List.mem_append.mpr (.inr (List.mem_singleton.mpr (by rw [hk]))))
  · next hk =>
    cases hg : t.get? k with
    | none =>
      rw [get?_eq_none] at hg ⊢
      simp only [pushAbove, List.map_append, List.mem_append, not_or]
      exact ⟨hg, by simpa using hk⟩
    | some b => exact get?_eq_some.mpr (List.mem_append.mpr (.inl (get?_eq_some.mp hg)))

theorem erase_pushAbove : (t.pushAbove gap a).erase (t.freshKey + gap) = t := by
  have hrows : (t.rows ++ [(t.freshKey + gap, a)]).filter (fun r => decide (r.1 ≠ t.freshKey + gap)) = t.rows := by
    rw [List.filter_append, List.filter_eq_self.mpr, List.filter_cons_of_neg (by simp), List.filter_nil,
      List.append_nil]
    intro r hr
    refine decide_eq_true fun he => not_mem_of_freshKey_le (Nat.le_add_right t.freshKey gap) ?_
    exact List.mem_map.mpr ⟨r, hr, he⟩
  cases t
  simp only [pushAbove, erase, mk.injEq]
  exact hrows

theorem modify_pushAbove {f : α → α} :
    (t.pushAbove gap a).modify (t.freshKey + gap) f = t.pushAbove gap (f a) := by
  have hrows : t.rows.map (fun r => if r.1 = t.freshKey + gap then (r.1, f r.2) else r) = t.rows := by
    refine (List.map_congr_left fun r hr => ?_).trans (List.map_id _)
    have hne : r.1 ≠ t.freshKey + gap := fun he =>
      not_mem_of_freshKey_le (Nat.le_add_right t.freshKey gap) (List.mem_map.mpr ⟨r, hr, he⟩)
    rw [if_neg hne, id]
  simp only [modify, pushAbove, List.map_append, hrows, List.map_cons, if_true, List.map_nil]

/-- The rows of a list, one after another. -/
theorem rows_foldl_pushAbove (l : List α) (t : Table α) :
    ∃ yeni : List (ℕ × α), (l.foldl (fun t a => t.pushAbove 0 a) t).rows = t.rows ++ yeni ∧ yeni.map Prod.snd = l := by
  induction l generalizing t with
  | nil => exact ⟨[], (List.append_nil _).symm, rfl⟩
  | cons a l ih =>
    obtain ⟨yeni, hrows, hmap⟩ := ih (t.pushAbove 0 a)
    refine ⟨(t.freshKey + 0, a) :: yeni, ?_, by rw [List.map_cons, hmap]⟩
    rw [List.foldl_cons, hrows, pushAbove, List.append_assoc, List.singleton_append]

theorem count_congr (h : ∀ k a, t.get? k = some a → p k a = q k a) : t.count p = t.count q := by
  unfold count
  congr 1
  refine List.filter_congr fun r hr => h r.1 r.2 (get?_eq_some.mpr hr)

theorem count_pushAbove : (t.pushAbove gap a).count p = t.count p + if p (t.freshKey + gap) a then 1 else 0 := by
  rw [count, pushAbove, List.filter_append, List.length_append, count]
  congr 1
  rw [List.filter_cons]
  split <;> rfl

theorem count_erase_le {k : ℕ} : (t.erase k).count p ≤ t.count p :=
  (List.filter_sublist.filter _).length_le

/-- The keys of the rows that are counted. -/
theorem exists_keys (t : Table α) (p : ℕ → α → Bool) : ∃ s : Finset ℕ, s.card = t.count p ∧
    ∀ k, k ∈ s ↔ ∃ a, t.get? k = some a ∧ p k a = true := by
  have hnodup : ((t.rows.filter fun r => p r.1 r.2).map Prod.fst).Nodup :=
    t.nodup.sublist (List.filter_sublist.map _)
  refine ⟨((t.rows.filter fun r => p r.1 r.2).map Prod.fst).toFinset, ?_, fun k => ?_⟩
  · rw [List.toFinset_card_of_nodup hnodup, List.length_map, count]
  · rw [List.mem_toFinset, List.mem_map]
    constructor
    · rintro ⟨⟨j, a⟩, hr, rfl⟩
      obtain ⟨hr, hp⟩ := List.mem_filter.mp hr
      exact ⟨a, get?_eq_some.mpr hr, hp⟩
    · rintro ⟨a, ha, hp⟩
      exact ⟨(k, a), List.mem_filter.mpr ⟨get?_eq_some.mp ha, hp⟩, rfl⟩

theorem card_le_count {s : Finset ℕ} (h : ∀ k ∈ s, ∃ a, t.get? k = some a ∧ p k a = true) :
    s.card ≤ t.count p := by
  obtain ⟨keys, hcard, hkeys⟩ := t.exists_keys p
  rw [← hcard]
  exact Finset.card_le_card fun k hk => (hkeys k).mpr (h k hk)

end Lemmas

end Table

end FinancialOs.Library
