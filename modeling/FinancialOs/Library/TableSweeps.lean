import FinancialOs.Library.KeyedTable

/-! Rewrites of a table row by row: a table is its keys and its rows under them, and a pass over its
keys rewrites every row. -/
namespace FinancialOs.Library.Table
variable {α β : Type} {t u : Table α} {f g : α → α}

def keys (t : Table α) : List ℕ := t.rows.map Prod.fst

@[simp] theorem keys_modify (t : Table α) (k : ℕ) (f : α → α) : (t.modify k f).keys = t.keys := by
  rw [keys, modify, List.map_map]
  apply List.map_congr_left
  intro r _
  simp only [Function.comp]
  split
  · rfl
  · rfl

@[simp] theorem keys_mapRows (t : Table α) (f : α → α) : (t.mapRows f).keys = t.keys := by
  rw [keys, mapRows, List.map_map]
  rfl

/-- Tables with the same keys and the same row under each of them are the same. -/
theorem ext_keys (hkeys : t.keys = u.keys) (hget : ∀ k, t.get? k = u.get? k) : t = u := by
  have hrows : t.rows = u.rows := by
    apply List.ext_getElem
    · have := congrArg List.length hkeys
      simpa [keys] using this
    · intro n ht hu
      have hkey : (t.rows[n]).1 = (u.rows[n]).1 := by
        have hn : t.keys[n]? = u.keys[n]? := by rw [hkeys]
        simpa [keys, ht, hu] using hn
      have hrow : t.get? (t.rows[n]).1 = some (t.rows[n]).2 := get?_eq_some.mpr (List.getElem_mem ht)
      have hrow' : u.get? (u.rows[n]).1 = some (u.rows[n]).2 := get?_eq_some.mpr (List.getElem_mem hu)
      rw [hget, hkey, hrow'] at hrow
      exact Prod.ext hkey (Option.some.inj hrow).symm
  cases t with
  | mk rows nodup positive =>
    cases u with
    | mk rows' nodup' positive' =>
      obtain rfl : rows = rows' := hrows
      rfl

theorem modify_modify (t : Table α) (k : ℕ) (f g : α → α) : (t.modify k f).modify k g = t.modify k (g ∘ f) := by
  apply ext_keys
  · rw [keys_modify, keys_modify, keys_modify]
  · intro j
    rw [get?_modify, get?_modify, get?_modify]
    split
    · rw [Option.map_map]
    · rfl

/-- Rewrites of one row commute where their functions do on it, those of two rows always. -/
theorem modify_comm {j k : ℕ} (h : j = k → ∀ a, t.get? k = some a → f (g a) = g (f a)) :
    (t.modify j f).modify k g = (t.modify k g).modify j f := by
  apply ext_keys
  · rw [keys_modify, keys_modify, keys_modify, keys_modify]
  · intro i
    rw [get?_modify, get?_modify, get?_modify, get?_modify]
    by_cases hk : i = k
    · by_cases hj : i = j
      · subst hk hj
        rw [if_pos rfl, if_pos rfl, if_pos rfl, if_pos rfl]
        cases ha : t.get? i with
        | none => rfl
        | some a => exact congrArg some (h rfl a ha).symm
      · rw [if_pos hk, if_neg hj, if_neg hj, if_pos hk]
    · rw [if_neg hk, if_neg hk]

theorem get?_foldl_modify {l : List ℕ} (hl : l.Nodup) (k : ℕ) : (l.foldl (fun t k => t.modify k f) t).get? k =
    if k ∈ l then (t.get? k).map f else t.get? k := by
  induction l generalizing t with
  | nil => simp
  | cons i l ih =>
    rw [List.nodup_cons] at hl
    rw [List.foldl_cons, ih hl.2, get?_modify]
    by_cases hk : k = i
    · subst hk
      rw [if_neg hl.1, if_pos rfl, if_pos List.mem_cons_self]
    · simp only [List.mem_cons, hk, false_or, if_false]

theorem keys_foldl_modify (l : List ℕ) : (l.foldl (fun t k => t.modify k f) t).keys = t.keys := by
  induction l generalizing t with
  | nil => rfl
  | cons i l ih => rw [List.foldl_cons, ih, keys_modify]

/-- A pass over the keys rewrites every row. -/
theorem foldl_modify_keys (t : Table α) (f : α → α) : t.keys.foldl (fun t k => t.modify k f) t = t.mapRows f := by
  apply ext_keys
  · rw [keys_foldl_modify, keys_mapRows]
  · intro k
    have hnodup : t.keys.Nodup := t.nodup
    rw [get?_foldl_modify hnodup, get?_mapRows]
    split
    · rfl
    · next hk =>
      have hnone : t.get? k = none := get?_eq_none.mpr hk
      rw [hnone]
      rfl

theorem mapRows_congr (h : ∀ k a, t.get? k = some a → f a = g a) : t.mapRows f = t.mapRows g := by
  apply ext_keys
  · rw [keys_mapRows, keys_mapRows]
  · intro k
    rw [get?_mapRows, get?_mapRows]
    cases ha : t.get? k with
    | none => rfl
    | some a => exact congrArg some (h k a ha)

/-- The total over the keys is the total over the rows. -/
theorem sum_keys {M : Type} [AddCommMonoid M] (t : Table α) (w : α → M) :
    (t.keys.map (fun k => ((t.get? k).map w).getD 0)).sum = t.total w := by
  rw [keys, List.map_map, total]
  apply congrArg List.sum
  apply List.map_congr_left
  rintro ⟨k, a⟩ hr
  have hget : t.get? k = some a := get?_eq_some.mpr hr
  simp only [Function.comp, hget, Option.map_some, Option.getD_some]

theorem total_mapRows {M : Type} [AddCommMonoid M] (t : Table α) (f : α → α) (w : α → M) :
    (t.mapRows f).total w = t.total (fun a => w (f a)) := by
  rw [total, mapRows, List.map_map]
  rfl

theorem total_add {M : Type} [AddCommMonoid M] (t : Table α) (v w : α → M) :
    t.total (fun a => v a + w a) = t.total v + t.total w := List.sum_map_add

end FinancialOs.Library.Table
