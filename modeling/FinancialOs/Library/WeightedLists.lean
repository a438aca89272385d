import Mathlib.Algebra.BigOperators.Group.List.Basic
import Mathlib.Data.List.Forall2
import FinancialOs.Library.TableSweeps

/-! Sums of a weight over lists that are filtered, flattened, or selected from a table. -/
namespace FinancialOs.Library
variable {α β M : Type} [AddCommMonoid M]

theorem sum_filter_eq (l : List α) (p : α → Bool) (w : α → M) :
    ((l.filter p).map w).sum = (l.map (fun a => if p a then w a else 0)).sum := by
  induction l with
  | nil => rfl
  | cons a l ih =>
    rw [List.map_cons, List.sum_cons, ← ih]
    cases hp : p a with
    | true => simp [hp]
    | false => simp [hp]

omit [AddCommMonoid M] in
theorem filter_map_eq_flatMap (l : List α) (p : α → Bool) (f : α → β) :
    (l.filter p).map f = l.flatMap fun a => if p a then [f a] else [] := by
  induction l with
  | nil => rfl
  | cons a l ih =>
    rw [List.flatMap_cons, ← ih, List.filter_cons]
    split <;> rfl

theorem sum_flatMap_eq (l : List α) (f : α → List β) (w : β → M) :
    ((l.flatMap f).map w).sum = (l.map (fun a => ((f a).map w).sum)).sum := by
  induction l with
  | nil => rfl
  | cons a l ih => rw [List.flatMap_cons, List.map_append, List.sum_append, ih, List.map_cons, List.sum_cons]

theorem sum_eq_zero_of {l : List α} {w : α → M} (h : ∀ a ∈ l, w a = 0) : (l.map w).sum = 0 := by
  rw [List.map_congr_left h]
  exact List.sum_eq_zero (fun x hx => (List.mem_map.mp hx).elim fun _ h => h.2.symm)

/-- Where all rows but one weigh nothing, the selection weighs what that one does. -/
theorem Table.sum_select_single {t : Table α} {p : α → Bool} {k : ℕ} {a : α} (h : (k, a) ∈ t.select p)
    {w : ℕ × α → M} (hw : ∀ r ∈ t.select p, r.1 ≠ k → w r = 0) : ((t.select p).map w).sum = w (k, a) := by
  have hnodup : ((t.select p).map Prod.fst).Nodup := t.nodup.sublist (List.filter_sublist.map _)
  generalize t.select p = l at h hw hnodup
  induction l with
  | nil => cases h
  | cons r l ih =>
    rw [List.map_cons, List.nodup_cons] at hnodup
    rw [List.map_cons, List.sum_cons]
    rcases List.mem_cons.mp h with rfl | hmem
    · have hrest : (l.map w).sum = 0 := by
        apply sum_eq_zero_of
        intro r hr
        apply hw r (List.mem_cons_of_mem _ hr)
        rintro rfl
        exact hnodup.1 (List.mem_map.mpr ⟨r, hr, rfl⟩)
      rw [hrest, add_zero]
    · have hne : r.1 ≠ k := by
        rintro rfl
        exact hnodup.1 (List.mem_map.mpr ⟨_, hmem, rfl⟩)
      rw [hw r List.mem_cons_self hne, zero_add]
      exact ih hmem (fun r hr => hw r (List.mem_cons_of_mem _ hr)) hnodup.2

/-- A selected row that changes and stays selected changes the selection by its own weights. -/
theorem Table.sum_select_modify {G : Type} [AddCommGroup G] {t : Table α} {p : α → Bool} {k : ℕ} {a : α}
    (h : t.get? k = some a) {f : α → α} (hp : p a = true) (hf : p (f a) = true) (w : α → G) :
    (((t.modify k f).select p).map fun r => w r.2).sum = ((t.select p).map fun r => w r.2).sum - w a + w (f a) := by
  have hselect (u : Table α) : ((u.select p).map fun r => w r.2).sum = u.total fun a => if p a then w a else 0 :=
    sum_filter_eq u.rows (fun r => p r.2) fun r => w r.2
  rw [hselect, hselect, Table.total_modify h]
  simp only [hp, hf, if_true]

namespace Table

/-- Two tables under the same keys, with their rows related one by one. -/
def Related (R : α → α → Prop) (t u : Table α) : Prop :=
  List.Forall₂ (fun r s => r.1 = s.1 ∧ R r.2 s.2) t.rows u.rows

section Related
variable {R : α → α → Prop} {t u : Table α} {p : α → Bool}

theorem Related.select_flatMap (h : t.Related R u) (hp : ∀ a b, R a b → p a = p b) {f : ℕ × α → List β}
    (hf : ∀ r ∈ t.rows, ∀ b, R r.2 b → p r.2 = true → f r = f (r.1, b)) :
    (t.select p).flatMap f = (u.select p).flatMap f := by
  unfold Related at h
  unfold select
  generalize t.rows = l at h hf
  generalize u.rows = m at h
  induction h with
  | nil => rfl
  | @cons r s l m hrs _ ih =>
    have hrest := ih fun q hq => hf q (List.mem_cons_of_mem _ hq)
    have hps : p s.2 = p r.2 := (hp _ _ hrs.2).symm
    rw [List.filter_cons, List.filter_cons, hps]
    split
    · next hpr =>
      rw [List.flatMap_cons, List.flatMap_cons, hrest, hf r List.mem_cons_self s.2 hrs.2 hpr, hrs.1]
    · exact hrest

theorem Related.select_map (h : t.Related R u) (hp : ∀ a b, R a b → p a = p b) {f g : ℕ × α → β}
    (hf : ∀ r ∈ t.rows, ∀ b, R r.2 b → p r.2 = true → g (r.1, b) = f r) :
    (u.select p).map g = (t.select p).map f := by
  unfold Related at h
  unfold select
  generalize t.rows = l at h hf
  generalize u.rows = m at h
  induction h with
  | nil => rfl
  | @cons r s l m hrs _ ih =>
    have hrest := ih fun q hq => hf q (List.mem_cons_of_mem _ hq)
    have hps : p s.2 = p r.2 := (hp _ _ hrs.2).symm
    rw [List.filter_cons, List.filter_cons, hps]
    split
    · next hpr =>
      have hs : s = (r.1, s.2) := Prod.ext hrs.1.symm rfl
      rw [List.map_cons, List.map_cons, hrest, hs, hf r List.mem_cons_self s.2 hrs.2 hpr]
    · exact hrest

/-- A selection that finds only rows related to themselves alone is the same. -/
theorem Related.select_eq (h : t.Related R u) (hp : ∀ a b, R a b → p a = p b)
    (hr : ∀ r ∈ t.rows, ∀ b, R r.2 b → p r.2 = true → r.2 = b) : t.select p = u.select p := by
  have hlist := h.select_flatMap hp (f := fun r => [r]) (fun r hmem b hb hpr => by rw [← hr r hmem b hb hpr])
  simpa using hlist

theorem Related.modify (t : Table α) (k : ℕ) {f : α → α} (hrefl : ∀ a, R a a)
    (hf : ∀ a, t.get? k = some a → R a (f a)) : t.Related R (t.modify k f) := by
  have hrows : ∀ r ∈ t.rows, r.1 = (if r.1 = k then (r.1, f r.2) else r).1 ∧
      R r.2 (if r.1 = k then (r.1, f r.2) else r).2 := by
    intro r hr
    split
    · next hk => exact ⟨rfl, hf r.2 (hk ▸ get?_eq_some.mpr hr)⟩
    · exact ⟨rfl, hrefl _⟩
  exact List.forall₂_map_right_iff.mpr (List.forall₂_same.mpr hrows)

end Related

end Table

end FinancialOs.Library
