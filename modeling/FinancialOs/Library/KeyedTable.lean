import Mathlib.Algebra.BigOperators.Group.List.Basic
import Mathlib.Data.List.MinMax
import Mathlib.Data.List.Nodup
import Mathlib.Tactic.Abel

/-! Finite tables under a numeric primary key, with the row operations of a
relational store and the totals taken over them. -/
namespace FinancialOs.Library

/-- Rows in insertion order; primary keys are unique and positive by construction. -/
structure Table (α : Type) where
  rows : List (ℕ × α)
  nodup : (rows.map Prod.fst).Nodup
  positive : ∀ r ∈ rows, 0 < r.1

namespace Table
variable {α : Type}

def empty : Table α := ⟨[], List.nodup_nil, by simp⟩

def get? (t : Table α) (k : ℕ) : Option α := t.rows.lookup k

/-- Rewrite the row under one key; an absent key leaves the table alone. -/
def modify (t : Table α) (k : ℕ) (f : α → α) : Table α :=
  ⟨t.rows.map (fun r => if r.1 = k then (r.1, f r.2) else r), by
    have he : (t.rows.map (fun r => if r.1 = k then (r.1, f r.2) else r)).map Prod.fst =
        t.rows.map Prod.fst := by
      rw [List.map_map]
      apply List.map_congr_left
      intro r _
      simp only [Function.comp]
      split <;> rfl
    rw [he]
    exact t.nodup, by
    intro r hr
    obtain ⟨q, hq, rfl⟩ := List.mem_map.mp hr
    have := t.positive q hq
    split <;> exact this⟩

/-- The next primary key: one above the largest key in use. -/
def freshKey (t : Table α) : ℕ := (t.rows.map Prod.fst).foldr max 0 + 1

private theorem le_foldr_max (l : List ℕ) : ∀ k ∈ l, k ≤ l.foldr max 0 := by
  induction l with
  | nil => simp
  | cons a l ih =>
    intro k hk
    rcases List.mem_cons.mp hk with rfl | hk
    · exact le_max_left _ _
    · exact (ih k hk).trans (le_max_right _ _)

theorem freshKey_not_mem (t : Table α) : t.freshKey ∉ t.rows.map Prod.fst := by
  intro h
  have := le_foldr_max _ _ h
  simp only [freshKey] at this
  omega

/-- Insert a row under the next primary key. -/
def push (t : Table α) (a : α) : Table α :=
  ⟨t.rows ++ [(t.freshKey, a)], by
    rw [List.map_append, List.nodup_append]
    refine ⟨t.nodup, List.nodup_singleton _, ?_⟩
    intro k hk j hj he
    obtain rfl : j = t.freshKey := by simpa using hj
    exact t.freshKey_not_mem (he ▸ hk), by
    intro r hr
    rcases List.mem_append.mp hr with hr | hr
    · exact t.positive r hr
    · obtain rfl := List.mem_singleton.mp hr
      exact Nat.succ_pos _⟩

def erase (t : Table α) (k : ℕ) : Table α :=
  ⟨t.rows.filter (fun r => r.1 ≠ k), t.nodup.sublist (List.filter_sublist.map _),
    fun r hr => t.positive r (List.mem_of_mem_filter hr)⟩

/-- Keep the rows that satisfy a predicate. -/
def keep (t : Table α) (p : α → Bool) : Table α :=
  ⟨t.rows.filter (fun r => p r.2), t.nodup.sublist (List.filter_sublist.map _),
    fun r hr => t.positive r (List.mem_of_mem_filter hr)⟩

/-- Keep the rows that satisfy a predicate on their keys and contents. -/
def retain (t : Table α) (p : ℕ → α → Bool) : Table α :=
  ⟨t.rows.filter (fun r => p r.1 r.2), t.nodup.sublist (List.filter_sublist.map _),
    fun r hr => t.positive r (List.mem_of_mem_filter hr)⟩

/-- Rewrite every row. -/
def mapRows (t : Table α) (f : α → α) : Table α :=
  ⟨t.rows.map (fun r => (r.1, f r.2)), by
    have he : (t.rows.map (fun r => (r.1, f r.2))).map Prod.fst = t.rows.map Prod.fst := by
      rw [List.map_map]
      rfl
    rw [he]
    exact t.nodup, by
    intro r hr
    obtain ⟨q, hq, rfl⟩ := List.mem_map.mp hr
    exact t.positive q hq⟩

/-- One pending row operation of a unit of work. -/
inductive Change (α : Type) where
  | insert (a : α)
  | update (k : ℕ) (f : α → α)
  | delete (k : ℕ)

def change (t : Table α) : Change α → Table α
  | .insert a => t.push a
  | .update k f => t.modify k f
  | .delete k => t.erase k

/-- The row with the smallest key that satisfies a predicate. -/
def first? (t : Table α) (p : α → Bool) : Option (ℕ × α) :=
  (t.rows.filter (fun r => p r.2)).argmin Prod.fst

/-- Rows satisfying a predicate, in insertion order. -/
def select (t : Table α) (p : α → Bool) : List (ℕ × α) := t.rows.filter (fun r => p r.2)

def any (t : Table α) (p : α → Bool) : Bool := t.rows.any (fun r => p r.2)

/-- The total of a weight over all rows. -/
def total {M : Type} [AddCommMonoid M] (t : Table α) (w : α → M) : M :=
  (t.rows.map (fun r => w r.2)).sum

private theorem lookup_eq_some {l : List (ℕ × α)} (hl : (l.map Prod.fst).Nodup) (k : ℕ) (a : α) :
    l.lookup k = some a ↔ (k, a) ∈ l := by
  induction l with
  | nil => simp
  | cons r l ih =>
    obtain ⟨j, b⟩ := r
    rw [List.map_cons, List.nodup_cons] at hl
    rw [List.lookup_cons, List.mem_cons, Prod.mk.injEq]
    by_cases hk : k = j
    · subst hk
      have hn : (k, a) ∉ l := fun h => hl.1 (List.mem_map.mpr ⟨(k, a), h, rfl⟩)
      simp [hn, eq_comm]
    · have hb : (k == j) = false := by simpa using hk
      simp only [hb, hk, false_and, false_or]
      exact ih hl.2

theorem get?_eq_some {t : Table α} {k : ℕ} {a : α} : t.get? k = some a ↔ (k, a) ∈ t.rows :=
  lookup_eq_some t.nodup k a

theorem get?_eq_none {t : Table α} {k : ℕ} : t.get? k = none ↔ k ∉ t.rows.map Prod.fst := by
  constructor
  · intro h hk
    obtain ⟨⟨j, a⟩, hr, rfl⟩ := List.mem_map.mp hk
    rw [get?_eq_some.mpr hr] at h
    cases h
  · intro h
    cases hg : t.get? k with
    | none => rfl
    | some a => exact absurd (List.mem_map.mpr ⟨(k, a), get?_eq_some.mp hg, rfl⟩) h

@[simp] theorem get?_zero (t : Table α) : t.get? 0 = none := by
  rw [get?_eq_none]
  intro h
  obtain ⟨r, hr, he⟩ := List.mem_map.mp h
  have := t.positive r hr
  omega

@[simp] theorem get?_empty (k : ℕ) : (empty : Table α).get? k = none := rfl

@[simp] theorem get?_modify (t : Table α) (k j : ℕ) (f : α → α) :
    (t.modify k f).get? j = if j = k then (t.get? j).map f else t.get? j := by
  cases hg : t.get? j with
  | none =>
    have hn : (t.modify k f).get? j = none := by
      rw [get?_eq_none] at hg ⊢
      simp only [modify, List.map_map]
      intro h
      obtain ⟨r, hr, he⟩ := List.mem_map.mp h
      apply hg
      refine List.mem_map.mpr ⟨r, hr, ?_⟩
      simp only [Function.comp] at he
      split at he <;> exact he
    simp [hn]
  | some a =>
    have hm := get?_eq_some.mp hg
    by_cases hk : j = k
    · subst hk
      rw [if_pos rfl]
      exact get?_eq_some.mpr (List.mem_map.mpr ⟨(j, a), hm, by simp⟩)
    · rw [if_neg hk]
      exact get?_eq_some.mpr (List.mem_map.mpr ⟨(j, a), hm, by simp [hk]⟩)

@[simp] theorem get?_push (t : Table α) (a : α) (k : ℕ) :
    (t.push a).get? k = if k = t.freshKey then some a else t.get? k := by
  by_cases hk : k = t.freshKey
  · subst hk
    rw [if_pos rfl]
    exact get?_eq_some.mpr (List.mem_append.mpr (.inr (List.mem_singleton.mpr rfl)))
  · rw [if_neg hk]
    cases hg : t.get? k with
    | none =>
      rw [get?_eq_none] at hg ⊢
      simp only [push, List.map_append, List.mem_append, not_or]
      exact ⟨hg, by simpa using hk⟩
    | some b => exact get?_eq_some.mpr (List.mem_append.mpr (.inl (get?_eq_some.mp hg)))

theorem get?_freshKey (t : Table α) : t.get? t.freshKey = none :=
  get?_eq_none.mpr t.freshKey_not_mem

@[simp] theorem get?_erase (t : Table α) (k j : ℕ) :
    (t.erase k).get? j = if j = k then none else t.get? j := by
  by_cases hk : j = k
  · subst hk
    rw [if_pos rfl, get?_eq_none]
    simp [erase]
  · rw [if_neg hk]
    cases hg : t.get? j with
    | none =>
      rw [get?_eq_none] at hg ⊢
      intro h
      exact hg (List.map_subset _ (List.filter_sublist).subset h)
    | some a =>
      exact get?_eq_some.mpr (List.mem_filter.mpr ⟨get?_eq_some.mp hg, by simpa using hk⟩)

@[simp] theorem get?_mapRows (t : Table α) (f : α → α) (k : ℕ) :
    (t.mapRows f).get? k = (t.get? k).map f := by
  cases hg : t.get? k with
  | none =>
    rw [get?_eq_none] at hg
    rw [Option.map_none, get?_eq_none, mapRows, List.map_map]
    exact hg
  | some a =>
    rw [Option.map_some, get?_eq_some]
    exact List.mem_map.mpr ⟨(k, a), get?_eq_some.mp hg, rfl⟩

theorem mapRows_mapRows {t : Table α} {f g : α → α} : (t.mapRows f).mapRows g = t.mapRows (g ∘ f) := by
  simp only [mapRows, List.map_map, mk.injEq]
  apply List.map_congr_left
  intro r _
  rfl

theorem get?_keep {t : Table α} {p : α → Bool} {k : ℕ} {a : α} :
    (t.keep p).get? k = some a ↔ t.get? k = some a ∧ p a = true := by
  rw [get?_eq_some, get?_eq_some, keep, List.mem_filter]

theorem get?_retain {t : Table α} {p : ℕ → α → Bool} {k : ℕ} {a : α} :
    (t.retain p).get? k = some a ↔ t.get? k = some a ∧ p k a = true := by
  rw [get?_eq_some, get?_eq_some, retain, List.mem_filter]

theorem keep_all {t : Table α} {p : α → Bool} (h : ∀ a, p a = true) : t.keep p = t := by
  cases t with
  | mk rows nodup positive =>
    simp only [keep, mk.injEq]
    exact List.filter_eq_self.mpr fun r _ => h r.2

/-- A row that is not kept, before or behind its rewriting, can be rewritten. -/
theorem keep_modify {t : Table α} {p : α → Bool} {k : ℕ} {f : α → α}
    (h : ∀ a, t.get? k = some a → p a = false ∧ p (f a) = false) : (t.modify k f).keep p = t.keep p := by
  have hrow (l : List (ℕ × α)) (hl : ∀ r ∈ l, r.1 = k → p r.2 = false ∧ p (f r.2) = false) :
      (l.map fun r => if r.1 = k then (r.1, f r.2) else r).filter (fun r => p r.2) = l.filter fun r => p r.2 := by
    induction l with
    | nil => rfl
    | cons r l ih =>
      have ihl := ih fun s hs => hl s (List.mem_cons_of_mem _ hs)
      by_cases hk : r.1 = k
      · obtain ⟨hbefore, hbehind⟩ := hl r List.mem_cons_self hk
        rw [List.map_cons, if_pos hk, List.filter_cons_of_neg (by simp [hbehind]), ihl,
          List.filter_cons_of_neg (by simp [hbefore])]
      · rw [List.map_cons, if_neg hk, List.filter_cons, ihl, List.filter_cons]
  simp only [keep, modify, mk.injEq]
  exact hrow t.rows fun r hr hk => h r.2 (get?_eq_some.mpr (hk ▸ hr))

theorem keep_mapRows {t : Table α} {p : α → Bool} {f : α → α} (hp : ∀ a, p (f a) = p a)
    (hf : ∀ a, p a = true → f a = a) : (t.mapRows f).keep p = t.keep p := by
  simp only [keep, mapRows, mk.injEq, List.filter_map]
  have hkeep : (fun r : ℕ × α => p r.2) ∘ (fun r : ℕ × α => (r.1, f r.2)) = fun r => p r.2 := by
    funext r
    exact hp r.2
  rw [hkeep]
  refine (List.map_congr_left fun r hr => ?_).trans (List.map_id _)
  rw [hf r.2 (List.mem_filter.mp hr).2]
  rfl

theorem any_eq_true {t : Table α} {p : α → Bool} :
    t.any p = true ↔ ∃ k a, t.get? k = some a ∧ p a = true := by
  simp only [any, List.any_eq_true, Prod.exists, get?_eq_some]

/-- Only what a rewrite does to the row under its key matters. -/
theorem modify_congr {t : Table α} {k : ℕ} {f g : α → α} (h : ∀ a, t.get? k = some a → f a = g a) :
    t.modify k f = t.modify k g := by
  simp only [modify, mk.injEq]
  apply List.map_congr_left
  intro r hr
  split
  · next hk => rw [h r.2 (get?_eq_some.mpr (hk ▸ hr))]
  · rfl

theorem modify_self (t : Table α) (k : ℕ) : t.modify k (fun a => a) = t := by
  have hr : (fun r : ℕ × α => if r.1 = k then (r.1, r.2) else r) = id := by
    funext r
    simp
  cases t with
  | mk rows nodup positive => simp only [modify, hr, List.map_id]

/-- A row that is rewritten right behind its insertion might have been inserted so. -/
theorem modify_push (t : Table α) (a : α) (f : α → α) : (t.push a).modify t.freshKey f = t.push (f a) := by
  have hrows : t.rows.map (fun r => if r.1 = t.freshKey then (r.1, f r.2) else r) = t.rows := by
    refine (List.map_congr_left ?_).trans (List.map_id _)
    intro r hr
    have hne : r.1 ≠ t.freshKey := by
      intro he
      exact t.freshKey_not_mem (he ▸ List.mem_map_of_mem hr)
    rw [if_neg hne, id]
  simp only [modify, push, List.map_append, hrows, List.map_cons, if_true, List.map_nil]

theorem first?_spec {t : Table α} {p : α → Bool} {k : ℕ} {a : α} (h : t.first? p = some (k, a)) :
    t.get? k = some a ∧ p a = true := by
  have hm := List.mem_filter.mp (List.argmin_mem (Option.mem_def.mpr h))
  exact ⟨get?_eq_some.mpr hm.1, hm.2⟩

theorem first?_eq_none {t : Table α} {p : α → Bool} :
    t.first? p = none ↔ ∀ k a, t.get? k = some a → p a = false := by
  rw [first?, List.argmin_eq_none, List.filter_eq_nil_iff]
  constructor
  · intro h k a hk
    simpa using h (k, a) (get?_eq_some.mp hk)
  · rintro h ⟨k, a⟩ hr
    simpa using h k a (get?_eq_some.mpr hr)

theorem first?_le {t : Table α} {p : α → Bool} {k j : ℕ} {a b : α} (h : t.first? p = some (k, a))
    (hj : t.get? j = some b) (hp : p b = true) : k ≤ j :=
  List.le_of_mem_argmin (List.mem_filter.mpr ⟨get?_eq_some.mp hj, hp⟩) (Option.mem_def.mpr h)

/-- The first key depends only on which keys hold a row that satisfies the predicate. -/
theorem first?_keys {β : Type} {t : Table α} {u : Table β} {p : α → Bool} {q : β → Bool}
    (h : ∀ k, (∃ a, t.get? k = some a ∧ p a = true) ↔ ∃ b, u.get? k = some b ∧ q b = true) :
    (t.first? p).map Prod.fst = (u.first? q).map Prod.fst := by
  cases ht : t.first? p with
  | none =>
    have hu : u.first? q = none := by
      rw [first?_eq_none]
      intro k b hb
      by_contra hq
      obtain ⟨a, ha, hpa⟩ := (h k).mpr ⟨b, hb, by simpa using hq⟩
      exact absurd (first?_eq_none.mp ht k a ha) (by simp [hpa])
    rw [hu]
    rfl
  | some r =>
    obtain ⟨k, a⟩ := r
    obtain ⟨b, hb, hqb⟩ := (h k).mp ⟨a, first?_spec ht⟩
    cases hu : u.first? q with
    | none => exact absurd (first?_eq_none.mp hu k b hb) (by simp [hqb])
    | some s =>
      obtain ⟨j, c⟩ := s
      obtain ⟨d, hd, hpd⟩ := (h j).mpr ⟨c, first?_spec hu⟩
      have hkj : k = j := le_antisymm (first?_le ht hd hpd) (first?_le hu hb hqb)
      rw [Option.map_some, Option.map_some, hkj]

theorem first?_key_congr {t u : Table α} {p : α → Bool}
    (h : ∀ k, (∃ a, t.get? k = some a ∧ p a = true) ↔ ∃ b, u.get? k = some b ∧ p b = true) :
    (t.first? p).map Prod.fst = (u.first? p).map Prod.fst := first?_keys h

/-- A rewriting that keeps the predicate keeps the first key. -/
theorem first?_modify_key {t : Table α} {p : α → Bool} {f : α → α} (k : ℕ) (hf : ∀ a, p (f a) = p a) :
    ((t.modify k f).first? p).map Prod.fst = (t.first? p).map Prod.fst := by
  refine first?_key_congr fun j => ?_
  rw [get?_modify]
  by_cases hj : j = k
  · subst hj
    rw [if_pos rfl]
    cases t.get? j with
    | none => simp
    | some a => simp [hf]
  · rw [if_neg hj]

theorem first?_modify {t : Table α} {p : α → Bool} {f : α → α} (k : ℕ) (hf : ∀ a, p (f a) = p a) :
    (t.modify k f).first? p = (t.first? p).map fun r => (r.1, if r.1 = k then f r.2 else r.2) := by
  have hkey := @first?_modify_key α t p f k hf
  cases ht : t.first? p with
  | none =>
    rw [ht, Option.map_none, Option.map_eq_none_iff] at hkey
    rw [hkey, Option.map_none]
  | some r =>
    rw [ht, Option.map_some, Option.map_eq_some_iff] at hkey
    obtain ⟨⟨j, b⟩, hb, rfl⟩ := hkey
    have hget := (first?_spec hb).1
    rw [get?_modify, (first?_spec ht).1] at hget
    rw [hb, Option.map_some]
    by_cases hj : r.1 = k
    · rw [if_pos hj] at hget ⊢
      rw [← Option.some.inj hget]
    · rw [if_neg hj] at hget ⊢
      rw [← Option.some.inj hget]

theorem first?_push_of_neg {t : Table α} {p : α → Bool} {a : α} (ha : p a = false) : (t.push a).first? p = t.first? p := by
  simp [first?, push, List.filter_append, ha]

/-- The first row that satisfies a predicate is there, behind an insert of it. -/
theorem first?_push_of_none {t : Table α} {p : α → Bool} {a : α} (h : t.first? p = none) (ha : p a = true) :
    (t.push a).first? p = some (t.freshKey, a) := by
  cases hfirst : (t.push a).first? p with
  | none =>
    have hfalse := first?_eq_none.mp hfirst t.freshKey a (by simp)
    rw [ha] at hfalse
    cases hfalse
  | some r =>
    obtain ⟨j, b⟩ := r
    obtain ⟨hget, hb⟩ := first?_spec hfirst
    rw [get?_push] at hget
    split at hget
    · next hj =>
      obtain rfl := Option.some.inj hget
      rw [hj]
    · rw [first?_eq_none.mp h j b hget] at hb
      cases hb

theorem mem_select {t : Table α} {p : α → Bool} {k : ℕ} {a : α} :
    (k, a) ∈ t.select p ↔ t.get? k = some a ∧ p a = true := by
  rw [select, List.mem_filter, get?_eq_some]

theorem select_push (t : Table α) (a : α) (p : α → Bool) :
    ((t.push a).select p).map Prod.snd = (t.select p).map Prod.snd ++ if p a then [a] else [] := by
  change ((t.rows ++ [(t.freshKey, a)]).filter fun r => p r.2).map Prod.snd = _
  rw [List.filter_append, List.map_append]
  cases hp : p a with
  | true => simp [select, hp]
  | false => simp [select, hp]

section Views
variable {β : Type} {t : Table α} {p r : α → Bool} {g : ℕ → α → β} {k : ℕ}

/-- The rows that satisfy a predicate, read as rows of another kind. -/
def view (t : Table α) (p : α → Bool) (g : ℕ → α → β) : Table β :=
  ⟨(t.rows.filter fun r => p r.2).map fun r => (r.1, g r.1 r.2), by
    have he : ((t.rows.filter fun r => p r.2).map fun r => (r.1, g r.1 r.2)).map Prod.fst =
        (t.rows.filter fun r => p r.2).map Prod.fst := by
      rw [List.map_map]
      rfl
    rw [he]
    exact t.nodup.sublist (List.filter_sublist.map _), by
    intro r hr
    obtain ⟨q, hq, rfl⟩ := List.mem_map.mp hr
    exact t.positive q (List.mem_of_mem_filter hq)⟩

theorem get?_view {b : β} : (t.view p g).get? k = some b ↔ ∃ a, t.get? k = some a ∧ p a = true ∧ g k a = b := by
  rw [get?_eq_some, view, List.mem_map]
  constructor
  · rintro ⟨⟨j, a⟩, hmem, he⟩
    obtain ⟨rfl, rfl⟩ := Prod.mk.inj he
    obtain ⟨hrow, hp⟩ := List.mem_filter.mp hmem
    exact ⟨a, get?_eq_some.mpr hrow, hp, rfl⟩
  · rintro ⟨a, ha, hp, rfl⟩
    exact ⟨(k, a), List.mem_filter.mpr ⟨get?_eq_some.mp ha, hp⟩, rfl⟩

/-- A rewritten row is seen as the rewriting of what was seen. -/
theorem view_modify {f : α → α} {h : β → β} (hp : ∀ a, p (f a) = p a) (hg : ∀ a, g k (f a) = h (g k a)) :
    (t.modify k f).view p g = (t.view p g).modify k h := by
  have hrow (r : ℕ × α) : (fun r : ℕ × α => (r.1, g r.1 r.2)) (if r.1 = k then (r.1, f r.2) else r) =
      (fun r : ℕ × β => if r.1 = k then (r.1, h r.2) else r) (r.1, g r.1 r.2) := by
    by_cases hk : r.1 = k
    · subst hk
      simp only [if_true, hg]
    · simp only [if_neg hk]
  have hkeep (r : ℕ × α) : p (if r.1 = k then (r.1, f r.2) else r).2 = p r.2 := by
    by_cases hk : r.1 = k
    · rw [if_pos hk, hp]
    · rw [if_neg hk]
  simp only [view, modify, mk.injEq, List.filter_map, List.map_map]
  rw [show (fun r : ℕ × α => p r.2) ∘ (fun r => if r.1 = k then (r.1, f r.2) else r) = fun r => p r.2 from funext hkeep]
  exact List.map_congr_left fun r _ => hrow r

/-- The first row of a view, where its predicate reads the table behind it. -/
theorem first?_view {q : β → Bool} (hq : ∀ k a, q (g k a) = r a) :
    ((t.view p g).first? q).map Prod.fst = (t.first? fun a => p a && r a).map Prod.fst := by
  have hkey (k : ℕ) : (∃ b, (t.view p g).get? k = some b ∧ q b = true) ↔
      ∃ a, t.get? k = some a ∧ (p a && r a) = true := by
    constructor
    · rintro ⟨b, hb, hqb⟩
      obtain ⟨a, ha, hp, rfl⟩ := get?_view.mp hb
      exact ⟨a, ha, by rw [hp, ← hq k a, hqb]; rfl⟩
    · rintro ⟨a, ha, hpr⟩
      obtain ⟨hp, hr⟩ := Bool.and_eq_true_iff.mp hpr
      exact ⟨g k a, get?_view.mpr ⟨a, ha, hp, rfl⟩, (hq k a).trans hr⟩
  exact first?_keys hkey

/-- The row under a key, searched for by its key. -/
theorem find?_rows (t : Table α) (k : ℕ) : (t.rows.find? fun r => r.1 = k) = (t.get? k).map (Prod.mk k) := by
  cases hg : t.get? k with
  | none =>
    rw [Option.map_none, List.find?_eq_none]
    intro r hr hk
    obtain rfl : r.1 = k := by simpa using hk
    exact get?_eq_none.mp hg (List.mem_map_of_mem hr)
  | some a =>
    have hmem := get?_eq_some.mp hg
    cases hf : t.rows.find? fun r => r.1 = k with
    | none => exact absurd (List.find?_eq_none.mp hf _ hmem) (by simp)
    | some r =>
      obtain rfl : r.1 = k := by simpa using List.find?_some hf
      have hr := get?_eq_some.mpr (List.mem_of_find?_eq_some hf)
      rw [hg, Option.some.injEq] at hr
      rw [Option.map_some, hr]

end Views

section Differences
variable {t u v : Table α} {k : ℕ} {a : α} {P : α → Prop}

/-- The row under a key is not the same in both tables, and this is one of its versions. -/
def Differs (t u : Table α) (k : ℕ) (a : α) : Prop :=
  t.get? k ≠ u.get? k ∧ (t.get? k = some a ∨ u.get? k = some a)

theorem not_differs_self : ¬ Differs t t k a := fun h => h.1 rfl

/-- A version of a row that differs over two steps differs over one of them. -/
theorem Differs.split (h : Differs t v k a) (u : Table α) : Differs t u k a ∨ Differs u v k a := by
  obtain ⟨hne, ha⟩ := h
  by_cases htu : t.get? k = u.get? k
  · exact .inr ⟨htu ▸ hne, htu ▸ ha⟩
  · by_cases huv : u.get? k = v.get? k
    · exact .inl ⟨htu, huv ▸ ha⟩
    · exact ha.imp (fun ha => ⟨htu, .inl ha⟩) (fun ha => ⟨huv, .inr ha⟩)

/-- A change that touches only rows with a property and leaves them with it. -/
def Confined (P : α → Prop) (t : Table α) : Change α → Prop
  | .insert a => P a
  | .update k f => (∀ a, P a → P (f a)) ∧ ∀ a, t.get? k = some a → P a
  | .delete k => ∀ a, t.get? k = some a → P a

theorem Confined.differs {c : Change α} (hc : Confined P t c) (h : Differs t (t.change c) k a) : P a := by
  obtain ⟨hne, ha⟩ := h
  cases c with
  | insert b =>
    simp only [change, get?_push] at hne ha
    split at hne
    · next hk =>
      subst hk
      simp only [get?_freshKey, if_true, reduceCtorEq, false_or, Option.some.injEq] at ha
      exact ha ▸ hc
    · exact absurd rfl hne
  | update j f =>
    simp only [change, get?_modify] at hne ha
    split at hne
    · next hk =>
      subst hk
      rw [if_pos rfl] at ha
      rcases ha with ha | ha
      · exact hc.2 a ha
      · obtain ⟨b, hb, rfl⟩ := Option.map_eq_some_iff.mp ha
        exact hc.1 b (hc.2 b hb)
    · exact absurd rfl hne
  | delete j =>
    simp only [change, get?_erase] at hne ha
    split at hne
    · next hk =>
      subst hk
      simp only [if_true, reduceCtorEq, or_false] at ha
      exact hc a ha
    · exact absurd rfl hne

private theorem row_of_confined {c : Change α} (hc : Confined P t c) (h : (t.change c).get? k = some a)
    (ht : ∀ b, t.get? k = some b → P b) : P a := by
  by_cases he : t.get? k = (t.change c).get? k
  · exact ht a (he.trans h)
  · exact hc.differs ⟨he, .inr h⟩

/-- Confined changes stay confined behind one another. -/
theorem Confined.change {c d : Change α} (hd : Confined P t d) (hc : Confined P t c) :
    Confined P (t.change c) d := by
  cases d with
  | insert b => exact hd
  | update j f => exact ⟨hd.1, fun a ha => row_of_confined hc ha hd.2⟩
  | delete j => exact fun a ha => row_of_confined hc ha hd

end Differences

section Totals
variable {M : Type} [AddCommGroup M]

@[simp] theorem total_empty (w : α → M) : (empty : Table α).total w = 0 := rfl

@[simp] theorem total_push (t : Table α) (a : α) (w : α → M) :
    (t.push a).total w = t.total w + w a := by
  simp [total, push]

private theorem sum_modify {l : List (ℕ × α)} (hl : (l.map Prod.fst).Nodup) (k : ℕ) (a : α)
    (h : (k, a) ∈ l) (f : α → α) (w : α → M) :
    ((l.map (fun r => if r.1 = k then (r.1, f r.2) else r)).map (fun r => w r.2)).sum =
      (l.map (fun r => w r.2)).sum - w a + w (f a) := by
  induction l with
  | nil => simp at h
  | cons r l ih =>
    obtain ⟨j, b⟩ := r
    rw [List.map_cons, List.nodup_cons] at hl
    simp only [List.map_cons, List.sum_cons]
    rcases List.mem_cons.mp h with he | hm
    · obtain ⟨rfl, rfl⟩ := Prod.mk.inj he
      have hrest : l.map (fun r => if r.1 = k then (r.1, f r.2) else r) = l := by
        refine (List.map_congr_left ?_).trans (List.map_id _)
        intro r hr
        rw [if_neg]
        · rfl
        · rintro rfl
          exact hl.1 (List.mem_map.mpr ⟨r, hr, rfl⟩)
      rw [hrest, if_pos rfl]
      abel
    · have hj : j ≠ k := by
        rintro rfl
        exact hl.1 (List.mem_map.mpr ⟨(j, a), hm, rfl⟩)
      rw [if_neg hj, ih hl.2 hm]
      abel

theorem total_modify {t : Table α} {k : ℕ} {a : α} (h : t.get? k = some a) (f : α → α)
    (w : α → M) : (t.modify k f).total w = t.total w - w a + w (f a) :=
  sum_modify t.nodup k a (get?_eq_some.mp h) f w

private theorem sum_erase {l : List (ℕ × α)} (hl : (l.map Prod.fst).Nodup) (k : ℕ) (a : α)
    (h : (k, a) ∈ l) (w : α → M) :
    ((l.filter (fun r => r.1 ≠ k)).map (fun r => w r.2)).sum =
      (l.map (fun r => w r.2)).sum - w a := by
  induction l with
  | nil => simp at h
  | cons r l ih =>
    obtain ⟨j, b⟩ := r
    rw [List.map_cons, List.nodup_cons] at hl
    rcases List.mem_cons.mp h with he | hm
    · obtain ⟨rfl, rfl⟩ := Prod.mk.inj he
      have hrest : l.filter (fun r => r.1 ≠ k) = l := by
        refine List.filter_eq_self.mpr fun r hr => ?_
        simp only [ne_eq, decide_eq_true_eq]
        rintro rfl
        exact hl.1 (List.mem_map.mpr ⟨r, hr, rfl⟩)
      rw [List.filter_cons_of_neg (by simp), hrest]
      simp
    · have hj : j ≠ k := by
        rintro rfl
        exact hl.1 (List.mem_map.mpr ⟨(j, a), hm, rfl⟩)
      rw [List.filter_cons_of_pos (by simpa using hj)]
      simp only [List.map_cons, List.sum_cons]
      rw [ih hl.2 hm]
      abel

theorem total_erase {t : Table α} {k : ℕ} {a : α} (h : t.get? k = some a) (w : α → M) :
    (t.erase k).total w = t.total w - w a :=
  sum_erase t.nodup k a (get?_eq_some.mp h) w

private theorem sum_filter (l : List (ℕ × α)) (p : α → Bool) (w : α → M) :
    ((l.filter (fun r => p r.2)).map (fun r => w r.2)).sum =
      (l.map (fun r => if p r.2 then w r.2 else 0)).sum := by
  induction l with
  | nil => rfl
  | cons r l ih =>
    rw [List.map_cons, List.sum_cons, ← ih]
    cases hp : p r.2 with
    | true => simp [hp]
    | false => simp [hp]

theorem total_keep (t : Table α) (p : α → Bool) (w : α → M) :
    (t.keep p).total w = t.total (fun a => if p a then w a else 0) := sum_filter t.rows p w

theorem total_congr {t : Table α} {v w : α → M}
    (h : ∀ k a, t.get? k = some a → v a = w a) : t.total v = t.total w := by
  apply congrArg List.sum
  apply List.map_congr_left
  rintro ⟨k, a⟩ hr
  exact h k a (get?_eq_some.mpr hr)

end Totals

end Table

end FinancialOs.Library
