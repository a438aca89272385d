import Mathlib.Algebra.BigOperators.Group.List.Basic
import Mathlib.Algebra.Order.BigOperators.Group.List
import Mathlib.Algebra.Ring.Nat

/-! The front of a list that fits into a budget: the first element that does not fit ends it. -/
namespace FinancialOs.Library

section
variable {α β : Type*} (cost : α → ℕ) (budget : ℕ)

/-- The elements that fit into what the budget has left; the first that does not ends the front. -/
def fittingFront (used : ℕ) : List α → List α
  | [] => []
  | a :: rest => if budget < used + cost a then [] else a :: fittingFront (used + cost a) rest

/-- The longest front of the list that stays within the budget; where not even the empty one does it is empty. -/
structure LongestFitting (used : ℕ) (l shown : List α) : Prop where
  front : shown <+: l
  fits : shown = [] ∨ used + (shown.map cost).sum ≤ budget
  longest : ∀ q, q <+: l → used + (q.map cost).sum ≤ budget → q.length ≤ shown.length

/-- Whether the first `n` elements and the first `n` of those with a property fit as far: the elements without the
property are behind the first `n`, or the first one of them and the one that takes its place are both too much. -/
def Undisturbed (used : ℕ) (p : α → Bool) (n : ℕ) (l : List α) : Prop :=
  (∀ a ∈ l.take n, p a = true) ∨ n ≤ (l.filter p).length ∧
    ∃ front x gap y rest, l = front ++ x :: (gap ++ y :: rest) ∧ (∀ a ∈ front, p a = true) ∧ p x = false ∧
      (∀ a ∈ gap, p a = false) ∧ p y = true ∧ budget < used + (front.map cost).sum + cost x ∧
      budget < used + (front.map cost).sum + cost y

variable {cost budget} {used : ℕ} {l : List α}

theorem fittingFront_front : fittingFront cost budget used l <+: l := by
  induction l generalizing used with
  | nil => exact List.nil_prefix
  | cons a rest ih =>
    rw [fittingFront]
    split
    · exact List.nil_prefix
    · exact List.cons_prefix_cons.mpr ⟨rfl, ih⟩

theorem fittingFront_fits : fittingFront cost budget used l = [] ∨
    used + ((fittingFront cost budget used l).map cost).sum ≤ budget := by
  induction l generalizing used with
  | nil => exact .inl rfl
  | cons a rest ih =>
    rw [fittingFront]
    split
    · exact .inl rfl
    · right
      rw [List.map_cons, List.sum_cons]
      rcases @ih (used + cost a) with h | h
      · rw [h]
        simp only [List.map_nil, List.sum_nil]
        omega
      · omega

/-- What fits in front of something is taken before it. -/
theorem fittingFront_append {front : List α} (h : used + (front.map cost).sum ≤ budget) :
    fittingFront cost budget used (front ++ l) =
      front ++ fittingFront cost budget (used + (front.map cost).sum) l := by
  induction front generalizing used with
  | nil => rfl
  | cons a front ih =>
    rw [List.map_cons, List.sum_cons] at h ⊢
    rw [List.cons_append, fittingFront, if_neg (by omega), @ih (used + cost a) (by omega), Nat.add_assoc, List.cons_append]

/-- What does not fit behind a front ends it. -/
theorem fittingFront_append_cons {front : List α} {x : α} (h : budget < used + (front.map cost).sum + cost x) :
    fittingFront cost budget used (front ++ x :: l) = fittingFront cost budget used front := by
  induction front generalizing used with
  | nil =>
    rw [List.nil_append, fittingFront, fittingFront, if_pos (by simpa using h)]
  | cons a front ih =>
    rw [List.map_cons, List.sum_cons] at h
    rw [List.cons_append, fittingFront, fittingFront, @ih (used + cost a) (by omega)]

theorem length_le_fittingFront {q : List α} (hq : q <+: l) (h : used + (q.map cost).sum ≤ budget) :
    q.length ≤ (fittingFront cost budget used l).length := by
  obtain ⟨rest, rfl⟩ := hq
  rw [fittingFront_append h, List.length_append]
  exact Nat.le_add_right _ _

/-- There is one longest front, and it is the one that is taken. -/
theorem longestFitting_iff {shown : List α} :
    LongestFitting cost budget used l shown ↔ shown = fittingFront cost budget used l := by
  constructor
  · intro h
    have hle : shown.length ≤ (fittingFront cost budget used l).length := by
      rcases h.fits with rfl | hfits
      · exact Nat.zero_le _
      · exact length_le_fittingFront h.front hfits
    have hge : (fittingFront cost budget used l).length ≤ shown.length := by
      rcases @fittingFront_fits _ cost budget used l with hempty | hfits
      · rw [hempty]
        exact Nat.zero_le _
      · exact h.longest _ fittingFront_front hfits
    exact (List.prefix_of_prefix_length_le h.front fittingFront_front hle).eq_of_length (le_antisymm hle hge)
  · rintro rfl
    exact ⟨fittingFront_front, fittingFront_fits, fun q hq hfits => length_le_fittingFront hq hfits⟩

theorem fittingFront_map {cost' : β → ℕ} {f : α → β} (h : ∀ a, cost' (f a) = cost a) :
    fittingFront cost' budget used (l.map f) = (fittingFront cost budget used l).map f := by
  induction l generalizing used with
  | nil => rfl
  | cons a rest ih =>
    rw [List.map_cons, fittingFront, fittingFront, h]
    split
    · rfl
    · rw [ih, List.map_cons]

theorem take_append_cons {front rest : List α} {x : α} {n : ℕ} (h : front.length < n) :
    (front ++ x :: rest).take n = front ++ x :: rest.take (n - front.length - 1) := by
  obtain ⟨k, hk⟩ := Nat.exists_eq_add_of_lt h
  rw [List.take_append, List.take_of_length_le h.le, hk, show front.length + k + 1 - front.length = k + 1 by omega,
    List.take_succ_cons, Nat.add_sub_cancel]

/-- A list with an element that lacks a property, cut in front of the first one. -/
theorem exists_first_without {p : α → Bool} {a : α} (ha : a ∈ l) (hp : p a = false) :
    ∃ front x rest, l = front ++ x :: rest ∧ (∀ b ∈ front, p b = true) ∧ p x = false := by
  induction l with
  | nil => cases ha
  | cons b l ih =>
    cases hb : p b with
    | false => exact ⟨[], b, l, rfl, by simp, hb⟩
    | true =>
      rcases List.mem_cons.mp ha with rfl | ha
      · rw [hp] at hb
        cases hb
      · obtain ⟨front, x, rest, rfl, hfront, hx⟩ := ih ha
        exact ⟨b :: front, x, rest, rfl, List.forall_mem_cons.mpr ⟨hb, hfront⟩, hx⟩

theorem mem_fittingFront {front : List α} {x : α} (h : used + (front.map cost).sum + cost x ≤ budget) :
    x ∈ fittingFront cost budget used (front ++ x :: l) := by
  rw [fittingFront_append (by omega), fittingFront, if_neg (by omega)]
  exact List.mem_append_right _ List.mem_cons_self

section Filtered
variable {p : α → Bool} {n : ℕ} {front gap rest : List α} {x y : α}

theorem filter_append_cons_of_neg (hfront : ∀ a ∈ front, p a = true) (hx : p x = false) :
    (front ++ x :: rest).filter p = front ++ rest.filter p := by
  rw [List.filter_append, List.filter_eq_self.mpr hfront, List.filter_cons_of_neg (by simp [hx])]

theorem filter_append_cons_of_pos (hgap : ∀ a ∈ gap, p a = false) (hy : p y = true) :
    (gap ++ y :: rest).filter p = y :: rest.filter p := by
  rw [List.filter_append, List.filter_eq_nil_iff.mpr (by simpa using hgap), List.nil_append, List.filter_cons_of_pos hy]

/-- If the first `n` elements have the property, they are the first `n` of those that have it. -/
theorem take_filter_of_forall (h : ∀ a ∈ l.take n, p a = true) : (l.filter p).take n = l.take n := by
  have hsplit : l.filter p = l.take n ++ (l.drop n).filter p := by
    conv_lhs => rw [← List.take_append_drop n l]
    rw [List.filter_append, List.filter_eq_self.mpr h]
  rw [hsplit]
  by_cases hn : n ≤ l.length
  · exact List.take_left' (List.length_take_of_le hn)
  · rw [List.drop_eq_nil_of_le (by omega), List.filter_nil, List.append_nil, List.take_take, Nat.min_self]

/-- Both the first element without the property and the one that takes its place are too much. -/
theorem fittingFront_take_filter (hfront : ∀ a ∈ front, p a = true) (hx : p x = false) (hgap : ∀ a ∈ gap, p a = false)
    (hy : p y = true) (hxcost : budget < used + (front.map cost).sum + cost x)
    (hycost : budget < used + (front.map cost).sum + cost y) :
    fittingFront cost budget used ((front ++ x :: (gap ++ y :: rest)).take n) =
      fittingFront cost budget used (((front ++ x :: (gap ++ y :: rest)).filter p).take n) := by
  by_cases hn : front.length < n
  · rw [filter_append_cons_of_neg hfront hx, filter_append_cons_of_pos hgap hy, take_append_cons hn, take_append_cons hn,
      fittingFront_append_cons hxcost, fittingFront_append_cons hycost]
  · rw [take_filter_of_forall]
    intro a ha
    rw [List.take_append_of_le_length (by omega)] at ha
    exact hfront a (List.mem_of_mem_take ha)

/-- The first `n` elements show what the first `n` with a property show, and as many are left out, exactly if they are
undisturbed by the others. -/
theorem fittingFront_take_iff : fittingFront cost budget used (l.take n) = fittingFront cost budget used ((l.filter p).take n) ∧
    (l.take n).length = ((l.filter p).take n).length ↔ Undisturbed cost budget used p n l := by
  constructor
  · rintro ⟨hshown, hlen⟩
    by_cases hall : ∀ a ∈ l.take n, p a = true
    · exact .inl hall
    obtain ⟨a, ha, hpa⟩ : ∃ a ∈ l.take n, p a = false := by simpa using hall
    obtain ⟨front, x, rest, htake, hfront, hx⟩ := exists_first_without ha hpa
    have hn : front.length < n := by
      have hle := List.length_take_le n l
      rw [htake, List.length_append, List.length_cons] at hle
      omega
    have hl : l = front ++ x :: (rest ++ l.drop n) := by
      conv_lhs => rw [← List.take_append_drop n l, htake]
      rw [List.append_assoc, List.cons_append]
    generalize rest ++ l.drop n = behind at hl
    subst hl
    have hfilter := @filter_append_cons_of_neg _ p _ behind _ hfront hx
    have hmore : n ≤ ((front ++ x :: behind).filter p).length := by
      have hbehind := List.length_filter_le p behind
      rw [List.length_take, List.length_take, hfilter, List.length_append, List.length_append, List.length_cons] at hlen
      rw [hfilter, List.length_append]
      omega
    obtain ⟨b, hb, hpb⟩ : ∃ b ∈ behind, p b = true := by
      by_contra hnone
      push Not at hnone
      rw [hfilter, List.filter_eq_nil_iff.mpr hnone, List.append_nil] at hmore
      omega
    obtain ⟨gap, y, rest, rfl, hgap, hy⟩ := @exists_first_without _ _ (fun a => !p a) _ hb (by simp [hpb])
    have hgap : ∀ a ∈ gap, p a = false := by simpa using hgap
    have hy : p y = true := by simpa using hy
    rw [take_append_cons hn, hfilter, filter_append_cons_of_pos hgap hy, take_append_cons hn] at hshown
    have hxcost : budget < used + (front.map cost).sum + cost x := by
      by_contra hfits
      have hmem : x ∈ fittingFront cost budget used (front ++ y :: (rest.filter p).take (n - front.length - 1)) :=
        hshown ▸ mem_fittingFront (not_lt.mp hfits)
      have hpx : p x = true := by
        rcases List.mem_append.mp (fittingFront_front.subset hmem) with hmem | hmem
        · exact hfront x hmem
        · rcases List.mem_cons.mp hmem with rfl | hmem
          · exact hy
          · exact (List.mem_filter.mp (List.mem_of_mem_take hmem)).2
      rw [hx] at hpx
      cases hpx
    refine .inr ⟨hmore, front, x, gap, y, rest, rfl, hfront, hx, hgap, hy, hxcost, ?_⟩
    by_contra hfits
    have hlong : (front ++ [y]).length ≤
        (fittingFront cost budget used (front ++ y :: (rest.filter p).take (n - front.length - 1))).length :=
      length_le_fittingFront ⟨_, List.append_assoc _ _ _⟩ (by
        rw [List.map_append, List.sum_append, List.map_singleton, List.sum_singleton]
        omega)
    have hshort : (fittingFront cost budget used front).length ≤ front.length := fittingFront_front.length_le
    rw [← hshown, fittingFront_append_cons hxcost, List.length_append, List.length_singleton] at hlong
    omega
  · rintro (hall | ⟨hmore, front, x, gap, y, rest, rfl, hfront, hx, hgap, hy, hxcost, hycost⟩)
    · rw [take_filter_of_forall hall]
      exact ⟨rfl, rfl⟩
    · refine ⟨fittingFront_take_filter hfront hx hgap hy hxcost hycost, ?_⟩
      rw [List.length_take_of_le hmore, List.length_take_of_le (hmore.trans (List.length_filter_le _ _))]

end Filtered
end
end FinancialOs.Library
