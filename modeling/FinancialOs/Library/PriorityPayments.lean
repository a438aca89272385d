import Mathlib.Algebra.BigOperators.Ring.List
import Mathlib.Algebra.Order.BigOperators.Group.List
import Mathlib.Algebra.Order.Field.Basic
import Mathlib.Tactic.Linarith
import Mathlib.Tactic.Ring

/-! Balances that bear interest and are paid off in an order of priority: where the order goes by the rate, the
balances bear no more interest than any others whose total is no smaller. -/
namespace FinancialOs.Library
variable {ι K : Type} [Field K] [LinearOrder K] [IsStrictOrderedRing K]
variable {l : List ι} {rate due x x' y y' z : ι → K} {money : K}

/-- Money spent on balances in their order, on each as far as it goes. -/
def spend : K → List K → List K
  | _, [] => []
  | money, b :: bs => max 0 (b - money) :: spend (max 0 (money - b)) bs

theorem spend_zero {bs : List K} (h : ∀ b ∈ bs, 0 ≤ b) : spend 0 bs = bs := by
  induction bs with
  | nil => rfl
  | cons b bs ih =>
    obtain ⟨hb, hbs⟩ := List.forall_mem_cons.mp h
    rw [spend, sub_zero, zero_sub, max_eq_right hb, max_eq_left (neg_nonpos.mpr hb), ih hbs]

theorem sum_spend {bs : List K} (hm : 0 ≤ money) (h : ∀ b ∈ bs, 0 ≤ b) :
    (spend money bs).sum = max 0 (bs.sum - money) := by
  induction bs generalizing money with
  | nil => rw [spend, List.sum_nil, zero_sub, max_eq_left (neg_nonpos.mpr hm)]
  | cons b bs ih =>
    obtain ⟨hb, hbs⟩ := List.forall_mem_cons.mp h
    have hsum : 0 ≤ bs.sum := List.sum_nonneg hbs
    rw [spend, List.sum_cons, List.sum_cons, ih (le_max_left _ _) hbs]
    rcases le_total b money with hle | hle
    · rw [max_eq_left (sub_nonpos.mpr hle), max_eq_right (sub_nonneg.mpr hle), zero_add]
      congr 1
      ring
    · rw [max_eq_right (sub_nonneg.mpr hle), max_eq_left (sub_nonpos.mpr hle), sub_zero, max_eq_right hsum,
        max_eq_right (by linarith)]
      ring

theorem spend_le (hm : 0 ≤ money) (hz : ∀ i ∈ l, 0 ≤ z i) (h : l.map x = spend money (l.map z)) :
    ∀ i ∈ l, 0 ≤ x i ∧ x i ≤ z i := by
  induction l generalizing money with
  | nil => exact fun i hi => (List.not_mem_nil hi).elim
  | cons a l ih =>
    obtain ⟨ha, hl⟩ := List.forall_mem_cons.mp hz
    rw [List.map_cons, List.map_cons, spend, List.cons.injEq] at h
    refine List.forall_mem_cons.mpr ⟨⟨?_, ?_⟩, ih (le_max_left _ _) hl h.2⟩
    · rw [h.1]
      exact le_max_left _ _
    · rw [h.1]
      exact max_le ha (sub_le_self _ hm)

/-- Behind a balance that is not paid off nothing is spent. -/
theorem spend_behind (hz : ∀ i ∈ l, 0 ≤ z i) (h : l.map x = spend money (l.map z)) :
    l.Pairwise fun i k => x i ≤ 0 ∨ x k = z k := by
  induction l generalizing money with
  | nil => exact .nil
  | cons a l ih =>
    obtain ⟨ha, hl⟩ := List.forall_mem_cons.mp hz
    rw [List.map_cons, List.map_cons, spend, List.cons.injEq] at h
    refine .cons ?_ (ih hl h.2)
    intro k hk
    rcases le_or_gt (z a) money with hle | hlt
    · exact .inl (by rw [h.1, max_eq_left (sub_nonpos.mpr hle)])
    · have hrest : l.map x = l.map z := by
        rw [h.2, max_eq_left (sub_nonpos.mpr hlt.le)]
        exact spend_zero (List.forall_mem_map.mpr hl)
      exact .inr (List.map_inj_left.mp hrest k hk)

/-- Weights that fall, on values that change their sign from minus to plus once. -/
theorem sum_weighted_le {f weight : ι → K} {bound total : K} (hsorted : l.Pairwise fun i k => weight k ≤ weight i)
    (hbound : 0 ≤ bound) (hweight : ∀ i ∈ l, 0 ≤ weight i ∧ weight i ≤ bound)
    (hsign : l.Pairwise fun i k => f i ≤ 0 ∨ 0 ≤ f k) (htotal : 0 ≤ total) (hsum : (l.map f).sum ≤ total) :
    (l.map fun i => weight i * f i).sum ≤ bound * total := by
  induction l generalizing bound total with
  | nil => exact mul_nonneg hbound htotal
  | cons a l ih =>
    obtain ⟨hfall, hsorted⟩ := List.pairwise_cons.mp hsorted
    obtain ⟨hsigna, hsign⟩ := List.pairwise_cons.mp hsign
    obtain ⟨⟨ha, hle⟩, hweight⟩ := List.forall_mem_cons.mp hweight
    rw [List.map_cons, List.sum_cons] at hsum ⊢
    have hbounded : weight a * total ≤ bound * total := mul_le_mul_of_nonneg_right hle htotal
    refine le_trans ?_ hbounded
    rcases le_or_gt (f a) 0 with hneg | hpos
    · have hrest := ih hsorted ha (fun i hi => ⟨(hweight i hi).1, hfall i hi⟩) hsign
        (sub_nonneg.mpr (hneg.trans htotal)) (le_sub_iff_add_le'.mpr hsum)
      linarith [mul_sub (weight a) total (f a)]
    · have hf : ∀ k ∈ l, 0 ≤ f k := fun k hk => (hsigna k hk).resolve_left hpos.not_ge
      have hrest : (l.map fun i => weight i * f i).sum ≤ weight a * (l.map f).sum := by
        rw [← List.sum_map_mul_left]
        exact List.sum_le_sum fun k hk => mul_le_mul_of_nonneg_right (hfall k hk) (hf k hk)
      calc weight a * f a + (l.map fun i => weight i * f i).sum
          ≤ weight a * f a + weight a * (l.map f).sum := by linarith
        _ = weight a * (f a + (l.map f).sum) := (mul_add _ _ _).symm
        _ ≤ weight a * total := mul_le_mul_of_nonneg_left hsum ha

/-- The balances `x` are ahead of `y`: their total is no larger, and of each that is not paid off, those behind it
in the order are no smaller. -/
structure Ahead (l : List ι) (x y : ι → K) : Prop where
  total : (l.map x).sum ≤ (l.map y).sum
  behind : l.Pairwise fun i k => x i ≤ 0 ∨ y k ≤ x k

/-- Ahead in the order of the rates, balances bear no more interest. -/
theorem Ahead.interest (h : Ahead l x y) (hsorted : l.Pairwise fun i k => rate k ≤ rate i)
    (hrate : ∀ i ∈ l, 0 ≤ rate i) (hy : ∀ i ∈ l, 0 ≤ y i) :
    (l.map fun i => rate i * x i).sum ≤ (l.map fun i => rate i * y i).sum := by
  have hbound : ∀ i ∈ l, 0 ≤ rate i ∧ rate i ≤ (l.map rate).sum := fun i hi =>
    ⟨hrate i hi, List.single_le_sum (List.forall_mem_map.mpr hrate) _ (List.mem_map_of_mem hi)⟩
  have hsign : l.Pairwise fun i k => x i - y i ≤ 0 ∨ 0 ≤ x k - y k := by
    refine h.behind.imp_of_mem ?_
    intro i k hi hk hik
    exact hik.imp (fun hx => sub_nonpos.mpr (hx.trans (hy i hi))) sub_nonneg.mpr
  have hsplit (f g : ι → K) : (l.map f).sum = (l.map g).sum + (l.map fun i => f i - g i).sum := by
    rw [← List.sum_map_add]
    simp only [add_sub_cancel]
  have hsum : (l.map fun i => x i - y i).sum ≤ 0 := by
    have htotal := h.total
    rw [hsplit x y] at htotal
    exact nonpos_of_add_le_right htotal
  have hweighted := sum_weighted_le hsorted (List.sum_nonneg (List.forall_mem_map.mpr hrate)) hbound hsign le_rfl hsum
  simp only [mul_sub, mul_zero] at hweighted
  rw [hsplit (fun i => rate i * x i) (fun i => rate i * y i)]
  exact add_le_of_nonpos_right hweighted

theorem Ahead.accrue (h : Ahead l x y) (hsorted : l.Pairwise fun i k => rate k ≤ rate i)
    (hrate : ∀ i ∈ l, 0 ≤ rate i) (hy : ∀ i ∈ l, 0 ≤ y i) :
    Ahead l (fun i => x i + rate i * x i) (fun i => y i + rate i * y i) := by
  constructor
  · rw [List.sum_map_add, List.sum_map_add]
    exact add_le_add h.total (h.interest hsorted hrate hy)
  · refine h.behind.imp_of_mem ?_
    intro i k hi hk hik
    refine hik.imp (fun hx => ?_) (fun hle => ?_)
    · exact add_nonpos hx (mul_nonpos_of_nonneg_of_nonpos (hrate i hi) hx)
    · exact add_le_add hle (mul_le_mul_of_nonneg_left hle (hrate k hk))

/-- What is due is paid on each, and more in the order of priority: as long as the total stays no larger, the
balances stay ahead, however the others are paid. -/
theorem Ahead.pay (h : Ahead l x y) (hdue : ∀ i ∈ l, 0 ≤ due i) (hm : 0 ≤ money)
    (hx : l.map x' = spend money (l.map fun i => max 0 (x i - due i)))
    (hy : ∀ i ∈ l, y' i ≤ max 0 (y i - due i)) (htotal : (l.map x').sum ≤ (l.map y').sum) : Ahead l x' y' := by
  have hz : ∀ i ∈ l, 0 ≤ max 0 (x i - due i) := fun i _ => le_max_left _ _
  refine ⟨htotal, ?_⟩
  refine (h.behind.and (spend_behind hz hx)).imp_of_mem ?_
  rintro i k hi hk ⟨hik, hik'⟩
  rcases hik with hclosed | hle
  · refine .inl ((spend_le hm hz hx i hi).2.trans ?_)
    exact max_le le_rfl (sub_nonpos.mpr (hclosed.trans (hdue i hi)))
  · rcases hik' with hclosed' | heq
    · exact .inl hclosed'
    · rw [heq]
      exact .inr ((hy k hk).trans (max_le_max le_rfl (sub_le_sub_right hle _)))

end FinancialOs.Library
