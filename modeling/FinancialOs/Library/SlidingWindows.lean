import Mathlib.Data.List.Basic
import Mathlib.Data.Int.Order.Basic
import Mathlib.Order.Lattice

/-! Requests in time and the windows that end at them: the ones that lie in a window, and the two ways to hold
them to a limit, by all that were made or by those that were let through. -/
namespace FinancialOs.Library.SlidingWindows
variable {T : Type} [LinearOrder T]

/-- The instants from a bound on. -/
def since (bound : T) (l : List T) : List T := l.filter fun x => bound ≤ x

section Since
variable {b c : T} {l m : List T}

theorem since_append : since b (l ++ m) = since b l ++ since b m := List.filter_append l m

/-- What an earlier window has dropped is not in a later one. -/
theorem since_since (h : b ≤ c) : since c (since b l) = since c l := by
  rw [since, since, List.filter_filter]
  refine List.filter_congr fun x _ => ?_
  by_cases hx : c ≤ x
  · simp [hx, h.trans hx]
  · simp [hx]

theorem length_since_le : (since b l).length ≤ l.length := List.length_filter_le _ l

theorem since_sublist (h : l.Sublist m) : (since b l).Sublist (since b m) := h.filter _

/-- In order of time the expired instants stand in front. -/
theorem dropWhile_eq_since (h : l.Pairwise (· ≤ ·)) : l.dropWhile (fun x => x < b) = since b l := by
  induction l with
  | nil => rfl
  | cons a l ih =>
    obtain ⟨ha, hl⟩ := List.pairwise_cons.mp h
    by_cases hab : a < b
    · rw [List.dropWhile_cons, if_pos (decide_eq_true hab), ih hl, since, since,
        List.filter_cons_of_neg (by simpa using hab)]
    · rw [List.dropWhile_cons, if_neg (by simpa using hab), since, List.filter_eq_self.mpr]
      intro x hx
      rcases List.mem_cons.mp hx with rfl | hx
      · exact decide_eq_true (not_lt.mp hab)
      · exact decide_eq_true ((not_lt.mp hab).trans (ha x hx))

theorem pairwise_since (h : l.Pairwise (· ≤ ·)) : (since b l).Pairwise (· ≤ ·) := h.sublist List.filter_sublist

end Since

section Policies
variable (start : T → T) (limit : ℤ)

/-- The requests in the window that ends at one, itself among them. -/
def demand (past : List T) (t : T) : ℕ := (since (start t) (past ++ [t])).length

/-- The requests that fit into their windows, whatever became of the others. -/
def fitting : List T → List T → List T
  | _, [] => []
  | past, t :: ts => (if (demand start past t : ℤ) ≤ limit then [t] else []) ++ fitting (past ++ [t]) ts

/-- A request is let through unless its window holds too many requests. -/
def admitAll : List T → List T → List Bool
  | _, [] => []
  | past, t :: ts => decide ((demand start past t : ℤ) ≤ limit) :: admitAll (past ++ [t]) ts

/-- A request is let through while its window holds fewer than the limit of those that were. -/
def admitted : List T → List T → List Bool
  | _, [] => []
  | accepted, t :: ts =>
    if ((since (start t) accepted).length : ℤ) < limit then true :: admitted (accepted ++ [t]) ts
    else false :: admitted accepted ts

/-- A request fits exactly when its window is not full of fitting ones. -/
def Settled (past accepted ts : List T) : Prop :=
  ∀ before t after, ts = before ++ t :: after →
    ((demand start (past ++ before) t : ℤ) ≤ limit ↔
      ((since (start t) (accepted ++ fitting start limit past before)).length : ℤ) < limit)

variable {start limit} {past accepted ts : List T} {t : T}

theorem settled_cons : Settled start limit past accepted (t :: ts) ↔
    ((demand start past t : ℤ) ≤ limit ↔ ((since (start t) accepted).length : ℤ) < limit) ∧
      Settled start limit (past ++ [t])
        (accepted ++ if (demand start past t : ℤ) ≤ limit then [t] else []) ts := by
  constructor
  · intro h
    refine ⟨?_, fun before u after hts => ?_⟩
    · have hfirst := h [] t ts rfl
      rwa [List.append_nil, fitting, List.append_nil] at hfirst
    · have hlater := h (t :: before) u after (by rw [hts]; rfl)
      rw [fitting, ← List.append_assoc, List.append_cons] at hlater
      exact hlater
  · rintro ⟨hfirst, hlater⟩ before u after hts
    cases before with
    | nil =>
      obtain ⟨rfl, rfl⟩ := List.cons.inj hts
      rwa [List.append_nil, fitting, List.append_nil]
    | cons a before =>
      obtain ⟨rfl, hrestEq⟩ := List.cons.inj hts
      have hrest := hlater before u after hrestEq
      rw [fitting, ← List.append_assoc, List.append_cons]
      exact hrest

/-- The two policies let the same requests through exactly when every one is settled. -/
theorem admitted_eq_admitAll_iff :
    admitted start limit accepted ts = admitAll start limit past ts ↔ Settled start limit past accepted ts := by
  induction ts generalizing past accepted with
  | nil =>
    refine iff_of_true rfl fun before t after h => ?_
    cases before with
    | nil => cases h
    | cons => cases h
  | cons t ts ih =>
    rw [settled_cons, admitAll, admitted]
    by_cases hfit : (demand start past t : ℤ) ≤ limit
    · by_cases hroom : ((since (start t) accepted).length : ℤ) < limit
      · rw [if_pos hroom, if_pos hfit, decide_eq_true hfit, List.cons_inj_right, ih, and_iff_right (iff_of_true hfit hroom)]
      · rw [if_neg hroom, decide_eq_true hfit]
        exact iff_of_false (fun h => by cases h) fun h => hroom (h.1.mp hfit)
    · by_cases hroom : ((since (start t) accepted).length : ℤ) < limit
      · rw [if_pos hroom, decide_eq_false hfit]
        exact iff_of_false (fun h => by cases h) fun h => hfit (h.1.mpr hroom)
      · rw [if_neg hroom, if_neg hfit, decide_eq_false hfit, List.append_nil, List.cons_inj_right, ih,
          and_iff_right (iff_of_false hfit hroom)]

theorem fitting_sublist : (fitting start limit past ts).Sublist ts := by
  induction ts generalizing past with
  | nil => exact List.Sublist.slnil
  | cons t ts ih =>
    rw [fitting]
    split
    · exact ih.cons_cons t
    · exact ih.cons t

/-- A request that fits leaves room for itself among the fitting ones, if its window holds it. -/
theorem room_of_demand (ht : start t ≤ t) (h : (demand start past t : ℤ) ≤ limit) :
    ((since (start t) (fitting start limit [] past)).length : ℤ) < limit := by
  have hfits : (fitting start limit [] past).Sublist past := fitting_sublist
  have hle : (since (start t) (fitting start limit [] past)).length ≤ (since (start t) past).length :=
    (since_sublist hfits).length_le
  have hone : since (start t) [t] = [t] := List.filter_eq_self.mpr fun x hx => by
    rw [List.mem_singleton.mp hx]
    exact decide_eq_true ht
  rw [demand, since_append, hone, List.length_append, List.length_singleton] at h
  omega

/-- The instants that were let through, of requests with their verdicts. -/
def passed (judged : List (T × Bool)) : List T := (judged.filter Prod.snd).map Prod.fst

/-- However a stretch of time lies, the window of every instant in it reaches back to its beginning, so that
no more are let through in it than in one window. -/
theorem passed_within {a b : T} (hwin : ∀ t, a ≤ t → t ≤ b → start t ≤ a)
    (hpast : (accepted.filter fun x => a ≤ x ∧ x ≤ b).length ≤ limit.toNat) :
    ((accepted ++ passed (ts.zip (admitted start limit accepted ts))).filter fun x => a ≤ x ∧ x ≤ b).length ≤
      limit.toNat := by
  induction ts generalizing accepted with
  | nil => simpa [passed] using hpast
  | cons t ts ih =>
    rw [admitted]
    split
    · next hroom =>
      rw [List.zip_cons_cons, passed, List.filter_cons_of_pos rfl, List.map_cons, List.append_cons]
      apply ih
      rw [List.filter_append, List.length_append]
      by_cases ht : a ≤ t ∧ t ≤ b
      · have hsub : (accepted.filter fun x => a ≤ x ∧ x ≤ b).length ≤ (since (start t) accepted).length := by
          refine (List.monotone_filter_right accepted fun x hx => ?_).length_le
          exact decide_eq_true ((hwin t ht.1 ht.2).trans (of_decide_eq_true hx).1)
        have hone : ([t].filter fun x => a ≤ x ∧ x ≤ b) = [t] := by simp [ht]
        rw [hone, List.length_singleton]
        omega
      · have hnone : ([t].filter fun x => a ≤ x ∧ x ≤ b) = [] := by simp [ht]
        rw [hnone, List.length_nil, Nat.add_zero]
        exact hpast
    · rw [List.zip_cons_cons, passed, List.filter_cons_of_neg Bool.false_ne_true]
      exact ih hpast

/-- A refused request finds its window full. -/
theorem full_of_refused {before after : List (T × Bool)}
    (h : ts.zip (admitted start limit accepted ts) = before ++ (t, false) :: after) :
    limit.toNat ≤ (since (start t) (accepted ++ passed before)).length := by
  induction ts generalizing accepted before with
  | nil => cases before <;> cases h
  | cons u ts ih =>
    rw [admitted] at h
    split at h
    · next hroom =>
      cases before with
      | nil => cases h
      | cons p before =>
        obtain ⟨rfl, hrest⟩ := List.cons.inj h
        have hlater := ih hrest
        rwa [List.append_assoc] at hlater
    · next hroom =>
      cases before with
      | nil =>
        obtain ⟨rfl, -⟩ := Prod.mk.inj (List.cons.inj h).1
        rw [passed, List.filter_nil, List.map_nil, List.append_nil]
        omega
      | cons p before =>
        obtain ⟨rfl, hrest⟩ := List.cons.inj h
        rw [passed, List.filter_cons_of_neg Bool.false_ne_true]
        exact ih hrest

end Policies

end FinancialOs.Library.SlidingWindows
