import Mathlib.Data.List.Basic

/-! Backtracking matchers: for each way to match the front of a text what is left of it, in the order in
which the ways are tried. -/
namespace FinancialOs.Library
variable {α : Type}

abbrev Matcher (α : Type) := List α → List (List α)

namespace Matcher
variable {m n : Matcher α} {P Q : List α → Prop} {p : α → Bool} {c : α} {s r t : List α}

/-- One character that satisfies a predicate. -/
def one (p : α → Bool) : Matcher α
  | [] => []
  | c :: s => if p c then [s] else []

def seq (m n : Matcher α) : Matcher α := fun s => (m s).flatMap n

def alt (m n : Matcher α) : Matcher α := fun s => m s ++ n s

/-- Up to that many times in a row, rather more often than less. -/
def upTo : ℕ → Matcher α → Matcher α
  | 0, _ => fun s => [s]
  | k + 1, m => fun s => (m s).flatMap (upTo k m) ++ [s]

/-- Up to that many times in a row, rather less often than more. -/
def upToLazy : ℕ → Matcher α → Matcher α
  | 0, _ => fun s => [s]
  | k + 1, m => fun s => s :: (m s).flatMap (upToLazy k m)

theorem upTo_succ (k : ℕ) (m : Matcher α) (s : List α) : upTo (k + 1) m s = (m s).flatMap (upTo k m) ++ [s] := rfl

/-- Any number of times in a row; each time takes at least a character. -/
def many (m : Matcher α) : Matcher α := fun s => upTo s.length m s

/-- At least once. -/
def many1 (m : Matcher α) : Matcher α := seq m (many m)

/-- What a matcher takes from a text always has a property. -/
def Reads (m : Matcher α) (P : List α → Prop) : Prop := ∀ s, ∀ r ∈ m s, ∃ w, s = w ++ r ∧ P w

theorem reads_one (p : α → Bool) : (one p).Reads fun w => ∃ c, w = [c] ∧ p c = true := by
  intro s r hr
  cases s with
  | nil => cases hr
  | cons c s =>
    rw [one] at hr
    split at hr
    · next hc =>
      rw [List.mem_singleton.mp hr]
      exact ⟨[c], rfl, c, rfl, hc⟩
    · cases hr

theorem Reads.mono (h : m.Reads P) (hpq : ∀ w, P w → Q w) : m.Reads Q := by
  intro s r hr
  obtain ⟨w, hs, hw⟩ := h s r hr
  exact ⟨w, hs, hpq w hw⟩

theorem Reads.seq (hm : m.Reads P) (hn : n.Reads Q) : (m.seq n).Reads fun w => ∃ u v, w = u ++ v ∧ P u ∧ Q v := by
  intro s r hr
  obtain ⟨t, ht, hrt⟩ := List.mem_flatMap.mp hr
  obtain ⟨u, rfl, hu⟩ := hm s t ht
  obtain ⟨v, rfl, hv⟩ := hn t r hrt
  exact ⟨u ++ v, (List.append_assoc u v r).symm, u, v, rfl, hu, hv⟩

theorem Reads.alt (hm : m.Reads P) (hn : n.Reads Q) : (m.alt n).Reads fun w => P w ∨ Q w := by
  intro s r hr
  rcases List.mem_append.mp hr with hr | hr
  · obtain ⟨w, hs, hw⟩ := hm s r hr
    exact ⟨w, hs, .inl hw⟩
  · obtain ⟨w, hs, hw⟩ := hn s r hr
    exact ⟨w, hs, .inr hw⟩

theorem Reads.upTo (hm : m.Reads P) (k : ℕ) :
    (upTo k m).Reads fun w => ∃ ps : List (List α), ps.length ≤ k ∧ w = ps.flatten ∧ ∀ u ∈ ps, P u := by
  induction k with
  | zero =>
    intro s r hr
    rw [List.mem_singleton.mp hr]
    exact ⟨[], rfl, [], Nat.le_refl 0, rfl, fun u hu => by cases hu⟩
  | succ k ih =>
    intro s r hr
    rcases List.mem_append.mp hr with hr | hr
    · obtain ⟨t, ht, hrt⟩ := List.mem_flatMap.mp hr
      obtain ⟨u, rfl, hu⟩ := hm s t ht
      obtain ⟨w, rfl, ps, hlen, rfl, hps⟩ := ih t r hrt
      refine ⟨u ++ ps.flatten, (List.append_assoc _ _ _).symm, u :: ps, Nat.succ_le_succ hlen, rfl, ?_⟩
      exact List.forall_mem_cons.mpr ⟨hu, hps⟩
    · rw [List.mem_singleton.mp hr]
      exact ⟨[], rfl, [], Nat.zero_le _, rfl, fun u hu => by cases hu⟩

theorem Reads.many (hm : m.Reads P) :
    (many m).Reads fun w => ∃ ps : List (List α), w = ps.flatten ∧ ∀ u ∈ ps, P u := by
  intro s r hr
  obtain ⟨w, hs, ps, -, hw, hps⟩ := hm.upTo s.length s r hr
  exact ⟨w, hs, ps, hw, hps⟩

theorem Reads.many1 (hm : m.Reads P) :
    m.many1.Reads fun w => ∃ ps : List (List α), ps ≠ [] ∧ w = ps.flatten ∧ ∀ u ∈ ps, P u := by
  apply (hm.seq hm.many).mono
  rintro w ⟨u, v, rfl, hu, ps, rfl, hps⟩
  exact ⟨u :: ps, List.cons_ne_nil u ps, rfl, List.forall_mem_cons.mpr ⟨hu, hps⟩⟩

/-- The way that is tried first leaves `r`. -/
def First (m : Matcher α) (s r : List α) : Prop := (m s).head? = some r

theorem first_one (s : List α) (hc : p c = true) : (one p).First (c :: s) s := by
  rw [First, one, if_pos hc]
  rfl

theorem one_eq_nil (h : ∀ c ∈ s.head?, p c = false) : one p s = [] := by
  cases s with
  | nil => rfl
  | cons c s => rw [one, if_neg (by rw [h c rfl]; decide)]

theorem First.seq (hm : m.First s r) (hn : n.First r t) : (m.seq n).First s t := by
  obtain ⟨ls, hls⟩ := List.head?_eq_some_iff.mp hm
  obtain ⟨ns, hns⟩ := List.head?_eq_some_iff.mp hn
  rw [First, Matcher.seq, hls, List.flatMap_cons, hns]
  rfl

theorem First.alt_left (hm : m.First s r) : (m.alt n).First s r := by
  obtain ⟨ls, hls⟩ := List.head?_eq_some_iff.mp hm
  rw [First, Matcher.alt, hls]
  rfl

theorem First.alt_right (hm : m s = []) (hn : n.First s r) : (m.alt n).First s r := by
  rw [First, Matcher.alt, hm]
  exact hn

theorem first_upTo_zero (hm : m s = []) (k : ℕ) : (upTo k m).First s s := by
  cases k with
  | zero => rfl
  | succ k =>
    rw [First, upTo_succ, hm]
    rfl

/-- As often as there are pieces, where none follows them. -/
theorem first_upTo {ps : List (List α)} (hps : ∀ u ∈ ps, ∀ t, m.First (u ++ t) t) (hr : m r = []) {k : ℕ}
    (hk : ps.length ≤ k) : (upTo k m).First (ps.flatten ++ r) r := by
  induction ps generalizing k with
  | nil => exact first_upTo_zero hr k
  | cons u ps ih =>
    obtain ⟨hu, hps⟩ := List.forall_mem_cons.mp hps
    obtain ⟨k, rfl⟩ := Nat.exists_eq_add_of_le' (Nat.lt_of_lt_of_le (Nat.succ_pos ps.length) hk)
    have hfirst : (m.seq (upTo k m)).First (u ++ (ps.flatten ++ r)) r :=
      (hu _).seq (ih hps (Nat.le_of_succ_le_succ hk))
    obtain ⟨ls, hls⟩ := List.head?_eq_some_iff.mp hfirst
    rw [Matcher.seq] at hls
    rw [First, upTo_succ, List.flatten_cons, List.append_assoc, hls]
    rfl

theorem first_many {ps : List (List α)} (hps : ∀ u ∈ ps, u ≠ [] ∧ ∀ t, m.First (u ++ t) t) (hr : m r = []) :
    (many m).First (ps.flatten ++ r) r := by
  apply first_upTo (fun u hu => (hps u hu).2) hr
  have hlen : ps.length ≤ ps.flatten.length := by
    induction ps with
    | nil => exact Nat.le_refl 0
    | cons u ps ih =>
      obtain ⟨hu, hps⟩ := List.forall_mem_cons.mp hps
      have hpos := List.length_pos_iff.mpr hu.1
      have hrest := ih hps
      simp only [List.length_cons, List.flatten_cons, List.length_append]
      omega
  rw [List.length_append]
  exact Nat.le_add_right_of_le hlen

theorem first_many1 {ps : List (List α)} (hne : ps ≠ []) (hps : ∀ u ∈ ps, u ≠ [] ∧ ∀ t, m.First (u ++ t) t)
    (hr : m r = []) : m.many1.First (ps.flatten ++ r) r := by
  obtain ⟨u, us, rfl⟩ := List.exists_cons_of_ne_nil hne
  obtain ⟨hu, hus⟩ := List.forall_mem_cons.mp hps
  rw [List.flatten_cons, List.append_assoc]
  exact (hu.2 _).seq (first_many hus hr)

end Matcher

end FinancialOs.Library
