import Mathlib.Data.List.Induction

/-! The matches of a text from left to right, each behind the one before it. -/
namespace FinancialOs.Library
variable {α : Type} {f : Option α → List α → Option (List α)} {i skip : ℕ} {before : Option α}
variable {front behind s t w rest : List α}

/-- The matches with where they begin. The test is given the character before and the text from there, and
answers what the match leaves of it; `skip` characters still belong to the match before. -/
def scan (f : Option α → List α → Option (List α)) : ℕ → Option α → ℕ → List α → List (ℕ × List α)
  | _, _, _, [] => []
  | i, _, k + 1, c :: s => scan f (i + 1) (some c) k s
  | i, before, 0, c :: s =>
    match f before (c :: s) with
    | none => scan f (i + 1) (some c) 0 s
    | some rest =>
      let taken := (c :: s).length - rest.length
      (i, (c :: s).take taken) :: scan f (i + 1) (some c) (taken - 1) s

/-- How many characters behind the front of a text belong to a match that begins in the front. -/
def pending (f : Option α → List α → Option (List α)) : Option α → ℕ → List α → List α → ℕ
  | _, skip, [], _ => skip
  | _, k + 1, c :: s, t => pending f (some c) k s t
  | before, 0, c :: s, t =>
    match f before (c :: (s ++ t)) with
    | none => pending f (some c) 0 s t
    | some rest => pending f (some c) ((c :: (s ++ t)).length - rest.length - 1) s t

/-- The character before what follows a text. -/
def lastOr (before : Option α) (s : List α) : Option α := s.getLast?.or before

theorem lastOr_cons (before : Option α) (c : α) (s : List α) : lastOr before (c :: s) = lastOr (some c) s := by
  cases s with
  | nil => rfl
  | cons d s =>
    rw [lastOr, lastOr, List.getLast?_cons_cons, List.getLast?_eq_some_getLast (List.cons_ne_nil d s)]
    rfl

theorem scan_of_none {c : α} (h : f before (c :: s) = none) : scan f i before 0 (c :: s) = scan f (i + 1) (some c) 0 s := by
  rw [scan, h]

theorem scan_of_some {c : α} (h : f before (c :: s) = some rest) : scan f i before 0 (c :: s) =
    (i, (c :: s).take ((c :: s).length - rest.length)) ::
      scan f (i + 1) (some c) ((c :: s).length - rest.length - 1) s := by
  rw [scan, h]

theorem pending_of_none {c : α} (h : f before (c :: (s ++ t)) = none) :
    pending f before 0 (c :: s) t = pending f (some c) 0 s t := by
  rw [pending, h]

theorem pending_of_some {c : α} (h : f before (c :: (s ++ t)) = some rest) :
    pending f before 0 (c :: s) t = pending f (some c) ((c :: (s ++ t)).length - rest.length - 1) s t := by
  rw [pending, h]

theorem le_of_mem_scan : ∀ e ∈ scan f i before skip s, i ≤ e.1 := by
  induction s generalizing i before skip with
  | nil =>
    intro e he
    cases skip <;> cases he
  | cons c s ih =>
    intro e he
    cases skip with
    | succ k => exact Nat.le_of_succ_le (ih e he)
    | zero =>
      cases hf : f before (c :: s) with
      | none =>
        rw [scan_of_none hf] at he
        exact Nat.le_of_succ_le (ih e he)
      | some rest =>
        rw [scan_of_some hf] at he
        rcases List.mem_cons.mp he with rfl | he
        · exact Nat.le_refl i
        · exact Nat.le_of_succ_le (ih e he)

/-- A match begins at the front of a text exactly if nothing is pending there. -/
theorem mem_scan_here (ht : t ≠ []) : (i, w) ∈ scan f i before skip t ↔
    skip = 0 ∧ ∃ rest, f before t = some rest ∧ w = t.take (t.length - rest.length) := by
  obtain ⟨c, s, rfl⟩ := List.exists_cons_of_ne_nil ht
  have hlater {b : Option α} {k : ℕ} : (i, w) ∉ scan f (i + 1) b k s := by
    intro h
    exact absurd (le_of_mem_scan _ h) (Nat.not_succ_le_self i)
  cases skip with
  | succ k => exact iff_of_false hlater fun h => absurd h.1 (Nat.succ_ne_zero k)
  | zero =>
    cases hf : f before (c :: s) with
    | none => simp [scan_of_none hf, hlater]
    | some rest => simp [scan_of_some hf, hlater]

/-- The matches that begin behind a front are those of the rest, with what is pending there. -/
theorem mem_scan_behind : (i + front.length, w) ∈ scan f i before skip (front ++ t) ↔
    (i + front.length, w) ∈ scan f (i + front.length) (lastOr before front) (pending f before skip front t) t := by
  induction front generalizing i before skip with
  | nil => cases skip <;> rfl
  | cons c s ih =>
    have hlen : i + (c :: s).length = i + 1 + s.length := by
      rw [List.length_cons]
      omega
    rw [hlen, List.cons_append, lastOr_cons]
    cases skip with
    | succ k => exact ih
    | zero =>
      cases hf : f before (c :: (s ++ t)) with
      | none =>
        rw [scan_of_none hf, pending_of_none hf]
        exact ih
      | some rest =>
        rw [scan_of_some hf, pending_of_some hf, List.mem_cons, ← ih]
        refine or_iff_right ?_
        intro h
        have := (Prod.mk.inj h).1
        omega

theorem mem_scan_at (ht : t ≠ []) : (i + front.length, w) ∈ scan f i before skip (front ++ t) ↔
    pending f before skip front t = 0 ∧
      ∃ rest, f (lastOr before front) t = some rest ∧ w = t.take (t.length - rest.length) :=
  mem_scan_behind.trans (mem_scan_here ht)

theorem pending_append : pending f before skip (front ++ behind) t =
    pending f (lastOr before front) (pending f before skip front (behind ++ t)) behind t := by
  induction front generalizing before skip with
  | nil => cases skip <;> rfl
  | cons c s ih =>
    rw [List.cons_append, lastOr_cons]
    cases skip with
    | succ k => exact ih
    | zero =>
      cases hf : f before (c :: (s ++ (behind ++ t))) with
      | none =>
        rw [pending_of_none hf, pending_of_none (List.append_assoc s behind t ▸ hf)]
        exact ih
      | some rest =>
        rw [pending_of_some hf, pending_of_some (List.append_assoc s behind t ▸ hf), List.append_assoc]
        exact ih

theorem pending_skip (h : front.length ≤ skip) : pending f before skip front t = skip - front.length := by
  induction front generalizing before skip with
  | nil => cases skip <;> rfl
  | cons c s ih =>
    rw [List.length_cons] at h
    obtain ⟨k, rfl⟩ := Nat.exists_eq_add_of_le' (Nat.lt_of_lt_of_le (Nat.succ_pos _) h)
    change pending f (some c) k s t = _
    rw [ih (by omega), List.length_cons]
    omega

/-- A match that begins in the front and reaches behind it leaves the part behind it pending. -/
theorem pending_of_match (hzero : pending f before 0 front (behind ++ t) = 0) (hne : behind ≠ [])
    (hf : f (lastOr before front) (behind ++ t) = some rest) (hlen : rest.length ≤ t.length) :
    pending f before 0 (front ++ behind) t = t.length - rest.length := by
  obtain ⟨c, s, rfl⟩ := List.exists_cons_of_ne_nil hne
  rw [List.cons_append] at hf
  rw [pending_append, hzero, pending_of_some hf, pending_skip]
  · simp only [List.length_append, List.length_cons]
    omega
  · simp only [List.length_append, List.length_cons]
    omega

/-- What is pending belongs to a match that begins in the front. -/
theorem exists_match_of_pending (h : pending f before 0 front t ≠ 0) : ∃ x y rest, front = x ++ y ∧ y ≠ [] ∧
    pending f before 0 x (y ++ t) = 0 ∧ f (lastOr before x) (y ++ t) = some rest ∧ rest.length < t.length ∧
    pending f before 0 front t = t.length - rest.length := by
  induction front using List.reverseRecOn generalizing t with
  | nil => exact absurd rfl h
  | append_singleton s c ih =>
    by_cases hs : pending f before 0 s (c :: t) = 0
    · cases hf : f (lastOr before s) (c :: t) with
      | none =>
        rw [pending_append, List.singleton_append, hs, pending_of_none hf] at h
        exact absurd rfl h
      | some rest =>
        have hp : pending f before 0 (s ++ [c]) t = (c :: t).length - rest.length - 1 := by
          rw [pending_append, List.singleton_append, hs, pending_of_some hf]
          rfl
        rw [hp, List.length_cons] at h ⊢
        exact ⟨s, [c], rest, rfl, List.cons_ne_nil c [], hs, hf, by omega, by omega⟩
    · obtain ⟨x, y, rest, rfl, hy, hx, hf, hlen, hp⟩ := ih hs
      have hson : pending f before 0 (x ++ y ++ [c]) t = (c :: t).length - rest.length - 1 := by
        rw [pending_append, List.singleton_append, hp, List.length_cons]
        obtain ⟨k, hk⟩ : ∃ k, t.length + 1 - rest.length = k + 1 := ⟨t.length - rest.length, by
          rw [List.length_cons] at hlen
          omega⟩
        rw [hk]
        rfl
      rw [List.length_cons] at hson hlen
      refine ⟨x, y ++ [c], rest, List.append_assoc x y [c], by simp, ?_, ?_, ?_, ?_⟩
      · rw [List.append_assoc]
        exact hx
      · rw [List.append_assoc]
        exact hf
      · omega
      · omega

/-- Each match is one at its place of the text. -/
theorem exists_match_of_mem_scan {e : ℕ × List α} (h : e ∈ scan f i before skip s) : ∃ x y rest, s = x ++ y ∧
    e.1 = i + x.length ∧ f (lastOr before x) y = some rest ∧ e.2 = y.take (y.length - rest.length) := by
  induction s generalizing i before skip with
  | nil => cases skip <;> cases h
  | cons c s ih =>
    have hlater {k : ℕ} (hs : e ∈ scan f (i + 1) (some c) k s) : ∃ x y rest, c :: s = x ++ y ∧
        e.1 = i + x.length ∧ f (lastOr before x) y = some rest ∧ e.2 = y.take (y.length - rest.length) := by
      obtain ⟨x, y, rest, rfl, hi, hf, hw⟩ := ih hs
      refine ⟨c :: x, y, rest, rfl, ?_, ?_, hw⟩
      · rw [hi, List.length_cons]
        omega
      · rw [lastOr_cons]
        exact hf
    cases skip with
    | succ k => exact hlater h
    | zero =>
      cases hf : f before (c :: s) with
      | none =>
        rw [scan_of_none hf] at h
        exact hlater h
      | some rest =>
        rw [scan_of_some hf] at h
        rcases List.mem_cons.mp h with rfl | h
        · exact ⟨[], c :: s, rest, rfl, rfl, hf, rfl⟩
        · exact hlater h

/-- The text with another one in place of each match; `skip` characters still belong to the match before. -/
def replaceAll (f : List α → Option (List α)) (new : List α) : ℕ → List α → List α
  | _, [] => []
  | k + 1, _ :: s => replaceAll f new k s
  | 0, c :: s =>
    match f (c :: s) with
    | none => c :: replaceAll f new 0 s
    | some rest => new ++ replaceAll f new ((c :: s).length - rest.length - 1) s

/-- What is left of the text itself is where no match begins. -/
theorem mem_replaceAll {f : List α → Option (List α)} {new : List α} {c : α} (h : c ∈ replaceAll f new skip s) :
    c ∈ new ∨ c ∈ s ∧ ∃ t, f (c :: t) = none := by
  induction s generalizing skip with
  | nil =>
    rw [replaceAll] at h
    cases h
  | cons d s ih =>
    have hlater {k : ℕ} (hk : c ∈ replaceAll f new k s) : c ∈ new ∨ c ∈ d :: s ∧ ∃ t, f (c :: t) = none :=
      (ih hk).imp_right fun hs => ⟨List.mem_cons_of_mem d hs.1, hs.2⟩
    cases skip with
    | succ k => exact hlater h
    | zero =>
      rw [replaceAll] at h
      split at h
      · next hnone =>
        rcases List.mem_cons.mp h with rfl | h
        · exact .inr ⟨List.mem_cons_self, s, hnone⟩
        · exact hlater h
      · rcases List.mem_append.mp h with h | h
        · exact .inl h
        · exact hlater h

end FinancialOs.Library
