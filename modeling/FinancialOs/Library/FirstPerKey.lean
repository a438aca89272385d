import Mathlib.Data.List.Basic
import Mathlib.Data.List.Nodup

/-! Selections from a list in its order: of each key the first item that a test accepts, up to the item whose test
fails. -/
namespace FinancialOs.Library
variable {ι κ ε : Type} [DecidableEq κ]

/-- The items taken; keys that were seen take none. -/
def firstPerKey (test : ι → Except ε Bool) (key : ι → κ) : List κ → List ι → List ι
  | _, [] => []
  | seen, a :: l =>
    match test a with
    | .error _ => []
    | .ok false => firstPerKey test key seen l
    | .ok true =>
      if key a ∈ seen then firstPerKey test key seen l else a :: firstPerKey test key (key a :: seen) l

section Selection
variable {test test' : ι → Except ε Bool} {key : ι → κ} {seen seen' : List κ} {l : List ι} {r : ι → ι → Prop} {a : ι}

/-- In a strictly ordered list, an item is taken when nothing before it fails or takes its key. -/
theorem mem_firstPerKey (hr : ∀ a b, r a b → ¬ r b a) (hl : l.Pairwise r) :
    a ∈ firstPerKey test key seen l ↔ a ∈ l ∧ test a = .ok true ∧ key a ∉ seen ∧
      ∀ b ∈ l, r b a → (∃ x, test b = .ok x) ∧ (test b = .ok true → key b ≠ key a) := by
  induction l generalizing seen with
  | nil => simp [firstPerKey]
  | cons c l ih =>
    obtain ⟨hc, hl⟩ := List.pairwise_cons.mp hl
    have hirrefl (b : ι) : ¬ r b b := fun h => hr b b h h
    -- the head is before every other item, and nothing is before it
    have hrest (ha : a ∈ l) (p : ι → Prop) : (∀ b ∈ c :: l, r b a → p b) ↔ p c ∧ ∀ b ∈ l, r b a → p b := by
      rw [List.forall_mem_cons]
      exact and_congr_left fun _ => forall_prop_of_true (hc a ha)
    rw [firstPerKey]
    cases ht : test c with
    | error e =>
      refine iff_of_false List.not_mem_nil ?_
      rintro ⟨hmem, htrue, -, hbefore⟩
      rcases List.mem_cons.mp hmem with rfl | ha
      · cases ht.symm.trans htrue
      · obtain ⟨⟨x, hx⟩, -⟩ := hbefore c List.mem_cons_self (hc a ha)
        cases ht.symm.trans hx
    | ok taken =>
      cases taken with
      | false =>
        rw [ih hl]
        constructor
        · rintro ⟨ha, htrue, hseen, hbefore⟩
          refine ⟨List.mem_cons_of_mem c ha, htrue, hseen, (hrest ha _).mpr ⟨⟨⟨_, ht⟩, fun h => ?_⟩, hbefore⟩⟩
          cases ht.symm.trans h
        · rintro ⟨hmem, htrue, hseen, hbefore⟩
          rcases List.mem_cons.mp hmem with rfl | ha
          · cases ht.symm.trans htrue
          · exact ⟨ha, htrue, hseen, ((hrest ha _).mp hbefore).2⟩
      | true =>
        dsimp only
        split
        · next hin =>
          rw [ih hl]
          constructor
          · rintro ⟨ha, htrue, hseen, hbefore⟩
            have hne : key c ≠ key a := fun he => hseen (he ▸ hin)
            exact ⟨List.mem_cons_of_mem c ha, htrue, hseen, (hrest ha _).mpr ⟨⟨⟨_, ht⟩, fun _ => hne⟩, hbefore⟩⟩
          · rintro ⟨hmem, htrue, hseen, hbefore⟩
            rcases List.mem_cons.mp hmem with rfl | ha
            · exact absurd hin hseen
            · exact ⟨ha, htrue, hseen, ((hrest ha _).mp hbefore).2⟩
        · next hnot =>
          rw [List.mem_cons, ih hl]
          constructor
          · rintro (rfl | ⟨ha, htrue, hseen, hbefore⟩)
            · refine ⟨List.mem_cons_self, ht, hnot, List.forall_mem_cons.mpr ⟨fun h => absurd h (hirrefl a), ?_⟩⟩
              exact fun b hb hba => absurd hba (hr a b (hc b hb))
            · obtain ⟨hne, hseen⟩ := not_or.mp (mt List.mem_cons.mpr hseen)
              exact ⟨List.mem_cons_of_mem c ha, htrue, hseen,
                (hrest ha _).mpr ⟨⟨⟨_, ht⟩, fun _ he => hne he.symm⟩, hbefore⟩⟩
          · rintro ⟨hmem, htrue, hseen, hbefore⟩
            rcases List.mem_cons.mp hmem with rfl | ha
            · exact .inl rfl
            · obtain ⟨⟨-, hne⟩, hbefore⟩ := (hrest ha _).mp hbefore
              refine .inr ⟨ha, htrue, fun hin => ?_, hbefore⟩
              exact (List.mem_cons.mp hin).elim (fun he => hne ht he.symm) hseen

theorem firstPerKey_keys : ((firstPerKey test key seen l).map key).Nodup ∧
    ∀ k ∈ seen, k ∉ (firstPerKey test key seen l).map key := by
  induction l generalizing seen with
  | nil => simp [firstPerKey]
  | cons c l ih =>
    rw [firstPerKey]
    cases test c with
    | error e => simp
    | ok taken =>
      cases taken with
      | false => exact ih
      | true =>
        dsimp only
        split
        · exact ih
        · next hnot =>
          obtain ⟨hnodup, hnew⟩ := @ih (key c :: seen)
          obtain ⟨hhead, hnew⟩ := List.forall_mem_cons.mp hnew
          refine ⟨List.nodup_cons.mpr ⟨hhead, hnodup⟩, fun k hk => ?_⟩
          rw [List.map_cons, List.mem_cons, not_or]
          exact ⟨fun he => hnot (he ▸ hk), hnew k hk⟩

/-- Nothing is taken once every key that could be has been seen. -/
theorem firstPerKey_eq_nil (h : ∀ a ∈ l, test a = .ok true → key a ∈ seen) : firstPerKey test key seen l = [] := by
  induction l with
  | nil => rfl
  | cons c l ih =>
    obtain ⟨hc, hl⟩ := List.forall_mem_cons.mp h
    rw [firstPerKey]
    cases ht : test c with
    | error e => rfl
    | ok taken =>
      cases taken with
      | false => exact ih hl
      | true =>
        dsimp only
        rw [if_pos (hc ht)]
        exact ih hl

/-- A selection takes nothing the second time. -/
theorem firstPerKey_again (hseen : ∀ k ∈ seen, k ∈ seen') (h : ∀ a ∈ firstPerKey test key seen l, key a ∈ seen') :
    firstPerKey test key seen' l = [] := by
  induction l generalizing seen with
  | nil => rfl
  | cons c l ih =>
    rw [firstPerKey] at h ⊢
    cases ht : test c with
    | error e => rfl
    | ok taken =>
      rw [ht] at h
      cases taken with
      | false => exact ih hseen h
      | true =>
        dsimp only at h ⊢
        split at h
        · next hin =>
          rw [if_pos (hseen _ hin)]
          exact ih hseen h
        · obtain ⟨hc, hl⟩ := List.forall_mem_cons.mp h
          rw [if_pos hc]
          exact ih (List.forall_mem_cons.mpr ⟨hc, hseen⟩) hl

/-- Where no test fails, every key that is accepted is seen in the end. -/
theorem firstPerKey_covers (hok : ∀ a ∈ l, ∃ x, test a = .ok x) (ha : a ∈ l) (ht : test a = .ok true) :
    key a ∈ seen ∨ key a ∈ (firstPerKey test key seen l).map key := by
  induction l generalizing seen with
  | nil => exact (List.not_mem_nil ha).elim
  | cons c l ih =>
    obtain ⟨⟨taken, hc⟩, hok⟩ := List.forall_mem_cons.mp hok
    rw [firstPerKey, hc]
    cases taken with
    | false =>
      rcases List.mem_cons.mp ha with rfl | ha
      · cases ht.symm.trans hc
      · exact ih hok ha
    | true =>
      dsimp only
      split
      · next hin =>
        rcases List.mem_cons.mp ha with rfl | ha
        · exact .inl hin
        · exact ih hok ha
      · rw [List.map_cons, List.mem_cons]
        rcases List.mem_cons.mp ha with rfl | ha
        · exact .inr (.inl rfl)
        · rcases @ih (key c :: seen) hok ha with hin | hin
          · exact (List.mem_cons.mp hin).elim (fun he => .inr (.inl he)) .inl
          · exact .inr (.inr hin)

end Selection

/-- Under keys of their own, a key picks its item. -/
theorem filter_key_eq_singleton {key : ι → κ} {l : List ι} (hl : (l.map key).Nodup) {a : ι} (ha : a ∈ l) :
    l.filter (fun b => key b = key a) = [a] := by
  induction l with
  | nil => exact (List.not_mem_nil ha).elim
  | cons c l ih =>
    obtain ⟨hc, hl⟩ := List.nodup_cons.mp hl
    rcases List.mem_cons.mp ha with rfl | ha
    · have hrest : l.filter (fun b => key b = key a) = [] := by
        refine List.filter_eq_nil_iff.mpr fun b hb he => hc ?_
        rw [← of_decide_eq_true he]
        exact List.mem_map_of_mem hb
      rw [List.filter_cons, if_pos (decide_eq_true rfl), hrest]
    · have hne : key c ≠ key a := fun he => hc (he ▸ List.mem_map_of_mem ha)
      rw [List.filter_cons, if_neg (by simpa using hne), ih hl ha]

/-- In a strictly ordered list, what has a property has a first that does. -/
theorem exists_first {l : List ι} {r : ι → ι → Prop} {p : ι → Prop} (hr : ∀ a b, r a b → ¬ r b a) (hl : l.Pairwise r)
    {a : ι} (ha : a ∈ l) (hp : p a) : ∃ b ∈ l, p b ∧ ∀ c ∈ l, p c → ¬ r c b := by
  induction l generalizing a with
  | nil => exact (List.not_mem_nil ha).elim
  | cons d l ih =>
    obtain ⟨hd, hl⟩ := List.pairwise_cons.mp hl
    by_cases hpd : p d
    · refine ⟨d, List.mem_cons_self, hpd, List.forall_mem_cons.mpr ⟨fun _ h => hr d d h h, fun c hc _ h => ?_⟩⟩
      exact hr d c (hd c hc) h
    · rcases List.mem_cons.mp ha with rfl | ha
      · exact absurd hp hpd
      · obtain ⟨b, hb, hpb, hfirst⟩ := ih hl ha hp
        exact ⟨b, List.mem_cons_of_mem d hb, hpb, List.forall_mem_cons.mpr ⟨fun h => absurd h hpd, hfirst⟩⟩

end FinancialOs.Library
