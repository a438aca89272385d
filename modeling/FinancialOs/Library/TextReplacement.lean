import FinancialOs.Library.TextScan

/-! Passes over a text that put one character in the place of every match: what they leave, and when two passes are
one. -/
namespace FinancialOs.Library
variable {α : Type}

/-- A match takes at least one character and leaves what is behind it. -/
def Consumes (f : List α → Option (List α)) : Prop := ∀ c s rest, f (c :: s) = some rest → rest <:+ s

/-- No match begins anywhere in the text. -/
def MatchFree (f : List α → Option (List α)) (s : List α) : Prop := ∀ u, u <:+ s → f u = none

/-- A match begins where the text has a word of the language in front. -/
def Spells (f : List α → Option (List α)) (L : List α → Prop) : Prop := ∀ s, f s ≠ none ↔ ∃ q, q <+: s ∧ L q

section
variable {f g : List α → Option (List α)} {L M : List α → Prop} {new : List α} {b c : α} {s t u rest : List α}
variable {p : α → Bool}

theorem replaceAll_skip (k : ℕ) : replaceAll f new k s = replaceAll f new 0 (s.drop k) := by
  induction s generalizing k with
  | nil => rw [List.drop_nil, replaceAll, replaceAll]
  | cons c s ih =>
    cases k with
    | zero => rfl
    | succ k => rw [replaceAll, ih k, List.drop_succ_cons]

theorem replaceAll_of_none (h : f (c :: s) = none) : replaceAll f new 0 (c :: s) = c :: replaceAll f new 0 s := by
  rw [replaceAll, h]

theorem replaceAll_of_some (hf : Consumes f) (h : f (c :: s) = some rest) :
    replaceAll f new 0 (c :: s) = new ++ replaceAll f new 0 rest := by
  obtain ⟨taken, rfl⟩ := hf c s rest h
  have hskip : (c :: (taken ++ rest)).length - rest.length - 1 = taken.length := by
    rw [List.length_cons, List.length_append]
    omega
  rw [replaceAll, h]
  dsimp only
  rw [hskip, replaceAll_skip, List.drop_left]

/-- A match at the front leaves the new character there. -/
theorem replaceAll_head (h : f (c :: s) = some rest) :
    replaceAll f [b] 0 (c :: s) = b :: replaceAll f [b] ((c :: s).length - rest.length - 1) s := by
  rw [replaceAll, h]
  rfl

/-- A text without a match stays as it is. -/
theorem replaceAll_of_matchFree (h : MatchFree f s) : replaceAll f new 0 s = s := by
  induction s with
  | nil => rfl
  | cons c s ih =>
    rw [replaceAll_of_none (h _ List.suffix_rfl), ih fun u hu => h u (hu.trans (List.suffix_cons c s))]

/-- What is behind a point of the new text was made from what is behind a point of the old one. -/
theorem suffix_replaceAll (h : u <:+ replaceAll f [b] 0 s) : ∃ t, t <:+ s ∧ u = replaceAll f [b] 0 t := by
  suffices ∀ k, u <:+ replaceAll f [b] k s → ∃ t, t <:+ s ∧ u = replaceAll f [b] 0 t from this 0 h
  clear h
  induction s with
  | nil =>
    intro k hu
    rw [replaceAll] at hu
    exact ⟨[], List.suffix_rfl, List.suffix_nil.mp hu⟩
  | cons c s ih =>
    have hbehind {k : ℕ} (hu : u <:+ replaceAll f [b] k s) : ∃ t, t <:+ c :: s ∧ u = replaceAll f [b] 0 t := by
      obtain ⟨t, ht, hut⟩ := ih k hu
      exact ⟨t, ht.trans (List.suffix_cons c s), hut⟩
    intro k hu
    cases k with
    | succ k => exact hbehind hu
    | zero =>
      cases hfs : f (c :: s) with
      | none =>
        rw [replaceAll_of_none hfs] at hu
        rcases List.suffix_cons_iff.mp hu with hu | hu
        · exact ⟨c :: s, List.suffix_rfl, hu.trans (replaceAll_of_none hfs).symm⟩
        · exact hbehind hu
      | some rest =>
        rw [replaceAll_head hfs] at hu
        rcases List.suffix_cons_iff.mp hu with hu | hu
        · exact ⟨c :: s, List.suffix_rfl, hu.trans (replaceAll_head hfs).symm⟩
        · exact hbehind hu

/-- Up to the first new character the new text is a front of the old one. -/
theorem replaceAll_front : replaceAll f [b] 0 s = s ∨ ∃ q y, q <+: s ∧ replaceAll f [b] 0 s = q ++ b :: y := by
  induction s with
  | nil => exact .inl rfl
  | cons c s ih =>
    cases hfs : f (c :: s) with
    | none =>
      rw [replaceAll_of_none hfs]
      rcases ih with hs | ⟨q, y, hq, hs⟩
      · exact .inl (congrArg (c :: ·) hs)
      · exact .inr ⟨c :: q, y, List.cons_prefix_cons.mpr ⟨rfl, hq⟩, congrArg (c :: ·) hs⟩
    | some rest => exact .inr ⟨[], _, List.nil_prefix, replaceAll_head hfs⟩

/-! ### Words that no pass brings in -/

theorem Spells.append (h : Spells f L) (hs : f s ≠ none) : f (s ++ t) ≠ none := by
  obtain ⟨q, hq, hL⟩ := (h s).mp hs
  exact (h _).mpr ⟨q, hq.trans (List.prefix_append s t), hL⟩

/-- A word that ends in front of what is put behind the text is in the text. -/
theorem Spells.of_append (h : Spells f L) (hlast : ∀ q, L q → ∀ c ∈ q.getLast?, c ∉ t) (hs : f (s ++ t) ≠ none) :
    f s ≠ none := by
  obtain ⟨q, ⟨r, hr⟩, hL⟩ := (h _).mp hs
  refine (h s).mpr ⟨q, ?_, hL⟩
  rcases List.append_eq_append_iff.mp hr with ⟨a, rfl, -⟩ | ⟨a, rfl, rfl⟩
  · exact ⟨a, rfl⟩
  · cases a using List.reverseRecOn with
    | nil => exact ⟨[], by simp⟩
    | append_singleton a c =>
      refine absurd ?_ (hlast _ hL c ?_)
      · simp
      · rw [← List.append_assoc, List.getLast?_concat]
        rfl

/-- A word without the new character was in the old text. -/
theorem Spells.of_replaceAll (h : Spells f L) (hb : ∀ q, L q → b ∉ q) (hs : f (replaceAll g [b] 0 s) ≠ none) :
    f s ≠ none := by
  rcases @replaceAll_front _ g b s with hsame | ⟨q, y, hq, hmake⟩
  · rwa [hsame] at hs
  · obtain ⟨w, ⟨r, hr⟩, hL⟩ := (h _).mp hs
    refine (h s).mpr ⟨w, ?_, hL⟩
    rw [hmake] at hr
    rcases List.append_eq_append_iff.mp hr with ⟨a, rfl, -⟩ | ⟨a, rfl, ha⟩
    · exact (List.prefix_append w a).trans hq
    · cases a with
      | nil => rwa [List.append_nil]
      | cons d a =>
        obtain ⟨rfl, -⟩ := List.cons_eq_cons.mp ha
        exact absurd (List.mem_append_right q List.mem_cons_self) (hb _ hL)

theorem Spells.or (hf : Spells f L) (hg : Spells g M) : Spells (fun s => (f s).or (g s)) fun q => L q ∨ M q := by
  intro s
  have hor : (f s).or (g s) ≠ none ↔ f s ≠ none ∨ g s ≠ none := by
    cases f s <;> simp
  rw [hor, hf s, hg s]
  constructor
  · rintro (⟨q, hq, hL⟩ | ⟨q, hq, hM⟩)
    · exact ⟨q, hq, .inl hL⟩
    · exact ⟨q, hq, .inr hM⟩
  · rintro ⟨q, hq, hL | hM⟩
    · exact .inl ⟨q, hq, hL⟩
    · exact .inr ⟨q, hq, hM⟩

theorem matchFree_or : MatchFree (fun s => (f s).or (g s)) s ↔ MatchFree f s ∧ MatchFree g s := by
  constructor
  · intro h
    exact ⟨fun u hu => (Option.or_eq_none_iff.mp (h u hu)).1, fun u hu => (Option.or_eq_none_iff.mp (h u hu)).2⟩
  · rintro ⟨hf, hg⟩ u hu
    exact Option.or_eq_none_iff.mpr ⟨hf u hu, hg u hu⟩

theorem MatchFree.suffix (h : MatchFree f s) (ht : t <:+ s) : MatchFree f t := fun u hu => h u (hu.trans ht)

theorem MatchFree.front (hf : Spells f L) (h : MatchFree f (s ++ t)) : MatchFree f s := by
  rintro u ⟨r, rfl⟩
  by_contra hu
  exact hf.append hu (h (u ++ t) ⟨r, (List.append_assoc r u t).symm⟩)

theorem MatchFree.concat (hf : Spells f L) (h : MatchFree f s) (hlast : ∀ q, L q → ∀ d ∈ q.getLast?, d ≠ c) :
    MatchFree f (s ++ [c]) := by
  intro u hu
  by_contra hne
  have hlast' : ∀ q, L q → ∀ d ∈ q.getLast?, d ∉ [c] := fun q hq d hd hmem => hlast q hq d hd (List.mem_singleton.mp hmem)
  rcases List.suffix_concat_iff.mp hu with rfl | ⟨t, rfl, ht⟩
  · exact hne (h [] (List.nil_suffix))
  · exact hf.of_append hlast' hne (h t ht)

/-- A pass keeps a text free of words without its new character. -/
theorem MatchFree.replaceAll (hf : Spells f L) (h : MatchFree f s) (hb : ∀ q, L q → b ∉ q) :
    MatchFree f (replaceAll g [b] 0 s) := by
  intro u hu
  obtain ⟨t, ht, rfl⟩ := suffix_replaceAll hu
  by_contra hne
  exact hf.of_replaceAll hb hne (h t ht)

/-- A pass that takes every match leaves none. -/
theorem matchFree_replaceAll (hf : Spells f L) (hnil : f [] = none) (hb : ∀ q, L q → b ∉ q)
    (hg : ∀ u, g u = none → f u = none) : MatchFree f (replaceAll g [b] 0 s) := by
  intro u hu
  obtain ⟨t, -, rfl⟩ := suffix_replaceAll hu
  by_contra hne
  have htaken : g t ≠ none := fun ht => hf.of_replaceAll hb hne (hg t ht)
  cases t with
  | nil => exact hne hnil
  | cons c t =>
    obtain ⟨rest, hrest⟩ := Option.ne_none_iff_exists'.mp htaken
    obtain ⟨q, hq, hL⟩ := (hf _).mp hne
    rw [replaceAll_head hrest] at hq
    cases q with
    | nil => exact (hf []).mpr ⟨[], List.nil_prefix, hL⟩ hnil
    | cons d q =>
      obtain ⟨rfl, -⟩ := List.cons_prefix_cons.mp hq
      exact hb _ hL List.mem_cons_self

/-! ### Two passes -/

/-- A pass that takes nothing of a class passes its runs on. -/
theorem run_replaceAll (hb : p b = false) (hf : ∀ c s, p c = true → f (c :: s) = none) :
    (replaceAll f [b] 0 s).takeWhile p = s.takeWhile p ∧
      (replaceAll f [b] 0 s).dropWhile p = replaceAll f [b] 0 (s.dropWhile p) := by
  induction s with
  | nil => exact ⟨rfl, rfl⟩
  | cons c s ih =>
    cases hc : p c with
    | true =>
      rw [replaceAll_of_none (hf c s hc), List.takeWhile_cons_of_pos hc, List.takeWhile_cons_of_pos hc,
        List.dropWhile_cons_of_pos hc, List.dropWhile_cons_of_pos hc, ih.1]
      exact ⟨rfl, ih.2⟩
    | false =>
      have hhead : ∃ d y, replaceAll f [b] 0 (c :: s) = d :: y ∧ p d = false := by
        cases hfs : f (c :: s) with
        | none => exact ⟨c, _, replaceAll_of_none hfs, hc⟩
        | some rest => exact ⟨b, _, replaceAll_head hfs, hb⟩
      obtain ⟨d, y, hmake, hd⟩ := hhead
      rw [List.takeWhile_cons_of_neg (by simp [hc]), List.dropWhile_cons_of_neg (by simp [hc]), hmake,
        List.takeWhile_cons_of_neg (by simp [hd]), List.dropWhile_cons_of_neg (by simp [hd])]
      exact ⟨rfl, rfl⟩

theorem Consumes.or (hf : Consumes f) (hg : Consumes g) : Consumes fun t => (f t).or (g t) := by
  intro c s rest h
  rcases Option.or_eq_some_iff.mp h with h | ⟨-, h⟩
  · exact hf c s rest h
  · exact hg c s rest h

/-- Two passes are one, if the second finds in what the first leaves exactly what it found before. -/
theorem replaceAll_replaceAll (hf : Consumes f) (hg : Consumes g) (hfirst : ∀ s rest, f s = some rest → g s = none)
    (hsame : ∀ s, g (replaceAll f [b] 0 s) = (g s).map (replaceAll f [b] 0)) :
    replaceAll g [b] 0 (replaceAll f [b] 0 s) = replaceAll (fun t => (f t).or (g t)) [b] 0 s := by
  have hor : Consumes fun t => (f t).or (g t) := hf.or hg
  induction hlen : s.length using Nat.strongRecOn generalizing s with
  | ind m ih =>
    cases s with
    | nil => rfl
    | cons c s =>
      have hbehind : ∀ r, r <:+ s → replaceAll g [b] 0 (replaceAll f [b] 0 r) =
          replaceAll (fun t => (f t).or (g t)) [b] 0 r := by
        intro r hr
        refine ih r.length ?_ rfl
        rw [← hlen, List.length_cons]
        exact Nat.lt_succ_of_le hr.length_le
      have hcs := hsame (c :: s)
      cases hfs : f (c :: s) with
      | some rest =>
        rw [replaceAll_of_some hf hfs, hfirst _ _ hfs, List.singleton_append] at hcs
        have hcase : (f (c :: s)).or (g (c :: s)) = some rest := by
          rw [hfs]
          rfl
        rw [replaceAll_of_some hf hfs, @replaceAll_of_some _ _ _ _ _ _ hor hcase, List.singleton_append,
          List.singleton_append, replaceAll_of_none hcs, hbehind rest (hf c s rest hfs)]
      | none =>
        rw [replaceAll_of_none hfs] at hcs
        rw [replaceAll_of_none hfs]
        have hcase : (f (c :: s)).or (g (c :: s)) = g (c :: s) := by
          rw [hfs]
          rfl
        cases hgs : g (c :: s) with
        | none =>
          rw [hgs, Option.map_none] at hcs
          rw [replaceAll_of_none hcs, @replaceAll_of_none _ _ _ _ _ (hcase.trans hgs), hbehind s List.suffix_rfl]
        | some rest =>
          rw [hgs, Option.map_some] at hcs
          rw [replaceAll_of_some hg hcs, @replaceAll_of_some _ _ _ _ _ _ hor (hcase.trans hgs),
            hbehind rest (hg c s rest hgs)]

end
end FinancialOs.Library
