import Mathlib.Data.List.DropRight
import Mathlib.Data.List.Basic
import Mathlib.Tactic.Common

/-! Texts as words with one separator between any two: every run of other characters turned into a separator, those
at the ends taken off, and what a cut makes of such a text. -/
namespace FinancialOs.Library
variable {α : Type} (letter : α → Bool) (sep : α)

/-- Every run of characters that are no letters, as one separator; `inRun` behind such a character. -/
def collapseRuns : Bool → List α → List α
  | _, [] => []
  | inRun, c :: s =>
    if letter c then c :: collapseRuns false s
    else if inRun then collapseRuns true s
    else sep :: collapseRuns true s

/-- The runs of letters. -/
def wordsOf (s : List α) : List (List α) := (s.splitOnP fun c => !letter c).filter (!List.isEmpty ·)

def joinWords (ws : List (List α)) : List α := [sep].intercalate ws

/-- Words are not empty and have letters only. -/
def AreWords (ws : List (List α)) : Prop := ∀ w ∈ ws, w ≠ [] ∧ ∀ c ∈ w, letter c = true

section Join
variable {letter} {sep} {ws : List (List α)} {w v : List α}

@[simp] theorem joinWords_nil : joinWords sep [] = [] := rfl

@[simp] theorem joinWords_singleton : joinWords sep [w] = w := List.intercalate_singleton

@[simp] theorem joinWords_cons_cons : joinWords sep (w :: v :: ws) = w ++ sep :: joinWords sep (v :: ws) := by
  rw [joinWords, List.intercalate_cons_cons, List.append_assoc]
  rfl

theorem joinWords_cons (h : ws ≠ []) : joinWords sep (w :: ws) = w ++ sep :: joinWords sep ws := by
  cases ws with
  | nil => exact absurd rfl h
  | cons v ws => exact joinWords_cons_cons

theorem joinWords_append {us : List (List α)} (hus : us ≠ []) (hws : ws ≠ []) :
    joinWords sep (us ++ ws) = joinWords sep us ++ sep :: joinWords sep ws := by
  induction us with
  | nil => exact absurd rfl hus
  | cons u us ih =>
    cases us with
    | nil => rw [List.singleton_append, joinWords_cons hws, joinWords_singleton]
    | cons u' us =>
      rw [List.cons_append, joinWords_cons (by simp), ih (List.cons_ne_nil _ _), joinWords_cons_cons, List.append_assoc,
        List.cons_append]

theorem AreWords.tail (h : AreWords letter (w :: ws)) : AreWords letter ws := fun v hv => h v (List.mem_cons_of_mem _ hv)

theorem AreWords.take (h : AreWords letter ws) (n : ℕ) : AreWords letter (ws.take n) := fun v hv => h v (List.mem_of_mem_take hv)

theorem letter_of_mem_splitOnP {s w : List α} (hw : w ∈ s.splitOnP fun c => !letter c) : ∀ c ∈ w, letter c = true := by
  induction s generalizing w with
  | nil =>
    obtain rfl : w = [] := by simpa using hw
    exact fun c hc => absurd hc List.not_mem_nil
  | cons c s ih =>
    rw [List.splitOnP_cons_eq_if_modifyHead] at hw
    obtain ⟨h, t, hs⟩ := List.exists_cons_of_ne_nil (List.splitOnP_ne_nil (fun c => !letter c) s)
    rw [hs] at hw ih
    by_cases hc : letter c = true
    · rw [if_neg (by simp [hc]), List.modifyHead_cons] at hw
      rcases List.mem_cons.mp hw with rfl | hw
      · intro d hd
        rcases List.mem_cons.mp hd with rfl | hd
        · exact hc
        · exact ih List.mem_cons_self d hd
      · exact ih (List.mem_cons_of_mem _ hw)
    · rw [if_pos (by simpa using hc)] at hw
      rcases List.mem_cons.mp hw with rfl | hw
      · exact fun d hd => absurd hd List.not_mem_nil
      · exact ih hw

theorem areWords_wordsOf (s : List α) : AreWords letter (wordsOf letter s) := by
  intro w hw
  obtain ⟨hw, hne⟩ := List.mem_filter.mp hw
  exact ⟨by simpa using hne, letter_of_mem_splitOnP hw⟩

theorem joinWords_ne_nil (hws : AreWords letter ws) (h : ws ≠ []) : joinWords sep ws ≠ [] := by
  cases ws with
  | nil => exact absurd rfl h
  | cons w ws =>
    have hw := (hws w List.mem_cons_self).1
    cases ws with
    | nil => rwa [joinWords_singleton]
    | cons v ws => simp [hw]

theorem mem_joinWords {c : α} (hws : AreWords letter ws) (hc : c ∈ joinWords sep ws) : letter c = true ∨ c = sep := by
  induction ws with
  | nil => exact absurd hc List.not_mem_nil
  | cons w ws ih =>
    have hw := (hws w List.mem_cons_self).2
    cases ws with
    | nil => exact .inl (hw c (by simpa using hc))
    | cons v ws =>
      rw [joinWords_cons_cons] at hc
      rcases List.mem_append.mp hc with hc | hc
      · exact .inl (hw c hc)
      · rcases List.mem_cons.mp hc with rfl | hc
        · exact .inr rfl
        · exact ih hws.tail hc

/-- Such a text begins with a letter. -/
theorem joinWords_head (hws : AreWords letter ws) (h : ws ≠ []) : ∃ c s, joinWords sep ws = c :: s ∧ letter c = true := by
  cases ws with
  | nil => exact absurd rfl h
  | cons w ws =>
    obtain ⟨hne, hw⟩ := hws w List.mem_cons_self
    obtain ⟨c, t, rfl⟩ := List.exists_cons_of_ne_nil hne
    refine ⟨c, ?_⟩
    cases ws with
    | nil => exact ⟨t, joinWords_singleton, hw c List.mem_cons_self⟩
    | cons v ws => exact ⟨_, joinWords_cons_cons, hw c List.mem_cons_self⟩

/-- And it ends with one. -/
theorem joinWords_getLast (hws : AreWords letter ws) (h : ws ≠ []) : ∃ s c, joinWords sep ws = s ++ [c] ∧ letter c = true := by
  induction ws with
  | nil => exact absurd rfl h
  | cons w ws ih =>
    cases ws with
    | nil =>
      obtain ⟨hne, hw⟩ := hws w List.mem_cons_self
      rw [joinWords_singleton]
      exact ⟨w.dropLast, w.getLast hne, (List.dropLast_append_getLast hne).symm, hw _ (List.getLast_mem hne)⟩
    | cons v ws =>
      obtain ⟨s, c, hs, hc⟩ := ih hws.tail (List.cons_ne_nil _ _)
      refine ⟨w ++ sep :: s, c, ?_, hc⟩
      rw [joinWords_cons_cons, hs, List.append_assoc, List.cons_append]

theorem wordsOf_of_letters {s : List α} (h : ∀ c ∈ s, letter c = true) (hne : s ≠ []) : wordsOf letter s = [s] := by
  rw [wordsOf, List.splitOnP_eq_singleton fun c hc => by simp [h c hc]]
  simp [hne]

theorem wordsOf_append_sep (hsep : letter sep = false) (s t : List α) :
    wordsOf letter (s ++ sep :: t) = wordsOf letter s ++ wordsOf letter t := by
  rw [wordsOf, List.splitOnP_append_cons s t (by simp [hsep]), List.filter_append]
  rfl

/-- The words of such a text are the words it has been put together from. -/
theorem wordsOf_joinWords (hsep : letter sep = false) (hws : AreWords letter ws) : wordsOf letter (joinWords sep ws) = ws := by
  induction ws with
  | nil => simp [wordsOf]
  | cons w ws ih =>
    obtain ⟨hne, hw⟩ := hws w List.mem_cons_self
    cases ws with
    | nil => rw [joinWords_singleton, wordsOf_of_letters hw hne]
    | cons v ws =>
      rw [joinWords_cons_cons, wordsOf_append_sep hsep, wordsOf_of_letters hw hne, ih hws.tail]
      rfl

/-- A cut leaves words again, or a separator at the end, right behind some of the words. -/
theorem take_joinWords (hws : AreWords letter ws) (n : ℕ) :
    (∃ us, AreWords letter us ∧ (joinWords sep ws).take n = joinWords sep us ∧ (us = [] → n = 0 ∨ ws = [])) ∨
      ∃ i, 0 < i ∧ i < ws.length ∧ (joinWords sep (ws.take i)).length + 1 = n := by
  induction ws generalizing n with
  | nil => exact .inl ⟨[], by simp [AreWords], by simp, by simp⟩
  | cons w ws ih =>
    obtain ⟨hne, hw⟩ := hws w List.mem_cons_self
    have hcut (hn : n ≠ 0) : AreWords letter [w.take n] := by
      intro v hv
      obtain rfl := List.mem_singleton.mp hv
      exact ⟨by simp [hne, hn], fun c hc => hw c (List.mem_of_mem_take hc)⟩
    by_cases hn : n = 0
    · subst hn
      exact .inl ⟨[], by simp [AreWords], rfl, by simp⟩
    cases ws with
    | nil => exact .inl ⟨[w.take n], hcut hn, by simp, by simp⟩
    | cons v ws =>
      rw [joinWords_cons_cons, List.take_append]
      rcases lt_trichotomy n (w.length + 1) with hlt | rfl | hgt
      · refine .inl ⟨[w.take n], hcut hn, ?_, by simp⟩
        rw [show n - w.length = 0 by omega, List.take_zero, List.append_nil, joinWords_singleton]
      · exact .inr ⟨1, Nat.one_pos, by simp, by simp⟩
      · obtain ⟨m, rfl⟩ : ∃ m, n = w.length + (m + 1) := ⟨n - w.length - 1, by omega⟩
        rw [List.take_of_length_le (by omega), Nat.add_sub_cancel_left, List.take_succ_cons]
        rcases ih hws.tail m with ⟨us, hus, htake, hempty⟩ | ⟨i, hi, hlen, hm⟩
        · have hus' : us ≠ [] := by
            intro h
            rcases hempty h with hm | hnil
            · omega
            · cases hnil
          refine .inl ⟨w :: us, ?_, by rw [htake, joinWords_cons hus'], by simp⟩
          intro u hu
          rcases List.mem_cons.mp hu with rfl | hu
          · exact ⟨hne, hw⟩
          · exact hus u hu
        · refine .inr ⟨i + 1, by omega, by simpa using hlen, ?_⟩
          have htake : (v :: ws).take i ≠ [] := by simp [hi.ne']
          rw [List.take_succ_cons, joinWords_cons htake, List.length_append, List.length_cons]
          omega

/-- Right behind some of the words a cut leaves a separator at the end. -/
theorem take_joinWords_of_length {i n : ℕ} (hi : 0 < i) (hlen : i < ws.length)
    (hn : (joinWords sep (ws.take i)).length + 1 = n) : (joinWords sep ws).take n = joinWords sep (ws.take i) ++ [sep] := by
  have hne : ws ≠ [] := List.ne_nil_of_length_pos (by omega)
  have htake : ws.take i ≠ [] := by simp [hi.ne', hne]
  have hdrop : ws.drop i ≠ [] := by simpa using hlen
  have hsplit : joinWords sep ws = joinWords sep (ws.take i) ++ sep :: joinWords sep (ws.drop i) := by
    rw [← joinWords_append htake hdrop, List.take_append_drop]
  rw [hsplit, ← hn, List.take_length_add_append]
  rfl

end Join

section Collapse
variable {letter} {sep}

/-- What `collapseRuns` makes of the segments of a text, behind a separator. -/
def joinSegments (sep : α) : List (List α) → List α
  | [] => []
  | [] :: t => joinSegments sep t
  | [c :: w] => c :: w
  | (c :: w) :: v :: t => (c :: w) ++ sep :: joinSegments sep (v :: t)

theorem joinSegments_eq (t : List (List α)) : ∃ behind, (∀ c ∈ behind, c = sep) ∧ (t.filter (!List.isEmpty ·) = [] → behind = []) ∧
    joinSegments sep t = joinWords sep (t.filter (!List.isEmpty ·)) ++ behind := by
  induction t with
  | nil => exact ⟨[], by simp, by simp, rfl⟩
  | cons w t ih =>
    obtain ⟨behind, hbehind, hempty, ht⟩ := ih
    cases w with
    | nil => exact ⟨behind, hbehind, hempty, ht⟩
    | cons c w =>
      rw [List.filter_cons_of_pos rfl]
      cases t with
      | nil => exact ⟨[], by simp, by simp, by simp [joinSegments]⟩
      | cons v t =>
        rw [joinSegments, ht]
        by_cases h : (v :: t).filter (!List.isEmpty ·) = []
        · refine ⟨[sep], by simp, by simp, ?_⟩
          rw [h, hempty h, joinWords_singleton, joinWords_nil]
          rfl
        · refine ⟨behind, hbehind, by simp, ?_⟩
          rw [joinWords_cons h, List.append_assoc]
          rfl

theorem collapseRuns_eq (s : List α) : collapseRuns letter sep true s = joinSegments sep (s.splitOnP fun c => !letter c) ∧
    ∃ h t, (s.splitOnP fun c => !letter c) = h :: t ∧
      collapseRuns letter sep false s = h ++ if t = [] then [] else sep :: joinSegments sep t := by
  induction s with
  | nil => exact ⟨by simp [collapseRuns, joinSegments], [], [], by simp [collapseRuns]⟩
  | cons c s ih =>
    obtain ⟨htrue, h, t, hs, hfalse⟩ := ih
    rw [List.splitOnP_cons_eq_if_modifyHead]
    by_cases hc : letter c = true
    · rw [if_neg (by simp [hc]), hs, List.modifyHead_cons, collapseRuns, if_pos hc, collapseRuns, if_pos hc, hfalse]
      refine ⟨?_, c :: h, t, rfl, rfl⟩
      cases t with
      | nil => simp [joinSegments]
      | cons v t => simp [joinSegments]
    · rw [if_pos (by simpa using hc), collapseRuns, if_neg hc, if_pos rfl, collapseRuns, if_neg hc,
        if_neg Bool.false_ne_true, htrue]
      refine ⟨rfl, [], _, rfl, ?_⟩
      rw [List.nil_append, if_neg (List.splitOnP_ne_nil _ _)]

end Collapse

section Strip
variable [DecidableEq α]

/-- Without the separators at both ends. -/
def stripSep (s : List α) : List α := (s.dropWhile (· = sep)).rdropWhile (· = sep)

variable {letter} {sep}

theorem stripSep_joinWords {ws : List (List α)} {front behind : List α} (hsep : letter sep = false)
    (hws : AreWords letter ws) (hfront : ∀ c ∈ front, c = sep) (hbehind : ∀ c ∈ behind, c = sep) :
    stripSep sep (front ++ joinWords sep ws ++ behind) = joinWords sep ws := by
  have hne {c : α} (hc : letter c = true) : c ≠ sep := by
    rintro rfl
    rw [hsep] at hc
    cases hc
  rw [stripSep, List.append_assoc, List.dropWhile_append_of_pos (fun c hc => by simpa using hfront c hc)]
  by_cases h : ws = []
  · subst h
    rw [joinWords_nil, List.nil_append, List.dropWhile_eq_nil_iff.mpr (fun c hc => by simpa using hbehind c hc)]
    rfl
  · obtain ⟨c, s, hs, hc⟩ := @joinWords_head α letter sep ws hws h
    rw [hs, List.cons_append, List.dropWhile_cons_of_neg (by simpa using hne hc), ← List.cons_append, ← hs]
    obtain ⟨s', c', hs', hc'⟩ := @joinWords_getLast α letter sep ws hws h
    rw [List.rdropWhile, List.reverse_append, List.dropWhile_append_of_pos
      (fun c hc => by simpa using hbehind c (List.mem_reverse.mp hc)), hs', List.reverse_append, List.reverse_singleton,
      List.singleton_append, List.dropWhile_cons_of_neg (by simpa using hne hc')]
    simp

/-- Runs turned into separators, and the ends taken off: the words with a separator between any two. -/
theorem stripSep_collapseRuns (hsep : letter sep = false) (s : List α) :
    stripSep sep (collapseRuns letter sep false s) = joinWords sep (wordsOf letter s) := by
  obtain ⟨htrue, -⟩ := @collapseRuns_eq α letter sep s
  obtain ⟨behind, hbehind, -, hjoin⟩ := @joinSegments_eq α sep (s.splitOnP fun c => !letter c)
  have hwords := @areWords_wordsOf α letter s
  have hstrip {front : List α} (hfront : ∀ c ∈ front, c = sep) :
      stripSep sep (front ++ collapseRuns letter sep true s) = joinWords sep (wordsOf letter s) := by
    rw [htrue, hjoin, ← List.append_assoc]
    exact stripSep_joinWords hsep hwords hfront hbehind
  cases s with
  | nil => exact @hstrip [] (by simp)
  | cons c s =>
    by_cases hc : letter c = true
    · have hstart : collapseRuns letter sep false (c :: s) = [] ++ collapseRuns letter sep true (c :: s) := by
        simp [collapseRuns, hc]
      rw [hstart]
      exact hstrip (by simp)
    · have hstart : collapseRuns letter sep false (c :: s) = [sep] ++ collapseRuns letter sep true (c :: s) := by
        simp [collapseRuns, hc]
      rw [hstart]
      exact hstrip (by simp)

end Strip

end FinancialOs.Library
