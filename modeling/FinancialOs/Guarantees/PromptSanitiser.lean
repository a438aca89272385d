import FinancialOs.Library.TextReplacement
import FinancialOs.Rules.PromptSafety
import FinancialOs.Rules.TurkishText

/-! The sanitiser of the prompt: what its passes leave, and which texts need a second run. -/
namespace FinancialOs.Guarantees
open Library Rules

/-- The text begins with a role label. -/
def etiketli (metin : List Char) : Bool := (rolAdlari.findSome? (etiketSonu (metin.dropWhile boslukMu))).isSome

/-- What the sanitiser promises of its answer. -/
structure Arinmis (azami : ℕ) (metin : String) : Prop where
  tekSatir : ∀ c ∈ metin.toList, satirSonuMu c = false
  basliksiz : MatchFree baslikIsareti metin.toList
  citsiz : MatchFree cit metin.toList
  tokensiz : MatchFree rolToken metin.toList
  etiketsiz : etiketli metin.toList = false
  kisa : metin.toList.length ≤ azami
  sabit : guvenliMetin (some metin) azami = metin

/-- What carries structure: a role token, a fence or a heading mark. -/
def isaret (s : List Char) : Option (List Char) := ((rolToken s).or (cit s)).or (baslikIsareti s)

/-- The text on one line, with the characters that one sees. -/
def gorunen (ham : String) : List Char := (tekSatirYap ham.toList).map fun c => if c = '\t' then ' ' else c

/-- The text as it is read when each of these marks is a blank, behind its role label. -/
def okunan (ham : String) : List Char := etiketsiz (replaceAll isaret [' '] 0 (gorunen ham))

/-- `|>` follows behind at most so many other characters, of which a run of blanks is one. -/
def kapanir (n : ℕ) (s : List Char) : Bool :=
  match s with
  | [] => false
  | c :: s =>
    if c = '|' then s.head? = some '>'
    else if c = '>' then false
    else match n with
      | 0 => false
      | n + 1 => kapanir n (if boslukMu c then s.dropWhile boslukMu else s)

/-- No mark is left over once the marks in it are blanks, and no label behind the first. -/
structure Duz (ham : String) : Prop where
  kapanmaz : ∀ s, '<' :: '|' :: s <:+ okunan ham → kapanir 40 s = false
  tekEtiket : etiketli (okunan ham) = false

/-! ### The matches as parts of the text -/

/-- The words of `_ROL_TOKEN`. -/
def rolSozcukleri : List String := ["[INST]", "[/INST]", "<s>", "</s>"]

/-- What stands in a special token. -/
def adHarfi (c : Char) : Bool := c ≠ '|' ∧ c ≠ '>'

section Parts
variable {s t q r : List Char} {w : String} {c d : Char}

theorem sozcuk_eq_some : sozcuk s w = some r ↔ ∃ q, s = q ++ r ∧ q.map harfKatla = w.toList.map harfKatla := by
  rw [sozcuk]
  constructor
  · intro h
    split_ifs at h with hw
    obtain rfl := Option.some.inj h
    exact ⟨s.take w.length, (List.take_append_drop _ _).symm, hw⟩
  · rintro ⟨q, rfl, hq⟩
    have hlen : q.length = w.toList.length := by simpa only [List.length_map] using congrArg List.length hq
    rw [String.length_toList] at hlen
    rw [List.take_left' hlen, List.drop_left' hlen, if_pos hq]

theorem dropWhile_append_of_not {p : Char → Bool} (hs : ∀ c ∈ s, p c = true) (hd : p d = false) :
    (s ++ d :: t).dropWhile p = d :: t := by
  rw [List.dropWhile_append_of_pos hs, List.dropWhile_cons_of_neg (by simp [hd])]

theorem takeWhile_append_of_not {p : Char → Bool} (hs : ∀ c ∈ s, p c = true) (hd : p d = false) :
    (s ++ d :: t).takeWhile p = s := by
  rw [List.takeWhile_append_of_pos hs, List.takeWhile_cons_of_neg (by simp [hd]), List.append_nil]

theorem ozelToken_eq_some : ozelToken s = some r ↔ ∃ ad : List Char, s = '<' :: '|' :: (ad ++ '|' :: '>' :: r) ∧
    ad.length ≤ 40 ∧ ∀ c ∈ ad, adHarfi c = true := by
  constructor
  · intro h
    rw [ozelToken.eq_def] at h
    split at h
    · next s =>
      change (if (s.takeWhile adHarfi).length ≤ 40 then _ else none) = some r at h
      split_ifs at h with hlen
      have hdrop : s.drop (s.takeWhile adHarfi).length = s.dropWhile adHarfi := by
        calc
          _ = (s.takeWhile adHarfi ++ s.dropWhile adHarfi).drop (s.takeWhile adHarfi).length := by
            rw [List.takeWhile_append_dropWhile]
          _ = s.dropWhile adHarfi := List.drop_left
      split at h
      · next rest hrest =>
        obtain rfl := Option.some.inj h
        change s.drop (s.takeWhile adHarfi).length = _ at hrest
        refine ⟨s.takeWhile adHarfi, ?_, hlen, fun c hc => List.mem_takeWhile_imp hc⟩
        rw [← hrest, hdrop, List.takeWhile_append_dropWhile]
      · cases h
    · cases h
  · rintro ⟨ad, rfl, hlen, had⟩
    have hrun : (ad ++ '|' :: '>' :: r).takeWhile (fun c => c ≠ '|' ∧ c ≠ '>') = ad :=
      takeWhile_append_of_not had (by decide)
    rw [ozelToken]
    simp only [hrun, if_pos hlen, List.drop_left]

theorem spells_ozelToken : Spells ozelToken fun q => ∃ ad : List Char, q = '<' :: '|' :: (ad ++ ['|', '>']) ∧
    ad.length ≤ 40 ∧ ∀ c ∈ ad, adHarfi c = true := by
  intro s
  rw [Option.ne_none_iff_exists']
  constructor
  · rintro ⟨r, hr⟩
    obtain ⟨ad, rfl, had⟩ := ozelToken_eq_some.mp hr
    exact ⟨_, ⟨r, by simp⟩, ad, rfl, had⟩
  · rintro ⟨_, ⟨r, rfl⟩, ad, rfl, had⟩
    exact ⟨r, ozelToken_eq_some.mpr ⟨ad, by simp, had⟩⟩

theorem spells_sozcuk : Spells (sozcuk · w) fun q => q.map harfKatla = w.toList.map harfKatla := by
  intro s
  rw [Option.ne_none_iff_exists']
  constructor
  · rintro ⟨r, hr⟩
    obtain ⟨q, rfl, hq⟩ := sozcuk_eq_some.mp hr
    exact ⟨q, List.prefix_append q r, hq⟩
  · rintro ⟨q, ⟨r, rfl⟩, hq⟩
    exact ⟨r, sozcuk_eq_some.mpr ⟨q, rfl, hq⟩⟩

theorem dizi_eq_none {n : ℕ} {p : Char → Bool} : dizi n p s = none ↔ (s.takeWhile p).length < n := by
  rw [dizi]
  split
  · next h => exact iff_of_false (by simp) (not_lt.mpr h)
  · next h => exact iff_of_true rfl (not_le.mp h)

theorem spells_dizi {n : ℕ} {p : Char → Bool} : Spells (dizi n p) fun q => q.length = n ∧ ∀ c ∈ q, p c = true := by
  intro s
  rw [Ne, dizi_eq_none, not_lt]
  constructor
  · intro h
    refine ⟨(s.takeWhile p).take n, (List.take_prefix _ _).trans (List.takeWhile_prefix p), List.length_take_of_le h, ?_⟩
    exact fun c hc => List.mem_takeWhile_imp (List.mem_of_mem_take hc)
  · rintro ⟨q, ⟨r, rfl⟩, rfl, hq⟩
    rw [List.takeWhile_append_of_pos hq, List.length_append]
    exact Nat.le_add_right _ _

/-- The pattern of the role tokens, as one for each of its words. -/
theorem rolToken_eq_none : rolToken s = none ↔ ozelToken s = none ∧ ∀ w ∈ rolSozcukleri, sozcuk s w = none := by
  rw [rolToken, Option.or_eq_none_iff]
  exact and_congr_right fun _ => List.findSome?_eq_none_iff

theorem matchFree_rolToken : MatchFree rolToken s ↔
    MatchFree ozelToken s ∧ ∀ w ∈ rolSozcukleri, MatchFree (sozcuk · w) s := by
  constructor
  · intro h
    exact ⟨fun u hu => (rolToken_eq_none.mp (h u hu)).1, fun w hw u hu => (rolToken_eq_none.mp (h u hu)).2 w hw⟩
  · rintro ⟨hozel, hsozcuk⟩ u hu
    exact rolToken_eq_none.mpr ⟨hozel u hu, fun w hw => hsozcuk w hw u hu⟩

/-- A token begins with one of two brackets. -/
theorem rolToken_cons (hc : harfKatla c ≠ '<' ∧ harfKatla c ≠ '[') : rolToken (c :: s) = none := by
  rw [rolToken_eq_none]
  constructor
  · by_contra h
    obtain ⟨r, hr⟩ := Option.ne_none_iff_exists'.mp h
    obtain ⟨ad, had, -⟩ := ozelToken_eq_some.mp hr
    obtain ⟨rfl, -⟩ := List.cons_eq_cons.mp had
    exact hc.1 (by decide)
  · intro w hw
    by_contra h
    obtain ⟨r, hr⟩ := Option.ne_none_iff_exists'.mp h
    obtain ⟨q, hq, hmap⟩ := sozcuk_eq_some.mp hr
    have hbas : rolSozcukleri.all fun w => ((w.toList.map harfKatla).head?.all fun d => d = '<' ∨ d = '[') &&
        !w.toList.isEmpty := by decide
    have hw := List.all_eq_true.mp hbas w hw
    rw [← hmap] at hw
    cases q with
    | nil =>
      have hnil : w.toList = [] := List.map_eq_nil_iff.mp hmap.symm
      simp [hnil] at hw
    | cons d q =>
      obtain ⟨rfl, -⟩ := List.cons_eq_cons.mp hq
      simp only [List.map_cons, List.head?_cons, Option.all_some, Bool.and_eq_true, decide_eq_true_eq] at hw
      exact hw.1.elim hc.1 hc.2

end Parts

section Passes
variable {s t : List Char} {n : ℕ} {p : Char → Bool} {b c : Char} {f : List Char → Option (List Char)} {w : String}

theorem consumes_dizi (hn : 0 < n) : Consumes (dizi n p) := by
  intro c s rest h
  rw [dizi] at h
  split_ifs at h with hlen
  obtain rfl := Option.some.inj h
  cases hc : p c with
  | true =>
    rw [List.dropWhile_cons_of_pos hc]
    exact List.dropWhile_suffix p
  | false =>
    rw [List.takeWhile_cons_of_neg (by simp [hc])] at hlen
    exact absurd hlen (not_le.mpr hn)

theorem consumes_sozcuk (hw : w ≠ "") : Consumes (sozcuk · w) := by
  intro c s rest h
  change sozcuk (c :: s) w = some rest at h
  rw [sozcuk] at h
  split_ifs at h
  obtain rfl := Option.some.inj h
  obtain ⟨k, hk⟩ := Nat.exists_eq_succ_of_ne_zero (mt String.length_eq_zero_iff.mp hw)
  rw [hk, List.drop_succ_cons]
  exact List.drop_suffix k s

theorem consumes_rolToken : Consumes rolToken := by
  intro c s rest h
  rcases Option.or_eq_some_iff.mp h with h | ⟨-, h⟩
  · obtain ⟨ad, had, -⟩ := ozelToken_eq_some.mp h
    obtain ⟨rfl, rfl⟩ := List.cons_eq_cons.mp had
    exact ⟨'|' :: (ad ++ ['|', '>']), by simp⟩
  · obtain ⟨w, hw, h⟩ := List.exists_of_findSome?_eq_some h
    refine consumes_sozcuk ?_ c s rest h
    rintro rfl
    revert hw
    decide

theorem consumes_cit : Consumes cit := (consumes_dizi (by decide)).or (consumes_dizi (by decide))

/-- A pass that takes nothing of a class leaves the pattern of its runs what it found before. -/
theorem dizi_replaceAll (hb : p b = false) (hf : ∀ c s, p c = true → f (c :: s) = none) :
    dizi n p (replaceAll f [b] 0 s) = (dizi n p s).map (replaceAll f [b] 0) := by
  obtain ⟨htake, hdrop⟩ := @run_replaceAll _ f b s p hb hf
  rw [dizi, dizi, htake, hdrop]
  split <;> rfl

theorem dizi_of_some (hn : 0 < n) (hf : ∀ c s, p c = true → f (c :: s) = none) {rest : List Char} (h : f s = some rest) :
    dizi n p s = none := by
  rw [dizi_eq_none]
  cases s with
  | nil => exact hn
  | cons c s =>
    cases hc : p c with
    | true =>
      rw [hf c s hc] at h
      cases h
    | false =>
      rw [List.takeWhile_cons_of_neg (by simp [hc])]
      exact hn

theorem rolToken_of_run {d : Char} (hd : harfKatla d ≠ '<' ∧ harfKatla d ≠ '[') :
    ∀ c s, decide (c = d) = true → rolToken (c :: s) = none := by
  intro c s hc
  rw [of_decide_eq_true hc]
  exact rolToken_cons hd

theorem cit_cons (hc : c ≠ '\x60' ∧ c ≠ '~') : cit (c :: s) = none := by
  rw [cit, Option.or_eq_none_iff, dizi_eq_none, dizi_eq_none, List.takeWhile_cons_of_neg (by simpa using hc.1),
    List.takeWhile_cons_of_neg (by simpa using hc.2)]
  decide

/-- The three passes over the marks are one. -/
theorem yapisiz_eq (ham : String) : yapisiz (tekSatirYap ham.toList) = okunan ham := by
  have hcit : ∀ t, replaceAll cit [' '] 0 (replaceAll rolToken [' '] 0 t) =
      replaceAll (fun s => (rolToken s).or (cit s)) [' '] 0 t := by
    intro t
    refine replaceAll_replaceAll consumes_rolToken consumes_cit (fun s rest h => ?_) fun s => ?_
    · rw [cit, dizi_of_some (by decide) (rolToken_of_run (by decide)) h,
        dizi_of_some (by decide) (rolToken_of_run (by decide)) h]
      rfl
    · rw [cit, dizi_replaceAll (by decide) (rolToken_of_run (by decide)),
        dizi_replaceAll (by decide) (rolToken_of_run (by decide)), cit]
      cases dizi 3 (· = '\x60') s <;> rfl
  have hdiyez : ∀ c s, decide (c = '#') = true → ((rolToken (c :: s)).or (cit (c :: s))) = none := by
    intro c s hc
    rw [of_decide_eq_true hc, rolToken_cons (by decide), cit_cons (by decide)]
    rfl
  have hbaslik : ∀ t, replaceAll baslikIsareti [' '] 0 (replaceAll (fun s => (rolToken s).or (cit s)) [' '] 0 t) =
      replaceAll isaret [' '] 0 t := by
    intro t
    exact replaceAll_replaceAll (consumes_rolToken.or consumes_cit) (consumes_dizi (by decide))
      (fun s rest h => @dizi_of_some s 2 _ (fun s => (rolToken s).or (cit s)) (by decide) hdiyez rest h) fun s => dizi_replaceAll (by decide) hdiyez
  rw [yapisiz, okunan, ← hbaslik, ← hcit]
  rfl

end Passes

/-- The text has no mark but, perhaps, special tokens. -/
structure Isaretsiz (s : List Char) : Prop where
  baslik : MatchFree baslikIsareti s
  tirnak : MatchFree (dizi 3 (· = '\x60')) s
  dalga : MatchFree (dizi 3 (· = '~')) s
  sozcuk : ∀ w ∈ rolSozcukleri, MatchFree (sozcuk · w) s

section Marks
variable {s t : List Char} {f : List Char → Option (List Char)}

theorem notMem_dizi {n : ℕ} {p : Char → Bool} {c : Char} (hc : p c = false) {q : List Char}
    (hq : q.length = n ∧ ∀ c ∈ q, p c = true) : c ∉ q := by
  intro hmem
  rw [hq.2 c hmem] at hc
  cases hc

theorem notMem_sozcuk {c : Char} (hc : rolSozcukleri.all (fun w => harfKatla c ∉ w.toList.map harfKatla) = true) {w : String}
    (hw : w ∈ rolSozcukleri) {q : List Char} (hq : q.map harfKatla = w.toList.map harfKatla) : c ∉ q := by
  intro hmem
  apply of_decide_eq_true (List.all_eq_true.mp hc w hw)
  rw [← hq]
  exact List.mem_map_of_mem hmem

theorem ne_of_getLast? {c d : Char} {q : List Char} (hc : c ∉ q) (hd : d ∈ q.getLast?) : d ≠ c := by
  rintro rfl
  exact hc (List.mem_of_getLast? hd)

theorem Isaretsiz.suffix (h : Isaretsiz s) (ht : t <:+ s) : Isaretsiz t :=
  ⟨h.baslik.suffix ht, h.tirnak.suffix ht, h.dalga.suffix ht, fun w hw => (h.sozcuk w hw).suffix ht⟩

theorem Isaretsiz.front (h : Isaretsiz (s ++ t)) : Isaretsiz s :=
  ⟨.front spells_dizi h.baslik, .front spells_dizi h.tirnak, .front spells_dizi h.dalga,
    fun w hw => .front spells_sozcuk (h.sozcuk w hw)⟩

theorem Isaretsiz.concat (h : Isaretsiz s) : Isaretsiz (s ++ ['…']) where
  baslik := .concat spells_dizi h.baslik fun _ hq _ => ne_of_getLast? (notMem_dizi (by decide) hq)
  tirnak := .concat spells_dizi h.tirnak fun _ hq _ => ne_of_getLast? (notMem_dizi (by decide) hq)
  dalga := .concat spells_dizi h.dalga fun _ hq _ => ne_of_getLast? (notMem_dizi (by decide) hq)
  sozcuk w hw := .concat spells_sozcuk (h.sozcuk w hw) fun _ hq _ => ne_of_getLast? (notMem_sozcuk (by decide) hw hq)

theorem Isaretsiz.replaceAll (h : Isaretsiz s) : Isaretsiz (replaceAll f [' '] 0 s) where
  baslik := .replaceAll spells_dizi h.baslik fun _ => notMem_dizi (by decide)
  tirnak := .replaceAll spells_dizi h.tirnak fun _ => notMem_dizi (by decide)
  dalga := .replaceAll spells_dizi h.dalga fun _ => notMem_dizi (by decide)
  sozcuk w hw := .replaceAll spells_sozcuk (h.sozcuk w hw) fun _ => notMem_sozcuk (by decide) hw

/-- The pass over the marks leaves none of them, special tokens apart. -/
theorem isaretsiz_isaret : Isaretsiz (replaceAll isaret [' '] 0 s) := by
  have hnone : ∀ u, isaret u = none → rolToken u = none ∧ (dizi 3 (· = '\x60') u = none ∧ dizi 3 (· = '~') u = none) ∧
      baslikIsareti u = none := by
    intro u h
    obtain ⟨hmark, hbaslik⟩ := Option.or_eq_none_iff.mp h
    obtain ⟨hrol, hcit⟩ := Option.or_eq_none_iff.mp hmark
    exact ⟨hrol, Option.or_eq_none_iff.mp hcit, hbaslik⟩
  exact {
    baslik := matchFree_replaceAll spells_dizi rfl (fun _ => notMem_dizi (by decide)) fun u h => (hnone u h).2.2
    tirnak := matchFree_replaceAll spells_dizi rfl (fun _ => notMem_dizi (by decide)) fun u h => (hnone u h).2.1.1
    dalga := matchFree_replaceAll spells_dizi rfl (fun _ => notMem_dizi (by decide)) fun u h => (hnone u h).2.1.2
    sozcuk := by
      intro w hw
      have hbos : rolSozcukleri.all (fun w => (sozcuk [] w).isNone) = true := by decide
      refine matchFree_replaceAll spells_sozcuk (Option.isNone_iff_eq_none.mp (List.all_eq_true.mp hbos w hw))
        (fun _ => notMem_sozcuk (by decide) hw) fun u h => ?_
      exact (rolToken_eq_none.mp (hnone u h).1).2 w hw }

theorem etiketsiz_suffix : etiketsiz s <:+ s := by
  rw [etiketsiz]
  cases h : rolAdlari.findSome? (etiketSonu (s.dropWhile boslukMu)) with
  | none => exact List.suffix_rfl
  | some metin =>
    obtain ⟨ad, -, had⟩ := List.exists_of_findSome?_eq_some h
    obtain ⟨rest, hrest, had⟩ := Option.bind_eq_some_iff.mp had
    obtain ⟨q, hq, -⟩ := sozcuk_eq_some.mp hrest
    split at had
    · next kalan hkalan =>
      obtain rfl := Option.some.inj had
      have hbehind : kalan <:+ rest := (List.suffix_cons ':' kalan).trans (hkalan ▸ List.dropWhile_suffix boslukMu)
      have hrest : rest <:+ s := by
        have hdrop := @List.dropWhile_suffix _ s boslukMu
        rw [hq] at hdrop
        exact (List.suffix_append q rest).trans hdrop
      exact (List.dropWhile_suffix boslukMu).trans (hbehind.trans hrest)
    · cases had

theorem isaretsiz_okunan {ham : String} : Isaretsiz (okunan ham) := isaretsiz_isaret.suffix etiketsiz_suffix

end Marks
/-- Every run of blanks as one character. -/
def tekBosluk (s : List Char) : List Char := replaceAll (dizi 2 boslukMu) [' '] 0 s

section Blanks
variable {s t y : List Char} {c d : Char} {n : ℕ}

theorem tekBosluk_cons (hc : boslukMu c = false) : tekBosluk (c :: s) = c :: tekBosluk s := by
  refine replaceAll_of_none ?_
  rw [dizi_eq_none, List.takeWhile_cons_of_neg (by simp [hc])]
  decide

/-- What stands behind the blanks of a text is not one. -/
theorem dropWhile_cases (s : List Char) :
    s.dropWhile boslukMu = [] ∨ ∃ c t, s.dropWhile boslukMu = c :: t ∧ boslukMu c = false := by
  cases h : s.dropWhile boslukMu with
  | nil => exact .inl rfl
  | cons c t =>
    have hhead := List.head?_dropWhile_not boslukMu s
    rw [h, List.head?_cons] at hhead
    exact .inr ⟨c, t, rfl, by simpa using hhead⟩

/-- A run of blanks becomes one blank. -/
theorem tekBosluk_bosluk (hc : boslukMu c = true) :
    ∃ d, boslukMu d = true ∧ tekBosluk (c :: s) = d :: tekBosluk (s.dropWhile boslukMu) := by
  cases s with
  | nil =>
    refine ⟨c, hc, replaceAll_of_none ?_⟩
    rw [dizi_eq_none, List.takeWhile_cons_of_pos hc]
    exact Nat.lt_succ_self 1
  | cons e s =>
    cases he : boslukMu e with
    | false =>
      refine ⟨c, hc, ?_⟩
      rw [List.dropWhile_cons_of_neg (by simp [he])]
      refine replaceAll_of_none ?_
      rw [dizi_eq_none, List.takeWhile_cons_of_pos hc, List.takeWhile_cons_of_neg (by simp [he])]
      exact Nat.lt_succ_self 1
    | true =>
      refine ⟨' ', by decide, ?_⟩
      have hmatch : dizi 2 boslukMu (c :: e :: s) = some ((e :: s).dropWhile boslukMu) := by
        rw [dizi, List.takeWhile_cons_of_pos hc, List.takeWhile_cons_of_pos he, List.dropWhile_cons_of_pos hc,
          if_pos (by simp)]
      exact replaceAll_of_some (consumes_dizi (by decide)) hmatch

theorem dropWhile_tekBosluk_behind : (tekBosluk (s.dropWhile boslukMu)).dropWhile boslukMu = tekBosluk (s.dropWhile boslukMu) := by
  rcases dropWhile_cases s with h | ⟨c, t, h, hc⟩
  · rw [h]
    rfl
  · rw [h, tekBosluk_cons hc, List.dropWhile_cons_of_neg (by simp [hc])]

theorem dropWhile_tekBosluk : (tekBosluk s).dropWhile boslukMu = tekBosluk (s.dropWhile boslukMu) := by
  cases s with
  | nil => rfl
  | cons c s =>
    cases hc : boslukMu c with
    | false => rw [tekBosluk_cons hc, List.dropWhile_cons_of_neg (by simp [hc]), List.dropWhile_cons_of_neg (by simp [hc]),
        tekBosluk_cons hc]
    | true =>
      obtain ⟨d, hd, hmake⟩ := @tekBosluk_bosluk s c hc
      rw [hmake, List.dropWhile_cons_of_pos hd, List.dropWhile_cons_of_pos hc, dropWhile_tekBosluk_behind]

theorem takeWhile_of_dropWhile {p : Char → Bool} (h : s.dropWhile p = s) : s.takeWhile p = [] := by
  cases s with
  | nil => rfl
  | cons c s =>
    cases hc : p c with
    | false => exact List.takeWhile_cons_of_neg (by simp [hc])
    | true =>
      rw [List.dropWhile_cons_of_pos hc] at h
      have := (List.dropWhile_suffix (l := s) p).length_le
      rw [h, List.length_cons] at this
      omega

/-- There are no two blanks in a row any more. -/
theorem matchFree_tekBosluk : MatchFree (dizi 2 boslukMu) (tekBosluk s) := by
  intro u hu
  obtain ⟨t, -, rfl⟩ := suffix_replaceAll hu
  change dizi 2 boslukMu (tekBosluk t) = none
  rw [dizi_eq_none]
  cases t with
  | nil => decide
  | cons c t =>
    cases hc : boslukMu c with
    | false =>
      rw [tekBosluk_cons hc, List.takeWhile_cons_of_neg (by simp [hc])]
      decide
    | true =>
      obtain ⟨d, hd, hmake⟩ := @tekBosluk_bosluk t c hc
      rw [hmake, List.takeWhile_cons_of_pos hd, takeWhile_of_dropWhile dropWhile_tekBosluk_behind]
      exact Nat.lt_succ_self 1

/-- A character that is not a blank was there before. -/
theorem tekBosluk_eq_cons (hc : boslukMu c = false) : tekBosluk s = c :: y ↔ ∃ t, s = c :: t ∧ tekBosluk t = y := by
  constructor
  · intro h
    cases s with
    | nil => cases h
    | cons d s =>
      cases hd : boslukMu d with
      | false =>
        rw [tekBosluk_cons hd] at h
        obtain ⟨rfl, rfl⟩ := List.cons_eq_cons.mp h
        exact ⟨s, rfl, rfl⟩
      | true =>
        obtain ⟨e, he, hmake⟩ := @tekBosluk_bosluk s d hd
        obtain ⟨rfl, -⟩ := List.cons_eq_cons.mp (hmake.symm.trans h)
        rw [he] at hc
        cases hc
  · rintro ⟨t, rfl, rfl⟩
    exact tekBosluk_cons hc

theorem suffix_dropWhile {p : Char → Bool} (hc : p c = false) (h : c :: t <:+ s) : c :: t <:+ s.dropWhile p := by
  induction s with
  | nil => exact h
  | cons d s ih =>
    cases hd : p d with
    | false =>
      rw [List.dropWhile_cons_of_neg (by simp [hd])]
      exact h
    | true =>
      rw [List.dropWhile_cons_of_pos hd]
      rcases List.suffix_cons_iff.mp h with h | h
      · obtain ⟨rfl, -⟩ := List.cons_eq_cons.mp h
        rw [hd] at hc
        cases hc
      · exact ih h

/-- A suffix that begins with a character other than a blank is made on its own. -/
theorem suffix_tekBosluk (hc : boslukMu c = false) (h : c :: t <:+ s) : tekBosluk (c :: t) <:+ tekBosluk s := by
  induction hlen : s.length using Nat.strongRecOn generalizing s with
  | ind m ih =>
    cases s with
    | nil => cases List.suffix_nil.mp h
    | cons d s =>
      rcases List.suffix_cons_iff.mp h with h | h
      · obtain ⟨rfl, rfl⟩ := List.cons_eq_cons.mp h
        exact List.suffix_rfl
      · cases hd : boslukMu d with
        | false =>
          rw [tekBosluk_cons hd]
          exact (ih s.length (by rw [← hlen, List.length_cons]; omega) h rfl).trans (List.suffix_cons d _)
        | true =>
          obtain ⟨e, -, hmake⟩ := @tekBosluk_bosluk s d hd
          rw [hmake]
          have hlt : (s.dropWhile boslukMu).length < m := by
            have := (List.dropWhile_suffix (l := s) boslukMu).length_le
            rw [← hlen, List.length_cons]
            omega
          exact (ih _ hlt (suffix_dropWhile hc h) rfl).trans (List.suffix_cons e _)

/-- A character that does not end the name of a token keeps one place in it, and so does a run of blanks. -/
theorem kapanir_succ (hc : c ≠ '|') (hc' : c ≠ '>') : ∃ d t, adHarfi d = true ∧ tekBosluk (c :: s) = d :: tekBosluk t ∧
    kapanir 0 (c :: s) = false ∧ ∀ n, kapanir (n + 1) (c :: s) = kapanir n t := by
  have hzero : kapanir 0 (c :: s) = false := by rw [kapanir, if_neg hc, if_neg hc']
  have hsucc : ∀ n, kapanir (n + 1) (c :: s) = kapanir n (if boslukMu c then s.dropWhile boslukMu else s) := by
    intro n
    rw [kapanir, if_neg hc, if_neg hc']
  cases hb : boslukMu c with
  | false =>
    refine ⟨c, s, decide_eq_true ⟨hc, hc'⟩, tekBosluk_cons hb, hzero, fun n => ?_⟩
    rw [hsucc, hb]
    rfl
  | true =>
    obtain ⟨d, hd, hmake⟩ := @tekBosluk_bosluk s c hb
    refine ⟨d, _, decide_eq_true ⟨?_, ?_⟩, hmake, hzero, fun n => by rw [hsucc, if_pos hb]⟩
    · rintro rfl
      revert hd
      decide
    · rintro rfl
      revert hd
      decide

/-- At most `n` characters of a name stand in front of `|>`. -/
def Kapali (n : ℕ) (s : List Char) : Prop :=
  ∃ ad y : List Char, s = ad ++ '|' :: '>' :: y ∧ ad.length ≤ n ∧ ∀ c ∈ ad, adHarfi c = true

theorem kapali_bar : Kapali n ('|' :: s) ↔ s.head? = some '>' := by
  constructor
  · rintro ⟨ad, y, h, -, had⟩
    cases ad with
    | nil =>
      obtain ⟨-, rfl⟩ := List.cons_eq_cons.mp h
      rfl
    | cons c ad =>
      obtain ⟨rfl, -⟩ := List.cons_eq_cons.mp h
      exact absurd (had '|' List.mem_cons_self) (by decide)
  · intro h
    obtain ⟨y, rfl⟩ := List.head?_eq_some_iff.mp h
    exact ⟨[], y, rfl, Nat.zero_le n, fun c hc => absurd hc List.not_mem_nil⟩

theorem not_kapali_gt : ¬ Kapali n ('>' :: s) := by
  rintro ⟨ad, y, h, -, had⟩
  cases ad with
  | nil => exact absurd (List.cons_eq_cons.mp h).1 (by decide)
  | cons c ad =>
    obtain ⟨rfl, -⟩ := List.cons_eq_cons.mp h
    exact absurd (had '>' List.mem_cons_self) (by decide)

theorem kapali_cons (hc : adHarfi c = true) : Kapali n (c :: s) ↔ ∃ m, n = m + 1 ∧ Kapali m s := by
  constructor
  · rintro ⟨ad, y, h, hlen, had⟩
    cases ad with
    | nil =>
      obtain ⟨rfl, -⟩ := List.cons_eq_cons.mp h
      exact absurd hc (by decide)
    | cons d ad =>
      obtain ⟨rfl, rfl⟩ := List.cons_eq_cons.mp h
      rw [List.length_cons] at hlen
      exact ⟨n - 1, by omega, ad, y, rfl, by omega, (List.forall_mem_cons.mp had).2⟩
  · rintro ⟨m, rfl, ad, y, rfl, hlen, had⟩
    exact ⟨c :: ad, y, rfl, Nat.succ_le_succ hlen, List.forall_mem_cons.mpr ⟨hc, had⟩⟩

theorem kapanir_bar : kapanir n ('|' :: s) = true ↔ Kapali n (tekBosluk ('|' :: s)) := by
  have hhead : (tekBosluk s).head? = some '>' ↔ s.head? = some '>' := by
    rw [List.head?_eq_some_iff, List.head?_eq_some_iff]
    constructor
    · rintro ⟨y, hy⟩
      obtain ⟨t, rfl, -⟩ := (tekBosluk_eq_cons (by decide)).mp hy
      exact ⟨t, rfl⟩
    · rintro ⟨t, rfl⟩
      exact ⟨_, tekBosluk_cons (by decide)⟩
  rw [tekBosluk_cons (by decide), kapali_bar, hhead, kapanir.eq_def]
  dsimp only
  rw [if_pos rfl, decide_eq_true_iff]

theorem kapanir_gt : kapanir n ('>' :: s) = false := by
  rw [kapanir.eq_def]
  dsimp only
  rw [if_neg (by decide), if_pos rfl]

/-- The name closes where it does in the text in which every run of blanks is one. -/
theorem kapanir_iff : kapanir n s = true ↔ Kapali n (tekBosluk s) := by
  induction n generalizing s with
  | zero =>
    cases s with
    | nil => exact iff_of_false (by simp [kapanir]) (by rintro ⟨ad, y, h, -⟩; cases ad <;> cases h)
    | cons c s =>
      by_cases hc : c = '|'
      · rw [hc]
        exact kapanir_bar
      by_cases hc' : c = '>'
      · rw [hc', kapanir_gt, tekBosluk_cons (by decide)]
        exact iff_of_false Bool.false_ne_true not_kapali_gt
      · obtain ⟨d, t, hd, hmake, hzero, -⟩ := @kapanir_succ s c hc hc'
        rw [hmake, hzero, kapali_cons hd]
        exact iff_of_false Bool.false_ne_true fun ⟨m, hm, _⟩ => absurd hm (Nat.succ_ne_zero m).symm
  | succ n ih =>
    cases s with
    | nil => exact iff_of_false (by simp [kapanir]) (by rintro ⟨ad, y, h, -⟩; cases ad <;> cases h)
    | cons c s =>
      by_cases hc : c = '|'
      · rw [hc]
        exact kapanir_bar
      by_cases hc' : c = '>'
      · rw [hc', kapanir_gt, tekBosluk_cons (by decide)]
        exact iff_of_false Bool.false_ne_true not_kapali_gt
      · obtain ⟨d, t, hd, hmake, -, hsucc⟩ := @kapanir_succ s c hc hc'
        rw [hmake, hsucc, kapali_cons hd, ih]
        constructor
        · exact fun h => ⟨n, rfl, h⟩
        · rintro ⟨m, hm, h⟩
          obtain rfl := Nat.succ.inj hm
          exact h

/-- Special tokens are left exactly where one closes behind a name in which every run of blanks is one character. -/
theorem ozelToken_tekBosluk : MatchFree ozelToken (tekBosluk s) ↔ ∀ t, '<' :: '|' :: t <:+ s → kapanir 40 t = false := by
  constructor
  · intro h t ht
    by_contra hclose
    rw [Bool.not_eq_false, kapanir_iff] at hclose
    obtain ⟨ad, y, hy, hlen, had⟩ := hclose
    have hu := suffix_tekBosluk (by decide) ht
    rw [tekBosluk_cons (by decide), tekBosluk_cons (by decide), hy] at hu
    have hsome : ozelToken ('<' :: '|' :: (ad ++ '|' :: '>' :: y)) = some y := ozelToken_eq_some.mpr ⟨ad, rfl, hlen, had⟩
    rw [h _ hu] at hsome
    cases hsome
  · intro h u hu
    by_contra hne
    obtain ⟨r, hr⟩ := Option.ne_none_iff_exists'.mp hne
    obtain ⟨ad, rfl, hlen, had⟩ := ozelToken_eq_some.mp hr
    obtain ⟨t, ht, hmake⟩ := suffix_replaceAll hu
    obtain ⟨t, rfl, hbar⟩ := (tekBosluk_eq_cons (by decide)).mp (show tekBosluk t = _ from hmake.symm)
    obtain ⟨t, rfl, hname⟩ := (tekBosluk_eq_cons (by decide)).mp hbar
    have hclose : kapanir 40 t = true := kapanir_iff.mpr ⟨ad, r, hname, hlen, had⟩
    rw [h t ht] at hclose
    cases hclose

end Blanks

/-- A role label is in front of the text. -/
def EtiketBasi (s : List Char) : Prop := ∃ ad ∈ rolAdlari, ∃ q r y : List Char, s = q ++ r ∧
  q.map harfKatla = ad.toList.map harfKatla ∧ r.dropWhile boslukMu = ':' :: y

section Labels
variable {s t q r y : List Char} {c : Char}

theorem etiketSonu_isSome {ad : String} : (etiketSonu s ad).isSome = true ↔ ∃ q r y : List Char, s = q ++ r ∧
    q.map harfKatla = ad.toList.map harfKatla ∧ r.dropWhile boslukMu = ':' :: y := by
  constructor
  · intro h
    obtain ⟨metin, hmetin⟩ := Option.isSome_iff_exists.mp h
    obtain ⟨r, hr, hcolon⟩ := Option.bind_eq_some_iff.mp hmetin
    obtain ⟨q, hs, hq⟩ := sozcuk_eq_some.mp hr
    split at hcolon
    · next y hy => exact ⟨q, r, y, hs, hq, hy⟩
    · cases hcolon
  · rintro ⟨q, r, y, rfl, hq, hy⟩
    rw [etiketSonu, sozcuk_eq_some.mpr ⟨q, rfl, hq⟩, Option.bind_some, hy]
    rfl

theorem etiketli_iff : etiketli s = true ↔ EtiketBasi (s.dropWhile boslukMu) := by
  rw [etiketli, List.isSome_findSome?, List.any_eq_true]
  exact exists_congr fun ad => and_congr_right fun _ => etiketSonu_isSome

theorem harfKatla_bosluk (hc : boslukMu c = true) : harfKatla c = c := by
  have hne : ∀ d, boslukMu d = false → c ≠ d := by
    rintro d hd rfl
    rw [hd] at hc
    cases hc
  have hk : c.toNat ≠ 0x212a := by
    intro h
    rw [boslukMu, h] at hc
    revert hc
    decide
  have hupper : c.isUpper = false := by
    by_contra h
    have hall : ((List.range' 65 26).map Char.ofNat).all (fun d => !boslukMu d) = true := by decide
    have := List.all_eq_true.mp hall c (mem_of_isUpper (Bool.not_eq_false _ ▸ h))
    rw [hc] at this
    cases this
  rw [harfKatla, if_neg (not_or.mpr ⟨hne _ (by decide), hne _ (by decide)⟩), if_neg (hne _ (by decide)), if_neg hk,
    toLower_of_not_isUpper hupper]

/-- No letter of a role is a blank, an ellipsis or a colon. -/
theorem solid_ad {ad : String} (had : ad ∈ rolAdlari) (hq : q.map harfKatla = ad.toList.map harfKatla) :
    ∀ c ∈ q, boslukMu c = false ∧ harfKatla c ≠ '…' := by
  have hall : rolAdlari.all fun ad => (ad.toList.map harfKatla).all fun d => !boslukMu d && d != '…' := by decide
  intro c hc
  have hmem : harfKatla c ∈ ad.toList.map harfKatla := hq ▸ List.mem_map_of_mem hc
  have hd := List.all_eq_true.mp (List.all_eq_true.mp hall ad had) _ hmem
  rw [Bool.and_eq_true, bne_iff_ne] at hd
  refine ⟨?_, hd.2⟩
  by_contra hb
  rw [Bool.not_eq_false] at hb
  rw [harfKatla_bosluk hb, hb] at hd
  exact absurd hd.1 (by decide)

theorem EtiketBasi.append (h : EtiketBasi s) : EtiketBasi (s ++ t) := by
  obtain ⟨ad, had, q, r, y, rfl, hq, hy⟩ := h
  refine ⟨ad, had, q, r ++ t, y ++ t, List.append_assoc q r t, hq, ?_⟩
  rw [List.dropWhile_append, hy]
  rfl

/-- What is put behind the text makes no label, if it is of blanks or an ellipsis. -/
theorem EtiketBasi.of_append (h : EtiketBasi (s ++ t)) (ht : ∀ c ∈ t, c ≠ ':' ∧ (boslukMu c = true ∨ harfKatla c = '…')) :
    EtiketBasi s := by
  obtain ⟨ad, had, q, r, y, hs, hq, hy⟩ := h
  obtain ⟨r, rfl, rfl⟩ : ∃ r', s = q ++ r' ∧ r = r' ++ t := by
    rcases List.append_eq_append_iff.mp hs with ⟨a, rfl, rfl⟩ | ⟨a, rfl, rfl⟩
    · cases a with
      | nil => exact ⟨[], by simp, by simp⟩
      | cons c a =>
        obtain ⟨hb, hell⟩ := solid_ad had hq c (by simp)
        rcases (ht c (by simp)).2 with hc | hc
        · rw [hc] at hb
          cases hb
        · exact absurd hc hell
    · exact ⟨a, rfl, rfl⟩
  rw [List.dropWhile_append] at hy
  split at hy
  · have hmem : ':' ∈ t := (List.dropWhile_suffix boslukMu).subset (hy ▸ List.mem_cons_self)
    exact absurd rfl (ht ':' hmem).1
  · next hne =>
    cases hr : r.dropWhile boslukMu with
    | nil => exact absurd (by rw [hr]; rfl) hne
    | cons c z =>
      rw [hr] at hy
      obtain ⟨rfl, -⟩ := List.cons_eq_cons.mp hy
      exact ⟨ad, had, q, r, z, rfl, hq, hr⟩

theorem tekBosluk_append (hq : ∀ c ∈ q, boslukMu c = false) : tekBosluk (q ++ r) = q ++ tekBosluk r := by
  induction q with
  | nil => rfl
  | cons c q ih =>
    rw [List.cons_append, tekBosluk_cons (hq c List.mem_cons_self), ih fun d hd => hq d (List.mem_cons_of_mem c hd)]
    rfl

theorem tekBosluk_eq_append (hq : ∀ c ∈ q, boslukMu c = false) (h : tekBosluk s = q ++ r) :
    ∃ t, s = q ++ t ∧ tekBosluk t = r := by
  induction q generalizing s with
  | nil => exact ⟨s, rfl, h⟩
  | cons c q ih =>
    obtain ⟨u, rfl, hu⟩ := (tekBosluk_eq_cons (hq c List.mem_cons_self)).mp h
    obtain ⟨t, rfl, ht⟩ := ih (fun d hd => hq d (List.mem_cons_of_mem c hd)) hu
    exact ⟨t, rfl, ht⟩

theorem dropWhile_tekBosluk_eq_cons (hc : boslukMu c = false) :
    (∃ y, (tekBosluk s).dropWhile boslukMu = c :: y) ↔ ∃ y, s.dropWhile boslukMu = c :: y := by
  rw [dropWhile_tekBosluk]
  constructor
  · rintro ⟨y, hy⟩
    obtain ⟨t, ht, -⟩ := (tekBosluk_eq_cons hc).mp hy
    exact ⟨t, ht⟩
  · rintro ⟨y, hy⟩
    rw [hy]
    exact ⟨_, tekBosluk_cons hc⟩

theorem etiketBasi_tekBosluk : EtiketBasi (tekBosluk s) ↔ EtiketBasi s := by
  constructor
  · rintro ⟨ad, had, q, r, y, hs, hq, hy⟩
    obtain ⟨t, rfl, rfl⟩ := tekBosluk_eq_append (fun c hc => (solid_ad had hq c hc).1) hs
    obtain ⟨z, hz⟩ := (dropWhile_tekBosluk_eq_cons (by decide)).mp ⟨y, hy⟩
    exact ⟨ad, had, q, t, z, rfl, hq, hz⟩
  · rintro ⟨ad, had, q, r, y, rfl, hq, hy⟩
    obtain ⟨z, hz⟩ := (dropWhile_tekBosluk_eq_cons (by decide)).mpr ⟨y, hy⟩
    exact ⟨ad, had, q, tekBosluk r, z, tekBosluk_append fun c hc => (solid_ad had hq c hc).1, hq, hz⟩

end Labels

/-- One sees the character, and it does not end a line. -/
structure GozleGorunur (c : Char) : Prop where
  kontrolsuz : kontrolMu c = false
  bicimsiz : bicimMi c = false
  satirda : satirSonuMu c = false

section Strip
variable {s : List Char} {c : Char}

theorem getLast?_token (ad : List Char) : ('<' :: '|' :: (ad ++ ['|', '>'])).getLast? = some '>' := by
  rw [show '<' :: '|' :: (ad ++ ['|', '>']) = ('<' :: '|' :: (ad ++ ['|'])) ++ ['>'] by simp, List.getLast?_concat]

/-- What `str.strip` takes away behind the text is of blanks. -/
theorem dropWhile_eq_kirp (s : List Char) :
    ∃ x, s.dropWhile boslukMu = kirp s ++ x ∧ ∀ c ∈ x, boslukMu c = true := by
  refine ⟨(s.dropWhile boslukMu).rtakeWhile boslukMu, ?_, fun c hc => ?_⟩
  · rw [kirp, List.rdropWhile_append_rtakeWhile]
  · exact List.mem_rtakeWhile_imp hc

theorem ozelToken_kirp : MatchFree ozelToken (kirp s) ↔ MatchFree ozelToken s := by
  obtain ⟨x, hx, hbosluk⟩ := dropWhile_eq_kirp s
  constructor
  · intro h u hu
    by_contra hne
    obtain ⟨rest, hrest⟩ := Option.ne_none_iff_exists'.mp hne
    obtain ⟨ad, rfl, -⟩ := ozelToken_eq_some.mp hrest
    have hu := suffix_dropWhile (show boslukMu '<' = false by decide) hu
    rw [hx] at hu
    obtain ⟨r, hr⟩ := hu
    rcases List.append_eq_append_iff.mp hr with ⟨v, hv, hmake⟩ | ⟨v, -, rfl⟩
    · -- a token ends with a bracket, which is no blank
      rw [hmake] at hne
      refine absurd (h v ⟨r, hv.symm⟩) (spells_ozelToken.of_append ?_ hne)
      rintro q ⟨ad, rfl, -⟩ d hd hmem
      rw [getLast?_token] at hd
      obtain rfl := Option.some.inj hd
      exact absurd (hbosluk _ hmem) (by decide)
    · exact absurd (hbosluk '<' (List.mem_append_right v List.mem_cons_self)) (by decide)
  · intro h
    have hfront := h.suffix (List.dropWhile_suffix boslukMu)
    rw [hx] at hfront
    exact hfront.front spells_ozelToken

theorem etiketli_kirp : etiketli (kirp s) = etiketli s := by
  obtain ⟨x, hx, hbosluk⟩ := dropWhile_eq_kirp s
  have hfront : (kirp s).dropWhile boslukMu = kirp s := dropWhile_of_front (List.rdropWhile_prefix _ _)
  rw [Bool.eq_iff_iff, etiketli_iff, etiketli_iff, hfront, hx]
  refine ⟨EtiketBasi.append, fun h => h.of_append fun c hc => ⟨?_, .inl (hbosluk c hc)⟩⟩
  rintro rfl
  exact absurd (hbosluk _ hc) (by decide)

theorem etiketli_tekBosluk : etiketli (tekBosluk s) = etiketli s := by
  rw [Bool.eq_iff_iff, etiketli_iff, etiketli_iff, dropWhile_tekBosluk, etiketBasi_tekBosluk]

end Strip

section Visible
variable {s : List Char} {c : Char}

theorem GozleGorunur.bosluk : GozleGorunur ' ' := ⟨by decide, by decide, by decide⟩

theorem gorunur_replaceAll {f : List Char → Option (List Char)} (hs : ∀ c ∈ s, GozleGorunur c) :
    ∀ c ∈ replaceAll f [' '] 0 s, GozleGorunur c := by
  intro c hc
  rcases mem_replaceAll hc with hc | ⟨hc, -⟩
  · rw [List.mem_singleton.mp hc]
    exact .bosluk
  · exact hs c hc

theorem gorunur_gorunen (ham : String) : ∀ c ∈ gorunen ham, GozleGorunur c := by
  intro c hc
  obtain ⟨d, hd, rfl⟩ := List.mem_map.mp hc
  have hline := satirSonuMu_tekSatirYap d hd
  split_ifs with htab
  · exact .bosluk
  · rcases mem_replaceAll hd with hspace | ⟨hmem, -⟩
    · rw [List.mem_singleton.mp hspace]
      exact .bosluk
    · have hkept := (List.mem_filter.mp hmem).2
      rw [Bool.or_eq_true, Bool.and_eq_true, Bool.not_eq_true', Bool.not_eq_true', decide_eq_true_iff] at hkept
      rcases hkept with ⟨hkontrol, hbicim⟩ | hother
      · exact ⟨hkontrol, hbicim, hline⟩
      · simp only [List.mem_cons, List.not_mem_nil, or_false] at hother
        rcases hother with rfl | rfl | rfl
        · exact absurd hline (by decide)
        · exact absurd hline (by decide)
        · exact absurd rfl htab

theorem gorunur_okunan (ham : String) : ∀ c ∈ okunan ham, GozleGorunur c := fun c hc =>
  gorunur_replaceAll (gorunur_gorunen ham) c (mem_etiketsiz hc)

theorem tekSatirYap_eq (hs : ∀ c ∈ s, GozleGorunur c) : tekSatirYap s = s := by
  have hfilter : s.filter (fun c => (!kontrolMu c && !bicimMi c) || decide (c ∈ ['\n', '\r', '\t'])) = s := by
    refine List.filter_eq_self.mpr fun c hc => ?_
    rw [(hs c hc).kontrolsuz, (hs c hc).bicimsiz]
    rfl
  rw [tekSatirYap, hfilter]
  refine replaceAll_of_matchFree fun u hu => ?_
  cases u with
  | nil => rfl
  | cons c u =>
    have hline := (hs c (hu.subset List.mem_cons_self)).satirda
    refine dizi_eq_none.mpr ?_
    rw [List.takeWhile_cons_of_neg]
    · exact Nat.one_pos
    · rw [satirSonuMu, decide_eq_false_iff_not] at hline
      simp only [List.mem_cons, List.not_mem_nil, or_false] at hline ⊢
      simp only [decide_eq_true_eq]
      omega

end Visible

/-- The text is as the passes leave it. -/
structure Temiz (s : List Char) : Prop where
  gorunur : ∀ c ∈ s, GozleGorunur c
  isaretsiz : Isaretsiz s
  ozelsiz : MatchFree ozelToken s
  etiketsiz : etiketli s = false
  tekBosluklu : MatchFree (dizi 2 boslukMu) s
  kirpik : kirp s = s

section Answer
variable {s t : List Char} {azami : ℕ}

theorem yapisiz_of_temiz (h : Temiz s) : yapisiz s = s := by
  have htab : s.map (fun c => if c = '\t' then ' ' else c) = s := by
    calc
      _ = s.map id := List.map_congr_left fun c hc => if_neg fun hc' => by
        have hkontrol := (h.gorunur c hc).kontrolsuz
        rw [hc'] at hkontrol
        exact absurd hkontrol (by decide)
      _ = s := List.map_id s
  have hrol : MatchFree rolToken s := matchFree_rolToken.mpr ⟨h.ozelsiz, h.isaretsiz.sozcuk⟩
  have hcit : MatchFree cit s := matchFree_or.mpr ⟨h.isaretsiz.tirnak, h.isaretsiz.dalga⟩
  have hetiket : rolAdlari.findSome? (etiketSonu (s.dropWhile boslukMu)) = none := by
    rw [← Option.not_isSome_iff_eq_none, ← etiketli, h.etiketsiz]
    exact Bool.false_ne_true
  rw [yapisiz, htab, replaceAll_of_matchFree hrol, replaceAll_of_matchFree hcit, replaceAll_of_matchFree h.isaretsiz.baslik, Rules.etiketsiz,
    hetiket, Option.getD_none]

/-- Nothing is left to do for the passes. -/
theorem Temiz.guvenliMetin (h : Temiz s) (hs : s.length ≤ azami) :
    guvenliMetin (some (String.ofList s)) azami = String.ofList s := by
  rw [Rules.guvenliMetin, String.toList_ofList, tekSatirYap_eq h.gorunur, yapisiz_of_temiz h, replaceAll_of_matchFree h.tekBosluklu, h.kirpik,
    if_neg fun hcut => absurd hcut.2 (not_lt.mpr hs)]

/-- The text that is cut is as clean as the whole. -/
theorem Temiz.kes (h : Temiz (s ++ t)) : Temiz (s.rdropWhile boslukMu ++ ['…']) := by
  obtain ⟨x, hx⟩ := List.rdropWhile_prefix boslukMu (l := s)
  have hwhole : s ++ t = s.rdropWhile boslukMu ++ (x ++ t) := by rw [← List.append_assoc, hx]
  rw [hwhole] at h
  have hfront : (s.rdropWhile boslukMu ++ (x ++ t)).dropWhile boslukMu = s.rdropWhile boslukMu ++ (x ++ t) := by
    rw [← h.kirpik]
    exact dropWhile_of_front (List.rdropWhile_prefix _ _)
  have hkept : (s.rdropWhile boslukMu ++ ['…']).dropWhile boslukMu = s.rdropWhile boslukMu ++ ['…'] := by
    cases hcut : s.rdropWhile boslukMu with
    | nil => exact List.dropWhile_cons_of_neg (by decide)
    | cons c q =>
      rw [hcut] at hfront
      refine List.dropWhile_cons_of_neg fun hc => ?_
      have hnone := takeWhile_of_dropWhile hfront
      rw [List.cons_append, List.takeWhile_cons_of_pos hc] at hnone
      cases hnone
  exact {
    gorunur := by
      intro c hc
      rcases List.mem_append.mp hc with hc | hc
      · exact h.gorunur c (List.mem_append_left _ hc)
      · rw [List.mem_singleton.mp hc]
        exact ⟨by decide, by decide, by decide⟩
    isaretsiz := h.isaretsiz.front.concat
    ozelsiz := by
      refine (h.ozelsiz.front spells_ozelToken).concat spells_ozelToken ?_
      rintro q ⟨ad, rfl, -⟩ d hd
      rw [getLast?_token] at hd
      obtain rfl := Option.some.inj hd
      decide
    etiketsiz := by
      have hwithout := h.etiketsiz
      rw [← Bool.not_eq_true, etiketli_iff] at hwithout ⊢
      rw [hfront] at hwithout
      rw [hkept]
      intro hlabel
      refine hwithout (hlabel.of_append fun c hc => ?_).append
      rw [List.mem_singleton.mp hc]
      exact ⟨by decide, .inr (by decide)⟩
    tekBosluklu := by
      refine (h.tekBosluklu.front spells_dizi).concat spells_dizi fun q hq d hd => ?_
      exact ne_of_getLast? (notMem_dizi (by decide) hq) hd
    kirpik := by
      rw [kirp, hkept]
      exact List.rdropWhile_concat_neg _ _ _ (by decide) }

theorem Duz.temiz {ham : String} (h : Duz ham) : Temiz (kirp (tekBosluk (okunan ham))) := by
  have hmem : ∀ c ∈ tekBosluk (okunan ham), GozleGorunur c := gorunur_replaceAll (gorunur_okunan ham)
  obtain ⟨x, hx, -⟩ := dropWhile_eq_kirp (tekBosluk (okunan ham))
  have hone : Isaretsiz (kirp (tekBosluk (okunan ham)) ++ x) := hx ▸ isaretsiz_okunan.replaceAll.suffix (List.dropWhile_suffix _)
  have hrun : MatchFree (dizi 2 boslukMu) (kirp (tekBosluk (okunan ham)) ++ x) :=
    hx ▸ matchFree_tekBosluk.suffix (List.dropWhile_suffix _)
  exact {
    gorunur := fun c hc => hmem c (mem_kirp hc)
    isaretsiz := hone.front
    ozelsiz := ozelToken_kirp.mpr (ozelToken_tekBosluk.mpr h.kapanmaz)
    etiketsiz := by rw [etiketli_kirp, etiketli_tekBosluk, h.tekEtiket]
    tekBosluklu := hrun.front spells_dizi
    kirpik := kirp_kirp }

theorem guvenliMetin_eq (ham : String) : guvenliMetin (some ham) azami = String.ofList
    (if azami ≠ 0 ∧ azami < (kirp (tekBosluk (okunan ham))).length then
      ((kirp (tekBosluk (okunan ham))).take (azami - 1)).rdropWhile boslukMu ++ ['…']
    else kirp (tekBosluk (okunan ham))) := by
  rw [Rules.guvenliMetin, yapisiz_eq]
  rfl

theorem Temiz.arinmis (h : Temiz s) (hs : s.length ≤ azami) : Arinmis azami (String.ofList s) where
  tekSatir c hc := by
    rw [String.toList_ofList] at hc
    exact (h.gorunur c hc).satirda
  basliksiz := by
    rw [String.toList_ofList]
    exact h.isaretsiz.baslik
  citsiz := by
    rw [String.toList_ofList]
    exact matchFree_or.mpr ⟨h.isaretsiz.tirnak, h.isaretsiz.dalga⟩
  tokensiz := by
    rw [String.toList_ofList]
    exact matchFree_rolToken.mpr ⟨h.ozelsiz, h.isaretsiz.sozcuk⟩
  etiketsiz := by
    rw [String.toList_ofList]
    exact h.etiketsiz
  kisa := by
    rw [String.toList_ofList]
    exact hs
  sabit := h.guvenliMetin hs

end Answer

/-- The sanitiser keeps its promises for a text, whatever the limit, exactly when the text is straight. -/
theorem guvenliMetin_arinmis_iff (ham : String) :
    (∀ azami, 0 < azami → Arinmis azami (guvenliMetin (some ham) azami)) ↔ Duz ham := by
  constructor
  · intro h
    -- a limit that cuts nothing
    have hlen := Nat.lt_succ_self (kirp (tekBosluk (okunan ham))).length
    have harin := h _ (Nat.succ_pos (kirp (tekBosluk (okunan ham))).length)
    rw [guvenliMetin_eq, if_neg fun hcut => absurd hcut.2 (not_lt.mpr hlen.le)] at harin
    have htoken := harin.tokensiz
    have hetiket := harin.etiketsiz
    rw [String.toList_ofList] at htoken hetiket
    constructor
    · exact ozelToken_tekBosluk.mp (ozelToken_kirp.mp (matchFree_rolToken.mp htoken).1)
    · rw [← etiketli_tekBosluk, ← etiketli_kirp, hetiket]
  · intro h azami hazami
    have htemiz := h.temiz
    rw [guvenliMetin_eq]
    split_ifs with hcut
    · have hlen : (((kirp (tekBosluk (okunan ham))).take (azami - 1)).rdropWhile boslukMu).length ≤ azami - 1 :=
        (List.rdropWhile_prefix boslukMu _).length_le.trans (List.length_take_le _ _)
      rw [← List.take_append_drop (azami - 1) (kirp (tekBosluk (okunan ham)))] at htemiz
      refine htemiz.kes.arinmis ?_
      rw [List.length_append, List.length_singleton]
      omega
    · refine htemiz.arinmis ?_
      by_contra hlong
      exact hcut ⟨hazami.ne', not_le.mp hlong⟩

/-- A token stands in another one: the pass over the tokens leaves the two halves around a blank. -/
theorem nested_token_left : ¬ Arinmis 200 (guvenliMetin (some "<|<|a|>|>") 200) := by
  intro h
  have hmake : guvenliMetin (some "<|<|a|>|>") 200 = "<| |>" := by decide +kernel
  rw [hmake] at h
  have hnone := h.tokensiz _ List.suffix_rfl
  revert hnone
  decide

end FinancialOs.Guarantees
