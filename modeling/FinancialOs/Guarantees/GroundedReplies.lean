import FinancialOs.Guarantees.AmountExtraction

/-! The check of the coach's answers against the texts that amounts are written as: no amount of an answer that passes
is without a ground. -/
namespace FinancialOs.Guarantees
open Library Rules Matcher

section Characters
variable {c : Char}

theorem rakamMi_of_kodlar {kodlar : List ℕ} (h : ∀ n ∈ kodlar, rakamMi (Char.ofNat n) = false) (hc : c.toNat ∈ kodlar) :
    rakamMi c = false := by
  rw [← Char.ofNat_toNat c]
  exact h _ hc

theorem rakamMi_of_boslukMu (h : boslukMu c = true) : rakamMi c = false := by
  have hkod : c.toNat ∈ List.range' 9 5 ++ List.range' 28 5 ++ List.range' 0x2000 11 ++
      [0x85, 0xa0, 0x1680, 0x2028, 0x2029, 0x202f, 0x205f, 0x3000] := by
    have h := of_decide_eq_true h
    simp only [List.mem_append, List.mem_range'_1]
    rcases h with h | h | h | h
    · exact .inl (.inl (.inl (by omega)))
    · exact .inl (.inl (.inr (by omega)))
    · exact .inl (.inr (by omega))
    · exact .inr h
  exact rakamMi_of_kodlar (by decide +kernel) hkod

/-- A digit has no case. -/
theorem erlKatla_of_rakamMi (h : rakamMi c = true) : erlKatla c = c := by
  have hne : ∀ d : Char, rakamMi d = false → c ≠ d := by
    rintro d hd rfl
    rw [hd] at h
    cases h
  have hbuyuk : c.toLower = c := by
    refine dif_neg ?_
    rintro ⟨hlow, hhigh⟩
    have hkod : c.toNat ∈ List.range' 65 26 := by
      have h65 : 65 ≤ c.toNat := UInt32.le_iff_toNat_le.mp hlow
      have h90 : c.toNat ≤ 90 := UInt32.le_iff_toNat_le.mp hhigh
      rw [List.mem_range'_1]
      omega
    rw [rakamMi_of_kodlar (by decide +kernel) hkod] at h
    cases h
  have hkelvin : c.toNat ≠ 0x212a := by
    intro hc
    rw [@rakamMi_eq_of_toNat c (Char.ofNat 0x212a) hc] at h
    exact absurd h (by decide +kernel)
  rw [erlKatla, if_neg (hne 'Ç' (by decide +kernel)), if_neg (hne 'Ğ' (by decide +kernel)),
    if_neg (hne 'Ö' (by decide +kernel)), if_neg (hne 'Ş' (by decide +kernel)), if_neg (hne 'Ü' (by decide +kernel)),
    harfKatla, if_neg (not_or.mpr ⟨hne 'İ' (by decide +kernel), hne 'ı' (by decide +kernel)⟩),
    if_neg (hne 'ſ' (by decide +kernel)), if_neg hkelvin, hbuyuk]

end Characters

section Patterns
variable {kelime : Char → Bool} {onceki : Option Char} {s k rest r ilk ds : List Char} {gruplar : List (List Char)}

/-- A text without a character that a number could go on with. -/
def Komsusuz (e : List Char) : Prop := ∀ c ∈ e, sayiKomsusu c = false

theorem sayiKomsusu_of_boslukMu {c : Char} (h : boslukMu c = true) : sayiKomsusu c = false := by
  have hnokta : c ≠ '.' := by
    rintro rfl
    exact absurd h (by decide)
  have hvirgul : c ≠ ',' := by
    rintro rfl
    exact absurd h (by decide)
  exact decide_eq_false (not_or.mpr ⟨by simp [rakamMi_of_boslukMu h], not_or.mpr ⟨hnokta, hvirgul⟩⟩)

theorem erlKatla_of_sayiKomsusu {c : Char} (h : sayiKomsusu c = true) : erlKatla c = c := by
  rcases of_decide_eq_true h with h | rfl | rfl
  · exact erlKatla_of_rakamMi h
  · decide
  · decide

theorem komsusuz_of_any {e : List Char} (h : e.any sayiKomsusu = false) : Komsusuz e := by
  simpa [Komsusuz] using h

theorem komsusuz_append {e f : List Char} (he : Komsusuz e) (hf : Komsusuz f) : Komsusuz (e ++ f) :=
  List.forall_mem_append.mpr ⟨he, hf⟩

theorem reads_bosluklar : bosluklar.Reads Komsusuz := by
  apply (reads_one boslukMu).many.mono
  rintro w ⟨ps, rfl, hps⟩ c hc
  obtain ⟨u, hu, hcu⟩ := List.mem_flatten.mp hc
  obtain ⟨d, rfl, hd⟩ := hps u hu
  rw [List.mem_singleton.mp hcu]
  exact sayiKomsusu_of_boslukMu hd

theorem reads_erlSozcuk {w : String} (hne : w ≠ "") (hw : Komsusuz (w.toList.map erlKatla)) :
    (erlSozcuk w).Reads fun e => e ≠ [] ∧ Komsusuz e := by
  intro s r hr
  rw [erlSozcuk] at hr
  split_ifs at hr with hayni
  · rw [List.mem_singleton.mp hr]
    refine ⟨s.take w.length, (List.take_append_drop _ _).symm, ?_, fun c hc => ?_⟩
    · intro hbos
      rw [hbos, List.map_nil] at hayni
      have hw : w.toList = [] := List.map_eq_nil_iff.mp hayni.symm
      exact hne (String.toList_inj.mp hw)
    · by_contra hkomsu
      have hkomsu : sayiKomsusu c = true := by simpa using hkomsu
      have hmem : erlKatla c ∈ w.toList.map erlKatla := by
        rw [← hayni]
        exact List.mem_map_of_mem hc
      have hno := hw _ hmem
      rw [erlKatla_of_sayiKomsusu hkomsu, hkomsu] at hno
      cases hno
  · cases hr

theorem reads_paraEtiketi : (paraEtiketi kelime).Reads fun e => e ≠ [] ∧ Komsusuz e := by
  have hharfler : ∀ w ∈ taninanEtiketler, w ≠ "" ∧ (w.toList.map erlKatla).any sayiKomsusu = false := by decide +kernel
  have hetiket : (erlSozcukler taninanEtiketler).Reads fun e => e ≠ [] ∧ Komsusuz e := by
    intro s r hr
    obtain ⟨w, hw, hr⟩ := List.mem_flatMap.mp hr
    exact reads_erlSozcuk (hharfler w hw).1 (komsusuz_of_any (hharfler w hw).2) s r hr
  have hson : (erlSon kelime).Reads Komsusuz := by
    intro s r hr
    rw [erlSon] at hr
    split_ifs at hr
    · cases hr
    · exact ⟨[], (List.mem_singleton.mp hr).symm, fun c hc => absurd hc List.not_mem_nil⟩
  apply (reads_bosluklar.seq (hetiket.seq hson)).mono
  rintro w ⟨u, v, rfl, hu, x, y, rfl, ⟨hne, hx⟩, hy⟩
  exact ⟨by simp [hne], komsusuz_append hu (komsusuz_append hx hy)⟩

/-- In front of a label a number has come to its end. -/
theorem bas_of_paraEtiketi (h : rest ∈ paraEtiketi kelime k) : k.head?.any sayiKomsusu = false := by
  obtain ⟨e, rfl, hne, he⟩ := reads_paraEtiketi k rest h
  obtain ⟨c, e, rfl⟩ := List.exists_cons_of_ne_nil hne
  exact he c List.mem_cons_self

theorem reads_bicimliSayi : bicimliSayi.Reads fun w => ∃ ilk gruplar son, Sayi w ilk gruplar son := by
  apply ((reads_ilkGrup.seq (reads_binlikGrup.many1.seq reads_kesir)).alt
    (reads_rakamlar.seq ((reads_one fun c => c = ',').seq (reads_rakam.seq reads_rakam)))).mono
  rintro w (⟨ilk, v, rfl, ⟨hilk, hne, hlen⟩, g, son, rfl, ⟨gruplar, -, rfl, hg⟩, hson⟩ |
    ⟨ilk, v, rfl, ⟨hilk, hne⟩, u, ds, rfl, ⟨c, rfl, hc⟩, d, e, rfl, ⟨hd, hdlen⟩, he, -⟩)
  · exact ⟨ilk, gruplar, son, rfl, hne, hilk, fun _ => hlen, hg, hson⟩
  · obtain rfl : c = ',' := of_decide_eq_true hc
    have hdne : d ++ e ≠ [] := by
      refine List.ne_nil_of_length_pos ?_
      rw [List.length_append]
      omega
    exact ⟨ilk, [], ',' :: (d ++ e), rfl, hne, hilk, fun h => absurd rfl h, by simp,
      .inr ⟨d ++ e, rfl, hdne, rakamlar_append.mpr ⟨hd, he⟩⟩⟩

/-- An amount with two decimals is written like money, to its end. -/
theorem first_bicimliSayi (h : Gruplu ilk gruplar) (hds : Rakamlar ds) (hlen : ds.length = 2)
    (hr : ∀ c ∈ r.head?, rakamMi c = false) : bicimliSayi.First (ilk ++ (gruplar.flatten ++ ',' :: (ds ++ r))) r := by
  by_cases hgruplar : gruplar = []
  · subst hgruplar
    obtain ⟨d, e, rfl⟩ := List.length_eq_two.mp hlen
    have hvirgul : ∀ c ∈ (',' :: ([d, e] ++ r)).head?, rakamMi c = false := by
      rintro c ⟨rfl⟩
      exact rakamMi_virgul
    have hkurus : ((one fun c => c = ',').seq (rakam.seq rakam)).First (',' :: ([d, e] ++ r)) r :=
      (first_one _ (by decide)).seq ((first_one _ (hds d (by simp))).seq (first_one _ (hds e (by simp))))
    exact First.alt_right (gruplu_eq_nil h.ilk_rakam) ((first_rakamlar h.ilk_rakam h.ilk_ne hvirgul).seq hkurus)
  · have hne : ds ≠ [] := List.ne_nil_of_length_pos (by omega)
    exact (first_gruplu h hgruplar hds hne hr).alt_left

theorem etiketliDesen_eq_some (h : etiketliDesen kelime onceki s = some (k, rest)) :
    onceki.any sayiKomsusu = false ∧ k ∈ sayi s ∧ rest ∈ paraEtiketi kelime k ∧
      etiketliDesen kelime none s = some (k, rest) := by
  rw [etiketliDesen] at h
  split_ifs at h with honceki
  obtain ⟨k', hk', hson⟩ := List.exists_of_findSome?_eq_some h
  obtain ⟨r, hr, heq⟩ := Option.map_eq_some_iff.mp hson
  obtain ⟨rfl, rfl⟩ := Prod.mk.inj heq
  refine ⟨by simpa using honceki, hk', List.mem_of_mem_head? hr, ?_⟩
  rw [etiketliDesen, if_neg (by simp)]
  exact h

theorem etiketsizDesen_eq_some (h : etiketsizDesen kelime onceki s = some rest) :
    onceki.any sayiKomsusu = false ∧ rest ∈ bicimliSayi s ∧ rest.head?.any sayiKomsusu = false := by
  rw [etiketsizDesen] at h
  split_ifs at h with honceki
  have hson := List.find?_some h
  simp only [Bool.and_eq_true, Bool.not_eq_true'] at hson
  refine ⟨?_, List.mem_of_find?_eq_some h, hson.1.1.1⟩
  cases onceki with
  | none => rfl
  | some c =>
    simp only [Option.any_some, decide_eq_true_eq, not_or, Bool.not_eq_true] at honceki
    exact honceki.2

/-- What a pattern of the check reads: a number, and behind it nothing that a number could go on with. -/
def SayiOkur (f : Option Char → List Char → Option (List Char)) : Prop :=
  ∀ onceki s rest, f onceki s = some rest → onceki.any sayiKomsusu = false ∧ ∃ w e ilk gruplar son,
    s = w ++ (e ++ rest) ∧ Sayi w ilk gruplar son ∧ Komsusuz e

theorem sayiOkur_etiketli (kelime : Char → Bool) :
    SayiOkur fun onceki s => (etiketliDesen kelime onceki s).map Prod.snd := by
  intro onceki s rest h
  obtain ⟨⟨k, rest⟩, hdesen, rfl⟩ := Option.map_eq_some_iff.mp h
  obtain ⟨honceki, hk, hrest, -⟩ := etiketliDesen_eq_some hdesen
  obtain ⟨w, rfl, ilk, gruplar, son, hsayi⟩ := reads_sayi s k hk
  obtain ⟨e, rfl, -, he⟩ := reads_paraEtiketi k rest hrest
  exact ⟨honceki, w, e, ilk, gruplar, son, rfl, hsayi, he⟩

theorem sayiOkur_etiketsiz (kelime : Char → Bool) : SayiOkur (etiketsizDesen kelime) := by
  intro onceki s rest h
  obtain ⟨honceki, hrest, -⟩ := etiketsizDesen_eq_some h
  obtain ⟨w, hs, ilk, gruplar, son, hsayi⟩ := reads_bicimliSayi s rest hrest
  exact ⟨honceki, w, [], ilk, gruplar, son, hs, hsayi, fun c hc => absurd hc List.not_mem_nil⟩

end Patterns

/-- What begins behind a text and ends before its end. -/
theorem mem_arada {c : Char} {y t w e rest : List Char} (h : y ++ c :: t = w ++ (e ++ rest))
    (hle : (c :: t).length ≤ (e ++ rest).length) (hlt : rest.length < (c :: t).length) : c ∈ e := by
  obtain ⟨u, hu⟩ : ∃ u, e ++ rest = u ++ c :: t := by
    rcases List.append_eq_append_iff.mp h with ⟨z, -, hz⟩ | ⟨z, -, hz⟩
    · have hlen := congrArg List.length hz
      rw [List.length_append] at hlen
      have hzero : z = [] := List.length_eq_zero_iff.mp (by omega)
      exact ⟨[], by rw [hz, hzero, List.nil_append, List.nil_append]⟩
    · exact ⟨z, hz⟩
  rcases List.append_eq_append_iff.mp hu with ⟨z, -, rfl⟩ | ⟨z, rfl, hz⟩
  · rw [List.length_append] at hlt
    omega
  · cases z with
    | nil =>
      rw [List.nil_append] at hz
      rw [hz] at hlt
      exact absurd hlt (lt_irrefl _)
    | cons d z =>
      obtain ⟨rfl, -⟩ := List.cons.inj hz
      simp

section Place
variable {kelime : Char → Bool} {onek sonek x y w k ilk ds ilk' son' : List Char} {gruplar gruplar' : List (List Char)}

/-- The text of an amount: grouped digits, a comma and two digits. -/
structure TutarMetni (tutar ilk : List Char) (gruplar : List (List Char)) (ds : List Char) : Prop where
  metin : tutar = ilk ++ (gruplar.flatten ++ ',' :: ds)
  gruplu : Gruplu ilk gruplar
  kurus : Rakamlar ds
  iki : ds.length = 2

/-- An amount with so many digits before its comma that stands in the open: beside it is nothing that a number could go
on with, no groups before it are continued by its first three digits, and what follows it is a label of money, or
neither a unit nor a percent sign. -/
structure Acikta (kelime : Char → Bool) (basamak : ℕ) (onek sonek : List Char) : Prop where
  once : onek.getLast?.any sayiKomsusu = false
  sonra : sonek.head?.any sayiKomsusu = false
  zincirsiz : ¬(basamak % 3 = 0 ∧ GrupZinciri onek)
  ardinda : paraEtiketi kelime sonek ≠ [] ∨
    '%' ∉ onek.getLast? ∧ birimSonrasi kelime sonek = [] ∧ yuzdeSonrasi sonek = []

variable {basamak : ℕ}

theorem Acikta.sonraki (h : Acikta kelime basamak onek sonek) : ∀ c ∈ sonek.head?, rakamMi c = false := by
  intro c hc
  have hsonra := h.sonra
  rw [hc] at hsonra
  exact (rakamMi_of_sayiKomsusu hsonra).1

variable {tutar : List Char}

theorem TutarMetni.ne_nil (ht : TutarMetni tutar ilk gruplar ds) (sonek : List Char) : tutar ++ sonek ≠ [] := by
  rw [ht.metin]
  simp [ht.gruplu.ilk_ne]

theorem TutarMetni.append (ht : TutarMetni tutar ilk gruplar ds) (sonek : List Char) :
    tutar ++ sonek = ilk ++ (gruplar.flatten ++ ',' :: (ds ++ sonek)) := by
  rw [ht.metin]
  simp

variable (ht : TutarMetni tutar ilk gruplar ds) (ha : Acikta kelime ilk.length onek sonek)
include ht ha

/-- No number from before reaches into an amount in the open. -/
theorem sayi_disarida (hxy : onek = x ++ y) (hy : y ≠ []) (hx : x.getLast?.any sayiKomsusu = false)
    (hw : y ++ (tutar ++ sonek) = w ++ k) (hsayi : Sayi w ilk' gruplar' son') : (tutar ++ sonek).length ≤ k.length := by
  by_contra hlen
  have hson : y.getLast?.any sayiKomsusu = false := by
    rw [← List.getLast?_append_of_ne_nil x hy, ← hxy]
    exact ha.once
  obtain ⟨hzincir, es, kalan, hes, huc, hrakam⟩ := zincir_of_sayi hw hsayi (not_le.mp hlen) hy hson
  obtain ⟨a, t, hat, hayrac⟩ := gruplar_bas ht.gruplu.grup rakamMi_virgul (ds ++ sonek)
  have hmetin : tutar ++ sonek = ilk ++ a :: t := by
    rw [ht.metin, ← hat]
    simp
  rw [hmetin] at hes
  have hilk : ilk.length = 3 := uzunluk_eq_uc ht.gruplu.ilk_uzunluk hayrac huc hrakam hes
  exact ha.zincirsiz ⟨by rw [hilk], x, y, hxy, hzincir, hx⟩

/-- Where an amount in the open begins no match from before is pending. -/
theorem pending_acikta {f : Option Char → List Char → Option (List Char)} (hf : SayiOkur f) :
    pending f none 0 onek (tutar ++ sonek) = 0 := by
  by_contra hpending
  obtain ⟨x, y, rest, hxy, hy, -, hm, hrest, -⟩ := exists_match_of_pending hpending
  rw [lastOr_none] at hm
  obtain ⟨hx, w, e, ilk', gruplar', son', hs, hsayi, he⟩ := hf _ _ _ hm
  have hlen := sayi_disarida ht ha hxy hy hx hs hsayi
  obtain ⟨c, cs, hcs⟩ := List.exists_cons_of_ne_nil ht.gruplu.ilk_ne
  have hc : rakamMi c = true := ht.gruplu.ilk_rakam c (by simp [hcs])
  have hbas : tutar ++ sonek = c :: (cs ++ (gruplar.flatten ++ ',' :: ds) ++ sonek) := by
    rw [ht.metin, hcs]
    rfl
  -- the first digit of the amount would be among the characters behind the number
  rw [hbas] at hs hlen hrest
  exact absurd (hc.symm.trans (rakamMi_of_sayiKomsusu (he c (mem_arada hs hlen hrest))).1) (by decide)

/-- With a label behind it the amount is one of the labelled numbers. -/
theorem mem_etiketliler (hpara : paraEtiketi kelime sonek ≠ []) :
    (onek.length, tutar) ∈ etiketliler kelime (onek ++ (tutar ++ sonek)) := by
  obtain ⟨r, rs, hr⟩ := List.exists_cons_of_ne_nil hpara
  have hne : ds ≠ [] := List.ne_nil_of_length_pos (by rw [ht.iki]; decide)
  obtain ⟨ls, hls⟩ := List.head?_eq_some_iff.mp (first_sayi ht.gruplu ht.kurus hne ha.sonraki)
  rw [← ht.append] at hls
  have hdesen (onceki : Option Char) (honceki : onceki.any sayiKomsusu = false) :
      etiketliDesen kelime onceki (tutar ++ sonek) = some (sonek, r) := by
    rw [etiketliDesen, if_neg (by simp [honceki]), hls, List.findSome?_cons, hr]
    rfl
  have hscan : (0 + onek.length, (tutar ++ sonek).take ((tutar ++ sonek).length - r.length)) ∈
      scan (fun onceki s => (etiketliDesen kelime onceki s).map Prod.snd) 0 none 0 (onek ++ (tutar ++ sonek)) := by
    refine (mem_scan_at (ht.ne_nil sonek)).mpr ⟨pending_acikta ht ha (sayiOkur_etiketli kelime), r, ?_, rfl⟩
    rw [lastOr_none, hdesen _ ha.once]
    rfl
  refine List.mem_map.mpr ⟨_, hscan, ?_⟩
  dsimp only
  rw [Nat.zero_add, List.drop_left, hdesen none rfl]
  simp

/-- What a labelled number covers: either it is the amount itself, with a label behind it, or it ends before the
amount does. -/
theorem etiketliler_ortmez (hpara : paraEtiketi kelime sonek = []) {e : ℕ × List Char}
    (he : e ∈ etiketliler kelime (onek ++ (tutar ++ sonek))) :
    ¬(e.1 ≤ onek.length ∧ onek.length + tutar.length ≤ e.1 + e.2.length) := by
  rintro ⟨hbas, hson⟩
  obtain ⟨m, hm, rfl⟩ := List.mem_map.mp he
  dsimp only at hbas hson
  obtain ⟨x, y, hxy, hxlen⟩ : ∃ x y, onek = x ++ y ∧ x.length = m.1 :=
    ⟨onek.take m.1, onek.drop m.1, (List.take_append_drop _ _).symm, List.length_take_of_le hbas⟩
  have hne : y ++ (tutar ++ sonek) ≠ [] := List.append_ne_nil_of_right_ne_nil y (ht.ne_nil sonek)
  have hmetin : onek ++ (tutar ++ sonek) = x ++ (y ++ (tutar ++ sonek)) := by rw [hxy, List.append_assoc]
  rw [hmetin] at hm hson
  have hm' : (0 + x.length, m.2) ∈
      scan (fun onceki s => (etiketliDesen kelime onceki s).map Prod.snd) 0 none 0 (x ++ (y ++ (tutar ++ sonek))) := by
    rw [Nat.zero_add, hxlen]
    exact hm
  obtain ⟨-, rest, hmap, -⟩ := (mem_scan_at hne).mp hm'
  obtain ⟨⟨k, rest⟩, hdesen, rfl⟩ := Option.map_eq_some_iff.mp hmap
  obtain ⟨hx, hk, hrest, hnone⟩ := etiketliDesen_eq_some hdesen
  rw [lastOr_none] at hx
  obtain ⟨w, hw, ilk', gruplar', son', hsayi⟩ := reads_sayi _ k hk
  rw [← hxlen, List.drop_left, hnone] at hson
  have huzun : x.length + y.length + tutar.length ≤ x.length + w.length := by
    rw [hxy, List.length_append, Option.map_some, Option.getD_some, hw, List.length_append, Nat.add_sub_cancel,
      List.take_left] at hson
    exact hson
  have htoplam := congrArg List.length hw
  simp only [List.length_append] at htoplam
  have htutar : 0 < tutar.length := by
    rw [ht.metin]
    exact List.length_pos_of_ne_nil (by simp [ht.gruplu.ilk_ne])
  by_cases hy : y = []
  · -- the number begins with the amount, and no digit follows the amount
    subst hy
    rw [List.nil_append] at hw
    rcases List.append_eq_append_iff.mp hw with ⟨z, rfl, hz⟩ | ⟨z, hz, rfl⟩
    · cases z with
      | nil =>
        rw [List.nil_append] at hz
        rw [hz] at hpara
        rw [hpara] at hrest
        cases hrest
      | cons c z =>
        have hond : Rakamlar (ds ++ c :: z) := hsayi.virgul_bol (y := ilk ++ gruplar.flatten) (by simp [ht.metin])
        have hrakam : rakamMi c = true := hond c (by simp)
        have hsonra := ha.sonraki c (by rw [hz]; rfl)
        exact absurd (hrakam.symm.trans hsonra) (by decide)
    · have hzlen := congrArg List.length hz
      simp only [List.length_append, List.length_nil] at hzlen htoplam huzun
      have hzero : z = [] := List.length_eq_zero_iff.mp (by omega)
      rw [hzero, List.nil_append] at hrest
      rw [hpara] at hrest
      cases hrest
  · have hdisarida := sayi_disarida ht ha hxy hy hx hw hsayi
    simp only [List.length_append] at hdisarida
    omega

/-- With neither a label nor a unit behind it the amount is one of the numbers without a label. -/
theorem mem_etiketsizler (hpara : paraEtiketi kelime sonek = []) :
    (onek.length, tutar) ∈ etiketsizler kelime (onek ++ (tutar ++ sonek)) := by
  obtain ⟨ls, hls⟩ := List.head?_eq_some_iff.mp (first_bicimliSayi ht.gruplu ht.kurus ht.iki ha.sonraki)
  rw [← ht.append] at hls
  obtain ⟨honceki, hbirim, hyuzde⟩ := ha.ardinda.resolve_left (not_not.mpr hpara)
  have honce : ¬onek.getLast?.any (fun c => c = '%' ∨ sayiKomsusu c) = true := by
    have hkomsu := ha.once
    cases hson : onek.getLast? with
    | none => exact Bool.false_ne_true
    | some c =>
      rw [hson] at honceki hkomsu
      simp only [Option.any_some, decide_eq_true_eq, not_or, Bool.not_eq_true]
      exact ⟨fun hc => honceki (by rw [hc]; rfl), hkomsu⟩
  have hdesen : etiketsizDesen kelime (lastOr none onek) (tutar ++ sonek) = some sonek := by
    rw [lastOr_none, etiketsizDesen, if_neg honce, hls, List.find?_cons_of_pos]
    simp [ha.sonra, hpara, hbirim, hyuzde]
  have hscan : (0 + onek.length, tutar) ∈ scan (etiketsizDesen kelime) 0 none 0 (onek ++ (tutar ++ sonek)) :=
    (mem_scan_at (ht.ne_nil sonek)).mpr ⟨pending_acikta ht ha (sayiOkur_etiketsiz kelime), sonek, hdesen, by simp⟩
  rw [Nat.zero_add] at hscan
  exact hscan

end Place

section Pieces
variable {kelime : Char → Bool} {metin x y w k r : List Char} {parcalar : List (List Char × List Char)}
variable {p : List Char × List Char}

/-- A text without digits. -/
def Rakamsizdir (e : List Char) : Prop := ∀ c ∈ e, rakamMi c = false

theorem rakamsizdir_of_any {e : List Char} (h : e.any rakamMi = false) : Rakamsizdir e := by
  simpa [Rakamsizdir] using h

/-- A piece of a text: an amount whose thousands are set apart by dots, and the text without digits behind it. -/
structure TutarliParca (p : List Char × List Char) : Prop where
  tutar : ∃ ilk gruplar ds, TutarMetni p.1 ilk gruplar ds
  bitisik : ∀ c ∈ p.1, sayiKomsusu c = true
  metin : Rakamsizdir p.2

def parcalarinMetni (parcalar : List (List Char × List Char)) : List Char := parcalar.flatMap fun p => p.1 ++ p.2

theorem parcalarinMetni_cons (p : List Char × List Char) (parcalar : List (List Char × List Char)) :
    parcalarinMetni (p :: parcalar) = p.1 ++ (p.2 ++ parcalarinMetni parcalar) := by
  rw [parcalarinMetni, List.flatMap_cons, List.append_assoc]
  rfl

/-- Where a digit stands in the pieces and no number is before it, an amount begins. -/
theorem parcada (h : metin ++ parcalarinMetni parcalar = x ++ y) (hmetin : Rakamsizdir metin)
    (hp : ∀ p ∈ parcalar, TutarliParca p) (hara : ∀ p ∈ parcalar.dropLast, p.2 ≠ [])
    (hx : x.getLast?.any sayiKomsusu = false) (hy : ∃ c ∈ y.head?, rakamMi c = true) :
    ∃ p ∈ parcalar, ∃ r, y = p.1 ++ (p.2 ++ r) ∧ (p.2 = [] → r = []) := by
  obtain ⟨c, hc, hrakam⟩ := hy
  obtain ⟨y, rfl⟩ := List.head?_eq_some_iff.mp hc
  induction parcalar generalizing metin x with
  | nil =>
    have hmem : c ∈ metin ++ parcalarinMetni [] := by
      rw [h]
      simp
    rw [parcalarinMetni, List.flatMap_nil, List.append_nil] at hmem
    exact absurd (hrakam.symm.trans (hmetin c hmem)) (by decide)
  | cons p parcalar ih =>
    obtain ⟨hbas, hp⟩ := List.forall_mem_cons.mp hp
    rw [parcalarinMetni_cons] at h
    obtain ⟨u, rfl, hu⟩ : ∃ u, x = metin ++ u ∧ p.1 ++ (p.2 ++ parcalarinMetni parcalar) = u ++ c :: y := by
      rcases List.append_eq_append_iff.mp h with ⟨u, hu, hson⟩ | ⟨u, rfl, hson⟩
      · exact ⟨u, hu, hson⟩
      · cases u with
        | nil => exact ⟨[], by simp, hson.symm⟩
        | cons d u =>
          obtain ⟨rfl, -⟩ := List.cons.inj hson
          exact absurd (hrakam.symm.trans (hmetin c (by simp))) (by decide)
    have hson : u.getLast?.any sayiKomsusu = false := by
      by_cases hbos : u = []
      · rw [hbos]
        rfl
      · rw [List.getLast?_append_of_ne_nil metin hbos] at hx
        exact hx
    rcases List.append_eq_append_iff.mp hu with ⟨z, rfl, hz⟩ | ⟨z, htutar, hz⟩
    · by_cases hkalan : parcalar = []
      · subst hkalan
        have hmem : c ∈ p.2 ++ parcalarinMetni [] := by
          rw [hz]
          simp
        rw [parcalarinMetni, List.flatMap_nil, List.append_nil] at hmem
        exact absurd (hrakam.symm.trans (hbas.metin c hmem)) (by decide)
      · rw [List.dropLast_cons_of_ne_nil hkalan] at hara
        have hz' : z.getLast?.any sayiKomsusu = false := by
          by_cases hbos : z = []
          · rw [hbos]
            rfl
          · rw [List.getLast?_append_of_ne_nil p.1 hbos] at hson
            exact hson
        obtain ⟨q, hq, r, hr, hbos⟩ := ih hbas.metin hp (List.forall_mem_cons.mp hara).2 hz' hz
        exact ⟨q, List.mem_cons_of_mem p hq, r, hr, hbos⟩
    · by_cases hbos : u = []
      · subst hbos
        rw [List.nil_append] at hu
        refine ⟨p, List.mem_cons_self, parcalarinMetni parcalar, hu.symm, fun hp2 => ?_⟩
        by_cases hkalan : parcalar = []
        · rw [hkalan]
          rfl
        · rw [List.dropLast_cons_of_ne_nil hkalan] at hara
          exact absurd hp2 (hara p List.mem_cons_self)
      · -- a number would be before the digit
        rw [List.getLast?_eq_some_getLast hbos] at hson
        have hmem : u.getLast hbos ∈ p.1 := by
          rw [htutar]
          exact List.mem_append_left z (List.getLast_mem hbos)
        exact absurd ((hbas.bitisik _ hmem).symm.trans hson) (by decide)

/-- A number that is read from the front of an amount, up to where no number goes on, is the amount. -/
theorem sayi_parcada {ilk son : List Char} {gruplar : List (List Char)} (hp : TutarliParca p)
    (hsayi : Sayi w ilk gruplar son) (hw : p.1 ++ (p.2 ++ r) = w ++ k) (hr : p.2 = [] → r = [])
    (hk : k.head?.any sayiKomsusu = false) : w = p.1 := by
  rcases List.append_eq_append_iff.mp hw with ⟨z, rfl, hz⟩ | ⟨z, htutar, rfl⟩
  · cases z with
    | nil => exact List.append_nil p.1
    | cons c z =>
      have hc : rakamMi c = false := by
        cases hmetin : p.2 with
        | nil =>
          rw [hmetin, hr hmetin] at hz
          cases hz
        | cons d e =>
          rw [hmetin] at hz
          obtain ⟨rfl, -⟩ := List.cons.inj hz
          exact hp.metin d (by simp [hmetin])
      obtain ⟨i, g, ds, ht⟩ := hp.tutar
      have hond : Rakamlar (ds ++ c :: z) := hsayi.virgul_bol (y := i ++ g.flatten) (by simp [ht.metin])
      exact absurd ((hond c (by simp)).symm.trans hc) (by decide)
  · cases z with
    | nil => rw [htutar, List.append_nil]
    | cons c z => exact absurd ((hp.bitisik c (by simp [htutar])).symm.trans hk) (by decide)

theorem bas_of_sayi {ilk son : List Char} {gruplar : List (List Char)} (h : Sayi w ilk gruplar son) (k : List Char) :
    ∃ c ∈ (w ++ k).head?, rakamMi c = true := by
  obtain ⟨c, cs, hc⟩ := List.exists_cons_of_ne_nil h.ilk_ne
  refine ⟨c, ?_, h.ilk_rakam c (by simp [hc])⟩
  rw [h.metin, hc]
  rfl

variable (hmetin : Rakamsizdir metin) (hp : ∀ p ∈ parcalar, TutarliParca p) (hara : ∀ p ∈ parcalar.dropLast, p.2 ≠ [])
include hmetin hp hara

/-- The labelled numbers of a text of pieces are amounts of it. -/
theorem etiketliler_parcalar {m : ℕ × List Char} (hm : m ∈ etiketliler kelime (metin ++ parcalarinMetni parcalar)) :
    ∃ p ∈ parcalar, m.2 = p.1 := by
  obtain ⟨m, hscan, rfl⟩ := List.mem_map.mp hm
  obtain ⟨x, y, rest, hxy, hi, hf, -⟩ := exists_match_of_mem_scan hscan
  obtain ⟨⟨k, rest⟩, hdesen, rfl⟩ := Option.map_eq_some_iff.mp hf
  obtain ⟨hx, hk, hrest, hnone⟩ := etiketliDesen_eq_some hdesen
  rw [lastOr_none] at hx
  obtain ⟨w, rfl, ilk, gruplar, son, hsayi⟩ := reads_sayi _ k hk
  obtain ⟨p, hmem, r, hy, hr⟩ := parcada hxy hmetin hp hara hx (bas_of_sayi hsayi k)
  refine ⟨p, hmem, ?_⟩
  dsimp only
  rw [hxy, hi, Nat.zero_add, List.drop_left, hnone, Option.map_some, Option.getD_some, List.length_append,
    Nat.add_sub_cancel, List.take_left]
  exact sayi_parcada (hp p hmem) hsayi hy.symm hr (bas_of_paraEtiketi hrest)

/-- So are those without a label. -/
theorem etiketsizler_parcalar {m : ℕ × List Char} (hm : m ∈ etiketsizler kelime (metin ++ parcalarinMetni parcalar)) :
    ∃ p ∈ parcalar, m.2 = p.1 := by
  obtain ⟨x, y, k, hxy, -, hf, hson⟩ := exists_match_of_mem_scan hm
  obtain ⟨hx, hk, hkomsu⟩ := etiketsizDesen_eq_some hf
  rw [lastOr_none] at hx
  obtain ⟨w, rfl, ilk, gruplar, son, hsayi⟩ := reads_bicimliSayi _ k hk
  obtain ⟨p, hmem, r, hy, hr⟩ := parcada hxy hmetin hp hara hx (bas_of_sayi hsayi k)
  refine ⟨p, hmem, ?_⟩
  rw [hson, List.length_append, Nat.add_sub_cancel, List.take_left]
  exact sayi_parcada (hp p hmem) hsayi hy.symm hr hkomsu

end Pieces

/-- What follows the last comma of a text that ends in digits. -/
theorem rakamlar_unique {x y ds es : List Char} (hds : Rakamlar ds) (hes : Rakamlar es)
    (h : x ++ ',' :: ds = y ++ ',' :: es) : ds = es := by
  have hson : ∀ {z fs : List Char}, Rakamlar fs → (z ++ ',' :: fs).reverse.takeWhile rakamMi = fs.reverse := by
    intro z fs hfs
    rw [List.reverse_append, List.reverse_cons, List.append_assoc,
      List.takeWhile_append_of_pos fun c hc => hfs c (List.mem_reverse.mp hc), List.singleton_append,
      List.takeWhile_cons_of_neg (by decide +kernel), List.append_nil]
  rw [← List.reverse_inj, ← hson hds, h, hson hes]

/-- The amounts of the app are such texts. -/
theorem tutarMetni_trSayi (n : ℕ) : ∃ ilk gruplar ds, TutarMetni (trSayi (n / 100) 2).toList ilk gruplar ds ∧
    (toString (n / 100)).length % 3 = ilk.length % 3 ∧ toFloatTr (trSayi (n / 100) 2).toList = n / 100 := by
  obtain ⟨ilk, gruplar, ds, hmetin, hgruplu, hds, -, hlen, hdeger⟩ := trSayi_bicim n
  have hkurus : ds = (Date.padded 2 (n % 100)).toList := by
    rw [trSayi_eq, ← List.append_assoc] at hmetin
    exact (rakamlar_unique (rakamlar_of_isDigit Date.isDigit_padded) hds hmetin).symm
  have hiki : ds.length = 2 := by
    rw [hkurus]
    exact Date.length_padded (by decide) (Nat.mod_lt n (by decide))
  exact ⟨ilk, gruplar, ds, ⟨hmetin, hgruplu, hds, hiki⟩, by omega, hdeger⟩

section Verdict
variable {esik : GroundingEsikleri} {kelime : Char → Bool} {kume : List ℚ → List ℚ} {val : ℚ} {izinli : List ℚ}
variable {reply userMessage : String} {cockpit : CockpitDegeri} {gecmis : List String}

/-- What an amount of an answer may rest on: a figure of the cockpit, or an amount the user wrote. -/
def dayanaklar (cockpit : CockpitDegeri) (userMessage : String) (gecmis : List String) : List ℚ :=
  collectNumeric cockpit ++ (userMessage :: gecmis).flatMap metindekiTutarlar

/-- An amount is grounded if what it may rest on, in kuruş, is within the tolerance of the check. -/
def Dayanakli (esik : GroundingEsikleri) (val : ℚ) (dayanaklar : List ℚ) : Prop :=
  ∃ v ∈ dayanaklar, |val - roundEven |v| 2| ≤ max esik.absTol (esik.relTol * roundEven |v| 2)

/-- The figures the check looks an amount up in. -/
def izinliler (kume : List ℚ → List ℚ) (cockpit : CockpitDegeri) (userMessage : String) (gecmis : List String) :
    List ℚ :=
  kume ((collectNumeric cockpit).map (fun v => roundEven |v| 2) ++
    ((userMessage :: gecmis).flatMap metindekiTutarlar).map (fun v => roundEven |v| 2))

theorem dayanakli_iff (hkume : ∀ l a, a ∈ kume l ↔ a ∈ l) :
    Dayanakli esik val (dayanaklar cockpit userMessage gecmis) ↔
      ∃ a ∈ izinliler kume cockpit userMessage gecmis, yakinMi esik val a = true := by
  rw [izinliler, ← List.map_append, Dayanakli, dayanaklar]
  constructor
  · rintro ⟨v, hv, hyakin⟩
    exact ⟨_, (hkume _ _).mpr (List.mem_map_of_mem hv), decide_eq_true hyakin⟩
  · rintro ⟨a, ha, hyakin⟩
    obtain ⟨v, hv, rfl⟩ := List.mem_map.mp ((hkume _ _).mp ha)
    exact ⟨v, hv, of_decide_eq_true hyakin⟩

theorem enYakin_eq_none : enYakin esik val izinli = none ↔ ¬∃ a ∈ izinli, yakinMi esik val a = true := by
  have hson : ∀ (l : List ℚ) (o : Option ℚ), l.foldl (fun en a =>
      if yakinMi esik val a ∧ en.all fun e => |val - a| < |val - e| then some a else en) o = none ↔
      o = none ∧ ¬∃ a ∈ l, yakinMi esik val a = true := by
    intro l
    induction l with
    | nil => simp
    | cons a l ih =>
      intro o
      rw [List.foldl_cons, ih]
      cases o <;> by_cases ha : yakinMi esik val a = true <;> simp [ha]
      split_ifs <;> simp
  rw [enYakin, hson]
  exact and_iff_right rfl

/-- An answer passes exactly if each of its labelled numbers, and each other that no labelled one covers, is small or
grounded. -/
theorem checkGrounding_ok (hkume : ∀ l a, a ∈ kume l ↔ a ∈ l) :
    (checkGrounding esik kelime kume reply cockpit userMessage gecmis).ok = true ↔
      (∀ m ∈ etiketliler kelime reply.toList, esik.minMagnitude ≤ |toFloatTr m.2| →
        Dayanakli esik |toFloatTr m.2| (dayanaklar cockpit userMessage gecmis)) ∧
      ∀ m ∈ etiketsizler kelime reply.toList,
        (∀ e ∈ etiketliler kelime reply.toList, ¬(e.1 ≤ m.1 ∧ m.1 + m.2.length ≤ e.1 + e.2.length)) →
        esik.minMagnitude ≤ |toFloatTr m.2| → Dayanakli esik |toFloatTr m.2| (dayanaklar cockpit userMessage gecmis) := by
  have hyakin : ∀ val, Dayanakli esik val (dayanaklar cockpit userMessage gecmis) ↔
      ∃ a ∈ izinliler kume cockpit userMessage gecmis, yakinMi esik val a = true := fun val => dayanakli_iff hkume
  simp only [checkGrounding, decide_eq_true_eq, List.map_eq_nil_iff, List.filter_eq_nil_iff, hyakin]
  refine and_congr ?_ ?_
  · rw [List.forall_mem_filter, List.forall_mem_map]
    refine forall₂_congr fun m hm => imp_congr decide_eq_true_iff ?_
    rw [Option.isNone_iff_eq_none, enYakin_eq_none, not_not]
    rfl
  · rw [List.forall_mem_map, List.forall_mem_filter]
    refine forall₂_congr fun m hm => imp_congr ?_ ?_
    · rw [Bool.not_eq_true', List.any_eq_false]
      exact forall₂_congr fun e he => not_congr decide_eq_true_iff
    · rw [not_and, Bool.not_eq_true', Bool.not_eq_false, List.any_eq_true]
      rfl

/-- An amount in the open of an answer that passes, whatever the blanks and the digits it is written with. -/
theorem dayanakli_of_ok {tutar ilk ds onek sonek : List Char} {gruplar : List (List Char)}
    (hkume : ∀ l a, a ∈ kume l ↔ a ∈ l) (ht : TutarMetni tutar ilk gruplar ds)
    (hacik : Acikta kelime ilk.length onek sonek) (hreply : reply.toList = onek ++ (tutar ++ sonek))
    (hok : (checkGrounding esik kelime kume reply cockpit userMessage gecmis).ok = true)
    (hmin : esik.minMagnitude ≤ |toFloatTr tutar|) :
    Dayanakli esik |toFloatTr tutar| (dayanaklar cockpit userMessage gecmis) := by
  obtain ⟨hetiketli, hetiketsiz⟩ := (checkGrounding_ok hkume).mp hok
  rw [hreply] at hetiketli hetiketsiz
  by_cases hpara : paraEtiketi kelime sonek = []
  · have hmem := mem_etiketsizler ht hacik hpara
    have hortmez := fun e he => @etiketliler_ortmez _ _ _ _ _ _ _ ht hacik hpara e he
    exact hetiketsiz (onek.length, tutar) hmem hortmez hmin
  · have hmem := mem_etiketliler ht hacik hpara
    exact hetiketli (onek.length, tutar) hmem hmin

/-- In an answer that passes, every amount in the open that is not small is grounded, with a label or without one. -/
theorem passed_amount_grounded {n : ℕ} {onek sonek : String} (hkume : ∀ l a, a ∈ kume l ↔ a ∈ l)
    (hacik : Acikta kelime (toString (n / 100)).length onek.toList sonek.toList) (hmin : esik.minMagnitude ≤ n / 100)
    (hok : (checkGrounding esik kelime kume (onek ++ trSayi (n / 100) 2 ++ sonek) cockpit userMessage gecmis).ok = true) :
    Dayanakli esik (n / 100) (dayanaklar cockpit userMessage gecmis) := by
  obtain ⟨ilk, gruplar, ds, hmetin, hbasamak, hdeger⟩ := tutarMetni_trSayi n
  have hpos : |toFloatTr (trSayi (n / 100) 2).toList| = n / 100 := by
    rw [hdeger]
    exact abs_of_nonneg (by positivity)
  have hzincirsiz := hacik.zincirsiz
  rw [hbasamak] at hzincirsiz
  have hreply : (onek ++ trSayi (n / 100) 2 ++ sonek).toList =
      onek.toList ++ ((trSayi (n / 100) 2).toList ++ sonek.toList) := by
    rw [String.toList_append, String.toList_append, List.append_assoc]
  have hdayanak := dayanakli_of_ok hkume hmetin ⟨hacik.once, hacik.sonra, hzincirsiz, hacik.ardinda⟩ hreply hok
  rw [hpos] at hdayanak
  exact hdayanak hmin

theorem passed_amount_grounded_kartta :
    Dayanakli {} ((7962585 : ℕ) / 100) (dayanaklar (.sozluk [("borc", .sayi (159252 / 2))]) "" []) := by
  have hkume : ∀ (l : List ℚ) a, a ∈ id l ↔ a ∈ l := fun _ _ => Iff.rfl
  have hacik : Acikta Char.isAlphanum (toString (7962585 / 100)).length "Kartta ".toList " TL var".toList := by
    refine ⟨by decide +kernel, by decide +kernel, ?_, .inl (by decide +kernel)⟩
    rintro ⟨hlen, -⟩
    exact absurd hlen (by decide +kernel)
  exact passed_amount_grounded hkume hacik (by norm_num) (by decide +kernel)

/-- An answer that states amounts: a text, then each amount in the format of the app with the text behind it. -/
def cevapYaz (metin : String) : List (ℕ × String) → String
  | [] => metin
  | (n, sonraki) :: tutarlar => metin ++ trSayi (n / 100) 2 ++ cevapYaz sonraki tutarlar

theorem toList_cevapYaz (metin : String) (tutarlar : List (ℕ × String)) : (cevapYaz metin tutarlar).toList =
    metin.toList ++ parcalarinMetni (tutarlar.map fun p => ((trSayi (p.1 / 100) 2).toList, p.2.toList)) := by
  induction tutarlar generalizing metin with
  | nil => exact (List.append_nil _).symm
  | cons p tutarlar ih =>
    rw [cevapYaz, String.toList_append, String.toList_append, ih, List.map_cons, parcalarinMetni_cons,
      List.append_assoc]

/-- An answer whose amounts are all small or grounded passes, whatever texts without digits they stand between. -/
theorem grounded_reply_passes {metin : String} {tutarlar : List (ℕ × String)} (hkume : ∀ l a, a ∈ kume l ↔ a ∈ l)
    (hmetin : Rakamsizdir metin.toList) (hsonraki : ∀ p ∈ tutarlar, Rakamsizdir p.2.toList)
    (hara : ∀ p ∈ tutarlar.dropLast, p.2 ≠ "")
    (hdayanak : ∀ p ∈ tutarlar, esik.minMagnitude ≤ p.1 / 100 →
      Dayanakli esik (p.1 / 100) (dayanaklar cockpit userMessage gecmis)) :
    (checkGrounding esik kelime kume (cevapYaz metin tutarlar) cockpit userMessage gecmis).ok = true := by
  have hparca : ∀ p ∈ tutarlar.map fun p => ((trSayi (p.1 / 100) 2).toList, p.2.toList), TutarliParca p := by
    intro q hq
    obtain ⟨p, hp, rfl⟩ := List.mem_map.mp hq
    obtain ⟨ilk, gruplar, ds, ht, -⟩ := tutarMetni_trSayi p.1
    exact ⟨⟨ilk, gruplar, ds, ht⟩, sayiKomsusu_trSayi p.1, hsonraki p hp⟩
  have hbos : ∀ q ∈ (tutarlar.map fun p => ((trSayi (p.1 / 100) 2).toList, p.2.toList)).dropLast, q.2 ≠ [] := by
    rw [← List.map_dropLast]
    intro q hq
    obtain ⟨p, hp, rfl⟩ := List.mem_map.mp hq
    exact fun hbos => hara p hp (String.toList_inj.mp hbos)
  have htutar : ∀ w, (∃ q ∈ tutarlar.map fun p => ((trSayi (p.1 / 100) 2).toList, p.2.toList), w = q.1) →
      esik.minMagnitude ≤ |toFloatTr w| → Dayanakli esik |toFloatTr w| (dayanaklar cockpit userMessage gecmis) := by
    rintro w ⟨q, hq, rfl⟩
    obtain ⟨p, hp, rfl⟩ := List.mem_map.mp hq
    obtain ⟨-, -, -, -, -, hdeger⟩ := tutarMetni_trSayi p.1
    have hpos : |toFloatTr (trSayi (p.1 / 100) 2).toList| = p.1 / 100 := by
      rw [hdeger]
      exact abs_of_nonneg (by positivity)
    rw [hpos]
    exact hdayanak p hp
  rw [checkGrounding_ok hkume, toList_cevapYaz]
  exact ⟨fun m hm => htutar m.2 (etiketliler_parcalar hmetin hparca hbos hm),
    fun m hm _ => htutar m.2 (etiketsizler_parcalar hmetin hparca hbos hm)⟩

theorem grounded_reply_passes_kartta : (checkGrounding {} Char.isAlphanum id
    (cevapYaz "Kartta " [(7962585, ", kasada "), (123400, " TL var.")])
    (.sozluk [("borc", .sayi (159252 / 2)), ("kasa", .sayi 1234)]) "" []).ok = true := by
  have hsonraki : ∀ p ∈ [((7962585 : ℕ), ", kasada "), (123400, " TL var.")], p.2.toList.any rakamMi = false := by
    decide +kernel
  refine grounded_reply_passes (fun _ _ => Iff.rfl) (rakamsizdir_of_any (by decide +kernel))
    (fun p hp => rakamsizdir_of_any (hsonraki p hp)) (by decide +kernel) ?_
  intro p hp hmin
  simp only [List.mem_cons, List.not_mem_nil, or_false] at hp
  rcases hp with rfl | rfl
  · exact ⟨159252 / 2, by decide +kernel, by decide +kernel⟩
  · exact ⟨1234, by decide +kernel, by decide +kernel⟩

end Verdict

end FinancialOs.Guarantees
