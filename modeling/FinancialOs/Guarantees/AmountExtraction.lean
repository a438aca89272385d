import FinancialOs.Library.CalendarDates
import FinancialOs.Rules.Grounding

/-! The amounts that are read from a text against the text that amounts are written as. -/
namespace FinancialOs.Guarantees
open Library Rules

section Shapes
variable {a c : Char} {y z w r ds kalan ilk son : List Char} {gruplar : List (List Char)}

def Rakamlar (ds : List Char) : Prop := ∀ c ∈ ds, rakamMi c = true

/-- A separator and three digits. -/
def Grup (g : List Char) : Prop := ∃ a ds, g = a :: ds ∧ binlikAyraci a = true ∧ ds.length = 3 ∧ Rakamlar ds

/-- A number: digits, then groups of three, then decimals. -/
structure Sayi (w ilk : List Char) (gruplar : List (List Char)) (son : List Char) : Prop where
  metin : w = ilk ++ (gruplar.flatten ++ son)
  ilk_ne : ilk ≠ []
  ilk_rakam : Rakamlar ilk
  ilk_uzunluk : gruplar ≠ [] → ilk.length ≤ 3
  grup : ∀ g ∈ gruplar, Grup g
  son_kesir : son = [] ∨ ∃ ds, son = ',' :: ds ∧ ds ≠ [] ∧ Rakamlar ds

/-- Up to three digits and groups behind them. -/
structure Gruplu (ilk : List Char) (gruplar : List (List Char)) : Prop where
  ilk_ne : ilk ≠ []
  ilk_rakam : Rakamlar ilk
  ilk_uzunluk : ilk.length ≤ 3
  grup : ∀ g ∈ gruplar, Grup g

/-- The front of a number up to a separator that three more digits are to follow. -/
def Zincir (y : List Char) : Prop :=
  ∃ (ilk : List Char) (gruplar : List (List Char)) (a : Char), y = ilk ++ (gruplar.flatten ++ [a]) ∧
    Gruplu ilk gruplar ∧ binlikAyraci a = true

theorem rakamMi_eq_of_toNat {d : Char} (h : c.toNat = d.toNat) : rakamMi c = rakamMi d := by
  rw [rakamMi, rakamMi, rakamDegeri, rakamDegeri, h]

theorem rakamMi_of_binlikAyraci (h : binlikAyraci c = true) : rakamMi c = false := by
  have h : c = '.' ∨ c.toNat = 0x20 ∨ c.toNat = 0xA0 ∨ c.toNat = 0x202F ∨ c.toNat = 0x2009 := of_decide_eq_true h
  rcases h with rfl | h | h | h | h
  · decide +kernel
  · have h : c.toNat = ' '.toNat := h
    rw [rakamMi_eq_of_toNat h]
    decide +kernel
  · have h : c.toNat = (Char.ofNat 0xA0).toNat := h
    rw [rakamMi_eq_of_toNat h]
    decide +kernel
  · have h : c.toNat = (Char.ofNat 0x202F).toNat := h
    rw [rakamMi_eq_of_toNat h]
    decide +kernel
  · have h : c.toNat = (Char.ofNat 0x2009).toNat := h
    rw [rakamMi_eq_of_toNat h]
    decide +kernel

theorem binlikAyraci_of_rakamMi (h : rakamMi c = true) : binlikAyraci c = false := by
  refine Bool.eq_false_iff.mpr ?_
  intro hc
  rw [rakamMi_of_binlikAyraci hc] at h
  cases h

theorem rakamMi_virgul : rakamMi ',' = false := by decide +kernel

theorem binlikAyraci_virgul : binlikAyraci ',' = false := by decide +kernel

theorem rakamlar_cons : Rakamlar (c :: ds) ↔ rakamMi c = true ∧ Rakamlar ds := List.forall_mem_cons

theorem filter_rakamlar (h : Rakamlar ds) : ds.filter (fun c => !binlikAyraci c) = ds := by
  apply List.filter_eq_self.mpr
  intro c hc
  rw [binlikAyraci_of_rakamMi (h c hc)]
  rfl

theorem rakamlar_append : Rakamlar (ds ++ r) ↔ Rakamlar ds ∧ Rakamlar r := List.forall_mem_append

/-- A character that is no digit stands behind the digits that open a text. -/
theorem rakamlar_bol (hds : Rakamlar ds) (hc : rakamMi c = false) (h : ds ++ r = y ++ c :: kalan) :
    ∃ z, y = ds ++ z ∧ r = z ++ c :: kalan := by
  rcases List.append_eq_append_iff.mp h with ⟨z, rfl, hz⟩ | ⟨z, rfl, hz⟩
  · exact ⟨z, rfl, hz⟩
  · cases z with
    | nil => exact ⟨[], by simp, hz.symm⟩
    | cons d z =>
      -- the character would be one of the digits
      have hd : rakamMi d = true := hds d (by simp)
      rw [← (List.cons.inj hz).1, hc] at hd
      cases hd

/-- Where a number has a character that is no digit: at the front of a group or of the decimals. -/
theorem gruplar_bol (hgrup : ∀ g ∈ gruplar, Grup g) (hc : rakamMi c = false)
    (h : gruplar.flatten ++ son = y ++ c :: kalan) :
    (∃ g₁ ds g₂, gruplar = g₁ ++ (c :: ds) :: g₂ ∧ y = g₁.flatten ∧ kalan = ds ++ (g₂.flatten ++ son)) ∨
      ∃ z, y = gruplar.flatten ++ z ∧ son = z ++ c :: kalan := by
  induction gruplar generalizing y with
  | nil => exact .inr ⟨y, rfl, h⟩
  | cons g gs ih =>
    obtain ⟨⟨a, ds, rfl, ha, hlen, hds⟩, hgs⟩ := List.forall_mem_cons.mp hgrup
    rw [List.flatten_cons, List.append_assoc, List.cons_append] at h
    cases y with
    | nil =>
      obtain ⟨hac, hrest⟩ := List.cons.inj h
      subst hac
      exact .inl ⟨[], ds, gs, rfl, rfl, hrest.symm⟩
    | cons e y =>
      rw [List.cons_append] at h
      obtain ⟨rfl, hrest⟩ := List.cons.inj h
      obtain ⟨z, rfl, hz⟩ := rakamlar_bol hds hc hrest
      rcases ih hgs hz with ⟨g₁, es, g₂, rfl, rfl, hk⟩ | ⟨u, rfl, hu⟩
      · exact .inl ⟨(a :: ds) :: g₁, es, g₂, rfl, rfl, hk⟩
      · exact .inr ⟨u, by simp, hu⟩

/-- The one character of the decimals that is no digit is the comma at their front. -/
theorem Sayi.kesir_bol (h : Sayi w ilk gruplar son) (hc : rakamMi c = false) (hson : son = y ++ c :: kalan) :
    c = ',' ∧ Rakamlar kalan := by
  rcases h.son_kesir with hbos | ⟨ds, hds, -, hrakam⟩
  · rw [hbos] at hson
    exact absurd hson.symm (by simp)
  · rw [hds] at hson
    cases y with
    | nil =>
      obtain ⟨hcomma, hrest⟩ := List.cons.inj hson
      exact ⟨hcomma.symm, hrest ▸ hrakam⟩
    | cons e y =>
      have hmem : c ∈ ds := by
        rw [(List.cons.inj hson).2]
        simp
      have hd := hrakam c hmem
      rw [hc] at hd
      cases hd

theorem Sayi.virgul_bol (h : Sayi w ilk gruplar son) (hw : w = y ++ ',' :: kalan) : Rakamlar kalan := by
  rw [h.metin] at hw
  obtain ⟨z, rfl, hz⟩ := rakamlar_bol h.ilk_rakam rakamMi_virgul hw
  rcases gruplar_bol h.grup rakamMi_virgul hz with ⟨g₁, ds, g₂, hg, -, -⟩ | ⟨u, rfl, hu⟩
  · obtain ⟨b, es, hb, hayrac, -, -⟩ := h.grup (',' :: ds) (by simp [hg])
    rw [← (List.cons.inj hb).1, binlikAyraci_virgul] at hayrac
    cases hayrac
  · exact (h.kesir_bol rakamMi_virgul hu).2

/-- A number that is cut behind a separator: what is before it is a chain, and three digits follow. -/
theorem Sayi.zincir (h : Sayi w ilk gruplar son) (hw : w = y ++ a :: kalan) (ha : rakamMi a = false) (hav : a ≠ ',') :
    Zincir (y ++ [a]) ∧ ∃ ds t, kalan = ds ++ t ∧ ds.length = 3 ∧ Rakamlar ds := by
  rw [h.metin] at hw
  obtain ⟨z, rfl, hz⟩ := rakamlar_bol h.ilk_rakam ha hw
  rcases gruplar_bol h.grup ha hz with ⟨g₁, ds, g₂, hg, rfl, rfl⟩ | ⟨u, -, hu⟩
  · have hlen : ilk.length ≤ 3 := h.ilk_uzunluk (by simp [hg])
    obtain ⟨b, es, hb, hayrac, hes, hrakam⟩ := h.grup (a :: ds) (by simp [hg])
    obtain ⟨rfl, rfl⟩ := List.cons.inj hb
    have hgrup : ∀ g ∈ g₁, Grup g := fun g hmem => h.grup g (by simp [hg, hmem])
    have hgruplu : Gruplu ilk g₁ := ⟨h.ilk_ne, h.ilk_rakam, hlen, hgrup⟩
    exact ⟨⟨ilk, g₁, a, by simp, hgruplu, hayrac⟩, ds, g₂.flatten ++ son, rfl, hes, hrakam⟩
  · exact absurd (h.kesir_bol ha hu).1 hav

theorem Gruplu.append (h : Gruplu ilk gruplar) {digerleri : List (List Char)} (hg : ∀ g ∈ digerleri, Grup g) :
    Gruplu ilk (gruplar ++ digerleri) := by
  refine ⟨h.ilk_ne, h.ilk_rakam, h.ilk_uzunluk, ?_⟩
  intro g hmem
  exact (List.mem_append.mp hmem).elim (h.grup g) (hg g)

/-- Behind a chain the three digits of a first group are one more group. -/
theorem Zincir.append (hy : Zincir y) (h : Gruplu ilk gruplar) (hlen : ilk.length = 3) : ∃ ilk' gruplar',
    y ++ (ilk ++ gruplar.flatten) = ilk' ++ gruplar'.flatten ∧ Gruplu ilk' gruplar' := by
  obtain ⟨ilk', gruplar', a, rfl, hgruplu, ha⟩ := hy
  have hson : ∀ g ∈ (a :: ilk) :: gruplar, Grup g :=
    List.forall_mem_cons.mpr ⟨⟨a, ilk, rfl, ha, hlen, h.ilk_rakam⟩, h.grup⟩
  exact ⟨ilk', gruplar' ++ (a :: ilk) :: gruplar, by simp, hgruplu.append hson⟩

/-- Behind a first group stands no digit. -/
theorem gruplar_bas (hg : ∀ g ∈ gruplar, Grup g) (hc : rakamMi c = false) (s : List Char) :
    ∃ a t, gruplar.flatten ++ c :: s = a :: t ∧ rakamMi a = false := by
  cases gruplar with
  | nil => exact ⟨c, s, rfl, hc⟩
  | cons g gs =>
    obtain ⟨a, ds, rfl, ha, -, -⟩ := hg g List.mem_cons_self
    exact ⟨a, ds ++ (gs.flatten ++ c :: s), by simp, rakamMi_of_binlikAyraci ha⟩

end Shapes

section Matches
open Matcher
variable {s r ds kalan ilk son : List Char} {gruplar : List (List Char)}

theorem reads_rakam : rakam.Reads fun w => Rakamlar w ∧ w.length = 1 := by
  apply (reads_one rakamMi).mono
  rintro w ⟨c, rfl, hc⟩
  exact ⟨by simpa [Rakamlar] using hc, rfl⟩

theorem rakamlar_flatten {ps : List (List Char)} (h : ∀ u ∈ ps, Rakamlar u ∧ u.length = 1) :
    Rakamlar ps.flatten ∧ ps.flatten.length = ps.length := by
  induction ps with
  | nil => exact ⟨by simp [Rakamlar], rfl⟩
  | cons u ps ih =>
    obtain ⟨⟨hu, hlen⟩, hps⟩ := List.forall_mem_cons.mp h
    obtain ⟨hrest, hlens⟩ := ih hps
    refine ⟨rakamlar_append.mpr ⟨hu, hrest⟩, ?_⟩
    rw [List.flatten_cons, List.length_append, hlen, hlens, List.length_cons, Nat.add_comm]

theorem reads_rakamlar : rakam.many1.Reads fun w => Rakamlar w ∧ w ≠ [] := by
  apply reads_rakam.many1.mono
  rintro w ⟨ps, hne, rfl, hps⟩
  obtain ⟨hds, hlen⟩ := rakamlar_flatten hps
  refine ⟨hds, ?_⟩
  intro hempty
  rw [hempty] at hlen
  exact hne (List.length_eq_zero_iff.mp hlen.symm)

theorem reads_ilkGrup : ilkGrup.Reads fun w => Rakamlar w ∧ w ≠ [] ∧ w.length ≤ 3 := by
  apply (reads_rakam.seq (reads_rakam.upTo 2)).mono
  rintro w ⟨u, v, rfl, ⟨hu, hlen⟩, ps, hps, rfl, hrakam⟩
  obtain ⟨hds, hlens⟩ := rakamlar_flatten hrakam
  refine ⟨rakamlar_append.mpr ⟨hu, hds⟩, ?_, ?_⟩
  · intro hempty
    rw [(List.append_eq_nil_iff.mp hempty).1] at hlen
    cases hlen
  · rw [List.length_append]
    omega

theorem reads_binlikGrup : binlikGrup.Reads Grup := by
  apply ((reads_one binlikAyraci).seq (reads_rakam.seq (reads_rakam.seq reads_rakam))).mono
  rintro w ⟨u, v, rfl, ⟨a, rfl, ha⟩, d, v, rfl, ⟨hd, hdlen⟩, e, f, rfl, ⟨he, helen⟩, hf, hflen⟩
  refine ⟨a, d ++ (e ++ f), rfl, ha, ?_, ?_⟩
  · rw [List.length_append, List.length_append]
    omega
  · exact rakamlar_append.mpr ⟨hd, rakamlar_append.mpr ⟨he, hf⟩⟩

theorem reads_kesir : kesir.Reads fun w => w = [] ∨ ∃ ds, w = ',' :: ds ∧ ds ≠ [] ∧ Rakamlar ds := by
  apply (((reads_one fun c => c = ',').seq reads_rakamlar).upTo 1).mono
  rintro w ⟨ps, hlen, rfl, hps⟩
  match ps with
  | [] => exact .inl rfl
  | [u] =>
    obtain ⟨v, ds, rfl, ⟨c, rfl, hc⟩, hds, hne⟩ := hps u List.mem_cons_self
    have hc : c = ',' := of_decide_eq_true hc
    exact .inr ⟨ds, by simp [hc], hne, hds⟩
  | u :: v :: ps => exact absurd hlen (by simp)

theorem reads_sayi : sayi.Reads fun w => ∃ ilk gruplar son, Sayi w ilk gruplar son := by
  apply ((reads_ilkGrup.seq (reads_binlikGrup.many1.seq reads_kesir)).alt (reads_rakamlar.seq reads_kesir)).mono
  rintro w (⟨ilk, v, rfl, ⟨hilk, hne, hlen⟩, g, son, rfl, ⟨gruplar, -, rfl, hg⟩, hson⟩ |
    ⟨ilk, son, rfl, ⟨hilk, hne⟩, hson⟩)
  · exact ⟨ilk, gruplar, son, rfl, hne, hilk, fun _ => hlen, hg, hson⟩
  · exact ⟨ilk, [], son, rfl, hne, hilk, fun h => absurd rfl h, (by simp), hson⟩

theorem rakam_eq_nil (h : ∀ c ∈ s.head?, rakamMi c = false) : rakam s = [] := one_eq_nil h

/-- Digits one by one, as many as there are. -/
theorem parcala (hds : Rakamlar ds) : (ds.map fun c => [c]).flatten = ds ∧
    ∀ u ∈ ds.map fun c => [c], u ≠ [] ∧ ∀ t, rakam.First (u ++ t) t := by
  refine ⟨by simp [← List.flatMap_def], ?_⟩
  intro u hu
  obtain ⟨c, hc, rfl⟩ := List.mem_map.mp hu
  exact ⟨List.cons_ne_nil c [], fun t => first_one t (hds c hc)⟩

theorem first_rakamlar (hds : Rakamlar ds) (hne : ds ≠ []) (hr : ∀ c ∈ r.head?, rakamMi c = false) :
    rakam.many1.First (ds ++ r) r := by
  obtain ⟨hflat, hfirst⟩ := parcala hds
  have hmany := first_many1 (by simpa using hne) hfirst (rakam_eq_nil hr)
  rwa [hflat] at hmany

theorem first_ilkGrup (hds : Rakamlar ds) (hne : ds ≠ []) (hlen : ds.length ≤ 3)
    (hr : ∀ c ∈ r.head?, rakamMi c = false) : ilkGrup.First (ds ++ r) r := by
  obtain ⟨d, ds, rfl⟩ := List.exists_cons_of_ne_nil hne
  obtain ⟨hd, hds⟩ := rakamlar_cons.mp hds
  obtain ⟨hflat, hfirst⟩ := parcala hds
  have hle : (ds.map fun c => [c]).length ≤ 2 := by
    rw [List.length_map]
    exact Nat.le_of_succ_le_succ hlen
  have hup := first_upTo (fun u hu => (hfirst u hu).2) (rakam_eq_nil hr) hle
  rw [hflat] at hup
  exact (first_one (ds ++ r) hd).seq hup

theorem first_binlikGrup {g : List Char} (hg : Grup g) (t : List Char) : binlikGrup.First (g ++ t) t := by
  obtain ⟨a, ds, rfl, ha, hlen, hds⟩ := hg
  match ds with
  | [d, e, f] =>
    have hd := hds d (by simp)
    have he := hds e (by simp)
    have hf := hds f (by simp)
    exact (first_one _ ha).seq ((first_one _ hd).seq ((first_one _ he).seq (first_one _ hf)))

theorem first_kesir (hds : Rakamlar ds) (hne : ds ≠ []) (hr : ∀ c ∈ r.head?, rakamMi c = false) :
    kesir.First (',' :: (ds ++ r)) r := by
  have honce : ((one fun c => c = ',').seq rakam.many1).First (',' :: (ds ++ r)) r :=
    (first_one (ds ++ r) (by decide)).seq (first_rakamlar hds hne hr)
  have hno : (upTo 0 ((one fun c => c = ',').seq rakam.many1)).First r r := rfl
  exact (honce.seq hno).alt_left

/-- Behind digits that a comma follows there is no group of thousands. -/
theorem gruplu_eq_nil (hilk : Rakamlar ilk) :
    (ilkGrup.seq (binlikGrup.many1.seq kesir)) (ilk ++ ',' :: kalan) = [] := by
  have hgrup : ∀ t ∈ ilkGrup (ilk ++ ',' :: kalan), binlikGrup t = [] := by
    intro t ht
    obtain ⟨u, hu, hds, -, -⟩ := reads_ilkGrup _ t ht
    have hhead : ∀ c ∈ t.head?, binlikAyraci c = false := by
      intro c hc
      obtain ⟨t, rfl⟩ := List.head?_eq_some_iff.mp hc
      cases hrakam : rakamMi c with
      | true => exact binlikAyraci_of_rakamMi hrakam
      | false =>
        obtain ⟨z, rfl, hz⟩ := rakamlar_bol hilk hrakam hu
        cases z with
        | nil => rw [← (List.cons.inj hz).1, binlikAyraci_virgul]
        | cons d z =>
          have hd := hds d (by simp)
          rw [← (List.cons.inj hz).1, rakamMi_virgul] at hd
          cases hd
    rw [binlikGrup, seq, one_eq_nil hhead]
    rfl
  apply List.flatMap_eq_nil_iff.mpr
  intro t ht
  rw [seq, many1, seq, hgrup t ht]
  rfl

/-- A grouped number with decimals is read to its end. -/
theorem first_gruplu (h : Gruplu ilk gruplar) (hgruplar : gruplar ≠ []) (hds : Rakamlar ds) (hne : ds ≠ [])
    (hr : ∀ c ∈ r.head?, rakamMi c = false) :
    (ilkGrup.seq (binlikGrup.many1.seq kesir)).First (ilk ++ (gruplar.flatten ++ ',' :: (ds ++ r))) r := by
  have hayrac : ∀ c ∈ (',' :: (ds ++ r)).head?, binlikAyraci c = false := by
    rintro c ⟨rfl⟩
    exact binlikAyraci_virgul
  have hbinlik : binlikGrup (',' :: (ds ++ r)) = [] := by
    rw [binlikGrup, seq, one_eq_nil hayrac]
    rfl
  have hpieces : ∀ g ∈ gruplar, g ≠ [] ∧ ∀ t, binlikGrup.First (g ++ t) t := by
    intro g hg
    obtain ⟨a, es, he, -⟩ := h.grup g hg
    exact ⟨by simp [he], first_binlikGrup (h.grup g hg)⟩
  have hhead : ∀ c ∈ (gruplar.flatten ++ ',' :: (ds ++ r)).head?, rakamMi c = false := by
    obtain ⟨a, t, hat, ha⟩ := gruplar_bas h.grup rakamMi_virgul (ds ++ r)
    rw [hat]
    rintro c ⟨rfl⟩
    exact ha
  exact (first_ilkGrup h.ilk_rakam h.ilk_ne h.ilk_uzunluk hhead).seq
    ((first_many1 hgruplar hpieces hbinlik).seq (first_kesir hds hne hr))

theorem first_sayi (h : Gruplu ilk gruplar) (hds : Rakamlar ds) (hne : ds ≠ [])
    (hr : ∀ c ∈ r.head?, rakamMi c = false) : sayi.First (ilk ++ (gruplar.flatten ++ ',' :: (ds ++ r))) r := by
  have hvirgul : ∀ c ∈ (',' :: (ds ++ r)).head?, rakamMi c = false := by
    rintro c ⟨rfl⟩
    exact rakamMi_virgul
  by_cases hgruplar : gruplar = []
  · subst hgruplar
    exact First.alt_right (gruplu_eq_nil h.ilk_rakam)
      ((first_rakamlar h.ilk_rakam h.ilk_ne hvirgul).seq (first_kesir hds hne hr))
  · exact (first_gruplu h hgruplar hds hne hr).alt_left

end Matches

section Format
variable {c : Char} {ds : List Char}

theorem rakamDegeri_of_isDigit (h : c.isDigit = true) : rakamDegeri c = some (c.toNat - 48) := by
  have hc : 0x30 ≤ c.toNat ∧ c.toNat < 0x30 + 10 := by
    obtain ⟨hlow, hhigh⟩ := Char.isDigit_iff_toNat.mp h
    exact ⟨hlow, Nat.lt_succ_of_le hhigh⟩
  have hsifir : sifirlar.find? (fun sifir => sifir ≤ c.toNat ∧ c.toNat < sifir + 10) = some 0x30 :=
    List.find?_cons_of_pos (decide_eq_true hc)
  rw [rakamDegeri, hsifir]
  rfl

theorem rakamlar_of_isDigit (h : ∀ c ∈ ds, c.isDigit = true) : Rakamlar ds := by
  intro c hc
  rw [rakamMi, rakamDegeri_of_isDigit (h c hc)]
  rfl

theorem rakamlariOku_of_isDigit (h : ∀ c ∈ ds, c.isDigit = true) : rakamlariOku ds = Nat.ofDigitChars 10 ds 0 := by
  rw [rakamlariOku, Nat.ofDigitChars_eq_foldl]
  apply List.foldl_ext
  intro deger c hc
  rw [rakamDegeri_of_isDigit (h c hc)]
  rfl

/-- Digits from the right with a dot after every third one: a first group, and groups of a dot and three digits. -/
theorem binlik_bicim (l : List Char) (hne : l ≠ []) (hl : Rakamlar l) :
    ∃ (ilk : List Char) (gruplar : List (List Char)),
    (binlik l).reverse = ilk ++ gruplar.flatten ∧ Gruplu ilk gruplar ∧ l.length = ilk.length + 3 * gruplar.length ∧
      (ilk ++ gruplar.flatten).filter (fun c => !binlikAyraci c) = l.reverse := by
  induction l using binlik.induct with
  | case1 a b c d rest ih =>
    obtain ⟨ha, hb, hc, hrest⟩ : rakamMi a = true ∧ rakamMi b = true ∧ rakamMi c = true ∧ Rakamlar (d :: rest) := by
      simpa only [rakamlar_cons] using hl
    obtain ⟨ilk, gruplar, hbinlik, hgruplu, huzunluk, hsade⟩ := ih (List.cons_ne_nil d rest) hrest
    have hcba : Rakamlar [c, b, a] := by simp [Rakamlar, ha, hb, hc]
    have hson : ∀ g ∈ [['.', c, b, a]], Grup g := by
      intro g hg
      rw [List.mem_singleton.mp hg]
      exact ⟨'.', [c, b, a], rfl, rfl, rfl, hcba⟩
    refine ⟨ilk, gruplar ++ [['.', c, b, a]], ?_, hgruplu.append hson, ?_, ?_⟩
    · rw [binlik, List.reverse_cons, List.reverse_cons, List.reverse_cons, List.reverse_cons, hbinlik]
      simp
    · rw [List.length_append, List.length_singleton]
      simp only [List.length_cons] at huzunluk ⊢
      omega
    · have hnokta : ['.', c, b, a].filter (fun x => !binlikAyraci x) = [c, b, a] := by
        rw [List.filter_cons_of_neg (by decide), filter_rakamlar hcba]
      rw [List.flatten_append, ← List.append_assoc, List.filter_append, hsade, List.flatten_singleton, hnokta]
      simp
  | case2 short hshort =>
    have hlen : short.length ≤ 3 := by
      rcases short with _ | ⟨a, _ | ⟨b, _ | ⟨c, _ | ⟨d, rest⟩⟩⟩⟩
      case cons.cons.cons.cons => exact absurd rfl (hshort a b c d rest)
      all_goals simp
    have hbinlik : binlik short = short := by
      rcases short with _ | ⟨a, _ | ⟨b, _ | ⟨c, _ | ⟨d, rest⟩⟩⟩⟩
      case cons.cons.cons.cons => exact absurd rfl (hshort a b c d rest)
      all_goals rfl
    have hrakam : Rakamlar short.reverse := fun c hc => hl c (List.mem_reverse.mp hc)
    have hgruplu : Gruplu short.reverse [] := ⟨by simpa using hne, hrakam, by simpa using hlen, by simp⟩
    refine ⟨short.reverse, [], by simp [hbinlik], hgruplu, by simp, ?_⟩
    rw [List.flatten_nil, List.append_nil, filter_rakamlar hrakam]

/-- An amount as it is written: its sign, its units in groups and its decimals. -/
theorem toList_trSayi (deger : ℚ) (ondalik n : ℕ) (hn : (nearestEven (|deger| * 10 ^ ondalik)).toNat = n) :
    (trSayi deger ondalik).toList = (if deger < 0 then ['-'] else []) ++
      ((binlik (Nat.toDigits 10 (n / 10 ^ ondalik)).reverse).reverse ++
        if ondalik = 0 then [] else ',' :: (Date.padded ondalik (n % 10 ^ ondalik)).toList) := by
  rw [trSayi, hn]
  by_cases hneg : deger < 0
  · by_cases hsifir : ondalik = 0
    · simp [hneg, hsifir, Nat.toString_eq_repr, String.toList_append]
    · simp [hneg, hsifir, Date.padded, Nat.toString_eq_repr, String.toList_append]
  · by_cases hsifir : ondalik = 0
    · simp [hneg, hsifir, Nat.toString_eq_repr]
    · simp [hneg, hsifir, Date.padded, Nat.toString_eq_repr, String.toList_append]

theorem trSayi_eq (n : ℕ) : (trSayi (n / 100) 2).toList =
    (binlik (Nat.toDigits 10 (n / 100)).reverse).reverse ++ ',' :: (Date.padded 2 (n % 100)).toList := by
  have hunits : (nearestEven (|(n / 100 : ℚ)| * 10 ^ 2)).toNat = n := by
    have hn : |(n / 100 : ℚ)| * 10 ^ 2 = ((n : ℤ) : ℚ) := by
      rw [abs_of_nonneg (by positivity)]
      push_cast
      ring
    rw [hn, nearestEven_intCast]
    rfl
  have hneg : ¬(n / 100 : ℚ) < 0 := not_lt.mpr (by positivity)
  rw [toList_trSayi _ _ _ hunits, if_neg hneg, if_neg (by decide), List.nil_append]
  rfl

/-- The text without its separators of thousands is read digit by digit. -/
theorem toFloatTr_eq {w tam ondalik : List Char} (hw : w.filter (fun c => !binlikAyraci c) = tam ++ ',' :: ondalik)
    (htam : ∀ c ∈ tam, c.isDigit = true) (hondalik : ∀ c ∈ ondalik, c.isDigit = true) :
    toFloatTr w = (Nat.ofDigitChars 10 (tam ++ ondalik) 0 : ℕ) / 10 ^ ondalik.length := by
  have hne : ∀ c ∈ tam, decide (c ≠ ',') = true := by
    intro c hc
    refine decide_eq_true ?_
    rintro rfl
    exact absurd (htam ',' hc) (by decide)
  have htake : (tam ++ ',' :: ondalik).takeWhile (· ≠ ',') = tam := by
    rw [List.takeWhile_append_of_pos hne]
    simp
  have hdrop : (tam ++ ',' :: ondalik).dropWhile (· ≠ ',') = ',' :: ondalik := by
    rw [List.dropWhile_append_of_pos hne]
    simp
  have hrakam : ∀ c ∈ tam ++ ondalik, c.isDigit = true := List.forall_mem_append.mpr ⟨htam, hondalik⟩
  rw [toFloatTr, hw, htake, hdrop, List.tail_cons, rakamlariOku_of_isDigit hrakam]

theorem sayiKomsusu_of_isDigit (h : c.isDigit = true) : sayiKomsusu c = true := by
  have hrakam : rakamMi c = true := by
    rw [rakamMi, rakamDegeri_of_isDigit h]
    rfl
  exact decide_eq_true (.inl hrakam)

theorem sayiKomsusu_trSayi (n : ℕ) : ∀ c ∈ (trSayi (n / 100) 2).toList, sayiKomsusu c = true := by
  intro c hc
  rw [trSayi_eq] at hc
  rcases List.mem_append.mp hc with hc | hc
  · rcases mem_binlik (List.mem_reverse.mp hc) with hc | rfl
    · exact sayiKomsusu_of_isDigit (Nat.isDigit_of_mem_toDigits (by decide) (by decide) (List.mem_reverse.mp hc))
    · decide +kernel
  · rcases List.mem_cons.mp hc with rfl | hc
    · decide +kernel
    · exact sayiKomsusu_of_isDigit (Date.isDigit_padded c hc)

/-- An amount of kuruş is written with groups and two decimals, and read as it was. -/
theorem trSayi_bicim (n : ℕ) : ∃ (ilk : List Char) (gruplar : List (List Char)) (ds : List Char),
    (trSayi (n / 100) 2).toList = ilk ++ (gruplar.flatten ++ ',' :: ds) ∧ Gruplu ilk gruplar ∧ Rakamlar ds ∧ ds ≠ [] ∧
      (toString (n / 100)).length = ilk.length + 3 * gruplar.length ∧
      toFloatTr (trSayi (n / 100) 2).toList = n / 100 := by
  have htam : ∀ c ∈ Nat.toDigits 10 (n / 100), c.isDigit = true := fun c hc =>
    Nat.isDigit_of_mem_toDigits (by decide) (by decide) hc
  have hkurus : (Date.padded 2 (n % 100)).toList.length = 2 :=
    Date.length_padded (by decide) (Nat.mod_lt n (by decide))
  have hrakam : Rakamlar (Nat.toDigits 10 (n / 100)).reverse := rakamlar_of_isDigit fun c hc =>
    htam c (List.mem_reverse.mp hc)
  obtain ⟨ilk, gruplar, hbinlik, hgruplu, hlen, hsade⟩ := binlik_bicim _ (by simp [Nat.toDigits_ne_nil]) hrakam
  have hds : Rakamlar (Date.padded 2 (n % 100)).toList := rakamlar_of_isDigit Date.isDigit_padded
  refine ⟨ilk, gruplar, (Date.padded 2 (n % 100)).toList, ?_, hgruplu, hds, ?_, ?_, ?_⟩
  · rw [trSayi_eq, hbinlik, List.append_assoc]
  · exact List.ne_nil_of_length_pos (by omega)
  · rw [Nat.toString_eq_repr, ← String.length_toList, Nat.toList_repr, ← List.length_reverse, hlen]
  · have hfilter : (trSayi (n / 100) 2).toList.filter (fun c => !binlikAyraci c) =
        Nat.toDigits 10 (n / 100) ++ ',' :: (Date.padded 2 (n % 100)).toList := by
      rw [trSayi_eq, hbinlik, List.filter_append, hsade, List.reverse_reverse, List.filter_cons_of_pos (by decide),
        filter_rakamlar hds]
    have hdeger : Nat.ofDigitChars 10 (Nat.toDigits 10 (n / 100) ++ (Date.padded 2 (n % 100)).toList) 0 = n := by
      rw [Nat.ofDigitChars_append, Nat.ofDigitChars_ten_toDigits, Nat.ofDigitChars_eq_ofDigitChars_zero,
        Date.ofDigitChars_padded, hkurus]
      omega
    rw [toFloatTr_eq hfilter htam Date.isDigit_padded, hdeger, hkurus]
    norm_num

end Format

section Place
open Matcher
variable {a : Char} {onceki : Option Char} {x y s t kalan rest : List Char}
variable {ilk ds son onek sonek : List Char} {gruplar : List (List Char)}

theorem tutarDeseni_eq_some (h : tutarDeseni onceki s = some rest) :
    onceki.any sayiKomsusu = false ∧ rest.head?.any sayiKomsusu = false ∧ rest ∈ sayi s := by
  rw [tutarDeseni] at h
  split at h
  · cases h
  · next honceki =>
    obtain ⟨hrest, hmem⟩ := And.intro (List.find?_some h) (List.mem_of_find?_eq_some h)
    exact ⟨Bool.eq_false_iff.mpr honceki, by simpa using hrest, hmem⟩

theorem rakamMi_of_sayiKomsusu {c : Char} (h : sayiKomsusu c = false) : rakamMi c = false ∧ c ≠ '.' ∧ c ≠ ',' := by
  simpa [sayiKomsusu] using h

/-- Between characters that are no part of a number a grouped number with decimals is read to its end. -/
theorem tutarDeseni_gruplu (h : Gruplu ilk gruplar) (hds : Rakamlar ds) (hne : ds ≠ [])
    (honceki : onceki.any sayiKomsusu = false) (hsonek : sonek.head?.any sayiKomsusu = false) :
    tutarDeseni onceki (ilk ++ (gruplar.flatten ++ ',' :: (ds ++ sonek))) = some sonek := by
  have hhead : ∀ c ∈ sonek.head?, rakamMi c = false := fun c hc => by
    rw [hc] at hsonek
    exact (rakamMi_of_sayiKomsusu hsonek).1
  obtain ⟨ls, hls⟩ := List.head?_eq_some_iff.mp (first_sayi h hds hne hhead)
  rw [tutarDeseni, if_neg (by simp [honceki]), hls, List.find?_cons_of_pos (by simp [hsonek])]

/-- In front of a dot or a comma a number of digits, dots and a comma is not read at all: what is shorter
would end at one of these. -/
theorem tutarDeseni_nokta (hs : s = ilk ++ (gruplar.flatten ++ ',' :: ds)) (hkomsu : ∀ c ∈ s, sayiKomsusu c = true)
    (ha : a = '.' ∨ a = ',') : tutarDeseni onceki (s ++ a :: sonek) = none := by
  have harakam : rakamMi a = false := by rcases ha with rfl | rfl <;> decide +kernel
  have hakomsu : sayiKomsusu a = true := by rcases ha with rfl | rfl <;> decide +kernel
  cases hm : tutarDeseni onceki (s ++ a :: sonek) with
  | none => rfl
  | some rest =>
    obtain ⟨-, hrest, hmem⟩ := tutarDeseni_eq_some hm
    obtain ⟨w, hw, ilk', gruplar', son', hsayi⟩ := reads_sayi _ rest hmem
    rcases List.append_eq_append_iff.mp hw with ⟨z, rfl, hz⟩ | ⟨z, rfl, rfl⟩
    · cases z with
      | nil =>
        rw [List.nil_append] at hz
        rw [← hz] at hrest
        exact absurd (hakomsu.symm.trans hrest) (by decide)
      | cons b z =>
        -- what is longer would have the dot or the comma among its decimals
        obtain ⟨rfl, -⟩ := List.cons.inj hz
        have hond : Rakamlar (ds ++ a :: z) := hsayi.virgul_bol (y := ilk ++ gruplar.flatten) (by simp [hs])
        have hd := hond a (by simp)
        rw [harakam] at hd
        cases hd
    · cases z with
      | nil => exact absurd (hakomsu.symm.trans hrest) (by decide)
      | cons b z => exact absurd ((hkomsu b (by simp)).symm.trans hrest) (by decide)

/-- A number that begins in a text and reaches behind it: the text is a chain, and three digits follow it. -/
theorem zincir_of_sayi {w : List Char} (hw : y ++ t = w ++ rest) (hsayi : Sayi w ilk gruplar son)
    (hlen : rest.length < t.length) (hy : y ≠ []) (hlast : y.getLast?.any sayiKomsusu = false) :
    Zincir y ∧ ∃ es k, t = es ++ k ∧ es.length = 3 ∧ Rakamlar es := by
  obtain ⟨y, b, rfl⟩ := (List.eq_nil_or_concat' y).resolve_left hy
  rw [List.getLast?_concat] at hlast
  obtain ⟨hb, -, hbv⟩ := rakamMi_of_sayiKomsusu hlast
  rcases List.append_eq_append_iff.mp hw with ⟨z, rfl, rfl⟩ | ⟨z, -, rfl⟩
  · obtain ⟨hzincir, es, k, rfl, hes, hrakam⟩ := hsayi.zincir (List.append_assoc y [b] z) hb hbv
    exact ⟨hzincir, es, k ++ rest, List.append_assoc es k rest, hes, hrakam⟩
  · rw [List.length_append] at hlen
    omega

theorem zincir_of_match (hm : tutarDeseni onceki (y ++ t) = some rest) (hlen : rest.length < t.length) (hy : y ≠ [])
    (hlast : y.getLast?.any sayiKomsusu = false) :
    Zincir y ∧ ∃ es k, t = es ++ k ∧ es.length = 3 ∧ Rakamlar es := by
  obtain ⟨-, -, hmem⟩ := tutarDeseni_eq_some hm
  obtain ⟨w, hw, ilk, gruplar, son, hsayi⟩ := reads_sayi _ rest hmem
  exact zincir_of_sayi hw hsayi hlen hy hlast

/-- At most three digits before another character, and three digits: the same digits. -/
theorem uzunluk_eq_uc (hlen : ilk.length ≤ 3) (ha : rakamMi a = false) (hds : ds.length = 3) (hrakam : Rakamlar ds)
    (h : ilk ++ a :: kalan = ds ++ s) : ilk.length = 3 := by
  obtain ⟨z, rfl, -⟩ := rakamlar_bol hrakam ha h.symm
  rw [List.length_append] at hlen ⊢
  omega

def GrupZinciri (onek : List Char) : Prop :=
  ∃ x y, onek = x ++ y ∧ Zincir y ∧ x.getLast?.any sayiKomsusu = false

theorem lastOr_none (s : List Char) : lastOr none s = s.getLast? := Option.or_none

/-- Where a number from before reaches into a text that begins with a first group, the group has three digits. -/
theorem zincir_of_pending (h : pending tutarDeseni none 0 onek (ilk ++ a :: kalan) ≠ 0) (ha : rakamMi a = false)
    (hlen : ilk.length ≤ 3) (hlast : onek.getLast?.any sayiKomsusu = false) :
    ilk.length = 3 ∧ ∃ x y, onek = x ++ y ∧ Zincir y ∧ x.getLast?.any sayiKomsusu = false ∧
      pending tutarDeseni none 0 x (y ++ (ilk ++ a :: kalan)) = 0 := by
  obtain ⟨x, y, rest, rfl, hy, hx, hm, hrest, -⟩ := exists_match_of_pending h
  have hylast : y.getLast?.any sayiKomsusu = false := by
    rw [List.getLast?_append_of_ne_nil x hy] at hlast
    exact hlast
  obtain ⟨hzincir, es, k, hk, hes, hrakam⟩ := zincir_of_match hm hrest hy hylast
  rw [lastOr_none] at hm
  exact ⟨uzunluk_eq_uc hlen ha hes hrakam hk, x, y, rfl, hzincir, (tutarDeseni_eq_some hm).1, hx⟩

/-- A chain before a first group of three digits: a number from before reaches into it. -/
theorem pending_of_zincir (h : GrupZinciri onek) (hgruplu : Gruplu ilk gruplar) (hilk : ilk.length = 3)
    (hds : Rakamlar ds) (hne : ds ≠ []) (hsonek : sonek.head?.any sayiKomsusu = false) :
    pending tutarDeseni none 0 onek (ilk ++ (gruplar.flatten ++ ',' :: (ds ++ sonek))) ≠ 0 := by
  have hcover : ∀ x y, onek = x ++ y → Zincir y → x.getLast?.any sayiKomsusu = false →
      pending tutarDeseni none 0 x (y ++ (ilk ++ (gruplar.flatten ++ ',' :: (ds ++ sonek)))) = 0 →
      pending tutarDeseni none 0 onek (ilk ++ (gruplar.flatten ++ ',' :: (ds ++ sonek))) ≠ 0 := by
    rintro x y rfl hy hx hzero
    obtain ⟨ilk', gruplar', heq, hgruplu'⟩ := hy.append hgruplu hilk
    have hm := tutarDeseni_gruplu hgruplu' hds hne hx hsonek
    rw [← List.append_assoc, ← heq, List.append_assoc, List.append_assoc, ← lastOr_none] at hm
    have hyne : y ≠ [] := by
      obtain ⟨i, g, b, rfl, -⟩ := hy
      simp
    rw [pending_of_match hzero hyne hm (by simp; omega)]
    have hpos := List.length_pos_iff.mpr hgruplu.ilk_ne
    simp only [List.length_append, List.length_cons]
    omega
  obtain ⟨x, y, hxy, hy, hx⟩ := h
  by_cases hzero : pending tutarDeseni none 0 x (y ++ (ilk ++ (gruplar.flatten ++ ',' :: (ds ++ sonek)))) = 0
  · exact hcover x y hxy hy hx hzero
  · -- a number from before reaches into the chain: the chain is a part of a longer one
    obtain ⟨i, g, b, rfl, hig, hb⟩ := hy
    obtain ⟨c, t, hct, hc⟩ := gruplar_bas hig.grup (rakamMi_of_binlikAyraci hb)
      (ilk ++ (gruplar.flatten ++ ',' :: (ds ++ sonek)))
    have htext : (i ++ (g.flatten ++ [b])) ++ (ilk ++ (gruplar.flatten ++ ',' :: (ds ++ sonek))) = i ++ c :: t := by
      rw [← hct]
      simp
    rw [htext] at hzero
    obtain ⟨hilen, u, v, rfl, hv, hu, huzero⟩ := zincir_of_pending hzero hc hig.ilk_uzunluk hx
    obtain ⟨i', g', heq, hig'⟩ := hv.append hig hilen
    have hzincir : Zincir (v ++ (i ++ (g.flatten ++ [b]))) := by
      refine ⟨i', g', b, ?_, hig', hb⟩
      rw [← List.append_assoc i', ← heq]
      simp
    refine hcover u (v ++ (i ++ (g.flatten ++ [b]))) ?_ hzincir hu ?_
    · rw [hxy, List.append_assoc]
    · rw [List.append_assoc v, htext]
      exact huzero

theorem sayiKomsusu_eq_false {o : Option Char} (h : ∀ c ∈ o, rakamMi c = false) :
    o.any sayiKomsusu = false ↔ ∀ c ∈ o, c ≠ '.' ∧ c ≠ ',' := by
  cases o with
  | none => simp
  | some c => simp [sayiKomsusu, h c rfl]

/-- A number with decimals is one of the numbers of a text where nothing before it or behind it is taken for a
part of it. -/
theorem mem_scan_gruplu {w : List Char} (hs : s = ilk ++ (gruplar.flatten ++ ',' :: ds)) (h : Gruplu ilk gruplar)
    (hds : Rakamlar ds) (hne : ds ≠ []) (hkomsu : ∀ c ∈ s, sayiKomsusu c = true)
    (honek : ∀ c ∈ onek.getLast?, rakamMi c = false) (hsonek : ∀ c ∈ sonek.head?, rakamMi c = false) :
    (onek.length, w) ∈ scan tutarDeseni 0 none 0 (onek ++ (s ++ sonek)) ↔
      ((∀ c ∈ onek.getLast?, c ≠ '.' ∧ c ≠ ',') ∧ (∀ c ∈ sonek.head?, c ≠ '.' ∧ c ≠ ',') ∧
        ¬(ilk.length = 3 ∧ GrupZinciri onek)) ∧ w = s := by
  have hmetin : s ++ sonek = ilk ++ (gruplar.flatten ++ ',' :: (ds ++ sonek)) := by
    rw [hs]
    simp
  have hscan : (0 + onek.length, w) ∈ scan tutarDeseni 0 none 0 (onek ++ (s ++ sonek)) ↔ _ :=
    mem_scan_at (by simp [hs])
  have hsade : (s ++ sonek).take ((s ++ sonek).length - sonek.length) = s := by
    rw [List.length_append, Nat.add_sub_cancel, List.take_left]
  rw [Nat.zero_add, lastOr_none] at hscan
  rw [hscan, ← sayiKomsusu_eq_false honek, ← sayiKomsusu_eq_false hsonek]
  constructor
  · rintro ⟨hzero, rest, hm, rfl⟩
    obtain ⟨honceki, -, -⟩ := tutarDeseni_eq_some hm
    have hson : sonek.head?.any sayiKomsusu = false := by
      rw [sayiKomsusu_eq_false hsonek]
      intro c hc
      obtain ⟨k, rfl⟩ := List.head?_eq_some_iff.mp hc
      by_contra hnokta
      have ha : c = '.' ∨ c = ',' := by
        by_contra hc
        exact hnokta (not_or.mp hc)
      rw [tutarDeseni_nokta hs hkomsu ha] at hm
      cases hm
    have hrest : rest = sonek := by
      rw [hmetin, tutarDeseni_gruplu h hds hne honceki hson] at hm
      exact (Option.some.inj hm).symm
    refine ⟨⟨honceki, hson, ?_⟩, by rw [hrest, hsade]⟩
    rintro ⟨hilk, hzincir⟩
    rw [hmetin] at hzero
    exact pending_of_zincir hzincir h hilk hds hne hson hzero
  · rintro ⟨⟨honceki, hson, hgrup⟩, rfl⟩
    refine ⟨?_, sonek, ?_, hsade.symm⟩
    · by_contra hpending
      obtain ⟨a, t, hat, ha⟩ := gruplar_bas h.grup rakamMi_virgul (ds ++ sonek)
      rw [hmetin, hat] at hpending
      obtain ⟨hilk, x, y, hxy, hy, hx, -⟩ := zincir_of_pending hpending ha h.ilk_uzunluk honceki
      exact hgrup ⟨hilk, x, y, hxy, hy, hx⟩
    · rw [hmetin]
      exact tutarDeseni_gruplu h hds hne honceki hson

end Place

section Texts
variable {n : ℕ} {onek sonek : String} {w : List Char}

/-- Where an amount is read as the number it is: no dot and no comma beside it, and no groups before it that its
first three digits continue. -/
def YerindeOkunur (n : ℕ) (onek sonek : String) : Prop :=
  (∀ c ∈ onek.toList.getLast?, c ≠ '.' ∧ c ≠ ',') ∧ (∀ c ∈ sonek.toList.head?, c ≠ '.' ∧ c ≠ ',') ∧
    ¬((toString (n / 100)).length % 3 = 0 ∧ GrupZinciri onek.toList)

/-- A number that begins elsewhere in the text has the same value. -/
def BaskaYerde (n : ℕ) (onek sonek : String) : Prop :=
  ∃ m ∈ tutarlar (onek ++ trSayi (n / 100) 2 ++ sonek), m.1 ≠ onek.toList.length ∧ |toFloatTr m.2| = n / 100

theorem mem_tutarlar_yerinde (honek : ∀ c ∈ onek.toList.getLast?, rakamMi c = false)
    (hsonek : ∀ c ∈ sonek.toList.head?, rakamMi c = false) :
    (onek.toList.length, w) ∈ tutarlar (onek ++ trSayi (n / 100) 2 ++ sonek) ↔
      YerindeOkunur n onek sonek ∧ w = (trSayi (n / 100) 2).toList := by
  obtain ⟨ilk, gruplar, ds, hs, hgruplu, hds, hne, hlen, -⟩ := trSayi_bicim n
  have huc : (toString (n / 100)).length % 3 = 0 ↔ ilk.length = 3 := by
    have hpos := List.length_pos_iff.mpr hgruplu.ilk_ne
    have hle := hgruplu.ilk_uzunluk
    omega
  rw [tutarlar, String.toList_append, String.toList_append, List.append_assoc, YerindeOkunur, huc]
  exact mem_scan_gruplu hs hgruplu hds hne (sayiKomsusu_trSayi n) honek hsonek

theorem amount_extracted_iff (honek : ∀ c ∈ onek.toList.getLast?, rakamMi c = false)
    (hsonek : ∀ c ∈ sonek.toList.head?, rakamMi c = false) :
    (n / 100 : ℚ) ∈ metindekiTutarlar (onek ++ trSayi (n / 100) 2 ++ sonek) ↔
      YerindeOkunur n onek sonek ∨ BaskaYerde n onek sonek := by
  rw [metindekiTutarlar, List.mem_map]
  constructor
  · rintro ⟨⟨i, w⟩, hm, hdeger⟩
    by_cases hi : i = onek.toList.length
    · subst hi
      exact .inl ((mem_tutarlar_yerinde honek hsonek).mp hm).1
    · exact .inr ⟨(i, w), hm, hi, hdeger⟩
  · rintro (hyerinde | ⟨m, hm, -, hdeger⟩)
    · obtain ⟨-, -, -, -, -, -, -, -, hdeger⟩ := trSayi_bicim n
      have hm := (mem_tutarlar_yerinde honek hsonek).mpr ⟨hyerinde, rfl⟩
      refine ⟨(onek.toList.length, (trSayi (n / 100) 2).toList), hm, ?_⟩
      rw [hdeger]
      exact abs_of_nonneg (by positivity)
    · exact ⟨m, hm, hdeger⟩

theorem amount_extracted_iff_kartta :
    ((7962585 : ℕ) / 100 : ℚ) ∈ metindekiTutarlar ("Kartta " ++ trSayi ((7962585 : ℕ) / 100) 2 ++ " TL var.") := by
  have honek : ∀ c ∈ "Kartta ".toList.getLast?, rakamMi c = false := by
    rintro c ⟨rfl⟩
    decide +kernel
  have hsonek : ∀ c ∈ " TL var.".toList.head?, rakamMi c = false := by
    rintro c ⟨rfl⟩
    decide +kernel
  refine (amount_extracted_iff honek hsonek).mpr (.inl ⟨?_, ?_, ?_⟩)
  · rintro c ⟨rfl⟩
    decide
  · rintro c ⟨rfl⟩
    decide
  · rintro ⟨hlen, -⟩
    exact absurd hlen (by decide +kernel)

/-- The amount stands at the end of a sentence. -/
theorem amount_lost_at_full_stop : (∀ c ∈ "Kartta ".toList.getLast?, rakamMi c = false) ∧
    (∀ c ∈ ".".toList.head?, rakamMi c = false) ∧
      ((26875 : ℕ) / 100 : ℚ) ∉ metindekiTutarlar ("Kartta " ++ trSayi ((26875 : ℕ) / 100) 2 ++ ".") := by
  refine ⟨?_, ?_, by decide +kernel⟩
  · rintro c ⟨rfl⟩
    decide +kernel
  · rintro c ⟨rfl⟩
    decide +kernel

end Texts

end FinancialOs.Guarantees
