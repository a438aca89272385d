import FinancialOs.Library.TransitionRuns
import FinancialOs.Routers.Providers

/-! Whom the chain of providers asks, how often, and what comes out, whatever the providers answer; and which of them
are passed over in later messages. -/
namespace FinancialOs.Guarantees
open Library Routers

/-- The provider said that the request is too large for it. -/
def CokBuyuk (d : MetinDesenleri) (c : HamCagri) : Prop := ∃ e, c.sonuc = .error e ∧ isRequestTooLarge d e = true

/-- The requests of one provider in a row. -/
structure Blok (b : Saglayici × List HamCagri) : Prop where
  dolu : b.2 ≠ []
  kisa : b.2.length ≤ 3
  kendi : ∀ c ∈ b.2, c.saglayici = b.1

def Hatali (c : HamCagri) : Prop := ∃ e, c.sonuc = .error e

/-- How the requests of a message end: with the first answer that comes, or with the error of the last candidate. -/
def Bitis (adaylar : List Saglayici) (bloklar : List (Saglayici × List HamCagri)) :
    Except SaglayiciHatasi LLMResponse → Prop
  | .ok y => ∃ once son y', bloklar.flatMap Prod.snd = once ++ [son] ∧ (∀ c ∈ once, Hatali c) ∧ son.sonuc = .ok y' ∧
      y = { y' with providerUsed := some son.saglayici.ad.toLower }
  | .error e => bloklar.map Prod.fst = adaylar ∧ ∃ once son, bloklar.flatMap Prod.snd = once ++ [son] ∧
      (∀ c ∈ once, Hatali c) ∧ son.sonuc = .error e

section Chain
variable {ayar : DenemeAyari} {ag : Ag} {d : MetinDesenleri} {e : SaglayiciHatasi} {p : Saglayici}

/-- A request that is too large is not sent to the same provider again. -/
theorem not_tooLarge (h : yenidenDenenir ayar e = true) : isRequestTooLarge ayar.desenler e = false := by
  rw [yenidenDenenir] at h
  split_ifs at h with hkota
  · rw [isRequestTooLarge, of_decide_eq_true hkota]
    rfl
  · rw [isRequestTooLarge, of_decide_eq_true (Bool.and_eq_true_iff.mp h).2]
    rfl

/-- The requests of one provider: all but the last failed, none of these for its size. -/
theorem callWithRetry_spec (gecmis : List HamCagri) (kalan : ℕ) : ∃ once son,
    (callWithRetry ayar ag p gecmis kalan).2 = gecmis ++ (once ++ [son]) ∧
      (callWithRetry ayar ag p gecmis kalan).1 = son.sonuc ∧ son.saglayici = p ∧ once.length ≤ kalan ∧
      ∀ c ∈ once, c.saglayici = p ∧ Hatali c ∧ ¬ CokBuyuk ayar.desenler c := by
  have hbir : ∀ g r, r = (hamCagri ag p g).sonuc → ∀ kalan, ∃ once son,
      (r, g ++ [hamCagri ag p g]).2 = g ++ (once ++ [son]) ∧ r = son.sonuc ∧ son.saglayici = p ∧
        once.length ≤ kalan ∧ ∀ c ∈ once, c.saglayici = p ∧ Hatali c ∧ ¬ CokBuyuk ayar.desenler c := fun g r hr kalan =>
    ⟨[], _, rfl, hr, rfl, Nat.zero_le kalan, fun c hc => absurd hc List.not_mem_nil⟩
  induction kalan generalizing gecmis with
  | zero =>
    rw [callWithRetry]
    split
    · next y hy => exact hbir _ _ hy.symm 0
    · next e he => exact hbir _ _ he.symm 0
  | succ kalan ih =>
    rw [callWithRetry]
    split
    · next y hy => exact hbir _ _ hy.symm _
    · next e he =>
      dsimp only
      split_ifs with hyeniden
      · -- the failed request is one more in front of those that follow
        obtain ⟨once, son, hgecmis, hsonuc, hson, hlen, honce⟩ := ih (gecmis ++ [hamCagri ag p gecmis])
        refine ⟨hamCagri ag p gecmis :: once, son, ?_, hsonuc, hson, Nat.succ_le_succ hlen, ?_⟩
        · rw [hgecmis, List.append_assoc]
          rfl
        · refine List.forall_mem_cons.mpr ⟨⟨rfl, ⟨e, he⟩, ?_⟩, honce⟩
          rintro ⟨e', he', hbuyuk⟩
          obtain rfl := Except.error.inj (he.symm.trans he')
          rw [not_tooLarge hyeniden] at hbuyuk
          cases hbuyuk
      · exact hbir _ _ he.symm _

/-- What a message did to the chain, told by its requests. -/
structure Sorusturma (ayar : DenemeAyari) (z : FallbackProvider) (adaylar : List Saglayici)
    (r : Except SaglayiciHatasi LLMResponse × FallbackProvider) (bloklar : List (Saglayici × List HamCagri)) : Prop where
  gecmis : r.2.gecmis = z.gecmis ++ bloklar.flatMap Prod.snd
  sirayla : bloklar.map Prod.fst <+: adaylar
  blok : ∀ b ∈ bloklar, Blok b
  bitis : Bitis adaylar bloklar r.1
  oversized : ∀ ad, ad ∈ r.2.oversizedProviders ↔
    ad ∈ z.oversizedProviders ∨ ∃ c ∈ bloklar.flatMap Prod.snd, c.saglayici.ad = ad ∧ CokBuyuk ayar.desenler c
  providers : r.2.providers = z.providers

/-- The blocks of the candidates that failed come in front. -/
theorem Bitis.cons {b : Saglayici × List HamCagri} {adaylar : List Saglayici}
    {bloklar : List (Saglayici × List HamCagri)} {r : Except SaglayiciHatasi LLMResponse} (hb : ∀ c ∈ b.2, Hatali c)
    (h : Bitis adaylar bloklar r) : Bitis (b.1 :: adaylar) (b :: bloklar) r := by
  have hson : ∀ once son, bloklar.flatMap Prod.snd = once ++ [son] → (∀ c ∈ once, Hatali c) →
      (b :: bloklar).flatMap Prod.snd = (b.2 ++ once) ++ [son] ∧ ∀ c ∈ b.2 ++ once, Hatali c := by
    intro once son hl honce
    refine ⟨by rw [List.flatMap_cons, hl, List.append_assoc], fun c hc => ?_⟩
    exact (List.mem_append.mp hc).elim (hb c) (honce c)
  cases r with
  | ok y =>
    obtain ⟨once, son, y', hl, honce, hy, hused⟩ := h
    obtain ⟨hl, honce⟩ := hson once son hl honce
    exact ⟨_, son, y', hl, honce, hy, hused⟩
  | error e =>
    obtain ⟨hhepsi, once, son, hl, honce, he⟩ := h
    obtain ⟨hl, honce⟩ := hson once son hl honce
    exact ⟨by rw [List.map_cons, hhepsi], _, son, hl, honce, he⟩

/-- Of the requests of one provider only the last can have been too large. -/
theorem buyuk_blok {once : List HamCagri} {son : HamCagri} (hson : son.saglayici = p)
    (honce : ∀ c ∈ once, c.saglayici = p ∧ Hatali c ∧ ¬ CokBuyuk d c) (ad : String) :
    (∃ c ∈ once ++ [son], c.saglayici.ad = ad ∧ CokBuyuk d c) ↔ ad = p.ad ∧ CokBuyuk d son := by
  constructor
  · rintro ⟨c, hc, had, hbuyuk⟩
    rcases List.mem_append.mp hc with hc | hc
    · exact absurd hbuyuk (honce c hc).2.2
    · rw [List.mem_singleton.mp hc] at had hbuyuk
      exact ⟨by rw [← had, hson], hbuyuk⟩
  · rintro ⟨rfl, hbuyuk⟩
    exact ⟨son, by simp, by rw [hson], hbuyuk⟩

theorem mem_dustu {z : FallbackProvider} {once : List HamCagri} {son : HamCagri} {g : List HamCagri}
    (hson : son.saglayici = p) (honce : ∀ c ∈ once, c.saglayici = p ∧ Hatali c ∧ ¬ CokBuyuk ayar.desenler c) (he : son.sonuc = .error e) (ad : String) :
    ad ∈ (z.dustu ayar p e g).oversizedProviders ↔
      ad ∈ z.oversizedProviders ∨ ∃ c ∈ once ++ [son], c.saglayici.ad = ad ∧ CokBuyuk ayar.desenler c := by
  have hbuyuk : CokBuyuk ayar.desenler son ↔ isRequestTooLarge ayar.desenler e = true := by
    constructor
    · rintro ⟨e', he', hbuyuk⟩
      obtain rfl := Except.error.inj (he.symm.trans he')
      exact hbuyuk
    · exact fun h => ⟨e, he, h⟩
  rw [buyuk_blok hson honce, hbuyuk, FallbackProvider.dustu]
  dsimp only
  split_ifs with h
  · rw [List.mem_cons, or_comm]
    exact or_congr_right ⟨fun had => ⟨had, h.1⟩, And.left⟩
  · constructor
    · exact .inl
    · rintro (had | ⟨rfl, hbuyuk⟩)
      · exact had
      · by_contra hyok
        exact h ⟨hbuyuk, hyok⟩

theorem blok_of_spec {once : List HamCagri} {son : HamCagri} (hson : son.saglayici = p) (hlen : once.length ≤ 2)
    (honce : ∀ c ∈ once, c.saglayici = p ∧ Hatali c ∧ ¬ CokBuyuk d c) : Blok (p, once ++ [son]) := by
  refine ⟨by simp, by simpa using Nat.succ_le_succ hlen, fun c hc => ?_⟩
  rcases List.mem_append.mp hc with hc | hc
  · exact (honce c hc).1
  · rw [List.mem_singleton.mp hc, hson]

theorem sorusturma_cevap {z : FallbackProvider} {once : List HamCagri} {son : HamCagri} {y : LLMResponse} {g : List HamCagri}
    {sonraki : List Saglayici} {used : Option String} {n : ℕ} (hson : son.saglayici = p) (hlen : once.length ≤ 2)
    (honce : ∀ c ∈ once, c.saglayici = p ∧ Hatali c ∧ ¬ CokBuyuk ayar.desenler c) (hg : g = z.gecmis ++ (once ++ [son]))
    (hy : son.sonuc = .ok y) :
    Sorusturma ayar z (p :: sonraki) (.ok { y with providerUsed := some p.ad.toLower },
      { z with lastUsedProvider := used, fallbackCount := n, gecmis := g }) [(p, once ++ [son])] := by
  have htek : [(p, once ++ [son])].flatMap Prod.snd = once ++ [son] := List.flatMap_singleton ..
  refine ⟨by rw [htek, hg], ?_, fun b hb => List.mem_singleton.mp hb ▸ blok_of_spec hson hlen honce, ?_, fun ad => ?_, rfl⟩
  · exact List.cons_prefix_cons.mpr ⟨rfl, List.nil_prefix⟩
  · exact ⟨once, son, y, htek, fun c hc => (honce c hc).2.1, hy, by rw [hson]⟩
  · rw [htek, buyuk_blok hson honce]
    constructor
    · exact .inl
    · rintro (had | ⟨-, e, he, -⟩)
      · exact had
      · rw [hy] at he
        cases he

theorem dene_spec (ilk : Bool) (p : Saglayici) (sonraki : List Saglayici) (z : FallbackProvider) :
    ∃ bloklar, Sorusturma ayar z (p :: sonraki) (dene ayar ag ilk p sonraki z) bloklar := by
  induction sonraki generalizing ilk p z with
  | nil =>
    obtain ⟨once, son, hgecmis, hsonuc, hson, hlen, honce⟩ := @callWithRetry_spec ayar ag p z.gecmis 2
    have hblok := blok_of_spec hson hlen honce
    rw [dene]
    split
    · next y hy => exact ⟨_, sorusturma_cevap hson hlen honce hgecmis (hsonuc.symm.trans hy)⟩
    · next e he =>
      have he := hsonuc.symm.trans he
      refine ⟨[(p, once ++ [son])], ?_, List.prefix_rfl, ?_, ?_, ?_, rfl⟩
      · change (callWithRetry ayar ag p z.gecmis 2).2 = _
        rw [hgecmis, List.flatMap_singleton]
      · exact fun b hb => List.mem_singleton.mp hb ▸ hblok
      · exact ⟨rfl, once, son, List.flatMap_singleton .., fun c hc => (honce c hc).2.1, he⟩
      · intro ad
        rw [List.flatMap_singleton]
        exact mem_dustu hson honce he ad
  | cons q sonraki ih =>
    obtain ⟨once, son, hgecmis, hsonuc, hson, hlen, honce⟩ := @callWithRetry_spec ayar ag p z.gecmis 2
    have hblok := blok_of_spec hson hlen honce
    rw [dene]
    split
    · next y hy => exact ⟨_, sorusturma_cevap hson hlen honce hgecmis (hsonuc.symm.trans hy)⟩
    · next e he =>
      have he := hsonuc.symm.trans he
      dsimp only
      obtain ⟨bloklar, h⟩ := ih false q (z.dustu ayar p e (callWithRetry ayar ag p z.gecmis 2).2)
      refine ⟨(p, once ++ [son]) :: bloklar, ?_, ?_, ?_, ?_, ?_, h.providers⟩
      · rw [h.gecmis, List.flatMap_cons, ← List.append_assoc, ← hgecmis]
        rfl
      · exact List.cons_prefix_cons.mpr ⟨rfl, h.sirayla⟩
      · exact List.forall_mem_cons.mpr ⟨hblok, h.blok⟩
      · refine Bitis.cons (b := (p, once ++ [son])) (fun c hc => ?_) h.bitis
        rcases List.mem_append.mp hc with hc | hc
        · exact (honce c hc).2.1
        · exact ⟨e, by rw [List.mem_singleton.mp hc, he]⟩
      · intro ad
        rw [h.oversized, mem_dustu hson honce he ad, List.flatMap_cons, or_assoc]
        refine or_congr_right ?_
        constructor
        · rintro (⟨c, hc, hrest⟩ | ⟨c, hc, hrest⟩)
          · exact ⟨c, List.mem_append_left _ hc, hrest⟩
          · exact ⟨c, List.mem_append_right _ hc, hrest⟩
        · rintro ⟨c, hc, hrest⟩
          rcases List.mem_append.mp hc with hc | hc
          · exact .inl ⟨c, hc, hrest⟩
          · exact .inr ⟨c, hc, hrest⟩

theorem chat_sorusturma (ayar : DenemeAyari) (ag : Ag) (z : FallbackProvider) :
    ∃ bloklar, Sorusturma ayar z z.candidates (z.chat ayar ag) bloklar := by
  rw [FallbackProvider.chat]
  split
  · next h => exact absurd h z.candidates_ne_nil
  · next p sonraki h =>
    rw [h]
    exact dene_spec true p sonraki z

end Chain

/-- Whatever the providers answer: a message goes to the candidates in their order, to each at most three times in a
row, up to the first answer, and then to nobody else; it fails only when all of them have failed, with what the last
one said. -/
theorem chat_asks_in_order (ayar : DenemeAyari) (ag : Ag) (z : FallbackProvider) :
    ∃ bloklar : List (Saglayici × List HamCagri),
      (z.chat ayar ag).2.gecmis = z.gecmis ++ bloklar.flatMap Prod.snd ∧ bloklar.map Prod.fst <+: z.candidates ∧
      (∀ b ∈ bloklar, Blok b) ∧ Bitis z.candidates bloklar (z.chat ayar ag).1 := by
  obtain ⟨bloklar, hb⟩ := chat_sorusturma ayar ag z
  exact ⟨bloklar, hb.gecmis, hb.sirayla, hb.blok, hb.bitis⟩

/-- A process whose chain was just built. -/
def FallbackProvider.ilk (p : Saglayici) (ps : List Saglayici) : FallbackProvider :=
  ⟨p :: ps, List.cons_ne_nil p ps, none, 0, [], []⟩

/-- The providers passed over are those that once said so, over all messages of the process. -/
def AtlananlarDogru (d : MetinDesenleri) (z : FallbackProvider) : Prop :=
  ∀ ad, ad ∈ z.oversizedProviders ↔ ∃ c ∈ z.gecmis, c.saglayici.ad = ad ∧ CokBuyuk d c

section Process
variable {ayar : DenemeAyari} {z : FallbackProvider}

theorem atlananlar_chat (h : AtlananlarDogru ayar.desenler z) (ag : Ag) :
    AtlananlarDogru ayar.desenler (z.chat ayar ag).2 := by
  obtain ⟨bloklar, hb⟩ := chat_sorusturma ayar ag z
  intro ad
  rw [hb.oversized, hb.gecmis, h ad]
  constructor
  · rintro (⟨c, hc, hrest⟩ | ⟨c, hc, hrest⟩)
    · exact ⟨c, List.mem_append_left _ hc, hrest⟩
    · exact ⟨c, List.mem_append_right _ hc, hrest⟩
  · rintro ⟨c, hc, hrest⟩
    rcases List.mem_append.mp hc with hc | hc
    · exact .inl ⟨c, hc, hrest⟩
    · exact .inr ⟨c, hc, hrest⟩

/-- Somebody is left to ask: then nobody is asked who is passed over. -/
theorem candidates_gecerli (hkalan : ∃ p ∈ z.providers, p.ad ∉ z.oversizedProviders) :
    ∀ p ∈ z.candidates, p.ad ∉ z.oversizedProviders := by
  intro p hp
  rw [FallbackProvider.candidates] at hp
  split_ifs at hp with hbos
  · obtain ⟨q, hq, hyok⟩ := hkalan
    have hmem : q ∈ z.providers.filter fun p => p.ad ∉ z.oversizedProviders := List.mem_filter.mpr ⟨hq, by simpa using hyok⟩
    rw [hbos] at hmem
    exact absurd hmem List.not_mem_nil
  · simpa using (List.mem_filter.mp hp).2

end Process

/-- After any run of messages, whatever came back: the chain passes over exactly the providers that once said that a
request was too large for them, and as long as another one is left, no further request goes to them. -/
theorem too_large_is_passed_over (ayar : DenemeAyari) (p : Saglayici) (ps : List Saglayici) (aglar : List Ag)
    (ag : Ag) :
    let z := run (fun z ag => (z.chat ayar ag).2) (FallbackProvider.ilk p ps) aglar
    (∀ ad, ad ∈ z.oversizedProviders ↔ ∃ c ∈ z.gecmis, c.saglayici.ad = ad ∧ CokBuyuk ayar.desenler c) ∧
    ∃ yeni, (z.chat ayar ag).2.gecmis = z.gecmis ++ yeni ∧
      ((∃ q ∈ p :: ps, ∀ c ∈ z.gecmis, c.saglayici.ad = q.ad → ¬ CokBuyuk ayar.desenler c) →
        ∀ c' ∈ yeni, ∀ c ∈ z.gecmis, c.saglayici.ad = c'.saglayici.ad → ¬ CokBuyuk ayar.desenler c) := by
  intro z
  have hinv : z.providers = p :: ps ∧ AtlananlarDogru ayar.desenler z := by
    refine @run_invariant_all _ _ _ (fun z : FallbackProvider => z.providers = p :: ps ∧ AtlananlarDogru ayar.desenler z)
      (fun s a hs => ⟨?_, atlananlar_chat hs.2 a⟩) _ aglar ⟨rfl, fun ad => ?_⟩
    · obtain ⟨bloklar, hb⟩ := chat_sorusturma ayar a s
      exact hb.providers.trans hs.1
    · exact iff_of_false List.not_mem_nil fun ⟨c, hc, _⟩ => absurd hc List.not_mem_nil
  obtain ⟨hproviders, hatlanan⟩ := hinv
  obtain ⟨bloklar, hb⟩ := chat_sorusturma ayar ag z
  refine ⟨hatlanan, _, hb.gecmis, ?_⟩
  rintro ⟨q, hq, hqtemiz⟩ c' hc' c hc had hbuyuk
  have hkalan : ∃ p ∈ z.providers, p.ad ∉ z.oversizedProviders := by
    refine ⟨q, hproviders ▸ hq, fun hmem => ?_⟩
    obtain ⟨c, hc, had, hbuyuk⟩ := (hatlanan q.ad).mp hmem
    exact hqtemiz c hc had hbuyuk
  obtain ⟨b, hbm, hcb⟩ := List.mem_flatMap.mp hc'
  have haday : b.1 ∈ z.candidates := hb.sirayla.subset (List.mem_map_of_mem hbm)
  refine candidates_gecerli hkalan b.1 haday ((hatlanan b.1.ad).mpr ⟨c, hc, ?_, hbuyuk⟩)
  rw [had, (hb.blok b hbm).kendi c' hcb]

end FinancialOs.Guarantees
