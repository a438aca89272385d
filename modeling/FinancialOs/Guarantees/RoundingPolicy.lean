import FinancialOs.Rules.PartialSale

/-! The amounts of a sale against the rounding policy: half up, and from the exact amount. The engine rounds halves to
even and goes on with what it has rounded, so what the roundings drop decides. -/
namespace FinancialOs.Guarantees
open Library Rules

/-- What the engine's rounding drops of an amount. -/
def artik (x : ℚ) : ℚ := x - roundEven x 2

/-- What it drops of a lot count. -/
def lotArtigi (x : ℚ) : ℚ := x - roundEven x 4

/-- An exact amount and what has been dropped of it: less than half a kuruş, or just as half up drops a half. -/
def YariAlti (x dropped : ℚ) : Prop := |dropped| < 1 / 200 ∨ |dropped| = 1 / 200 ∧ (0 < x ↔ dropped < 0)

/-- An amount in whole kuruş follows the policy exactly if what it lacks does. -/
theorem yariYukari_iff {x z dropped : ℚ} (hz : HasPlaces 2 z) (hdropped : x - z = dropped) :
    z = roundHalfUp x 2 ↔ YariAlti x dropped := by
  rw [eq_comm, roundHalfUp_eq_iff hz, hdropped, YariAlti, ← hdropped, sub_neg]
  norm_num

section Sale
variable (lotCount costPerLot currentPrice lotsToSell : ℚ)

def tamSatis : ℚ := lotsToSell * currentPrice

def tamMaliyet : ℚ := lotsToSell * costPerLot

def tamKar : ℚ := tamSatis currentPrice lotsToSell - tamMaliyet costPerLot lotsToSell

/-- The tax on a profit. -/
def tamStopaj : ℚ :=
  if 0 < tamKar costPerLot currentPrice lotsToSell then tamKar costPerLot currentPrice lotsToSell * stopajOrani else 0

/-- Every amount of a sale is the exact result of its formula, rounded half up. -/
structure SatisYariYukari (sim : SatisSimulasyonu) : Prop where
  satisTutari : sim.satisTutari = roundHalfUp (tamSatis currentPrice lotsToSell) 2
  satisMaliyeti : sim.satisMaliyeti = roundHalfUp (tamMaliyet costPerLot lotsToSell) 2
  brutKar : sim.brutKar = roundHalfUp (tamKar costPerLot currentPrice lotsToSell) 2
  stopaj : sim.stopaj = roundHalfUp (tamStopaj costPerLot currentPrice lotsToSell) 2
  netKar : sim.netKar = roundHalfUp
    (tamKar costPerLot currentPrice lotsToSell - tamStopaj costPerLot currentPrice lotsToSell) 2
  netElineGecen : sim.netElineGecen = roundHalfUp
    (tamSatis currentPrice lotsToSell - tamStopaj costPerLot currentPrice lotsToSell) 2
  kalanDeger : sim.kalanDeger = roundHalfUp ((lotCount - lotsToSell) * currentPrice) 2

structure KarZararYariYukari (pnl : YatirimKarZarari) : Prop where
  toplamMaliyet : pnl.toplamMaliyet = roundHalfUp (lotCount * costPerLot) 2
  guncelDeger : pnl.guncelDeger = roundHalfUp (lotCount * currentPrice) 2
  brutKar : pnl.brutKar = roundHalfUp (lotCount * currentPrice - lotCount * costPerLot) 2

/-- What the profit lacks: the difference of what is dropped of the proceeds and of the cost. -/
def karArtigi : ℚ := artik (tamSatis currentPrice lotsToSell) - artik (tamMaliyet costPerLot lotsToSell)

/-- What the tax lacks: the tax on what the profit lacks, and what is dropped of the tax on the rest of it. -/
def stopajArtigi : ℚ :=
  let kar := tamKar costPerLot currentPrice lotsToSell
  let dropped := karArtigi costPerLot currentPrice lotsToSell
  if 0 < kar - dropped then dropped * stopajOrani + artik ((kar - dropped) * stopajOrani)
  else tamStopaj costPerLot currentPrice lotsToSell

def kalanArtigi : ℚ :=
  let kalan := lotCount - lotsToSell
  lotArtigi kalan * currentPrice + artik ((kalan - lotArtigi kalan) * currentPrice)

/-- What the roundings of a sale drop, carried along to every amount, stays below half a kuruş. -/
structure SatisArtiklari : Prop where
  satisTutari : YariAlti (tamSatis currentPrice lotsToSell) (artik (tamSatis currentPrice lotsToSell))
  satisMaliyeti : YariAlti (tamMaliyet costPerLot lotsToSell) (artik (tamMaliyet costPerLot lotsToSell))
  brutKar : YariAlti (tamKar costPerLot currentPrice lotsToSell) (karArtigi costPerLot currentPrice lotsToSell)
  stopaj : YariAlti (tamStopaj costPerLot currentPrice lotsToSell) (stopajArtigi costPerLot currentPrice lotsToSell)
  netKar : YariAlti (tamKar costPerLot currentPrice lotsToSell - tamStopaj costPerLot currentPrice lotsToSell)
    (karArtigi costPerLot currentPrice lotsToSell - stopajArtigi costPerLot currentPrice lotsToSell)
  netElineGecen : YariAlti (tamSatis currentPrice lotsToSell - tamStopaj costPerLot currentPrice lotsToSell)
    (artik (tamSatis currentPrice lotsToSell) - stopajArtigi costPerLot currentPrice lotsToSell)
  kalanDeger : YariAlti ((lotCount - lotsToSell) * currentPrice) (kalanArtigi lotCount currentPrice lotsToSell)

structure KarZararArtiklari : Prop where
  toplamMaliyet : YariAlti (lotCount * costPerLot) (artik (lotCount * costPerLot))
  guncelDeger : YariAlti (lotCount * currentPrice) (artik (lotCount * currentPrice))
  brutKar : YariAlti (lotCount * currentPrice - lotCount * costPerLot)
    (artik (lotCount * currentPrice) - artik (lotCount * costPerLot))

end Sale

section Policy
variable {lotCount costPerLot currentPrice lotsToSell : ℚ} {sim : SatisSimulasyonu}

/-- The roundings of differences of rounded amounts drop nothing. -/
theorem roundEven_sub {p q : ℚ} (hp : HasPlaces 2 p) (hq : HasPlaces 2 q) : roundEven (p - q) 2 = p - q :=
  roundEven_eq_self.mpr (hp.sub hq)

/-- What a sale shows, in whole kuruş. -/
structure SatisTutarlari (sim : SatisSimulasyonu) (lotCount costPerLot currentPrice lotsToSell : ℚ) : Prop where
  satisTutari : sim.satisTutari = roundEven (tamSatis currentPrice lotsToSell) 2
  satisMaliyeti : sim.satisMaliyeti = roundEven (tamMaliyet costPerLot lotsToSell) 2
  brutKar : sim.brutKar = sim.satisTutari - sim.satisMaliyeti
  stopaj : sim.stopaj = if 0 < sim.brutKar then roundEven (sim.brutKar * stopajOrani) 2 else 0
  stopajKurus : HasPlaces 2 sim.stopaj
  netKar : sim.netKar = sim.brutKar - sim.stopaj
  netElineGecen : sim.netElineGecen = sim.satisTutari - sim.stopaj
  kalanDeger : sim.kalanDeger = roundEven (roundEven (lotCount - lotsToSell) 4 * currentPrice) 2

theorem simulatePartialSale_tutarlar (h : simulatePartialSale lotCount costPerLot currentPrice lotsToSell = .ok sim) :
    SatisTutarlari sim lotCount costPerLot currentPrice lotsToSell := by
  unfold simulatePartialSale at h
  split_ifs at h with hlot hneg hfew
  obtain rfl := Except.ok.inj h
  have htutar := hasPlaces_roundEven (lotsToSell * currentPrice) 2
  have hmaliyet := hasPlaces_roundEven (lotsToSell * costPerLot) 2
  have hstopaj (b : ℚ) : HasPlaces 2 (if 0 < b then roundEven (b * stopajOrani) 2 else 0) := by
    split_ifs
    · exact hasPlaces_roundEven _ 2
    · exact hasPlaces_zero
  exact
    { satisTutari := rfl
      satisMaliyeti := rfl
      brutKar := roundEven_sub htutar hmaliyet
      stopaj := rfl
      stopajKurus := hstopaj _
      netKar := roundEven_sub (hasPlaces_roundEven _ 2) (hstopaj _)
      netElineGecen := roundEven_sub htutar (hstopaj _)
      kalanDeger := rfl }

theorem satisYariYukari_iff (h : simulatePartialSale lotCount costPerLot currentPrice lotsToSell = .ok sim) :
    SatisYariYukari lotCount costPerLot currentPrice lotsToSell sim ↔
      SatisArtiklari lotCount costPerLot currentPrice lotsToSell := by
  have t := simulatePartialSale_tutarlar h
  have htutar : HasPlaces 2 sim.satisTutari := t.satisTutari ▸ hasPlaces_roundEven _ 2
  have hmaliyet : HasPlaces 2 sim.satisMaliyeti := t.satisMaliyeti ▸ hasPlaces_roundEven _ 2
  have hbrut : HasPlaces 2 sim.brutKar := t.brutKar ▸ htutar.sub hmaliyet
  have hkar : tamKar costPerLot currentPrice lotsToSell - sim.brutKar = karArtigi costPerLot currentPrice lotsToSell := by
    rw [t.brutKar, t.satisTutari, t.satisMaliyeti, tamKar, karArtigi, artik, artik]
    ring
  have hstopaj : tamStopaj costPerLot currentPrice lotsToSell - sim.stopaj =
      stopajArtigi costPerLot currentPrice lotsToSell := by
    have hkar' : tamKar costPerLot currentPrice lotsToSell - karArtigi costPerLot currentPrice lotsToSell = sim.brutKar := by
      rw [← hkar, sub_sub_cancel]
    rw [t.stopaj, stopajArtigi, hkar']
    split_ifs with hpos
    · -- a profit in whole kuruş is a profit
      have htam : 0 < tamKar costPerLot currentPrice lotsToSell := by
        rw [t.brutKar, t.satisTutari, t.satisMaliyeti, sub_pos] at hpos
        exact sub_pos.mpr (lt_of_not_ge fun hle => hpos.not_ge (roundEven_mono hle 2))
      rw [tamStopaj, if_pos htam, artik, ← hkar]
      ring
    · rw [sub_zero]
  have hkalan : (lotCount - lotsToSell) * currentPrice - sim.kalanDeger = kalanArtigi lotCount currentPrice lotsToSell := by
    rw [t.kalanDeger, kalanArtigi, lotArtigi, sub_sub_cancel, artik]
    ring
  have hsatis := yariYukari_iff htutar (show tamSatis currentPrice lotsToSell - sim.satisTutari = artik _ by
    rw [t.satisTutari]
    rfl)
  have hcost := yariYukari_iff hmaliyet (show tamMaliyet costPerLot lotsToSell - sim.satisMaliyeti = artik _ by
    rw [t.satisMaliyeti]
    rfl)
  have hprofit := yariYukari_iff hbrut hkar
  have htax := yariYukari_iff t.stopajKurus hstopaj
  have hnet := @yariYukari_iff (tamKar costPerLot currentPrice lotsToSell - tamStopaj costPerLot currentPrice lotsToSell)
    sim.netKar (karArtigi costPerLot currentPrice lotsToSell - stopajArtigi costPerLot currentPrice lotsToSell)
    (t.netKar ▸ hbrut.sub t.stopajKurus) (by rw [t.netKar, ← hkar, ← hstopaj]; ring)
  have heline := @yariYukari_iff (tamSatis currentPrice lotsToSell - tamStopaj costPerLot currentPrice lotsToSell)
    sim.netElineGecen (artik (tamSatis currentPrice lotsToSell) - stopajArtigi costPerLot currentPrice lotsToSell)
    (t.netElineGecen ▸ htutar.sub t.stopajKurus) (by rw [t.netElineGecen, t.satisTutari, ← hstopaj, artik]; ring)
  have hdeger := yariYukari_iff (t.kalanDeger ▸ hasPlaces_roundEven _ 2) hkalan
  exact ⟨fun s => ⟨hsatis.mp s.satisTutari, hcost.mp s.satisMaliyeti, hprofit.mp s.brutKar, htax.mp s.stopaj,
      hnet.mp s.netKar, heline.mp s.netElineGecen, hdeger.mp s.kalanDeger⟩,
    fun s => ⟨hsatis.mpr s.satisTutari, hcost.mpr s.satisMaliyeti, hprofit.mpr s.brutKar, htax.mpr s.stopaj,
      hnet.mpr s.netKar, heline.mpr s.netElineGecen, hdeger.mpr s.kalanDeger⟩⟩

theorem karZararYariYukari_iff :
    KarZararYariYukari lotCount costPerLot currentPrice (calculateInvestmentPnl lotCount costPerLot currentPrice) ↔
      KarZararArtiklari lotCount costPerLot currentPrice := by
  have hmaliyet := hasPlaces_roundEven (lotCount * costPerLot) 2
  have hdeger := hasPlaces_roundEven (lotCount * currentPrice) 2
  have hcost := yariYukari_iff hmaliyet (show lotCount * costPerLot - _ = artik _ from rfl)
  have hvalue := yariYukari_iff hdeger (show lotCount * currentPrice - _ = artik _ from rfl)
  have hprofit := @yariYukari_iff (lotCount * currentPrice - lotCount * costPerLot)
    (calculateInvestmentPnl lotCount costPerLot currentPrice).brutKar
    (artik (lotCount * currentPrice) - artik (lotCount * costPerLot)) (hasPlaces_roundEven _ 2) (by
      rw [show (calculateInvestmentPnl lotCount costPerLot currentPrice).brutKar = _ from roundEven_sub hdeger hmaliyet,
        artik, artik]
      ring)
  exact ⟨fun p => ⟨hcost.mp p.toplamMaliyet, hvalue.mp p.guncelDeger, hprofit.mp p.brutKar⟩,
    fun p => ⟨hcost.mpr p.toplamMaliyet, hvalue.mpr p.guncelDeger, hprofit.mpr p.brutKar⟩⟩

/-- The amounts of a sale and of its account follow the policy exactly if what the roundings drop, as it is carried
along, stays below half a kuruş in each of them. -/
theorem rounding_policy_iff (h : simulatePartialSale lotCount costPerLot currentPrice lotsToSell = .ok sim) :
    (SatisYariYukari lotCount costPerLot currentPrice lotsToSell sim ∧
        KarZararYariYukari lotCount costPerLot currentPrice (calculateInvestmentPnl lotCount costPerLot currentPrice)) ↔
      SatisArtiklari lotCount costPerLot currentPrice lotsToSell ∧ KarZararArtiklari lotCount costPerLot currentPrice :=
  and_congr (satisYariYukari_iff h) karZararYariYukari_iff

end Policy

/-- One of two lots at 0.125 lira is sold. -/
theorem yarimKurusSatisi : simulatePartialSale 2 0 (1 / 8) 1 = .ok (⟨1, 3 / 25, 0, 3 / 25, 1 / 50, 1 / 10, 1 / 10, 1, 3 / 25⟩) := by
  decide +kernel

theorem rounding_policy_iff_yarimKurus :
    (SatisYariYukari 2 0 (1 / 8) 1 ⟨1, 3 / 25, 0, 3 / 25, 1 / 50, 1 / 10, 1 / 10, 1, 3 / 25⟩ ∧
        KarZararYariYukari 2 0 (1 / 8) (calculateInvestmentPnl 2 0 (1 / 8))) ↔
      SatisArtiklari 2 0 (1 / 8) 1 ∧ KarZararArtiklari 2 0 (1 / 8) :=
  rounding_policy_iff yarimKurusSatisi

/-- Half a kuruş above an even one is dropped. -/
theorem half_kurus_dropped : ¬ ∀ (lotCount costPerLot currentPrice lotsToSell : ℚ) (sim : SatisSimulasyonu),
    simulatePartialSale lotCount costPerLot currentPrice lotsToSell = .ok sim →
      SatisYariYukari lotCount costPerLot currentPrice lotsToSell sim ∧
        KarZararYariYukari lotCount costPerLot currentPrice (calculateInvestmentPnl lotCount costPerLot currentPrice) := by
  intro h
  have htutar := (h _ _ _ _ _ yarimKurusSatisi).1.satisTutari
  have hyukari : roundHalfUp (tamSatis (1 / 8) 1) 2 = 13 / 100 := by
    rw [tamSatis, roundHalfUp_eq_iff ⟨13, by norm_num⟩]
    norm_num
  rw [hyukari] at htutar
  norm_num at htutar

end FinancialOs.Guarantees
