import FinancialOs.Guarantees.SaleConservation

/-! The lots of an investment over repeated sales: what is sold and what is left add up to what there was, as
far as four decimals go. -/
namespace FinancialOs.Guarantees
open Library Store Rules Executor

def lotSayisi (db : Db) (k : ℕ) : ℚ := ((db.accounts.get? k).bind Account.lotCount).getD 0

/-- A run of sales of an investment, with the lots of each; between them anything may happen that leaves its
lots alone. -/
inductive SatisDizisi (k : ℕ) (bas : Db) : List ℚ → Db → Prop where
  | baslangic : SatisDizisi k bas [] bas
  | satis {satislar : List ℚ} {o : Ortam} {payload : Payload} {ws : List Write} {lot : ℚ}
      (once : SatisDizisi k bas satislar o.db) (yatirim : primaryKey (payload.get .investmentId) = .ok (some k))
      (miktar : (payload.get .lotsToSell).toFloat = .ok (.finite lot))
      (basarili : Commits (executeSellInvestment o payload) ws) :
      SatisDizisi k bas (satislar ++ [lot]) (o.db.writeAll ws)
  | baska {satislar : List ℚ} {ara son : Db} (once : SatisDizisi k bas satislar ara)
      (lotlar : lotSayisi son k = lotSayisi ara k) : SatisDizisi k bas satislar son

section Sales
variable {k : ℕ} {bas son : Db} {satislar : List ℚ}

/-- What a sale leaves of the lots. -/
theorem lotSayisi_satis {o : Ortam} {payload : Payload} {ws : List Write} {lot : ℚ}
    (yatirim : primaryKey (payload.get .investmentId) = .ok (some k))
    (miktar : (payload.get .lotsToSell).toFloat = .ok (.finite lot))
    (basarili : Commits (executeSellInvestment o payload) ws) :
    lot ≤ lotSayisi o.db k ∧ lotSayisi (o.db.writeAll ws) k = roundEven (lotSayisi o.db k - lot) 4 := by
  obtain ⟨inv, credit, fiyat, sim, h, rfl⟩ := sellInvestment_commits.mp basarili
  obtain ⟨satilan, _, _, hlot, _, _, _, hsim⟩ := h.satis
  obtain rfl : satilan = lot := by
    have := hlot.symm.trans miktar
    simpa using this
  obtain ⟨hanahtar, hinv, -⟩ := findById_eq_some.mp h.yatirim
  obtain rfl : inv.1 = k := by
    have := hanahtar.symm.trans yatirim
    simpa using this
  have hbas : lotSayisi o.db inv.1 = inv.2.lotCount.getD 0 := by
    rw [lotSayisi, hinv]
    rfl
  have hson : lotSayisi (o.db.writeAll [satisYaz inv.1 sim fiyat, bakiyeEkle credit.1 sim.netElineGecen]) inv.1 =
      sim.kalanLot := by
    have hsatis : (o.db.write (satisYaz inv.1 sim fiyat)).accounts.get? inv.1 = some { inv.2 with
        lotCount := some sim.kalanLot
        balance := sim.kalanDeger
        currentPrice := some fiyat } := by
      simp only [satisYaz, Db.write, Table.change, Table.get?_modify, hinv, if_true, Option.map_some]
    rw [writeAll_cons, writeAll_cons, writeAll_nil, lotSayisi, accounts_bakiyeEkle, hsatis, Option.map_some]
    split
    · rfl
    · rfl
  obtain ⟨-, hle, -, -, hkalan, -⟩ := simulatePartialSale_ok hsim
  rw [hson, hbas]
  exact ⟨hle, hkalan⟩

/-- What is left is never negative. -/
theorem kalan_nonneg (h : SatisDizisi k bas satislar son) (hbas : 0 ≤ lotSayisi bas k ∨ satislar ≠ []) :
    0 ≤ lotSayisi son k := by
  induction h with
  | baslangic => exact hbas.resolve_right (not_not.mpr rfl)
  | satis once yatirim miktar basarili _ =>
    obtain ⟨hle, hkalan⟩ := lotSayisi_satis yatirim miktar basarili
    rw [hkalan]
    exact roundEven_nonneg (sub_nonneg.mpr hle) 4
  | baska once lotlar ih =>
    rw [lotlar]
    exact ih hbas

/-- Every sale loses or finds half a unit of the fourth decimal at most. -/
theorem korunum_sapmasi (h : SatisDizisi k bas satislar son) :
    |lotSayisi bas k - (satislar.sum + lotSayisi son k)| ≤ satislar.length / 20000 := by
  induction h with
  | baslangic => simp
  | @satis satislar o payload ws lot once yatirim miktar basarili ih =>
    obtain ⟨-, hkalan⟩ := lotSayisi_satis yatirim miktar basarili
    have hyuvarla := abs_roundEven_sub_le (lotSayisi o.db k - lot) 4
    rw [← hkalan] at hyuvarla
    rw [List.sum_append, List.sum_singleton, List.length_append, List.length_singleton]
    have hfark : lotSayisi bas k - (satislar.sum + lot + lotSayisi (o.db.writeAll ws) k) =
        (lotSayisi bas k - (satislar.sum + lotSayisi o.db k)) -
          (lotSayisi (o.db.writeAll ws) k - (lotSayisi o.db k - lot)) := by ring
    rw [hfark]
    calc |(lotSayisi bas k - (satislar.sum + lotSayisi o.db k)) -
          (lotSayisi (o.db.writeAll ws) k - (lotSayisi o.db k - lot))|
        ≤ |lotSayisi bas k - (satislar.sum + lotSayisi o.db k)| +
            |lotSayisi (o.db.writeAll ws) k - (lotSayisi o.db k - lot)| := abs_sub _ _
      _ ≤ satislar.length / 20000 + 1 / 2 / 10 ^ 4 := add_le_add ih hyuvarla
      _ = ((satislar.length + 1 : ℕ) : ℚ) / 20000 := by
          push_cast
          ring
  | baska once lotlar ih =>
    rw [lotlar]
    exact ih

/-- Lots of four decimals are conserved exactly, and stay such. -/
theorem dort_hane_korunum (h : SatisDizisi k bas satislar son) (hbas : HasPlaces 4 (lotSayisi bas k))
    (hlot : ∀ lot ∈ satislar, HasPlaces 4 lot) :
    HasPlaces 4 (lotSayisi son k) ∧ lotSayisi bas k = satislar.sum + lotSayisi son k := by
  induction h with
  | baslangic => exact ⟨hbas, by simp⟩
  | @satis satislar o payload ws lot once yatirim miktar basarili ih =>
    obtain ⟨hara, hesit⟩ := ih fun l hl => hlot l (List.mem_append_left _ hl)
    obtain ⟨-, hkalan⟩ := lotSayisi_satis yatirim miktar basarili
    have hyer : HasPlaces 4 (lotSayisi o.db k - lot) := hara.sub (hlot lot (by simp))
    rw [roundEven_eq_self.mpr hyer] at hkalan
    refine ⟨hkalan ▸ hyer, ?_⟩
    rw [List.sum_append, List.sum_singleton, hkalan, hesit]
    ring
  | baska once lotlar ih =>
    rw [lotlar]
    exact ih hlot

/-- Over any number of sales the remaining lots are never negative, and sold and remaining lots make up the
initial ones: exactly for lots of four decimals, and up to half a unit of the fourth per sale for others. -/
theorem lots_conserved (h : SatisDizisi k bas satislar son) :
    (satislar ≠ [] → 0 ≤ lotSayisi son k) ∧
      |lotSayisi bas k - (satislar.sum + lotSayisi son k)| ≤ satislar.length / 20000 ∧
      (HasPlaces 4 (lotSayisi bas k) → (∀ lot ∈ satislar, HasPlaces 4 lot) →
        lotSayisi bas k = satislar.sum + lotSayisi son k) :=
  ⟨fun hsatis => kalan_nonneg h (.inr hsatis), korunum_sapmasi h,
    fun hbas hlot => (dort_hane_korunum h hbas hlot).2⟩

end Sales

/-- Lots of the fund of ten, into the cash account. -/
def fonSatisi (lot : ℚ) : Payload :=
  [(.investmentId, .int 1), (.lotsToSell, .float (.finite lot)), (.creditToAccountId, .int 2)]

def fonSatisSonucu (lot : ℚ) : SatisSimulasyonu :=
  let tutar := roundEven (lot * 100) 2
  ⟨lot, tutar, tutar, 0, 0, 0, tutar, roundEven (10 - lot) 4, roundEven (roundEven (10 - lot) 4 * 100) 2⟩

private theorem fonSatisi_commits {lot : ℚ}
    (hsim : simulatePartialSale 10 100 100 lot = .ok (fonSatisSonucu lot)) :
    Commits (executeSellInvestment satisOrtami (fonSatisi lot))
      [satisYaz 1 (fonSatisSonucu lot) 100, bakiyeEkle 2 (fonSatisSonucu lot).netElineGecen] := by
  refine sellInvestment_commits.mpr ⟨(1, satilanFon), (2, satisKasasi), 100, fonSatisSonucu lot, ?_, rfl⟩
  constructor
  case yatirim =>
    change findById satisOrtami.db.accounts satisOrtami.userId (satisOrtami.kapsam none) (.int 1) = _
    decide +kernel
  case hedef =>
    change findById satisOrtami.db.accounts satisOrtami.userId (satisOrtami.kapsam none) (.int 2) = _
    decide +kernel
  case satis => exact ⟨lot, 100, 100, rfl, rfl, rfl, rfl, hsim⟩
  all_goals rfl

private theorem fonSatisi_dizisi {lot : ℚ}
    (hsim : simulatePartialSale 10 100 100 lot = .ok (fonSatisSonucu lot)) :
    SatisDizisi 1 satisOrtami.db [lot] (satisOrtami.db.writeAll
      [satisYaz 1 (fonSatisSonucu lot) 100, bakiyeEkle 2 (fonSatisSonucu lot).netElineGecen]) :=
  .satis .baslangic rfl rfl (fonSatisi_commits hsim)

theorem lots_conserved_dort :
    let son := satisOrtami.db.writeAll [satisYaz 1 (fonSatisSonucu 4) 100, bakiyeEkle 2 (fonSatisSonucu 4).netElineGecen]
    ([(4 : ℚ)] ≠ [] → 0 ≤ lotSayisi son 1) ∧
      |lotSayisi satisOrtami.db 1 - ([4].sum + lotSayisi son 1)| ≤ ([(4 : ℚ)].length : ℚ) / 20000 ∧
      (HasPlaces 4 (lotSayisi satisOrtami.db 1) → (∀ lot ∈ [(4 : ℚ)], HasPlaces 4 lot) →
        lotSayisi satisOrtami.db 1 = [4].sum + lotSayisi son 1) :=
  lots_conserved (fonSatisi_dizisi (by decide +kernel))

/-- A sale of 0.00004 lots leaves the fund its ten. -/
theorem sale_left_the_lots :
    ¬ ∀ (k : ℕ) (bas son : Db) (satislar : List ℚ), SatisDizisi k bas satislar son →
      0 ≤ lotSayisi son k ∧ lotSayisi bas k = satislar.sum + lotSayisi son k := by
  intro h
  have hk := (h 1 _ _ _ (@fonSatisi_dizisi (4 / 100000) (by decide +kernel))).2
  exact absurd hk (by decide +kernel)

end FinancialOs.Guarantees
