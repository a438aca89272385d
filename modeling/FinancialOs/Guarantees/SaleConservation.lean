import FinancialOs.Guarantees.NetWorth

/-! Selling an investment turns lots into money. What the sale rounds is worth a few kuruş, and the money
counts as wealth only on a cash account. -/
namespace FinancialOs.Guarantees
open Library Store Rules Executor

/-- The value that rounding adds to a sale: the remaining lots have four decimals, the proceeds two. -/
def yuvarlamaPayi (lot satilan fiyat : ℚ) : ℚ :=
  (roundEven (lot - satilan) 4 - (lot - satilan)) * fiyat + (roundEven (satilan * fiyat) 2 - satilan * fiyat)

/-- The proceeds of a sale. -/
def satisTutari (satilan fiyat : ℚ) : ℚ := roundEven (satilan * fiyat) 2

/-- The tax withheld on a sale's profit. -/
def satisStopaji (satilan maliyet fiyat : ℚ) : ℚ :=
  let brutKar := roundEven (satisTutari satilan fiyat - roundEven (satilan * maliyet) 2) 2
  if 0 < brutKar then roundEven (brutKar * stopajOrani) 2 else 0

theorem simulatePartialSale_ok {lotCount costPerLot currentPrice lotsToSell : ℚ} {sim : SatisSimulasyonu}
    (h : simulatePartialSale lotCount costPerLot currentPrice lotsToSell = .ok sim) :
    0 < lotsToSell ∧ lotsToSell ≤ lotCount ∧ 0 ≤ currentPrice ∧ sim.satilanLot = lotsToSell ∧
      sim.kalanLot = roundEven (lotCount - lotsToSell) 4 ∧
      sim.stopaj = satisStopaji lotsToSell costPerLot currentPrice ∧
      sim.netElineGecen = satisTutari lotsToSell currentPrice - sim.stopaj := by
  unfold simulatePartialSale at h
  split_ifs at h with hlot hneg hfew
  cases h
  refine ⟨not_le.mp hlot, not_lt.mp hfew, not_lt.mp (not_or.mp hneg).1, rfl, rfl, rfl, ?_⟩
  -- both have two decimals, and so has what is left of the proceeds
  apply roundEven_eq_self.mpr
  apply (hasPlaces_roundEven _ 2).sub
  split
  · exact hasPlaces_roundEven _ 2
  · exact hasPlaces_zero

/-- Rounding is worth half a kuruş of the proceeds and half a unit of the last decimal of the lots. -/
theorem yuvarlamaPayi_le {lot satilan fiyat : ℚ} (h : 0 ≤ fiyat) :
    |yuvarlamaPayi lot satilan fiyat| ≤ fiyat / 20000 + 1 / 200 := by
  have hlot := abs_roundEven_sub_le (lot - satilan) 4
  have htutar := abs_roundEven_sub_le (satilan * fiyat) 2
  calc |yuvarlamaPayi lot satilan fiyat|
      ≤ |(roundEven (lot - satilan) 4 - (lot - satilan)) * fiyat| +
          |roundEven (satilan * fiyat) 2 - satilan * fiyat| := abs_add_le _ _
    _ = |roundEven (lot - satilan) 4 - (lot - satilan)| * fiyat +
          |roundEven (satilan * fiyat) 2 - satilan * fiyat| := by rw [abs_mul, abs_of_nonneg h]
    _ ≤ 1 / 2 / 10 ^ 4 * fiyat + 1 / 2 / 10 ^ 2 := add_le_add (mul_le_mul_of_nonneg_right hlot h) htutar
    _ = fiyat / 20000 + 1 / 200 := by ring

/-- Lots of four decimals lose nothing. -/
theorem yuvarlamaPayi_dort_hane {lot satilan : ℚ} (h : HasPlaces 4 (lot - satilan)) (fiyat : ℚ) :
    |yuvarlamaPayi lot satilan fiyat| ≤ 1 / 200 := by
  have htutar := abs_roundEven_sub_le (satilan * fiyat) 2
  rw [yuvarlamaPayi, roundEven_eq_self.mpr h, sub_self, zero_mul, zero_add]
  exact htutar.trans (by norm_num)

/-- The panel with an account at another price. -/
def fiyatla (p : PanelDb) (k : ℕ) (fiyat : ℚ) : PanelDb :=
  { p with db := p.db.write (.account (.update k fun a => { a with currentPrice := some fiyat })) }

/-- A sale that costs the scope its tax, up to a kuruş for the proceeds and one for the remaining lots; the
account that is sold counts at the realised price. -/
def SatisKorunur (p : PanelDb) (o : Ortam) (inv : ℕ) (fiyat : ℚ) (sim : SatisSimulasyonu) (ws : List Write) : Prop :=
  |gorulenNetDeger { p with db := p.db.writeAll ws } o.userId (o.kapsam none) -
    (gorulenNetDeger (fiyatla p inv fiyat) o.userId (o.kapsam none) - sim.stopaj)| ≤ 2 / 100

section Sale
variable {p : PanelDb} {o : Ortam} {payload : Payload} {inv credit : ℕ × Account} {fiyat : ℚ} {sim : SatisSimulasyonu}

theorem servetPayi_yatirim {a : Account} (htip : a.accountType = .investment) (he : a.isEmanet = false) :
    servetPayi a = a.lotCount.getD 0 * a.currentPrice.getD 0 := by
  simp only [servetPayi, htip, he, Bool.false_eq_true, if_false]

/-- What a sale does to the net worth beyond its tax. -/
theorem satis_farki (ho : o.db = p.db) (h : InvestmentSale o payload inv credit fiyat sim) :
    gorulenNetDeger { p with db := p.db.writeAll [satisYaz inv.1 sim fiyat, bakiyeEkle credit.1 sim.netElineGecen] }
        o.userId (o.kapsam none) -
      (gorulenNetDeger (fiyatla p inv.1 fiyat) o.userId (o.kapsam none) - sim.stopaj) =
    yuvarlamaPayi (inv.2.lotCount.getD 0) sim.satilanLot fiyat -
      (1 - bakiyeAgirligi credit.2.accountType) * sim.netElineGecen := by
  obtain ⟨lot, maliyet, _, _, _, _, _, hsim⟩ := h.satis
  obtain ⟨_, _, _, hsatilan, hkalan, _, hnet⟩ := simulatePartialSale_ok hsim
  have hinv : p.db.accounts.get? inv.1 = some inv.2 := ho ▸ h.yatirim.row
  have hscope := names_scope h.yatirim
  have hcscope := names_scope h.hedef
  have hbas : gorulenNetDeger (fiyatla p inv.1 fiyat) o.userId (o.kapsam none) =
      gorulenNetDeger p o.userId (o.kapsam none) + (inv.2.lotCount.getD 0 * fiyat - servetPayi inv.2) := by
    rw [fiyatla, gorulenNetDeger_update hinv hscope hscope]
    exact congrArg (fun x => gorulenNetDeger p o.userId (o.kapsam none) + (x - servetPayi inv.2))
      (servetPayi_yatirim h.tip h.emanet)
  have hsatis : gorulenNetDeger { p with db := p.db.write (satisYaz inv.1 sim fiyat) } o.userId (o.kapsam none) =
      gorulenNetDeger p o.userId (o.kapsam none) + (sim.kalanLot * fiyat - servetPayi inv.2) := by
    rw [satisYaz, gorulenNetDeger_update hinv hscope hscope]
    exact congrArg (fun x => gorulenNetDeger p o.userId (o.kapsam none) + (x - servetPayi inv.2))
      (servetPayi_yatirim h.tip h.emanet)
  obtain ⟨c, hc, htip, hscope'⟩ : ∃ c, (p.db.write (satisYaz inv.1 sim fiyat)).accounts.get? credit.1 = some c ∧
      c.accountType = credit.2.accountType ∧ scopeFilter o.userId (o.kapsam none) c = true := by
    have hrow : p.db.accounts.get? credit.1 = some credit.2 := ho ▸ h.hedef.row
    simp only [satisYaz, Db.write, Table.change, Table.get?_modify, hrow, Option.map_some]
    split
    · exact ⟨_, rfl, rfl, hcscope⟩
    · exact ⟨_, rfl, rfl, hcscope⟩
  have hson := gorulenNetDeger_bakiyeEkle (p := { p with db := p.db.write (satisYaz inv.1 sim fiyat) }) hc hscope'
    sim.netElineGecen
  rw [writeAll_cons, writeAll_cons, writeAll_nil, hson, hsatis, hbas, htip, yuvarlamaPayi, hsatilan, ← hkalan]
  rw [satisTutari] at hnet
  linarith

/-- Into a cash account, a sale of four-decimal lots costs its tax and half a kuruş at most. -/
theorem cash_sale_conserves (ho : o.db = p.db) (h : InvestmentSale o payload inv credit fiyat sim)
    (hnakit : credit.2.accountType = .cash) (hlot : HasPlaces 4 (inv.2.lotCount.getD 0 - sim.satilanLot)) :
    SatisKorunur p o inv.1 fiyat sim [satisYaz inv.1 sim fiyat, bakiyeEkle credit.1 sim.netElineGecen] := by
  rw [SatisKorunur, satis_farki ho h, hnakit, bakiyeAgirligi, sub_self, zero_mul, sub_zero]
  exact (yuvarlamaPayi_dort_hane hlot fiyat).trans (by norm_num)

end Sale

/-- The sales whose wealth is kept: into cash, when rounding is worth two kuruş at most; into an account that
does not count its balance or owes it, when the lost proceeds are within that of it. -/
def SatisUygun (inv credit : Account) (satilan maliyet fiyat : ℚ) : Prop :=
  let pay := yuvarlamaPayi (inv.lotCount.getD 0) satilan fiyat
  let net := satisTutari satilan fiyat - satisStopaji satilan maliyet fiyat
  match credit.accountType with
  | .cash => |pay| ≤ 2 / 100
  | .investment => |pay - net| ≤ 2 / 100
  | _ => |pay - 2 * net| ≤ 2 / 100

def satilanFon : Account :=
  ⟨1, none, "Fon", .investment, 1000, none, none, none, none, some 10, some 100, some 100, false⟩

def satisKasasi : Account := ⟨1, none, "Nakit", .cash, 0, none, none, none, none, none, none, none, false⟩

def satisKarti : Account := ⟨1, none, "Kart", .creditCard, 500, none, none, none, none, none, none, none, false⟩

/-- A fund of ten lots, a cash account and a card. -/
def fonluPanel : PanelDb where
  db := Db.empty.writeAll [
    .account (.insert satilanFon), .account (.insert satisKasasi), .account (.insert satisKarti)]
  hesapEki _ := ⟨none, none, none, none⟩
  envelopes := .empty

def satisGunu : Date := (Date.ofYmd? 2026 5 29).get rfl

def satisOrtami : Ortam := ⟨fonluPanel.db, none, 1, satisGunu⟩

/-- Four lots at the stored price, without a profit. -/
def dortLot (hedef : ℤ) : Payload :=
  [(.investmentId, .int 1), (.lotsToSell, .int 4), (.creditToAccountId, .int hedef)]

def dortLotSatisi : SatisSimulasyonu := ⟨4, 400, 400, 0, 0, 0, 400, 6, 600⟩

private theorem dortLot_satis {hedef : ℤ} {credit : ℕ × Account}
    (hhedef : Names satisOrtami (.int hedef) credit.1 credit.2) (hverildi : (PyValue.int hedef).truthy = true)
    (hemanet : credit.2.isEmanet = false) :
    InvestmentSale satisOrtami (dortLot hedef) (1, satilanFon) credit 100 dortLotSatisi where
  yatirim := by
    change findById satisOrtami.db.accounts satisOrtami.userId (satisOrtami.kapsam none) (.int 1) = _
    rfl
  tip := rfl
  emanet := rfl
  satis := by
    exact ⟨4, 100, 100, PyValue.toFloat_int (by norm_num), rfl, rfl, rfl, by decide +kernel⟩
  verildi := hverildi
  hedef := hhedef
  hedefEmanet := hemanet

private theorem dortLot_kasaya : InvestmentSale satisOrtami (dortLot 2) (1, satilanFon) (2, satisKasasi) 100 dortLotSatisi :=
  dortLot_satis (by unfold Names; rfl) rfl rfl

private theorem dortLot_karta : InvestmentSale satisOrtami (dortLot 3) (1, satilanFon) (3, satisKarti) 100 dortLotSatisi :=
  dortLot_satis (by unfold Names; rfl) rfl rfl

end FinancialOs.Guarantees
