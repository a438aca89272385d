import FinancialOs.Guarantees.NetWorth

/-! Paying a card moves money from one account to another. The money may come from any account the payload
names, and only from a cash account does its leg point the right way. -/
namespace FinancialOs.Guarantees
open Library Store Rules Executor

/-- A payment that leaves the net worth of the scope as it was and moves two balances by its amount. -/
structure OdemeNotr (p : PanelDb) (o : Ortam) (tutar : ℚ) (ws : List Write) : Prop where
  servet : gorulenNetDeger { p with db := p.db.writeAll ws } o.userId (o.kapsam none) =
    gorulenNetDeger p o.userId (o.kapsam none)
  hesaplar : ∃ j k, j ≠ k ∧
    ∀ i, |bakiyeOku (p.db.writeAll ws) i - bakiyeOku p.db i| = if i = j ∨ i = k then tutar else 0

section Payment
variable {p : PanelDb} {o : Ortam} {payload : Payload} {card source : ℕ × Account} {q : ℚ}

theorem bakiyeOku_bakiyeEkle {db : Db} {k : ℕ} {a : Account} (ha : db.accounts.get? k = some a) (q : ℚ) (i : ℕ) :
    bakiyeOku (db.write (bakiyeEkle k q)) i = bakiyeOku db i + if i = k then q else 0 := by
  rw [bakiyeOku, accounts_bakiyeEkle, bakiyeOku]
  by_cases hi : i = k
  · rw [hi, ha]
    simp
  · cases db.accounts.get? i with
    | none => simp [hi]
    | some b => simp [hi]

theorem odemeKaynagi_scope {v : PyValue} (h : odemeKaynagi o v = .ok (some source)) :
    scopeFilter o.userId (o.kapsam none) source.2 = true := by
  rcases odemeKaynagi_some.mp h with ⟨_, h⟩ | ⟨_, h⟩
  · exact (varsayilanHesap_spec h).2.1
  · exact names_scope h

/-- The row of the source behind the first leg of the payment: another account, or the card itself. -/
theorem kaynak_satiri (ho : o.db = p.db) (h : CardPayment o payload card source q) :
    ∃ s, (p.db.write (bakiyeEkle card.1 (-q))).accounts.get? source.1 = some s ∧
      s.accountType = source.2.accountType ∧ scopeFilter o.userId (o.kapsam none) s = true := by
  have hrow := odemeKaynagi_row h.kaynak
  have hscope := odemeKaynagi_scope h.kaynak
  rw [ho] at hrow
  rw [accounts_bakiyeEkle, hrow, Option.map_some]
  split
  · exact ⟨_, rfl, rfl, hscope⟩
  · exact ⟨_, rfl, rfl, hscope⟩

/-- What a payment does to the net worth of the scope: the debt shrinks, and the source takes the other leg. -/
theorem gorulenNetDeger_odeme (ho : o.db = p.db) (h : CardPayment o payload card source q) :
    gorulenNetDeger { p with db := p.db.writeAll [bakiyeEkle card.1 (-q), bakiyeEkle source.1 (-q)] } o.userId
        (o.kapsam none) =
      gorulenNetDeger p o.userId (o.kapsam none) + (1 - bakiyeAgirligi source.2.accountType) * q := by
  obtain ⟨s, hs, htip, hscope⟩ := kaynak_satiri ho h
  have hcard : p.db.accounts.get? card.1 = some card.2 := ho ▸ h.kart.row
  rw [writeAll_cons, writeAll_cons, writeAll_nil]
  have hilk := gorulenNetDeger_bakiyeEkle (p := p) hcard (names_scope h.kart) (-q)
  have hson := gorulenNetDeger_bakiyeEkle (p := { p with db := p.db.write (bakiyeEkle card.1 (-q)) }) hs hscope (-q)
  rw [hson, hilk, htip, h.tip, bakiyeAgirligi]
  ring

theorem bakiyeler_odeme (ho : o.db = p.db) (h : CardPayment o payload card source q) (i : ℕ) :
    bakiyeOku (p.db.writeAll [bakiyeEkle card.1 (-q), bakiyeEkle source.1 (-q)]) i =
      bakiyeOku p.db i + (if i = card.1 then -q else 0) + if i = source.1 then -q else 0 := by
  obtain ⟨s, hs, -, -⟩ := kaynak_satiri ho h
  have hcard : p.db.accounts.get? card.1 = some card.2 := ho ▸ h.kart.row
  rw [writeAll_cons, writeAll_cons, writeAll_nil, bakiyeOku_bakiyeEkle hs, bakiyeOku_bakiyeEkle hcard]

/-- A cash account pays the card from outside it. -/
theorem kaynak_ne_kart (h : CardPayment o payload card source q) (hnakit : source.2.accountType = .cash) :
    card.1 ≠ source.1 := by
  intro he
  have hrow := odemeKaynagi_row h.kaynak
  rw [← he, h.kart.row] at hrow
  have htip := h.tip
  rw [Option.some.inj hrow, hnakit] at htip
  cases htip

end Payment

/-- A payment that goes through is net-worth neutral exactly when its source is a cash account. -/
theorem card_payment_neutral_iff (p : PanelDb) (aktif : Option ℕ) (userId : ℕ) (bugun : Date) {payload : Payload}
    {ws : List Write} {source : ℕ × Account} {q : ℚ}
    (hcommit : Commits (executePayCreditCard ⟨p.db, aktif, userId, bugun⟩ payload) ws)
    (hkaynak : odemeKaynagi ⟨p.db, aktif, userId, bugun⟩ (payload.get .sourceAccountId) = .ok (some source))
    (htutar : paraD (payload.get .amount) = .ok (.finite q)) :
    OdemeNotr p ⟨p.db, aktif, userId, bugun⟩ q ws ↔ source.2.accountType = .cash := by
  obtain ⟨card, kaynak, tutar, h, rfl⟩ := payCreditCard_commits.mp hcommit
  obtain rfl : kaynak = source := by
    have := h.kaynak.symm.trans hkaynak
    simpa using this
  obtain rfl : tutar = q := by
    have := h.tutar.symm.trans htutar
    simpa using this
  have hservet := gorulenNetDeger_odeme rfl h
  constructor
  · intro hn
    have hfark : (1 - bakiyeAgirligi kaynak.2.accountType) * tutar = 0 := by
      have := hn.servet.symm.trans hservet
      linarith
    rw [← bakiyeAgirligi_eq_one]
    have := (mul_eq_zero.mp hfark).resolve_right h.pozitif.ne'
    linarith
  · intro hnakit
    refine ⟨?_, card.1, kaynak.1, kaynak_ne_kart h hnakit, fun i => ?_⟩
    · rw [hservet, hnakit, bakiyeAgirligi]
      ring
    · rw [bakiyeler_odeme rfl h]
      have hne := kaynak_ne_kart h hnakit
      by_cases hk : i = card.1
      · have hs : i ≠ kaynak.1 := hk ▸ hne
        rw [if_pos hk, if_neg hs, if_pos (.inl hk), add_zero, add_sub_cancel_left, abs_neg, abs_of_pos h.pozitif]
      · by_cases hs : i = kaynak.1
        · rw [if_neg hk, if_pos hs, if_pos (.inr hs), add_zero, add_sub_cancel_left, abs_neg, abs_of_pos h.pozitif]
        · rw [if_neg hk, if_neg hs, if_neg (not_or.mpr ⟨hk, hs⟩), add_zero, add_zero, sub_self, abs_zero]

def odemeHesabi : Account := ⟨1, none, "Nakit", .cash, 1000, none, none, none, none, none, none, none, false⟩

def kartHesabi : Account := ⟨1, none, "Kart", .creditCard, 500, none, none, none, none, none, none, none, false⟩

def krediHesabi : Account := ⟨1, none, "Kredi", .loan, 300, none, none, none, none, none, none, none, false⟩

/-- A cash account, a card and a loan. -/
def kartliPanel : PanelDb where
  db := Db.empty.writeAll [
    .account (.insert odemeHesabi), .account (.insert kartHesabi), .account (.insert krediHesabi)]
  hesapEki _ := ⟨none, none, none, none⟩
  envelopes := .empty

def kartGunu : Date := (Date.ofYmd? 2026 5 28).get rfl

def kartOrtami : Ortam := ⟨kartliPanel.db, none, 1, kartGunu⟩

def nakittenOdeme : Payload := [(.cardAccountId, .int 2), (.amount, .int 200)]

def kredidenOdeme : Payload := [(.cardAccountId, .int 2), (.amount, .int 200), (.sourceAccountId, .int 3)]

private theorem nakittenOdeme_commits : Commits (executePayCreditCard kartOrtami nakittenOdeme)
    [bakiyeEkle 2 (-200), bakiyeEkle 1 (-200)] :=
  payCreditCard_commits.mpr ⟨(2, kartHesabi), (1, odemeHesabi), 200,
    ⟨by unfold Names; decide +kernel, rfl, by decide +kernel, by decide +kernel, by norm_num⟩, rfl⟩

private theorem kredidenOdeme_odeme :
    CardPayment kartOrtami kredidenOdeme (2, kartHesabi) (3, krediHesabi) 200 :=
  ⟨by unfold Names; decide +kernel, rfl, by decide +kernel, by decide +kernel, by norm_num⟩

theorem card_payment_neutral_iff_nakitten :
    OdemeNotr kartliPanel kartOrtami 200 [bakiyeEkle 2 (-200), bakiyeEkle 1 (-200)] ↔
      odemeHesabi.accountType = .cash :=
  card_payment_neutral_iff kartliPanel none 1 kartGunu nakittenOdeme_commits
    (show odemeKaynagi kartOrtami (nakittenOdeme.get .sourceAccountId) = .ok (some (1, odemeHesabi)) by decide +kernel)
    (show paraD (nakittenOdeme.get .amount) = .ok (.finite 200) by decide +kernel)

/-- Drawn from a loan, a payment of 200 shrinks both debts and makes the user 400 richer. -/
theorem card_payment_made_money :
    ¬ ∀ (p : PanelDb) (aktif : Option ℕ) (userId : ℕ) (bugun : Date) (payload : Payload) (ws : List Write) (q : ℚ),
      Commits (executePayCreditCard ⟨p.db, aktif, userId, bugun⟩ payload) ws →
      paraD (payload.get .amount) = .ok (.finite q) →
        OdemeNotr p ⟨p.db, aktif, userId, bugun⟩ q ws := by
  intro h
  have hn := h kartliPanel none 1 kartGunu kredidenOdeme _ 200
    (payCreditCard_commits.mpr ⟨_, _, _, kredidenOdeme_odeme, rfl⟩) (by decide +kernel)
  have hservet := hn.servet.symm.trans (gorulenNetDeger_odeme rfl kredidenOdeme_odeme)
  norm_num [krediHesabi, bakiyeAgirligi] at hservet

end FinancialOs.Guarantees
