import FinancialOs.Executor.HandlerEffects
import FinancialOs.Executor.ScenarioPreview
import FinancialOs.Guarantees.RoundingPolicy
import FinancialOs.Guarantees.SaleConservation
import Mathlib.Algebra.Order.Group.MinMax

/-! What the preview of an action shows beside what its handler commits, and what a whole preview leaves alone. -/
namespace FinancialOs.Guarantees
open Library Store Rules Executor

/-- Two readings of an account that differ by rounding only: `s` on the amount, `l` on the lots at their price. -/
structure HesapYakin (s l : ℚ) (a b : AccountSnap) : Prop where
  lot : |a.lotCount.getD 0 - b.lotCount.getD 0| ≤ l
  bakiye : |a.balance - b.balance| ≤ s + l * |b.currentPrice.getD 0|
  digerleri : b = { a with balance := b.balance, lotCount := b.lotCount }

/-- Two readings of a debt that agree on everything but the day of its payment. -/
structure BorcYakin (d e : DebtSnap) : Prop where
  odendi : d.paidDate.isSome = e.paidDate.isSome
  digerleri : e = { d with paidDate := e.paidDate }

structure Yakin (s l : ℚ) (w v : WorldSnap) : Prop where
  asOf : w.asOf = v.asOf
  incomes : w.incomes = v.incomes
  hesap : ∀ k, Option.Rel (HesapYakin s l) (w.accounts.get? k) (v.accounts.get? k)
  borc : ∀ k, Option.Rel BorcYakin (w.debts.get? k) (v.debts.get? k)

section Closeness
variable {s l s' l' : ℚ} {w v : WorldSnap} {k : ℕ} {f g : AccountSnap → AccountSnap}

theorem HesapYakin.refl (hs : 0 ≤ s) (hl : 0 ≤ l) (a : AccountSnap) : HesapYakin s l a a := by
  refine ⟨?_, ?_, rfl⟩
  · rw [sub_self, abs_zero]
    exact hl
  · rw [sub_self, abs_zero]
    exact add_nonneg hs (mul_nonneg hl (abs_nonneg _))

theorem HesapYakin.mono {a b : AccountSnap} (h : HesapYakin s l a b) (hs : s ≤ s') (hl : l ≤ l') :
    HesapYakin s' l' a b :=
  ⟨h.lot.trans hl, h.bakiye.trans (add_le_add hs (mul_le_mul_of_nonneg_right hl (abs_nonneg _))), h.digerleri⟩

theorem BorcYakin.refl (d : DebtSnap) : BorcYakin d d := ⟨rfl, rfl⟩

theorem Yakin.refl (hs : 0 ≤ s) (hl : 0 ≤ l) (w : WorldSnap) : Yakin s l w w where
  asOf := rfl
  incomes := rfl
  hesap k := by
    cases w.accounts.get? k with
    | none => exact .none
    | some a => exact .some (HesapYakin.refl hs hl a)
  borc k := by
    cases w.debts.get? k with
    | none => exact .none
    | some d => exact .some (BorcYakin.refl d)

private theorem rel_mono {α β : Type} {r r' : α → β → Prop} {x : Option α} {y : Option β} (hxy : Option.Rel r x y)
    (h : ∀ a b, r a b → r' a b) : Option.Rel r' x y := by
  cases hxy with
  | some hab => exact .some (h _ _ hab)
  | none => exact .none

private theorem rel_map {α β : Type} {r r' : α → β → Prop} {x : Option α} {y : Option β} {f : α → α} {g : β → β}
    (hxy : Option.Rel r x y) (h : ∀ a b, x = some a → r a b → r' (f a) (g b)) : Option.Rel r' (x.map f) (y.map g) := by
  cases hxy with
  | some hab => exact .some (h _ _ rfl hab)
  | none => exact .none

/-- Two worlds stay close when a row is rewritten in both and stays close there. -/
theorem Yakin.guncelle (h : Yakin s l w v) (hs : s ≤ s') (hl : l ≤ l')
    (hfg : ∀ a b, w.accounts.get? k = some a → HesapYakin s l a b → HesapYakin s' l' (f a) (g b)) :
    Yakin s' l' (w.hesapGuncelle k f) (v.hesapGuncelle k g) where
  asOf := h.asOf
  incomes := h.incomes
  hesap j := by
    simp only [WorldSnap.hesapGuncelle, Table.get?_modify]
    by_cases hk : j = k
    · subst hk
      rw [if_pos rfl, if_pos rfl]
      exact rel_map (h.hesap j) hfg
    · rw [if_neg hk, if_neg hk]
      exact rel_mono (h.hesap j) fun a b hab => hab.mono hs hl
  borc := h.borc

end Closeness

section Loading
variable {db : Db} {ek : ℕ → HesapEki} {faiz : ℕ → Option ℚ} {userId k : ℕ} {workspaceId : Option ℕ} {asOf : Date}

/-- An account is loaded when the scope contains it. -/
theorem get?_loadWorld {b : AccountSnap} : (loadWorld db ek faiz userId workspaceId asOf).accounts.get? k = some b ↔
    ∃ a, db.accounts.get? k = some a ∧ scopeFilter userId workspaceId a = true ∧ hesapKopyasi a (ek k) (faiz k) = b :=
  Table.get?_view

/-- What a write does to an account is loaded as the same change to the loaded account. -/
theorem loadWorld_account {F : Account → Account} {f : AccountSnap → AccountSnap}
    (hkapsam : ∀ a, scopeFilter userId workspaceId (F a) = scopeFilter userId workspaceId a)
    (hf : ∀ a, hesapKopyasi (F a) (ek k) (faiz k) = f (hesapKopyasi a (ek k) (faiz k))) :
    loadWorld (db.write (.account (.update k F))) ek faiz userId workspaceId asOf =
      (loadWorld db ek faiz userId workspaceId asOf).hesapGuncelle k f :=
  congrArg (fun t => { loadWorld db ek faiz userId workspaceId asOf with accounts := t })
    (@Table.view_modify _ _ db.accounts (scopeFilter userId workspaceId) _ k F f hkapsam hf)

theorem loadWorld_bakiyeEkle (q : ℚ) : loadWorld (db.write (bakiyeEkle k q)) ek faiz userId workspaceId asOf =
    (loadWorld db ek faiz userId workspaceId asOf).hesapGuncelle k fun a => { a with balance := a.balance + q } :=
  loadWorld_account (fun a => by cases workspaceId <;> rfl) fun _ => rfl

theorem loadWorld_transaction (t : Transaction) :
    loadWorld (db.write (.transaction (.insert t))) ek faiz userId workspaceId asOf =
      loadWorld db ek faiz userId workspaceId asOf := rfl

/-- The default cash account of the copy is that of the books. -/
theorem defaultCash_loadWorld : (loadWorld db ek faiz userId workspaceId asOf).defaultCash =
    (varsayilanNakitHesap db userId workspaceId).map Prod.fst := by
  have hpred : (fun a : Account => scopeFilter userId workspaceId a &&
      decide (a.accountType = .cash ∧ a.isEmanet = false)) = fun a => decide (scopeFilter userId workspaceId a ∧ a.accountType = .cash ∧ ¬ a.isEmanet) := by
    funext a
    cases scopeFilter userId workspaceId a with
    | false => simp
    | true => simp
  rw [varsayilanNakitHesap, varsayilanHesap, ← hpred]
  exact @Table.first?_view _ _ db.accounts _ (fun a : Account => decide (a.accountType = .cash ∧ a.isEmanet = false)) _
    (fun a : AccountSnap => decide (a.accountType = .cash ∧ a.isEmanet = false)) fun _ _ => rfl

end Loading

section Lookups
variable {t : ActionType} {p : Payload} {k : PayloadKey} {v : PyValue} {id : ℕ} {w : WorldSnap}

/-- A row is named alike to the database and to the copy by any value but a text. -/
theorem kimlikEsit_eq (hv : ∀ s, v ≠ .str s) (hk : primaryKey v = .ok (some id)) (j : ℕ) :
    kimlikEsit v j = decide (j = id) := by
  cases v with
  | none => cases hk
  | bool b =>
    obtain rfl : (if b then 1 else 0) = id := by simpa [primaryKey] using hk
    simp [kimlikEsit, eq_comm]
  | int n =>
    have hn : 0 ≤ n ∧ n.toNat = id := by
      simp only [primaryKey] at hk
      split_ifs at hk with hbig hneg
      · exact ⟨hneg, by simpa using hk⟩
      · cases hk
    have heq : n = j ↔ j = id := by omega
    simp [kimlikEsit, heq]
  | float x =>
    cases x with
    | infinite n => cases hk
    | nan => cases hk
    | finite q =>
      have hq : (q.den = 1 ∧ 0 ≤ q.num) ∧ q.num.toNat = id := by
        simp only [primaryKey] at hk
        split_ifs at hk with hint
        · exact ⟨hint, by simpa using hk⟩
        · cases hk
      obtain ⟨⟨hden, hnum⟩, hid⟩ := hq
      have hqid : q = id := by
        have hcast : (q.num : ℚ) = (id : ℚ) := by
          rw [← hid, ← Int.cast_natCast, Int.toNat_of_nonneg hnum]
        rw [← hcast, ← Rat.num_div_den q, hden, Nat.cast_one, div_one]
        rfl
      have heq : q = j ↔ j = id := by
        rw [hqid, Nat.cast_inj, eq_comm]
      simp [kimlikEsit, heq]
  | str s => exact absurd rfl (hv s)
  | compound c => cases hk

theorem find?_kimlik {β : Type} (u : Table β) (hv : ∀ s, v ≠ .str s) (hk : primaryKey v = .ok (some id)) :
    u.rows.find? (kimlikEsit v ·.1) = (u.get? id).map (Prod.mk id) := by
  rw [← Table.find?_rows]
  exact congrArg (fun q => u.rows.find? q) (funext fun r => kimlikEsit_eq hv hk r.1)

theorem lookup_of_get (h : (p.get k).isNone = false) : p.lookup k = some (p.get k) := by
  rw [Payload.get] at h ⊢
  cases hl : p.lookup k with
  | none =>
    rw [hl] at h
    cases h
  | some x => rfl

private theorem mem_of_lookup_eq {l : Payload} (h : l.lookup k = some v) : (k, v) ∈ l := by
  induction l with
  | nil => cases h
  | cons r l ih =>
    obtain ⟨j, x⟩ := r
    rw [List.lookup_cons] at h
    by_cases hk : k = j
    · subst hk
      rw [beq_self_eq_true] at h
      cases h
      exact List.mem_cons_self
    · rw [show (k == j) = false by simpa using hk] at h
      exact List.mem_cons_of_mem _ (ih h)

/-- A value of a valid payload has the type of its field. -/
theorem semayaUyar_alan {alanlar : List Alan} (h : semayaUyar t p = true) (ht : payloadSemalari t = some alanlar)
    (hv : p.lookup k = some v) : ∃ a ∈ alanlar, a.ad = k ∧ a.tur.uyar v = true := by
  rw [semayaUyar, ht] at h
  have hall := (of_decide_eq_true h).1
  have hmem := List.all_eq_true.mp hall _ (mem_of_lookup_eq hv)
  obtain ⟨a, ha, hdec⟩ := List.any_eq_true.mp hmem
  exact ⟨a, ha, of_decide_eq_true hdec⟩

/-- The fields of the actions that name a row. -/
def kimlikAlanlari : List PayloadKey := [.accountId, .debtId, .investmentId, .creditToAccountId]

/-- A valid payload names no row by a text. -/
theorem kimlik_metin_degil (h : semayaUyar t p = true) (hk : k ∈ kimlikAlanlari) (s : String) : p.get k ≠ .str s := by
  intro hs
  have hl : p.lookup k = some (.str s) := by
    rw [← hs]
    exact lookup_of_get (by rw [hs]; rfl)
  cases ht : payloadSemalari t with
  | none =>
    rw [semayaUyar, ht] at h
    cases h
  | some alanlar =>
    obtain ⟨a, ha, had, huyar⟩ := semayaUyar_alan h ht hl
    have hkimlik : a.tur = .kimlik := by
      subst had
      revert a
      cases t <;> cases ht <;> simp [kimlikAlanlari, zorunlu, opsiyonel]
    rw [hkimlik] at huyar
    cases huyar

end Lookups

section Previews
variable {adlar : Adlar} {w v : WorldSnap} {p : Payload}

theorem payloadDegeri_ok {k : PayloadKey} {x : PyValue} : payloadDegeri p k = .ok x ↔ p.lookup k = some x :=
  require_eq_ok

theorem floatOku_ok {x : PyValue} {y : PyFloat} : floatOku x = .ok y ↔ x.toFloat = .ok y := by
  rw [floatOku]
  cases x.toFloat with
  | ok z => exact ⟨fun h => congrArg _ (Except.ok.inj h), fun h => congrArg _ (Except.ok.inj h)⟩
  | error e => exact ⟨fun h => (by cases h), fun h => (by cases h)⟩

theorem sonluOku_ok {x : PyFloat} {q : ℚ} : sonluOku x = .ok q ↔ x = .finite q := by
  rw [sonluOku, require_eq_ok]
  cases x with
  | finite r => exact ⟨fun h => congrArg _ (Option.some.inj h), fun h => congrArg _ (PyFloat.finite.inj h)⟩
  | infinite n => exact ⟨fun h => (by cases h), fun h => (by cases h)⟩
  | nan => exact ⟨fun h => (by cases h), fun h => (by cases h)⟩

theorem onizleBakiye_ok : onizleBakiye adlar w p = .ok v ↔
    ∃ x hedef y nb, p.lookup .accountId = some x ∧ hesapBul w x = some hedef ∧ hedef.2.isEmanet = false ∧
      p.lookup .newBalance = some y ∧ y.toFloat = .ok (.finite nb) ∧
      v = w.hesapGuncelle hedef.1 fun a => { a with balance := nb } := by
  simp only [onizleBakiye, bind_eq_ok, payloadDegeri_ok, require_eq_ok, stopIf_eq_ok, floatOku_ok, sonluOku_ok, pure_eq_ok]
  constructor
  · rintro ⟨x, hx, hedef, hh, -, he, y, hy, _, hf, nb, rfl, rfl⟩
    exact ⟨x, hedef, y, nb, hx, hh, by simpa using he, hy, hf, rfl⟩
  · rintro ⟨x, hedef, y, nb, hx, hh, he, hy, hf, rfl⟩
    exact ⟨x, hx, hedef, hh, (), by simp [he], y, hy, _, hf, nb, rfl, rfl⟩

theorem onizleIslem_ok : onizleIslem adlar w p = .ok v ↔
    ∃ y q hedef tur, p.lookup .amount = some y ∧ y.toFloat = .ok (.finite q) ∧
      (if (p.get .accountId).truthy then hesapBul w (p.get .accountId) else varsayilanNakit w) = some hedef ∧
      ((p.get .accountId).truthy = true → hedef.2.isEmanet = false) ∧
      islemTipi (p.getD .transactionType (.str "expense")) = some tur ∧
      v = if (p.get .autoUpdateBalance).truthy ∧ (p.get .accountId).truthy then
        w.hesapGuncelle hedef.1 fun a => { a with balance := a.balance + kocDelta a.accountType tur q } else w := by
  simp only [onizleIslem, bind_eq_ok, payloadDegeri_ok, require_eq_ok, stopIf_eq_ok, floatOku_ok, sonluOku_ok, pure_eq_ok]
  constructor
  · rintro ⟨y, hy, _, hf, hedef, hh, -, he, tur, htur, q, rfl, rfl⟩
    exact ⟨y, q, hedef, tur, hy, hf, hh, fun ht => by simpa [ht] using he, htur, rfl⟩
  · rintro ⟨y, q, hedef, tur, hy, hf, hh, he, htur, rfl⟩
    exact ⟨y, hy, _, hf, hedef, hh, (), fun h => absurd h.2 (by simp [he h.1]), tur, htur, q, rfl, rfl⟩

theorem onizleBorc_ok : onizleBorc adlar w p = .ok v ↔
    ∃ x d, p.lookup .debtId = some x ∧ w.debts.rows.find? (kimlikEsit x ·.1) = some d ∧ d.2.paidDate = none ∧
      v = odemeSonrasi w d.1 d.2 := by
  simp only [onizleBorc, bind_eq_ok, payloadDegeri_ok, require_eq_ok, stopIf_eq_ok, pure_eq_ok]
  constructor
  · rintro ⟨x, hx, d, hd, -, hp, rfl⟩
    exact ⟨x, d, hx, hd, by simpa using hp, rfl⟩
  · rintro ⟨x, d, hx, hd, hp, rfl⟩
    exact ⟨x, hx, d, hd, (), by simp [hp], rfl⟩

theorem onizleFiyat_ok : onizleFiyat w p = .ok v ↔
    ∃ x hedef y q, p.lookup .accountId = some x ∧ hesapBul w x = some hedef ∧ p.lookup .newPrice = some y ∧
      y.toFloat = .ok (.finite q) ∧
      v = w.hesapGuncelle hedef.1 fun a => { a with currentPrice := some q, balance := a.lotCount.getD 0 * q } := by
  simp only [onizleFiyat, bind_eq_ok, payloadDegeri_ok, require_eq_ok, floatOku_ok, sonluOku_ok, pure_eq_ok]
  constructor
  · rintro ⟨x, hx, hedef, hh, y, hy, _, hf, q, rfl, rfl⟩
    exact ⟨x, hedef, y, q, hx, hh, hy, hf, rfl⟩
  · rintro ⟨x, hedef, y, q, hx, hh, hy, hf, rfl⟩
    exact ⟨x, hx, hedef, hh, y, hy, _, hf, q, rfl, rfl⟩

theorem onizleSatis_ok : onizleSatis adlar w p = .ok v ↔
    ∃ x inv y lots price hedef, p.lookup .investmentId = some x ∧ hesapBul w x = some inv ∧ inv.2.isEmanet = false ∧
      p.lookup .lotsToSell = some y ∧ y.toFloat = .ok (.finite lots) ∧ 0 < lots ∧ lots ≤ inv.2.lotCount.getD 0 ∧
      onizlemeFiyati p inv.2 = .ok (.finite price) ∧ 0 < price ∧
      (if (p.get .creditToAccountId).truthy then hesapBul w (p.get .creditToAccountId) else varsayilanNakit w) =
        some hedef ∧ hedef.2.isEmanet = false ∧
      v = (w.hesapGuncelle inv.1 (satisSonrasi lots price)).hesapGuncelle hedef.1 fun a =>
        { a with balance := a.balance + netGelir lots price (inv.2.costPerLot.getD 0) } := by
  simp only [onizleSatis, bind_eq_ok, payloadDegeri_ok, require_eq_ok, stopIf_eq_ok, floatOku_ok, sonluOku_ok, pure_eq_ok]
  constructor
  · rintro ⟨x, hx, inv, hi, -, he, y, hy, _, hf, -, hlot, _, hpr, -, hpoz, hedef, hh, -, hhe, lots, rfl, price, rfl, rfl⟩
    simp only [PyFloat.nonpos, asiyor, decide_eq_true_eq, not_or, not_le, not_lt] at hlot hpoz
    exact ⟨x, inv, y, lots, price, hedef, hx, hi, by simpa using he, hy, hf, hlot.1, hlot.2, hpr, hpoz, hh,
      by simpa using hhe, rfl⟩
  · rintro ⟨x, inv, y, lots, price, hedef, hx, hi, he, hy, hf, hlot, hmev, hpr, hpoz, hh, hhe, rfl⟩
    refine ⟨x, hx, inv, hi, (), by simp [he], y, hy, _, hf, (), ?_, _, hpr, (), ?_, hedef, hh, (), by simp [hhe], lots, rfl,
      price, rfl, rfl⟩
    · simp only [PyFloat.nonpos, asiyor, decide_eq_true_eq, not_or, not_le, not_lt]
      exact ⟨hlot, hmev⟩
    · simpa [PyFloat.nonpos] using hpoz

end Previews

section Rounding
variable {lotCount cost price lots : ℚ} {sim : SatisSimulasyonu}

private theorem sub_roundEven (q : ℚ) : |q - roundEven q 2| ≤ 1 / 200 := by
  have h := abs_roundEven_sub_le q 2
  rw [abs_sub_comm]
  linarith

/-- The lots that are left, and what they are worth, but for rounding. -/
theorem kalan_yuvarlama (h : simulatePartialSale lotCount cost price lots = .ok sim) :
    |lotCount - lots - sim.kalanLot| ≤ 1 / 20000 ∧
      |(lotCount - lots) * price - sim.kalanDeger| ≤ 1 / 200 + 1 / 20000 * |price| := by
  have hlot : |lotCount - lots - roundEven (lotCount - lots) 4| ≤ 1 / 20000 := by
    have h := abs_roundEven_sub_le (lotCount - lots) 4
    rw [abs_sub_comm]
    linarith
  have hdeger : |(lotCount - lots - roundEven (lotCount - lots) 4) * price| ≤ 1 / 20000 * |price| := by
    rw [abs_mul]
    exact mul_le_mul_of_nonneg_right hlot (abs_nonneg _)
  have hson := sub_roundEven (roundEven (lotCount - lots) 4 * price)
  rw [(simulatePartialSale_ok h).2.2.2.2.1, (simulatePartialSale_tutarlar h).kalanDeger]
  refine ⟨hlot, ?_⟩
  rw [abs_le] at hdeger hson ⊢
  constructor <;> linarith

/-- The proceeds behind the tax, but for rounding. -/
theorem net_yuvarlama (h : simulatePartialSale lotCount cost price lots = .ok sim) :
    |netGelir lots price cost - sim.netElineGecen| ≤ 12 / 1000 := by
  have t := simulatePartialSale_tutarlar h
  have hstopaj : sim.stopaj = roundEven (max 0 sim.brutKar * stopajOrani) 2 := by
    rw [t.stopaj]
    split_ifs with hk
    · rw [max_eq_right hk.le]
    · rw [max_eq_left (not_lt.mp hk), zero_mul, roundEven_zero]
  have hgelir := sub_roundEven (lots * price)
  have hmaliyet := sub_roundEven (lots * cost)
  have hyuvarlama := sub_roundEven (max 0 sim.brutKar * stopajOrani)
  have hkar : |lots * price - lots * cost - sim.brutKar| ≤ 1 / 100 := by
    rw [t.brutKar, t.satisTutari, t.satisMaliyeti, tamSatis, tamMaliyet]
    rw [abs_le] at hgelir hmaliyet ⊢
    constructor <;> linarith
  have hvergi : |max 0 (lots * price - lots * cost) - max 0 sim.brutKar| ≤ 1 / 100 := by
    rw [max_comm 0, max_comm 0]
    exact (abs_max_sub_max_le_abs _ _ _).trans hkar
  rw [netGelir, t.netElineGecen, t.satisTutari, tamSatis, hstopaj, stopajOrani]
  rw [stopajOrani] at hyuvarlama
  rw [abs_le] at hgelir hvergi hyuvarlama ⊢
  constructor <;> linarith

end Rounding

/-- The copy that a preview works on. -/
def dunya (ek : ℕ → HesapEki) (faiz : ℕ → Option ℚ) (o : Ortam) (db : Db) : WorldSnap :=
  loadWorld db ek faiz o.userId (o.kapsam none) o.bugun

/-- The types that the preview knows. -/
def onizlenen : ActionType → Bool
  | .sellInvestment | .addTransaction | .updateAccountBalance | .markDebtPaid | .updateFundPrice => true
  | _ => false

/-- What rounding is worth: on an amount, and on the lots. -/
def sapma : ActionType → ℚ × ℚ
  | .sellInvestment => (17 / 1000, 1 / 20000)
  | .updateFundPrice => (1 / 200, 0)
  | _ => (0, 0)

/-- The account in the scope that paying a debt moves. -/
def gorunenAyak (o : Ortam) (d : PersonalDebt) : Option ℕ :=
  ((odemeHedefi o d).filter fun h => scopeFilter o.userId (o.kapsam none) h.2).map Prod.fst

def varsayilanNakitId (o : Ortam) : Option ℕ := (varsayilanNakitHesap o.db o.userId (o.kapsam none)).map Prod.fst

/-- When the preview of an action that its handler carries out tells the truth. -/
def OnizlemeTutar (o : Ortam) (p : Payload) : ActionType → Prop
  | .addTransaction => (p.get .accountId).truthy = true ∨ (varsayilanNakitId o).isSome = true
  | .markDebtPaid => ∀ id d, findById o.db.debts o.userId (o.kapsam none) (p.get .debtId) = .ok (some (id, d)) →
      d.paidDate = none ∧ (d.amount = 0 ∨ gorunenAyak o d = varsayilanNakitId o)
  | .sellInvestment => ∀ id a, Names o (p.get .investmentId) id a → (p.get .actualPrice).isNone = true →
      0 < a.currentPrice.getD 0
  | .updateFundPrice => ∃ id a, Names o (p.get .accountId) id a
  | _ => True

/-- The preview of an action shows the world that its handler would leave. -/
def Gosterir (ek : ℕ → HesapEki) (faiz : ℕ → Option ℚ) (o : Ortam) (p : Payload) (t : ActionType) (ws : List Write) :
    Prop :=
  ∃ w, applyAction (.oku o.db) (dunya ek faiz o o.db) t p = .ok w ∧
    Yakin (sapma t).1 (sapma t).2 w (dunya ek faiz o (o.db.writeAll ws))

section Actions
variable {ek : ℕ → HesapEki} {faiz : ℕ → Option ℚ} {o : Ortam} {t : ActionType} {p : Payload} {k : PayloadKey} {id : ℕ}
  {a : Account} {ws : List Write}

theorem isNone_of_primaryKey {v : PyValue} (h : primaryKey v = .ok (some id)) : v.isNone = false := by
  cases v with
  | none => cases h
  | _ => rfl

theorem isNone_of_toFloat {v : PyValue} {x : PyFloat} (h : v.toFloat = .ok x) : v.isNone = false := by
  cases v with
  | none => cases h
  | _ => rfl

/-- The account that the handler finds is found in the copy. -/
theorem hesapBul_dunya (hs : semayaUyar t p = true) (hk : k ∈ kimlikAlanlari) (h : Names o (p.get k) id a) :
    p.lookup k = some (p.get k) ∧
      hesapBul (dunya ek faiz o o.db) (p.get k) = some (id, hesapKopyasi a (ek id) (faiz id)) := by
  obtain ⟨hkey, hrow, hkapsam⟩ := findById_eq_some.mp h
  have hget : (dunya ek faiz o o.db).accounts.get? id = some (hesapKopyasi a (ek id) (faiz id)) :=
    get?_loadWorld.mpr ⟨a, hrow, hkapsam, rfl⟩
  refine ⟨lookup_of_get (isNone_of_primaryKey hkey), ?_⟩
  rw [hesapBul, find?_kimlik _ (kimlik_metin_degil hs hk) hkey, hget, Option.map_some]

theorem gosterir_bakiye {nb : ℚ} (hs : semayaUyar .updateAccountBalance p = true) (h : BalanceUpdate o p id a nb) :
    Gosterir ek faiz o p .updateAccountBalance [bakiyeYaz id nb] := by
  obtain ⟨hlookup, hbul⟩ := @hesapBul_dunya ek faiz _ _ _ _ _ _ hs (by decide : .accountId ∈ kimlikAlanlari) h.hesap
  have hlast : dunya ek faiz o (o.db.writeAll [bakiyeYaz id nb]) =
      (dunya ek faiz o o.db).hesapGuncelle id fun a => { a with balance := nb } :=
    loadWorld_account (fun a => by cases o.kapsam none <;> rfl) fun _ => rfl
  refine ⟨_, onizleBakiye_ok.mpr ⟨_, _, _, nb, hlookup, hbul, h.emanet, lookup_of_get (isNone_of_toFloat h.bakiye),
    h.bakiye, rfl⟩, ?_⟩
  rw [hlast]
  exact Yakin.refl (le_refl 0) (le_refl 0) _

theorem gosterir_islem_iff {hesap : Option (ℕ × Account)} {txn : Transaction} (hs : semayaUyar .addTransaction p = true)
    (h : TransactionEntry o p hesap txn) :
    Gosterir ek faiz o p .addTransaction (.transaction (.insert txn) ::
        ((bakiyeBacagi p hesap txn.transactionType txn.amount).map (fun b => bakiyeEkle b.1 b.2)).toList) ↔
      OnizlemeTutar o p .addTransaction := by
  have htip : islemTipi (p.getD .transactionType (.str "expense")) = some txn.transactionType := by
    have hget := h.tip
    rw [Payload.get] at hget
    rw [Payload.getD]
    cases hl : p.lookup .transactionType with
    | none =>
      rw [hl] at hget
      cases hget
    | some x =>
      rw [hl] at hget
      exact hget
  have htutar := lookup_of_get (isNone_of_toFloat h.tutar)
  cases hesap with
  | some hesap =>
    obtain ⟨htruthy, hnames, hemanet⟩ := islemHesabi_some.mp h.secim
    obtain ⟨-, hbul⟩ := @hesapBul_dunya ek faiz _ _ _ _ _ _ hs (by decide : .accountId ∈ kimlikAlanlari) hnames
    refine iff_of_true ⟨_, onizleIslem_ok.mpr ⟨_, txn.amount, _, txn.transactionType, htutar, h.tutar,
      by rw [if_pos htruthy, hbul], fun _ => hemanet, htip, rfl⟩, ?_⟩ (.inl htruthy)
    cases hoto : (p.get .autoUpdateBalance).truthy with
    | false =>
      rw [if_neg (by simp),
        show bakiyeBacagi p (some hesap) txn.transactionType txn.amount = none by simp [bakiyeBacagi, hoto]]
      exact Yakin.refl (le_refl 0) (le_refl 0) _
    | true =>
      rw [if_pos ⟨rfl, htruthy⟩, show bakiyeBacagi p (some hesap) txn.transactionType txn.amount =
        some (hesap.1, kocDelta hesap.2.accountType txn.transactionType txn.amount) by simp [bakiyeBacagi, hoto]]
      have hlast : dunya ek faiz o (o.db.writeAll [.transaction (.insert txn),
          bakiyeEkle hesap.1 (kocDelta hesap.2.accountType txn.transactionType txn.amount)]) =
          (dunya ek faiz o o.db).hesapGuncelle hesap.1 fun a =>
            { a with balance := a.balance + kocDelta hesap.2.accountType txn.transactionType txn.amount } :=
        loadWorld_bakiyeEkle _
      have hayni := hesapGuncelle_congr (w := dunya ek faiz o o.db) (k := hesap.1)
        (f := fun a => { a with balance := a.balance + kocDelta a.accountType txn.transactionType txn.amount })
        (g := fun a => { a with balance := a.balance + kocDelta hesap.2.accountType txn.transactionType txn.amount })
        fun b hb => by
          obtain ⟨c, hc, -, rfl⟩ := get?_loadWorld.mp hb
          rw [hnames.row, Option.some.injEq] at hc
          rw [← hc]
          rfl
      rw [hayni, ← hlast]
      exact Yakin.refl (le_refl 0) (le_refl 0) _
  | none =>
    have hyok := islemHesabi_none.mp h.secim
    have hbacak : bakiyeBacagi p none txn.transactionType txn.amount = none := rfl
    have hnakit : varsayilanNakitId o = (varsayilanNakit (dunya ek faiz o o.db)).map Prod.fst := defaultCash_loadWorld.symm
    constructor
    · rintro ⟨w, hw, -⟩
      obtain ⟨_, _, hedef, _, _, _, hh, _⟩ := onizleIslem_ok.mp hw
      rw [hyok, if_neg (by simp)] at hh
      exact .inr (by rw [hnakit, hh]; rfl)
    · rintro (hvar | hvar)
      · rw [hyok] at hvar
        cases hvar
      · rw [hnakit, Option.isSome_map] at hvar
        obtain ⟨hedef, hh⟩ := Option.isSome_iff_exists.mp hvar
        refine ⟨_, onizleIslem_ok.mpr ⟨_, txn.amount, hedef, txn.transactionType, htutar, h.tutar, by rw [hyok]; exact hh,
          fun hvar => absurd hvar (by simp [hyok]), htip, rfl⟩, ?_⟩
        rw [hyok, if_neg (by simp), hbacak]
        exact Yakin.refl (le_refl 0) (le_refl 0) _

theorem gosterir_fiyat_iff {fiyat : ℚ} (hs : semayaUyar .updateFundPrice p = true) (h : PriceUpdate o p id a fiyat) :
    Gosterir ek faiz o p .updateFundPrice [fiyatYaz id fiyat (roundEven (fiyat * a.lotCount.getD 0) 2)] ↔
      OnizlemeTutar o p .updateFundPrice := by
  obtain ⟨hkey, hrow, -⟩ := findById_eq_some.mp h.hesap
  have hmetin := kimlik_metin_degil hs (by decide : .accountId ∈ kimlikAlanlari)
  have hlookup := lookup_of_get (isNone_of_primaryKey hkey)
  constructor
  · rintro ⟨w, hw, -⟩
    obtain ⟨x, hedef, _, _, hx, hh, -⟩ := onizleFiyat_ok.mp hw
    obtain rfl : p.get .accountId = x := Option.some.inj (hlookup.symm.trans hx)
    rw [hesapBul, find?_kimlik _ hmetin hkey, Option.map_eq_some_iff] at hh
    obtain ⟨b, hb, -⟩ := hh
    obtain ⟨c, hc, hkapsam, -⟩ := get?_loadWorld.mp hb
    exact ⟨id, c, findById_eq_some.mpr ⟨hkey, hc, hkapsam⟩⟩
  · rintro ⟨id', a', hn⟩
    obtain ⟨hkey', hrow', -⟩ := findById_eq_some.mp hn
    obtain rfl : id = id' := Option.some.inj (Except.ok.inj (hkey.symm.trans hkey'))
    obtain rfl : a = a' := Option.some.inj (hrow.symm.trans hrow')
    obtain ⟨-, hbul⟩ := @hesapBul_dunya ek faiz _ _ _ _ _ _ hs (by decide : .accountId ∈ kimlikAlanlari) hn
    refine ⟨_, onizleFiyat_ok.mpr ⟨_, _, _, fiyat, hlookup, hbul, lookup_of_get (isNone_of_toFloat h.okunan), h.okunan,
      rfl⟩, ?_⟩
    have hlast : dunya ek faiz o (o.db.writeAll [fiyatYaz id fiyat (roundEven (fiyat * a.lotCount.getD 0) 2)]) =
        (dunya ek faiz o o.db).hesapGuncelle id fun b =>
          { b with currentPrice := some fiyat, balance := roundEven (fiyat * a.lotCount.getD 0) 2 } :=
      loadWorld_account (fun a => by cases o.kapsam none <;> rfl) fun _ => rfl
    rw [hlast]
    refine (Yakin.refl (le_refl 0) (le_refl 0) _).guncelle (by norm_num [sapma]) (le_refl _) fun b c hb hbc => ?_
    obtain ⟨d, hd, -, rfl⟩ := get?_loadWorld.mp hb
    obtain rfl : a = d := Option.some.inj (hrow.symm.trans hd)
    refine ⟨hbc.lot, ?_, by rw [hbc.digerleri]⟩
    have hyuvarlama := sub_roundEven (fiyat * a.lotCount.getD 0)
    rw [mul_comm fiyat] at hyuvarlama
    simpa [sapma, hesapKopyasi, mul_comm fiyat] using hyuvarlama

/-- The preview reads the price of the handler. -/
theorem onizlemeFiyati_eq {current fiyat : ℚ} {b : AccountSnap} (hb : b.currentPrice = some current)
    (h : satisFiyati current (p.get .actualPrice) = .ok (some fiyat)) : onizlemeFiyati p b = .ok (.finite fiyat) := by
  rw [satisFiyati] at h
  rw [onizlemeFiyati]
  cases hn : (p.get .actualPrice).isNone with
  | true =>
    rw [hn, if_pos rfl] at h
    obtain rfl := Option.some.inj (Except.ok.inj h)
    rw [if_pos rfl, hb]
    rfl
  | false =>
    rw [hn, if_neg (by simp)] at h
    rw [if_neg (by simp)]
    exact floatOku_ok.mpr (parseFinite_eq_some.mp h)

/-- An amount that the schema lets through is positive. -/
theorem tutar_pos {v : PyValue} {q : ℚ} (h : AlanTuru.tutar.uyar v = true) (hq : v.toFloat = .ok (.finite q)) : 0 < q := by
  cases v with
  | int n =>
    simp only [PyValue.toFloat] at hq
    split_ifs at hq with hbig
    obtain rfl := PyFloat.finite.inj (Except.ok.inj hq)
    exact_mod_cast (of_decide_eq_true h).1
  | float x =>
    obtain rfl := Except.ok.inj hq
    exact (of_decide_eq_true h).1
  | _ => cases h

/-- A price that the payload gives is positive. -/
theorem satisFiyati_pos_iff {inv credit : ℕ × Account} {fiyat : ℚ} {sim : SatisSimulasyonu}
    (hs : semayaUyar .sellInvestment p = true) (h : InvestmentSale o p inv credit fiyat sim) :
    0 < fiyat ↔ OnizlemeTutar o p .sellInvestment := by
  obtain ⟨_, _, current, -, -, hcurrent, hfiyat, -⟩ := h.satis
  rw [satisFiyati] at hfiyat
  cases hn : (p.get .actualPrice).isNone with
  | true =>
    rw [hn, if_pos rfl] at hfiyat
    obtain rfl := Option.some.inj (Except.ok.inj hfiyat)
    constructor
    · intro hpos id a hnames _
      obtain ⟨-, hrow⟩ := Prod.mk.inj (Option.some.inj (Except.ok.inj (hnames.symm.trans h.yatirim)))
      rw [hrow, hcurrent]
      exact hpos
    · intro hk
      have hpos := hk inv.1 inv.2 h.yatirim hn
      rw [hcurrent] at hpos
      exact hpos
  | false =>
    rw [hn, if_neg (by simp)] at hfiyat
    have hfloat := parseFinite_eq_some.mp hfiyat
    obtain ⟨a, ha, had, huyar⟩ := semayaUyar_alan hs rfl (lookup_of_get hn)
    have htutar : a.tur = .tutar := by
      revert had
      revert a
      simp [zorunlu, opsiyonel]
    rw [htutar] at huyar
    refine iff_of_true ?_ fun id a _ hnone => by rw [hn] at hnone; cases hnone
    exact tutar_pos huyar hfloat

theorem gosterir_satis_iff {inv credit : ℕ × Account} {fiyat : ℚ} {sim : SatisSimulasyonu}
    (hs : semayaUyar .sellInvestment p = true) (h : InvestmentSale o p inv credit fiyat sim) :
    Gosterir ek faiz o p .sellInvestment [satisYaz inv.1 sim fiyat, bakiyeEkle credit.1 sim.netElineGecen] ↔
      OnizlemeTutar o p .sellInvestment := by
  rw [← satisFiyati_pos_iff hs h]
  obtain ⟨hinv, hinvBul⟩ := @hesapBul_dunya ek faiz _ _ _ _ _ _ hs (by decide : .investmentId ∈ kimlikAlanlari) h.yatirim
  obtain ⟨-, hhedefBul⟩ := @hesapBul_dunya ek faiz _ _ _ _ _ _ hs (by decide : .creditToAccountId ∈ kimlikAlanlari) h.hedef
  obtain ⟨lots, cost, current, hlots, hcost, hcurrent, hfiyat, hsim⟩ := h.satis
  have hokunan := @onizlemeFiyati_eq p _ _ (hesapKopyasi inv.2 (ek inv.1) (faiz inv.1)) hcurrent hfiyat
  constructor
  · rintro ⟨w, hw, -⟩
    obtain ⟨x, b, _, _, price, _, hx, hb, -, -, -, -, -, hprice, hpos, -⟩ := onizleSatis_ok.mp hw
    obtain rfl : p.get .investmentId = x := Option.some.inj (hinv.symm.trans hx)
    obtain rfl := Option.some.inj (hinvBul.symm.trans hb)
    obtain rfl : fiyat = price := PyFloat.finite.inj (Except.ok.inj (hokunan.symm.trans hprice))
    exact hpos
  · intro hpos
    obtain ⟨hlotpos, hlotle, -⟩ := simulatePartialSale_ok hsim
    obtain ⟨hlotlar, hdeger⟩ := kalan_yuvarlama hsim
    have hnet := net_yuvarlama hsim
    refine ⟨_, onizleSatis_ok.mpr ⟨_, _, _, lots, fiyat, _, hinv, hinvBul, h.emanet,
      lookup_of_get (isNone_of_toFloat hlots), hlots, hlotpos, hlotle, hokunan, hpos,
      by rw [if_pos h.verildi, hhedefBul], h.hedefEmanet, rfl⟩, ?_⟩
    have hlast : dunya ek faiz o (o.db.writeAll [satisYaz inv.1 sim fiyat, bakiyeEkle credit.1 sim.netElineGecen]) =
        ((dunya ek faiz o o.db).hesapGuncelle inv.1 fun b =>
          { b with lotCount := some sim.kalanLot, balance := sim.kalanDeger, currentPrice := some fiyat }).hesapGuncelle
          credit.1 fun b => { b with balance := b.balance + sim.netElineGecen } :=
      (loadWorld_bakiyeEkle _).trans (congrArg (fun w => WorldSnap.hesapGuncelle w credit.1 _)
        (loadWorld_account (fun a => by cases o.kapsam none <;> rfl) fun _ => rfl))
    rw [hlast]
    have hilk : Yakin (1 / 200) (1 / 20000) ((dunya ek faiz o o.db).hesapGuncelle inv.1 (satisSonrasi lots fiyat))
        ((dunya ek faiz o o.db).hesapGuncelle inv.1 fun b =>
          { b with lotCount := some sim.kalanLot, balance := sim.kalanDeger, currentPrice := some fiyat }) := by
      refine (Yakin.refl (le_refl 0) (le_refl 0) _).guncelle (by norm_num) (by norm_num) fun b c hb hbc => ?_
      obtain ⟨d, hd, -, rfl⟩ := get?_loadWorld.mp hb
      obtain rfl : inv.2 = d := Option.some.inj (h.yatirim.row.symm.trans hd)
      exact ⟨hlotlar, hdeger, by rw [hbc.digerleri]; rfl⟩
    refine hilk.guncelle (by norm_num [sapma]) (le_refl _) fun b c _ hbc => ⟨hbc.lot, ?_, by rw [hbc.digerleri]⟩
    have hbakiye := hbc.bakiye
    rw [show (hesapKopyasi inv.2 (ek inv.1) (faiz inv.1)).costPerLot.getD 0 = cost by
      rw [hesapKopyasi, hcost]; rfl]
    rw [abs_le] at hbakiye hnet ⊢
    dsimp only [sapma]
    constructor <;> linarith

end Actions

section Debts
variable {ek : ℕ → HesapEki} {faiz : ℕ → Option ℚ} {o : Ortam} {p : Payload} {id : ℕ} {d : PersonalDebt} {tarih : Date}
  {w : WorldSnap} {k j : Option ℕ} {x : ℚ}

/-- A movement on one account, if there is one. -/
def ayakEkle (w : WorldSnap) (k : Option ℕ) (x : ℚ) : WorldSnap :=
  match k with
  | some k => w.hesapGuncelle k fun a => { a with balance := a.balance + x }
  | none => w

theorem nakitEkle_eq (w : WorldSnap) (x : ℚ) : w.nakitEkle x = ayakEkle w w.defaultCash x := by
  unfold WorldSnap.nakitEkle ayakEkle
  cases w.defaultCash with
  | none => rfl
  | some k => rfl

theorem get?_ayakEkle (w : WorldSnap) (k : Option ℕ) (x : ℚ) (i : ℕ) : (ayakEkle w k x).accounts.get? i =
    (w.accounts.get? i).map fun a => if k = some i then { a with balance := a.balance + x } else a := by
  cases k with
  | none =>
    cases hi : w.accounts.get? i with
    | none => exact hi
    | some a => exact hi
  | some k =>
    rw [ayakEkle, WorldSnap.hesapGuncelle]
    dsimp only
    rw [Table.get?_modify]
    by_cases hik : i = k
    · subst hik
      simp
    · have hki : ¬ k = i := fun h => hik h.symm
      simp [hik, hki]

/-- Moving an amount on one account or on another makes a difference, if it is an amount. -/
theorem ayakEkle_yakin_iff (hk : ∀ i, k = some i → ∃ a, w.accounts.get? i = some a)
    (hj : ∀ i, j = some i → ∃ a, w.accounts.get? i = some a) :
    (∀ i, Option.Rel (HesapYakin 0 0) ((ayakEkle w k x).accounts.get? i) ((ayakEkle w j x).accounts.get? i)) ↔
      x = 0 ∨ k = j := by
  constructor
  · intro h
    by_contra hne
    obtain ⟨hx, hkj⟩ := not_or.mp hne
    have hfark (i : ℕ) (hi : ∃ a, w.accounts.get? i = some a) (hbir : ¬ (k = some i ↔ j = some i)) : x = 0 := by
      obtain ⟨a, ha⟩ := hi
      have hrel := h i
      rw [get?_ayakEkle, get?_ayakEkle, ha, Option.map_some, Option.map_some] at hrel
      cases hrel with
      | some hab =>
        have hbakiye := hab.bakiye
        rw [zero_mul, add_zero, abs_nonpos_iff, sub_eq_zero] at hbakiye
        by_cases hki : k = some i
        · have hji : ¬ j = some i := fun hji => hbir (iff_of_true hki hji)
          rw [if_pos hki, if_neg hji] at hbakiye
          simpa using hbakiye
        · have hji : j = some i := not_not.mp fun hji => hbir (iff_of_false hki hji)
          rw [if_neg hki, if_pos hji] at hbakiye
          simpa using hbakiye.symm
    cases hk' : k with
    | some i => exact hx (hfark i (hk i hk') fun hiff => hkj (hk'.trans (hiff.mp hk').symm))
    | none =>
      cases hj' : j with
      | some i => exact hx (hfark i (hj i hj') fun hiff => by rw [hk', hj'] at hiff; cases hiff.mpr rfl)
      | none => exact hkj (hk'.trans hj'.symm)
  · intro h i
    have hrefl := (Yakin.refl (le_refl 0) (le_refl 0) (ayakEkle w j x)).hesap i
    rcases h with rfl | rfl
    · have hayni (k : Option ℕ) : (ayakEkle w k 0).accounts.get? i = w.accounts.get? i := by
        rw [get?_ayakEkle]
        simp
      rw [hayni] at hrefl ⊢
      rw [hayni]
      exact hrefl
    · exact hrefl

/-- The debt that a handler marks is loaded as a debt that is paid. -/
theorem loadWorld_odendi (db : Db) (acct : Option ℕ) : dunya ek faiz o (db.write (odendiYaz id tarih acct)) =
    { dunya ek faiz o db with
      debts := (dunya ek faiz o db).debts.modify id fun d => { d with paidDate := some tarih.monthDay } } := by
  have hview := @Table.view_modify _ _ db.debts (scopeFilter o.userId (o.kapsam none)) (fun _ d => borcKopyasi d) id
    (fun d => { d with paidDate := some tarih, isPaid := true, settlementAccountId := acct })
    (fun d => { d with paidDate := some tarih.monthDay }) (fun d => by cases o.kapsam none <;> rfl) fun _ => rfl
  exact congrArg (fun t : Table DebtSnap => { dunya ek faiz o db with debts := t }) hview

/-- The account that a payment moves is seen where it is in the scope. -/
theorem loadWorld_ayak (db : Db) (hdb : db.accounts = o.db.accounts) (x : ℚ) :
    dunya ek faiz o (db.writeAll ((odemeHedefi o d).map fun h => bakiyeEkle h.1 x).toList) =
      ayakEkle (dunya ek faiz o db) (gorunenAyak o d) x := by
  rw [gorunenAyak]
  cases hh : odemeHedefi o d with
  | none => rfl
  | some h =>
    have hrow : db.accounts.get? h.1 = some h.2 := by
      rw [hdb]
      exact hedefHesap_row (odemeHedefi_some.mp hh).2
    refine (loadWorld_bakiyeEkle x).trans ?_
    cases hkapsam : scopeFilter o.userId (o.kapsam none) h.2 with
    | true => rw [Option.filter_some, if_pos hkapsam]; rfl
    | false =>
      rw [Option.filter_some, if_neg (by simp [hkapsam])]
      refine (hesapGuncelle_congr (g := fun a => a) fun a ha => ?_).trans ?_
      · obtain ⟨b, hb, hgor, -⟩ := get?_loadWorld.mp ha
        obtain rfl : h.2 = b := Option.some.inj (hrow.symm.trans hb)
        rw [hkapsam] at hgor
        cases hgor
      · rw [WorldSnap.hesapGuncelle, Table.modify_self]
        rfl

/-- A debt is paid alike in both; what may differ is the account that pays. -/
theorem odemeSonrasi_yakin_iff {e : DebtSnap} {gun : MonthDay}
    (hx : (if e.direction = .receivable then e.amount else -e.amount) = x) :
    Yakin 0 0 (odemeSonrasi w id e)
        (ayakEkle { w with debts := w.debts.modify id fun d => { d with paidDate := some gun } } k x) ↔
      ∀ i, Option.Rel (HesapYakin 0 0) ((ayakEkle w w.defaultCash x).accounts.get? i)
        ((ayakEkle w k x).accounts.get? i) := by
  have hdiger (v : WorldSnap) (j : Option ℕ) : (ayakEkle v j x).asOf = v.asOf ∧ (ayakEkle v j x).incomes = v.incomes ∧
      (ayakEkle v j x).debts = v.debts := by
    cases j with
    | none => exact ⟨rfl, rfl, rfl⟩
    | some i => exact ⟨rfl, rfl, rfl⟩
  have hhesap (i : ℕ) : (ayakEkle { w with debts := w.debts.modify id fun d => { d with paidDate := some gun } } k
      x).accounts.get? i = (ayakEkle w k x).accounts.get? i := by
    rw [get?_ayakEkle, get?_ayakEkle]
  have hsol : odemeSonrasi w id e = { ayakEkle w w.defaultCash x with
      debts := w.debts.modify id fun d => { d with paidDate := some w.asOf } } := by
    rw [odemeSonrasi, hx, nakitEkle_eq]
    simp only [(hdiger w w.defaultCash).1, (hdiger w w.defaultCash).2.2]
  rw [hsol]
  constructor
  · intro h i
    have hi := h.hesap i
    rw [hhesap i] at hi
    exact hi
  · intro h
    refine ⟨?_, ?_, fun i => ?_, fun i => ?_⟩
    · rw [(hdiger _ k).1]
      exact (hdiger w _).1
    · rw [(hdiger _ k).2.1]
      exact (hdiger w _).2.1
    · rw [hhesap i]
      exact h i
    · rw [(hdiger _ k).2.2, Table.get?_modify, Table.get?_modify]
      split_ifs with hi
      · cases w.debts.get? i with
        | none => exact .none
        | some d => exact .some ⟨rfl, rfl⟩
      · cases w.debts.get? i with
        | none => exact .none
        | some d => exact .some (BorcYakin.refl d)

theorem gosterir_borc_iff (hs : semayaUyar .markDebtPaid p = true) (h : DebtPayment o p id d tarih) :
    Gosterir ek faiz o p .markDebtPaid (odendiYaz id tarih (odemeSonucu o d tarih).settlementAccountId ::
        (odemeSonucu o d tarih).writes) ↔ OnizlemeTutar o p .markDebtPaid := by
  obtain ⟨hkey, hrow, hkapsam⟩ := findById_eq_some.mp h.borc
  have hmetin := kimlik_metin_degil hs (by decide : .debtId ∈ kimlikAlanlari)
  have hlookup := lookup_of_get (isNone_of_primaryKey hkey)
  have hget : (dunya ek faiz o o.db).debts.get? id =
      some (borcKopyasi d) :=
    Table.get?_view.mpr ⟨d, hrow, hkapsam, rfl⟩
  have hbul (w : ℕ × DebtSnap) : (dunya ek faiz o o.db).debts.rows.find? (kimlikEsit (p.get .debtId) ·.1) = some w ↔
      w = (id, (borcKopyasi d)) := by
    rw [find?_kimlik _ hmetin hkey, hget, Option.map_some, Option.some.injEq, eq_comm]
  have htutar : (if d.direction = .receivable then d.amount else -d.amount) = kapanisDelta d.direction d.amount := by
    cases d.direction <;> rfl
  have honizle (w : WorldSnap) : applyAction (.oku o.db) (dunya ek faiz o o.db) .markDebtPaid p = .ok w ↔
      d.paidDate = none ∧ w = odemeSonrasi (dunya ek faiz o o.db) id
        (borcKopyasi d) := by
    refine onizleBorc_ok.trans ?_
    constructor
    · rintro ⟨x, e, hx, he, hpaid, rfl⟩
      obtain rfl : p.get .debtId = x := Option.some.inj (hlookup.symm.trans hx)
      obtain rfl := (hbul e).mp he
      exact ⟨Option.map_eq_none_iff.mp hpaid, rfl⟩
    · rintro ⟨hpaid, rfl⟩
      exact ⟨_, _, hlookup, (hbul _).mpr rfl, by rw [borcKopyasi, hpaid]; rfl, rfl⟩
  have hlast : dunya ek faiz o (o.db.writeAll (odendiYaz id tarih (odemeSonucu o d tarih).settlementAccountId ::
      (odemeSonucu o d tarih).writes)) =
      ayakEkle { dunya ek faiz o o.db with
        debts := (dunya ek faiz o o.db).debts.modify id fun d => { d with paidDate := some tarih.monthDay } }
        (gorunenAyak o d) (kapanisDelta d.direction d.amount) := by
    rw [writeAll_cons, (odemeSonucu_unpaid h.odenmemis tarih).1,
      ← loadWorld_odendi o.db (odemeSonucu o d tarih).settlementAccountId]
    exact loadWorld_ayak (o.db.write (odendiYaz id tarih (odemeSonucu o d tarih).settlementAccountId)) rfl _
  have hkosul : OnizlemeTutar o p .markDebtPaid ↔
      d.paidDate = none ∧ (kapanisDelta d.direction d.amount = 0 ∨ varsayilanNakitId o = gorunenAyak o d) := by
    rw [kapanisDelta_eq_zero, eq_comm (a := varsayilanNakitId o)]
    constructor
    · exact fun hk => hk id d h.borc
    · intro hk id' d' hborc
      obtain ⟨-, rfl⟩ := Prod.mk.inj (Option.some.inj (Except.ok.inj (hborc.symm.trans h.borc)))
      exact hk
  have hnakit : (dunya ek faiz o o.db).defaultCash = varsayilanNakitId o := defaultCash_loadWorld
  have hvar (i : ℕ) (hi : varsayilanNakitId o = some i) : ∃ a, (dunya ek faiz o o.db).accounts.get? i = some a := by
    obtain ⟨⟨j, a⟩, ha, rfl⟩ := Option.map_eq_some_iff.mp hi
    obtain ⟨hrow, hgor, -, -⟩ := varsayilanHesap_spec ha
    exact ⟨_, get?_loadWorld.mpr ⟨a, hrow, hgor, rfl⟩⟩
  have hayak (i : ℕ) (hi : gorunenAyak o d = some i) : ∃ a, (dunya ek faiz o o.db).accounts.get? i = some a := by
    obtain ⟨⟨j, a⟩, ha, rfl⟩ := Option.map_eq_some_iff.mp hi
    obtain ⟨hh, hgor⟩ := Option.filter_eq_some_iff.mp ha
    exact ⟨_, get?_loadWorld.mpr ⟨a, hedefHesap_row (odemeHedefi_some.mp hh).2, hgor, rfl⟩⟩
  have hyakin := @odemeSonrasi_yakin_iff id (dunya ek faiz o o.db) (gorunenAyak o d) _ (borcKopyasi d) tarih.monthDay
    htutar
  rw [hnakit, ayakEkle_yakin_iff hvar hayak] at hyakin
  rw [hkosul, ← hyakin, Gosterir, hlast]
  constructor
  · rintro ⟨w, hw, hson⟩
    obtain ⟨hpaid, rfl⟩ := (honizle w).mp hw
    exact ⟨hpaid, hson⟩
  · rintro ⟨hpaid, hson⟩
    exact ⟨_, (honizle _).mpr ⟨hpaid, rfl⟩, hson⟩

end Debts

/-- The preview of an action that its handler carries out shows the books that the handler leaves, but for rounding,
exactly when `OnizlemeTutar`: a transaction needs an account in the preview, a payment goes through the default cash
account, a stored price is positive, and a price is updated in the scope. -/
theorem preview_shows_execution_iff (ek : ℕ → HesapEki) (faiz : ℕ → Option ℚ) {o : Ortam} {t : ActionType} {p : Payload}
    {ws : List Write} (h : Accepted o p t ws) (hs : semayaUyar t p = true) (ht : onizlenen t = true) :
    Gosterir ek faiz o p t ws ↔ OnizlemeTutar o p t := by
  cases h with
  | bakiye id a nb h => exact iff_of_true (gosterir_bakiye hs h) trivial
  | islem hesap txn h => exact gosterir_islem_iff hs h
  | borc id d tarih h => exact gosterir_borc_iff hs h
  | kart card source q h => cases ht
  | satis inv credit fiyat sim h => exact gosterir_satis_iff hs h
  | fiyat id a fiyat h => exact gosterir_fiyat_iff hs h
  | kural c h => cases ht

private theorem onizlenen_satis :
    InvestmentSale satisOrtami (dortLot 2) (1, satilanFon) (2, satisKasasi) 100 dortLotSatisi where
  yatirim := by
    unfold Names
    rfl
  tip := rfl
  emanet := rfl
  satis := ⟨4, 100, 100, PyValue.toFloat_int (by norm_num), rfl, rfl, rfl, by decide +kernel⟩
  verildi := rfl
  hedef := by
    unfold Names
    rfl
  hedefEmanet := rfl

theorem preview_shows_execution_dortLot :
    Gosterir fonluPanel.hesapEki (fun _ => none) satisOrtami (dortLot 2) .sellInvestment
      [satisYaz 1 dortLotSatisi 100, bakiyeEkle 2 dortLotSatisi.netElineGecen] := by
  have hs : semayaUyar .sellInvestment (dortLot 2) = true := by decide +kernel
  exact (preview_shows_execution_iff fonluPanel.hesapEki (fun _ => none) (.satis _ _ _ _ onizlenen_satis) hs rfl).mpr
    ((satisFiyati_pos_iff hs onizlenen_satis).mp (by norm_num))

section Custody
variable {adlar : Adlar} {taban w v : WorldSnap} {t : ActionType} {p : Payload} {x : ℚ} {k : ℕ}

/-- A custody account that neither interest nor instalments move. -/
def emanette (a : AccountSnap) : Bool := a.isEmanet && decide (a.accountType = .cash ∨ a.accountType = .investment)

/-- The custody accounts are as they were. -/
def EmanetSabit (taban w : WorldSnap) : Prop := w.accounts.keep emanette = taban.accounts.keep emanette

theorem EmanetSabit.trans (h : EmanetSabit taban w) (h' : EmanetSabit w v) : EmanetSabit taban v := Eq.trans h' h

theorem emanetSabit_guncelle {f : AccountSnap → AccountSnap}
    (h : ∀ a, w.accounts.get? k = some a → a.isEmanet = false ∧ (f a).isEmanet = false) :
    EmanetSabit w (w.hesapGuncelle k f) := by
  apply Table.keep_modify
  intro a ha
  obtain ⟨hbefore, hbehind⟩ := h a ha
  exact ⟨by rw [emanette, hbefore]; rfl, by rw [emanette, hbehind]; rfl⟩

/-- The default cash account is in nobody's custody. -/
theorem emanetSabit_nakitEkle (w : WorldSnap) (x : ℚ) : EmanetSabit w (w.nakitEkle x) := by
  cases hcash : w.defaultCash with
  | none =>
    rw [nakitEkle_none hcash]
    rfl
  | some k =>
    rw [nakitEkle_some hcash]
    apply emanetSabit_guncelle
    intro a ha
    obtain ⟨⟨j, b⟩, hfirst, rfl⟩ := Option.map_eq_some_iff.mp hcash
    obtain ⟨hb, hp⟩ := Table.first?_spec hfirst
    obtain rfl : b = a := Option.some.inj (hb.symm.trans ha)
    exact ⟨(of_decide_eq_true hp).2, (of_decide_eq_true hp).2⟩

theorem hesapSonrasi_emanette (bas start stop : MonthDay) {a : AccountSnap} (ha : emanette a = true) :
    hesapSonrasi bas start stop a = a := by
  rcases of_decide_eq_true (Bool.and_eq_true_iff.mp ha).2 with htip | htip
  · exact (nakitDisi_hesapSonrasi bas start stop).nakit a htip
  · have hkredi : krediAy a = a := if_neg fun h => by rw [htip] at h; cases h.1
    have hkart : kartAy a = a := if_neg fun h => by rw [htip] at h; cases h.1
    rw [hesapSonrasi, krediSonrasi, Function.iterate_fixed hkredi, kartSonrasi, Function.iterate_fixed hkart]

/-- Time passes over custody. -/
theorem emanetSabit_projectForward (w : WorldSnap) (days : ℕ) : EmanetSabit w (projectForward w days) := by
  rw [projectForward_normal]
  refine EmanetSabit.trans ?_ (emanetSabit_nakitEkle _ _)
  refine Table.keep_mapRows (fun a => ?_) fun a ha => hesapSonrasi_emanette _ _ _ ha
  have hdis := nakitDisi_hesapSonrasi w.asOf w.asOf (w.asOf.addDays days)
  rw [emanette, emanette, hdis.accountType, hdis.isEmanet]

theorem asOf_projectForward (w : WorldSnap) (days : ℕ) : (projectForward w days).asOf = w.asOf.addDays days := by
  rw [projectForward_normal, asOf_nakitEkle]

theorem hesapBul_row {v : PyValue} {r : ℕ × AccountSnap} (h : hesapBul w v = some r) : w.accounts.get? r.1 = some r.2 :=
  Table.get?_eq_some.mpr (List.mem_of_find?_eq_some h)

theorem varsayilanNakit_row {r : ℕ × AccountSnap} (h : varsayilanNakit w = some r) :
    w.accounts.get? r.1 = some r.2 ∧ r.2.isEmanet = false := by
  obtain ⟨hrow, hp⟩ := Table.first?_spec h
  exact ⟨hrow, (of_decide_eq_true hp).2⟩

/-- No action but a price update reaches custody. -/
theorem emanetSabit_applyAction (ht : t ≠ .updateFundPrice) (h : applyAction adlar w t p = .ok v) :
    EmanetSabit w v ∧ v.asOf = w.asOf := by
  cases t with
  | updateFundPrice => exact absurd rfl ht
  | updateAccountBalance =>
    obtain ⟨x, hedef, _, nb, _, hh, he, _, _, rfl⟩ := onizleBakiye_ok.mp h
    refine ⟨emanetSabit_guncelle fun a ha => ?_, rfl⟩
    obtain rfl : hedef.2 = a := Option.some.inj ((hesapBul_row hh).symm.trans ha)
    exact ⟨he, he⟩
  | addTransaction =>
    obtain ⟨_, q, hedef, tur, _, _, hh, he, _, rfl⟩ := onizleIslem_ok.mp h
    split_ifs with hoto
    · refine ⟨emanetSabit_guncelle fun a ha => ?_, rfl⟩
      rw [if_pos hoto.2] at hh
      obtain rfl : hedef.2 = a := Option.some.inj ((hesapBul_row hh).symm.trans ha)
      exact ⟨he hoto.2, he hoto.2⟩
    · exact ⟨rfl, rfl⟩
  | markDebtPaid =>
    obtain ⟨_, d, _, _, _, rfl⟩ := onizleBorc_ok.mp h
    exact ⟨emanetSabit_nakitEkle w _, asOf_nakitEkle w _⟩
  | sellInvestment =>
    obtain ⟨_, inv, _, lots, price, hedef, _, hi, he, _, _, _, _, _, _, hh, hhe, rfl⟩ := onizleSatis_ok.mp h
    refine ⟨EmanetSabit.trans (emanetSabit_guncelle fun a ha => ?_) (emanetSabit_guncelle fun a ha => ?_), rfl⟩
    · obtain rfl : inv.2 = a := Option.some.inj ((hesapBul_row hi).symm.trans ha)
      exact ⟨he, he⟩
    · have hrow : w.accounts.get? hedef.1 = some hedef.2 := by
        split_ifs at hh with htruthy
        · exact hesapBul_row hh
        · exact (varsayilanNakit_row hh).1
      have hemanet : a.isEmanet = false := by
        simp only [WorldSnap.hesapGuncelle, Table.get?_modify, hrow] at ha
        split_ifs at ha with hayni
        · obtain rfl := Option.some.inj ha
          exact hhe
        · obtain rfl := Option.some.inj ha
          exact hhe
      exact ⟨hemanet, hemanet⟩
  | payCreditCard => cases h
  | addMasterCheckpoint => cases h
  | unknown name => cases h

/-- A snapshot shows the custody accounts of the world that a preview began with. -/
structure EmanetGosterir (adlar : Adlar) (taban : WorldSnap) (s : Snapshot) : Prop where
  satirlar : ∀ k a, taban.accounts.get? k = some a → emanette a = true → hesapSatiriYap adlar k a ∈ s.accounts
  kasa : s.emanetKasa = roundEven (emanetValue taban) 2

theorem emanetGosterir (h : EmanetSabit taban w) (label : String) :
    EmanetGosterir adlar taban (snapshotToDict adlar w label) where
  satirlar k a ha hemanet := by
    have hkeep : (w.accounts.keep emanette).get? k = some a := by
      rw [h]
      exact Table.get?_keep.mpr ⟨ha, hemanet⟩
    exact List.mem_map.mpr ⟨(k, a), Table.get?_eq_some.mp (Table.get?_keep.mp hkeep).1, rfl⟩
  kasa := by
    have hvalue (u : WorldSnap) : emanetValue u =
        (u.accounts.keep emanette).total fun a => if a.accountType = .investment then a.balance else 0 := by
      rw [Table.total_keep, emanetValue, WorldSnap.toplam]
      apply Table.total_congr
      intro k a _
      rw [emanette]
      cases a.isEmanet with
      | false => simp
      | true => cases a.accountType <;> simp
    change roundEven (emanetValue w) 2 = _
    rw [hvalue w, hvalue taban, h]

theorem siraliUfuklar_pairwise (horizons : List ℕ) : (siraliUfuklar horizons).Pairwise (· < ·) := by
  have hle : (siraliUfuklar horizons).Pairwise (· ≤ ·) :=
    (List.pairwise_mergeSort (fun a b c hab hbc => by simp only [decide_eq_true_eq] at *; omega)
      (fun a b => by simp only [Bool.or_eq_true, decide_eq_true_eq]; omega) horizons.dedup).imp fun h => by simpa using h
  have hne : (siraliUfuklar horizons).Nodup := (List.mergeSort_perm _ _).nodup_iff.mpr horizons.nodup_dedup
  exact (hle.and hne).imp fun h => lt_of_le_of_ne h.1 h.2

/-- The first day, if it is asked for, and the days behind it. -/
theorem ilk_append {l : List ℕ} (h : l.Pairwise (· < ·)) : (if 0 ∈ l then [0] else []) ++ l.filter (· ≠ 0) = l := by
  cases l with
  | nil => rfl
  | cons a l =>
    obtain ⟨ha, -⟩ := List.pairwise_cons.mp h
    have hpos : ∀ b ∈ l, b ≠ 0 := fun b hb => Nat.ne_of_gt (Nat.zero_lt_of_lt (ha b hb))
    have hl : l.filter (· ≠ 0) = l := List.filter_eq_self.mpr fun b hb => by simpa using hpos b hb
    by_cases h0 : a = 0
    · subst h0
      rw [if_pos List.mem_cons_self, List.filter_cons_of_neg (by simp), hl]
      rfl
    · have hmem : 0 ∉ a :: l := by
        rw [List.mem_cons, not_or]
        exact ⟨fun h => h0 h.symm, fun h => hpos 0 h rfl⟩
      rw [if_neg hmem, List.filter_cons_of_pos (by simpa using h0), hl]
      rfl

theorem ufukDongusu_spec {hs : List ℕ} {lastDay : ℕ} (hw : EmanetSabit taban w)
    (hgun : w.asOf = taban.asOf.addDays lastDay) (hsira : (lastDay :: hs).Pairwise (· ≤ ·)) :
    (ufukDongusu adlar taban hs lastDay w).map (fun s => s.1.asOf) = hs.map taban.asOf.addDays ∧
      ∀ s ∈ ufukDongusu adlar taban hs lastDay w, EmanetGosterir adlar taban s.1 := by
  induction hs generalizing lastDay w with
  | nil => exact ⟨rfl, fun s hs => by cases hs⟩
  | cons h hs ih =>
    obtain ⟨hson, hkalan⟩ := List.pairwise_cons.mp hsira
    have hle : lastDay ≤ h := hson h List.mem_cons_self
    have hsabit := hw.trans (emanetSabit_projectForward w (h - lastDay))
    have hasOf : (projectForward w (h - lastDay)).asOf = taban.asOf.addDays h := by
      rw [asOf_projectForward, hgun, ← MonthDay.addDays_add, Nat.add_sub_cancel' hle]
    obtain ⟨hgunler, hgosterir⟩ := ih hsabit hasOf hkalan
    rw [ufukDongusu]
    refine ⟨?_, fun s hs => ?_⟩
    · rw [List.map_cons, List.map_cons, hgunler]
      exact congrArg (· :: _) hasOf
    · rcases List.mem_cons.mp hs with rfl | hs
      · exact emanetGosterir hsabit _
      · exact hgosterir s hs

theorem emanetSabit_ufkaSar (w : WorldSnap) (h : ℕ) : EmanetSabit w (ufkaSar w h) := by
  rw [ufkaSar]
  split_ifs
  · exact emanetSabit_projectForward w h
  · rfl

/-- Whatever is previewed but a price, and however far ahead: every snapshot shows the custody accounts as they are
today, and an action that goes through has one snapshot for each horizon, each on its day. -/
theorem preview_leaves_custody (adlar : Adlar) (taban : WorldSnap) {t : ActionType} (ht : t ≠ .updateFundPrice)
    (p : Payload) (horizons : List ℕ) {sonuc : SimulasyonSonucu} (h : simulateAction adlar taban t p horizons = some sonuc) :
    (∀ s ∈ sonuc.baseline :: sonuc.snapshots.map Prod.fst, EmanetGosterir adlar taban s) ∧
      sonuc.snapshots.map (fun s => s.1.asOf) =
        if sonuc.ok then (siraliUfuklar horizons).map taban.asOf.addDays else [] := by
  have hbaz (label : String) :
      EmanetGosterir adlar taban (snapshotToDict adlar (ufkaSar taban (horizons.foldr max 0)) label) :=
    emanetGosterir (emanetSabit_ufkaSar taban _) label
  cases hw : applyAction adlar taban t p with
  | error e =>
    rw [simulateAction, hw] at h
    cases e with
    | sayiDegil => cases h
    | red mesaj =>
      obtain rfl := Option.some.inj h
      exact ⟨fun s hs => List.mem_singleton.mp hs ▸ hbaz _, rfl⟩
  | ok w =>
    obtain ⟨hsabit, hasOf⟩ := emanetSabit_applyAction ht hw
    rw [simulateAction, hw] at h
    obtain rfl := Option.some.inj h
    have hsira : (0 :: (siraliUfuklar horizons).filter (· ≠ 0)).Pairwise (· ≤ ·) :=
      List.pairwise_cons.mpr ⟨fun b _ => Nat.zero_le b,
        ((siraliUfuklar_pairwise horizons).filter _).imp fun h => h.le⟩
    obtain ⟨hgunler, hgosterir⟩ := @ufukDongusu_spec adlar taban w _ 0 hsabit hasOf hsira
    refine ⟨fun s hs => ?_, ?_⟩
    · rcases List.mem_cons.mp hs with rfl | hs
      · exact hbaz _
      · rw [List.map_append, List.mem_append] at hs
        rcases hs with hs | hs
        · split_ifs at hs with h0
          · obtain rfl := List.mem_singleton.mp hs
            exact emanetGosterir hsabit _
          · cases hs
        · obtain ⟨c, hc, rfl⟩ := List.mem_map.mp hs
          exact hgosterir c hc
    · rw [if_pos rfl]
      conv_rhs => rw [← ilk_append (siraliUfuklar_pairwise horizons)]
      rw [List.map_append, List.map_append, hgunler]
      congr 1
      split_ifs with h0
      · exact congrArg (fun d => [d]) hasOf
      · rfl

end Custody

def emanetAdlari : Adlar := ⟨fun _ => "Nakit", fun _ => ""⟩

/-- A cash account, and a fund that somebody else left with the user. -/
def emanetliDunya : WorldSnap where
  asOf := .firstOf 24318
  accounts := (Table.empty.push ⟨.cash, 1000, false, none, none, none, none, none, none, none, none⟩).push
    ⟨.investment, 5000, true, none, none, none, none, none, some 50, some 80, some 100⟩
  incomes := []
  debts := .empty

/-- The cash account holds 500. -/
def nakitDuzeltmesi : Payload := [(.accountId, .int 1), (.newBalance, .float (.finite 500))]

theorem preview_leaves_custody_nakitDuzeltmesi :
    ∃ sonuc, simulateAction emanetAdlari emanetliDunya .updateAccountBalance nakitDuzeltmesi [0, 30, 90] = some sonuc ∧
      (∀ s ∈ sonuc.baseline :: sonuc.snapshots.map Prod.fst, EmanetGosterir emanetAdlari emanetliDunya s) ∧
      sonuc.snapshots.map (fun s => s.1.asOf) =
        if sonuc.ok then (siraliUfuklar [0, 30, 90]).map emanetliDunya.asOf.addDays else [] := by
  have hw : applyAction emanetAdlari emanetliDunya .updateAccountBalance nakitDuzeltmesi =
      .ok (emanetliDunya.hesapGuncelle 1 fun a => { a with balance := 500 }) :=
    onizleBakiye_ok.mpr ⟨.int 1, (1, ⟨.cash, 1000, false, none, none, none, none, none, none, none, none⟩),
      .float (.finite 500), 500, rfl, rfl, rfl, rfl, rfl, rfl⟩
  obtain ⟨sonuc, h⟩ : ∃ sonuc,
      simulateAction emanetAdlari emanetliDunya .updateAccountBalance nakitDuzeltmesi [0, 30, 90] = some sonuc := by
    rw [simulateAction, hw]
    exact ⟨_, rfl⟩
  exact ⟨sonuc, h, preview_leaves_custody emanetAdlari emanetliDunya (by decide) nakitDuzeltmesi [0, 30, 90] h⟩

end FinancialOs.Guarantees
