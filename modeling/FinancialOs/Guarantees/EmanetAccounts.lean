import FinancialOs.Executor.AccountEffects

/-! Master Checkpoint 1: accounts in custody are untouchable. Each handler checks the
flag on its own, and two account references go unchecked. -/
namespace FinancialOs.Guarantees
open Library Store Rules Executor

/-- Custodial accounts keep their balance and their lots. -/
def EmanetUntouched (d e : Defter) : Prop :=
  ∀ k a, d.accounts.get? k = some a → a.isEmanet = true →
    ∃ b, e.accounts.get? k = some b ∧ b.balance = a.balance ∧ b.lotCount = a.lotCount

/-- The unchecked references: the card or the named source of a card payment, and the account
that an earlier settlement of the debt left its trace on. -/
inductive EmanetEscape (o : Ortam) (p : Payload) : ActionType → Prop where
  | kart (card source : ℕ × Account) (q : ℚ) (h : CardPayment o p card source q)
      (emanet : card.2.isEmanet = true ∨ source.2.isEmanet = true)
      (tutarli : KartAlanlariTutarli source.2) : EmanetEscape o p .payCreditCard
  | borc (id : ℕ) (d : PersonalDebt) (tarih : Date) (k : ℕ) (a : Account)
      (h : DebtPayment o p id d tarih) (iz : d.settlementAccountId = some k)
      (hesap : o.db.accounts.get? k = some a) (emanet : a.isEmanet = true) (tutar : d.amount ≠ 0)
      (tutarli : KartAlanlariTutarli a) : EmanetEscape o p .markDebtPaid

private theorem emanet_rows {ws : List Write} (h : ∀ w ∈ ws, HandlerWrite w) (db : Db) :
    EmanetUntouched (Defter.oku db) (Defter.oku (db.writeAll ws)) ↔
      ∀ k a, db.accounts.get? k = some a → a.isEmanet = true →
        (ws.foldl (hesapEtkisi k) a).balance = a.balance ∧
          (ws.foldl (hesapEtkisi k) a).lotCount = a.lotCount := by
  simp only [EmanetUntouched, Defter.oku, accounts_row h]
  constructor
  · intro hu k a ha he
    obtain ⟨b, hb, hsame⟩ := hu k a ha he
    rw [ha] at hb
    obtain rfl := Option.some.inj hb
    exact hsame
  · intro hu k a ha he
    exact ⟨_, by rw [ha]; rfl, hu k a ha he⟩

private theorem ne_of_emanet {db : Db} {k id : ℕ} {a b : Account} (ha : db.accounts.get? k = some a)
    (he : a.isEmanet = true) (hb : db.accounts.get? id = some b) (hn : b.isEmanet = false) :
    id ≠ k := by
  rintro rfl
  obtain rfl : a = b := by simpa [ha] using hb
  rw [hn] at he
  cases he

private theorem kept_of_ne {k id : ℕ} (hne : id ≠ k) (q : ℚ) (a : Account) :
    hesapEtkisi k a (bakiyeEkle id q) = a := by
  rw [hesapEtkisi_bakiyeEkle, if_neg hne]

/-- An action that reaches its commit without an unchecked reference leaves custody alone. -/
private theorem accepted_keeps_emanet {o : Ortam} {p : Payload} {t : ActionType} {ws : List Write}
    (ht : t ≠ .updateFundPrice) (hacc : Accepted o p t ws) (hs : ∀ w ∈ ws, Saglam o.db w)
    (hesc : ¬ EmanetEscape o p t) :
    EmanetUntouched (Defter.oku o.db) (Defter.oku (o.db.writeAll ws)) := by
  rw [emanet_rows hacc.writes]
  intro k a ha he
  cases hacc with
  | bakiye id b nb h =>
    have hne := ne_of_emanet ha he h.hesap.row h.emanet
    simp [hesapEtkisi_bakiyeYaz, hne]
  | islem hesap txn h =>
    cases hb : bakiyeBacagi p hesap txn.transactionType txn.amount with
    | none => simp
    | some b =>
      obtain ⟨g, rfl, _, rfl⟩ := bakiyeBacagi_some.mp hb
      obtain ⟨_, hname, hn⟩ := islemHesabi_some.mp h.secim
      have hne := ne_of_emanet ha he hname.row hn
      simp [hesapEtkisi_bakiyeEkle, hne]
  | borc id d tarih h =>
    rw [(odemeSonucu_unpaid h.odenmemis tarih).1]
    cases hh : odemeHedefi o d with
    | none => simp
    | some g =>
      obtain ⟨hamount, hhedef⟩ := odemeHedefi_some.mp hh
      have hne : g.1 ≠ k := by
        rintro rfl
        obtain rfl : a = g.2 := by simpa [ha] using hedefHesap_row hhedef
        rcases hedefHesap_cases hhedef with hiz | ⟨_, hv⟩
        · refine hesc (.borc id d tarih g.1 g.2 h (izHesabi_some.mp hiz).1 ha he hamount ?_)
          apply hs (bakiyeEkle g.1 (kapanisDelta d.direction d.amount)) ?_ g.2 ha
          rw [(odemeSonucu_unpaid h.odenmemis tarih).1, hh]
          simp
        · rw [(varsayilanHesap_spec hv).2.2.2] at he
          cases he
      simp [hesapEtkisi_bakiyeEkle, hne]
  | kart card source q h =>
    have hsource := odemeKaynagi_row h.kaynak
    have htutarli : KartAlanlariTutarli source.2 :=
      hs (bakiyeEkle source.1 (-q)) (by simp) source.2 hsource
    have hne : card.1 ≠ k ∧ source.1 ≠ k := by
      constructor
      · rintro rfl
        obtain rfl : a = card.2 := by simpa [ha] using h.kart.row
        exact hesc (.kart card source q h (.inl he) htutarli)
      · rintro rfl
        obtain rfl : a = source.2 := by simpa [ha] using hsource
        exact hesc (.kart card source q h (.inr he) htutarli)
    simp only [List.foldl_cons, List.foldl_nil, kept_of_ne hne.1, kept_of_ne hne.2, and_self]
  | satis inv credit fiyat sim h =>
    have hinv := ne_of_emanet ha he h.yatirim.row h.emanet
    have hcredit := ne_of_emanet ha he h.hedef.row h.hedefEmanet
    simp [hesapEtkisi_satisYaz, hesapEtkisi_bakiyeEkle, hinv, hcredit]
  | fiyat id b fiyat h => exact absurd rfl ht
  | kural c h => simp

/-- An unchecked reference reaches the commit and moves a custodial balance. -/
private theorem emanet_escape_touches {o : Ortam} {p : Payload} {t : ActionType} (hesc : EmanetEscape o p t) :
    ∃ ws, Accepted o p t ws ∧ (∀ w ∈ ws, Saglam o.db w) ∧
      ¬ EmanetUntouched (Defter.oku o.db) (Defter.oku (o.db.writeAll ws)) := by
  cases hesc with
  | kart card source q h emanet tutarli =>
    have hacc := Accepted.kart card source q h
    have hsource := odemeKaynagi_row h.kaynak
    refine ⟨_, hacc, ?_, fun hu => ?_⟩
    · intro w hw
      rcases List.mem_pair.mp hw with rfl | rfl
      · exact saglam_account h.kart.row (.inl h.tip)
      · exact saglam_account hsource tutarli
    · have hpos := h.pozitif
      rcases emanet with he | he
      · have hb := ((emanet_rows hacc.writes o.db).mp hu card.1 card.2 h.kart.row he).1
        simp only [List.foldl_cons, List.foldl_nil, balance_bakiyeEkle, if_true] at hb
        split at hb
        · linarith
        · linarith
      · have hb := ((emanet_rows hacc.writes o.db).mp hu source.1 source.2 hsource he).1
        simp only [List.foldl_cons, List.foldl_nil, balance_bakiyeEkle, if_true] at hb
        split at hb
        · linarith
        · linarith
  | borc id d tarih k a h iz hesap emanet tutar tutarli =>
    have hacc := Accepted.borc id d tarih h
    have hhedef : odemeHedefi o d = some (k, a) := by
      refine odemeHedefi_some.mpr ⟨tutar, ?_⟩
      have hiz : izHesabi o.db (KapanisDurumu.oku d).settlementAccountId = some (k, a) :=
        izHesabi_some.mpr ⟨iz, hesap⟩
      rw [hedefHesap, hiz]
    rw [(odemeSonucu_unpaid h.odenmemis tarih).1, hhedef] at hacc
    refine ⟨_, hacc, ?_, fun hu => ?_⟩
    · intro w hw
      rcases List.mem_pair.mp hw with rfl | rfl
      · trivial
      · exact saglam_account hesap tutarli
    · have hb := ((emanet_rows hacc.writes o.db).mp hu k a hesap emanet).1
      have hne : kapanisDelta d.direction d.amount ≠ 0 := fun h0 => tutar (kapanisDelta_eq_zero.mp h0)
      apply hne
      simpa [hesapEtkisi_bakiyeEkle] using hb

/-- An action other than a price update leaves every custodial account alone, unless it pays
with or onto one, or settles a debt whose old trace points to one. -/
theorem emanet_untouched_iff (ariza : Ariza) (bugun : ℕ → Date) (db : Db) (actionId userId : ℕ)
    (hfiyat : ∀ pending, kendiAksiyonu db actionId userId = some pending →
      pending.actionType ≠ .updateFundPrice) :
    EmanetUntouched (Defter.oku db) (Defter.oku (executePendingAction ariza bugun db actionId userId).2) ↔
      ¬ (ariza.handlerOnce = none ∧ ∃ pending p, Reaches db actionId userId pending p ∧
        EmanetEscape (ortam bugun db pending userId) p pending.actionType) := by
  rw [execute_defter_iff (P := EmanetUntouched (Defter.oku db)) fun k a ha _ => ⟨a, ha, rfl, rfl⟩]
  constructor
  · rintro h ⟨hn, pending, p, hr, hesc⟩
    obtain ⟨ws, hacc, hs, hu⟩ := emanet_escape_touches hesc
    exact hu (h pending p ws hn (applies_iff_accepted.mpr ⟨hr, hacc, hs⟩))
  · intro h pending p ws hn happ
    obtain ⟨hr, hacc, hs⟩ := applies_iff_accepted.mp happ
    exact accepted_keeps_emanet (hfiyat pending hr.aksiyon) hacc hs
      fun hesc => h ⟨hn, pending, p, hr, hesc⟩

/-- A card debt and a custodial cash account that a card payment names as its source. -/
def custodyDb : Db := Db.empty.writeAll [
  .account (.insert ⟨1, none, "Kart", .creditCard, 500, none, none, none, none, none, none, none, false⟩),
  .account (.insert ⟨1, none, "Emanet", .cash, 1000, none, none, none, none, none, none, none, true⟩),
  .pendingAction (.insert ⟨1, none, .payCreditCard, .object [
      (.cardAccountId, .int 1), (.amount, .int 100), (.sourceAccountId, .int 2)],
    "100 TL kart ödemesi", .pending, none, none, none⟩)]

private theorem custodyDb_action (pending : PendingAction)
    (h : kendiAksiyonu custodyDb 1 1 = some pending) : pending.actionType ≠ .updateFundPrice := by
  have ht : (kendiAksiyonu custodyDb 1 1).map PendingAction.actionType = some .payCreditCard := by
    decide +kernel
  rw [h, Option.map_some, Option.some.injEq] at ht
  rw [ht]
  decide

theorem emanet_untouched_iff_custodyDb :
    EmanetUntouched (Defter.oku custodyDb) (Defter.oku (executePendingAction .yok
        (fun _ => ⟨2026, 5, 1, by decide, by decide, by decide⟩) custodyDb 1 1).2) ↔
      ¬ (Ariza.yok.handlerOnce = none ∧ ∃ pending p, Reaches custodyDb 1 1 pending p ∧
        EmanetEscape (ortam (fun _ => ⟨2026, 5, 1, by decide, by decide, by decide⟩) custodyDb pending 1)
          p pending.actionType) :=
  emanet_untouched_iff .yok _ custodyDb 1 1 custodyDb_action

/-- The named source of a card payment is not checked: 100 leave the custodial account. -/
theorem emanet_paid_a_card :
    ¬ ∀ ariza bugun db actionId userId,
      (∀ pending, kendiAksiyonu db actionId userId = some pending →
        pending.actionType ≠ .updateFundPrice) →
      EmanetUntouched (Defter.oku db)
        (Defter.oku (executePendingAction ariza bugun db actionId userId).2) := by
  intro h
  have hu := h .yok (fun _ => ⟨2026, 5, 1, by decide, by decide, by decide⟩) custodyDb 1 1 custodyDb_action
  obtain ⟨b, hb, hbal, _⟩ := hu 2
    ⟨1, none, "Emanet", .cash, 1000, none, none, none, none, none, none, none, true⟩
    (by decide +kernel) rfl
  have hafter := congrArg (Option.map Account.balance) hb
  rw [Option.map_some, hbal] at hafter
  exact absurd hafter (by decide +kernel)

end FinancialOs.Guarantees
