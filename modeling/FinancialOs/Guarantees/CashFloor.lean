import FinancialOs.Executor.AccountEffects

/-! The user's rule `min_cash_floor`. The gate predicts an outflow from the name and the
payload of an action; what leaves the cash accounts is decided by the handler. -/
namespace FinancialOs.Guarantees
open Library Store Rules Executor
variable {o : Ortam} {p : Payload} {ws : List Write}

/-- An account the rule counts as cash. -/
def Kasada (userId : ℕ) (workspaceId : Option ℕ) (a : Account) : Prop :=
  scopeFilter userId workspaceId a = true ∧ a.accountType = .cash

instance (userId : ℕ) (workspaceId : Option ℕ) (a : Account) : Decidable (Kasada userId workspaceId a) :=
  inferInstanceAs (Decidable (_ ∧ _))

/-- The cash total of the scope, as the rule computes it, on the accounts alone. -/
def kasa (userId : ℕ) (workspaceId : Option ℕ) (accounts : Table Account) : ℚ :=
  accounts.total (fun a => if Kasada userId workspaceId a then a.balance else 0)

theorem nakitToplami_eq (db : Db) (userId : ℕ) (workspaceId : Option ℕ) :
    nakitToplami db userId workspaceId = kasa userId workspaceId db.accounts := rfl

/-- An active rule of the scope that keeps the cash total at a floor. -/
def FloorRule (db : Db) (userId : ℕ) (workspaceId : Option ℕ) (taban : ℚ) : Prop :=
  ∃ id kural params, db.checkpoints.get? id = some kural ∧ scopeFilter userId workspaceId kural = true ∧
    kural.isActive = true ∧ kural.ruleType = some .minCashFloor ∧
    kural.ruleParams = some (.object params) ∧
    paraD (params.getD .amount (.int 0)) = .ok (.finite taban)

/-- After a success the cash of the scope is no lower than before, or at least the floor. -/
def FloorKept (ariza : Ariza) (bugun : ℕ → Date) (db : Db) (actionId userId : ℕ) (taban : ℚ) : Prop :=
  ∀ pending c, kendiAksiyonu db actionId userId = some pending →
    (executePendingAction ariza bugun db actionId userId).1 = .basarili c →
    nakitToplami db userId pending.workspaceId ≤
        nakitToplami (executePendingAction ariza bugun db actionId userId).2 userId pending.workspaceId ∨
      taban ≤
        nakitToplami (executePendingAction ariza bugun db actionId userId).2 userId pending.workspaceId

/-- Outflows the gate does not predict and that end below the floor. -/
inductive HiddenOutflow (o : Ortam) (p : Payload) (taban : ℚ) : ActionType → Prop where
  | bakiye (id : ℕ) (a : Account) (nb : ℚ) (h : BalanceUpdate o p id a nb)
      (nakit : Kasada o.userId o.aktif a) (dusus : nb < a.balance)
      (altinda : kasa o.userId o.aktif o.db.accounts + (nb - a.balance) < taban)
      (tutarli : KartAlanlariTutarli a) : HiddenOutflow o p taban .updateAccountBalance
  | islem (id : ℕ) (a : Account) (txn : Transaction) (h : TransactionEntry o p (some (id, a)) txn)
      (nakit : Kasada o.userId o.aktif a) (bakiyeli : (p.get .autoUpdateBalance).truthy = true)
      (gider : txn.transactionType = .expense)
      (gizli : (p.get .isCardExpense).truthy = true ∨ taban ≤ 0)
      (altinda : kasa o.userId o.aktif o.db.accounts - txn.amount < taban)
      (tutarli : KartAlanlariTutarli a) : HiddenOutflow o p taban .addTransaction
  | borc (id : ℕ) (d : PersonalDebt) (tarih : Date) (hesap : ℕ × Account) (h : DebtPayment o p id d tarih)
      (hedef : hedefHesap o.db o.userId (.oku d) (o.kapsam none) = some hesap)
      (nakit : Kasada o.userId o.aktif hesap.2) (cikis : kapanisDelta d.direction d.amount < 0)
      (altinda : kasa o.userId o.aktif o.db.accounts + kapanisDelta d.direction d.amount < taban)
      (tutarli : KartAlanlariTutarli hesap.2) : HiddenOutflow o p taban .markDebtPaid
  | kart (card source : ℕ × Account) (q : ℚ) (h : CardPayment o p card source q)
      (nakit : Kasada o.userId o.aktif source.2)
      (altinda : kasa o.userId o.aktif o.db.accounts - q < taban)
      (tutarli : KartAlanlariTutarli source.2) : HiddenOutflow o p taban .payCreditCard

/-- What one account write adds to the cash total. -/
private theorem kasa_write {id : ℕ} {f : Account → Account}
    (hw : HandlerWrite (.account (.update id f))) {db : Db} {a : Account}
    (ha : db.accounts.get? id = some a) (userId : ℕ) (w : Option ℕ) :
    kasa userId w (db.write (.account (.update id f))).accounts = kasa userId w db.accounts +
      if Kasada userId w a then (f a).balance - a.balance else 0 := by
  have hf : Kasada userId w (f a) ↔ Kasada userId w a := by
    cases hw with
    | account _ _ h =>
      rw [h a]
      rfl
  simp only [kasa, Db.write, Table.change]
  rw [Table.total_modify ha]
  by_cases hk : Kasada userId w a
  · rw [if_pos hk, if_pos (hf.mpr hk), if_pos hk]
    ring
  · rw [if_neg hk, if_neg (fun h => hk (hf.mp h)), if_neg hk]
    ring

private theorem kasa_bakiyeEkle {id : ℕ} {q : ℚ} {db : Db} {a : Account}
    (ha : db.accounts.get? id = some a) (userId : ℕ) (w : Option ℕ) :
    kasa userId w (db.write (bakiyeEkle id q)).accounts = kasa userId w db.accounts +
      if Kasada userId w a then q else 0 := by
  rw [bakiyeEkle, kasa_write (handlerWrite_bakiyeEkle id q) ha]
  simp

/-- A second leg on top of a first write that touches no cash account. -/
private theorem kasa_two_legs {id : ℕ} {f : Account → Account}
    (hw : HandlerWrite (.account (.update id f))) {db : Db} {a : Account}
    (ha : db.accounts.get? id = some a) {userId : ℕ} {w : Option ℕ} (hn : ¬ Kasada userId w a)
    {target : ℕ} {b : Account} (hb : db.accounts.get? target = some b) (q : ℚ) :
    kasa userId w (db.writeAll [.account (.update id f), bakiyeEkle target q]).accounts =
      kasa userId w db.accounts + if Kasada userId w b then q else 0 := by
  have hall : ∀ x ∈ [Write.account (.update id f)], HandlerWrite x := by
    intro x hx
    obtain rfl := List.mem_singleton.mp hx
    exact hw
  have hrow : (db.write (.account (.update id f))).accounts.get? target =
      some (hesapEtkisi target b (.account (.update id f))) := by
    have := accounts_row hall db target
    rw [hb] at this
    exact this
  have hs := foldl_sameIdentity hall target b
  have hk : Kasada userId w (hesapEtkisi target b (.account (.update id f))) ↔ Kasada userId w b := by
    have h1 : (hesapEtkisi target b (.account (.update id f))).accountType = b.accountType := hs.accountType
    have h2 : (hesapEtkisi target b (.account (.update id f))).userId = b.userId := hs.userId
    have h3 : (hesapEtkisi target b (.account (.update id f))).workspaceId = b.workspaceId := hs.workspaceId
    unfold Kasada scopeFilter
    cases w with
    | none => simp only [Scoped.userId, h1, h2]
    | some w => simp only [Scoped.workspaceId, h1, h3]
  rw [writeAll_cons, writeAll_cons, writeAll_nil, kasa_bakiyeEkle hrow, kasa_write hw ha, if_neg hn]
  simp only [hk, add_zero]

private theorem tip_of_expense {v : PyValue} (h : islemTipi v = some .expense) : v = .str "expense" := by
  cases v with
  | str s =>
    have hs := List.find?_some h
    rw [← of_decide_eq_true hs]
    rfl
  | _ => cases h

/-- The amount the gate reads of an expense it can see is the amount the handler books. -/
private theorem harcama_expense {p : Payload} {x : PyFloat} {q : ℚ}
    (h : harcamaTutari .addTransaction (some p) = .ok x) (ht : p.get .transactionType = .str "expense")
    (hkart : (p.get .isCardExpense).truthy = false) (hq : (p.get .amount).toFloat = .ok (.finite q))
    (hpos : 0 < q) : x = .finite q := by
  have hget : p.getD .amount (.int 0) = p.get .amount := by
    unfold Payload.get Payload.getD at *
    cases hl : p.lookup .amount with
    | none =>
      rw [hl] at hq
      cases hq
    | some v => rfl
  simp only [harcamaTutari, alan, alanYaSifir, bind_eq_ok, Except.ok.injEq, exists_eq_left', ht, ne_eq,
    not_true_eq_false, if_false, hkart, Bool.false_eq_true, pure_eq_ok, hget] at h
  obtain ⟨y, hy, rfl⟩ := h
  have hdec : (p.get .amount).toDecimal = .ok y := by
    cases hv : p.get .amount with
    | none =>
      rw [hv] at hq
      cases hq
    | _ =>
      rw [hv] at hy
      exact hy
  rw [PyValue.toDecimal_eq_toFloat hdec hq, PyFloat.abs, abs_of_pos hpos]

/-- What a floor rule without an objection says about an outflow it can see. -/
private theorem minCashFloor_pass {db : Db} {userId : ℕ} {w : Option ℕ} {t : ActionType}
    {payload : Option Payload} {params : Payload} {taban q : ℚ}
    (h : minCashFloor db userId w t payload (some params) = .ok none)
    (htaban : paraD (params.getD .amount (.int 0)) = .ok (.finite taban)) (hpos : 0 < taban)
    (hq : ∀ x, harcamaTutari t payload = .ok x → x = .finite q) (hq0 : 0 < q) :
    taban ≤ nakitToplami db userId w - q := by
  obtain ⟨deger, hdeger, h⟩ := bind_eq_ok.mp h
  cases hdeger
  obtain ⟨y, hy, h⟩ := bind_eq_ok.mp h
  obtain rfl : y = .finite taban := by simpa [htaban] using hy.symm
  obtain ⟨b, hb, h⟩ := bind_eq_ok.mp h
  cases hb
  rw [if_neg (by simp [hpos])] at h
  obtain ⟨x, hx, h⟩ := bind_eq_ok.mp h
  obtain rfl := hq x hx
  obtain ⟨b, hb, h⟩ := bind_eq_ok.mp h
  cases hb
  rw [if_neg (by simp [hq0])] at h
  obtain ⟨b, hb, h⟩ := bind_eq_ok.mp h
  cases hb
  split at h
  · cases h
  · next hlow => simpa using hlow

/-- The gate lets an expense it can see through only above the floor. -/
private theorem gate_floor {db : Db} {actionId userId : ℕ} {pending : PendingAction} {p : Payload}
    {taban q : ℚ} (hr : Reaches db actionId userId pending p)
    (hkural : FloorRule db userId pending.workspaceId taban) (hpos : 0 < taban)
    (hq : ∀ x, harcamaTutari pending.actionType (some p) = .ok x → x = .finite q) (hq0 : 0 < q) :
    taban ≤ nakitToplami db userId pending.workspaceId - q := by
  obtain ⟨id, kural, params, hk, hs, ha, ht, hparams, htaban⟩ := hkural
  have hpass := enforceUserRules_pass.mp hr.kurallar id kural hk hs ha (by simp [ht])
  simp only [degerlendir, ht, hparams] at hpass
  exact minCashFloor_pass hpass htaban hpos hq hq0

/-- The rule's promise about one change of the cash total. -/
def Korunur (taban once sonra : ℚ) : Prop := once ≤ sonra ∨ taban ≤ sonra

private theorem korunur_leg {k : Prop} [Decidable k] {taban once sonra q : ℚ}
    (h : sonra = once + if k then q else 0) :
    Korunur taban once sonra ↔ (k → q < 0 → taban ≤ once + q) := by
  subst h
  unfold Korunur
  by_cases hk : k
  · rw [if_pos hk]
    constructor
    · rintro (h | h) _ hq
      · linarith
      · exact h
    · intro h
      rcases le_or_gt 0 q with hq | hq
      · left
        linarith
      · exact .inr (h hk hq)
  · simp [hk]

private theorem not_kasada_of_type {a : Account} {userId : ℕ} {w : Option ℕ}
    (h : a.accountType ≠ .cash) : ¬ Kasada userId w a := fun hk => h hk.2

private theorem kasa_bakiyeYaz {id : ℕ} {nb : ℚ} {db : Db} {a : Account}
    (ha : db.accounts.get? id = some a) (userId : ℕ) (w : Option ℕ) :
    kasa userId w (db.writeAll [bakiyeYaz id nb]).accounts = kasa userId w db.accounts +
      if Kasada userId w a then nb - a.balance else 0 := by
  rw [writeAll_cons, writeAll_nil, bakiyeYaz, kasa_write (.account id _ fun _ => rfl) ha]

private theorem kasa_borc {id : ℕ} {d : PersonalDebt} {tarih : Date} (hp : DebtPayment o p id d tarih)
    (userId : ℕ) (w : Option ℕ) :
    kasa userId w (o.db.writeAll (odendiYaz id tarih (odemeSonucu o d tarih).settlementAccountId ::
        (odemeSonucu o d tarih).writes)).accounts = kasa userId w o.db.accounts +
      ((odemeHedefi o d).map (fun h =>
        if Kasada userId w h.2 then kapanisDelta d.direction d.amount else 0)).getD 0 := by
  rw [(odemeSonucu_unpaid hp.odenmemis tarih).1, writeAll_cons]
  cases hh : odemeHedefi o d with
  | none => simp [Db.write, odendiYaz]
  | some h =>
    have hrow : ∀ iz, (o.db.write (odendiYaz id tarih iz)).accounts.get? h.1 = some h.2 :=
      fun _ => hedefHesap_row (odemeHedefi_some.mp hh).2
    simp only [Option.map_some, Option.toList_some, writeAll_cons, writeAll_nil, Option.getD_some]
    rw [kasa_bakiyeEkle (hrow _)]
    rfl

private theorem kasa_islem (txn : Transaction) {id : ℕ} {q : ℚ} {db : Db} {a : Account}
    (ha : db.accounts.get? id = some a) (userId : ℕ) (w : Option ℕ) :
    kasa userId w (db.writeAll [.transaction (.insert txn), bakiyeEkle id q]).accounts =
      kasa userId w db.accounts + if Kasada userId w a then q else 0 := by
  have hrow : (db.write (.transaction (.insert txn))).accounts.get? id = some a := ha
  rw [writeAll_cons, writeAll_cons, writeAll_nil, kasa_bakiyeEkle hrow]
  rfl

private theorem kasa_kart {card source : ℕ × Account} {q : ℚ} (h : CardPayment o p card source q)
    (userId : ℕ) (w : Option ℕ) :
    kasa userId w (o.db.writeAll [bakiyeEkle card.1 (-q), bakiyeEkle source.1 (-q)]).accounts =
      kasa userId w o.db.accounts + if Kasada userId w source.2 then -q else 0 :=
  kasa_two_legs (handlerWrite_bakiyeEkle card.1 (-q)) h.kart.row
    (not_kasada_of_type (by simp [h.tip])) (odemeKaynagi_row h.kaynak) (-q)

/-- Behind the gate, an action without a hidden outflow keeps the floor. -/
private theorem accepted_keeps_floor {t : ActionType} {taban : ℚ} (hacc : Accepted o p t ws)
    (hs : ∀ w ∈ ws, Saglam o.db w)
    (hgate : ∀ q, 0 < taban → (∀ x, harcamaTutari t (some p) = .ok x → x = .finite q) → 0 < q →
      taban ≤ kasa o.userId o.aktif o.db.accounts - q)
    (hno : ¬ HiddenOutflow o p taban t) :
    Korunur taban (kasa o.userId o.aktif o.db.accounts)
      (kasa o.userId o.aktif (o.db.writeAll ws).accounts) := by
  cases hacc with
  | bakiye id a nb h =>
    rw [korunur_leg (kasa_bakiyeYaz h.hesap.row _ _)]
    intro nakit dusus
    by_contra hlow
    exact hno (.bakiye id a nb h nakit (by linarith) (not_le.mp hlow)
      (hs _ List.mem_cons_self a h.hesap.row))
  | islem hesap txn h =>
    cases hb : bakiyeBacagi p hesap txn.transactionType txn.amount with
    | none => exact .inl le_rfl
    | some b =>
      obtain ⟨⟨id, a⟩, rfl, hauto, rfl⟩ := bakiyeBacagi_some.mp hb
      obtain ⟨_, hname, _⟩ := islemHesabi_some.mp h.secim
      simp only [Option.map_some, Option.toList_some]
      rw [korunur_leg (kasa_islem txn hname.row _ _)]
      intro nakit hq
      have hcash : a.accountType = .cash := nakit.2
      have hpozitif := h.pozitif
      have hgider : txn.transactionType = .expense := by
        cases htype : txn.transactionType with
        | expense => rfl
        | income =>
          simp only [kocDelta, htype, hcash, reduceCtorEq, if_false] at hq
          linarith
        | transfer => simp [kocDelta, htype] at hq
      have hdelta : kocDelta a.accountType txn.transactionType txn.amount = -txn.amount := by
        simp [kocDelta, hgider, hcash]
      have htutarli : KartAlanlariTutarli a :=
        hs (bakiyeEkle id (kocDelta a.accountType txn.transactionType txn.amount)) (by rw [hb]; simp) a hname.row
      rw [hdelta, ← sub_eq_add_neg]
      by_contra hlow
      have hgizli : (p.get .isCardExpense).truthy = true ∨ taban ≤ 0 := by
        by_contra hg
        obtain ⟨hkart, hpos⟩ := not_or.mp hg
        refine hlow (hgate txn.amount (not_le.mp hpos) (fun x hx => ?_) h.pozitif)
        exact harcama_expense hx (tip_of_expense (hgider ▸ h.tip)) (by simpa using hkart) h.tutar h.pozitif
      exact hno (.islem id a txn h nakit hauto hgider hgizli (not_le.mp hlow) htutarli)
  | borc id d tarih h =>
    have hk := kasa_borc h o.userId o.aktif
    cases hh : odemeHedefi o d with
    | none =>
      rw [hh] at hk
      left
      simpa using hk.ge
    | some g =>
      obtain ⟨hamount, hhedef⟩ := odemeHedefi_some.mp hh
      rw [hh, Option.map_some, Option.getD_some] at hk
      rw [korunur_leg hk]
      intro nakit hq
      by_contra hlow
      refine hno (.borc id d tarih g h hhedef nakit hq (not_le.mp hlow) ?_)
      apply hs (bakiyeEkle g.1 (kapanisDelta d.direction d.amount)) ?_ g.2 (hedefHesap_row hhedef)
      rw [(odemeSonucu_unpaid h.odenmemis tarih).1, hh]
      simp
  | kart card source q h =>
    rw [korunur_leg (kasa_kart h _ _)]
    intro nakit _
    rw [← sub_eq_add_neg]
    by_contra hlow
    exact hno (.kart card source q h nakit (not_le.mp hlow)
      (hs (bakiyeEkle source.1 (-q)) (by simp) source.2 (odemeKaynagi_row h.kaynak)))
  | satis inv credit fiyat sim h =>
    have hinv : ¬ Kasada o.userId o.aktif inv.2 := not_kasada_of_type (by simp [h.tip])
    rw [satisYaz, korunur_leg (kasa_two_legs (.account inv.1 _ fun _ => rfl) h.yatirim.row hinv
      h.hedef.row sim.netElineGecen)]
    intro _ hneg
    obtain ⟨_, _, _, _, _, _, _, hsim⟩ := h.satis
    exact absurd (netElineGecen_nonneg hsim) (not_le.mpr hneg)
  | fiyat id a f h =>
    have ha : ¬ Kasada o.userId o.aktif a := not_kasada_of_type (by simp [h.tip])
    left
    rw [writeAll_cons, writeAll_nil, fiyatYaz,
      kasa_write (.account id _ fun _ => rfl) (findById_eq_some.mp h.hesap).2.1, if_neg ha, add_zero]
  | kural c h => exact .inl le_rfl

/-- A hidden outflow reaches its commit and breaks the rule. -/
private theorem hidden_outflow_breaks {t : ActionType} {taban : ℚ} (hesc : HiddenOutflow o p taban t) :
    ∃ ws, Accepted o p t ws ∧ (∀ w ∈ ws, Saglam o.db w) ∧
      ¬ Korunur taban (kasa o.userId o.aktif o.db.accounts)
        (kasa o.userId o.aktif (o.db.writeAll ws).accounts) := by
  cases hesc with
  | bakiye id a nb h nakit dusus altinda tutarli =>
    refine ⟨_, .bakiye id a nb h, ?_, ?_⟩
    · intro w hw
      obtain rfl := List.mem_singleton.mp hw
      exact saglam_account h.hesap.row tutarli
    · rw [korunur_leg (kasa_bakiyeYaz h.hesap.row _ _)]
      intro hk
      exact absurd (hk nakit (by linarith)) (not_le.mpr altinda)
  | islem id a txn h nakit bakiyeli gider gizli altinda tutarli =>
    have hacc := Accepted.islem _ txn h
    obtain ⟨_, hname, _⟩ := islemHesabi_some.mp h.secim
    have hb : bakiyeBacagi p (some (id, a)) txn.transactionType txn.amount = some (id, -txn.amount) :=
      bakiyeBacagi_some.mpr ⟨_, rfl, bakiyeli, by simp [kocDelta, gider, nakit.2]⟩
    rw [hb] at hacc
    refine ⟨_, hacc, ?_, ?_⟩
    · intro w hw
      rcases List.mem_pair.mp hw with rfl | rfl
      · intro k hk
        have hsak := h.saklanan
        simp only [saklananHesap, Except.ok.injEq] at hsak
        obtain rfl : id = k := by simpa [← hsak] using hk
        simp [hname.row]
      · exact saglam_account hname.row tutarli
    · simp only [Option.map_some, Option.toList_some]
      rw [korunur_leg (kasa_islem txn hname.row _ _)]
      intro hk
      have := hk nakit (by linarith [h.pozitif])
      linarith
  | borc id d tarih hesap h hedef nakit cikis altinda tutarli =>
    have hacc := Accepted.borc id d tarih h
    have hk := kasa_borc h o.userId o.aktif
    have hh : odemeHedefi o d = some hesap :=
      odemeHedefi_some.mpr ⟨fun h0 => cikis.ne (kapanisDelta_eq_zero.mpr h0), hedef⟩
    refine ⟨_, hacc, ?_, ?_⟩
    · rw [(odemeSonucu_unpaid h.odenmemis tarih).1, hh]
      intro w hw
      rcases List.mem_pair.mp hw with rfl | rfl
      · trivial
      · exact saglam_account (hedefHesap_row hedef) tutarli
    · rw [hh, Option.map_some, Option.getD_some] at hk
      rw [korunur_leg hk]
      intro hkk
      exact absurd (hkk nakit cikis) (not_le.mpr altinda)
  | kart card source q h nakit altinda tutarli =>
    refine ⟨_, .kart card source q h, ?_, ?_⟩
    · intro w hw
      rcases List.mem_pair.mp hw with rfl | rfl
      · exact saglam_account h.kart.row (.inl h.tip)
      · exact saglam_account (odemeKaynagi_row h.kaynak) tutarli
    · rw [korunur_leg (kasa_kart h _ _)]
      intro hk
      have := hk nakit (by linarith [h.pozitif])
      linarith

/-- A successful action keeps the floor exactly when it is no hidden outflow. -/
theorem cash_floor_iff (ariza : Ariza) (bugun : ℕ → Date) (db : Db) (actionId userId : ℕ) (taban : ℚ)
    (hkural : ∀ pending, kendiAksiyonu db actionId userId = some pending →
      FloorRule db userId pending.workspaceId taban) :
    FloorKept ariza bugun db actionId userId taban ↔
      ¬ (ariza.handlerOnce = none ∧ ∃ pending p, Reaches db actionId userId pending p ∧
        HiddenOutflow (ortam bugun db pending userId) p taban pending.actionType ∧
        ¬ PencereHatasi ariza db (bugun userId) pending p) := by
  have hkasa : ∀ {d e : Db}, Defter.oku d = Defter.oku e → ∀ w,
      nakitToplami d userId w = kasa userId w e.accounts := by
    intro d e hd w
    rw [nakitToplami_eq, show d.accounts = e.accounts from congrArg Defter.accounts hd]
  rcases execute_cases ariza bugun db actionId userId with
    ⟨hno, hbas, _⟩ | ⟨pending, p, ws, hn, happ, hd, hson⟩
  · constructor
    · rintro _ ⟨hn, pending, p, hr, hesc, _⟩
      obtain ⟨ws, hacc, hs, _⟩ := hidden_outflow_breaks hesc
      exact hno pending p ws hn (applies_iff_accepted.mpr ⟨hr, hacc, hs⟩)
    · intro _ _ c _ hc
      exact absurd hc (hbas c)
  · obtain ⟨hr, hacc, hs⟩ := applies_iff_accepted.mp happ
    constructor
    · rintro h ⟨_, pending', p', hr', hesc, hpen⟩
      obtain ⟨ws', hacc', hs', hbroken⟩ := hidden_outflow_breaks hesc
      obtain ⟨rfl, rfl, rfl⟩ := happ.unique (applies_iff_accepted.mpr ⟨hr', hacc', hs'⟩)
      rcases hson with ⟨hp, _⟩ | ⟨_, ⟨c, hc⟩, _⟩
      · exact hpen hp
      · have := h pending c hr.aksiyon hc
        rw [hkasa hd] at this
        exact hbroken this
    · intro h pending' c ha hc
      obtain rfl : pending = pending' := by simpa [hr.aksiyon] using ha
      have hpen : ¬ PencereHatasi ariza db (bugun userId) pending p := by
        rcases hson with ⟨_, holumsuz⟩ | ⟨hpen, _⟩
        · rw [hc] at holumsuz
          cases holumsuz
        · exact hpen
      have hgate : ∀ q, 0 < taban →
          (∀ x, harcamaTutari pending.actionType (some p) = .ok x → x = .finite q) → 0 < q →
          taban ≤ kasa userId pending.workspaceId db.accounts - q :=
        fun q hpos hq hq0 => gate_floor hr (hkural pending ha) hpos hq hq0
      have hkept := accepted_keeps_floor hacc hs hgate fun hesc => h ⟨hn, pending, p, hr, hesc, hpen⟩
      rw [hkasa hd]
      exact hkept

/-- A floor of 5000, 5200 in cash and a card that is paid with 1000 of it. -/
def floorDb : Db := Db.empty.writeAll [
  .account (.insert ⟨1, none, "Nakit", .cash, 5200, none, none, none, none, none, none, none, false⟩),
  .account (.insert ⟨1, none, "Kart", .creditCard, 3000, none, none, none, none, none, none, none, false⟩),
  .checkpoint (.insert ⟨1, none, "Acil para", "", .redLine, 1, true, some .minCashFloor,
    some (.object [(.amount, .int 5000)])⟩),
  .pendingAction (.insert ⟨1, none, .payCreditCard, .object [
      (.cardAccountId, .int 2), (.amount, .int 1000)], "1000 TL kart ödemesi", .pending, none, none, none⟩)]

private theorem floorDb_rule (pending : PendingAction) (h : kendiAksiyonu floorDb 1 1 = some pending) :
    FloorRule floorDb 1 pending.workspaceId 5000 := by
  have hw : (kendiAksiyonu floorDb 1 1).map PendingAction.workspaceId = some none := by decide +kernel
  rw [h, Option.map_some, Option.some.injEq] at hw
  rw [hw]
  exact ⟨1, ⟨1, none, "Acil para", "", .redLine, 1, true, some .minCashFloor,
    some (.object [(.amount, .int 5000)])⟩, [(.amount, .int 5000)], by decide +kernel, by decide +kernel,
    rfl, rfl, rfl, by decide +kernel⟩

theorem cash_floor_iff_floorDb :
    FloorKept .yok (fun _ => ⟨2026, 5, 1, by decide, by decide, by decide⟩) floorDb 1 1 5000 ↔
      ¬ (Ariza.yok.handlerOnce = none ∧ ∃ pending p, Reaches floorDb 1 1 pending p ∧
        HiddenOutflow (ortam (fun _ => ⟨2026, 5, 1, by decide, by decide, by decide⟩) floorDb pending 1) p
          5000 pending.actionType ∧
        ¬ PencereHatasi .yok floorDb ⟨2026, 5, 1, by decide, by decide, by decide⟩ pending p) :=
  cash_floor_iff .yok _ floorDb 1 1 5000 floorDb_rule

/-- The card payment succeeds and leaves 4200 in cash under a floor of 5000. -/
theorem card_payment_broke_the_floor :
    ¬ ∀ ariza bugun db actionId userId taban,
      (∀ pending, kendiAksiyonu db actionId userId = some pending →
        FloorRule db userId pending.workspaceId taban) →
      FloorKept ariza bugun db actionId userId taban := by
  intro h
  have hrow : ∃ pending, kendiAksiyonu floorDb 1 1 = some pending ∧ pending.workspaceId = none := by
    refine ⟨⟨1, none, .payCreditCard, .object [(.cardAccountId, .int 2), (.amount, .int 1000)],
      "1000 TL kart ödemesi", .pending, none, none, none⟩, by decide +kernel, rfl⟩
  obtain ⟨pending, hp, hw⟩ := hrow
  have hkept := h .yok (fun _ => ⟨2026, 5, 1, by decide, by decide, by decide⟩) floorDb 1 1 5000
    floorDb_rule pending (.kart "Kart" "Nakit" 1000 2000 4200 none) hp (by decide +kernel)
  rw [hw] at hkept
  exact absurd hkept (by decide +kernel)

end FinancialOs.Guarantees
