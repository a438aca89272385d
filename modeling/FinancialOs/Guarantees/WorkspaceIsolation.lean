import FinancialOs.Guarantees.CustodyInvisible
import FinancialOs.Rules.CockpitReport

/-! Two databases that agree on a workspace, and what its members see of them in the cockpit. -/
namespace FinancialOs.Guarantees
open Library Store Rules

section Tables
variable {α : Type} [Scoped α] {w u v : ℕ} {t s : Table α}

/-- The two tables have the same rows of a workspace. -/
def AyniSatirlar (w : ℕ) (t s : Table α) : Prop :=
  t.select (fun a => Scoped.workspaceId a = some w) = s.select fun a => Scoped.workspaceId a = some w

theorem AyniSatirlar.kapsam (h : AyniSatirlar w t s) : kapsamSatirlari t u (some w) = kapsamSatirlari s v (some w) := h

theorem AyniSatirlar.select (h : AyniSatirlar w t s) (q : α → Bool) :
    t.select (fun a => scopeFilter u (some w) a ∧ q a) = s.select fun a => scopeFilter v (some w) a ∧ q a := by
  have hand (x : Table α) (y : ℕ) : x.select (fun a => scopeFilter y (some w) a ∧ q a) =
      (x.select fun a => Scoped.workspaceId a = some w).filter fun r => q r.2 := by
    unfold Table.select
    rw [List.filter_filter]
    refine List.filter_congr fun r _ => ?_
    dsimp only
    rw [Bool.decide_and, Bool.decide_eq_true, Bool.decide_eq_true, Bool.and_comm]
    rfl
  rw [hand, hand, h]

end Tables

/-- The rows of a workspace are the same in both databases. -/
structure AyniWorkspace (w : ℕ) (c d : KokpitDb) : Prop where
  accounts : AyniSatirlar w c.panel.db.accounts d.panel.db.accounts
  hesapEki : ∀ k a, c.panel.db.accounts.get? k = some a → a.workspaceId = some w →
    c.panel.hesapEki k = d.panel.hesapEki k
  transactions : AyniSatirlar w c.panel.db.transactions d.panel.db.transactions
  debts : AyniSatirlar w c.panel.db.debts d.panel.db.debts
  incomes : AyniSatirlar w c.panel.db.incomes d.panel.db.incomes
  expenses : AyniSatirlar w c.panel.db.expenses d.panel.db.expenses
  envelopes : AyniSatirlar w c.panel.envelopes d.panel.envelopes
  categories : AyniSatirlar w c.categories d.categories
  checkpoints : AyniSatirlar w c.panel.db.checkpoints d.panel.db.checkpoints
  pendingActions : AyniSatirlar w c.panel.db.pendingActions d.panel.db.pendingActions
  memberships : c.panel.db.memberships.select (fun m => m.workspaceId = w) =
    d.panel.db.memberships.select fun m => m.workspaceId = w

section Sections
variable {c d : KokpitDb} {w u v : ℕ} {today : Date}

theorem AyniWorkspace.turHesaplari (h : AyniWorkspace w c d) (tip : AccountType) :
    turHesaplari c.panel.db u (some w) tip = turHesaplari d.panel.db v (some w) tip := by
  have hsec := h.accounts.select (u := u) (v := v) fun a => a.accountType = tip
  simpa [Store.turHesaplari] using hsec

theorem AyniWorkspace.borcHesaplari (h : AyniWorkspace w c d) :
    borcHesaplari c.panel.db u (some w) = borcHesaplari d.panel.db v (some w) := by
  have hsec := h.accounts.select (u := u) (v := v) fun a => a.accountType = .loan ∨ a.accountType = .creditCard
  simpa [Store.borcHesaplari] using hsec

theorem AyniSatirlar.etkin {t s : Table Recurring} (h : AyniSatirlar w t s) :
    etkinKayitlar t u (some w) = etkinKayitlar s v (some w) := by
  have hsec := h.select (u := u) (v := v) fun r => r.isActive
  simpa [etkinKayitlar] using hsec

theorem AyniWorkspace.nakit (h : AyniWorkspace w c d) :
    nakitToplami c.panel.db u (some w) = nakitToplami d.panel.db v (some w) := by
  rw [nakitToplami_eq_sum, nakitToplami_eq_sum, h.turHesaplari (v := v)]

/-- The further columns of an account of the workspace. -/
theorem AyniWorkspace.ek (h : AyniWorkspace w c d) {q : Account → Bool} {a : ℕ × Account}
    (ha : a ∈ c.panel.db.accounts.select fun a => scopeFilter u (some w) a ∧ q a) :
    c.panel.hesapEki a.1 = d.panel.hesapEki a.1 := by
  obtain ⟨hget, hq⟩ := Table.mem_select.mp (show (a.1, a.2) ∈ _ from ha)
  exact h.hesapEki a.1 a.2 hget (of_decide_eq_true (of_decide_eq_true hq).1)

/-- What reads of each account it lists the further columns finds the same. -/
theorem AyniWorkspace.flatMap_ek {β : Type} (h : AyniWorkspace w c d) (q : Account → Bool)
    {f : (ℕ → HesapEki) → ℕ × Account → List β} (hf : ∀ ek a, f ek a = f (fun _ => ek a.1) a) :
    (c.panel.db.accounts.select fun a => scopeFilter u (some w) a ∧ q a).flatMap (f c.panel.hesapEki) =
      (d.panel.db.accounts.select fun a => scopeFilter v (some w) a ∧ q a).flatMap (f d.panel.hesapEki) := by
  rw [← h.accounts.select (u := u)]
  refine List.flatMap_congr fun a ha => ?_
  rw [hf, h.ek ha, ← hf]

theorem AyniWorkspace.filter_map_ek {β : Type} (h : AyniWorkspace w c d) (tip : AccountType)
    (p : HesapEki → ℕ × Account → Bool) (f : HesapEki → ℕ × Account → β) :
    ((Store.turHesaplari c.panel.db u (some w) tip).filter fun a => p (c.panel.hesapEki a.1) a).map
        (fun a => f (c.panel.hesapEki a.1) a) =
      ((Store.turHesaplari d.panel.db v (some w) tip).filter fun a => p (d.panel.hesapEki a.1) a).map
        fun a => f (d.panel.hesapEki a.1) a := by
  have hliste (e : KokpitDb) (y : ℕ) :
      ((Store.turHesaplari e.panel.db y (some w) tip).filter fun a => p (e.panel.hesapEki a.1) a).map
        (fun a => f (e.panel.hesapEki a.1) a) =
      (e.panel.db.accounts.select fun a => scopeFilter y (some w) a ∧ decide (a.accountType = tip)).flatMap
        fun a => if p (e.panel.hesapEki a.1) a then [f (e.panel.hesapEki a.1) a] else [] := by
    rw [filter_map_eq_flatMap]
    simp [Store.turHesaplari]
  rw [hliste, hliste]
  exact h.flatMap_ek _ (f := fun ek a => if p (ek a.1) a then [f (ek a.1) a] else []) fun _ _ => rfl

theorem AyniWorkspace.hamKalemler (h : AyniWorkspace w c d) :
    hamKalemler c.panel u (some w) today = Rules.hamKalemler d.panel v (some w) today := by
  have hesaplar : (Store.borcHesaplari c.panel.db u (some w)).flatMap (hesapKalemi today.monthDay c.panel.hesapEki) =
      (Store.borcHesaplari d.panel.db v (some w)).flatMap (hesapKalemi today.monthDay d.panel.hesapEki) := by
    have hek := h.flatMap_ek (u := u) (v := v) (fun a => a.accountType = .loan ∨ a.accountType = .creditCard)
      (f := hesapKalemi today.monthDay) fun _ _ => rfl
    simpa [Store.borcHesaplari] using hek
  have hkart : kartHesapIdleri c.panel u (some w) = kartHesapIdleri d.panel v (some w) := by
    rw [kartHesapIdleri, h.turHesaplari (v := v)]
    rfl
  rw [Rules.hamKalemler, h.incomes.etkin (v := v), h.expenses.etkin (v := v), h.debts.kapsam (v := v), hesaplar, hkart]
  rfl

theorem AyniWorkspace.takvim (h : AyniWorkspace w c d) :
    calculateNakitTakvimi c.panel u (some w) today = calculateNakitTakvimi d.panel v (some w) today := by
  have hbekleyen : yatirimdaBekleyen c.panel u (some w) = yatirimdaBekleyen d.panel v (some w) :=
    h.filter_map_ek .investment (fun ek a => !a.2.isEmanet && (ek.fundCode.getD "" == "") &&
      (a.2.lotCount.getD 0 == 0) && decide (0 < a.2.balance)) fun _ a => (a.2.name, a.2.balance)
  have hkart : kartHesapIdleri c.panel u (some w) = kartHesapIdleri d.panel v (some w) := by
    rw [kartHesapIdleri, h.turHesaplari (v := v)]
    rfl
  simp only [calculateNakitTakvimi, h.hamKalemler (v := v), h.nakit (v := v), hbekleyen, hkart,
    h.expenses.etkin (v := v)]

theorem AyniWorkspace.forecast (h : AyniWorkspace w c d) (horizonDays : ℕ) (accountId : Option ℕ) (dahil : Dahil)
    (esik : ℚ) : generateForecast c.panel u (some w) horizonDays accountId dahil esik today =
      generateForecast d.panel v (some w) horizonDays accountId dahil esik today := by
  have hkredi (y : Ufuk) : (Store.turHesaplari c.panel.db u (some w) .loan).flatMap
      (expandLoanPayments y c.panel.hesapEki) =
      (Store.turHesaplari d.panel.db v (some w) .loan).flatMap (expandLoanPayments y d.panel.hesapEki) := by
    have hek := h.flatMap_ek (u := u) (v := v) (fun a => a.accountType = .loan) (f := expandLoanPayments y)
      fun _ _ => rfl
    simpa [Store.turHesaplari] using hek
  have holaylar (y : Ufuk) : allEvents c.panel u (some w) y accountId dahil =
      allEvents d.panel v (some w) y accountId dahil := by
    rw [allEvents, h.incomes.etkin (v := v), h.expenses.etkin (v := v), h.debts.kapsam (v := v), hkredi]
    rfl
  simp only [generateForecast, holaylar, acilisBakiyesi, kalanKartLimiti, h.turHesaplari (u := u) (v := v)]

theorem AyniWorkspace.taksitler (h : AyniWorkspace w c d) (gun : MonthDay) :
    vadesiGelenTaksitler c.panel u (some w) gun = vadesiGelenTaksitler d.panel v (some w) gun :=
  h.filter_map_ek .loan
    (fun ek _ => ek.nextPaymentDate.any fun (t : Date) => decide (gun ≤ t.monthDay ∧ t.monthDay ≤ ayinSonGunu gun))
    fun ek _ => ek.monthlyPayment.getD 0

theorem AyniWorkspace.odenmemisler (h : AyniWorkspace w c d) (direction : DebtDirection) :
    odenmemisler c.panel u (some w) direction = Rules.odenmemisler d.panel v (some w) direction := by
  rw [Rules.odenmemisler, h.debts.kapsam (v := v)]
  rfl

theorem AyniWorkspace.turHatasi (h : AyniWorkspace w c d) (gun : MonthDay) :
    turHatasi c.panel u (some w) gun = Rules.turHatasi d.panel v (some w) gun := by
  simp only [Rules.turHatasi, h.taksitler (v := v), vadesiGelenAlacaklar, odenmemisTutarlar,
    h.odenmemisler (v := v)]

/-- The figures are those of the workspace, whoever asks. -/
theorem AyniWorkspace.rakamlar (h : AyniWorkspace w c d) (safeDebtBuffer : ℚ) :
    kokpitRakamlari safeDebtBuffer c.panel u (some w) today =
      kokpitRakamlari safeDebtBuffer d.panel v (some w) today := by
  have hzarf : zarfKalanlari c.panel u (some w) today.monthDay = zarfKalanlari d.panel v (some w) today.monthDay := by
    simp only [zarfKalanlari, kategoriHarcamasi, h.envelopes.kapsam (u := u) (v := v),
      h.transactions.kapsam (u := u) (v := v)]
  have hgelir : calculateExpectedIncomeUntilEom c.panel u (some w) today =
      calculateExpectedIncomeUntilEom d.panel v (some w) today := by
    simp only [calculateExpectedIncomeUntilEom, beklenenler, h.incomes.etkin (u := u) (v := v)]
  simp only [kokpitRakamlari, kartBorcu, krediBorcu, yatirimDegeri, h.turHesaplari (u := u) (v := v),
    h.nakit (v := v), hgelir, h.taksitler (v := v), vadesiGelenAlacaklar, odenmemisTutarlar,
    h.odenmemisler (v := v), h.turHatasi (v := v), h.forecast (v := v), h.takvim (v := v), hzarf]

theorem AyniWorkspace.giderler (h : AyniWorkspace w c d) (gun : MonthDay) (days : ℕ) :
    giderToplami c.panel u (some w) gun days = giderToplami d.panel v (some w) gun days := by
  rw [giderToplami, h.transactions.kapsam (v := v)]
  rfl

theorem AyniWorkspace.runway (h : AyniWorkspace w c d) (gun : MonthDay) (nakit : ℚ) :
    calculateCashRunway c.panel u (some w) gun nakit = calculateCashRunway d.panel v (some w) gun nakit := by
  have htaksit : aylikTaksitler c.panel u (some w) = aylikTaksitler d.panel v (some w) :=
    congrArg List.sum (h.filter_map_ek .loan (fun ek _ => ek.remainingInstallments.any fun n => decide (0 < n))
      fun ek _ => ek.monthlyPayment.getD 0)
  simp only [calculateCashRunway, htaksit, h.giderler (v := v)]

/-- The cockpits of two members differ in nothing but the patterns. -/
theorem cockpit_eq_iff (h : AyniWorkspace w c d) (safeDebtBuffer anomalyThreshold : ℚ) :
    generateCockpit safeDebtBuffer anomalyThreshold c u (some w) today =
        generateCockpit safeDebtBuffer anomalyThreshold d v (some w) today ↔
      turHatasi c.panel u (some w) today.monthDay = true ∨
        calculateCategoryPatterns anomalyThreshold c u today.monthDay =
          calculateCategoryPatterns anomalyThreshold d v today.monthDay := by
  have hsonlar : collectRecentTransactions c.panel u (some w) = collectRecentTransactions d.panel v (some w) := by
    rw [collectRecentTransactions, h.transactions.kapsam (v := v)]
    rfl
  have hrakamlar := @AyniWorkspace.rakamlar c d w u v today h safeDebtBuffer
  simp only [generateCockpit, hsonlar, h.giderler (u := u) (v := v), h.runway (u := u) (v := v),
    h.nakit (u := u) (v := v)]
  rw [h.turHatasi (v := v), hrakamlar]
  by_cases hhata : turHatasi d.panel v (some w) today.monthDay = true
  · have herror : kokpitRakamlari safeDebtBuffer d.panel v (some w) today = .error .typeError := if_pos hhata
    refine iff_of_true ?_ (.inl hhata)
    simp only [herror, bind, Except.bind]
  · obtain ⟨rakamlar, hok⟩ : ∃ k, kokpitRakamlari safeDebtBuffer d.panel v (some w) today = .ok k :=
      ⟨_, if_neg hhata⟩
    rw [or_iff_right hhata]
    simp only [hok, bind, Except.bind, pure, Except.pure]
    cases calculateCategoryPatterns anomalyThreshold c u today.monthDay with
    | error e =>
      cases calculateCategoryPatterns anomalyThreshold d v today.monthDay with
      | error e' => simp
      | ok desenler' => simp
    | ok desenler =>
      cases calculateCategoryPatterns anomalyThreshold d v today.monthDay with
      | error e' => simp
      | ok desenler' => simp

end Sections

section Names

/-- A name longer than all of a list. -/
def yeniAd (adlar : List String) : String :=
  String.ofList (List.replicate ((adlar.map String.length).foldr max 0 + 1) 'x')

theorem length_yeniAd (adlar : List String) : (yeniAd adlar).length = (adlar.map String.length).foldr max 0 + 1 := by
  simp [yeniAd]

theorem yeniAd_not_mem (adlar : List String) : yeniAd adlar ∉ adlar := by
  intro h
  have hle : ∀ l : List ℕ, ∀ n ∈ l, n ≤ l.foldr max 0 := by
    intro l
    induction l with
    | nil => simp
    | cons m l ih =>
      intro n hn
      rcases List.mem_cons.mp hn with rfl | hn
      · exact le_max_left _ _
      · exact (ih n hn).trans (le_max_right _ _)
  have hlen := hle _ _ (List.mem_map_of_mem (f := String.length) h)
  rw [length_yeniAd] at hlen
  omega

theorem trNormalize_yeniAd (adlar : List String) : trNormalize (yeniAd adlar) = yeniAd adlar := by
  have hx (n : ℕ) : (((List.replicate n 'x').map trHarf).flatMap kucukHarf).filter (· ≠ '\u0307') =
      List.replicate n 'x' := by
    induction n with
    | zero => rfl
    | succ n ih =>
      rw [List.replicate_succ, List.map_cons, List.flatMap_cons, List.filter_append, ih]
      rfl
  rw [trNormalize, yeniAd, String.toList_ofList, hx]

end Names

section Leak
variable {c : KokpitDb} {w u : ℕ} {today : Date} {anomalyThreshold : ℚ}

/-- An expense of the day outside every workspace. -/
def disHarcama (u : ℕ) (today : Date) (ad : String) : Transaction :=
  ⟨u, none, none, .expense, 1, some ad, none, today, false⟩

/-- The user has spent three times outside the workspace, in a category that is new. -/
def disaridaHarca (c : KokpitDb) (u : ℕ) (today : Date) (ad : String) : KokpitDb :=
  { c with panel := { c.panel with db := { c.panel.db with
    transactions := ((c.panel.db.transactions.push (disHarcama u today ad)).push (disHarcama u today ad)).push
      (disHarcama u today ad) } } }

theorem ayniWorkspace_disaridaHarca (ad : String) : AyniWorkspace w c (disaridaHarca c u today ad) := by
  have hpush (t : Table Transaction) : AyniSatirlar w t (t.push (disHarcama u today ad)) := by
    change _ = (t.rows ++ [(t.freshKey, _)]).filter _
    rw [List.filter_append]
    exact (List.append_nil _).symm
  have hislemler := (hpush c.panel.db.transactions).trans ((hpush _).trans (hpush _))
  exact ⟨rfl, fun _ _ _ _ => rfl, hislemler, rfl, rfl, rfl, rfl, rfl, rfl, rfl, rfl⟩

/-- The patterns of a day that has two windows behind it. -/
def desenler (anomalyThreshold : ℚ) (c : KokpitDb) (u : ℕ) (gun : MonthDay) : List CategoryPattern :=
  ((desenGruplari (desenSatirlari c.panel.db.transactions u gun) gun).filter fun g =>
    !g.category.any fun s => trNormalize s ∈ sistemSlugKumesi c.categories u none).map (desen anomalyThreshold)

theorem patterns_ok {gun : MonthDay} (h : ¬ gun < ilkGun.addDays 59) :
    calculateCategoryPatterns anomalyThreshold c u gun = .ok (desenler anomalyThreshold c u gun) := by
  simp only [calculateCategoryPatterns, h, if_false, desenler]

/-- The patterns name categories of the user's own expenses. -/
theorem desen_adi {gun : MonthDay} {g : CategoryPattern} (hg : g ∈ desenler anomalyThreshold c u gun) :
    g.category = "diger" ∨
      g.category ∈ (desenSatirlari c.panel.db.transactions u gun).filterMap Transaction.category := by
  obtain ⟨k, hk, rfl⟩ := List.mem_map.mp hg
  obtain ⟨hk, -⟩ := List.mem_filter.mp hk
  obtain ⟨hk, -⟩ := List.mem_filter.mp (List.mem_mergeSort.mp hk)
  obtain ⟨ad, had, rfl⟩ := List.mem_map.mp hk
  obtain ⟨t, ht, rfl⟩ := List.mem_map.mp (List.mem_dedup.mp had)
  cases hcat : t.category with
  | none => exact .inl rfl
  | some s =>
    by_cases hs : s = ""
    · left
      simp [desen, desenGrubu, hs]
    · right
      simp only [desen, desenGrubu, Option.getD_some, hs, if_false]
      exact List.mem_filterMap.mpr ⟨t, ht, hcat⟩

/-- Three expenses of today make a pattern, wherever they are. -/
theorem desen_disaridaHarca {ad : String} (had : ad ≠ "")
    (hsistem : trNormalize ad ∉ sistemSlugKumesi c.categories u none) :
    ∃ g ∈ desenler anomalyThreshold (disaridaHarca c u today ad) u today.monthDay, g.category = ad := by
  have hpencere (n : ℕ) : sonGunlerde today.monthDay n today.monthDay = true :=
    decide_eq_true ⟨MonthDay.le_addDays _ _, le_rfl⟩
  have hsatirlar : desenSatirlari (disaridaHarca c u today ad).panel.db.transactions u today.monthDay =
      desenSatirlari c.panel.db.transactions u today.monthDay ++ List.replicate 3 (disHarcama u today ad) := by
    unfold desenSatirlari disaridaHarca
    rw [Table.select_push, Table.select_push, Table.select_push]
    have hkosul : decide ((disHarcama u today ad).userId = u ∧ (disHarcama u today ad).transactionType = .expense ∧
        sonGunlerde today.monthDay 60 (disHarcama u today ad).transactionDate.monthDay = true) = true :=
      decide_eq_true ⟨rfl, rfl, hpencere 60⟩
    simp only [hkosul, if_true, List.append_assoc]
    rfl
  have hadet : patternMinTransactions ≤ (desenGrubu (desenSatirlari c.panel.db.transactions u today.monthDay ++
      List.replicate 3 (disHarcama u today ad)) today.monthDay (some ad)).currCount := by
    have hayni : (List.replicate 3 (disHarcama u today ad)).filter (fun x => x.category = some ad) =
        List.replicate 3 (disHarcama u today ad) :=
      List.filter_eq_self.mpr fun x hx => by
        rw [List.eq_of_mem_replicate hx]
        exact decide_eq_true rfl
    have hbugun : (List.replicate 3 (disHarcama u today ad)).filter
        (fun x => sonGunlerde today.monthDay 30 x.transactionDate.monthDay) =
        List.replicate 3 (disHarcama u today ad) :=
      List.filter_eq_self.mpr fun x hx => by
        rw [List.eq_of_mem_replicate hx]
        exact hpencere 30
    simp only [desenGrubu, List.filter_append, hayni, hbugun, List.length_append, List.length_replicate,
      patternMinTransactions]
    omega
  refine ⟨_, List.mem_map_of_mem (List.mem_filter.mpr ⟨List.mem_mergeSort.mpr
    (List.mem_filter.mpr ⟨List.mem_map_of_mem (a := some ad) ?_, ?_⟩), ?_⟩), ?_⟩
  · rw [hsatirlar, List.mem_dedup, List.map_append, List.mem_append]
    right
    exact List.mem_map.mpr ⟨disHarcama u today ad, List.mem_replicate.mpr ⟨by decide, rfl⟩, rfl⟩
  · rw [hsatirlar]
    exact decide_eq_true hadet
  · change (!decide (trNormalize ad ∈ sistemSlugKumesi c.categories u none)) = true
    rw [decide_eq_false hsistem]
    rfl
  · simp [desen, desenGrubu, had]

/-- What a member sees in the cockpit depends on nothing but the rows of the workspace: every member sees
it in every database that agrees on them. -/
def Yalitilmis (safeDebtBuffer anomalyThreshold : ℚ) (c : KokpitDb) (w u : ℕ) (today : Date) : Prop :=
  ∀ d v, AyniWorkspace w c d → Uye d.panel.db w v →
    generateCockpit safeDebtBuffer anomalyThreshold c u (some w) today =
      generateCockpit safeDebtBuffer anomalyThreshold d v (some w) today

end Leak

def ortakPanelGunu : Date := (Date.ofYmd? 2026 5 20).get rfl

def ozelHarcama : Transaction :=
  ⟨1, some 2, none, .expense, 100, some "kumar", none, ortakPanelGunu, false⟩

/-- A workspace of two members, one of whom has spent three times in a workspace of their own. -/
def ortakPanelDb : KokpitDb where
  panel := {
    db := { Db.empty with
      memberships := (Table.empty.push ⟨1, 1, .owner⟩).push ⟨1, 2, .editor⟩
      transactions := ((Table.empty.push ozelHarcama).push ozelHarcama).push ozelHarcama }
    hesapEki := fun _ => ⟨none, none, none, none⟩
    envelopes := .empty }
  categories := .empty

theorem uye_ortakPanelDb : Uye ortakPanelDb.panel.db 1 1 ∧ Uye ortakPanelDb.panel.db 1 2 :=
  ⟨⟨1, ⟨1, 1, .owner⟩, rfl, rfl, rfl⟩, ⟨2, ⟨1, 2, .editor⟩, rfl, rfl, rfl⟩⟩

end FinancialOs.Guarantees
