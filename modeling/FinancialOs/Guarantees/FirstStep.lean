import FinancialOs.Guarantees.SafeToSpend
import FinancialOs.Rules.NextStep

/-! The first step of the cockpit that puts idle cash onto the card, against the safe payments of the same
cockpit. -/
namespace FinancialOs.Guarantees
open Library Store Rules

/-- A scenario without a buffer has room for an amount. -/
def TamponsuzOdenir (tutar : ℚ) : GuvenliBorcOdemesi → Prop
  | .borcYok _ _ => False
  | .uygun _ _ _ _ _ _ _ senaryolar => ∃ s ∈ senaryolar, s.tampon = 0 ∧ tutar ≤ s.odenebilir

/-- What the envelopes of the month still hold back. -/
def zarfTaahhudu (p : PanelDb) (userId : ℕ) (workspaceId : Option ℕ) (today : Date) : ℚ :=
  ((zarfKalanlari p userId workspaceId today.monthDay).map (max 0)).sum

/-- How far the movements of the next 90 days take the cash down at their deepest. -/
def enDerinDusus (p : PanelDb) (userId : ℕ) (workspaceId : Option ℕ) (today : Date) : ℚ :=
  -(tamKapanislar (allEvents p userId workspaceId ⟨today.monthDay, today.monthDay.addDays 90⟩ none .hepsi) 90
    today.monthDay 0).foldr min 0

/-- Nothing is overdue in either direction, no day of the forecast closes below zero, and there is idle cash, a
card to pay and no need of the cash within a month. -/
structure FirsatVar (p : PanelDb) (userId : ℕ) (workspaceId : Option ℕ) (today : Date) : Prop where
  borcYok : ∀ d ∈ gecikenler p userId workspaceId today, d.1.direction ≠ .payable
  alacakYok : gecikenAlacaklar p userId workspaceId today = []
  krizYok : ∀ y ∈ tamKapanislar (allEvents p userId workspaceId ⟨today.monthDay, today.monthDay.addDays 90⟩ none
    .hepsi) 90 today.monthDay (nakitToplami p.db userId workspaceId), 0 ≤ y
  bosta : idleCashActionMin ≤ roundEven (nakitToplami p.db userId workspaceId - zarfTaahhudu p userId workspaceId today) 2
  kart : 0 < roundEven (kartBorcu p userId workspaceId) 2
  yeter : ∀ gun ∈ calculateCashRunway p userId workspaceId today.monthDay (nakitToplami p.db userId workspaceId),
    30 ≤ gun

section Recommendation
variable {c : EylemGirdisi} {e : SonrakiEylem}

theorem tip_krizEylemi (crunch : Uyari) (er : Option GecikenAlacak) : (krizEylemi crunch er).tip = .kriz := by
  cases er <;> rfl

theorem firsatVeyaStabil_firsat : (recommendNextAction.firsatVeyaStabil c = some e ∧ e.tip = .firsat) ↔
    e = firsatEylemi c ∧ nakitBosta c = true := by
  unfold recommendNextAction.firsatVeyaStabil
  split
  · next hb =>
    rw [hb]
    constructor
    · rintro ⟨he, -⟩
      exact ⟨(Option.some.inj he).symm, rfl⟩
    · rintro ⟨rfl, -⟩
      exact ⟨rfl, rfl⟩
  · next hb =>
    refine iff_of_false ?_ fun h => hb h.2
    split
    · rintro ⟨he, htip⟩
      rw [← Option.some.inj he] at htip
      cases htip
    · rintro ⟨he, -⟩
      cases he

/-- No alert calls for something more urgent, as far as titles say. -/
theorem kritik_yok_iff {p : Uyari → Bool} : (c.alerts.filter fun a => a.seviye = .kritik).find? p = none ↔
    ∀ a ∈ c.alerts, a.seviye = .kritik → p a = false := by
  rw [List.find?_eq_none]
  simp only [List.mem_filter, decide_eq_true_eq, and_imp, Bool.not_eq_true]

/-- When the first step is to pay the card. -/
theorem recommendNextAction_firsat : (recommendNextAction c = some e ∧ e.tip = .firsat) ↔
    e = firsatEylemi c ∧ (∀ a ∈ c.alerts, a.seviye = .kritik → borcGecikmisMi a = false ∧ krizMi a = false) ∧
      (∀ ay ∈ c.alacakYaslanma, ay.enRiskli = [] ∨ ay.gecikmisAdet = 0) ∧ nakitBosta c = true := by
  have hbaska {q : Prop} {f : SonrakiEylem} (hf : f.tip ≠ .firsat) (hq : ¬ q) : (some f = some e ∧ e.tip = .firsat) ↔ q := by
    refine iff_of_false ?_ hq
    rintro ⟨he, htip⟩
    exact hf (Option.some.inj he ▸ htip)
  unfold recommendNextAction
  dsimp only
  cases hborc : (c.alerts.filter fun a => a.seviye = .kritik).find? borcGecikmisMi with
  | some borc =>
    refine hbaska (by simp) ?_
    rintro ⟨-, hsessiz, -⟩
    rw [kritik_yok_iff.mpr fun a ha hk => (hsessiz a ha hk).1] at hborc
    cases hborc
  | none =>
    cases hkriz : (c.alerts.filter fun a => a.seviye = .kritik).find? krizMi with
    | some crunch =>
      refine hbaska (by simp [tip_krizEylemi]) ?_
      rintro ⟨-, hsessiz, -⟩
      rw [kritik_yok_iff.mpr fun a ha hk => (hsessiz a ha hk).2] at hkriz
      cases hkriz
    | none =>
      have hsessiz : ∀ a ∈ c.alerts, a.seviye = .kritik → borcGecikmisMi a = false ∧ krizMi a = false :=
        fun a ha hk => ⟨kritik_yok_iff.mp hborc a ha hk, kritik_yok_iff.mp hkriz a ha hk⟩
      rw [and_iff_right hsessiz]
      cases hay : c.alacakYaslanma with
      | none => simp [firsatVeyaStabil_firsat]
      | some ay =>
        cases hliste : ay.enRiskli with
        | nil => simp [firsatVeyaStabil_firsat, hliste]
        | cons er kalan =>
          simp only [Option.bind_some, Option.map_some, Option.getD_some, hliste, List.head?_cons]
          split
          · next hadet =>
            refine hbaska (by simp) ?_
            rintro ⟨-, hyok, -⟩
            rcases hyok ay rfl with h | h
            · simp [hliste] at h
            · omega
          · next hadet =>
            rw [firsatVeyaStabil_firsat]
            have hsifir : ay.gecikmisAdet = 0 := by omega
            simp [hsifir]

end Recommendation

section Alerts
variable {p : PanelDb} {userId : ℕ} {workspaceId : Option ℕ} {today : Date} {t : Taramalar} {reelButce : ℚ} {a : Uyari}

/-- A title that calls for nothing more urgent than a payment. -/
def Sessiz (a : Uyari) : Prop := borcGecikmisMi a = false ∧ krizMi a = false

theorem sessiz_baslik (baslik : String) (hbaslik : a.baslik = baslik)
    (h : (icerir "Gecikmiş borç".toList baslik.toList || icerir "kriz".toList (baslik.toList.flatMap kucukHarf)) = false) :
    Sessiz a := by
  rw [Bool.or_eq_false_iff] at h
  rw [Sessiz, borcGecikmisMi, krizMi, hbaslik]
  exact h

theorem icerir_of_prefix {parca metin : List Char} (h : parca <+: metin) : icerir parca metin = true :=
  List.any_eq_true.mpr ⟨metin, (List.mem_tails _ _).mpr List.suffix_rfl, List.isPrefixOf_iff_prefix.mpr h⟩

/-- All critical alerts are shown. -/
theorem mem_kokpitUyarilari (hk : a.seviye = .kritik) : a ∈ kokpitUyarilari p userId workspaceId today t reelButce ↔
    a ∈ tumUyarilar p userId workspaceId today t reelButce := by
  unfold kokpitUyarilari
  dsimp only
  rw [List.mem_append]
  constructor
  · rintro (h | h)
    · exact (List.mem_filter.mp h).1
    · exact (List.mem_filter.mp (List.mem_of_mem_take h)).1
  · intro h
    exact .inl (List.mem_filter.mpr ⟨h, decide_eq_true hk⟩)

theorem detectAlerts_sessiz {nakit kart limit : ℚ} {odemeler : List YaklasanOdeme} {gun : MonthDay}
    (h : a ∈ detectAlerts nakit kart limit reelButce odemeler gun) (hk : a.seviye = .kritik) : Sessiz a := by
  simp only [detectAlerts, List.mem_append, or_assoc] at h
  rcases h with h | h | h | h
  · split at h
    · cases h
    · split at h
      · rw [List.mem_singleton.mp h]
        exact sessiz_baslik "Kart kullanım oranı %95 üzeri" rfl (by decide +kernel)
      · split at h
        · rw [List.mem_singleton.mp h] at hk
          cases hk
        · cases h
  · split at h
    · rw [List.mem_singleton.mp h]
      exact sessiz_baslik "Reel bütçe negatif" rfl (by decide +kernel)
    · cases h
  · split at h
    · rw [List.mem_singleton.mp h] at hk
      cases hk
    · cases h
  · obtain ⟨o, -, rfl⟩ := List.mem_map.mp h
    cases hk

theorem minPaymentTrapAlerts_sessiz {tuzak : Option TuzakKarti} (h : a ∈ minPaymentTrapAlerts tuzak)
    (hk : a.seviye = .kritik) : Sessiz a := by
  cases tuzak with
  | none => cases h
  | some worst =>
    rw [minPaymentTrapAlerts] at h
    split at h
    · rw [List.mem_singleton.mp h]
      exact sessiz_baslik "Kart asgari ödeme sarmalı" rfl (by decide +kernel)
    · split at h
      · rw [List.mem_singleton.mp h] at hk
        cases hk
      · cases h

theorem gecikmeUyarisi_payable {d : PersonalDebt × Date} (hd : d.1.direction = .payable) :
    (gecikmeUyarisi today d).seviye = .kritik ∧ borcGecikmisMi (gecikmeUyarisi today d) = true := by
  rw [gecikmeUyarisi, if_pos hd]
  refine ⟨rfl, icerir_of_prefix ⟨": ".toList ++ d.1.counterparty.toList, ?_⟩⟩
  rw [← List.append_assoc, String.toList_append]
  rfl

/-- An overdue debt is always shown. -/
theorem gecikmeUyarisi_mem {d : PersonalDebt × Date} (hd : d ∈ gecikenler p userId workspaceId today)
    (hyon : d.1.direction = .payable) :
    gecikmeUyarisi today d ∈ kokpitUyarilari p userId workspaceId today t reelButce := by
  have hkritik := (@gecikmeUyarisi_payable today d hyon).1
  rw [mem_kokpitUyarilari hkritik, tumUyarilar, List.mem_mergeSort]
  simp only [List.mem_append, or_assoc]
  exact .inl (List.mem_filter.mpr ⟨List.mem_map_of_mem hd, decide_eq_true hkritik⟩)

/-- The critical alerts with a more urgent title are those of an overdue debt and of a cash crisis. -/
theorem kritik_cases (ha : a ∈ kokpitUyarilari p userId workspaceId today t reelButce) (hk : a.seviye = .kritik) :
    (∃ d ∈ gecikenler p userId workspaceId today, d.1.direction = .payable) ∨
      a ∈ crunchAlertFromSummary (generateForecast p userId workspaceId 90 none .hepsi 0 today).summary ∨ Sessiz a := by
  rw [mem_kokpitUyarilari hk, tumUyarilar, List.mem_mergeSort] at ha
  simp only [List.mem_append, or_assoc] at ha
  rcases ha with ha | ha | ha | ha | ha | ha | ha | ha
  · obtain ⟨ha, -⟩ := List.mem_filter.mp ha
    obtain ⟨d, hd, rfl⟩ := List.mem_map.mp ha
    refine .inl ⟨d, hd, ?_⟩
    by_contra hyon
    rw [gecikmeUyarisi, if_neg hyon] at hk
    cases hk
  · exact .inr (.inl ha)
  · exact .inr (.inr (detectAlerts_sessiz ha hk))
  · obtain ⟨-, hseviye⟩ := List.mem_filter.mp ha
    exact absurd hk (of_decide_eq_true hseviye)
  · obtain ⟨s, -, rfl⟩ := List.mem_map.mp ha
    cases hk
  · obtain ⟨c, -, rfl⟩ := List.mem_map.mp ha
    cases hk
  · exact .inr (.inr (minPaymentTrapAlerts_sessiz ha hk))
  · rw [bayatFiyatAlerts] at ha
    split at ha
    · cases ha
    · rw [List.mem_singleton.mp ha] at hk
      cases hk

theorem kokpitUyarilari_sessiz_iff :
    (∀ a ∈ kokpitUyarilari p userId workspaceId today t reelButce, a.seviye = .kritik →
      borcGecikmisMi a = false ∧ krizMi a = false) ↔
    (∀ d ∈ gecikenler p userId workspaceId today, d.1.direction ≠ .payable) ∧
      (generateForecast p userId workspaceId 90 none .hepsi 0 today).summary.crunchDates = [] := by
  constructor
  · intro h
    constructor
    · intro d hd hyon
      obtain ⟨hkritik, hbaslik⟩ := @gecikmeUyarisi_payable today d hyon
      rw [(h _ (gecikmeUyarisi_mem hd hyon) hkritik).1] at hbaslik
      cases hbaslik
    · by_contra hkriz
      obtain ⟨ilk, kalan, hliste⟩ := List.exists_cons_of_ne_nil hkriz
      have hmem : krizUyarisi (generateForecast p userId workspaceId 90 none .hepsi 0 today).summary ilk ∈
          kokpitUyarilari p userId workspaceId today t reelButce := by
        rw [mem_kokpitUyarilari rfl, tumUyarilar, List.mem_mergeSort, crunchAlertFromSummary, hliste]
        simp only [List.mem_append, or_assoc]
        exact .inr (.inl (List.mem_singleton_self _))
      have hbaslik : icerir "kriz".toList ("Nakit krizi öngörüsü".toList.flatMap kucukHarf) = true := by
        decide +kernel
      exact absurd ((h _ hmem rfl).2.symm.trans hbaslik) (by decide)
  · rintro ⟨hborc, hkriz⟩ a ha hk
    rcases kritik_cases ha hk with ⟨d, hd, hyon⟩ | ha | ha
    · exact absurd hyon (hborc d hd)
    · rw [crunchAlertFromSummary, hkriz] at ha
      cases ha
    · exact ha

end Alerts

section Figures
variable {p : PanelDb} {userId : ℕ} {workspaceId : Option ℕ} {today : Date} {d : DigerBolumler} {safeDebtBuffer : ℚ}
variable {r : KokpitRakamlari} {e : SonrakiEylem}

theorem kisa_gunler {events : List ForecastEvent} {esik balance : ℚ} {n : ℕ} {gun : MonthDay} :
    (gunZinciri events esik n gun balance).filter (fun g => g.crunch) = [] ↔
      ∀ y ∈ tamKapanislar events n gun balance, esik ≤ y := by
  induction n generalizing gun balance with
  | zero => simp [gunZinciri, tamKapanislar]
  | succ n ih =>
    rw [gunZinciri, tamKapanislar, kapanis_eq, List.forall_mem_cons, ← ih]
    simp

theorem crunchDates_eq_nil : (generateForecast p userId workspaceId 90 none .hepsi 0 today).summary.crunchDates = [] ↔
    ∀ y ∈ tamKapanislar (allEvents p userId workspaceId ⟨today.monthDay, today.monthDay.addDays 90⟩ none .hepsi) 90
      today.monthDay (nakitToplami p.db userId workspaceId), 0 ≤ y := by
  rw [← kisa_gunler]
  simp only [generateForecast, acilisBakiyesi_nakit, List.map_eq_nil_iff]

/-- The lowest balance lies below today's cash by the deepest drop. -/
theorem enDusukNakit_eq : enDusukNakit p userId workspaceId today =
    nakitToplami p.db userId workspaceId - enDerinDusus p userId workspaceId today := by
  apply eq_of_forall_le_iff
  intro t
  have hkay := @tamKapanislar_sub (allEvents p userId workspaceId ⟨today.monthDay, today.monthDay.addDays 90⟩ none .hepsi)
    (nakitToplami p.db userId workspaceId) 90 today.monthDay (nakitToplami p.db userId workspaceId)
  rw [sub_self] at hkay
  have hdusus : t ≤ nakitToplami p.db userId workspaceId - enDerinDusus p userId workspaceId today ↔
      t - nakitToplami p.db userId workspaceId ≤ -enDerinDusus p userId workspaceId today := by
    constructor
    · intro h
      linarith
    · intro h
      linarith
  rw [hdusus, enDerinDusus, neg_neg, le_foldr_min, enDusukNakit, le_foldr_min, hkay]
  simp only [List.forall_mem_cons, List.forall_mem_map, sub_nonpos, sub_le_sub_iff_right]

theorem alacakYok_iff : (∀ ay ∈ calculateReceivablesAging p userId workspaceId today, ay.enRiskli = [] ∨ ay.gecikmisAdet = 0) ↔
    gecikenAlacaklar p userId workspaceId today = [] := by
  unfold calculateReceivablesAging
  dsimp only
  split
  · next hbos =>
    simp [gecikenAlacaklar, hbos]
  · simp only [Option.mem_def, Option.some.injEq, forall_eq', List.length_eq_zero_iff, List.take_eq_nil_iff]
    constructor
    · rintro ((h | h) | h)
      · cases h
      · have hperm := List.mergeSort_perm (gecikenAlacaklar p userId workspaceId today) fun a b =>
          b.gecikmeGun ≤ a.gecikmeGun
        rw [h] at hperm
        exact List.nil_perm.mp hperm
      · exact h
    · exact .inr

theorem kokpitRakamlari_ok (hr : kokpitRakamlari safeDebtBuffer p userId workspaceId today = .ok r) :
    r.atanmamisNakit = roundEven (nakitToplami p.db userId workspaceId - zarfTaahhudu p userId workspaceId today) 2 ∧
      r.kartBorcu = roundEven (kartBorcu p userId workspaceId) 2 := by
  simp only [kokpitRakamlari] at hr
  split at hr
  · cases hr
  · obtain rfl := Except.ok.inj hr
    exact ⟨rfl, rfl⟩

theorem kokpit_menusu (safeDebtBuffer : ℚ) (hhata : turHatasi p userId workspaceId today.monthDay = false) :
    ∃ r, kokpitRakamlari safeDebtBuffer p userId workspaceId today = .ok r ∧
      r.guvenliBorcOdemesi = buildSafeDebtPaymentScenarios
        (generateForecast p userId workspaceId 90 none .hepsi 0 today).summary safeDebtBuffer
        (kartBorcu p userId workspaceId) (krediBorcu p userId workspaceId) := by
  rw [kokpitRakamlari]
  simp only [hhata, Bool.false_eq_true, if_false]
  exact ⟨_, rfl, rfl⟩

/-- The cockpit recommends a payment onto the card exactly if nothing is more urgent and the cash is idle. -/
theorem sonrakiEylem_firsat (hr : kokpitRakamlari safeDebtBuffer p userId workspaceId today = .ok r) :
    (sonrakiEylem p userId workspaceId today d r = some e ∧ e.tip = .firsat) ↔
      e = firsatEylemi (eylemGirdisi p userId workspaceId today d r) ∧ FirsatVar p userId workspaceId today := by
  rw [sonrakiEylem, recommendNextAction_firsat]
  refine and_congr_right fun _ => ?_
  simp only [eylemGirdisi]
  rw [kokpitUyarilari_sessiz_iff, alacakYok_iff, crunchDates_eq_nil]
  obtain ⟨hatanmamis, hkart⟩ := kokpitRakamlari_ok hr
  have hbosta : nakitBosta (eylemGirdisi p userId workspaceId today d r) = true ↔
      idleCashActionMin ≤ roundEven (nakitToplami p.db userId workspaceId - zarfTaahhudu p userId workspaceId today) 2 ∧
        0 < roundEven (kartBorcu p userId workspaceId) 2 ∧
        ∀ gun ∈ calculateCashRunway p userId workspaceId today.monthDay (nakitToplami p.db userId workspaceId), 30 ≤ gun := by
    simp only [nakitBosta, eylemGirdisi, hatanmamis, hkart, decide_eq_true_eq, Option.all_eq_true]
    rfl
  constructor
  · rintro ⟨⟨hborc, hkriz⟩, halacak, hidle⟩
    obtain ⟨hidle, hkartli, hyeter⟩ := hbosta.mp hidle
    exact ⟨hborc, halacak, hkriz, hidle, hkartli, hyeter⟩
  · intro h
    exact ⟨⟨h.borcYok, h.krizYok⟩, h.alacakYok, hbosta.mpr ⟨h.bosta, h.kart, h.yeter⟩⟩

theorem tutar_firsatEylemi (hr : kokpitRakamlari safeDebtBuffer p userId workspaceId today = .ok r) :
    (firsatEylemi (eylemGirdisi p userId workspaceId today d r)).tutar =
      some (min (roundEven (nakitToplami p.db userId workspaceId - zarfTaahhudu p userId workspaceId today) 2)
        (roundEven (kartBorcu p userId workspaceId) 2)) := by
  obtain ⟨hatanmamis, hkart⟩ := kokpitRakamlari_ok hr
  simp only [firsatEylemi, eylemGirdisi, hatanmamis, hkart]
  rw [roundEven_min, roundEven_idem, roundEven_idem]

/-- What the menu has room for without a buffer, where no balance of the forecast is negative. -/
theorem tamponsuzOdenir_iff {tutar : ℚ} (hbuf : 0 ≤ safeDebtBuffer) (hpos : 0 < tutar)
    (hdusuk : 0 ≤ enDusukNakit p userId workspaceId today) : TamponsuzOdenir tutar
      (buildSafeDebtPaymentScenarios (generateForecast p userId workspaceId 90 none .hepsi 0 today).summary
        safeDebtBuffer (kartBorcu p userId workspaceId) (krediBorcu p userId workspaceId)) ↔
    tutar ≤ roundEven (enDusukNakit p userId workspaceId today) 2 ∧
      tutar ≤ roundEven (kartBorcu p userId workspaceId + krediBorcu p userId workspaceId) 2 := by
  have hnegatifDegil : 0 ≤ roundEven (enDusukNakit p userId workspaceId today) 2 := roundEven_nonneg hdusuk 2
  have hcap (t : ℚ) (ht : 0 ≤ t) : roundEven (min (roundEven (max 0 (roundEven (enDusukNakit p userId workspaceId today) 2 - t)) 2)
      (kartBorcu p userId workspaceId + krediBorcu p userId workspaceId)) 2 ≤
      min (roundEven (enDusukNakit p userId workspaceId today) 2)
        (roundEven (kartBorcu p userId workspaceId + krediBorcu p userId workspaceId) 2) := by
    rw [roundEven_min, roundEven_idem]
    refine min_le_min_right _ ?_
    have hle : max 0 (roundEven (enDusukNakit p userId workspaceId today) 2 - t) ≤
        roundEven (enDusukNakit p userId workspaceId today) 2 := max_le hnegatifDegil (by linarith)
    exact (roundEven_mono hle 2).trans (roundEven_idem _ 2).le
  have hsifir : roundEven (min (roundEven (max 0 (roundEven (enDusukNakit p userId workspaceId today) 2 - 0)) 2)
      (kartBorcu p userId workspaceId + krediBorcu p userId workspaceId)) 2 =
      min (roundEven (enDusukNakit p userId workspaceId today) 2)
        (roundEven (kartBorcu p userId workspaceId + krediBorcu p userId workspaceId) 2) := by
    rw [sub_zero, max_eq_right hnegatifDegil, roundEven_min, roundEven_idem, roundEven_idem]
  unfold buildSafeDebtPaymentScenarios
  dsimp only
  rw [← le_min_iff]
  split
  · next hborc =>
    refine iff_of_false (fun h => h) fun hle => ?_
    have hnegatif := (hle.trans (min_le_right _ _)).trans (roundEven_mono hborc 2)
    rw [roundEven_zero] at hnegatif
    linarith
  · simp only [TamponsuzOdenir, calculateSafeDebtPayment, summary_lowestBalance]
    constructor
    · rintro ⟨s, hs, -, hle⟩
      obtain ⟨t, ht, rfl⟩ := List.mem_map.mp hs
      refine hle.trans (hcap t ?_)
      simp only [List.mem_mergeSort, List.mem_dedup, List.mem_cons, List.not_mem_nil, or_false] at ht
      rcases ht with rfl | rfl | rfl
      · exact le_refl _
      · exact hbuf
      · norm_num
    · intro hle
      refine ⟨_, List.mem_map_of_mem (show (0 : ℚ) ∈ _ by simp), roundEven_zero 2, ?_⟩
      rw [hsifir]
      exact hle

/-- Where a payment is recommended, no balance of the forecast is negative, that of today included. -/
theorem FirsatVar.enDusukNakit_nonneg (h : FirsatVar p userId workspaceId today) :
    0 ≤ enDusukNakit p userId workspaceId today := by
  have hzarf : 0 ≤ zarfTaahhudu p userId workspaceId today := by
    apply List.sum_nonneg
    intro x hx
    obtain ⟨y, -, rfl⟩ := List.mem_map.mp hx
    exact le_max_left 0 y
  have hbosta := h.bosta
  have hyuvarlak := abs_le.mp
    (abs_roundEven_sub_le (nakitToplami p.db userId workspaceId - zarfTaahhudu p userId workspaceId today) 2)
  rw [idleCashActionMin] at hbosta
  norm_num at hyuvarlak
  rw [enDusukNakit, le_foldr_min, List.forall_mem_cons]
  exact ⟨by linarith, h.krizYok⟩

end Figures

/-- Whatever the other sections hold, an idle-cash payment that the cockpit recommends is one that its menu has
room for without a buffer. -/
def IlkAdimGuvenli (safeDebtBuffer : ℚ) (p : PanelDb) (userId : ℕ) (workspaceId : Option ℕ) (today : Date) : Prop :=
  ∀ r d e, kokpitRakamlari safeDebtBuffer p userId workspaceId today = .ok r →
    sonrakiEylem p userId workspaceId today d r = some e → e.tip = .firsat →
    ∃ tutar, e.tutar = some tutar ∧ TamponsuzOdenir tutar r.guvenliBorcOdemesi

/-- The envelopes hold back what the movements take at their deepest, or what they leave covers the cards; and
the loans do not stand in credit by more than the payment leaves of the card debt. -/
def IlkAdimKosulu (nakit zarf dusus kart kredi : ℚ) : Prop :=
  (roundEven (nakit - zarf) 2 ≤ roundEven (nakit - dusus) 2 ∨ roundEven kart 2 ≤ roundEven (nakit - dusus) 2) ∧
    (roundEven (nakit - zarf) 2 ≤ roundEven (kart + kredi) 2 ∨ roundEven kart 2 ≤ roundEven (kart + kredi) 2)

/-- An instance of the sections that the first step only quotes. -/
def bosBolumler : DigerBolumler := ⟨⟨[], [], none, [], ⟨"", ""⟩⟩, 0, none⟩

/-- The recommended payment is a safe one exactly where none is recommended, or where the envelopes hold back
what the coming movements take, or the cards are covered behind them. -/
theorem first_step_safe_iff {safeDebtBuffer : ℚ} (hbuf : 0 ≤ safeDebtBuffer) (p : PanelDb) (userId : ℕ)
    (workspaceId : Option ℕ) (today : Date) : IlkAdimGuvenli safeDebtBuffer p userId workspaceId today ↔
      turHatasi p userId workspaceId today.monthDay = true ∨ ¬ FirsatVar p userId workspaceId today ∨
        IlkAdimKosulu (nakitToplami p.db userId workspaceId) (zarfTaahhudu p userId workspaceId today)
          (enDerinDusus p userId workspaceId today) (kartBorcu p userId workspaceId) (krediBorcu p userId workspaceId) := by
  cases hhata : turHatasi p userId workspaceId today.monthDay with
  | true =>
    refine iff_of_true (fun r d e hr => ?_) (.inl rfl)
    simp [kokpitRakamlari, hhata] at hr
  | false =>
    by_cases hfirsat : FirsatVar p userId workspaceId today
    · obtain ⟨r, hr, hmenu⟩ := kokpit_menusu safeDebtBuffer hhata
      have hpos : 0 < min (roundEven (nakitToplami p.db userId workspaceId - zarfTaahhudu p userId workspaceId today) 2)
          (roundEven (kartBorcu p userId workspaceId) 2) := by
        have hbosta := hfirsat.bosta
        rw [idleCashActionMin] at hbosta
        exact lt_min (by linarith) hfirsat.kart
      have hoda := tamponsuzOdenir_iff hbuf hpos hfirsat.enDusukNakit_nonneg
      rw [enDusukNakit_eq, min_le_iff, min_le_iff] at hoda
      simp only [hfirsat, not_true, false_or, Bool.false_eq_true]
      rw [IlkAdimKosulu, ← hoda, ← hmenu]
      constructor
      · intro h
        obtain ⟨hs, htip⟩ := (@sonrakiEylem_firsat p userId workspaceId today bosBolumler _ r _ hr).mpr ⟨rfl, hfirsat⟩
        obtain ⟨tutar, htutar, hodenir⟩ := h r bosBolumler _ hr hs htip
        rw [tutar_firsatEylemi hr] at htutar
        rw [Option.some.inj htutar]
        exact hodenir
      · intro hodenir r' d e hr' hs htip
        obtain rfl : r = r' := Except.ok.inj (hr.symm.trans hr')
        obtain ⟨rfl, -⟩ := (sonrakiEylem_firsat hr).mp ⟨hs, htip⟩
        exact ⟨_, tutar_firsatEylemi hr, hodenir⟩
    · refine iff_of_true (fun r d e hr hs htip => ?_) (.inr (.inl hfirsat))
      exact absurd ((sonrakiEylem_firsat hr).mp ⟨hs, htip⟩).2 hfirsat

/-- 1000 lira of cash, 1000 lira on a card, and 600 lira that are to be paid back in ten days. -/
def senetliDb : PanelDb where
  db := { Db.empty with
    accounts := (Table.empty.push
      ⟨1, none, "Kasa", .cash, 1000, none, none, none, none, none, none, none, false⟩).push
      ⟨1, none, "Kart", .creditCard, 1000, none, none, none, none, none, none, none, false⟩
    debts := Table.empty.push ⟨1, none, "Ayşe", .payable, 600, none, Date.ofYmd? 2026 6 5, false, none, none⟩ }
  hesapEki := fun _ => ⟨none, none, none, none⟩
  envelopes := .empty

def senetGunu : Date := (Date.ofYmd? 2026 5 26).get rfl

theorem first_step_safe_iff_senetliDb : IlkAdimGuvenli 2000 senetliDb 1 none senetGunu ↔
    turHatasi senetliDb 1 none senetGunu.monthDay = true ∨ ¬ FirsatVar senetliDb 1 none senetGunu ∨
      IlkAdimKosulu (nakitToplami senetliDb.db 1 none) (zarfTaahhudu senetliDb 1 none senetGunu)
        (enDerinDusus senetliDb 1 none senetGunu) (kartBorcu senetliDb 1 none) (krediBorcu senetliDb 1 none) :=
  first_step_safe_iff (by norm_num) senetliDb 1 none senetGunu

/-- The whole cash is recommended for the card, although the debt of the next days needs 600 lira of it. -/
theorem recommended_payment_overdrew : enDusukNakit senetliDb 1 none senetGunu = 400 ∧
    ¬ IlkAdimGuvenli 2000 senetliDb 1 none senetGunu := by
  have hdusuk : enDusukNakit senetliDb 1 none senetGunu = 400 := by decide +kernel
  refine ⟨hdusuk, fun h => ?_⟩
  have hfirsat : FirsatVar senetliDb 1 none senetGunu :=
    ⟨by decide +kernel, by decide +kernel, by decide +kernel, by decide +kernel, by decide +kernel, by decide +kernel⟩
  have hhata : turHatasi senetliDb 1 none senetGunu.monthDay = false := by decide +kernel
  obtain ⟨r, hr, hmenu⟩ := kokpit_menusu 2000 hhata
  obtain ⟨hs, htip⟩ := (@sonrakiEylem_firsat senetliDb 1 none senetGunu bosBolumler 2000 r _ hr).mpr ⟨rfl, hfirsat⟩
  obtain ⟨tutar, htutar, hodenir⟩ := h r bosBolumler _ hr hs htip
  have hbin : tutar = 1000 := by
    rw [tutar_firsatEylemi hr] at htutar
    rw [← Option.some.inj htutar]
    decide +kernel
  rw [hmenu, tamponsuzOdenir_iff (by norm_num) (by rw [hbin]; norm_num) (by rw [hdusuk]; norm_num), hdusuk, hbin] at hodenir
  have hyuvarlak : roundEven 400 2 = 400 := by decide +kernel
  rw [hyuvarlak] at hodenir
  norm_num at hodenir

end FinancialOs.Guarantees
