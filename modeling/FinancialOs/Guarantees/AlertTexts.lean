import FinancialOs.Guarantees.FirstStep
import FinancialOs.Rules.CockpitScans
import FinancialOs.Rules.CoachText

/-! Which names the alerts and the recommended step quote, and that these decide whether their texts stay on one
line. -/
namespace FinancialOs.Guarantees
open Library Store Rules

def UyariTekSatir (a : Uyari) : Prop := TekSatirli a.baslik ∧ TekSatirli a.mesaj

/-- The alert of a payment that takes more than half of the cash within seven days. -/
def buyukOdemeUyarisi (nakit : ℚ) (o : YaklasanOdeme) : Uyari :=
  ⟨.uyari, "7 gün içinde büyük ödeme: " ++ o.ad, gunMetni o.tarih ++ " tarihinde " ++ formatPara o.tutar 2 ++
    " — nakitin %" ++ toString (nearestEven (o.tutar / max nakit 1 * 100)) ++ "'i.", none⟩

/-- The name that an alert quotes. -/
inductive Alinti (p : PanelDb) (userId : ℕ) (workspaceId : Option ℕ) (today : Date) (t : Taramalar) :
    Uyari → String → Prop
  | gecikme {d : PersonalDebt × Date} (hd : d ∈ gecikenler p userId workspaceId today) :
    Alinti p userId workspaceId today t (gecikmeUyarisi today d) d.1.counterparty
  | odeme {o : YaklasanOdeme} (ho : o ∈ yaklasanOdemeler p userId workspaceId today.monthDay) :
    Alinti p userId workspaceId today t (buyukOdemeUyarisi (nakitToplami p.db userId workspaceId) o) o.ad
  | abonelik {s : Abonelik} {a : Uyari} (hs : s ∈ t.abonelikler) (ha : a ∈ subscriptionPriceAlerts [s]) :
    Alinti p userId workspaceId today t a s.isim
  | kategori {c : KategoriAsimi} (hc : c ∈ t.asimlar) :
    Alinti p userId workspaceId today t (kategoriAsimUyarisi c) c.kategori
  | tuzak {w : TuzakKarti} {a : Uyari} (hw : t.tuzak = some w) (ha : a ∈ minPaymentTrapAlerts (some w)) :
    Alinti p userId workspaceId today t a w.ad
  | bayat {b : BayatFiyat} {a : Uyari} (hb : b ∈ t.bayatlar.take 3) (ha : a ∈ bayatFiyatAlerts t.bayatlar t.enEskiBayat) :
    Alinti p userId workspaceId today t a b.ad

section
variable {p : PanelDb} {userId : ℕ} {workspaceId : Option ℕ} {today : Date} {t : Taramalar} {reelButce : ℚ}
variable {a : Uyari} {ad : String}

theorem tekSatir_gecikmeUyarisi {d : PersonalDebt × Date} :
    UyariTekSatir (gecikmeUyarisi today d) ↔ TekSatirli d.1.counterparty := by
  rw [gecikmeUyarisi]
  split_ifs
  · constructor
    · exact fun h => (tekSatir_append.mp h.1).2
    · exact fun h => ⟨.append (.kod rfl) h, .append (.append (.append (.append (.append h (.kod rfl)) (tekSatir_formatPara _ _)) (.kod rfl))
        (tekSatir_tam _)) (.kod rfl)⟩
  · constructor
    · exact fun h => (tekSatir_append.mp h.1).2
    · exact fun h => ⟨.append (.kod rfl) h, .append (.append (.append (.append (.append h (.kod rfl)) (tekSatir_formatPara _ _)) (.kod rfl))
        (tekSatir_tam _)) (.kod rfl)⟩

theorem tekSatir_krizUyarisi (summary : ForecastSummary) (ilk : MonthDay) : UyariTekSatir (krizUyarisi summary ilk) :=
  ⟨(.kod rfl), .append (.append (.append (.append (.append (.append (.kod rfl) (tekSatir_gunMetni _)) (.kod rfl)) (tekSatir_formatPara _ _))
    (.kod rfl)) (tekSatir_gunMetni _)) (.kod rfl)⟩

theorem tekSatir_buyukOdemeUyarisi {nakit : ℚ} {o : YaklasanOdeme} :
    UyariTekSatir (buyukOdemeUyarisi nakit o) ↔ TekSatirli o.ad := by
  constructor
  · exact fun h => (tekSatir_append.mp h.1).2
  · exact fun h => ⟨.append (.kod rfl) h, .append (.append (.append (.append (.append (tekSatir_gunMetni _) (.kod rfl))
      (tekSatir_formatPara _ _)) (.kod rfl)) (tekSatir_tam _)) (.kod rfl)⟩

/-- Apart from the big payments the general alerts quote nobody. -/
theorem detectAlerts_cases {nakit kart limit : ℚ} {odemeler : List YaklasanOdeme} {gun : MonthDay}
    (h : a ∈ detectAlerts nakit kart limit reelButce odemeler gun) :
    UyariTekSatir a ∨ ∃ o ∈ odemeler, a = buyukOdemeUyarisi nakit o := by
  simp only [detectAlerts, List.mem_append, or_assoc] at h
  rcases h with h | h | h | h
  · left
    split at h
    · cases h
    · split at h
      · rw [List.mem_singleton.mp h]
        exact ⟨(.kod rfl), .append (.append (.append (.append (.kod rfl) (tekSatir_sabitNokta _ _)) (.kod rfl)) (tekSatir_formatPara _ _)) (.kod rfl)⟩
      · split at h
        · rw [List.mem_singleton.mp h]
          exact ⟨(.kod rfl), .append (.append (.kod rfl) (tekSatir_sabitNokta _ _)) (.kod rfl)⟩
        · cases h
  · left
    split at h
    · rw [List.mem_singleton.mp h]
      exact ⟨(.kod rfl), .append (.append (.kod rfl) (tekSatir_formatPara _ _)) (.kod rfl)⟩
    · cases h
  · left
    split at h
    · rw [List.mem_singleton.mp h]
      exact ⟨(.kod rfl), .append (.append (.kod rfl) (tekSatir_formatPara _ _)) (.kod rfl)⟩
    · cases h
  · obtain ⟨o, ho, rfl⟩ := List.mem_map.mp h
    exact .inr ⟨o, (List.mem_filter.mp ho).1, rfl⟩

theorem tekSatir_abonelikUyarisi {s : Abonelik} (ha : a ∈ subscriptionPriceAlerts [s]) :
    UyariTekSatir a ↔ TekSatirli s.isim := by
  obtain ⟨s', hs, rfl⟩ := List.mem_map.mp ha
  obtain rfl := List.mem_singleton.mp (List.mem_filter.mp hs).1
  constructor
  · exact fun h => (tekSatir_append.mp h.1).2
  · exact fun h => ⟨.append (.kod rfl) h, .append (.append (.append (.append (.append (.append (.append h (.kod rfl))
      (tekSatir_trSayi _ _)) (.kod rfl)) (tekSatir_formatPara _ _)) (.kod rfl)) (tekSatir_sabitNokta _ _)) (.kod rfl)⟩

theorem tekSatir_kategoriAsimUyarisi {c : KategoriAsimi} (hlabel : TekSatirli c.refLabel) :
    UyariTekSatir (kategoriAsimUyarisi c) ↔ TekSatirli c.kategori := by
  constructor
  · exact fun h => (tekSatir_append.mp h.1).2
  · exact fun h => ⟨.append (.kod rfl) h, .append (.append (.append (.append (.append (.append (.append (.append (.append h (.kod rfl))
      (tekSatir_formatPara _ _)) (.kod rfl)) hlabel) (.kod rfl)) (tekSatir_formatPara _ _)) (.kod rfl)) (tekSatir_sabitNokta _ _)) (.kod rfl)⟩

theorem tekSatir_tarihVeyaNone (d : Option Date) : TekSatirli ((d.map Date.isoformat).getD "None") := by
  cases d with
  | none => exact (.kod rfl)
  | some d => exact tekSatir_isoformat d

set_option maxRecDepth 2000 in
theorem tekSatir_tuzakUyarisi {w : TuzakKarti} (ha : a ∈ minPaymentTrapAlerts (some w)) :
    UyariTekSatir a ↔ TekSatirli w.ad := by
  rw [minPaymentTrapAlerts] at ha
  split_ifs at ha
  · rw [List.mem_singleton.mp ha]
    constructor
    · exact fun h => (tekSatir_append.mp h.2).1
    · exact fun h => ⟨(.kod rfl), .append h (.kod rfl)⟩
  · rw [List.mem_singleton.mp ha]
    constructor
    · intro h
      simp only [UyariTekSatir, tekSatir_append, and_assoc] at h
      exact h.2.1
    · exact fun h => ⟨(.kod rfl), .append (.append (.append (.append (.append (.append (.append h (.kod rfl)) (tekSatir_dogal _)) (.kod rfl))
        (tekSatir_formatPara _ _)) (.kod rfl)) (tekSatir_tarihVeyaNone _)) (.kod rfl)⟩
  · cases ha

/-- Names in a row are on one line exactly when each of them is. -/
theorem tekSatir_intercalate {ayrac : String} (hayrac : TekSatirli ayrac) (adlar : List String) :
    TekSatirli (ayrac.intercalate adlar) ↔ ∀ ad ∈ adlar, TekSatirli ad := by
  induction adlar with
  | nil =>
    rw [String.intercalate_nil]
    exact iff_of_true (.kod rfl) (List.forall_mem_nil _)
  | cons ad adlar ih =>
    cases adlar with
    | nil => rw [String.intercalate_singleton, List.forall_mem_singleton]
    | cons ad' adlar =>
      rw [String.intercalate_cons_cons, tekSatir_append, tekSatir_append, ih, List.forall_mem_cons (a := ad),
        and_iff_left hayrac]

set_option maxRecDepth 2000 in
theorem tekSatir_bayatUyarisi (hyas : TekSatirli t.enEskiBayat.yas) (ha : a ∈ bayatFiyatAlerts t.bayatlar t.enEskiBayat) :
    UyariTekSatir a ↔ ∀ b ∈ t.bayatlar.take 3, TekSatirli b.ad := by
  rw [bayatFiyatAlerts] at ha
  split_ifs at ha
  · cases ha
  · rw [List.mem_singleton.mp ha, ← List.forall_mem_map, ← @tekSatir_intercalate ", " (.kod rfl)]
    constructor
    · intro h
      simp only [UyariTekSatir, tekSatir_append, and_assoc] at h
      exact h.2.1
    · exact fun h => ⟨(.kod rfl), .append (.append (.append h (.kod rfl)) hyas) (.kod rfl)⟩

/-- What the scans themselves write is on one line. -/
def TaramaTekSatir (t : Taramalar) : Prop := TekSatirli t.enEskiBayat.yas ∧ ∀ c ∈ t.asimlar, TekSatirli c.refLabel

/-- An alert on one line quotes a name on one line. -/
theorem tekSatir_of_alinti (ht : TaramaTekSatir t) (h : Alinti p userId workspaceId today t a ad) (ha : UyariTekSatir a) :
    TekSatirli ad := by
  cases h with
  | gecikme => exact tekSatir_gecikmeUyarisi.mp ha
  | odeme => exact tekSatir_buyukOdemeUyarisi.mp ha
  | abonelik hs hmem => exact (tekSatir_abonelikUyarisi hmem).mp ha
  | kategori hc => exact (tekSatir_kategoriAsimUyarisi (ht.2 _ hc)).mp ha
  | tuzak hw hmem => exact (tekSatir_tuzakUyarisi hmem).mp ha
  | bayat hb hmem => exact (tekSatir_bayatUyarisi ht.1 hmem).mp ha _ hb

/-- Nothing but the names an alert quotes breaks its line. -/
theorem uyariTekSatir_of_alinti (ht : TaramaTekSatir t) (ha : a ∈ tumUyarilar p userId workspaceId today t reelButce)
    (had : ∀ ad, Alinti p userId workspaceId today t a ad → TekSatirli ad) : UyariTekSatir a := by
  have hgecikme (h : a ∈ collectOverdueDebts p userId workspaceId today) : UyariTekSatir a := by
    obtain ⟨d, hd, rfl⟩ := List.mem_map.mp h
    exact tekSatir_gecikmeUyarisi.mpr (had _ (.gecikme hd))
  rw [tumUyarilar, List.mem_mergeSort] at ha
  simp only [List.mem_append, or_assoc] at ha
  rcases ha with ha | ha | ha | ha | ha | ha | ha | ha
  · exact hgecikme (List.mem_filter.mp ha).1
  · rw [crunchAlertFromSummary] at ha
    split at ha
    · cases ha
    · rw [List.mem_singleton.mp ha]
      exact tekSatir_krizUyarisi _ _
  · rcases detectAlerts_cases ha with h | ⟨o, ho, rfl⟩
    · exact h
    · exact tekSatir_buyukOdemeUyarisi.mpr (had _ (.odeme ho))
  · exact hgecikme (List.mem_filter.mp ha).1
  · obtain ⟨s, hs, hmem⟩ := List.mem_map.mp ha
    obtain ⟨hs, hzam⟩ := List.mem_filter.mp hs
    have hmem : a ∈ subscriptionPriceAlerts [s] :=
      List.mem_map.mpr ⟨s, List.mem_filter.mpr ⟨List.mem_singleton_self s, hzam⟩, hmem⟩
    exact (tekSatir_abonelikUyarisi hmem).mpr (had _ (.abonelik hs hmem))
  · obtain ⟨c, hc, rfl⟩ := List.mem_map.mp ha
    have hc := List.mem_mergeSort.mp (List.mem_of_mem_take hc)
    exact (tekSatir_kategoriAsimUyarisi (ht.2 c hc)).mpr (had _ (.kategori hc))
  · cases hw : t.tuzak with
    | none =>
      rw [hw] at ha
      cases ha
    | some w =>
      rw [hw] at ha
      exact (tekSatir_tuzakUyarisi ha).mpr (had _ (.tuzak hw ha))
  · exact (tekSatir_bayatUyarisi ht.1 ha).mpr fun b hb => had _ (.bayat hb ha)

theorem mem_tumUyarilar (ha : a ∈ kokpitUyarilari p userId workspaceId today t reelButce) :
    a ∈ tumUyarilar p userId workspaceId today t reelButce := by
  rw [kokpitUyarilari] at ha
  rcases List.mem_append.mp ha with h | h
  · exact (List.mem_filter.mp h).1
  · exact (List.mem_filter.mp (List.mem_of_mem_take h)).1

/-- The alerts that are shown stay on one line exactly when the names they quote do. -/
theorem uyarilar_tekSatir_iff (ht : TaramaTekSatir t) :
    (∀ a ∈ kokpitUyarilari p userId workspaceId today t reelButce, UyariTekSatir a) ↔
      ∀ a ∈ kokpitUyarilari p userId workspaceId today t reelButce, ∀ ad,
        Alinti p userId workspaceId today t a ad → TekSatirli ad := by
  constructor
  · exact fun h a ha ad had => tekSatir_of_alinti ht had (h a ha)
  · exact fun h a ha => uyariTekSatir_of_alinti ht (mem_tumUyarilar ha) (h a ha)

end

section Step
variable {c : EylemGirdisi} {e : SonrakiEylem} {er : GecikenAlacak}

def EylemTekSatir (e : SonrakiEylem) : Prop := TekSatirli e.eylem ∧ TekSatirli e.gerekce

theorem tekSatir_tahsilEt : TekSatirli (tahsilEt er) ↔ TekSatirli er.kim := by
  constructor
  · intro h
    simp only [tahsilEt, tekSatir_append, and_assoc] at h
    exact h.1
  · exact fun h => .append (.append (.append h (.kod rfl)) (tekSatir_formatPara _ _)) (.kod rfl)

theorem tekSatir_krizEylemi {crunch : Uyari} (hcrunch : UyariTekSatir crunch) {er : Option GecikenAlacak} :
    EylemTekSatir (krizEylemi crunch er) ↔ ∀ k ∈ er, TekSatirli k.kim := by
  cases er with
  | none => exact iff_of_true ⟨(.kod rfl), hcrunch.2⟩ fun k hk => by cases hk
  | some er =>
    constructor
    · intro h k hk
      obtain rfl := Option.some.inj hk
      exact tekSatir_tahsilEt.mp h.1
    · intro h
      exact ⟨tekSatir_tahsilEt.mpr (h er rfl), .append (.append (.append (.kod rfl) (tekSatir_tam _)) (.kod rfl)) hcrunch.2⟩

theorem tekSatir_firsatEylemi : EylemTekSatir (firsatEylemi c) := by
  refine ⟨.append (.append (.kod rfl) (tekSatir_formatPara _ _)) (.kod rfl),
    .append (.append (.append (.append (tekSatir_formatPara _ _) (.kod rfl)) (tekSatir_formatPara _ _)) (.kod rfl)) ?_⟩
  split_ifs
  · exact .append (.append (.kod rfl) (tekSatir_formatPara _ _)) (.kod rfl)
  · exact (.kod rfl)

theorem tekSatir_stabilEylemi : EylemTekSatir (stabilEylemi c) := by
  refine ⟨(.kod rfl), .append (.append (.append (.kod rfl) (tekSatir_formatPara _ _)) (.kod rfl)) ?_⟩
  split
  · exact .append (.append (.kod rfl) (tekSatir_isoformat _)) (.kod rfl)
  · exact (.kod rfl)

theorem tekSatir_firsatVeyaStabil (he : e ∈ recommendNextAction.firsatVeyaStabil c) : EylemTekSatir e := by
  rw [recommendNextAction.firsatVeyaStabil] at he
  split_ifs at he
  · obtain rfl := Option.some.inj he
    exact tekSatir_firsatEylemi
  · obtain rfl := Option.some.inj he
    exact tekSatir_stabilEylemi
  · cases he

/-- The step quotes, besides the alerts, who owes the oldest receivable, unless a debt is overdue. -/
theorem eylem_tekSatir_iff (ha : ∀ a ∈ c.alerts, UyariTekSatir a)
    (hadet : ∀ ay ∈ c.alacakYaslanma, ay.enRiskli ≠ [] → 0 < ay.gecikmisAdet) :
    (∀ e ∈ recommendNextAction c, EylemTekSatir e) ↔
      ((∀ a ∈ c.alerts, a.seviye = .kritik → borcGecikmisMi a = false) →
        ∀ er ∈ c.alacakYaslanma.bind fun ay => ay.enRiskli.head?, TekSatirli er.kim) := by
  rw [← kritik_yok_iff]
  unfold recommendNextAction
  dsimp only
  cases hborc : (c.alerts.filter fun a => a.seviye = .kritik).find? borcGecikmisMi with
  | some borc =>
    refine iff_of_true ?_ fun h => by cases h
    rintro e he
    obtain rfl := Option.some.inj he
    exact ha borc (List.mem_filter.mp (List.mem_of_find?_eq_some hborc)).1
  | none =>
    rw [imp_iff_right rfl]
    cases hkriz : (c.alerts.filter fun a => a.seviye = .kritik).find? krizMi with
    | some crunch =>
      have hcrunch := ha crunch (List.mem_filter.mp (List.mem_of_find?_eq_some hkriz)).1
      rw [← tekSatir_krizEylemi hcrunch]
      constructor
      · exact fun h => h _ rfl
      · intro h e he
        rw [← Option.some.inj he]
        exact h
    | none =>
      cases hay : c.alacakYaslanma with
      | none => exact iff_of_true (fun e he => tekSatir_firsatVeyaStabil he) fun er her => by cases her
      | some ay =>
        cases hliste : ay.enRiskli with
        | nil =>
          simp only [Option.bind_some, hliste, List.head?_nil]
          exact iff_of_true (fun e he => tekSatir_firsatVeyaStabil he) fun er her => by cases her
        | cons er kalan =>
          simp only [Option.bind_some, Option.map_some, Option.getD_some, hliste, List.head?_cons]
          rw [if_pos (hadet ay hay (by rw [hliste]; exact List.cons_ne_nil er kalan))]
          constructor
          · intro h k hk
            rw [← Option.some.inj hk]
            exact tekSatir_tahsilEt.mp (h _ rfl).1
          · intro h e he
            rw [← Option.some.inj he]
            exact ⟨tekSatir_tahsilEt.mpr (h er rfl), .append (.append (.append (.append (.append (tekSatir_dogal _) (.kod rfl))
              (tekSatir_formatPara _ _)) (.kod rfl)) (tekSatir_tam _)) (.kod rfl)⟩

variable {p : PanelDb} {userId : ℕ} {workspaceId : Option ℕ} {today : Date} {d : DigerBolumler} {r : KokpitRakamlari}

/-- The receivable that is overdue the longest. -/
def enEskiAlacak (p : PanelDb) (userId : ℕ) (workspaceId : Option ℕ) (today : Date) : Option GecikenAlacak :=
  ((gecikenAlacaklar p userId workspaceId today).mergeSort fun a b => b.gecikmeGun ≤ a.gecikmeGun).head?

theorem enRiskli_head : ((calculateReceivablesAging p userId workspaceId today).bind fun ay => ay.enRiskli.head?) =
    enEskiAlacak p userId workspaceId today := by
  rw [calculateReceivablesAging, enEskiAlacak]
  split_ifs with hyok
  · rw [gecikenAlacaklar, hyok, List.filterMap_nil, List.mergeSort_nil]
    rfl
  · rw [Option.bind_some, List.head?_take]
    rfl

theorem gecikmisAdet_pos : ∀ ay ∈ calculateReceivablesAging p userId workspaceId today, ay.enRiskli ≠ [] →
    0 < ay.gecikmisAdet := by
  intro ay hay hne
  rw [calculateReceivablesAging] at hay
  split_ifs at hay
  · cases hay
  · rw [← Option.some.inj hay] at hne ⊢
    refine List.length_pos_of_ne_nil fun hnil => hne ?_
    dsimp only
    rw [hnil, List.mergeSort_nil, List.take_nil]

/-- No debt is overdue exactly when no critical alert says so. -/
theorem gecikmisBorc_yok_iff {t : Taramalar} {reelButce : ℚ} :
    (∀ a ∈ kokpitUyarilari p userId workspaceId today t reelButce, a.seviye = .kritik → borcGecikmisMi a = false) ↔
      ∀ x ∈ gecikenler p userId workspaceId today, x.1.direction ≠ .payable := by
  constructor
  · intro h x hx hyon
    obtain ⟨hkritik, hbaslik⟩ := @gecikmeUyarisi_payable today x hyon
    rw [h _ (gecikmeUyarisi_mem hx hyon) hkritik] at hbaslik
    cases hbaslik
  · intro h a ha hk
    rcases kritik_cases ha hk with ⟨x, hx, hyon⟩ | ha | ha
    · exact absurd hyon (h x hx)
    · rw [crunchAlertFromSummary] at ha
      split at ha
      · cases ha
      · rw [List.mem_singleton.mp ha]
        exact (show icerir "Gecikmiş borç".toList "Nakit krizi öngörüsü".toList = false by decide +kernel)
    · exact ha.1

/-- Where the alerts stay on their lines, so does the step, but for the name of who owes the oldest receivable. -/
theorem sonrakiEylem_tekSatir_iff
    (ha : ∀ a ∈ kokpitUyarilari p userId workspaceId today d.taramalar r.reelButce, UyariTekSatir a) :
    (∀ e ∈ sonrakiEylem p userId workspaceId today d r, EylemTekSatir e) ↔
      ((∀ x ∈ gecikenler p userId workspaceId today, x.1.direction ≠ .payable) →
        ∀ er ∈ enEskiAlacak p userId workspaceId today, TekSatirli er.kim) := by
  rw [sonrakiEylem, eylem_tekSatir_iff ha gecikmisAdet_pos, ← gecikmisBorc_yok_iff, ← enRiskli_head]
  exact Iff.rfl

end Step
end FinancialOs.Guarantees
