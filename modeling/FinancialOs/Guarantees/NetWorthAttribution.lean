import FinancialOs.Rules.NetWorthBackfill

/-! The drivers of a change of the net worth: what a snapshot's net worth takes in that none of its parts shows. -/
namespace FinancialOs.Guarantees
open Library Store Rules Routers

/-- How a snapshot comes to be written: by a request for the cockpit, or by the backfill. -/
inductive Yazim where
  | gunluk (c : KokpitDb) (userId : ℕ) (workspaceId : Option ℕ) (today : Date)
  | dolgu (k : GecmisDb) (userId : ℕ) (today targetDate : Date)

/-- What the roundings make of a net worth and of its four parts. -/
def parcaFarki (nakit yatirim kart kredi : ℚ) : ℚ :=
  roundEven (netWorthSeen nakit yatirim kart kredi) 2 -
    netWorthSeen (roundEven nakit 2) (roundEven yatirim 2) (roundEven kart 2) (roundEven kredi 2)

def kokpitFarki (p : PanelDb) (userId : ℕ) (workspaceId : Option ℕ) : ℚ :=
  parcaFarki (nakitToplami p.db userId workspaceId) (yatirimDegeri p userId workspaceId false)
    (kartBorcu p userId workspaceId) (krediBorcu p userId workspaceId)

/-- The unpaid personal debts of a direction, in kuruş. -/
def kisiselToplam (p : PanelDb) (userId : ℕ) (workspaceId : Option ℕ) (direction : DebtDirection) : ℚ :=
  roundEven (odenmemisTutarlar p userId workspaceId direction).sum 2

section Writing
variable (safeDebtBuffer anomalyThreshold : ℚ)

/-- The values that are written. -/
def Yazim.degerler : Yazim → Except PyError SnapshotDegerleri
  | .gunluk c userId workspaceId today => do
    let kokpit ← generateCockpit safeDebtBuffer anomalyThreshold c userId workspaceId today
    return (kokpitOzeti c.panel userId workspaceId kokpit.rakamlar).degerler
  | .dolgu k userId today targetDate => snapshotFor safeDebtBuffer anomalyThreshold k userId today targetDate

end Writing

/-- The personal debts that the net worth subtracts and no driver shows: all of a daily snapshot, those beyond the
receivables of a backfill of today, and none of a past day. -/
def Yazim.gizliBorc : Yazim → ℚ
  | .gunluk c userId workspaceId _ => kisiselToplam c.panel userId workspaceId .payable
  | .dolgu k userId today targetDate =>
    if today.monthDay ≤ targetDate.monthDay then
      max 0 (kisiselToplam k.kokpit.panel userId none .payable - kisiselToplam k.kokpit.panel userId none .receivable)
    else 0

/-- The kuruş by which the roundings of the parts miss that of the net worth. -/
def Yazim.kurusFarki : Yazim → ℚ
  | .gunluk c userId workspaceId _ => kokpitFarki c.panel userId workspaceId
  | .dolgu k userId today targetDate =>
    if today.monthDay ≤ targetDate.monthDay then kokpitFarki k.kokpit.panel userId none
    else
      let t := gecmisToplamlari k userId targetDate
      let seen := roundEven (netWorthSeen t.cash t.investmentValue t.cardDebt t.loanDebt) 2
      parcaFarki t.cash t.investmentValue t.cardDebt t.loanDebt +
        (roundEven (seen + t.receivables) 2 - seen - roundEven t.receivables 2)

/-- What the parts of a snapshot add up to. -/
def parcalar (s : SnapshotDegerleri) : ℚ := netWorthSeen s.cash s.investmentValue s.cardDebt s.loanDebt + s.receivables

/-- Every value of a snapshot that the drivers read is in whole kuruş. -/
structure KurusDegerler (s : SnapshotDegerleri) : Prop where
  netWorthFull : HasPlaces 2 s.netWorthFull
  cash : HasPlaces 2 s.cash
  cardDebt : HasPlaces 2 s.cardDebt
  loanDebt : HasPlaces 2 s.loanDebt
  investmentValue : HasPlaces 2 s.investmentValue
  receivables : HasPlaces 2 s.receivables

section Snapshot
variable {safeDebtBuffer anomalyThreshold : ℚ} {s : SnapshotDegerleri}

theorem max_zero_sub_max_zero_sub (p q : ℚ) : max 0 (p - q) - max 0 (q - p) = p - q := by
  rcases le_total p q with h | h
  · rw [max_eq_left (by linarith), max_eq_right (by linarith)]
    ring
  · rw [max_eq_right (by linarith), max_eq_left (by linarith)]
    ring

/-- The figures of a cockpit as the snapshots read them. -/
structure KokpitFigurleri (p : PanelDb) (userId : ℕ) (workspaceId : Option ℕ) (r : KokpitRakamlari) : Prop where
  nakitKasa : r.nakitKasa = roundEven (nakitToplami p.db userId workspaceId) 2
  yatirimDeger : r.yatirimDeger = roundEven (yatirimDegeri p userId workspaceId false) 2
  kartBorcu : r.kartBorcu = roundEven (Rules.kartBorcu p userId workspaceId) 2
  krediBorcu : r.krediBorcu = roundEven (Rules.krediBorcu p userId workspaceId) 2
  netDeger : r.netDeger = roundEven (netWorthSeen (nakitToplami p.db userId workspaceId)
    (yatirimDegeri p userId workspaceId false) (Rules.kartBorcu p userId workspaceId)
    (Rules.krediBorcu p userId workspaceId)) 2
  netDegerTam : r.netDegerTam =
    r.netDeger + kisiselToplam p userId workspaceId .receivable - kisiselToplam p userId workspaceId .payable

theorem kokpit_figurleri {c : KokpitDb} {userId : ℕ} {workspaceId : Option ℕ} {today : Date} {kokpit : Kokpit}
    (h : generateCockpit safeDebtBuffer anomalyThreshold c userId workspaceId today = .ok kokpit) :
    KokpitFigurleri c.panel userId workspaceId kokpit.rakamlar := by
  simp only [generateCockpit, bind_eq_ok, pure_eq_ok] at h
  obtain ⟨r, hr, _, -, rfl⟩ := h
  unfold kokpitRakamlari at hr
  dsimp only at hr
  split_ifs at hr
  obtain rfl := Except.ok.inj hr
  refine ⟨rfl, rfl, rfl, rfl, rfl, ?_⟩
  -- The sum of kuruş amounts is one, so the rounding of the full net worth does nothing.
  exact roundEven_eq_self.mpr
    (((hasPlaces_roundEven _ 2).add (hasPlaces_roundEven _ 2)).sub (hasPlaces_roundEven _ 2))

/-- The net worth of a snapshot is the sum of its parts, less the debts that they do not show. -/
theorem netWorthFull_eq {y : Yazim} (h : y.degerler safeDebtBuffer anomalyThreshold = .ok s) :
    s.netWorthFull = parcalar s - y.gizliBorc + y.kurusFarki ∧ KurusDegerler s := by
  have hkurus (q : ℚ) := hasPlaces_roundEven q 2
  cases y with
  | gunluk c userId workspaceId today =>
    simp only [Yazim.degerler, bind_eq_ok, pure_eq_ok] at h
    obtain ⟨kokpit, hkokpit, rfl⟩ := h
    obtain ⟨hnakit, hyatirim, hkart, hkredi, hnet, htam⟩ := kokpit_figurleri hkokpit
    simp only [KokpitOzeti.degerler, kokpitOzeti, Yazim.gizliBorc, Yazim.kurusFarki, parcalar, kokpitFarki, parcaFarki]
    rw [htam, hnakit, hyatirim, hkart, hkredi, hnet]
    refine ⟨?_, ⟨((hkurus _).add (hkurus _)).sub (hkurus _), hkurus _, hkurus _, hkurus _, hkurus _, hkurus _⟩⟩
    unfold kisiselToplam
    ring
  | dolgu k userId today targetDate =>
    rw [Yazim.degerler, snapshotFor] at h
    by_cases hgun : today.monthDay ≤ targetDate.monthDay
    · rw [if_pos hgun, bind_eq_ok] at h
      obtain ⟨kokpit, hkokpit, hs⟩ := h
      obtain rfl := Except.ok.inj hs
      obtain ⟨hnakit, hyatirim, hkart, hkredi, hnet, htam⟩ := kokpit_figurleri hkokpit
      have hfark := max_zero_sub_max_zero_sub (kisiselToplam k.kokpit.panel userId none .receivable)
        (kisiselToplam k.kokpit.panel userId none .payable)
      have halacak : kokpit.rakamlar.netDegerTam - kokpit.rakamlar.netDeger =
          kisiselToplam k.kokpit.panel userId none .receivable - kisiselToplam k.kokpit.panel userId none .payable := by
        rw [htam]
        ring
      simp only [bugunDegerleri, Yazim.gizliBorc, Yazim.kurusFarki, if_pos hgun, parcalar, kokpitFarki, parcaFarki]
      rw [halacak, htam, hnakit, hyatirim, hkart, hkredi, hnet]
      refine ⟨by linarith, ⟨((hkurus _).add (hkurus _)).sub (hkurus _), hkurus _, hkurus _, hkurus _, hkurus _,
        hasPlaces_zero.max ((hkurus _).sub (hkurus _))⟩⟩
    · rw [if_neg hgun] at h
      obtain rfl := Except.ok.inj h
      simp only [GecmisToplamlari.degerler, Yazim.gizliBorc, Yazim.kurusFarki, if_neg hgun, parcalar, parcaFarki,
        netWorthFull, sub_zero]
      refine ⟨by ring, ⟨hkurus _, hkurus _, hkurus _, hkurus _, hkurus _, hkurus _⟩⟩

/-- The drivers of a change between kuruş amounts: no rounding touches them. -/
theorem suruculer_sum {ref latest : NetWorthSnapshot} (href : KurusDegerler ref.degerler)
    (hlatest : KurusDegerler latest.degerler) :
    ((ayristir ref latest).suruculer.map DegisimSurucusu.katki).sum = parcalar latest.degerler - parcalar ref.degerler ∧
      (ayristir ref latest).degisim = latest.degerler.netWorthFull - ref.degerler.netWorthFull := by
  refine ⟨?_, roundEven_eq_self.mpr (hlatest.netWorthFull.sub href.netWorthFull)⟩
  unfold ayristir
  dsimp only
  rw [((List.mergeSort_perm _ _).map DegisimSurucusu.katki).sum_eq,
    roundEven_eq_self.mpr (hlatest.cash.sub href.cash), roundEven_eq_self.mpr (href.cardDebt.sub hlatest.cardDebt),
    roundEven_eq_self.mpr (href.loanDebt.sub hlatest.loanDebt),
    roundEven_eq_self.mpr (hlatest.investmentValue.sub href.investmentValue),
    roundEven_eq_self.mpr (hlatest.receivables.sub href.receivables)]
  simp only [List.map_cons, List.map_nil, List.sum_cons, List.sum_nil, parcalar, netWorthSeen]
  ring

/-- What the drivers miss of the change is what the hidden debts changed by, up to the roundings. -/
theorem surucu_acigi {y z : Yazim} {ref latest : NetWorthSnapshot}
    (hy : y.degerler safeDebtBuffer anomalyThreshold = .ok ref.degerler)
    (hz : z.degerler safeDebtBuffer anomalyThreshold = .ok latest.degerler) :
    ((ayristir ref latest).suruculer.map DegisimSurucusu.katki).sum - (ayristir ref latest).degisim =
      z.gizliBorc - y.gizliBorc - (z.kurusFarki - y.kurusFarki) := by
  obtain ⟨hfull, hkurus⟩ := netWorthFull_eq hy
  obtain ⟨hfull', hkurus'⟩ := netWorthFull_eq hz
  obtain ⟨hsum, hdegisim⟩ := suruculer_sum hkurus hkurus'
  rw [hsum, hdegisim, hfull, hfull']
  ring

theorem abs_parcaFarki_le (nakit yatirim kart kredi : ℚ) : |parcaFarki nakit yatirim kart kredi| ≤ 5 / 200 := by
  have htoplam := abs_le.mp (abs_roundEven_sub_le (netWorthSeen nakit yatirim kart kredi) 2)
  have hnakit := abs_le.mp (abs_roundEven_sub_le nakit 2)
  have hyatirim := abs_le.mp (abs_roundEven_sub_le yatirim 2)
  have hkart := abs_le.mp (abs_roundEven_sub_le kart 2)
  have hkredi := abs_le.mp (abs_roundEven_sub_le kredi 2)
  norm_num at htoplam hnakit hyatirim hkart hkredi
  unfold parcaFarki
  unfold netWorthSeen at htoplam ⊢
  rw [abs_le]
  constructor
  · linarith
  · linarith

/-- The roundings of one snapshot are worth three and a half kuruş at the most. -/
theorem abs_kurusFarki_le (y : Yazim) : |y.kurusFarki| ≤ 7 / 200 := by
  have hparca (nakit yatirim kart kredi : ℚ) := abs_parcaFarki_le nakit yatirim kart kredi
  cases y with
  | gunluk c userId workspaceId today => exact (hparca _ _ _ _).trans (by norm_num)
  | dolgu k userId today targetDate =>
    rw [Yazim.kurusFarki]
    by_cases hgun : today.monthDay ≤ targetDate.monthDay
    · rw [if_pos hgun]
      exact (hparca _ _ _ _).trans (by norm_num)
    · rw [if_neg hgun]
      dsimp only
      generalize gecmisToplamlari k userId targetDate = t
      generalize roundEven (netWorthSeen t.cash t.investmentValue t.cardDebt t.loanDebt) 2 = seen
      have hfull := abs_le.mp (abs_roundEven_sub_le (seen + t.receivables) 2)
      have hrec := abs_le.mp (abs_roundEven_sub_le t.receivables 2)
      have h := abs_le.mp (hparca t.cash t.investmentValue t.cardDebt t.loanDebt)
      norm_num at hfull hrec
      rw [abs_le]
      constructor
      · linarith
      · linarith

end Snapshot

section Attribution
variable {safeDebtBuffer anomalyThreshold : ℚ} {t : Table NetWorthSnapshot}

theorem mem_snapshotlar {userId : ℕ} {workspaceId : Option ℕ} {r : ℕ × NetWorthSnapshot}
    (h : r ∈ snapshotlar t userId workspaceId) : r ∈ t.rows := by
  rw [snapshotlar, List.mem_mergeSort] at h
  exact (List.mem_filter.mp h).1

/-- What is reported is the change between two of the snapshots. -/
theorem calculateNetworthAttribution_eq_some {userId : ℕ} {workspaceId : Option ℕ} {today : Date} {a : Ayristirma}
    (h : calculateNetworthAttribution t userId workspaceId today = some a) :
    ∃ ref ∈ t.rows, ∃ latest ∈ t.rows, a = ayristir ref.2 latest.2 := by
  rw [calculateNetworthAttribution] at h
  cases hrows : snapshotlar t userId workspaceId with
  | nil => simp [hrows] at h
  | cons latest rest =>
    rw [hrows] at h
    dsimp only at h
    have hlatest : latest ∈ t.rows := mem_snapshotlar (hrows ▸ List.mem_cons_self)
    split at h
    · cases h
    · next ref href =>
      have href : ref ∈ t.rows := mem_snapshotlar (hrows ▸ List.mem_of_find?_eq_some href)
      split at h
      · cases h
      · exact ⟨ref, href, latest, hlatest, (Option.some.inj h).symm⟩

/-- The drivers add up to the reported change, five kuruş apart, exactly if the debts that no driver shows changed
by no more, once the kuruş of the roundings are taken off; these are less than four for each snapshot. -/
theorem drivers_attributed_iff {yazim : ℕ → Yazim}
    (hyazim : ∀ r ∈ t.rows, (yazim r.1).degerler safeDebtBuffer anomalyThreshold = .ok r.2.degerler) :
    (∀ ref ∈ t.rows, ∀ latest ∈ t.rows,
      (|((ayristir ref.2 latest.2).suruculer.map DegisimSurucusu.katki).sum - (ayristir ref.2 latest.2).degisim| ≤ 5 / 100 ↔
        |(yazim latest.1).gizliBorc - (yazim ref.1).gizliBorc -
          ((yazim latest.1).kurusFarki - (yazim ref.1).kurusFarki)| ≤ 5 / 100)) ∧
    (∀ r ∈ t.rows, |(yazim r.1).kurusFarki| ≤ 7 / 200) ∧
    ∀ userId workspaceId today a, calculateNetworthAttribution t userId workspaceId today = some a →
      ∃ ref ∈ t.rows, ∃ latest ∈ t.rows, a = ayristir ref.2 latest.2 := by
  refine ⟨fun ref href latest hlatest => ?_, fun r _ => abs_kurusFarki_le _,
    fun userId workspaceId today a => calculateNetworthAttribution_eq_some⟩
  rw [surucu_acigi (hyazim ref href) (hyazim latest hlatest)]

end Attribution

/-- The day before a debt is entered, and the day on which it has been. -/
def borcOncesi : Date := (Date.ofYmd? 2026 6 10).get rfl

def borcGunu : Date := (Date.ofYmd? 2026 6 11).get rfl

def kasaPaneli (borclar : Table PersonalDebt) : KokpitDb where
  panel := {
    db := { Db.empty with
      accounts := Table.empty.push ⟨1, none, "Kasa", .cash, 1000, none, none, none, none, none, none, none, false⟩
      debts := borclar }
    hesapEki := fun _ => ⟨none, none, none, none⟩
    envelopes := .empty }
  categories := .empty

def borcsuzYazim : Yazim := .gunluk (kasaPaneli .empty) 1 none borcOncesi

/-- Fifty lira are owed to someone. -/
def borcluYazim : Yazim :=
  .gunluk (kasaPaneli (Table.empty.push ⟨1, none, "Ev sahibi", .payable, 50, none, none, false, none, none⟩)) 1 none borcGunu

/-- The row of a snapshot. -/
def yazimKaydi (y : Yazim) (snapshotDate : Date) : NetWorthSnapshot where
  userId := 1
  workspaceId := none
  snapshotDate := snapshotDate
  degerler := match y.degerler 2000 (7 / 5) with
    | .ok s => s
    | .error _ => ⟨0, 0, 0, 0, 0, 0, 0⟩

theorem yazimKaydi_ok {y : Yazim} (h : (y.degerler 2000 (7 / 5)).toOption.isSome = true) (snapshotDate : Date) :
    y.degerler 2000 (7 / 5) = .ok (yazimKaydi y snapshotDate).degerler := by
  unfold yazimKaydi
  cases hy : y.degerler 2000 (7 / 5) with
  | ok s => rfl
  | error e =>
    rw [hy] at h
    cases h

theorem borcsuzYazim_ok : borcsuzYazim.degerler 2000 (7 / 5) = .ok (yazimKaydi borcsuzYazim borcOncesi).degerler :=
  yazimKaydi_ok (by decide +kernel) borcOncesi

theorem borcluYazim_ok : borcluYazim.degerler 2000 (7 / 5) = .ok (yazimKaydi borcluYazim borcGunu).degerler :=
  yazimKaydi_ok (by decide +kernel) borcGunu

/-- A debt of fifty lira that has been entered lowers the net worth, and no driver says so. -/
theorem debt_unattributed : ∃ (y z : Yazim) (ref latest : NetWorthSnapshot),
    y.degerler 2000 (7 / 5) = .ok ref.degerler ∧ z.degerler 2000 (7 / 5) = .ok latest.degerler ∧
      ¬ |((ayristir ref latest).suruculer.map DegisimSurucusu.katki).sum - (ayristir ref latest).degisim| ≤ 5 / 100 := by
  refine ⟨borcsuzYazim, borcluYazim, _, _, borcsuzYazim_ok, borcluYazim_ok, ?_⟩
  rw [surucu_acigi borcsuzYazim_ok borcluYazim_ok]
  decide +kernel

def borcTablosu : Table NetWorthSnapshot :=
  (Table.empty.push (yazimKaydi borcsuzYazim borcOncesi)).push (yazimKaydi borcluYazim borcGunu)

def borcYazimlari (k : ℕ) : Yazim := if k = 1 then borcsuzYazim else borcluYazim

theorem drivers_attributed_borcTablosu :
    (∀ ref ∈ borcTablosu.rows, ∀ latest ∈ borcTablosu.rows,
      (|((ayristir ref.2 latest.2).suruculer.map DegisimSurucusu.katki).sum - (ayristir ref.2 latest.2).degisim| ≤ 5 / 100 ↔
        |(borcYazimlari latest.1).gizliBorc - (borcYazimlari ref.1).gizliBorc -
          ((borcYazimlari latest.1).kurusFarki - (borcYazimlari ref.1).kurusFarki)| ≤ 5 / 100)) ∧
    (∀ r ∈ borcTablosu.rows, |(borcYazimlari r.1).kurusFarki| ≤ 7 / 200) ∧
    ∀ userId workspaceId today a, calculateNetworthAttribution borcTablosu userId workspaceId today = some a →
      ∃ ref ∈ borcTablosu.rows, ∃ latest ∈ borcTablosu.rows, a = ayristir ref.2 latest.2 := by
  refine @drivers_attributed_iff 2000 (7 / 5) borcTablosu borcYazimlari fun r hr => ?_
  rcases List.mem_cons.mp hr with rfl | hr
  · exact borcsuzYazim_ok
  · obtain rfl := List.mem_singleton.mp hr
    exact borcluYazim_ok

end FinancialOs.Guarantees
