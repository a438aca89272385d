import FinancialOs.Guarantees.AlertTexts
import FinancialOs.Rules.CoachContext

/-! What the user wrote in the coach's context: where it breaks a line, and where it begins one. -/
namespace FinancialOs.Guarantees
open Library Store Rules

/-- Nothing the user wrote breaks a line, and a line that begins with '#' is the code's. -/
def BasliklarKodun (b : Baglam) : Prop :=
  (∀ satir ∈ b, ∀ s, Piece.data s ∈ satir.line → ∀ c ∈ s, satirSonuMu c = false) ∧
    ∀ satir ∈ readLines satirSonuMu (baglamMetni b), Genuine (· == '#') satir

def kokpitReelButcesi (p : PanelDb) (userId : ℕ) (workspaceId : Option ℕ) (today : Date) : ℚ :=
  applyShadowAccounting (nakitToplami p.db userId workspaceId) (calculateExpectedIncomeUntilEom p userId workspaceId today).1
    (kartBorcu p userId workspaceId) (roundEven (vadesiGelenTaksitler p userId workspaceId today.monthDay).sum 2)

section Conditions
variable (k : BaglamDb) (userId : ℕ) (workspaceId : Option ℕ) (today : Date) (now : ℤ) (kapsam : Option ℕ)

/-- The debts of the payoff order that are shown, where the section is. -/
def gosterilenBorclar : List AdliBorc :=
  let borclar := cigBorclari k userId kapsam
  let av := calcAvalanche (borclar.map AdliBorc.toDebtItem) 0 today
  if av.monthsToFreedom < maxMonths ∧ av.payoffDate = none then []
  else (av.order.take 6).filterMap fun aid => borclar.find? fun d => d.accountId = aid

def gosterilenUyarilar : List Uyari :=
  kokpitUyarilari k.kokpit.panel userId workspaceId today (taramalar k.kokpit k.oran userId workspaceId today now)
    (kokpitReelButcesi k.kokpit.panel userId workspaceId today)

/-- What the context shows as it was entered is on one line, and no remembered text begins with '#'. -/
structure HamMetinUygun : Prop where
  kategoriler : ∀ t ∈ collectRecentTransactions k.kokpit.panel userId workspaceId, TekSatirli t.kategori
  borclar : ∀ d ∈ gosterilenBorclar k userId today kapsam, TekSatirli d.name
  istekler : ∀ w ∈ (bekleyenIstekler k userId now).take 3, TekSatirli w.item
  uyarilar : ∀ a ∈ gosterilenUyarilar k userId workspaceId today now, ∀ ad,
    Alinti k.kokpit.panel userId workspaceId today (taramalar k.kokpit k.oran userId workspaceId today now) a ad →
      TekSatirli ad
  tahsilat : (∀ d ∈ gecikenler k.kokpit.panel userId workspaceId today, d.1.direction ≠ .payable) →
    ∀ er ∈ enEskiAlacak k.kokpit.panel userId workspaceId today, TekSatirli er.kim
  hafiza : ∀ ins ∈ gosterilenler k userId, (guvenliMetin ins.title 0).toList.head? ≠ some '#' ∧
    (guvenliMetin (some ins.content) 0).toList.head? ≠ some '#'

end Conditions

theorem generateCockpit_ok {safeDebtBuffer anomalyThreshold : ℚ} {c : KokpitDb} {userId : ℕ} {workspaceId : Option ℕ}
    {today : Date} {kokpit : Kokpit} (h : generateCockpit safeDebtBuffer anomalyThreshold c userId workspaceId today = .ok kokpit) :
    kokpit.rakamlar.reelButce = kokpitReelButcesi c.panel userId workspaceId today ∧
      kokpit.sonIslemler = collectRecentTransactions c.panel userId workspaceId := by
  simp only [generateCockpit, bind_eq_ok, pure_eq_ok] at h
  obtain ⟨r, hr, patterns, -, rfl⟩ := h
  refine ⟨?_, rfl⟩
  rw [kokpitRakamlari] at hr
  split_ifs at hr
  obtain rfl := Except.ok.inj hr
  rfl

section Lines
variable {b : HamBolum} {c : Baglam}

/-- No piece of the line breaks it. -/
def Kirilmaz (satir : Satir HamParca) : Prop := ∀ p ∈ satir.line, p.Unbroken satirSonuMu

def BolumKirilmaz (b : HamBolum) : Prop := ∀ satir ∈ b, Kirilmaz satir

theorem parca_unbroken (p : Parca) : p.metin.Unbroken satirSonuMu := by
  cases p with
  | kod t => exact t.tekSatir
  | guvenli metin azami => exact tekSatir_guvenliMetin (some metin) azami

theorem ham_unbroken {metin : String} : (HamParca.ham metin).metin.Unbroken satirSonuMu ↔ TekSatirli metin := Iff.rfl

theorem kirilmaz_kod (t : KodMetni) : Kirilmaz (.kod t) := by
  intro p hp
  rw [List.mem_singleton.mp hp]
  exact t.tekSatir

theorem kirilmaz_girintili {ps : List HamParca} : Kirilmaz (.girintili ps) ↔ ∀ p ∈ ps, p.metin.Unbroken satirSonuMu := by
  rw [Kirilmaz, Satir.line, List.forall_mem_cons, List.forall_mem_map]
  refine and_iff_right fun c hc => ?_
  rcases List.mem_cons.mp hc with rfl | hc
  · rfl
  · rw [List.mem_singleton.mp hc]
    rfl

theorem bolumKirilmaz_append {a : HamBolum} : BolumKirilmaz (a ++ b) ↔ BolumKirilmaz a ∧ BolumKirilmaz b :=
  List.forall_mem_append

theorem bolumKirilmaz_basliklar {baslik : KodMetni} : BolumKirilmaz (basliklar baslik b) ↔ BolumKirilmaz b := by
  rw [BolumKirilmaz, basliklar, List.forall_mem_cons, List.forall_mem_cons, and_iff_right (kirilmaz_kod _),
    and_iff_right (kirilmaz_kod _)]
  exact Iff.rfl

/-- Where everything goes through the sanitiser no line breaks. -/
theorem bolumKirilmaz_temiz (b : Bolum) : BolumKirilmaz (temizBolum b) := by
  rintro satir hsatir
  obtain ⟨s, -, rfl⟩ := List.mem_map.mp hsatir
  cases s with
  | kod t => exact kirilmaz_kod t
  | girintili ps =>
    refine kirilmaz_girintili.mpr fun p hp => ?_
    obtain ⟨q, -, rfl⟩ := List.mem_map.mp hp
    exact parca_unbroken q

theorem bolumKirilmaz_map {α : Type} {l : List α} {f : α → Satir HamParca} :
    BolumKirilmaz (l.map f) ↔ ∀ x ∈ l, Kirilmaz (f x) := List.forall_mem_map

/-- A bound line that begins with '#' is the code's. -/
theorem genuine_bagli (satir : Satir HamParca) : Genuine (· == '#') satir.line.marked := by
  cases satir with
  | kod t =>
    rintro - c hc
    rw [Satir.line, Line.marked, List.flatMap_singleton] at hc
    obtain ⟨d, -, rfl⟩ := List.mem_map.mp hc
    rfl
  | girintili ps =>
    rintro ⟨c, hc, hmark⟩
    rw [Satir.line, Line.marked, List.flatMap_cons] at hc
    obtain rfl := Option.some.inj hc
    cases hmark

theorem genuine_acik_kod (t : KodMetni) : Genuine (· == '#') (BaglamSatiri.line (.acik (.kod t))).marked :=
  genuine_bagli (.kod t)

/-- An open line is the user's, so that it must not begin with '#'. -/
theorem genuine_acik_guvenli {metin : String} {azami : ℕ} :
    Genuine (· == '#') (BaglamSatiri.line (.acik (.guvenli metin azami))).marked ↔
      (guvenliMetin (some metin) azami).toList.head? ≠ some '#' := by
  rw [BaglamSatiri.line, Line.marked, List.flatMap_singleton]
  cases hs : (guvenliMetin (some metin) azami).toList with
  | nil =>
    rw [Parca.metin, hs]
    refine iff_of_true ?_ (by simp)
    rintro ⟨c, hc, -⟩
    cases hc
  | cons d s =>
    rw [Parca.metin, hs]
    constructor
    · intro h hd
      have hmem : (d, false) ∈ (Piece.data (d :: s)).marked := List.mem_cons_self
      have hfalse := h ⟨(d, false), rfl, beq_iff_eq.mpr (Option.some.inj hd)⟩ (d, false) hmem
      cases hfalse
    · rintro h ⟨c, hc, hmark⟩
      obtain rfl := Option.some.inj hc
      exact absurd (congrArg some (beq_iff_eq.mp hmark)) h

/-- The pieces the code writes never break a line, so that the others decide. -/
theorem kirilmaz_iff {satir : Satir HamParca} :
    Kirilmaz satir ↔ ∀ s, Piece.data s ∈ satir.line → ∀ c ∈ s, satirSonuMu c = false := by
  constructor
  · exact fun h s hs => h _ hs
  · intro h p hp
    cases p with
    | data s => exact h s hp
    | code s =>
      cases satir with
      | kod t => exact kirilmaz_kod t _ hp
      | girintili ps =>
        rcases List.mem_cons.mp hp with hs | hp
        · rw [hs]
          exact kirilmaz_girintili.mpr (List.forall_mem_nil _) _ List.mem_cons_self
        · obtain ⟨q, -, hq⟩ := List.mem_map.mp hp
          cases q with
          | temiz q => exact hq ▸ parca_unbroken q
          | ham metin => cases hq

/-- The bound lines must not break, and the open ones must not begin with '#'. -/
theorem basliklarKodun_iff {bos baslik : KodMetni} (hbos : bos.metin.toList = [])
    (hbaslik : ∃ d ∈ baslik.metin.toList.head?, boslukMu d = false) :
    BasliklarKodun (.bagli (.kod bos) :: .bagli (.kod baslik) :: c) ↔
      (∀ satir, .bagli satir ∈ c → Kirilmaz satir) ∧
        ∀ p, .acik p ∈ c → Genuine (· == '#') (BaglamSatiri.acik p).line.marked := by
  obtain ⟨d, hd, hgorunur⟩ := hbaslik
  have hhead : ∃ x ∈ (BaglamSatiri.bagli (.kod baslik)).line.marked.head?, boslukMu x.1 = false := by
    refine ⟨(d, true), ?_, hgorunur⟩
    rw [BaglamSatiri.line, Satir.line, Line.marked, List.flatMap_singleton, Piece.marked, List.head?_map,
      Option.mem_def.mp hd]
    rfl
  have hempty : (BaglamSatiri.bagli (.kod bos)).line.marked = [] := by
    rw [BaglamSatiri.line, Satir.line, Line.marked, List.flatMap_singleton, Piece.marked, hbos, List.map_nil]
  have hkod (t : KodMetni) : ∀ s, Piece.data s ∈ (BaglamSatiri.bagli (.kod t)).line → ∀ d ∈ s, satirSonuMu d = false :=
    kirilmaz_iff.mp (kirilmaz_kod t)
  have hkirilmaz : (∀ satir ∈ BaglamSatiri.bagli (.kod bos) :: .bagli (.kod baslik) :: c,
      ∀ s, Piece.data s ∈ satir.line → ∀ d ∈ s, satirSonuMu d = false) ↔ ∀ satir, .bagli satir ∈ c → Kirilmaz satir := by
    rw [List.forall_mem_cons, List.forall_mem_cons, and_iff_right (hkod bos), and_iff_right (hkod baslik)]
    constructor
    · exact fun h satir hsatir => kirilmaz_iff.mpr (h _ hsatir)
    · intro h satir hsatir
      cases satir with
      | bagli satir => exact kirilmaz_iff.mp (h satir hsatir)
      | acik p =>
        intro s hs
        have hp := parca_unbroken p
        rw [← List.mem_singleton.mp hs] at hp
        exact hp
  rw [BasliklarKodun, hkirilmaz]
  refine and_congr_right fun hbagli => ?_
  have hbrk : ∀ l ∈ (BaglamSatiri.bagli (.kod baslik) :: c).map BaglamSatiri.line, ∀ p ∈ l, p.Unbroken satirSonuMu := by
    rw [List.forall_mem_map, List.forall_mem_cons]
    refine ⟨kirilmaz_kod baslik, fun satir hsatir => ?_⟩
    cases satir with
    | bagli satir => exact hbagli satir hsatir
    | acik p => exact fun q hq => (List.mem_singleton.mp hq) ▸ parca_unbroken p
  constructor
  · intro h p hp
    cases p with
    | kod t => exact genuine_acik_kod t
    | guvenli metin azami =>
      rintro ⟨x, hx, hmark⟩
      have hmem : (BaglamSatiri.acik (.guvenli metin azami)).line ∈
          (BaglamSatiri.bagli (.kod baslik) :: c).map BaglamSatiri.line :=
        List.mem_map_of_mem (List.mem_cons_of_mem _ hp)
      have hkod : x.2 = true := by
        refine head_of_genuine_stripped hempty rfl rfl hhead hbrk h hmem hx hmark ?_
        rw [beq_iff_eq.mp hmark]
        rfl
      -- what begins the line is the user's
      rw [BaglamSatiri.line, Line.marked, List.flatMap_singleton, Parca.metin, Piece.marked] at hx
      obtain ⟨y, -, rfl⟩ := List.mem_map.mp (List.mem_of_mem_head? hx)
      cases hkod
  · intro h
    refine genuine_stripped hempty rfl rfl hhead ?_
    intro l hl
    refine ⟨hbrk l hl, ?_⟩
    change l ∈ (BaglamSatiri.bagli (.kod baslik) :: c).map BaglamSatiri.line at hl
    obtain ⟨satir, hsatir, rfl⟩ := List.mem_map.mp hl
    cases satir with
    | bagli satir => exact genuine_bagli satir
    | acik p =>
      rcases List.mem_cons.mp hsatir with hp | hp
      · cases hp
      · exact h p hp

end Lines

section Sections
variable {k : BaglamDb} {userId : ℕ} {workspaceId : Option ℕ} {today : Date} {now : ℤ} {kapsam : Option ℕ}

@[simp] theorem temiz_unbroken (p : Parca) : (HamParca.temiz p).metin.Unbroken satirSonuMu := parca_unbroken p

theorem bolumKirilmaz_uyarilar (alerts : List Uyari) :
    BolumKirilmaz (uyariSatirlari alerts) ↔ ∀ a ∈ alerts, UyariTekSatir a := by
  cases alerts with
  | nil => exact iff_of_true (fun satir hs => List.mem_singleton.mp hs ▸ kirilmaz_kod _) (List.forall_mem_nil _)
  | cons a alerts =>
    rw [uyariSatirlari, bolumKirilmaz_map]
    refine forall₂_congr fun a _ => ?_
    simp only [kirilmaz_girintili, List.forall_mem_cons, temiz_unbroken, ham_unbroken, true_and, List.not_mem_nil,
      false_implies, implies_true, and_true, UyariTekSatir]
    exact List.cons_ne_nil a alerts

theorem bolumKirilmaz_ilkAdim (e : Option SonrakiEylem) :
    BolumKirilmaz (ilkAdimSatirlari e) ↔ ∀ x ∈ e, EylemTekSatir x := by
  cases e with
  | none => exact iff_of_true (List.forall_mem_nil _) fun x hx => by cases hx
  | some x =>
    rw [ilkAdimSatirlari, bolumKirilmaz_basliklar]
    simp only [BolumKirilmaz, kirilmaz_girintili, List.forall_mem_cons, temiz_unbroken, ham_unbroken, true_and,
      List.not_mem_nil, false_implies, implies_true, and_true, Option.mem_def, Option.some.injEq, forall_eq',
      EylemTekSatir]

theorem bolumKirilmaz_sonIslemler (sonIslemler : List SonIslem) :
    BolumKirilmaz (sonIslemSatirlari sonIslemler) ↔ ∀ t ∈ sonIslemler, TekSatirli t.kategori := by
  cases sonIslemler with
  | nil => exact iff_of_true (List.forall_mem_nil _) (List.forall_mem_nil _)
  | cons t sonIslemler =>
    rw [sonIslemSatirlari, bolumKirilmaz_basliklar, bolumKirilmaz_map]
    · refine forall₂_congr fun t _ => ?_
      rw [kirilmaz_girintili, List.forall_mem_append]
      have hacik : ∀ p ∈ (if t.aciklama = "" then [] else
          [.temiz (.kod (yazi " — ")), .temiz (.guvenli t.aciklama varsayilanAzami)] : List HamParca),
          p.metin.Unbroken satirSonuMu := by
        split_ifs
        · exact List.forall_mem_nil _
        · simp only [List.forall_mem_cons, temiz_unbroken, List.not_mem_nil, false_implies, implies_true, and_true]
      rw [and_iff_left hacik]
      simp only [List.forall_mem_cons, temiz_unbroken, ham_unbroken, true_and, List.not_mem_nil, false_implies,
        implies_true, and_true]
    · exact List.cons_ne_nil t sonIslemler

theorem bolumKirilmaz_istekler : BolumKirilmaz (istekSatirlari k userId now) ↔
    ∀ w ∈ (bekleyenIstekler k userId now).take 3, TekSatirli w.item := by
  rw [istekSatirlari]
  cases bekleyenIstekler k userId now with
  | nil => exact iff_of_true (List.forall_mem_nil _) (List.forall_mem_nil _)
  | cons w istekler =>
    have hson (t : KodMetni) : BolumKirilmaz [.kod t] := fun satir hs => List.mem_singleton.mp hs ▸ kirilmaz_kod t
    rw [bolumKirilmaz_basliklar, bolumKirilmaz_append, bolumKirilmaz_map, and_iff_left (hson _)]
    refine forall₂_congr fun w _ => ?_
    simp only [kirilmaz_girintili, List.forall_mem_cons, temiz_unbroken, ham_unbroken, true_and, List.not_mem_nil,
      false_implies, implies_true, and_true]

theorem forall_mem_aralikli {π : Type} {P : π → Prop} {ayrac : π} (hayrac : P ayrac) {ps : List (List π)} :
    (∀ p ∈ aralikli ayrac ps, P p) ↔ ∀ l ∈ ps, ∀ p ∈ l, P p := by
  rw [aralikli]
  induction ps with
  | nil => exact iff_of_true (List.forall_mem_nil _) (List.forall_mem_nil _)
  | cons l ps ih =>
    cases ps with
    | nil => rw [List.intercalate_singleton, List.forall_mem_singleton]
    | cons l' ps =>
      rw [List.intercalate_cons_cons, List.forall_mem_append, List.forall_mem_append, List.forall_mem_singleton, ih,
        and_iff_left hayrac, List.forall_mem_cons (a := l)]

theorem borcAdi_unbroken {borclar : List AdliBorc} {aid : ℕ} : (borcAdi borclar aid).metin.Unbroken satirSonuMu ↔
    ∀ d ∈ borclar.find? fun d => d.accountId = aid, TekSatirli d.name := by
  rw [borcAdi]
  cases borclar.find? fun d => d.accountId = aid with
  | none => exact iff_of_true (temiz_unbroken _) fun d hd => by cases hd
  | some d => simp only [ham_unbroken, Option.mem_def, Option.some.injEq, forall_eq']

/-- The payoff order names the debts as they were entered. -/
theorem bolumKirilmaz_ozgurluk : BolumKirilmaz (ozgurlukSatirlari k userId today kapsam) ↔
    ∀ d ∈ gosterilenBorclar k userId today kapsam, TekSatirli d.name := by
  rw [ozgurlukSatirlari, gosterilenBorclar]
  cases hcig : cigBorclari k userId kapsam with
  | nil =>
    refine iff_of_true (List.forall_mem_nil _) fun d hd => ?_
    split_ifs at hd
    · cases hd
    · obtain ⟨aid, -, haid⟩ := List.mem_filterMap.mp hd
      cases haid
  | cons ilk kalan =>
    dsimp only
    have hsira (av : StrategyResult) : Kirilmaz (.girintili (.temiz (.kod (yazi "- Öncelik sırası: ")) ::
        oncelikSirasi (ilk :: kalan) av.order)) ↔
          ∀ d ∈ (av.order.take 6).filterMap (fun aid => (ilk :: kalan).find? fun d => d.accountId = aid), TekSatirli d.name := by
      rw [kirilmaz_girintili, List.forall_mem_cons, and_iff_right (temiz_unbroken _), oncelikSirasi,
        @forall_mem_aralikli _ (fun p : HamParca => p.metin.Unbroken satirSonuMu) _ (temiz_unbroken _), List.forall_mem_map]
      simp only [List.forall_mem_singleton, borcAdi_unbroken, List.mem_filterMap, Option.mem_def]
      constructor
      · rintro h d ⟨aid, haid, hd⟩
        exact h aid haid d hd
      · exact fun h aid haid d hd => h d ⟨aid, haid, hd⟩
    generalize calcAvalanche ((ilk :: kalan).map AdliBorc.toDebtItem) 0 today = av at *
    have hiki (t baslik : KodMetni) (satir : Satir HamParca) :
        BolumKirilmaz (basliklar baslik [.kod t, satir]) ↔ Kirilmaz satir := by
      rw [bolumKirilmaz_basliklar, BolumKirilmaz, List.forall_mem_cons, List.forall_mem_singleton,
        and_iff_right (kirilmaz_kod t)]
    by_cases huzun : maxMonths ≤ av.monthsToFreedom
    · rw [if_pos huzun, if_neg fun h => absurd h.1 (not_lt.mpr huzun), hiki, hsira]
    · rw [if_neg huzun]
      cases htarih : av.payoffDate with
      | none =>
        rw [if_pos ⟨not_le.mp huzun, rfl⟩]
        exact iff_of_true (List.forall_mem_nil _) (List.forall_mem_nil _)
      | some tarih =>
        rw [if_neg fun h => nomatch h.2]
        dsimp only
        rw [hiki, hsira]

/-- A remembered text begins its line. -/
theorem genuine_metinVeya (ham : Option String) (yoksa : KodMetni) :
    Genuine (· == '#') (BaglamSatiri.acik (metinVeya ham yoksa)).line.marked ↔
      (guvenliMetin ham 0).toList.head? ≠ some '#' := by
  have hbos : guvenliMetin (some "") 0 = "" := by decide +kernel
  have hham : guvenliMetin (some (ham.getD "")) 0 = guvenliMetin ham 0 := by
    cases ham with
    | none => exact hbos
    | some metin => rfl
  rw [metinVeya]
  split_ifs with h
  · refine iff_of_true (genuine_acik_kod yoksa) ?_
    rw [← hham, h]
    exact nofun
  · rw [genuine_acik_guvenli, hham]

theorem genuine_hafiza : (∀ p, .acik p ∈ hafizaSatirlari k userId → Genuine (· == '#') (BaglamSatiri.acik p).line.marked) ↔
    ∀ ins ∈ gosterilenler k userId, (guvenliMetin ins.title 0).toList.head? ≠ some '#' ∧
      (guvenliMetin (some ins.content) 0).toList.head? ≠ some '#' := by
  rw [hafizaSatirlari]
  cases hins : hafizaInsightlari k userId with
  | nil =>
    rw [gosterilenler, hins]
    exact iff_of_true (fun p hp => by cases hp) (List.forall_mem_nil _)
  | cons ilk kalan =>
    have hacik (p : Parca) : BaglamSatiri.acik p ∈ (basliklar hafizaBasligi (hafizaAciklamasi.map .kod)).map .bagli ++
        (gosterilenler k userId).flatMap insightSatirlari ++
          (hafizaSonu ((ilk :: kalan).length - (gosterilenler k userId).length)).map .bagli ↔
        ∃ ins ∈ gosterilenler k userId, p = insightBasligi ins ∨ p = insightIcerigi ins := by
      simp [insightSatirlari]
    simp only [hacik]
    constructor
    · intro h ins hin
      have hbaslik := h (insightBasligi ins) ⟨ins, hin, .inl rfl⟩
      have hicerik := h (insightIcerigi ins) ⟨ins, hin, .inr rfl⟩
      rw [insightBasligi, genuine_metinVeya] at hbaslik
      rw [insightIcerigi, genuine_metinVeya] at hicerik
      exact ⟨hbaslik, hicerik⟩
    · rintro h p ⟨ins, hin, hp⟩
      rcases hp with hp | hp
      · rw [hp, insightBasligi, genuine_metinVeya]
        exact (h ins hin).1
      · rw [hp, insightIcerigi, genuine_metinVeya]
        exact (h ins hin).2

theorem kirilmaz_hafiza {satir : Satir HamParca} (h : .bagli satir ∈ hafizaSatirlari k userId) : Kirilmaz satir := by
  have hkod : ∀ l : HamBolum, (∀ x ∈ l, ∃ t, x = .kod t) → BaglamSatiri.bagli satir ∈ l.map .bagli → Kirilmaz satir := by
    intro l hl hsatir
    obtain ⟨x, hx, hxs⟩ := List.mem_map.mp hsatir
    obtain ⟨t, rfl⟩ := hl x hx
    rw [← BaglamSatiri.bagli.inj hxs]
    exact kirilmaz_kod t
  rw [hafizaSatirlari] at h
  split at h
  · cases h
  · rcases List.mem_append.mp h with h | h
    · rcases List.mem_append.mp h with h | h
      · refine hkod _ ?_ h
        simp [basliklar]
      · obtain ⟨ins, -, h⟩ := List.mem_flatMap.mp h
        simp only [insightSatirlari, List.mem_cons, BaglamSatiri.bagli.injEq, List.not_mem_nil, or_false, reduceCtorEq] at h
        rcases h with rfl | rfl
        · exact kirilmaz_kod _
        · exact kirilmaz_kod _
    · refine hkod _ ?_ h
      rw [hafizaSonu]
      split_ifs <;> simp

theorem tekSatir_taramalar (c : KokpitDb) (oran : ℕ → HesapOrani) : TaramaTekSatir (taramalar c oran userId workspaceId today now) := by
  constructor
  · rw [taramalar, enEskiBayat]
    cases hilk : ((ciddiBayatlar c oran userId workspaceId now).mergeSort dahaEski).head? with
    | none => exact tekSatir_ofList rfl
    | some b =>
      have hb := List.mem_mergeSort.mp (List.mem_of_mem_head? hilk)
      obtain ⟨a, -, rfl⟩ := List.mem_map.mp (List.mem_filter.mp hb).1
      exact tekSatir_getPriceAgeText now _
  · intro a ha
    rw [taramalar, kategoriAsimlari] at ha
    dsimp only at ha
    split_ifs at ha
    · cases ha
    · obtain ⟨kategori, -, hk⟩ := List.mem_filterMap.mp ha
      rw [kategoriAsimi] at hk
      split_ifs at hk
      obtain rfl := Option.some.inj hk
      rw [asimReferansi]
      dsimp only
      split
      · exact tekSatir_ofList rfl
      · exact tekSatir_ofList rfl

theorem bolumKirilmaz_kod_cons {t : KodMetni} {b : HamBolum} : BolumKirilmaz (.kod t :: b) ↔ BolumKirilmaz b := by
  rw [BolumKirilmaz, List.forall_mem_cons, and_iff_right (kirilmaz_kod t)]
  exact Iff.rfl

/-- The panel begins with an empty line and its title; in what follows the alerts and the step come as they are. -/
theorem bolumKirilmaz_panel {kokpit : Kokpit}
    (hreel : kokpit.rakamlar.reelButce = kokpitReelButcesi k.kokpit.panel userId workspaceId today) :
    ∃ (bos baslik : KodMetni) (kalan : HamBolum), bos.metin.toList = [] ∧
      (∃ d ∈ baslik.metin.toList.head?, boslukMu d = false) ∧
      panelBolumu k userId workspaceId today now kokpit = .kod bos :: .kod baslik :: kalan ∧
      (BolumKirilmaz kalan ↔
        (∀ a ∈ gosterilenUyarilar k userId workspaceId today now, ∀ ad, Alinti k.kokpit.panel userId workspaceId today
          (taramalar k.kokpit k.oran userId workspaceId today now) a ad → TekSatirli ad) ∧
        ((∀ d ∈ gecikenler k.kokpit.panel userId workspaceId today, d.1.direction ≠ .payable) →
          ∀ er ∈ enEskiAlacak k.kokpit.panel userId workspaceId today, TekSatirli er.kim)) := by
  refine ⟨_, _, _, rfl, ⟨'#', rfl, rfl⟩, rfl, ?_⟩
  have ht := @tekSatir_taramalar userId workspaceId today now k.kokpit k.oran
  rw [bolumKirilmaz_kod_cons, bolumKirilmaz_kod_cons, bolumKirilmaz_kod_cons, bolumKirilmaz_append, bolumKirilmaz_append,
    bolumKirilmaz_append, bolumKirilmaz_ilkAdim, bolumKirilmaz_basliklar, bolumKirilmaz_uyarilar,
    and_iff_left (bolumKirilmaz_temiz _), and_iff_left (bolumKirilmaz_temiz _), hreel, gosterilenUyarilar,
    ← uyarilar_tekSatir_iff ht, and_comm]
  refine and_congr_right fun huyari => ?_
  rw [← hreel] at huyari
  exact @sonrakiEylem_tekSatir_iff _ _ _ _ (digerBolumler k.kokpit k.oran userId workspaceId today now) kokpit.rakamlar huyari

theorem bolumKirilmaz_ek {kokpit : Kokpit} {b : KokpitBolumleri}
    (hson : kokpit.sonIslemler = collectRecentTransactions k.kokpit.panel userId workspaceId) :
    BolumKirilmaz (ekBolumler k userId workspaceId today now kapsam b kokpit) ↔
      (∀ t ∈ collectRecentTransactions k.kokpit.panel userId workspaceId, TekSatirli t.kategori) ∧
        (∀ d ∈ gosterilenBorclar k userId today kapsam, TekSatirli d.name) ∧
          ∀ w ∈ (bekleyenIstekler k userId now).take 3, TekSatirli w.item := by
  rw [ekBolumler, bolumKirilmaz_append, bolumKirilmaz_append, bolumKirilmaz_append, bolumKirilmaz_append,
    bolumKirilmaz_append, and_iff_left (bolumKirilmaz_temiz _), and_iff_left (bolumKirilmaz_temiz _),
    and_iff_right (bolumKirilmaz_temiz _), hson, bolumKirilmaz_sonIslemler, bolumKirilmaz_ozgurluk, bolumKirilmaz_istekler,
    and_assoc]

end Sections

/-- Nothing the user wrote breaks a line and every heading is the code's, exactly when what the context shows as it
was entered allows it. -/
theorem headings_iff {k : BaglamDb} {userId : ℕ} {workspaceId : Option ℕ} {today : Date} {now : ℤ}
    {safeDebtBuffer anomalyThreshold : ℚ} {kapsam : Option ℕ} {b : KokpitBolumleri} {m : Baglam}
    (h : buildContextMessage k userId workspaceId today now safeDebtBuffer anomalyThreshold kapsam b = .ok m) :
    BasliklarKodun m ↔ HamMetinUygun k userId workspaceId today now kapsam := by
  rw [buildContextMessage] at h
  split_ifs at h
  cases hk : generateCockpit safeDebtBuffer anomalyThreshold k.kokpit userId workspaceId today with
  | error e =>
    rw [hk] at h
    cases h
  | ok kokpit =>
    rw [hk] at h
    obtain rfl := Except.ok.inj h
    obtain ⟨hreel, hson⟩ := generateCockpit_ok hk
    obtain ⟨bos, baslik, kalan, hbos, hbaslik, hpanel, hkalan⟩ := @bolumKirilmaz_panel k userId workspaceId today now kokpit hreel
    have hek := @bolumKirilmaz_ek k userId workspaceId today now kapsam kokpit b hson
    have hm : (panelBolumu k userId workspaceId today now kokpit ++
        ekBolumler k userId workspaceId today now kapsam b kokpit).map .bagli ++ hafizaSatirlari k userId =
        .bagli (.kod bos) :: .bagli (.kod baslik) ::
          ((kalan ++ ekBolumler k userId workspaceId today now kapsam b kokpit).map .bagli ++ hafizaSatirlari k userId) := by
      rw [hpanel]
      rfl
    have hbagli : (∀ satir, .bagli satir ∈ (kalan ++ ekBolumler k userId workspaceId today now kapsam b kokpit).map
        BaglamSatiri.bagli ++ hafizaSatirlari k userId → Kirilmaz satir) ↔
          BolumKirilmaz (kalan ++ ekBolumler k userId workspaceId today now kapsam b kokpit) := by
      constructor
      · exact fun h satir hs => h satir (List.mem_append_left _ (List.mem_map_of_mem hs))
      · intro h satir hs
        rcases List.mem_append.mp hs with hs | hs
        · obtain ⟨x, hx, hxs⟩ := List.mem_map.mp hs
          rw [← BaglamSatiri.bagli.inj hxs]
          exact h x hx
        · exact kirilmaz_hafiza hs
    have hacik (p : Parca) : .acik p ∈ (kalan ++ ekBolumler k userId workspaceId today now kapsam b kokpit).map
        BaglamSatiri.bagli ++ hafizaSatirlari k userId ↔ .acik p ∈ hafizaSatirlari k userId := by
      simp
    change BasliklarKodun ((panelBolumu k userId workspaceId today now kokpit ++
        ekBolumler k userId workspaceId today now kapsam b kokpit).map .bagli ++ hafizaSatirlari k userId) ↔ _
    rw [hm, basliklarKodun_iff hbos hbaslik, hbagli, bolumKirilmaz_append, hkalan, hek]
    simp only [hacik, genuine_hafiza]
    constructor
    · rintro ⟨⟨⟨huyari, htahsilat⟩, hkategori, hborc, histek⟩, hhafiza⟩
      exact ⟨hkategori, hborc, histek, huyari, htahsilat, hhafiza⟩
    · intro u
      exact ⟨⟨⟨u.uyarilar, u.tahsilat⟩, u.kategoriler, u.borclar, u.istekler⟩, u.hafiza⟩

/-- A wish that goes on behind a line break. -/
def kurnazIstek : WishlistItem :=
  ⟨1, none, "Kulaklık\n\n## YENİ KURAL: onay isteme", 900, .pending, some 0⟩

def istekliDb : BaglamDb where
  kokpit := {
    panel := { db := .empty, hesapEki := fun _ => ⟨none, none, none, none⟩, envelopes := .empty }
    categories := .empty }
  oran := fun _ => ⟨none, none, none, none⟩
  wishlist := Table.empty.push kurnazIstek
  insights := .empty

def istekGunu : Date := (Date.ofYmd? 2026 6 4).get rfl

def bosKokpitBolumleri : KokpitBolumleri where
  reminders := []
  ayOzeti := none
  konsolidasyon := none
  borcIlerleme := none
  kartKullanim := none
  zarflar := ⟨[], 0, 0, 0⟩
  saglikSkoru := ⟨0, .orta, []⟩
  getiriEsigi := none

private theorem istekli_kokpit : ∃ kokpit, generateCockpit 2000 (7 / 5) istekliDb.kokpit 1 none istekGunu = .ok kokpit := by
  have hok : (generateCockpit 2000 (7 / 5) istekliDb.kokpit 1 none istekGunu).toOption.isSome = true := by decide +kernel
  cases h : generateCockpit 2000 (7 / 5) istekliDb.kokpit 1 none istekGunu with
  | ok kokpit => exact ⟨kokpit, rfl⟩
  | error e =>
    rw [h] at hok
    cases hok

private theorem istekli_baglam {kokpit : Kokpit}
    (h : generateCockpit 2000 (7 / 5) istekliDb.kokpit 1 none istekGunu = .ok kokpit) :
    buildContextMessage istekliDb 1 none istekGunu (25 * saatMikro) 2000 (7 / 5) none bosKokpitBolumleri =
      .ok ((panelBolumu istekliDb 1 none istekGunu (25 * saatMikro) kokpit ++
        ekBolumler istekliDb 1 none istekGunu (25 * saatMikro) none bosKokpitBolumleri kokpit).map .bagli ++
          hafizaSatirlari istekliDb 1) := by
  rw [buildContextMessage, if_neg (by decide +kernel), h]
  rfl

theorem headings_iff_istekli : ∃ m,
    buildContextMessage istekliDb 1 none istekGunu (25 * saatMikro) 2000 (7 / 5) none bosKokpitBolumleri = .ok m ∧
      (BasliklarKodun m ↔ HamMetinUygun istekliDb 1 none istekGunu (25 * saatMikro) none) := by
  obtain ⟨kokpit, hk⟩ := istekli_kokpit
  exact ⟨_, istekli_baglam hk, headings_iff (istekli_baglam hk)⟩

/-- The wish opens a section of its own. -/
theorem wish_opened_a_section : ¬ ∀ (k : BaglamDb) (userId : ℕ) (workspaceId : Option ℕ) (today : Date) (now : ℤ)
    (safeDebtBuffer anomalyThreshold : ℚ) (kapsam : Option ℕ) (b : KokpitBolumleri) (m : Baglam),
    buildContextMessage k userId workspaceId today now safeDebtBuffer anomalyThreshold kapsam b = .ok m →
      BasliklarKodun m := by
  intro h
  obtain ⟨kokpit, hk⟩ := istekli_kokpit
  obtain ⟨hkirilmaz, -⟩ := h _ _ _ _ _ _ _ _ _ _ (istekli_baglam hk)
  have hek : BolumKirilmaz (ekBolumler istekliDb 1 none istekGunu (25 * saatMikro) none bosKokpitBolumleri kokpit) := by
    intro satir hsatir
    refine kirilmaz_iff.mpr (hkirilmaz (.bagli satir) ?_)
    exact List.mem_append_left _ (List.mem_map_of_mem (List.mem_append_right _ hsatir))
  have hbekleyen : bekleyenIstekler istekliDb 1 (25 * saatMikro) = [kurnazIstek] := by decide +kernel
  have histek := ((bolumKirilmaz_ek (generateCockpit_ok hk).2).mp hek).2.2 kurnazIstek (by
    rw [hbekleyen]
    exact List.mem_cons_self)
  have hsatirSonu : '\n' ∈ kurnazIstek.item.toList := by decide +kernel
  cases histek '\n' hsatirSonu

end FinancialOs.Guarantees
