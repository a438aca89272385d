import FinancialOs.Rules.CockpitReport
import FinancialOs.Rules.MoneyFormat

/-! The alerts of the cockpit, in the order in which they are shown. -/
namespace FinancialOs.Rules
open Library Store

inductive Seviye where
  | kritik | uyari
  deriving DecidableEq

/-- An alert; the amount is there for what traces the figures of a text. -/
structure Uyari where
  seviye : Seviye
  baslik : String
  mesaj : String
  tutar : Option ℚ
  deriving DecidableEq

/-- `date.toordinal`. -/
def gunNo (d : Date) : ℕ := Date.daysBeforeYear d.year + Date.daysBeforeMonth d.year d.month + d.day

/-- The days from a due date to today. -/
def gecikmeGun (today due : Date) : ℤ := gunNo today - gunNo due

def gunMetni (d : MonthDay) : String :=
  Date.padded 4 (d.month / 12) ++ "-" ++ Date.padded 2 (d.month % 12 + 1) ++ "-" ++ Date.padded 2 d.day

/-- The unpaid debts whose day is over, each with that day, the oldest first. -/
def gecikenler (p : PanelDb) (userId : ℕ) (workspaceId : Option ℕ) (today : Date) : List (PersonalDebt × Date) :=
  ((kapsamSatirlari p.db.debts userId workspaceId).filterMap fun d =>
    match d.2.dueDate with
    | none => none
    | some due => if d.2.isPaid = false ∧ due.monthDay < today.monthDay then some (d.2, due) else none).mergeSort
      fun a b => a.2.monthDay ≤ b.2.monthDay

def gecikmeUyarisi (today : Date) (d : PersonalDebt × Date) : Uyari :=
  let gecikme := toString (gecikmeGun today d.2)
  if d.1.direction = .payable then {
    seviye := .kritik
    baslik := "Gecikmiş borç: " ++ d.1.counterparty
    mesaj := d.1.counterparty ++ "'a " ++ formatPara d.1.amount 2 ++ " borç " ++ gecikme ++ " gün gecikti — öde."
    tutar := some d.1.amount }
  else {
    seviye := .uyari
    baslik := "Gecikmiş alacak: " ++ d.1.counterparty
    mesaj := d.1.counterparty ++ " " ++ formatPara d.1.amount 2 ++ " " ++ gecikme ++ " gün gecikti — tahsil et."
    tutar := some d.1.amount }

/-- `_collect_overdue_debts`. -/
def collectOverdueDebts (p : PanelDb) (userId : ℕ) (workspaceId : Option ℕ) (today : Date) : List Uyari :=
  (gecikenler p userId workspaceId today).map (gecikmeUyarisi today)

/-- The alert of a cash crisis that begins on a day. -/
def krizUyarisi (summary : ForecastSummary) (ilk : MonthDay) : Uyari where
  seviye := .kritik
  baslik := "Nakit krizi öngörüsü"
  mesaj := "90 gün içinde nakit sıfırın altına düşüyor (ilk kriz " ++ gunMetni ilk ++ ", en düşük " ++
    formatPara summary.lowestBalance 2 ++ " @ " ++ gunMetni summary.lowestDate ++
    "). Alacakları öne al veya gideri ertele — kriz henüz ÖNLENEBİLİR."
  tutar := some |summary.lowestBalance|

/-- `_crunch_alert_from_summary` of the 90 days. -/
def crunchAlertFromSummary (summary : ForecastSummary) : List Uyari :=
  match summary.crunchDates with
  | [] => []
  | ilk :: _ => [krizUyarisi summary ilk]

inductive OdemeTipi where
  | krediTaksit | kartOdeme
  deriving DecidableEq

structure YaklasanOdeme where
  ad : String
  tutar : ℚ
  tarih : MonthDay
  tip : OdemeTipi
  deriving DecidableEq

/-- `_collect_upcoming_loan_payments`, of one loan. -/
def taksitOdemesi (ek : ℕ → HesapEki) (today : MonthDay) (loan : ℕ × Account) : List YaklasanOdeme :=
  match (ek loan.1).nextPaymentDate with
  | none => []
  | some tarih =>
    if today ≤ tarih.monthDay ∧ tarih.monthDay ≤ today.addDays 60 then
      [⟨loan.2.name, (ek loan.1).monthlyPayment.getD 0, tarih.monthDay, .krediTaksit⟩]
    else []

/-- `_collect_upcoming_card_payments`, of one card. -/
def kartOdemesi (today : MonthDay) (kart : ℕ × Account) : List YaklasanOdeme :=
  match kartSonOdeme kart.2 today with
  | none => []
  | some son =>
    if today ≤ son.tarih ∧ son.tarih ≤ today.addDays 60 then
      [⟨kart.2.name ++ " son ödeme", son.tutar, son.tarih, .kartOdeme⟩]
    else []

/-- The loans and cards among the upcoming payments of the cockpit, by their day; the incomes that the list
also shows raise no alert. -/
def yaklasanOdemeler (p : PanelDb) (userId : ℕ) (workspaceId : Option ℕ) (today : MonthDay) : List YaklasanOdeme :=
  ((turHesaplari p.db userId workspaceId .loan).flatMap (taksitOdemesi p.hesapEki today) ++
    (turHesaplari p.db userId workspaceId .creditCard).flatMap (kartOdemesi today)).mergeSort
      fun a b => a.tarih ≤ b.tarih

/-- `detect_alerts`. -/
def detectAlerts (nakit kartBorcu kartLimit reelButce : ℚ) (upcomingPayments : List YaklasanOdeme)
    (today : MonthDay) : List Uyari :=
  let kullanim := kartBorcu / kartLimit * 100
  let kart : List Uyari :=
    if kartLimit ≤ 0 then []
    else if 95 ≤ kullanim then [⟨.kritik, "Kart kullanım oranı %95 üzeri", "Kart " ++ sabitNokta kullanim 1 ++
      "% dolu. Yeni harcama riskli, kalan limit " ++ formatPara (kartLimit - kartBorcu) 2 ++ ".", none⟩]
    else if 80 ≤ kullanim then [⟨.uyari, "Kart kullanım oranı yüksek", "Kart " ++ sabitNokta kullanim 1 ++ "% dolu.", none⟩]
    else []
  let butce : List Uyari :=
    if reelButce < 0 then [⟨.kritik, "Reel bütçe negatif", "Beklenen gelirle birlikte bile bütçe " ++
      formatPara reelButce 2 ++ ". Kart borcu nakdi aşıyor.", none⟩]
    else []
  let dusuk : List Uyari :=
    if nakit < 1000 then [⟨.uyari, "Nakit çok düşük", "Kasada " ++ formatPara nakit 2 ++
      ". Acil durum tamponu yok.", none⟩]
    else []
  let buyukler := upcomingPayments.filter fun p => p.tarih ≤ today.addDays 7 ∧ nakit / 2 < p.tutar
  kart ++ butce ++ dusuk ++ buyukler.map fun p => ⟨.uyari, "7 gün içinde büyük ödeme: " ++ p.ad, gunMetni p.tarih ++
    " tarihinde " ++ formatPara p.tutar 2 ++ " — nakitin %" ++ toString (nearestEven (p.tutar / max nakit 1 * 100)) ++
    "'i.", none⟩

/-- A subscription that was found: its first and its last amount. -/
structure Abonelik where
  isim : String
  fiyatDegisti : Bool
  eskiTutar : ℚ
  yeniTutar : ℚ

/-- `_subscription_price_alerts_from_result`. -/
def subscriptionPriceAlerts (abonelikler : List Abonelik) : List Uyari :=
  (abonelikler.filter fun s => s.fiyatDegisti ∧ s.eskiTutar < s.yeniTutar ∧ 0 < s.eskiTutar).map fun s => {
    seviye := .uyari
    baslik := "Abonelik zammı: " ++ s.isim
    mesaj := s.isim ++ " " ++ trSayi s.eskiTutar 2 ++ " → " ++ formatPara s.yeniTutar 2 ++ "'ye çıkmış (%" ++
      sabitNokta ((s.yeniTutar - s.eskiTutar) / s.eskiTutar * 100) 1 ++ " artış). Hâlâ kullanıyor musun?"
    tutar := some s.yeniTutar }

/-- A category that runs over what it is compared with: its envelope or the last month. -/
structure KategoriAsimi where
  kategori : String
  projected : ℚ
  ref : ℚ
  refLabel : String

def kategoriAsimUyarisi (c : KategoriAsimi) : Uyari where
  seviye := .uyari
  baslik := "Kategori aşım öngörüsü: " ++ c.kategori
  mesaj := c.kategori ++ " bu gidişle ay sonu ~" ++ formatPara c.projected 2 ++ " olur (" ++ c.refLabel ++ " " ++
    formatPara c.ref 2 ++ ", %" ++ sabitNokta ((c.projected - c.ref) / c.ref * 100) 1 ++ " fazla). Hız kes."
  tutar := some c.projected

/-- The card with the highest interest in the trap of minimum payments. -/
structure TuzakKarti where
  ad : String
  bakiye : ℚ
  aslaBitmez : Bool
  ay : ℕ
  toplamFaiz : ℚ
  payoffTarih : Option Date

def minTrapAlertMonths : ℕ := 12

/-- `_min_payment_trap_alerts`. -/
def minPaymentTrapAlerts : Option TuzakKarti → List Uyari
  | none => []
  | some worst =>
    if worst.aslaBitmez then [⟨.kritik, "Kart asgari ödeme sarmalı", worst.ad ++
      " kartı SADECE asgari ödemeyle ASLA kapanmaz — asgari ödeme aylık faizin altında, borç büyüyor. Asgarinin belirgin üstüne öde.",
      some worst.bakiye⟩]
    else if minTrapAlertMonths ≤ worst.ay then [⟨.uyari, "Kart asgari ödeme tuzağı", worst.ad ++
      " kartını yalnız asgariyle ödersen " ++ toString worst.ay ++ " ay sürünür ve " ++ formatPara worst.toplamFaiz 2 ++
      " faiz ödersin (biter " ++ (worst.payoffTarih.map Date.isoformat).getD "None" ++
      "). Asgarinin üstüne ekle — süre ve faiz hızla düşer.", some worst.toplamFaiz⟩]
    else []

/-- An investment account whose price has not come in for three days, with the age of the price. -/
structure BayatFiyat where
  ad : String
  yas : String

/-- `_bayat_fiyat_alerts`; the oldest price first named is that of `enEski`. -/
def bayatFiyatAlerts (ciddi : List BayatFiyat) (enEski : BayatFiyat) : List Uyari :=
  if ciddi.isEmpty then []
  else [⟨.uyari, "Yatırım fiyatı güncellenmiyor", String.intercalate ", " ((ciddi.take 3).map BayatFiyat.ad) ++
    " için son fiyat " ++ enEski.yas ++ " güncellendi — fiyat kaynağı susuyor. Portföy değeri ve kâr/zarar bu ESKİ fiyattan hesaplanıyor; satış/alım kararından önce fiyatı doğrula.",
    none⟩]

/-- What the scans of the transactions, the cards and the prices found. -/
structure Taramalar where
  abonelikler : List Abonelik
  asimlar : List KategoriAsimi
  tuzak : Option TuzakKarti
  bayatlar : List BayatFiyat
  enEskiBayat : BayatFiyat

def kartLimiti (p : PanelDb) (userId : ℕ) (workspaceId : Option ℕ) : ℚ :=
  ((turHesaplari p.db userId workspaceId .creditCard).map fun a => a.2.creditLimit.getD 0).sum

def onem : Seviye → ℕ
  | .kritik => 0
  | .uyari => 1

/-- The alerts before some of them are left out: the critical ones first. -/
def tumUyarilar (p : PanelDb) (userId : ℕ) (workspaceId : Option ℕ) (today : Date) (t : Taramalar) (reelButce : ℚ) :
    List Uyari :=
  let genel := detectAlerts (nakitToplami p.db userId workspaceId) (kartBorcu p userId workspaceId)
    (kartLimiti p userId workspaceId) reelButce (yaklasanOdemeler p userId workspaceId today.monthDay) today.monthDay
  let overdue := collectOverdueDebts p userId workspaceId today
  let summary := (generateForecast p userId workspaceId 90 none .hepsi 0 today).summary
  (overdue.filter (fun a => a.seviye = .kritik) ++ crunchAlertFromSummary summary ++ genel ++
    overdue.filter (fun a => a.seviye ≠ .kritik) ++ subscriptionPriceAlerts t.abonelikler ++
    ((t.asimlar.mergeSort fun a b => b.projected ≤ a.projected).take 2).map kategoriAsimUyarisi ++ minPaymentTrapAlerts t.tuzak ++
    bayatFiyatAlerts t.bayatlar t.enEskiBayat).mergeSort fun a b => onem a.seviye ≤ onem b.seviye

/-- The alerts that are shown: all critical ones, and three of the others. -/
def kokpitUyarilari (p : PanelDb) (userId : ℕ) (workspaceId : Option ℕ) (today : Date) (t : Taramalar)
    (reelButce : ℚ) : List Uyari :=
  let alerts := tumUyarilar p userId workspaceId today t reelButce
  alerts.filter (fun a => a.seviye = .kritik) ++ (alerts.filter fun a => a.seviye ≠ .kritik).take 3

end FinancialOs.Rules
