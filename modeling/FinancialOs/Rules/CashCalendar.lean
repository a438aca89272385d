import FinancialOs.Library.MonthDays
import FinancialOs.Rules.UserRules
import FinancialOs.Store.PanelRows

/-! The signed cash calendar up to the end of the month. -/
namespace FinancialOs.Rules
open Library Store

inductive KalemTipi where
  | duzenliGelir | duzenliGider | alacak | borc | krediTaksit | kartOdeme
  deriving DecidableEq

/-- An entry of the calendar. The record it comes from is kept for the statements; the code's entry
does not name it. -/
structure TakvimKalemi where
  tarih : MonthDay
  ad : String
  tutar : ℚ
  giris : Bool
  etki : ℚ
  tip : KalemTipi
  ekstreBiliniyor : Option Bool
  kayit : ℕ
  deriving DecidableEq

/-- A planned expense that the cash of this month does not carry. -/
structure BekleyenGider where
  tarih : MonthDay
  ad : String
  tutar : ℚ
  deriving DecidableEq

/-- The day of a month a record names, clamped to its end; the schemas keep `day_of_month` at 1 or
more. -/
def vadeGunu (ay gun : ℕ) : MonthDay := .clamp ay (max 1 gun) (le_max_left 1 gun)

def ayinSonGunu (bugun : MonthDay) : MonthDay := vadeGunu bugun.month 31

@[simp] theorem month_vadeGunu (ay gun : ℕ) : (vadeGunu ay gun).month = ay := rfl

theorem vadeGunu_le_sonGun (ay gun : ℕ) : vadeGunu ay gun ≤ vadeGunu ay 31 := by
  have hlen := (monthLength_bounds ay).2
  rw [MonthDay.le_iff]
  right
  change ay = ay ∧ min (max 1 gun) (monthLength ay) ≤ min (max 1 31) (monthLength ay)
  omega

/-- `strftime("%Y-%m")`. -/
def yilAy (d : Date) : String :=
  toString d.year ++ "-" ++ (if d.month < 10 then "0" else "") ++ toString d.month

/-- `_ekle`: nothing without an amount, and nothing outside the rest of the month. -/
def kalemEkle (bugun tarih : MonthDay) (ad : String) (tutar : ℚ) (tip : KalemTipi) (giris : Bool)
    (ekstra : Option Bool) (kayit : ℕ) : List TakvimKalemi :=
  if tutar ≤ 0 ∨ ¬ (bugun ≤ tarih ∧ tarih ≤ ayinSonGunu bugun) then []
  else [{
    tarih := tarih
    ad := ad
    tutar := roundEven tutar 2
    giris := giris
    etki := roundEven (if giris then tutar else -tutar) 2
    tip := tip
    ekstreBiliniyor := ekstra
    kayit := kayit }]

/-- An income that this month has not triggered yet. -/
def gelirKalemi (bugun : Date) (r : ℕ × Recurring) : List TakvimKalemi :=
  if r.2.lastTriggeredYearMonth = some (yilAy bugun) then []
  else kalemEkle bugun.monthDay (vadeGunu bugun.monthDay.month r.2.dayOfMonth) r.2.name r.2.amount .duzenliGelir
    true none r.1

inductive GiderYeri where
  | nakit | kart | belirsiz
  deriving DecidableEq

/-- Where an expense is paid from: its account may be a card, or still be open. -/
def giderYeri (kartHesapIdleri : List ℕ) (accountId : Option ℕ) : GiderYeri :=
  match accountId with
  | none => .belirsiz
  | some id => if id ∈ kartHesapIdleri then .kart else .nakit

def giderKalemi (bugun : Date) (kartHesapIdleri : List ℕ) (r : ℕ × Recurring) : List TakvimKalemi :=
  if r.2.lastTriggeredYearMonth = some (yilAy bugun) then []
  else match giderYeri kartHesapIdleri r.2.accountId with
    | .nakit => kalemEkle bugun.monthDay (vadeGunu bugun.monthDay.month r.2.dayOfMonth) r.2.name r.2.amount
      .duzenliGider false none r.1
    | _ => []

/-- The expenses of a place other than the cash; they may lie behind today. -/
def bekleyenGider (bugun : Date) (kartHesapIdleri : List ℕ) (yer : GiderYeri) (r : ℕ × Recurring) :
    List BekleyenGider :=
  if r.2.lastTriggeredYearMonth ≠ some (yilAy bugun) ∧ giderYeri kartHesapIdleri r.2.accountId = yer then
    [⟨vadeGunu bugun.monthDay.month r.2.dayOfMonth, r.2.name, roundEven r.2.amount 2⟩]
  else []

def borcKalemiTakvimi (bugun : MonthDay) (d : ℕ × PersonalDebt) : List TakvimKalemi :=
  let alacak : Bool := d.2.direction = .receivable
  match d.2.dueDate with
  | none => []
  | some dueDate =>
    let ad := if d.2.counterparty ≠ "" then d.2.counterparty else if alacak then "Alacak" else "Borç"
    if d.2.isPaid then []
    else kalemEkle bugun dueDate.monthDay ad d.2.amount (if alacak then .alacak else .borc) alacak none d.1

def taksitKalemi (bugun : MonthDay) (ek : ℕ → HesapEki) (a : ℕ × Account) : List TakvimKalemi :=
  match (ek a.1).nextPaymentDate with
  | none => []
  | some tarih =>
    kalemEkle bugun tarih.monthDay a.2.name ((ek a.1).monthlyPayment.getD 0) .krediTaksit false none a.1

/-- `_get_next_due_date`. -/
def nextDueDate (today : MonthDay) (dayOfMonth : ℕ) : MonthDay :=
  let candidate := vadeGunu today.month dayOfMonth
  if candidate < today then vadeGunu (today.month + 1) dayOfMonth else candidate

structure SonOdeme where
  tarih : MonthDay
  tutar : ℚ
  ekstreBiliniyor : Bool

/-- `kart_son_odeme`: what is left of the statement, or the whole debt where that is unknown. -/
def kartSonOdeme (acc : Account) (today : MonthDay) : Option SonOdeme :=
  match acc.paymentDay with
  | none => none
  | some gun =>
    let tutar := acc.statementBalance.getD acc.balance
    if acc.accountType ≠ .creditCard ∨ gun = 0 ∨ tutar ≤ 1 / 100 then none
    else some ⟨nextDueDate today gun, tutar, acc.statementBalance.isSome⟩

def kartKalemi (bugun : MonthDay) (a : ℕ × Account) : List TakvimKalemi :=
  match kartSonOdeme a.2 bugun with
  | none => []
  | some son =>
    kalemEkle bugun son.tarih a.2.name son.tutar .kartOdeme false (some son.ekstreBiliniyor) a.1

def hesapKalemi (bugun : MonthDay) (ek : ℕ → HesapEki) (a : ℕ × Account) : List TakvimKalemi :=
  if a.2.accountType = .loan then taksitKalemi bugun ek a else kartKalemi bugun a

/-- `_yatirimda_bekleyen_nakit`: the cash that waits on investment accounts of the user's own. -/
def yatirimdaBekleyen (p : PanelDb) (userId : ℕ) (workspaceId : Option ℕ) : List (String × ℚ) :=
  ((turHesaplari p.db userId workspaceId .investment).filter fun a =>
    !a.2.isEmanet && ((p.hesapEki a.1).fundCode.getD "" == "") && (a.2.lotCount.getD 0 == 0) &&
      decide (0 < a.2.balance)).map fun a => (a.2.name, a.2.balance)

def kartHesapIdleri (p : PanelDb) (userId : ℕ) (workspaceId : Option ℕ) : List ℕ :=
  (turHesaplari p.db userId workspaceId .creditCard).map Prod.fst

/-- The entries in the order of the code's sources. -/
def hamKalemler (p : PanelDb) (userId : ℕ) (workspaceId : Option ℕ) (bugun : Date) : List TakvimKalemi :=
  (etkinKayitlar p.db.incomes userId workspaceId).flatMap (gelirKalemi bugun) ++
    (etkinKayitlar p.db.expenses userId workspaceId).flatMap
      (giderKalemi bugun (kartHesapIdleri p userId workspaceId)) ++
    (kapsamSatirlari p.db.debts userId workspaceId).flatMap (borcKalemiTakvimi bugun.monthDay) ++
    (borcHesaplari p.db userId workspaceId).flatMap (hesapKalemi bugun.monthDay p.hesapEki)

/-- By day, and on one day the payments first. -/
def kalemSirasi (a b : TakvimKalemi) : Bool :=
  decide (a.tarih < b.tarih) || decide (a.tarih = b.tarih) && (!a.giris || b.giris)

/-- The balance behind the entries so far, and the lowest one with its day. -/
structure Yuruyus where
  bakiye : ℚ
  enDusuk : ℚ
  enDusukTarih : MonthDay

def yuru (s : Yuruyus) (k : TakvimKalemi) : Yuruyus :=
  let bakiye := s.bakiye + k.etki
  if bakiye < s.enDusuk then ⟨bakiye, bakiye, k.tarih⟩ else { s with bakiye := bakiye }

def bakiyeSonrasi : ℚ → List TakvimKalemi → List ℚ
  | _, [] => []
  | bakiye, k :: kalan => roundEven (bakiye + k.etki) 2 :: bakiyeSonrasi (bakiye + k.etki) kalan

structure NakitTakvimi where
  bugun : MonthDay
  ufuk : MonthDay
  baslangicNakit : ℚ
  yatirimdaBekleyen : ℚ
  yatirimdaBekleyenKalemler : List (String × ℚ)
  erisilebilirToplam : ℚ
  kartaYazilacak : List BekleyenGider
  kartaYazilacakToplam : ℚ
  hesabiBelirsiz : List BekleyenGider
  hesabiBelirsizToplam : ℚ
  aySonuBelirsizNakitse : ℚ
  kalemler : List TakvimKalemi
  bakiyeler : List ℚ
  toplamGiris : ℚ
  toplamCikis : ℚ
  aySonuBakiye : ℚ
  enDusukBakiye : ℚ
  enDusukTarih : MonthDay
  acikVar : Bool
  deriving DecidableEq

/-- `calculate_nakit_takvimi`. -/
def calculateNakitTakvimi (p : PanelDb) (userId : ℕ) (workspaceId : Option ℕ) (bugun : Date) : NakitTakvimi :=
  let giderler := etkinKayitlar p.db.expenses userId workspaceId
  let kartlar := kartHesapIdleri p userId workspaceId
  let karta := giderler.flatMap (bekleyenGider bugun kartlar .kart)
  let belirsiz := giderler.flatMap (bekleyenGider bugun kartlar .belirsiz)
  let belirsizToplam := (belirsiz.map BekleyenGider.tutar).sum
  let kalemler := (hamKalemler p userId workspaceId bugun).mergeSort kalemSirasi
  let baslangic := nakitToplami p.db userId workspaceId
  let son := kalemler.foldl yuru ⟨baslangic, baslangic, bugun.monthDay⟩
  let bekleyen := yatirimdaBekleyen p userId workspaceId
  let bekleyenToplam := roundEven (bekleyen.map Prod.snd).sum 2
  { bugun := bugun.monthDay
    ufuk := ayinSonGunu bugun.monthDay
    baslangicNakit := roundEven baslangic 2
    yatirimdaBekleyen := bekleyenToplam
    yatirimdaBekleyenKalemler := bekleyen.map fun k => (k.1, roundEven k.2 2)
    erisilebilirToplam := roundEven (baslangic + bekleyenToplam) 2
    kartaYazilacak := karta
    kartaYazilacakToplam := roundEven (karta.map BekleyenGider.tutar).sum 2
    hesabiBelirsiz := belirsiz
    hesabiBelirsizToplam := roundEven belirsizToplam 2
    aySonuBelirsizNakitse := roundEven (son.bakiye - belirsizToplam) 2
    kalemler := kalemler
    bakiyeler := bakiyeSonrasi baslangic kalemler
    toplamGiris := roundEven ((kalemler.filter fun k => k.giris).map TakvimKalemi.tutar).sum 2
    toplamCikis := roundEven ((kalemler.filter fun k => !k.giris).map TakvimKalemi.tutar).sum 2
    aySonuBakiye := roundEven son.bakiye 2
    enDusukBakiye := roundEven son.enDusuk 2
    enDusukTarih := son.enDusukTarih
    acikVar := son.enDusuk < 0 }

@[simp] theorem bakiye_yuru (s : Yuruyus) (k : TakvimKalemi) : (yuru s k).bakiye = s.bakiye + k.etki := by
  simp only [yuru]
  split <;> rfl

theorem bakiye_foldl_yuru (kalemler : List TakvimKalemi) (s : Yuruyus) :
    (kalemler.foldl yuru s).bakiye = s.bakiye + (kalemler.map TakvimKalemi.etki).sum := by
  induction kalemler generalizing s with
  | nil => simp
  | cons k kalemler ih =>
    rw [List.foldl_cons, ih, bakiye_yuru, List.map_cons, List.sum_cons, add_assoc]

/-- The balance at the month's end is the cash with the effect of every entry, in any order. -/
theorem aySonuBakiye_eq (p : PanelDb) (userId : ℕ) (workspaceId : Option ℕ) (bugun : Date) :
    (calculateNakitTakvimi p userId workspaceId bugun).aySonuBakiye =
      roundEven (nakitToplami p.db userId workspaceId +
        ((hamKalemler p userId workspaceId bugun).map TakvimKalemi.etki).sum) 2 := by
  have hperm := List.mergeSort_perm (hamKalemler p userId workspaceId bugun) kalemSirasi
  simp only [calculateNakitTakvimi, bakiye_foldl_yuru]
  rw [(hperm.map TakvimKalemi.etki).sum_eq]

end FinancialOs.Rules
