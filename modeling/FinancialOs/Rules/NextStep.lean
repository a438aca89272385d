import FinancialOs.Rules.CockpitAlerts

/-! The first step that the cockpit recommends: the most urgent of what the alerts, the overdue receivables and
the idle cash call for. -/
namespace FinancialOs.Rules
open Library Store

/-- An overdue receivable. -/
structure GecikenAlacak where
  kim : String
  tutar : ℚ
  gecikmeGun : ℤ
  deriving DecidableEq

/-- What the first step reads of the ageing of the receivables. -/
structure AlacakYaslanma where
  toplamGecikmis : ℚ
  gecikmisAdet : ℕ
  enRiskli : List GecikenAlacak
  deriving DecidableEq

/-- The receivables that are at least a day overdue. -/
def gecikenAlacaklar (p : PanelDb) (userId : ℕ) (workspaceId : Option ℕ) (today : Date) : List GecikenAlacak :=
  (odenmemisler p userId workspaceId .receivable).filterMap fun d =>
    match d.2.dueDate with
    | none => none
    | some due =>
      if 1 ≤ gecikmeGun today due then some ⟨d.2.counterparty, roundEven d.2.amount 2, gecikmeGun today due⟩ else none

/-- `calculate_receivables_aging`, apart from the groups it shows. -/
def calculateReceivablesAging (p : PanelDb) (userId : ℕ) (workspaceId : Option ℕ) (today : Date) :
    Option AlacakYaslanma :=
  let gecikmisKalemler := gecikenAlacaklar p userId workspaceId today
  if odenmemisler p userId workspaceId .receivable = [] then none
  else some {
    toplamGecikmis := roundEven (gecikmisKalemler.map GecikenAlacak.tutar).sum 2
    gecikmisAdet := gecikmisKalemler.length
    enRiskli := (gecikmisKalemler.mergeSort fun a b => b.gecikmeGun ≤ a.gecikmeGun).take 3 }

/-- When the debts end at the present pace. -/
structure BorcOzgurluk where
  borcsuzTarih : Option Date
  aslaBitmez : Bool

/-- What the first step reads of the cockpit. -/
structure EylemGirdisi where
  alerts : List Uyari
  alacakYaslanma : Option AlacakYaslanma
  atanmamisNakit : ℚ
  kartBorcu : ℚ
  krediBorcu : ℚ
  dailyLimit : ℚ
  nakitRunwayGun : Option ℤ
  aylikFaiz : ℚ
  borcOzgurluk : Option BorcOzgurluk

inductive EylemTipi where
  | temerrut | kriz | tahsilat | firsat | stabil
  deriving DecidableEq

structure SonrakiEylem where
  tip : EylemTipi
  eylem : String
  gerekce : String
  tutar : Option ℚ
  deriving DecidableEq

def idleCashActionMin : ℚ := 500

/-- The title of an overdue debt. -/
def borcGecikmisMi (a : Uyari) : Bool := icerir "Gecikmiş borç".toList a.baslik.toList

/-- The title of a cash crisis, in small letters. -/
def krizMi (a : Uyari) : Bool := icerir "kriz".toList (a.baslik.toList.flatMap kucukHarf)

def tahsilEt (er : GecikenAlacak) : String := er.kim ++ "'den " ++ formatPara er.tutar 2 ++ " tahsil et"

def krizEylemi (crunch : Uyari) : Option GecikenAlacak → SonrakiEylem
  | some er => {
    tip := .kriz
    eylem := tahsilEt er
    gerekce := "Nakit krizi öngörülüyor; " ++ toString er.gecikmeGun ++
      " gün geciken bu tahsilat krizi önleyebilir. " ++ crunch.mesaj
    tutar := some er.tutar }
  | none => {
    tip := .kriz
    eylem := "Ertelenebilir gideri ertele / harcamayı kes"
    gerekce := crunch.mesaj
    tutar := crunch.tutar }

/-- The idle cash that goes onto the card. -/
def firsatEylemi (c : EylemGirdisi) : SonrakiEylem :=
  let odenebilir := roundEven (min c.atanmamisNakit c.kartBorcu) 2
  { tip := .firsat
    eylem := "Boşta " ++ formatPara odenebilir 2 ++ "'yi kart borcuna öde"
    gerekce := formatPara c.atanmamisNakit 2 ++ " boşta nakdin var, kart borcun " ++ formatPara c.kartBorcu 2 ++ "." ++
      if 0 < c.aylikFaiz then " Karta ödemek aylık faiz sızıntısını (" ++ formatPara c.aylikFaiz 2 ++ ") azaltır."
      else ""
    tutar := some odenebilir }

def stabilEylemi (c : EylemGirdisi) : SonrakiEylem where
  tip := .stabil
  eylem := "Acil bir hamle yok — günlük limitine sadık kal, borcu erit"
  gerekce := "Bugünlük kritik sinyal yok. Günlük limit " ++ formatPara c.dailyLimit 2 ++
    "; her aşmama borcu hızlandırır." ++
    match c.borcOzgurluk with
    | some ⟨some tarih, false⟩ => " Bu tempoyla " ++ tarih.isoformat ++ " tarihinde borçsuzsun — disiplin bunu öne çeker."
    | _ => ""
  tutar := none

/-- The idle cash is worth a payment: there is enough of it, a card to pay and no need of it within a month. -/
def nakitBosta (c : EylemGirdisi) : Bool :=
  idleCashActionMin ≤ c.atanmamisNakit ∧ 0 < c.kartBorcu ∧ c.nakitRunwayGun.all fun gun => 30 ≤ gun

/-- `recommend_next_action`: survival before opportunity. -/
def recommendNextAction (c : EylemGirdisi) : Option SonrakiEylem :=
  let kritikler := c.alerts.filter fun a => a.seviye = .kritik
  let enRiskli := c.alacakYaslanma.bind fun ay => ay.enRiskli.head?
  let gecikmisAdet := (c.alacakYaslanma.map AlacakYaslanma.gecikmisAdet).getD 0
  let toplamGecikmis := (c.alacakYaslanma.map AlacakYaslanma.toplamGecikmis).getD 0
  match kritikler.find? borcGecikmisMi with
  | some borc => some ⟨.temerrut, borc.baslik, borc.mesaj, borc.tutar⟩
  | none =>
    match kritikler.find? krizMi, enRiskli with
    | some crunch, _ => some (krizEylemi crunch enRiskli)
    | none, some er =>
      if 0 < gecikmisAdet then some ⟨.tahsilat, tahsilEt er, toString gecikmisAdet ++ " gecikmiş alacağın var (toplam " ++
        formatPara toplamGecikmis 2 ++ "); en eskisi " ++ toString er.gecikmeGun ++
        " gün. Nakit dar — önce en eskisini tahsil et.", some er.tutar⟩
      else firsatVeyaStabil
    | none, none => firsatVeyaStabil
where
  firsatVeyaStabil : Option SonrakiEylem :=
    if nakitBosta c then some (firsatEylemi c)
    else if 0 < c.kartBorcu ∨ 0 < c.krediBorcu then some (stabilEylemi c)
    else none

/-- The sections of the cockpit that the first step only quotes. -/
structure DigerBolumler where
  taramalar : Taramalar
  aylikFaiz : ℚ
  borcOzgurluk : Option BorcOzgurluk

/-- The cockpit as far as the first step reads it. -/
def eylemGirdisi (p : PanelDb) (userId : ℕ) (workspaceId : Option ℕ) (today : Date) (d : DigerBolumler)
    (r : KokpitRakamlari) : EylemGirdisi where
  alerts := kokpitUyarilari p userId workspaceId today d.taramalar r.reelButce
  alacakYaslanma := calculateReceivablesAging p userId workspaceId today
  atanmamisNakit := r.atanmamisNakit
  kartBorcu := r.kartBorcu
  krediBorcu := r.krediBorcu
  dailyLimit := r.dailyLimit
  nakitRunwayGun := calculateCashRunway p userId workspaceId today.monthDay (nakitToplami p.db userId workspaceId)
  aylikFaiz := d.aylikFaiz
  borcOzgurluk := d.borcOzgurluk

/-- The `sonraki_eylem` of `generate_cockpit`. -/
def sonrakiEylem (p : PanelDb) (userId : ℕ) (workspaceId : Option ℕ) (today : Date) (d : DigerBolumler)
    (r : KokpitRakamlari) : Option SonrakiEylem :=
  recommendNextAction (eylemGirdisi p userId workspaceId today d r)

end FinancialOs.Rules
