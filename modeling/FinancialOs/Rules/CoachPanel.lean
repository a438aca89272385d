import FinancialOs.Rules.CoachText
import FinancialOs.Rules.CockpitReport
import FinancialOs.Rules.CockpitScans
import FinancialOs.Store.CoachInsights

/-! The first part of the coach's context: the panel of today with its figures, accounts, payments, alerts and
checkpoints. -/
namespace FinancialOs.Rules
open Library Store

inductive WishlistStatus where
  | pending | bought | dismissed
  deriving DecidableEq

structure WishlistItem where
  userId : ℕ
  workspaceId : Option ℕ
  item : String
  amount : ℚ
  status : WishlistStatus
  createdAt : Option ℤ
  deriving DecidableEq

/-- What the context reads of the database. -/
structure BaglamDb where
  kokpit : KokpitDb
  oran : ℕ → HesapOrani
  wishlist : Table WishlistItem
  insights : Table CoachInsight

def turkishMonth (ay : ℕ) : KodMetni :=
  match ay with
  | 1 => yazi "Ocak" | 2 => yazi "Şubat" | 3 => yazi "Mart" | 4 => yazi "Nisan" | 5 => yazi "Mayıs" | 6 => yazi "Haziran"
  | 7 => yazi "Temmuz" | 8 => yazi "Ağustos" | 9 => yazi "Eylül" | 10 => yazi "Ekim" | 11 => yazi "Kasım"
  | _ => yazi "Aralık"

def turkishWeekday (gun : ℕ) : KodMetni :=
  match gun with
  | 0 => yazi "Pazartesi" | 1 => yazi "Salı" | 2 => yazi "Çarşamba" | 3 => yazi "Perşembe" | 4 => yazi "Cuma"
  | 5 => yazi "Cumartesi" | _ => yazi "Pazar"

/-- `date.toordinal` of a day of a month. -/
def gunSirasi (d : MonthDay) : ℕ :=
  Date.daysBeforeYear (d.month / 12) + Date.daysBeforeMonth (d.month / 12) (d.month % 12 + 1) + d.day

/-- `turkish_date`; the first of January of the year 1 is a Monday. -/
def turkishDate (d : MonthDay) : KodMetni :=
  tamYazi d.day ++ yazi " " ++ turkishMonth (d.month % 12 + 1) ++ yazi " " ++ tamYazi (d.month / 12 : ℕ) ++ yazi " " ++
    turkishWeekday ((gunSirasi d + 6) % 7)

/-- `_day_suffix`. -/
def daySuffix (d today : MonthDay) : KodMetni :=
  let days : ℤ := gunSirasi d - gunSirasi today
  if days = 0 then yazi " ← bugün"
  else if days = 1 then yazi " ← yarın"
  else if 1 < days then yazi " ← " ++ tamYazi days ++ yazi " gün sonra"
  else if days = -1 then yazi " ← dün vadesi geçti"
  else yazi " ← " ++ tamYazi (-days) ++ yazi " gün önce vadesi geçti"

theorem tekSatir_getPriceAgeText (now : ℤ) (lastUpdate : Option ℤ) : TekSatirli (getPriceAgeText now lastUpdate) := by
  cases lastUpdate with
  | none => exact tekSatir_ofList rfl
  | some t =>
    rw [getPriceAgeText]
    split_ifs
    · exact tekSatir_ofList rfl
    · exact tekSatir_append.mpr ⟨tekSatir_tam _, tekSatir_ofList rfl⟩
    · exact tekSatir_append.mpr ⟨tekSatir_tam _, tekSatir_ofList rfl⟩
    · exact tekSatir_ofList rfl
    · exact tekSatir_append.mpr ⟨tekSatir_tam _, tekSatir_ofList rfl⟩

/-- The age of a price. -/
def yasYazi (now : ℤ) (lastUpdate : Option ℤ) : KodMetni :=
  ⟨getPriceAgeText now lastUpdate, tekSatir_getPriceAgeText now lastUpdate⟩

section
variable (k : BaglamDb) (userId : ℕ) (workspaceId : Option ℕ) (today : Date) (now : ℤ)

/-- The checkpoints of the user, the most important first. -/
def kocCheckpointleri : List MasterCheckpoint :=
  ((k.kokpit.panel.db.checkpoints.select fun cp => cp.userId = userId ∧ cp.isActive ∧
    workspaceId.all fun ws => cp.workspaceId = some ws).mergeSort fun a b =>
      a.2.priority < b.2.priority ∨ a.2.priority = b.2.priority ∧ a.1 ≤ b.1).map Prod.snd

def tipYazi : CheckpointType → KodMetni
  | .redLine => yazi "RED_LINE"
  | .strategy => yazi "STRATEGY"
  | .rule => yazi "RULE"
  | .context => yazi "CONTEXT"

/-- `cp_text`. -/
def checkpointSatirlari : Bolum :=
  match kocCheckpointleri k userId workspaceId with
  | [] => [.kod (yazi "  (Henüz Master Checkpoint tanımlanmamış)")]
  | cps => cps.map fun cp => .girintili [
      .kod (yazi "[" ++ tipYazi cp.checkpointType ++ yazi " P" ++ tamYazi cp.priority ++ yazi "] "),
      .guvenli cp.title varsayilanAzami, .kod (yazi ": "), .guvenli cp.description 400]

def hesapTipiYazi : AccountType → KodMetni
  | .cash => yazi "cash"
  | .creditCard => yazi "credit_card"
  | .loan => yazi "loan"
  | .investment => yazi "investment"

/-- An amount that is there and not zero. -/
def doluysa (q : Option ℚ) : Option ℚ := q.filter (· ≠ 0)

/-- An investment account shows what its lots are worth. -/
def gorunenBakiye (a : Account) : ℚ :=
  match doluysa a.lotCount, doluysa a.currentPrice with
  | some lot, some fiyat => if a.accountType = .investment then roundEven (lot * fiyat) 2 else a.balance
  | _, _ => a.balance

def limitYazi (a : Account) (limit : ℚ) : KodMetni :=
  yazi " (limit " ++ ⟨trSayi ⌊limit⌋ 0, tekSatir_trSayi _ 0⟩ ++ yazi ", kullanım %" ++
    sayiYazi (roundEven (a.balance / limit * 100) 1) ++ yazi ")"

def taksitYazi (ek : HesapEki) (taksit : ℚ) : KodMetni :=
  yazi " (aylık " ++ fmtYazi taksit ++ yazi ", kalan " ++ noneVeya tamYazi ek.remainingInstallments ++
    yazi " taksit, sonraki " ++ noneVeya tarihYazi ek.nextPaymentDate ++ yazi ")"

/-- What it costs to close a loan today, or that this is not known. -/
def kapamaYazi : Option ℚ → KodMetni
  | some bedel => yazi " · BUGÜN KAPATMA BEDELİ " ++ paraYazi bedel ++
      yazi " (bakiye kalan taksit toplamıdır, kapatma bedeli DEĞİLDİR)"
  | none => yazi " · bugün kapatma bedeli BİLİNMİYOR (kullanıcıya sor, tahmin etme)"

def lotYazi (a : Account) (lastPriceUpdate : Option ℤ) (lot : ℚ) : KodMetni :=
  yazi " (lot " ++ sayiYazi lot ++ yazi ", fiyat " ++ noneVeya sayiYazi a.currentPrice ++ yazi ", maliyet/lot " ++
    noneVeya sayiYazi a.costPerLot ++ yazi ")" ++
    if isPriceStale now lastPriceUpdate then
      yazi " ⚠️ FİYAT BAYAT (" ++ yasYazi now lastPriceUpdate ++ yazi " güncellendi)"
    else yazi ""

def hesapSatirYazisi (id : ℕ) (a : Account) : Satir Parca :=
  let ek := k.kokpit.panel.hesapEki id
  let oran := k.oran id
  .girintili [
    .kod (yazi "- id=" ++ tamYazi id ++ yazi " [" ++ hesapTipiYazi a.accountType ++ yazi "] "),
    .guvenli a.name varsayilanAzami,
    .kod (yazi ": " ++ paraYazi (gorunenBakiye a) ++
      (if a.isEmanet then yazi " 🔒 EMANET (DOKUNULMAZ)" else yazi "") ++
      (if a.accountType = .creditCard then varsa (doluysa a.creditLimit) (limitYazi a) else yazi "") ++
      (if a.accountType = .loan then varsa (doluysa ek.monthlyPayment) (taksitYazi ek) ++ kapamaYazi oran.earlyPayoffAmount
        else yazi "") ++
      (if a.accountType = .investment then varsa (doluysa a.lotCount) (lotYazi now a oran.lastPriceUpdate) else yazi ""))]

/-- `accounts_text`; without an account it is an empty line. -/
def hesapSatirlari : Bolum :=
  match kapsamSatirlari k.kokpit.panel.db.accounts userId workspaceId with
  | [] => [.kod (yazi "")]
  | accounts => accounts.map fun a => hesapSatirYazisi k now a.1 a.2

/-- The return with a decimal comma. -/
def getiriYazi (q : ℚ) : KodMetni where
  metin := (if 0 ≤ q then "+" else "-") ++ toString ((nearestEven (|q| * 100)).toNat / 100) ++ "," ++
    Date.padded 2 ((nearestEven (|q| * 100)).toNat % 100)
  tekSatir := by
    refine tekSatir_append.mpr ⟨tekSatir_append.mpr ⟨tekSatir_append.mpr ⟨?_, tekSatir_dogal _⟩,
      tekSatir_ofList rfl⟩, tekSatir_padded 2 _⟩
    split_ifs
    · exact tekSatir_ofList rfl
    · exact tekSatir_ofList rfl

/-- `calculate_investment_pnl` of an own account with lots, a cost and a price, as a line. -/
def pnlSatiri (id : ℕ) (a : Account) : Option (Satir Parca) :=
  match doluysa a.lotCount, doluysa a.costPerLot, doluysa a.currentPrice with
  | some lot, some maliyet, some fiyat =>
    let toplamMaliyet := roundEven (lot * maliyet) 2
    let guncelDeger := roundEven (lot * fiyat) 2
    let brutKar := roundEven (guncelDeger - toplamMaliyet) 2
    let getiri := if 0 < toplamMaliyet then roundEven (brutKar / toplamMaliyet * 100) 2 else 0
    let lastUpdate := (k.oran id).lastPriceUpdate
    some (.girintili [.kod (yazi "- "), .guvenli a.name varsayilanAzami, .kod (yazi " ("),
      .guvenli ((k.kokpit.panel.hesapEki id).fundCode.getD "") 40,
      .kod (yazi "): maliyet " ++ paraYazi toplamMaliyet ++ yazi " → değer " ++ paraYazi guncelDeger ++
        yazi " (brüt kâr " ++ artiYazi brutKar ++ paraYazi brutKar ++ yazi ", getiri %" ++ getiriYazi getiri ++ yazi ")" ++
        if isPriceStale now lastUpdate then yazi " ⚠️ FİYAT BAYAT (" ++ yasYazi now lastUpdate ++ yazi ")" else yazi "")])
  | _, _, _ => none

/-- `pnl_text`. -/
def pnlSatirlari : Bolum :=
  match ((turHesaplari k.kokpit.panel.db userId workspaceId .investment).filter fun a => !a.2.isEmanet).filterMap
    fun a => pnlSatiri k now a.1 a.2 with
  | [] => [.kod (yazi "  (Yatırım yok)")]
  | satirlar => satirlar

/-- An entry of `upcoming_payments` as the context shows it. -/
structure OdemeSatiri where
  ad : String
  tutar : ℚ
  tarih : MonthDay
  tip : String

/-- `upcoming_payments`: the loans, the cards and the expected incomes by their day. -/
def upcomingPayments : List OdemeSatiri :=
  let odemeler := (yaklasanOdemeler k.kokpit.panel userId workspaceId today.monthDay).map fun p =>
    OdemeSatiri.mk p.ad p.tutar p.tarih (if p.tip = .krediTaksit then "kredi_taksit" else "kart_odeme")
  let gelirler := (calculateExpectedIncomeUntilEom k.kokpit.panel userId workspaceId today).2.map fun g =>
    OdemeSatiri.mk g.ad g.tutar g.tarih "gelir"
  (odemeler ++ gelirler).mergeSort fun a b => a.tarih ≤ b.tarih

/-- `payments_text`. -/
def odemeSatirlari : Bolum :=
  match upcomingPayments k userId workspaceId today with
  | [] => [.kod (yazi "  (Yaklaşan ödeme yok)")]
  | odemeler => odemeler.map fun p => .girintili [.kod (yazi "- " ++ turkishDate p.tarih ++ yazi ": "),
      .guvenli p.ad varsayilanAzami, .kod (yazi " → " ++ paraYazi p.tutar ++ yazi " ("), .guvenli p.tip 40,
      .kod (yazi ")" ++ daySuffix p.tarih today.monthDay)]

/-- `_collect_upcoming_receivables`. -/
def upcomingReceivables : List (PersonalDebt × MonthDay) :=
  ((odenmemisler k.kokpit.panel userId workspaceId .receivable).filterMap fun d =>
    match d.2.dueDate with
    | none => none
    | some due =>
      if today.monthDay ≤ due.monthDay ∧ due.monthDay ≤ today.monthDay.addDays 90 then some (d.2, due.monthDay)
      else none).mergeSort fun a b => a.2 ≤ b.2

/-- `receivables_text`. -/
def alacakSatirlari : Bolum :=
  match upcomingReceivables k userId workspaceId today with
  | [] => [.kod (yazi "  (Yaklaşan tahsilat yok)")]
  | alacaklar => alacaklar.map fun r => .girintili [.kod (yazi "- " ++ turkishDate r.2 ++ yazi ": "),
      .guvenli r.1.counterparty varsayilanAzami, .kod (yazi " → " ++ paraYazi r.1.amount ++ yazi " ("),
      .guvenli (r.1.description.getD "") varsayilanAzami, .kod (yazi ")" ++ daySuffix r.2 today.monthDay)]

def seviyeYazi : Seviye → KodMetni
  | .kritik => yazi "KRITIK"
  | .uyari => yazi "UYARI"

/-- `alerts_text`: the alerts come as they are. -/
def uyariSatirlari (alerts : List Uyari) : HamBolum :=
  match alerts with
  | [] => [.kod (yazi "  (Uyarı yok)")]
  | alerts => alerts.map fun a => .girintili [.temiz (.kod (yazi "- [" ++ seviyeYazi a.seviye ++ yazi "] ")), .ham a.baslik,
      .temiz (.kod (yazi ": ")), .ham a.mesaj]

def eylemTipiYazi : EylemTipi → KodMetni
  | .temerrut => yazi "TEMERRUT"
  | .kriz => yazi "KRIZ"
  | .tahsilat => yazi "TAHSILAT"
  | .firsat => yazi "FIRSAT"
  | .stabil => yazi "STABIL"

/-- `ilk_adim_block`: the recommended step comes as it is. -/
def ilkAdimSatirlari : Option SonrakiEylem → HamBolum
  | none => []
  | some se => basliklar (yazi "# 🎯 ÖNERİLEN İLK ADIM (deterministik — bunu AÇIKLA, türetme)") [
      .girintili [.temiz (.kod (yazi "- [" ++ eylemTipiYazi se.tip ++ yazi "] ")), .ham se.eylem],
      .girintili [.temiz (.kod (yazi "- Gerekçe: ")), .ham se.gerekce]]

/-- `statu`. -/
def statuYazi (r : KokpitRakamlari) : KodMetni :=
  let nakit := nakitToplami k.kokpit.panel.db userId workspaceId
  let kalan := tamYazi (getMonthRemainingDays today.monthDay : ℕ)
  if r.reelButce < 0 then yazi "Reel bütçe negatif — kart borcu nakdi aşıyor. Hayatta kalma modu."
  else if 0 < nakit ∧ 2 < kartBorcu k.kokpit.panel userId workspaceId / nakit then
    yazi "Kart borcu nakdin iki katından fazla. Likidite baskısı yüksek."
  else if r.dailyLimit < 100 then
    yazi "Ay sonuna " ++ kalan ++ yazi " gün, günlük limit " ++ kurussuzYazi r.dailyLimit ++ yazi ". Sıkı dönem."
  else yazi "Ay sonuna " ++ kalan ++ yazi " gün, günlük limit " ++ kurussuzYazi r.dailyLimit ++ yazi "."

/-- `net_deger_block`. -/
def netDegerSatirlari (r : KokpitRakamlari) : Bolum :=
  let alacak := (odenmemisTutarlar k.kokpit.panel userId workspaceId .receivable).sum
  let borc := (odenmemisTutarlar k.kokpit.panel userId workspaceId .payable).sum
  let alacakYazi := yazi "+" ++ paraYazi alacak ++ yazi " alacak"
  let borcYazi := yazi "−" ++ paraYazi borc ++ yazi " kişisel borç"
  if 0 < alacak ∨ 0 < borc then [
    .kod (yazi "  - Görülen Net Değer : " ++ paraYazi r.netDeger ++ yazi " (operasyonel, alacak/borç hariç)"),
    .kod (yazi "  - Tam Net Değer     : " ++ paraYazi r.netDegerTam ++ yazi " (stratejik, " ++
      (if 0 < alacak then if 0 < borc then alacakYazi ++ yazi ", " ++ borcYazi else alacakYazi else borcYazi) ++
      yazi " dahil)")]
  else [.kod (yazi "  - Net Değer         : " ++ paraYazi r.netDeger)]

def anaGostergeler (r : KokpitRakamlari) : Bolum :=
  basliklar (yazi "## Ana Göstergeler") ([
    .kod (yazi "  - Nakit Kasa        : " ++ paraYazi r.nakitKasa),
    .kod (yazi "  - Kart Borcu        : " ++ paraYazi r.kartBorcu),
    .kod (yazi "  - Kredi Borcu       : " ++ paraYazi r.krediBorcu),
    .kod (yazi "  - Yatırım Değeri    : " ++ paraYazi r.yatirimDeger)] ++
    (if 0 < r.emanetKasa then [.kod (yazi "  - Emanet Kasa       : " ++ paraYazi r.emanetKasa ++ yazi " (DOKUNULMAZ)")]
      else []) ++ [
    .kod (yazi "  - Beklenen Gelir    : " ++ paraYazi r.beklenenGelir),
    .kod (yazi "  - Reel Bütçe        : " ++ paraYazi r.reelButce)] ++ netDegerSatirlari k userId workspaceId r)

/-- `_s_txt`. -/
def senaryoYazi (s : OdemeSenaryosu) : KodMetni :=
  if s.tampon = 0 then
    yazi "hiç kenarda tutmazsan " ++ paraYazi s.odenebilir ++ yazi " (ama cebin bugün boşalır — riskli)"
  else paraYazi s.tampon ++ yazi " kenarda tutarsan " ++ paraYazi s.odenebilir ++
    if s.varsayilan then yazi " (dengeli)" else yazi ""

/-- `borc_odeme_line`. -/
def borcOdemeSatirlari : GuvenliBorcOdemesi → Bolum
  | .uygun kart kredi _ _ _ _ _ senaryolar => [.girintili (
      .kod (yazi "- Borca bugün güvenle yatırılabilir nakit (mevcut borç: kart " ++ paraYazi kart ++ yazi ", kredi " ++
        paraYazi kredi ++ yazi "): ") ::
      aralikli (.kod (yazi "; ")) (senaryolar.map fun s => [.kod (senaryoYazi s)]) ++
      [.kod (yazi ". Sorulan borç 0 ise oraya ödeme önerme.")])]
  | .borcYok kart kredi => [.kod (yazi "  - Ödenecek borç yok (kart " ++ paraYazi kart ++ yazi ", kredi " ++ paraYazi kredi ++
      yazi "). Kullanıcı 'ne kadar ödeyeyim' derse 'borcun yok, ödeme gerekmiyor' de; " ++
      yazi "0-bakiyeli borca ASLA ödeme önerme.")]

/-- The limit of tomorrow where nothing is spent today. -/
def yarinLimitHarcamasiz (r : KokpitRakamlari) : ℚ :=
  let kalan := getMonthRemainingDays today.monthDay
  if 1 < kalan then roundEven (r.reelButce / ((kalan - 1 : ℕ) : ℚ)) 2 else roundEven r.reelButce 2

def bugunkuLimit (kokpit : Kokpit) : Bolum :=
  let r := kokpit.rakamlar
  basliklar (yazi "## Bugünkü Limit") ([
    .kod (yazi "  - Ay sonuna kalan   : " ++ tamYazi (getMonthRemainingDays today.monthDay : ℕ) ++ yazi " gün"),
    .kod (yazi "  - Günlük limit      : " ++ paraYazi r.dailyLimit ++ yazi "/gün"),
    .kod (yazi "  - Bugünkü hedef     : " ++ paraYazi r.dailyLimit ++ yazi " (devreden +" ++ paraYazi 0 ++ yazi ")"),
    .kod (yazi "  - Bugün harcamazsan : yarınki limit " ++ paraYazi (yarinLimitHarcamasiz today r) ++
      yazi "/gün (zikzak: biriken güç)"),
    .kod (yazi "  - Güvenli harcama   : " ++ paraYazi r.guvenliHarcama ++
      yazi " (gelecek yükümlülükler + kart borcu düşülünce bugün gerçekten güvenle harcanabilir tutar; " ++
      yazi "0 ise güvenli boşta para yok)"),
    .kod (yazi "  - Nakit runway      : " ++ ((kokpit.nakitRunwayGun.map tamYazi).getD (yazi "—")) ++
      yazi " gün (gelirsiz mevcut nakit son 30g harcama hızıyla kaç gün yeter)")] ++
    borcOdemeSatirlari r.guvenliBorcOdemesi)

/-- `fiyat_bayat_block`. -/
def fiyatBayatSatirlari : Bolum :=
  match bayatFiyatlar k.kokpit k.oran userId workspaceId now with
  | [] => []
  | bayatlar =>
    let yas := noneVeya (yasYazi now) ((bayatlar.mergeSort dahaEski).head?.map Prod.fst)
    basliklar (yazi "## ⚠️ FİYAT TAZELİĞİ — YATIRIM FİYATLARI BAYAT") [
      .kod (yazi "  - " ++ tamYazi bayatlar.length ++ yazi " yatırım hesabının fiyatı güncellenmiyor (en eskisi: " ++ yas ++
        yazi " güncellendi)."),
      .kod (yazi "  - Yukarıdaki Yatırım Değeri ve K/Z bu ESKİ fiyatlardan hesaplandı."),
      .kod (yazi "  (Bu rakamları verirken 'şu anki/güncel değerin' DEME — '" ++ yas ++
        yazi " güncellenen fiyata göre' diye söyle. Satış/alım konuşulursa önce fiyatı doğrulamasını söyle. " ++
        yazi "Güncel fiyat UYDURMA.)")]

/-- The text of the cockpit and the checkpoints, before the sections that are added where there is something to say. -/
def panelBolumu (kokpit : Kokpit) : HamBolum :=
  let r := kokpit.rakamlar
  let diger := digerBolumler k.kokpit k.oran userId workspaceId today now
  .kod (yazi "") :: .kod (yazi "# PANEL — BUGÜNKÜ DURUM") :: .kod (yazi "") ::
  .kod (yazi "Tarih: " ++ turkishDate today.monthDay) :: .kod (yazi "Statü: " ++ statuYazi k userId workspaceId today r) ::
  (ilkAdimSatirlari (sonrakiEylem k.kokpit.panel userId workspaceId today diger r) ++
    temizBolum (anaGostergeler k userId workspaceId r ++ bugunkuLimit today kokpit ++
      basliklar (yazi "## Hesaplar") (hesapSatirlari k userId workspaceId now) ++
      basliklar (yazi "## Yatırım K/Z") (pnlSatirlari k userId workspaceId now) ++ fiyatBayatSatirlari k userId workspaceId now ++
      basliklar (yazi "## Yaklaşan Ödemeler") (odemeSatirlari k userId workspaceId today) ++
      basliklar (yazi "## Yaklaşan Tahsilatlar") (alacakSatirlari k userId workspaceId today)) ++
    basliklar (yazi "## Uyarılar")
      (uyariSatirlari (kokpitUyarilari k.kokpit.panel userId workspaceId today diger.taramalar r.reelButce)) ++
    temizBolum (basliklar (yazi "# MASTER CHECKPOINT'LER")
      (.kod (yazi "") :: checkpointSatirlari k userId workspaceId ++ [.kod (yazi "")])))

end
end FinancialOs.Rules
