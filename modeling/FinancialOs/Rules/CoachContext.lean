import FinancialOs.Rules.CoachPanel

/-! `_build_context_message`: the context of the coach. Behind the panel stand the sections that are added where
there is something to say. -/
namespace FinancialOs.Rules
open Library Store

inductive HatirlatmaTipi where
  | income | expense | debt | receivable | cardPayment
  deriving DecidableEq

/-- An entry of `upcoming_reminders`. -/
structure Hatirlatma where
  tip : HatirlatmaTipi
  name : String
  amount : ℚ
  daysUntil : ℕ
  accountName : String
  cardRisk : Bool

/-- `generate_monthly_summary`, as far as the context shows it. -/
structure AyOzeti where
  transactionCount : ℕ
  totalIncome : ℚ
  totalExpense : ℚ
  netChange : ℚ
  savingsRate : Option ℚ
  expenseDeltaPct : Option ℚ
  netChangeDelta : ℚ
  enCok : Option (String × ℚ × ℚ)

structure Konsolidasyon where
  borcAdet : ℕ
  toplamBakiye : ℚ
  agirlikliOrtOran : ℚ
  enDusukOran : ℚ
  enYuksekOran : ℚ

structure BorcIlerleme where
  ilerleme : Bool
  yeniMilestone : Option ℕ
  baslangicTarih : Date
  odendi : ℚ
  yuzde : ℚ
  baslangicBorc : ℚ
  guncelBorc : ℚ

inductive KartBandi where
  | saglikli | orta | yuksek | kritik
  deriving DecidableEq

structure KartTrendi where
  gun : ℕ
  baslangicOran : ℚ
  degisim : ℚ
  iyilesme : Bool

structure KartKullanimi where
  oran : ℚ
  band : KartBandi
  toplamBorc : ℚ
  toplamLimit : ℚ
  saglikliBorcHedefi : ℚ
  trend : Option KartTrendi

structure ZarfDurumu where
  category : String
  butce : ℚ
  harcanan : ℚ
  asildi : Bool

structure Zarflar where
  zarflar : List ZarfDurumu
  toplamButce : ℚ
  toplamHarcanan : ℚ
  toplamKalan : ℚ

inductive SaglikSeviyesi where
  | iyi | orta | kritik
  deriving DecidableEq

structure SaglikSkoru where
  skor : ℤ
  seviye : SaglikSeviyesi
  bilesenler : List (String × ℤ)

structure Stopaj where
  tryMevduat6ay : ℚ
  yururluk : Date
  bayat : Bool

/-- `calculate_getiri_esigi` where the interest of a debt is known. -/
structure GetiriEsigi where
  esikAylikYuzde : ℚ
  esikKaynak : String
  gerekenBrutYillik : Option ℚ
  stopaj : Stopaj
  oransizKalem : ℕ

/-- The sections of the cockpit that other modules fill in; their texts go through the sanitiser. -/
structure KokpitBolumleri where
  reminders : List Hatirlatma
  ayOzeti : Option AyOzeti
  konsolidasyon : Option Konsolidasyon
  borcIlerleme : Option BorcIlerleme
  kartKullanim : Option KartKullanimi
  zarflar : Zarflar
  saglikSkoru : SaglikSkoru
  getiriEsigi : Option GetiriEsigi

section
variable (k : BaglamDb) (userId : ℕ) (workspaceId : Option ℕ) (today : Date) (now : ℤ)

def gunEtiketi (d : ℕ) : KodMetni :=
  if d = 0 then yazi "Bugün" else if d = 1 then yazi "Yarın" else tamYazi d ++ yazi " gün sonra"

def hatirlatmaTipiYazi : HatirlatmaTipi → KodMetni
  | .income => yazi "income"
  | .expense => yazi "expense"
  | .debt => yazi "debt"
  | .receivable => yazi "receivable"
  | .cardPayment => yazi "card_payment"

/-- The reminders of the next seven days. -/
def vadeSatirlari (reminders : List Hatirlatma) : Bolum :=
  match reminders with
  | [] => []
  | reminders => basliklar (yazi "## YAKLAŞAN VADELER (0-7 gün)") (reminders.map fun r =>
      .girintili ([.kod (yazi "- " ++ gunEtiketi r.daysUntil ++ yazi ": "), .guvenli r.name varsayilanAzami,
        .kod ((if r.tip = .income ∨ r.tip = .receivable then yazi " +" else yazi " -") ++ paraYazi r.amount ++ yazi " (" ++
          hatirlatmaTipiYazi r.tip)] ++
        (if r.accountName = "" then [] else [.kod (yazi ", "), .guvenli r.accountName varsayilanAzami]) ++
        [.kod (yazi ")" ++ if r.tip = .cardPayment then yazi " 💳 SON ÖDEME"
          else if r.cardRisk then yazi " ⚠️ KART RİSKİ" else yazi "")]))

/-- The categories of the last thirty days beside those of the thirty before. -/
def kalipSatirlari (patterns : List CategoryPattern) : Bolum :=
  match patterns with
  | [] => []
  | patterns => basliklar (yazi "## Davranış Kalıpları (son 30 gün / önceki 30 gün)") (patterns.map fun p =>
      .girintili [.kod (yazi "- "), .guvenli p.category varsayilanAzami,
        .kod (yazi ": " ++ paraYazi p.prev30d ++ yazi " → " ++ paraYazi p.curr30d ++ yazi " " ++
          ((p.changePct.map fun q => yazi "(" ++ artiYazi q ++ kesirsizYazi q ++ yazi "%)").getD (yazi "(yeni)")) ++
          if p.anomalyFlag then yazi " ⚠️ ANOMALİ" else yazi "")])

/-- The month so far, where it has a transaction. -/
def aySatirlari : Option AyOzeti → Bolum
  | none => []
  | some o =>
    if o.transactionCount = 0 then []
    else basliklar (yazi "## BU AY (" ++ turkishMonth today.month ++ yazi " " ++ tamYazi today.year ++ yazi " — ay içi)") ([
      .kod (yazi "  - Gelir " ++ paraYazi o.totalIncome ++ yazi " | Gider " ++ paraYazi o.totalExpense ++ yazi " | Net " ++
        paraYazi o.netChange ++ varsa o.savingsRate fun q => yazi ", tasarruf oranı %" ++ kesirsizYazi q),
      .kod (yazi "  - Trend: " ++ ((o.expenseDeltaPct.map fun q => yazi "gider geçen aya göre %" ++ artiYazi q ++
        kesirsizYazi q).getD (yazi "gider (önceki ay verisi yok)")) ++ yazi " (net değişim Δ " ++
        paraYazi o.netChangeDelta ++ yazi ")")] ++
      o.enCok.toList.map fun e => .girintili [.kod (yazi "- En çok: "), .guvenli e.1 varsayilanAzami,
        .kod (yazi " " ++ paraYazi e.2.1 ++ yazi " (%" ++ kesirsizYazi e.2.2 ++ yazi ")")])

/-- The latest transactions; the category comes as it is. -/
def sonIslemSatirlari (sonIslemler : List SonIslem) : HamBolum :=
  match sonIslemler with
  | [] => []
  | sonIslemler => basliklar (yazi "## SON İŞLEMLER (en yeni ilk)") (sonIslemler.map fun t =>
      .girintili ([.temiz (.kod (yazi "- " ++ tarihYazi t.tarih ++ (if t.tip = .income then yazi ": +" else yazi ": -") ++
        paraYazi t.tutar ++ yazi " (")), .ham t.kategori, .temiz (.kod (yazi ")"))] ++
        if t.aciklama = "" then [] else [.temiz (.kod (yazi " — ")), .temiz (.guvenli t.aciklama varsayilanAzami)]))

/-- `collect_debts`, under the scope in which the context is asked for, the dearest first. -/
def cigBorclari (kapsam : Option ℕ) : List AdliBorc := adliBorclar k.kokpit k.oran userId kapsam

/-- `name_by_id` of an account of the order, or its id. -/
def borcAdi (borclar : List AdliBorc) (aid : ℕ) : HamParca :=
  match borclar.find? fun d => d.accountId = aid with
  | some d => .ham d.name
  | none => .temiz (.kod (tamYazi aid))

/-- `order_names`. -/
def oncelikSirasi (borclar : List AdliBorc) (order : List ℕ) : List HamParca :=
  aralikli (.temiz (.kod (yazi " → "))) ((order.take 6).map fun aid => [borcAdi borclar aid])

/-- The end of the debts on their minimum payments, with the order in which they go; where the end lies behind
the last year of the calendar, the section is left out. -/
def ozgurlukSatirlari (kapsam : Option ℕ) : HamBolum :=
  match cigBorclari k userId kapsam with
  | [] => []
  | borclar =>
    let av := calcAvalanche (borclar.map AdliBorc.toDebtItem) 0 today
    let sira : Satir HamParca :=
      .girintili (.temiz (.kod (yazi "- Öncelik sırası: ")) :: oncelikSirasi borclar av.order)
    let baslik := yazi "## BORÇ ÖZGÜRLÜĞÜ (Borç Çığı — en yüksek faiz önce, min. ödeme senaryosu)"
    if maxMonths ≤ av.monthsToFreedom then
      basliklar baslik [.kod (yazi "  - Minimum ödemelerle makul sürede kapanmıyor — ek ödeme şart."), sira]
    else
      match av.payoffDate with
      | none => []
      | some tarih => basliklar baslik [.kod (yazi "  - ~" ++ tamYazi av.monthsToFreedom ++ yazi " ay (≈" ++ tarihYazi tarih ++
          yazi "), toplam faiz " ++ paraYazi av.totalInterestPaid), sira]

/-- The rate below which one loan for all the debts pays. -/
def konsolidasyonSatirlari : Option Konsolidasyon → Bolum
  | none => []
  | some ks =>
    if ks.borcAdet < 2 then []
    else basliklar (yazi "## KONSOLİDASYON EŞİĞİ (" ++ tamYazi ks.borcAdet ++ yazi " borç, toplam " ++
        paraYazi ks.toplamBakiye ++ yazi ")") [
      .kod (yazi "  - Ağırlıklı ortalama faiz: %" ++ ondalikliYazi 2 ks.agirlikliOrtOran ++ yazi "/ay (dağılım %" ++
        ondalikliYazi 2 ks.enDusukOran ++ yazi "–%" ++ ondalikliYazi 2 ks.enYuksekOran ++ yazi ")"),
      .kod (yazi "  - Konsolidasyon (tek krediye toplama) SADECE teklif edilen oran %" ++
        ondalikliYazi 2 ks.agirlikliOrtOran ++ yazi "/ay ALTINDAYSA faiz olarak avantajlı. " ++
        yazi "Nötr eşik — tavsiye değil; kullanıcı teklif oranını söylerse karşılaştır.")]

/-- The overdue receivables, the oldest first. -/
def yaslandirmaSatirlari : Bolum :=
  match calculateReceivablesAging k.kokpit.panel userId workspaceId today with
  | none => []
  | some ag =>
    if ag.gecikmisAdet = 0 then []
    else basliklar (yazi "## ALACAK YAŞLANDIRMA (" ++
        tamYazi (odenmemisler k.kokpit.panel userId workspaceId .receivable).length ++ yazi " alacak, " ++
        tamYazi ag.gecikmisAdet ++ yazi " gecikmiş = " ++ paraYazi ag.toplamGecikmis ++ yazi ")") [
      .girintili (.kod (yazi "- En riskli (en çok geciken önce): ") ::
        aralikli (.kod (yazi "; ")) (ag.enRiskli.map fun e => [.guvenli e.kim varsayilanAzami,
          .kod (yazi " " ++ paraYazi e.tutar ++ yazi " (" ++ tamYazi e.gecikmeGun ++ yazi "g)")])),
      .kod (yazi "  - Nakit dar — önce en eski gecikeni tahsil et (solvency-kritik).")]

def tuzakSatiri (c : KartTuzagi) : Satir Parca :=
  .girintili [.kod (yazi "- "), .guvenli c.ad varsayilanAzami,
    .kod (if c.aslaBitmez then yazi ": yalnız asgariyle ASLA kapanmaz (asgari < faiz, borç büyüyor)"
      else yazi ": yalnız asgariyle " ++ tamYazi c.ay ++ yazi " ay, toplam " ++ paraYazi c.toplamFaiz ++ yazi " faiz (biter " ++
        noneVeya tarihYazi c.payoffTarih ++ yazi ")")]

/-- The cards whose minimum rests on assumed figures. -/
def varsayimSatirlari (kartlar : List KartTuzagi) : Bolum :=
  match kartlar.filter KartTuzagi.asgariVarsayimsal with
  | [] => []
  | varsayim => [.girintili (.kod (yazi "- ⚠️ Şu kart(lar)ın asgarisi VARSAYIM: ") ::
      aralikli (.kod (yazi ", ")) (varsayim.map fun c => [.guvenli c.ad varsayilanAzami]) ++
      [.kod (yazi " — asgari oranı ya da son ekstre borcu girilmemiş, varsayılan oran ve güncel " ++
        yazi "borç kullanıldı. Bu tutarı KESİN gibi söyleme; kullanıcıya ekstresindeki " ++
        yazi "asgariyi sor ya da teyit etmesini iste.")])]

/-- What the cards cost on their minimum payments. -/
def tuzakSatirlari : Bolum :=
  match asgariTuzagi k.kokpit k.oran userId workspaceId today with
  | none => []
  | some t => basliklar (yazi "## KART ASGARİ ÖDEME TUZAĞI (sadece asgari ödeme senaryosu)")
      ((t.kartlar.take 2).map tuzakSatiri ++
        [.kod (yazi "  - Asgarinin üstüne her ek ödeme süreyi ve toplam faizi hızla düşürür.")] ++
        varsayimSatirlari t.kartlar)

/-- The wishes that wait since a day, the oldest first. -/
def bekleyenIstekler : List WishlistItem :=
  ((k.wishlist.select fun w => w.userId = userId ∧ w.status = .pending ∧
    w.createdAt.any fun t => t ≤ now - 24 * saatMikro).map Prod.snd).mergeSort fun a b =>
      a.createdAt.getD 0 ≤ b.createdAt.getD 0

/-- The wish list; the wish comes as it is. -/
def istekSatirlari : HamBolum :=
  match bekleyenIstekler k userId now with
  | [] => []
  | istekler => basliklar (yazi "## İSTEK LİSTESİ — 24 SAAT DOLDU (hâlâ isteniyor mu SOR)")
      ((istekler.take 3).map (fun w => .girintili [.temiz (.kod (yazi "- ")), .ham w.item,
        .temiz (.kod (yazi " (" ++ paraYazi w.amount ++ yazi ")"))]) ++
      [.kod (yazi "  - 24 saat önce eklenen bu alımlar için 'hâlâ istiyor musun?' diye sor. " ++
        yazi "Kart borcu dururken bu tutarın faize dönüştüğünü (impuls maliyeti) hatırlat — " ++
        yazi "karar kullanıcının, sen sadece somut maliyeti göster.")])

/-- How far the debts went down, where they did. -/
def ilerlemeSatirlari : Option BorcIlerleme → Bolum
  | none => []
  | some bi =>
    if bi.ilerleme then basliklar (yazi "## BORÇ ÖDEME İLERLEMESİ (momentum — motive et)") ([
      .kod (yazi "  - " ++ tarihYazi bi.baslangicTarih ++ yazi "'ten beri " ++ paraYazi bi.odendi ++ yazi " borç ödedin (%" ++
        sayiYazi bi.yuzde ++ yazi " azalma, " ++ kesirsizYazi bi.baslangicBorc ++ yazi "→" ++ kesirsizYazi bi.guncelBorc ++
        yazi "). Bu ivmeyi vurgula — davranışsal momentum borç bitirmenin #1 faktörü.")] ++
      (bi.yeniMilestone.filter (0 < ·)).toList.map fun m => .kod (yazi "  - 🏆 KİLOMETRE TAŞI: Borcunu %" ++ tamYazi m ++
        yazi " azalttın! Bunu COŞKUYLA kutla — borç serüveninde gerçek bir dönüm noktası."))
    else []

def bandYazi : KartBandi → KodMetni
  | .saglikli => yazi "saglikli"
  | .orta => yazi "orta"
  | .yuksek => yazi "yuksek"
  | .kritik => yazi "kritik"

/-- How full the cards are, in the two upper bands. -/
def kullanimSatirlari : Option KartKullanimi → Bolum
  | none => []
  | some ku =>
    if ku.band = .yuksek ∨ ku.band = .kritik then basliklar (yazi "## KART KULLANIM ORANI (kredi sağlığı)") [
      .kod (yazi "  - Kullanım %" ++ sayiYazi ku.oran ++ yazi " (" ++ bandYazi ku.band ++ yazi "). Toplam borç " ++
        paraYazi ku.toplamBorc ++ yazi " / limit " ++ paraYazi ku.toplamLimit ++
        yazi ". %30 sağlıklı eşiğe inmek için borç " ++ paraYazi ku.saglikliBorcHedefi ++ yazi " seviyesine düşmeli." ++
        varsa ku.trend (fun tr => yazi " Trend: " ++ tamYazi tr.gun ++ yazi " günde %" ++ sayiYazi tr.baslangicOran ++
          yazi "→%" ++ sayiYazi ku.oran ++ (if tr.iyilesme then yazi " (iyileşiyor, " else yazi " (kötüleşiyor, ") ++
          artiYazi tr.degisim ++ ondalikliYazi 1 tr.degisim ++ yazi " puan).") ++
        yazi " Kredi notunda en ağır faktörlerden — her ödenen TL oranı doğrudan düşürür.")]
    else []

/-- The envelopes, with the first three that run over. -/
def zarfSatirlari (zd : Zarflar) (atanmamisNakit : ℚ) : Bolum :=
  match zd.zarflar with
  | [] => []
  | zarflar =>
    let asan := zarflar.filter ZarfDurumu.asildi
    basliklar (yazi "## BÜTÇE ZARFLARI") [
      .girintili (.kod (yazi "- Toplam bütçe " ++ paraYazi zd.toplamButce ++ yazi ", harcanan " ++ paraYazi zd.toplamHarcanan ++
        yazi ", kalan " ++ paraYazi zd.toplamKalan) ::
        if asan = [] then []
        else .kod (yazi " · AŞAN: ") :: aralikli (.kod (yazi ", ")) ((asan.take 3).map fun z =>
          [.guvenli z.category varsayilanAzami,
            .kod (yazi " (" ++ fmtYazi z.harcanan ++ yazi "/" ++ fmtYazi z.butce ++ yazi ")")])),
      .kod (yazi "  - Atanmamış (boşta) nakit: " ++ paraYazi atanmamisNakit ++
        yazi " (YNAB 'her liraya görev' — atanmamış para kolay harcanır)")]

/-- What the subscriptions cost. -/
def abonelikSatirlari : Bolum :=
  let abonelikler := detectSubscriptions k.kokpit userId workspaceId today
  let aylik := roundEven (abonelikler.map Prod.snd).sum 2
  if abonelikler.isEmpty then []
  else basliklar (yazi "## ABONELİK YÜKÜ (" ++ tamYazi abonelikler.length ++ yazi " tespit edildi)") [
    .kod (yazi "  - Aylık " ++ paraYazi aylik ++ yazi " · Yıllık " ++ paraYazi (roundEven (aylik * 12) 2) ++
      yazi " (kullanılmayan varsa iptal fırsatı — nakit dar)")]

def saglikSeviyesiYazi : SaglikSeviyesi → KodMetni
  | .iyi => yazi "iyi"
  | .orta => yazi "orta"
  | .kritik => yazi "kritik"

/-- The health score with its parts. -/
def skorSatirlari (hs : SaglikSkoru) : Bolum :=
  match hs.bilesenler with
  | [] => []
  | bilesenler => basliklar (yazi "## FİNANSAL SAĞLIK SKORU: " ++ tamYazi hs.skor ++ yazi "/100 (" ++
        saglikSeviyesiYazi hs.seviye ++ yazi ")") [
      .girintili (.kod (yazi "- Bileşenler: ") :: aralikli (.kod (yazi ", ")) (bilesenler.map fun b =>
        [.guvenli b.1 varsayilanAzami, .kod (yazi " " ++ tamYazi b.2)]))]

/-- What the interest on the debts costs. -/
def sizintiSatirlari : Bolum :=
  let aylik := roundEven (aylikFaizler k.kokpit k.oran userId workspaceId).sum 2
  if aylik ≤ 0 then []
  else basliklar (yazi "## FAİZ SIZINTISI (borç faiz maliyeti)") [
    .kod (yazi "  - Aylık " ++ paraYazi aylik ++ yazi " · Yıllık " ++ paraYazi (roundEven (aylik * 12) 2) ++
      yazi " faize gidiyor (her gün " ++ paraYazi (roundEven (aylik / 30) 2) ++ yazi "). Borç eritme = bu sızıntıyı durdurmak.")]

/-- What an investment has to bring beside paying the dearest debt. -/
def esikSatirlari : Option GetiriEsigi → Bolum
  | none => []
  | some ge =>
    if ge.esikAylikYuzde = 0 then []
    else basliklar (yazi "## GETİRİ EŞİĞİ (HESAPLANMIŞTIR — yeniden hesaplama, oku ve anlat)") ([
      .girintili [.kod (yazi "- En pahalı borcun: "), .guvenli ge.esikKaynak varsayilanAzami,
        .kod (yazi ", aylık %" ++ sayiYazi ge.esikAylikYuzde ++ yazi ". Parayı oraya koymak RİSKSİZ ve VERGİSİZ bu " ++
          yazi "kadar kazandırır — yatırımın aşması gereken eşik budur.")]] ++
      (doluysa ge.gerekenBrutYillik).toList.map (fun q => .kod (
        yazi "  - Bir mevduat/fon bu eşiği geçmek için BRÜT YILLIK en az %" ++ sayiYazi q ++ yazi " vermeli (stopaj %" ++
        sayiYazi ge.stopaj.tryMevduat6ay ++ yazi ", yürürlük " ++ tarihYazi ge.stopaj.yururluk ++
        yazi "). Altındaki her teklif, borcu ödemekten daha kötüdür.")) ++
      (if ge.stopaj.bayat then [.kod (yazi "  - UYARI: stopaj oranı tazelik penceresini aştı; " ++
        yazi "kullanıcıya oranın teyit edilmesi gerektiğini söyle.")] else []) ++
      (if ge.oransizKalem = 0 then [] else [.kod (yazi "  - " ++ tamYazi ge.oransizKalem ++
        yazi " borç kaleminin faiz oranı BİLİNMİYOR, eşiğe katılmadı — gerçek eşik daha yüksek olabilir.")]))

/-- The entries of the cash calendar, each with its direction in words. -/
def takvimSatirlari (nt : NakitTakvimi) : Bolum :=
  (nt.kalemler.zip nt.bakiyeler).map fun e => .girintili [
    .kod (yazi "  " ++ gunYazi e.1.tarih ++ (if e.1.giris then yazi "  GİRİŞ +" else yazi "  ÇIKIŞ -") ++
      paraYazi e.1.tutar ++ yazi "  "), .guvenli e.1.ad varsayilanAzami, .kod (yazi "  -> kalan " ++ paraYazi e.2)]

/-- The end of the month, or the two it may come to. -/
def aySonuYazisi (nt : NakitTakvimi) : KodMetni :=
  if 0 < nt.hesabiBelirsizToplam then
    yazi "  - AY SONU İKİ İHTİMAL: belirsiz harcama KARTTAN çıkarsa " ++ paraYazi nt.aySonuBakiye ++
      yazi " · NAKİTTEN çıkarsa " ++ paraYazi nt.aySonuBelirsizNakitse ++
      yazi "  <- İKİSİ DE HESAPLANMIŞTIR; hangisi olduğunu SOR, tek sayı verme"
  else yazi "  - Ay sonu: " ++ paraYazi nt.aySonuBakiye

/-- The names of what waits, with a comma between any two. -/
def adlar (ads : List String) : List Parca := aralikli (.kod (yazi ", ")) (ads.map fun ad => [.guvenli ad varsayilanAzami])

/-- What is paid by card, what has no account yet, and whether the cash runs out on the way. -/
def takvimNotlari (nt : NakitTakvimi) : Bolum :=
  (if 0 < nt.kartaYazilacakToplam then [.girintili (
    .kod (yazi "- BU AY KARTA YAZILACAK (nakitten ÇIKMAZ; kart borcunu büyütür ve GELECEK ay ödenir): " ++
      paraYazi nt.kartaYazilacakToplam ++ yazi " (") ::
    adlar (nt.kartaYazilacak.map BekleyenGider.ad) ++ [.kod (yazi ")")])] else []) ++
  (if 0 < nt.hesabiBelirsizToplam then [
    .girintili (.kod (yazi "- HESABI BELİRSİZ HARCAMA (yukarıdaki bakiyeye DAHİL DEĞİL): " ++
      paraYazi nt.hesabiBelirsizToplam ++ yazi " (") :: adlar (nt.hesabiBelirsiz.map BekleyenGider.ad) ++
      [.kod (yazi "). Nakitten çıkarsa bakiye o kadar azalır, karttan çıkarsa kart borcu o kadar büyür. " ++
        yazi "HANGİSİ OLDUĞUNU VARSAYMA — sor.")]),
    .kod (yazi "  - AY SONU, BU HARCAMA NAKİTTEN ÇIKARSA: " ++ paraYazi nt.aySonuBelirsizNakitse ++
      yazi "  <- HESAPLANMIŞTIR, sen çıkarma")] else []) ++
  if nt.acikVar then [.kod (yazi "  - UYARI: AY İÇİNDE AÇIK VAR — ay sonu artıda kapansa bile bu " ++
    yazi "tarihte ödeme kaçar. Kullanıcıya bu tarihi söyle.")] else []

/-- The cash to the end of the month; without an entry a line stays empty. -/
def nakitSatirlari (nt : NakitTakvimi) : Bolum :=
  if nt.kalemler.isEmpty ∧ nt.kartaYazilacak.isEmpty ∧ nt.hesabiBelirsiz.isEmpty then []
  else basliklar (yazi "## NAKİT TAKVİMİ (" ++ gunYazi nt.bugun ++ yazi " -> " ++ gunYazi nt.ufuk ++
      yazi ") — HESAPLANMIŞTIR, toplama yapma") (
    [.kod (yazi "  - Başlangıç nakit: " ++ paraYazi nt.baslangicNakit)] ++
    (if 0 < nt.yatirimdaBekleyen then [.girintili (
      .kod (yazi "- YATIRIMDA BEKLEYEN (nakde EKLENMEDİ; erişmek için çekmek/satmak gerekir): " ++
        paraYazi nt.yatirimdaBekleyen ++ yazi " (") :: adlar (nt.yatirimdaBekleyenKalemler.map Prod.fst) ++
      [.kod (yazi ") · erişilebilir toplam " ++ paraYazi nt.erisilebilirToplam)])] else []) ++
    (if nt.kalemler.isEmpty then [.kod (yazi "")] else takvimSatirlari nt) ++
    [.kod (yazi "  - Toplam giriş " ++ paraYazi nt.toplamGiris ++ yazi " · toplam çıkış " ++ paraYazi nt.toplamCikis),
      .kod (aySonuYazisi nt),
      .kod (yazi "  - EN DÜŞÜK nokta: " ++ paraYazi nt.enDusukBakiye ++ yazi " (" ++ gunYazi nt.enDusukTarih ++ yazi ")")] ++
    takvimNotlari nt)

def insightTipiYazi : InsightType → KodMetni
  | .actionRejectionPattern => yazi "ACTION_REJECTION_PATTERN"
  | .categoryAccountPreference => yazi "CATEGORY_ACCOUNT_PREFERENCE"
  | .explicitRedLine => yazi "EXPLICIT_RED_LINE"
  | .breakthrough => yazi "BREAKTHROUGH"
  | .setback => yazi "SETBACK"
  | .mcReferenceFrequency => yazi "MC_REFERENCE_FREQUENCY"
  | .questionTypology => yazi "QUESTION_TYPOLOGY"
  | .decisionRhythm => yazi "DECISION_RHYTHM"
  | .kullaniciBeyani => yazi "KULLANICI_BEYANI"

def guvenYazi : ConfidenceBasis → KodMetni
  | .dataGrounded => yazi "data_grounded"
  | .mcRule => yazi "mc_rule"
  | .patternGrounded => yazi "pattern_grounded"
  | .userStated => yazi "user_stated"

/-- The sanitised text, or what stands for an empty one. -/
def metinVeya (ham : Option String) (yoksa : KodMetni) : Parca :=
  let metin := ham.getD ""
  if guvenliMetin (some metin) 0 = "" then .kod yoksa else .guvenli metin 0

def insightBasligi (ins : CoachInsight) : Parca := metinVeya ins.title (yazi "(baslik yok)")

def insightIcerigi (ins : CoachInsight) : Parca := metinVeya (some ins.content) (yazi "(icerik yok)")

def insightEtiketi (ins : CoachInsight) : KodMetni :=
  yazi "[" ++ ((ins.insightType.map insightTipiYazi).getD (yazi "GENEL")) ++ yazi " | GUVEN: " ++
    ((ins.confidenceBasis.map guvenYazi).getD (yazi "unknown")) ++ yazi "]"

/-- `block` behind its empty line; the title and the content begin a line. -/
def insightSatirlari (ins : CoachInsight) : Baglam :=
  [.bagli (.kod (yazi "")), .bagli (.kod (insightEtiketi ins)), .acik (insightBasligi ins), .acik (insightIcerigi ins)]

def hafizaBasligi : KodMetni := yazi "## UZUN VADELI HAFIZA"

def hafizaAciklamasi : List KodMetni := [
  yazi "Bu kullanici hakkinda gecmis etkilesimlerden ogrenilen gerceklerdir.",
  yazi "Sabit kurallar DEGIL, gozlemlerdir. Yeni kanit geldikce guncellenir.",
  yazi "Her insight basliginda [TIP | GUVEN] etiketi vardir."]

/-- `token_tahmini` of a text of that length. -/
def tokenTahmini (uzunluk : ℕ) : ℕ := (2 * uzunluk + 6) / 7

/-- `count_tokens(header)`; each line has its end. -/
def baslikTokeni : ℕ := tokenTahmini ((hafizaBasligi :: hafizaAciklamasi).map fun t => t.metin.length + 1).sum

/-- `count_tokens(block)`; each line has its end, and an empty line is in front. -/
def blokTokeni (ins : CoachInsight) : ℕ :=
  tokenTahmini (4 + (insightEtiketi ins).metin.length + (insightBasligi ins).metin.chars.length +
    (insightIcerigi ins).metin.chars.length)

def hafizaButcesi : ℕ := 1500

/-- The insights that fit; the first that does not ends the block. -/
def sigan (used : ℕ) : List CoachInsight → List CoachInsight
  | [] => []
  | ins :: kalan =>
    if hafizaButcesi < used + blokTokeni ins then [] else ins :: sigan (used + blokTokeni ins) kalan

/-- The later evidence first, and none last. -/
def kanitOnce : Option ℤ → Option ℤ → Bool
  | some x, some y => y ≤ x
  | none, some _ => false
  | _, none => true

def hafizaOnce (a b : CoachInsight) : Bool :=
  b.sortPriority < a.sortPriority ∨ a.sortPriority = b.sortPriority ∧ kanitOnce a.lastEvidenceAt b.lastEvidenceAt

/-- The five insights about the user that come first; those about the coach itself stay out. -/
def hafizaInsightlari : List CoachInsight :=
  (((k.insights.select fun ins => ins.userId = userId ∧ ins.status = .active ∧
    ins.insightType ≠ some .mcReferenceFrequency ∧ ins.insightType ≠ some .questionTypology).map
      Prod.snd).mergeSort hafizaOnce).take 5

/-- The insights that the context shows. -/
def gosterilenler : List CoachInsight := sigan baslikTokeni (hafizaInsightlari k userId)

/-- How many insights did not fit, and the end of the last line. -/
def hafizaSonu (sigmayan : ℕ) : HamBolum :=
  (if 0 < sigmayan then [.kod (yazi ""), .kod (yazi "(... " ++ tamYazi sigmayan ++
    yazi " insight token butcesi sebebiyle gosterilmedi - DB'de mevcut)")] else []) ++ [.kod (yazi "")]

/-- `format_insights_for_prompt`. -/
def hafizaSatirlari : Baglam :=
  match hafizaInsightlari k userId with
  | [] => []
  | insights =>
    let shown := gosterilenler k userId
    (basliklar hafizaBasligi (hafizaAciklamasi.map .kod)).map .bagli ++ shown.flatMap insightSatirlari ++
      (hafizaSonu (insights.length - shown.length)).map .bagli

/-- The sections that are added behind the checkpoints, where there is something to say. -/
def ekBolumler (kapsam : Option ℕ) (b : KokpitBolumleri) (kokpit : Kokpit) : HamBolum :=
  temizBolum (vadeSatirlari b.reminders ++ kalipSatirlari kokpit.categoryPatterns ++ aySatirlari today b.ayOzeti) ++
    sonIslemSatirlari kokpit.sonIslemler ++ ozgurlukSatirlari k userId today kapsam ++
    temizBolum (konsolidasyonSatirlari b.konsolidasyon ++ yaslandirmaSatirlari k userId workspaceId today ++
      tuzakSatirlari k userId workspaceId today) ++
    istekSatirlari k userId now ++
    temizBolum (ilerlemeSatirlari b.borcIlerleme ++ kullanimSatirlari b.kartKullanim ++
      zarfSatirlari b.zarflar kokpit.rakamlar.atanmamisNakit ++ abonelikSatirlari k userId workspaceId today ++
      skorSatirlari b.saglikSkoru ++ sizintiSatirlari k userId workspaceId ++ esikSatirlari b.getiriEsigi ++
      nakitSatirlari kokpit.rakamlar.nakitTakvimi)

/-- `_build_context_message` before the lines are put together, where the coach is asked under a scope. The scan for
subscriptions looks 180 days back. -/
def buildContextMessage (safeDebtBuffer anomalyThreshold : ℚ) (kapsam : Option ℕ) (b : KokpitBolumleri) :
    Except PyError Baglam :=
  if gunNo today ≤ 180 then .error .overflowError
  else (generateCockpit safeDebtBuffer anomalyThreshold k.kokpit userId workspaceId today).map fun kokpit =>
    (panelBolumu k userId workspaceId today now kokpit ++
      ekBolumler k userId workspaceId today now kapsam b kokpit).map .bagli ++ hafizaSatirlari k userId

end
end FinancialOs.Rules
