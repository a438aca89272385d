import FinancialOs.Library.BacktrackingMatch
import FinancialOs.Library.TextScan
import FinancialOs.Rules.ExplicitRedLine
import FinancialOs.Rules.MoneyFormat

/-! The amounts that are written in a text, and the check of the coach's answers, which looks for the ground of each
amount they state. -/
namespace FinancialOs.Rules
open Library

/-- The code points of the decimal zeros; the other nine digits of each script follow. -/
def sifirlar : List ℕ := [0x30, 0x660, 0x6f0, 0x7c0, 0x966, 0x9e6, 0xa66, 0xae6, 0xb66, 0xbe6, 0xc66, 0xce6, 0xd66,
  0xde6, 0xe50, 0xed0, 0xf20, 0x1040, 0x1090, 0x17e0, 0x1810, 0x1946, 0x19d0, 0x1a80, 0x1a90, 0x1b50, 0x1bb0, 0x1c40,
  0x1c50, 0xa620, 0xa8d0, 0xa900, 0xa9d0, 0xa9f0, 0xaa50, 0xabf0, 0xff10, 0x104a0, 0x10d30, 0x11066, 0x110f0, 0x11136,
  0x111d0, 0x112f0, 0x11450, 0x114d0, 0x11650, 0x116c0, 0x11730, 0x118e0, 0x11950, 0x11c50, 0x11d50, 0x11da0, 0x16a60,
  0x16ac0, 0x16b50, 0x1d7ce, 0x1d7d8, 0x1d7e2, 0x1d7ec, 0x1d7f6, 0x1e140, 0x1e2f0, 0x1e950, 0x1fbf0]

/-- What a character is worth as a digit. -/
def rakamDegeri (c : Char) : Option ℕ :=
  (sifirlar.find? fun sifir => sifir ≤ c.toNat ∧ c.toNat < sifir + 10).map fun sifir => c.toNat - sifir

/-- `\d`. -/
def rakamMi (c : Char) : Bool := (rakamDegeri c).isSome

/-- `_BINLIK`: the dot and the blanks that stand between thousands. -/
def binlikAyraci (c : Char) : Bool := c = '.' ∨ c.toNat = 0x20 ∨ c.toNat = 0xA0 ∨ c.toNat = 0x202F ∨ c.toNat = 0x2009

def rakam : Matcher Char := .one rakamMi

/-- `\d{1,3}`. -/
def ilkGrup : Matcher Char := rakam.seq (.upTo 2 rakam)

/-- A separator of thousands and three digits. -/
def binlikGrup : Matcher Char := (Matcher.one binlikAyraci).seq (rakam.seq (rakam.seq rakam))

/-- `(?:,\d+)?`. -/
def kesir : Matcher Char := .upTo 1 ((Matcher.one fun c => c = ',').seq rakam.many1)

/-- `_SAYI`: grouped digits rather than plain ones. -/
def sayi : Matcher Char := (ilkGrup.seq (binlikGrup.many1.seq kesir)).alt (rakam.many1.seq kesir)

/-- What may not stand beside a number: `[\d.,]`. -/
def sayiKomsusu (c : Char) : Bool := rakamMi c ∨ c = '.' ∨ c = ','

/-- `_TUTAR_DESENI` at a place of a text: what is left of the text behind the first way to match. -/
def tutarDeseni (onceki : Option Char) (metin : List Char) : Option (List Char) :=
  if onceki.any sayiKomsusu then none else (sayi metin).find? fun kalan => !kalan.head?.any sayiKomsusu

/-- The digits of a text as a number. -/
def rakamlariOku (metin : List Char) : ℕ := metin.foldl (fun deger c => 10 * deger + (rakamDegeri c).getD 0) 0

/-- `_to_float_tr`, exactly: without separators of thousands, the comma before the decimals. -/
def toFloatTr (token : List Char) : ℚ :=
  let sade := token.filter fun c => !binlikAyraci c
  let tam := sade.takeWhile (· ≠ ',')
  let ondalik := (sade.dropWhile (· ≠ ',')).tail
  rakamlariOku (tam ++ ondalik) / 10 ^ ondalik.length

/-- `_TUTAR_DESENI.finditer`: the numbers of a text with where they begin. -/
def tutarlar (metin : String) : List (ℕ × List Char) := scan tutarDeseni 0 none 0 metin.toList

def metindekiTutarlar (metin : String) : List ℚ := (tutarlar metin).map fun m => |toFloatTr m.2|

example : metindekiTutarlar "kasada 4 573,52 TL, kartta 79.625,85 TL" = [457352 / 100, 7962585 / 100] := by
  decide +kernel

/-- A value of the cockpit; `diger` is what is no number. -/
inductive CockpitDegeri where
  | sayi (q : ℚ)
  | diger
  | liste (l : List CockpitDegeri)
  | sozluk (l : List (String × CockpitDegeri))

mutual

/-- `_collect_numeric`. -/
def collectNumeric : CockpitDegeri → List ℚ
  | .sayi q => [q]
  | .diger => []
  | .liste l => collectListe l
  | .sozluk l => collectSozluk l

def collectListe : List CockpitDegeri → List ℚ
  | [] => []
  | v :: l => collectNumeric v ++ collectListe l

def collectSozluk : List (String × CockpitDegeri) → List ℚ
  | [] => []
  | (_, v) :: l => collectNumeric v ++ collectSozluk l

end

/-- The bounds of the check, with what the coach leaves them at. -/
structure GroundingEsikleri where
  minMagnitude : ℚ := 100
  relTol : ℚ := 1 / 50
  absTol : ℚ := 1

def taninanEtiketler : List String := ["TL", "TRY", "₺"]

/-- `_BIRIM_SONRASI`: what is counted in these is no money. -/
def birimler : List String := ["gün", "gun", "ay", "yıl", "yil", "hafta", "saat", "dakika", "adet", "kez", "lot", "kişi",
  "kisi", "puan", "%", "yaş", "yas", "derece", "km", "kg", "tl/gün", "tl/gun"]

def bosluklar : Matcher Char := .many (.one boslukMu)

section Patterns
variable (kelime : Char → Bool)

/-- A label of money behind a number; `kelime` is `\w`. -/
def paraEtiketi : Matcher Char := bosluklar.seq ((erlSozcukler taninanEtiketler).seq (erlSon kelime))

/-- `_etiketli_desen` at a place of a text: what is left behind the number and behind its label. -/
def etiketliDesen (onceki : Option Char) (metin : List Char) : Option (List Char × List Char) :=
  if onceki.any sayiKomsusu then none
  else (sayi metin).findSome? fun kalan => (paraEtiketi kelime kalan).head?.map (kalan, ·)

/-- The labelled numbers of a text with where they begin. -/
def etiketliler (metin : List Char) : List (ℕ × List Char) :=
  (scan (fun onceki s => (etiketliDesen kelime onceki s).map Prod.snd) 0 none 0 metin).map fun m =>
    let s := metin.drop m.1
    (m.1, s.take (s.length - ((etiketliDesen kelime none s).map fun k => k.1.length).getD 0))

/-- A number that is written like money: with separators of thousands, or with two decimals. -/
def bicimliSayi : Matcher Char := (ilkGrup.seq (binlikGrup.many1.seq kesir)).alt
  (rakam.many1.seq ((Matcher.one fun c => c = ',').seq (rakam.seq rakam)))

/-- `\b` behind a character. -/
def kelimeSiniri (onceki : Option Char) : Matcher Char := fun s =>
  if s.head?.any kelime = onceki.any kelime then [] else [s]

def birimSonrasi : Matcher Char := bosluklar.seq fun s =>
  birimler.flatMap fun w => ((erlSozcuk w).seq (kelimeSiniri kelime w.toList.getLast?)) s

def yuzdeSonrasi : Matcher Char := bosluklar.seq (.one fun c => c = '%')

/-- `_etiketsiz_desen` at a place of a text. -/
def etiketsizDesen (onceki : Option Char) (metin : List Char) : Option (List Char) :=
  if onceki.any fun c => c = '%' ∨ sayiKomsusu c then none
  else (bicimliSayi metin).find? fun kalan => !kalan.head?.any sayiKomsusu && (paraEtiketi kelime kalan).isEmpty &&
    (birimSonrasi kelime kalan).isEmpty && (yuzdeSonrasi kalan).isEmpty

def etiketsizler (metin : List Char) : List (ℕ × List Char) := scan (etiketsizDesen kelime) 0 none 0 metin

end Patterns

/-- The ground an amount was found to have. -/
structure Dayanak where
  tutar : ℚ
  dayanak : ℚ
  sapmaYuzde : ℚ
  kaynak : String
  zayif : Bool
  deriving DecidableEq

structure GroundingSonucu where
  ok : Bool
  checked : ℕ
  unverified : List ℚ
  etiketsiz : List ℚ
  dogrulanan : List Dayanak
  zayif : ℕ
  zayifTutarlar : List ℚ
  deriving DecidableEq

section Check
variable (esik : GroundingEsikleri)

def yakinMi (val a : ℚ) : Bool := |val - a| ≤ max esik.absTol (esik.relTol * a)

/-- The nearest of the amounts that are near enough, the first of equals. -/
def enYakin (val : ℚ) (izinli : List ℚ) : Option ℚ :=
  izinli.foldl (fun en a => if yakinMi esik val a ∧ en.all fun e => |val - a| < |val - e| then some a else en) none

/-- `ZAYIF_BERAAT_ESIGI`, in percent. -/
def zayifBeraatEsigi : ℚ := 1 / 2

def dayanakYap (kokpit : List ℚ) (val en : ℚ) : Dayanak :=
  let sapma := if en = 0 then 0 else |val - en| / en * 100
  { tutar := roundEven val 2
    dayanak := en
    sapmaYuzde := roundEven sapma 2
    kaynak := if en ∈ kokpit then "cockpit" else "kullanici"
    zayif := zayifBeraatEsigi < sapma }

/-- `check_grounding`; `kelime` is `\w`, and `kume` the order in which the set of some amounts is gone through. -/
def checkGrounding (kelime : Char → Bool) (kume : List ℚ → List ℚ) (reply : String) (cockpit : CockpitDegeri)
    (userMessage : String) (gecmis : List String) : GroundingSonucu :=
  let kurus (v : ℚ) : ℚ := roundEven |v| 2
  let kokpit := (collectNumeric cockpit).map kurus
  let soylenen := ((userMessage :: gecmis).flatMap metindekiTutarlar).map kurus
  let allowed := kume (kokpit ++ soylenen)
  let metin := reply.toList
  let etiketli := etiketliler kelime metin
  let bakilan := (etiketli.map fun m => |toFloatTr m.2|).filter fun val => esik.minMagnitude ≤ val
  let unverified := (bakilan.filter fun val => (enYakin esik val allowed).isNone).map fun val => roundEven val 2
  let dogrulanan := bakilan.filterMap fun val => (enYakin esik val allowed).map (dayanakYap kokpit val)
  let disarida := (etiketsizler kelime metin).filter fun m =>
    !etiketli.any fun e => e.1 ≤ m.1 ∧ m.1 + m.2.length ≤ e.1 + e.2.length
  let etiketsiz := ((disarida.map fun m => |toFloatTr m.2|).filter fun val =>
    esik.minMagnitude ≤ val ∧ !allowed.any (yakinMi esik val)).map fun val => roundEven val 2
  let zayifTutarlar := (dogrulanan.filter Dayanak.zayif).map Dayanak.tutar
  { ok := unverified = [] ∧ etiketsiz = []
    checked := bakilan.length
    unverified := unverified
    etiketsiz := etiketsiz
    dogrulanan := dogrulanan
    zayif := zayifTutarlar.length
    zayifTutarlar := zayifTutarlar }

end Check

end FinancialOs.Rules
