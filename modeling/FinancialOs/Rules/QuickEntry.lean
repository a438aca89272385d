import FinancialOs.Library.PythonScalars

/-! Quick entry and category suggestion: what the panel reads from free text. -/
namespace FinancialOs.Rules
open Library

/-- `str.lower` on the letters of the application's language. -/
def kucukHarf (c : Char) : List Char :=
  if c = 'Ç' then ['ç'] else if c = 'Ğ' then ['ğ'] else if c = 'İ' then ['i', '\u0307']
  else if c = 'Ö' then ['ö'] else if c = 'Ş' then ['ş'] else if c = 'Ü' then ['ü'] else [c.toLower]

def trHarf (c : Char) : Char :=
  if c = 'ç' then 'c' else if c = 'ğ' then 'g' else if c = 'ı' then 'i' else if c = 'ö' then 'o'
  else if c = 'ş' then 's' else if c = 'ü' then 'u' else if c = 'Ç' then 'C' else if c = 'Ğ' then 'G'
  else if c = 'İ' then 'I' else if c = 'Ö' then 'O' else if c = 'Ş' then 'S' else if c = 'Ü' then 'U' else c

/-- `tr_text.normalize` on a text. -/
def trNormalize (metin : String) : String :=
  String.ofList (((metin.toList.map trHarf).flatMap kucukHarf).filter (· ≠ '\u0307'))

/-- `text.strip().lower()`. -/
def sade (text : String) : List Char := (NumberText.strip text.toList).flatMap kucukHarf

def icerir (parca metin : List Char) : Bool := metin.tails.any (fun son => parca.isPrefixOf son)

/-- Keyword, category and whether it is usually paid by card. -/
def quickKeywords : List (String × String × Bool) := [
  ("yemek", "yemek", true), ("kahve", "yemek", true), ("icecek", "yemek", true), ("kafe", "yemek", true),
  ("eglence", "eglence", true), ("sinema", "eglence", true), ("sigara", "sigara", true),
  ("ulasim", "ulasim", false), ("yakit", "ulasim", false), ("tasit", "ulasim", false),
  ("metro", "ulasim", false), ("otobus", "ulasim", false), ("taksi", "ulasim", false),
  ("fatura", "fatura", false), ("telefon", "fatura", false), ("internet", "fatura", false),
  ("elektrik", "fatura", false), ("saglik", "saglik", false), ("ilac", "saglik", false),
  ("doktor", "saglik", false), ("borc", "borc_geri_odeme", false), ("alisveris", "alisveris", true),
  ("market", "alisveris", true), ("diger", "diger", false)]

def merchantKeywords : List (String × String) := [
  ("migros", "alisveris"), ("bim", "alisveris"), ("a101", "alisveris"), ("sok", "alisveris"),
  ("carrefour", "alisveris"), ("carrefoursa", "alisveris"), ("macrocenter", "alisveris"),
  ("getir", "alisveris"), ("trendyol", "alisveris"), ("hepsiburada", "alisveris"),
  ("amazon", "alisveris"), ("market", "alisveris"), ("yemeksepeti", "yemek"), ("starbucks", "yemek"),
  ("restoran", "yemek"), ("lokanta", "yemek"), ("burger", "yemek"), ("pizza", "yemek"), ("cafe", "yemek"),
  ("opet", "ulasim"), ("shell", "ulasim"), ("bp", "ulasim"), ("petrol", "ulasim"), ("benzin", "ulasim"),
  ("uber", "ulasim"), ("bitaksi", "ulasim"), ("istanbulkart", "ulasim"), ("netflix", "eglence"),
  ("spotify", "eglence"), ("youtube", "eglence"), ("exxen", "eglence"), ("turkcell", "fatura"),
  ("vodafone", "fatura"), ("turk telekom", "fatura"), ("superonline", "fatura"), ("elektrik", "fatura"),
  ("dogalgaz", "fatura"), ("igdas", "fatura"), ("iski", "fatura"), ("eczane", "saglik"),
  ("hastane", "saglik"), ("medikal", "saglik")]

def kelimeHarfi (c : Char) : Bool :=
  c.isLower ∨ c.isDigit ∨ c = 'ç' ∨ c = 'ğ' ∨ c = 'ı' ∨ c = 'ö' ∨ c = 'ş' ∨ c = 'ü'

/-- A single word has to be a token of the text, a phrase a blank-delimited part of it. -/
def anahtarGecer (metin kw : List Char) : Bool :=
  if ' ' ∈ kw then icerir (' ' :: kw ++ [' ']) (' ' :: metin ++ [' '])
  else (metin.splitOnP (fun c => !kelimeHarfi c)).contains kw

def suggestCategory (text : Option String) : Option String :=
  match text.filter (· ≠ "") with
  | none => none
  | some t =>
    let genel := quickKeywords.map (fun k => (k.1, k.2.1))
    ((merchantKeywords ++ genel).find? (fun k => anahtarGecer (sade t) k.1.toList)).map Prod.snd

structure HizliGiris where
  amount : ℚ
  category : String
  isCardExpense : Bool
  description : Option String
  deriving DecidableEq

/-- The amount in front: finite, positive and at most the schema's bound. -/
def hizliTutar (ilk : List Char) : Except String ℚ :=
  let yazilan := String.ofList ilk
  match NumberText.read (String.ofList (ilk.map (fun c => if c = ',' then '.' else c))) with
  | none => .error s!"Gecerli tutar bulunamadi: '{yazilan}'"
  | some (.finite q) =>
    if q ≤ 0 then .error "Tutar pozitif olmali"
    else if 10 ^ 12 < q then .error "Tutar makul üst sınırı (1e12) aşıyor"
    else .ok q
  | some _ => .error "Tutar sonlu bir sayı olmalı"

def parseQuickText (text : String) : Except String HizliGiris :=
  match ((sade text).splitOnP NumberText.isBlank).filter (· ≠ []) with
  | [] => .error "Bos giris"
  | ilk :: kelimeler =>
    match hizliTutar ilk with
    | .error e => .error e
    | .ok amount =>
      let rest := [' '].intercalate kelimeler
      if rest = [] then .ok ⟨amount, "diger", false, none⟩
      else match quickKeywords.find? (fun k => icerir k.1.toList rest) with
        | some k => .ok ⟨amount, k.2.1, k.2.2, if rest = k.1.toList then none else some (String.ofList rest)⟩
        | none => .ok ⟨amount, String.ofList (rest.map (fun c => if c = ' ' then '_' else c)), false, none⟩

/-- Quick entry never books an amount the structured form would refuse. -/
theorem parseQuickText_amount {text : String} {g : HizliGiris} (h : parseQuickText text = .ok g) :
    0 < g.amount ∧ g.amount ≤ 10 ^ 12 := by
  have hbound : ∀ {ilk : List Char} {q : ℚ}, hizliTutar ilk = .ok q → 0 < q ∧ q ≤ 10 ^ 12 := by
    intro ilk q hq
    unfold hizliTutar at hq
    split at hq
    · cases hq
    · split_ifs at hq with h1 h2
      cases hq
      exact ⟨not_le.mp h1, not_lt.mp h2⟩
    · cases hq
  unfold parseQuickText at h
  split at h
  · cases h
  split at h
  · cases h
  next amount hq =>
    dsimp only at h
    split_ifs at h with hrest
    · cases h
      exact hbound hq
    · split at h <;>
      · cases h
        exact hbound hq

example : parseQuickText "230 Yemek" = .ok ⟨230, "yemek", true, none⟩ := by decide +kernel
example : suggestCategory (some "Migros 240 TL") = some "alisveris" := by decide +kernel

end FinancialOs.Rules
