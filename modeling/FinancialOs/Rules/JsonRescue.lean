import FinancialOs.Library.PythonScalars
import FinancialOs.Rules.PromptSafety

/-! `llm_json`: the JSON value in the answer of a language model, out of the prose and the fences around it. -/
namespace FinancialOs.Rules
open Library

/-- What `json.loads` makes of a text. -/
inductive JsonDeger where
  | null
  | mantik (b : Bool)
  | sayi (x : PyFloat)
  | metin (s : String)
  | liste (l : List JsonDeger)
  | sozluk (l : List (String × JsonDeger))

/-- An empty list or an empty dictionary. -/
def JsonDeger.bosMu : JsonDeger → Bool
  | .liste l => l.isEmpty
  | .sozluk l => l.isEmpty
  | _ => false

/-- Where the scanner of `_dengeli_bloklar` is; `blok` is the text since `baslangic`. -/
structure Durum where
  derinlik : ℕ
  blok : List Char
  dizge : Bool
  kacis : Bool

def Durum.baslangic : Durum := ⟨0, [], false, false⟩

/-- An open block gets longer. -/
def Durum.ekle (d : Durum) (ch : Char) : Durum := { d with blok := if d.derinlik = 0 then [] else d.blok ++ [ch] }

/-- One character, and the block that it closes. -/
def Durum.adim (d : Durum) (ch : Char) : Durum × Option (List Char) :=
  if d.dizge then
    if d.kacis then ({ d.ekle ch with kacis := false }, none)
    else if ch = '\x5c' then ({ d.ekle ch with kacis := true }, none)
    else if ch = '\x22' then ({ d.ekle ch with dizge := false }, none)
    else (d.ekle ch, none)
  else if ch = '\x22' then ({ d.ekle ch with dizge := true }, none)
  else if ch = '\x7b' then
    ({ d with derinlik := d.derinlik + 1, blok := if d.derinlik = 0 then [ch] else d.blok ++ [ch] }, none)
  else if ch = '\x7d' then
    if d.derinlik = 1 then ({ d with derinlik := 0, blok := [] }, some (d.blok ++ [ch]))
    else ({ d.ekle ch with derinlik := d.derinlik - 1 }, none)
  else (d.ekle ch, none)

/-- The blocks that end in a text. -/
def Durum.bloklar : Durum → List Char → List (List Char)
  | _, [] => []
  | d, ch :: metin => (d.adim ch).2.toList ++ (d.adim ch).1.bloklar metin

/-- Where the scanner is behind a text. -/
def Durum.sonra (d : Durum) (metin : List Char) : Durum := metin.foldl (fun d ch => (d.adim ch).1) d

/-- `_dengeli_bloklar`. -/
def dengeliBloklar (metin : List Char) : List (List Char) := Durum.baslangic.bloklar metin

def citIsareti : List Char := ['\x60', '\x60', '\x60']

/-- The characters of a language name behind a fence. -/
def dilHarfi (c : Char) : Bool := c.isAlphanum ∨ c ∈ ['_', '+', '-']

/-- A fenced part, and what is behind the fence that ends it. -/
def citSonu : List Char → List Char × List Char
  | [] => ([], [])
  | c :: metin =>
    if citIsareti.isPrefixOf (c :: metin) then ([], (c :: metin).drop 3)
    else (c :: (citSonu metin).1, (citSonu metin).2)

/-- `_FENCE.findall`, over at most so many characters. -/
def citler : ℕ → List Char → List (List Char)
  | 0, _ => []
  | _, [] => []
  | n + 1, c :: metin =>
    if citIsareti.isPrefixOf (c :: metin) then
      let parca := citSonu ((((c :: metin).drop 3).dropWhile dilHarfi).dropWhile boslukMu)
      parca.1 :: citler n parca.2
    else citler n metin

/-- The candidates before the blocks: the whole text and its fenced parts. -/
def ilkAdaylar (ham : List Char) : List (List Char) :=
  (ham :: (citler ham.length ham).map kirp).filter (!List.isEmpty ·)

/-- `_adaylar`. -/
def jsonAdaylar (metin : Option (List Char)) : List (List Char) :=
  let ham := kirp (metin.getD [])
  ilkAdaylar ham ++ dengeliBloklar ham

/-- `JsonZarfiCozulemedi`, with the first eighty characters of the text. -/
structure JsonZarfiCozulemedi where
  ilk : Option (List Char)
  deriving DecidableEq

/-- The loop of `cikar`: the first value that is not empty, or the second one that is. -/
def ilkDeger (bosAday : Option JsonDeger) : List JsonDeger → Option JsonDeger
  | [] => bosAday
  | deger :: kalan => if deger.bosMu ∧ bosAday.isNone then ilkDeger (some deger) kalan else some deger

/-- `cikar`. -/
def cikar (loads : List Char → Option JsonDeger) (metin : Option (List Char)) : Except JsonZarfiCozulemedi JsonDeger :=
  match ilkDeger none ((jsonAdaylar metin).filterMap loads) with
  | some deger => .ok deger
  | none => .error ⟨(metin.filter (!List.isEmpty ·)).map (List.take 80)⟩

end FinancialOs.Rules
