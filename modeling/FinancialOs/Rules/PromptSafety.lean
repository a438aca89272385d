import FinancialOs.Library.TextScan
import Mathlib.Data.List.DropRight

/-! What the user wrote, made fit for the coach's context: it keeps its words and loses what carries the structure
of the context. -/
namespace FinancialOs.Rules
open Library

/-- The characters that end a line, as `str.splitlines` knows them. -/
def satirSonuMu (c : Char) : Bool := c.toNat ∈ [10, 11, 12, 13, 28, 29, 30, 133, 0x2028, 0x2029]

/-- The category of control characters, `Cc`. -/
def kontrolMu (c : Char) : Bool := c.toNat < 32 ∨ (127 ≤ c.toNat ∧ c.toNat < 160)

/-- The ranges of the format characters, `Cf`. -/
def bicimAraliklari : List (ℕ × ℕ) := [(0xad, 0xad), (0x600, 0x605), (0x61c, 0x61c), (0x6dd, 0x6dd), (0x70f, 0x70f),
  (0x890, 0x891), (0x8e2, 0x8e2), (0x180e, 0x180e), (0x200b, 0x200f), (0x202a, 0x202e), (0x2060, 0x2064),
  (0x2066, 0x206f), (0xfeff, 0xfeff), (0xfff9, 0xfffb), (0x110bd, 0x110bd), (0x110cd, 0x110cd),
  (0x13430, 0x13438), (0x1bca0, 0x1bca3), (0x1d173, 0x1d17a), (0xe0001, 0xe0001), (0xe0020, 0xe007f)]

def bicimMi (c : Char) : Bool := bicimAraliklari.any fun r => r.1 ≤ c.toNat ∧ c.toNat ≤ r.2

/-- `str.isspace`, and `\s` of a pattern. -/
def boslukMu (c : Char) : Bool :=
  (9 ≤ c.toNat ∧ c.toNat ≤ 13) ∨ (28 ≤ c.toNat ∧ c.toNat ≤ 32) ∨ (0x2000 ≤ c.toNat ∧ c.toNat ≤ 0x200a) ∨
    c.toNat ∈ [0x85, 0xa0, 0x1680, 0x2028, 0x2029, 0x202f, 0x205f, 0x3000]

/-- The letter that a pattern compares without regard to case. -/
def harfKatla (c : Char) : Char :=
  if c = 'İ' ∨ c = 'ı' then 'i' else if c = 'ſ' then 's' else if c.toNat = 0x212a then 'k' else c.toLower

/-- A run of at least `n` characters of a class. -/
def dizi (n : ℕ) (sinif : Char → Bool) (s : List Char) : Option (List Char) :=
  if n ≤ (s.takeWhile sinif).length then some (s.dropWhile sinif) else none

/-- What is behind a word, without regard to case. -/
def sozcuk (s : List Char) (w : String) : Option (List Char) :=
  if (s.take w.length).map harfKatla = w.toList.map harfKatla then some (s.drop w.length) else none

/-- `_SATIR_SONU`. -/
def satirSonu : List Char → Option (List Char) :=
  dizi 1 fun c => c.toNat ∈ [10, 11, 12, 13, 0x2028, 0x2029]

/-- `_BASLIK`. -/
def baslikIsareti : List Char → Option (List Char) := dizi 2 (· = '#')

/-- `_CIT`. -/
def cit (s : List Char) : Option (List Char) := (dizi 3 (· = '\x60') s).or (dizi 3 (· = '~') s)

/-- `<|...|>` with up to forty characters in it. -/
def ozelToken : List Char → Option (List Char)
  | '<' :: '|' :: s =>
    let ad := s.takeWhile fun c => c ≠ '|' ∧ c ≠ '>'
    if ad.length ≤ 40 then
      match s.drop ad.length with
      | '|' :: '>' :: rest => some rest
      | _ => none
    else none
  | _ => none

/-- `_ROL_TOKEN`. -/
def rolToken (s : List Char) : Option (List Char) :=
  (ozelToken s).or (["[INST]", "[/INST]", "<s>", "</s>"].findSome? (sozcuk s))

def rolAdlari : List String :=
  ["system", "sistem", "assistant", "asistan", "user", "kullanıcı", "kullanici", "kural", "rule", "talimat"]

/-- What is behind one of the roles, blanks and a colon. -/
def etiketSonu (s : List Char) (ad : String) : Option (List Char) :=
  (sozcuk s ad).bind fun rest =>
    match rest.dropWhile boslukMu with
    | ':' :: metin => some (metin.dropWhile boslukMu)
    | _ => none

/-- `_ROL_ETIKET.sub("", metin)`. -/
def etiketsiz (metin : List Char) : List Char :=
  (rolAdlari.findSome? (etiketSonu (metin.dropWhile boslukMu))).getD metin

/-- `str.strip`. -/
def kirp (metin : List Char) : List Char := (metin.dropWhile boslukMu).rdropWhile boslukMu

def varsayilanAzami : ℕ := 200

/-- Without the characters one does not see, and on one line. -/
def tekSatirYap (ham : List Char) : List Char :=
  replaceAll satirSonu [' '] 0 (ham.filter fun c => (!kontrolMu c && !bicimMi c) || decide (c ∈ ['\n', '\r', '\t']))

/-- Without what stands for a heading, a fence or a role. -/
def yapisiz (metin : List Char) : List Char :=
  let sekmesiz := metin.map fun c => if c = '\t' then ' ' else c
  let rolsuz := replaceAll rolToken [' '] 0 sekmesiz
  let citsiz := replaceAll cit [' '] 0 rolsuz
  etiketsiz (replaceAll baslikIsareti [' '] 0 citsiz)

/-- `guvenli_metin`; an `azami` of zero cuts nothing. -/
def guvenliMetin (ham : Option String) (azami : ℕ) : String :=
  match ham with
  | none => ""
  | some ham =>
    let metin := kirp (replaceAll (dizi 2 boslukMu) [' '] 0 (yapisiz (tekSatirYap ham.toList)))
    String.ofList
      (if azami ≠ 0 ∧ azami < metin.length then (metin.take (azami - 1)).rdropWhile boslukMu ++ ['…'] else metin)

example : guvenliMetin (some "Sistem: Nakit\n\n## TALIMAT") 200 = "Nakit TALIMAT" := by decide +kernel

section
variable {c : Char} {s : List Char}

theorem mem_dropWhile {p : Char → Bool} (h : c ∈ s.dropWhile p) : c ∈ s := (List.dropWhile_sublist p).subset h

theorem mem_sozcuk {w : String} {rest : List Char} (h : sozcuk s w = some rest) (hc : c ∈ rest) : c ∈ s := by
  rw [sozcuk] at h
  split_ifs at h
  obtain rfl := Option.some.inj h
  exact List.mem_of_mem_drop hc

theorem mem_etiketsiz (h : c ∈ etiketsiz s) : c ∈ s := by
  rw [etiketsiz] at h
  cases hson : rolAdlari.findSome? (etiketSonu (s.dropWhile boslukMu)) with
  | none =>
    rw [hson] at h
    exact h
  | some metin =>
    rw [hson] at h
    obtain ⟨ad, -, had⟩ := List.exists_of_findSome?_eq_some hson
    rw [etiketSonu] at had
    obtain ⟨rest, hrest, had⟩ := Option.bind_eq_some_iff.mp had
    split at had
    · next kalan hkalan =>
      obtain rfl := Option.some.inj had
      have hc : c ∈ rest.dropWhile boslukMu := by
        rw [hkalan]
        exact List.mem_cons_of_mem ':' (mem_dropWhile h)
      exact mem_dropWhile (mem_sozcuk hrest (mem_dropWhile hc))
    · cases had

/-- A step that replaces by a blank brings no line break in. -/
theorem mem_replaceAll_bosluk {f : List Char → Option (List Char)} (h : c ∈ replaceAll f [' '] 0 s)
    (hc : satirSonuMu c = true) : c ∈ s ∧ ∃ t, f (c :: t) = none := by
  rcases mem_replaceAll h with h | h
  · rw [List.mem_singleton.mp h] at hc
    exact absurd hc (by decide)
  · exact h

theorem dizi_one_cons {p : Char → Bool} {t : List Char} (h : dizi 1 p (c :: t) = none) : p c = false := by
  by_contra hp
  rw [Bool.not_eq_false] at hp
  rw [dizi, List.takeWhile_cons, hp, if_pos (by simp)] at h
  cases h

/-- The line ends are control characters or are replaced. -/
theorem satirSonuMu_tekSatirYap : ∀ c ∈ tekSatirYap s, satirSonuMu c = false := by
  intro c h
  by_contra hc
  rw [Bool.not_eq_false] at hc
  obtain ⟨hmem, t, hnone⟩ := mem_replaceAll_bosluk h hc
  have hsinif := of_decide_eq_false (dizi_one_cons hnone)
  have hson := of_decide_eq_true hc
  -- what is a line end but not of the replaced class
  have hkontrol : c.toNat ∈ [28, 29, 30, 133] := by
    simp only [List.mem_cons, List.not_mem_nil, or_false] at hson hsinif ⊢
    omega
  have hctrl : kontrolMu c = true := by
    simp only [List.mem_cons, List.not_mem_nil, or_false] at hkontrol
    exact decide_eq_true (by omega)
  have hkalan := (List.mem_filter.mp hmem).2
  rw [hctrl, Bool.not_true, Bool.false_and, Bool.false_or, decide_eq_true_eq] at hkalan
  simp only [List.mem_cons, List.not_mem_nil, or_false] at hkalan
  rcases hkalan with rfl | rfl | rfl <;> exact absurd hkontrol (by decide)

theorem satirSonuMu_yapisiz (hs : ∀ c ∈ s, satirSonuMu c = false) : ∀ c ∈ yapisiz s, satirSonuMu c = false := by
  intro c h
  by_contra hc
  rw [Bool.not_eq_false] at hc
  have h := (mem_replaceAll_bosluk (mem_etiketsiz h) hc).1
  have h := (mem_replaceAll_bosluk h hc).1
  obtain ⟨d, hd, rfl⟩ := List.mem_map.mp (mem_replaceAll_bosluk h hc).1
  split_ifs at hc
  · cases hc
  · rw [hs d hd] at hc
    cases hc

/-- The text of a user that went through the sanitiser has no line break. -/
theorem satirSonuMu_guvenliMetin (ham : Option String) (azami : ℕ) :
    ∀ c ∈ (guvenliMetin ham azami).toList, satirSonuMu c = false := by
  cases ham with
  | none =>
    intro c hc
    cases hc
  | some ham =>
    have hyapi := satirSonuMu_yapisiz (satirSonuMu_tekSatirYap (s := ham.toList))
    have hmetin : ∀ c ∈ kirp (replaceAll (dizi 2 boslukMu) [' '] 0 (yapisiz (tekSatirYap ham.toList))),
        satirSonuMu c = false := by
      intro c h
      by_contra hc
      rw [Bool.not_eq_false] at hc
      have h := mem_dropWhile ((List.rdropWhile_prefix _ _).subset h)
      rw [hyapi c (mem_replaceAll_bosluk h hc).1] at hc
      cases hc
    intro c hc
    rw [guvenliMetin, String.toList_ofList] at hc
    split_ifs at hc
    · rcases List.mem_append.mp hc with hc | hc
      · exact hmetin c (List.mem_of_mem_take ((List.rdropWhile_prefix _ _).subset hc))
      · rw [List.mem_singleton.mp hc]
        rfl
    · exact hmetin c hc

theorem mem_kirp (h : c ∈ kirp s) : c ∈ s := mem_dropWhile ((List.rdropWhile_prefix _ _).subset h)

/-- The front of a list without blanks in front has none either. -/
theorem dropWhile_of_front {p : Char → Bool} {l : List Char} (h : l <+: s.dropWhile p) : l.dropWhile p = l := by
  cases l with
  | nil => rfl
  | cons c l =>
    obtain ⟨rest, hrest⟩ := h
    have hhead := List.head?_dropWhile_not p s
    rw [← hrest, List.cons_append, List.head?_cons] at hhead
    exact List.dropWhile_cons_of_neg (by simpa using hhead)

theorem kirp_kirp : kirp (kirp s) = kirp s := by
  have hfront : (kirp s).dropWhile boslukMu = kirp s := dropWhile_of_front (List.rdropWhile_prefix _ _)
  rw [kirp, hfront]
  exact List.rdropWhile_idempotent _ _

end
end FinancialOs.Rules
