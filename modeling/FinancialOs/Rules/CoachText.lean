import FinancialOs.Library.CalendarDates
import FinancialOs.Library.DecimalText
import FinancialOs.Library.MarkedText
import FinancialOs.Rules.CockpitAlerts
import FinancialOs.Rules.PromptSafety

/-! The lines of the coach's context. What the program writes is one line by its type; what the user wrote goes
through the sanitiser or comes as it is. -/
namespace FinancialOs.Rules
open Library Store

/-- A text without a line end. -/
def TekSatirli (s : String) : Prop := ∀ c ∈ s.toList, satirSonuMu c = false

section
variable {a b : String} {l : List Char}

theorem tekSatir_ofList (h : l.all (fun c => !satirSonuMu c) = true) : TekSatirli (String.ofList l) := by
  intro c hc
  rw [String.toList_ofList] at hc
  exact (Bool.not_eq_true' _).mp (List.all_eq_true.mp h c hc)

theorem tekSatir_filter (s : String) : TekSatirli (String.ofList (s.toList.filter fun c => !satirSonuMu c)) := by
  intro c hc
  rw [String.toList_ofList] at hc
  exact (Bool.not_eq_true' _).mp (List.mem_filter.mp hc).2

theorem tekSatir_append : TekSatirli (a ++ b) ↔ TekSatirli a ∧ TekSatirli b := by
  simp only [TekSatirli, String.toList_append, List.forall_mem_append]

theorem TekSatirli.append (ha : TekSatirli a) (hb : TekSatirli b) : TekSatirli (a ++ b) := tekSatir_append.mpr ⟨ha, hb⟩

/-- A text as the source has it. -/
theorem TekSatirli.kod (h : l.all (fun c => !satirSonuMu c) = true) : TekSatirli (String.ofList l) :=
  tekSatir_ofList h

theorem tekSatir_guvenliMetin (ham : Option String) (azami : ℕ) : TekSatirli (guvenliMetin ham azami) :=
  satirSonuMu_guvenliMetin ham azami

theorem satirSonuMu_of_isDigit {c : Char} (hc : c.isDigit = true) : satirSonuMu c = false := by
  have hrange := Char.isDigit_iff_toNat.mp hc
  have h48 : '0'.toNat = 48 := rfl
  have h57 : '9'.toNat = 57 := rfl
  refine decide_eq_false ?_
  simp only [List.mem_cons, List.not_mem_nil, or_false]
  omega

theorem tekSatir_dogal (n : ℕ) : TekSatirli (toString n) := by
  intro c hc
  rw [Nat.toString_eq_repr, Nat.repr, String.toList_ofList] at hc
  exact satirSonuMu_of_isDigit (Nat.isDigit_of_mem_toDigits (by decide) (by decide) hc)

theorem tekSatir_tam (n : ℤ) : TekSatirli (toString n) := by
  cases n with
  | ofNat n => exact tekSatir_dogal n
  | negSucc n => exact tekSatir_append.mpr ⟨tekSatir_ofList rfl, tekSatir_dogal (n + 1)⟩

theorem tekSatir_padded (width n : ℕ) : TekSatirli (Date.padded width n) :=
  fun c hc => satirSonuMu_of_isDigit (Date.isDigit_padded c hc)

theorem tekSatir_isaret (p : Prop) [Decidable p] : TekSatirli (if p then "-" else "") := by
  split_ifs
  · exact tekSatir_ofList rfl
  · exact tekSatir_ofList rfl

theorem tekSatir_sifirlar (n : ℕ) : TekSatirli (String.ofList (List.replicate n '0')) := by
  intro c hc
  rw [String.toList_ofList] at hc
  rw [List.eq_of_mem_replicate hc]
  rfl

theorem tekSatir_trSayi (deger : ℚ) (ondalik : ℕ) : TekSatirli (trSayi deger ondalik) := by
  refine tekSatir_append.mpr ⟨tekSatir_append.mpr ⟨tekSatir_isaret _, ?_⟩, ?_⟩
  · intro c hc
    rw [String.toList_ofList] at hc
    rcases mem_binlik (List.mem_reverse.mp hc) with hc | rfl
    · exact tekSatir_dogal _ c (List.mem_reverse.mp hc)
    · rfl
  · split_ifs
    · exact tekSatir_ofList rfl
    · refine tekSatir_append.mpr ⟨tekSatir_append.mpr ⟨tekSatir_ofList rfl, ?_⟩, tekSatir_dogal _⟩
      exact tekSatir_sifirlar _

theorem tekSatir_formatPara (deger : ℚ) (ondalik : ℕ) : TekSatirli (formatPara deger ondalik) :=
  tekSatir_append.mpr ⟨tekSatir_trSayi deger ondalik, tekSatir_ofList rfl⟩

theorem tekSatir_sabitNokta (deger : ℚ) (ondalik : ℕ) : TekSatirli (sabitNokta deger ondalik) := by
  refine tekSatir_append.mpr ⟨tekSatir_append.mpr ⟨tekSatir_append.mpr ⟨tekSatir_append.mpr ⟨tekSatir_isaret _, ?_⟩, ?_⟩,
    tekSatir_sifirlar _⟩, tekSatir_dogal _⟩
  · exact tekSatir_dogal _
  · exact tekSatir_ofList rfl

theorem tekSatir_render (q : ℚ) : TekSatirli (NumberText.render q) := by
  have hkesir (n : ℕ) (q : ℚ) : TekSatirli (NumberText.fraction n q) := by
    induction n generalizing q with
    | zero => exact tekSatir_ofList rfl
    | succ n ih =>
      refine tekSatir_append.mpr ⟨tekSatir_tam _, ?_⟩
      split_ifs
      · exact tekSatir_ofList rfl
      · exact ih _
  exact tekSatir_append.mpr ⟨tekSatir_append.mpr ⟨tekSatir_append.mpr ⟨tekSatir_isaret _, tekSatir_tam _⟩,
    tekSatir_ofList rfl⟩, hkesir 17 _⟩

theorem tekSatir_isoformat (d : Date) : TekSatirli d.isoformat :=
  tekSatir_append.mpr ⟨tekSatir_append.mpr ⟨tekSatir_append.mpr ⟨tekSatir_append.mpr ⟨tekSatir_padded 4 _,
    tekSatir_ofList rfl⟩, tekSatir_padded 2 _⟩, tekSatir_ofList rfl⟩, tekSatir_padded 2 _⟩

theorem tekSatir_gunMetni (d : MonthDay) : TekSatirli (gunMetni d) :=
  tekSatir_append.mpr ⟨tekSatir_append.mpr ⟨tekSatir_append.mpr ⟨tekSatir_append.mpr ⟨tekSatir_padded 4 _,
    tekSatir_ofList rfl⟩, tekSatir_padded 2 _⟩, tekSatir_ofList rfl⟩, tekSatir_padded 2 _⟩

end

/-- Text of the program within one line. -/
structure KodMetni where
  metin : String
  tekSatir : TekSatirli metin

instance : Append KodMetni := ⟨fun a b => ⟨a.metin ++ b.metin, tekSatir_append.mpr ⟨a.tekSatir, b.tekSatir⟩⟩⟩

/-- A text as the source has it; a line end would be left out, and none of them has one. -/
def yazi (metin : String) : KodMetni :=
  ⟨String.ofList (metin.toList.filter fun c => !satirSonuMu c), tekSatir_filter metin⟩

/-- `_para`. -/
def paraYazi (deger : ℚ) : KodMetni := ⟨formatPara deger 2, tekSatir_formatPara deger 2⟩

/-- `_para` without decimals. -/
def kurussuzYazi (deger : ℚ) : KodMetni := ⟨formatPara deger 0, tekSatir_formatPara deger 0⟩

/-- `_fmt`. -/
def fmtYazi (deger : ℚ) : KodMetni := ⟨trSayi deger 2, tekSatir_trSayi deger 2⟩

/-- An integer. -/
def tamYazi (n : ℤ) : KodMetni := ⟨toString n, tekSatir_tam n⟩

/-- A float. -/
def sayiYazi (q : ℚ) : KodMetni := ⟨NumberText.render q, tekSatir_render q⟩

/-- A float with that many decimals. -/
def ondalikliYazi (ondalik : ℕ) (q : ℚ) : KodMetni := ⟨sabitNokta q ondalik, tekSatir_sabitNokta q ondalik⟩

/-- A float without decimals. -/
def kesirsizYazi (q : ℚ) : KodMetni :=
  ⟨(if q < 0 then "-" else "") ++ toString (nearestEven |q|), tekSatir_append.mpr ⟨tekSatir_isaret _, tekSatir_tam _⟩⟩

def tarihYazi (d : Date) : KodMetni := ⟨d.isoformat, tekSatir_isoformat d⟩

def gunYazi (d : MonthDay) : KodMetni := ⟨gunMetni d, tekSatir_gunMetni d⟩

/-- The sign of a number that does not fall below zero. -/
def artiYazi (q : ℚ) : KodMetni := if 0 ≤ q then yazi "+" else yazi ""

/-- Nothing is written for what is not there. -/
def varsa {α : Type} (o : Option α) (f : α → KodMetni) : KodMetni := (o.map f).getD (yazi "")

/-- `str` of what may be missing. -/
def noneVeya {α : Type} (f : α → KodMetni) (o : Option α) : KodMetni := (o.map f).getD (yazi "None")

/-- A piece of a line. -/
inductive Parca where
  | kod (t : KodMetni)
  | guvenli (metin : String) (azami : ℕ)

/-- A piece of a line, or what the user wrote as it is. -/
inductive HamParca where
  | temiz (p : Parca)
  | ham (metin : String)

/-- A line: the program's alone, or pieces behind two blanks. -/
inductive Satir (π : Type) where
  | kod (t : KodMetni)
  | girintili (ps : List π)

abbrev Bolum := List (Satir Parca)

abbrev HamBolum := List (Satir HamParca)

/-- A line of the context; an open one begins with what the user wrote. -/
inductive BaglamSatiri where
  | bagli (satir : Satir HamParca)
  | acik (p : Parca)

abbrev Baglam := List BaglamSatiri

def Satir.temiz : Satir Parca → Satir HamParca
  | .kod t => .kod t
  | .girintili ps => .girintili (ps.map .temiz)

/-- A section in which everything goes through the sanitiser. -/
def temizBolum (b : Bolum) : HamBolum := b.map Satir.temiz

/-- Pieces with a text between any two. -/
def aralikli {π : Type} (ayrac : π) (ps : List (List π)) : List π := [ayrac].intercalate ps

/-- A section behind an empty line. -/
def basliklar {π : Type} (baslik : KodMetni) (satirlar : List (Satir π)) : List (Satir π) :=
  .kod (yazi "") :: .kod baslik :: satirlar

def Parca.metin : Parca → Piece Char
  | .kod t => .code t.metin.toList
  | .guvenli metin azami => .data (guvenliMetin (some metin) azami).toList

def HamParca.metin : HamParca → Piece Char
  | .temiz p => p.metin
  | .ham metin => .data metin.toList

def Satir.line : Satir HamParca → Line Char
  | .kod t => [.code t.metin.toList]
  | .girintili ps => .code [' ', ' '] :: ps.map HamParca.metin

def BaglamSatiri.line : BaglamSatiri → Line Char
  | .bagli satir => satir.line
  | .acik p => [p.metin]

/-- The text of a context, with who wrote each character. -/
def baglamMetni (b : Baglam) : List (Char × Bool) :=
  stripped boslukMu (document '\n' (b.map BaglamSatiri.line))

end FinancialOs.Rules
