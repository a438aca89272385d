import FinancialOs.Library.JsonTexts
import FinancialOs.Rules.JsonRescue

/-! The JSON object in an answer: between prose it is the one block that the scanner finds. -/
namespace FinancialOs.Guarantees
open Library Rules

section Scanner
variable {d : Durum} {s t : List Char} {c : Char}

/-- Inside a block and outside a string. -/
structure BlokAcik (d : Durum) : Prop where
  derin : 0 < d.derinlik
  dizge : d.dizge = false
  kacis : d.kacis = false

/-- Further on in the same block. -/
def uzat (d : Durum) (s : List Char) : Durum := { d with blok := d.blok ++ s }

/-- A text that the scanner goes over inside a block: it ends none and leaves no string open. -/
def TaramaNotr (s : List Char) : Prop := ∀ d, BlokAcik d → d.bloklar s = [] ∧ d.sonra s = uzat d s

theorem BlokAcik.uzat (h : BlokAcik d) (s : List Char) : BlokAcik (Guarantees.uzat d s) := ⟨h.derin, h.dizge, h.kacis⟩

@[simp] theorem bloklar_cons : d.bloklar (c :: s) = (d.adim c).2.toList ++ (d.adim c).1.bloklar s := rfl

@[simp] theorem sonra_cons : d.sonra (c :: s) = (d.adim c).1.sonra s := rfl

@[simp] theorem sonra_nil : d.sonra [] = d := rfl

theorem bloklar_append : d.bloklar (s ++ t) = d.bloklar s ++ (d.sonra s).bloklar t := by
  induction s generalizing d with
  | nil => rfl
  | cons c s ih => rw [List.cons_append, bloklar_cons, ih, bloklar_cons, sonra_cons, List.append_assoc]

theorem sonra_append : d.sonra (s ++ t) = (d.sonra s).sonra t := List.foldl_append

theorem uzat_uzat : uzat (uzat d s) t = uzat d (s ++ t) := by
  rw [uzat, uzat, uzat, List.append_assoc]

theorem ekle_eq_uzat (h : 0 < d.derinlik) : d.ekle c = uzat d [c] := by
  rw [Durum.ekle, if_neg h.ne', uzat]

theorem TaramaNotr.append (hs : TaramaNotr s) (ht : TaramaNotr t) : TaramaNotr (s ++ t) := by
  intro d hd
  obtain ⟨hsb, hss⟩ := hs d hd
  obtain ⟨htb, hts⟩ := ht _ (hd.uzat s)
  rw [bloklar_append, sonra_append, hsb, hss, htb, hts, uzat_uzat]
  exact ⟨rfl, rfl⟩

theorem notr_nil : TaramaNotr [] := fun d _ => ⟨rfl, by rw [uzat, List.append_nil]; rfl⟩

theorem notr_singleton (h : JsonPlain c) : TaramaNotr [c] := by
  intro d hd
  have hadim : d.adim c = (uzat d [c], none) := by
    rw [Durum.adim, hd.dizge, if_neg Bool.false_ne_true, if_neg h.1, if_neg h.2.1, if_neg h.2.2, ekle_eq_uzat hd.derin]
  rw [bloklar_cons, sonra_cons, hadim]
  exact ⟨rfl, rfl⟩

theorem notr_of_plain (h : ∀ c ∈ s, JsonPlain c) : TaramaNotr s := by
  induction s with
  | nil => exact notr_nil
  | cons c s ih =>
    exact (notr_singleton (h c List.mem_cons_self)).append (ih fun d hd => h d (List.mem_cons_of_mem _ hd))

/-- The state inside a string of a block. -/
def dizgede (d : Durum) : Durum := { d with dizge := true }

theorem dizgede_adim (hd : BlokAcik d) (hquote : c ≠ '\x22') (hescape : c ≠ '\x5c') :
    (dizgede d).adim c = (dizgede (uzat d [c]), none) := by
  have hkacis : (dizgede d).kacis = false := hd.kacis
  have hekle : (dizgede d).ekle c = dizgede (uzat d [c]) := ekle_eq_uzat (show 0 < (dizgede d).derinlik from hd.derin)
  rw [Durum.adim, hkacis, if_pos (show (dizgede d).dizge = true from rfl), if_neg Bool.false_ne_true, if_neg hescape,
    if_neg hquote, hekle]

/-- Behind a backslash any character is one of the string. -/
theorem dizgede_kacis (hd : BlokAcik d) (c : Char) (s : List Char) :
    (dizgede d).bloklar ('\x5c' :: c :: s) = (dizgede (uzat d ['\x5c', c])).bloklar s ∧
      (dizgede d).sonra ('\x5c' :: c :: s) = (dizgede (uzat d ['\x5c', c])).sonra s := by
  have hilk : (dizgede d).adim '\x5c' = ({ dizgede (uzat d ['\x5c']) with kacis := true }, none) := by
    have hkacis : (dizgede d).kacis = false := hd.kacis
    have hekle : (dizgede d).ekle '\x5c' = dizgede (uzat d ['\x5c']) :=
      ekle_eq_uzat (show 0 < (dizgede d).derinlik from hd.derin)
    rw [Durum.adim, hkacis, if_pos (show (dizgede d).dizge = true from rfl), if_neg Bool.false_ne_true, if_pos rfl, hekle]
  have hson : ({ dizgede (uzat d ['\x5c']) with kacis := true } : Durum).adim c = (dizgede (uzat d ['\x5c', c]), none) := by
    have hderin : d.derinlik ≠ 0 := hd.derin.ne'
    simp [Durum.adim, Durum.ekle, uzat, dizgede, hderin, hd.kacis]
  rw [bloklar_cons, bloklar_cons, sonra_cons, sonra_cons, hilk, hson]
  exact ⟨rfl, rfl⟩

/-- The characters of a string leave the scanner in it. -/
theorem dizgede_chars (h : JsonChars s) (hd : BlokAcik d) :
    (dizgede d).bloklar s = [] ∧ (dizgede d).sonra s = dizgede (uzat d s) := by
  induction h generalizing d with
  | nil => exact ⟨rfl, by rw [uzat, List.append_nil]; rfl⟩
  | @plain c s _ hquote hescape _ ih =>
    obtain ⟨hb, hs⟩ := ih (hd.uzat [c])
    rw [bloklar_cons, sonra_cons, dizgede_adim hd hquote hescape, hb, hs, uzat_uzat]
    exact ⟨rfl, rfl⟩
  | @escaped c s _ _ ih =>
    obtain ⟨hb, hs⟩ := ih (hd.uzat ['\x5c', c])
    obtain ⟨hb', hs'⟩ := dizgede_kacis hd c s
    rw [hb', hs', hb, hs, uzat_uzat]
    exact ⟨rfl, rfl⟩
  | @unicode u s hlen hu _ ih =>
    obtain ⟨hb', hs'⟩ := dizgede_kacis hd 'u' (u ++ s)
    rw [hb', hs']
    suffices hhex : ∀ e, BlokAcik e → (dizgede e).bloklar (u ++ s) = [] ∧ (dizgede e).sonra (u ++ s) = dizgede (uzat e (u ++ s)) by
      obtain ⟨hb, hs⟩ := hhex _ (hd.uzat ['\x5c', 'u'])
      rw [hb, hs, uzat_uzat]
      exact ⟨rfl, rfl⟩
    clear hb' hs' hd hlen
    induction u with
    | nil => exact fun e he => ih he
    | cons c u ihu =>
      intro e he
      have hc := hu c List.mem_cons_self
      obtain ⟨hb, hs⟩ := ihu (fun c hc => hu c (List.mem_cons_of_mem _ hc)) _ (he.uzat [c])
      have hquote : c ≠ '\x22' := by
        rintro rfl
        revert hc
        decide
      have hescape : c ≠ '\x5c' := by
        rintro rfl
        revert hc
        decide
      rw [List.cons_append, bloklar_cons, sonra_cons, dizgede_adim he hquote hescape, hb, hs, uzat_uzat]
      exact ⟨rfl, rfl⟩

theorem notr_jsonString (h : JsonChars s) : TaramaNotr (jsonString s) := by
  intro d hd
  have hac : d.adim '\x22' = (dizgede (uzat d ['\x22']), none) := by
    rw [Durum.adim, hd.dizge, if_neg Bool.false_ne_true, if_pos rfl, ekle_eq_uzat hd.derin]
    rfl
  obtain ⟨hb, hs⟩ := dizgede_chars h (hd.uzat ['\x22'])
  rw [uzat_uzat] at hs
  have hkapa : (dizgede (uzat d (['\x22'] ++ s))).adim '\x22' = (uzat d (['\x22'] ++ s ++ ['\x22']), none) := by
    obtain ⟨hderin, hdizge, hkacis⟩ := hd
    have hkacis' : (dizgede (uzat d (['\x22'] ++ s))).kacis = false := hkacis
    rw [Durum.adim, if_pos (show (dizgede (uzat d (['\x22'] ++ s))).dizge = true from rfl), hkacis',
      if_neg Bool.false_ne_true, if_neg (by decide), if_pos rfl,
      ekle_eq_uzat (show 0 < (dizgede (uzat d (['\x22'] ++ s))).derinlik from hderin)]
    simp [uzat, dizgede, hdizge]
  rw [jsonString, List.cons_append, bloklar_cons, sonra_cons, hac, bloklar_append, sonra_append, hb, hs, bloklar_cons,
    sonra_cons, hkapa]
  exact ⟨rfl, rfl⟩

/-- A bracket that opens an object goes one deeper. -/
theorem adim_ac (hdizge : d.dizge = false) : d.adim '\x7b' =
    ({ d with derinlik := d.derinlik + 1, blok := if d.derinlik = 0 then ['\x7b'] else d.blok ++ ['\x7b'] }, none) := by
  rw [Durum.adim, hdizge, if_neg Bool.false_ne_true, if_neg (by decide), if_pos rfl]

theorem adim_kapa (hdizge : d.dizge = false) : d.adim '\x7d' =
    if d.derinlik = 1 then ({ d with derinlik := 0, blok := [] }, some (d.blok ++ ['\x7d']))
    else ({ d.ekle '\x7d' with derinlik := d.derinlik - 1 }, none) := by
  rw [Durum.adim, hdizge, if_neg Bool.false_ne_true, if_neg (by decide), if_neg (by decide), if_pos rfl]

/-- An object that stands in a block. -/
theorem notr_object (h : TaramaNotr s) : TaramaNotr ('\x7b' :: s ++ ['\x7d']) := by
  intro d hd
  let e : Durum := { d with derinlik := d.derinlik + 1, blok := d.blok ++ ['\x7b'] }
  have hderin : d.derinlik ≠ 0 := hd.derin.ne'
  have hac : d.adim '\x7b' = (e, none) := by rw [adim_ac hd.dizge, if_neg hderin]
  obtain ⟨hb, hs⟩ := h e ⟨Nat.succ_pos _, hd.dizge, hd.kacis⟩
  have hkapa : (uzat e s).adim '\x7d' = (uzat d ('\x7b' :: s ++ ['\x7d']), none) := by
    rw [adim_kapa (show (uzat e s).dizge = false from hd.dizge)]
    simp [e, Durum.ekle, uzat, hderin]
  rw [List.cons_append, bloklar_cons, sonra_cons, hac, bloklar_append, sonra_append, hb, hs, bloklar_cons, sonra_cons,
    hkapa]
  exact ⟨rfl, rfl⟩

/-- An object on its own is a block. -/
theorem bloklar_object (h : TaramaNotr s) (hderin : d.derinlik = 0) (hdizge : d.dizge = false) (hkacis : d.kacis = false) :
    d.bloklar ('\x7b' :: s ++ ['\x7d']) = ['\x7b' :: s ++ ['\x7d']] ∧
      (d.sonra ('\x7b' :: s ++ ['\x7d'])).derinlik = 0 := by
  let e : Durum := { d with derinlik := 1, blok := ['\x7b'] }
  have hac : d.adim '\x7b' = (e, none) := by rw [adim_ac hdizge, if_pos hderin, hderin]
  obtain ⟨hb, hs⟩ := h e ⟨Nat.one_pos, hdizge, hkacis⟩
  have hkapa : (uzat e s).adim '\x7d' = ({ uzat e s with derinlik := 0, blok := [] }, some (['\x7b'] ++ s ++ ['\x7d'])) := by
    rw [adim_kapa (show (uzat e s).dizge = false from hdizge)]
    simp [e, uzat]
  rw [List.cons_append, bloklar_cons, sonra_cons, hac, bloklar_append, sonra_append, hb, hs, bloklar_cons, sonra_cons,
    hkapa]
  exact ⟨rfl, rfl⟩

/-- What the scanner makes of a text of the grammar; an object is brackets around such a text. -/
def TaramaKurali : JsonKind → List Char → Prop
  | .object, J => ∃ s, J = '\x7b' :: s ++ ['\x7d'] ∧ TaramaNotr s
  | _, s => TaramaNotr s

theorem taramaKurali {kind : JsonKind} (h : JsonForm kind s) : TaramaKurali kind s := by
  have hplain {c : Char} (hc : JsonPlain c) {s t : List Char} (hs : TaramaNotr s) (ht : TaramaNotr t) : TaramaNotr (s ++ c :: t) :=
    hs.append ((notr_singleton hc).append ht)
  have hblank {s : List Char} (hs : JsonBlank s) : TaramaNotr s := notr_of_plain hs.plain
  have hlist {s : List Char} (hs : TaramaNotr s) : TaramaNotr ('[' :: s ++ [']']) :=
    ((notr_singleton ⟨by decide, by decide, by decide⟩).append hs).append
      (notr_singleton ⟨by decide, by decide, by decide⟩)
  induction h with
  | string h => exact notr_jsonString h
  | number h => exact notr_of_plain h.plain
  | literal h => exact notr_of_plain (plain_of_mem_jsonLiterals h)
  | ofObject _ ih =>
    obtain ⟨s, rfl, hs⟩ := ih
    exact notr_object hs
  | emptyArray h => exact hlist (hblank h)
  | array _ ih => exact hlist ih
  | emptyObject h => exact ⟨_, rfl, hblank h⟩
  | object _ ih => exact ⟨_, rfl, ih⟩
  | element ha _ hb ih => exact ((hblank ha).append ih).append (hblank hb)
  | elements _ _ ihs iht => exact hplain ⟨by decide, by decide, by decide⟩ ihs iht
  | member ha hk hb hc _ hd ih =>
    exact hplain ⟨by decide, by decide, by decide⟩ (((hblank ha).append (notr_jsonString hk)).append (hblank hb))
      (((hblank hc).append ih).append (hblank hd))
  | members _ _ ihs iht => exact hplain ⟨by decide, by decide, by decide⟩ ihs iht

/-- No bracket that opens or closes an object. -/
def Duzyazi (s : List Char) : Prop := ∀ c ∈ s, c ≠ '\x7b' ∧ c ≠ '\x7d'

/-- Prose before, behind or without a block ends none. -/
theorem bloklar_duzyazi (h : Duzyazi s) (hderin : d.derinlik = 0) : d.bloklar s = [] ∧ (d.sonra s).derinlik = 0 := by
  induction s generalizing d with
  | nil => exact ⟨rfl, hderin⟩
  | cons c s ih =>
    obtain ⟨hac, hkapa⟩ := h c List.mem_cons_self
    have hadim : (d.adim c).2 = none ∧ (d.adim c).1.derinlik = 0 := by
      unfold Durum.adim
      rw [if_neg hac, if_neg hkapa]
      split_ifs
      · exact ⟨rfl, hderin⟩
      · exact ⟨rfl, hderin⟩
      · exact ⟨rfl, hderin⟩
      · exact ⟨rfl, hderin⟩
      · exact ⟨rfl, hderin⟩
      · exact ⟨rfl, hderin⟩
    obtain ⟨hb, hs⟩ := ih (fun e he => h e (List.mem_cons_of_mem _ he)) hadim.2
    rw [bloklar_cons, sonra_cons, hadim.1, hb, hs]
    exact ⟨rfl, rfl⟩

/-- Only in a string is a character behind a backslash. -/
theorem kacis_adim (c : Char) (h : d.dizge = false → d.kacis = false) :
    (d.adim c).1.dizge = false → (d.adim c).1.kacis = false := by
  obtain ⟨derinlik, blok, dizge, kacis⟩ := d
  unfold Durum.adim
  cases dizge with
  | true => split_ifs <;> simp_all [Durum.ekle]
  | false =>
    obtain rfl : kacis = false := h rfl
    split_ifs <;> simp_all [Durum.ekle]

theorem kacis_sonra (h : d.dizge = false → d.kacis = false) : (d.sonra s).dizge = false → (d.sonra s).kacis = false := by
  induction s generalizing d with
  | nil => exact h
  | cons c s ih => exact ih (kacis_adim c h)

end Scanner

/-- Every quote that a text opens is closed in it. -/
def DizgeKapali (s : List Char) : Prop := (Durum.baslangic.sonra s).dizge = false

/-- The values of the earlier candidates do not come before another one; of two empty ones the second counts. -/
def Golgelenmez (v : JsonDeger) : List JsonDeger → Prop
  | [] => True
  | [w] => w.bosMu = true ∨ w = v
  | w :: x :: _ => if w.bosMu then x = v else w = v

section Rescue
variable {p s J : List Char}

theorem bosluk_plain {c : Char} (h : boslukMu c = true) : JsonPlain c := by
  refine ⟨?_, ?_, ?_⟩
  · rintro rfl
    exact absurd h (by decide)
  · rintro rfl
    exact absurd h (by decide)
  · rintro rfl
    exact absurd h (by decide)

theorem adim_baslangic {c : Char} (h : JsonPlain c) : Durum.baslangic.adim c = (Durum.baslangic, none) := by
  rw [Durum.adim, if_neg (show ¬ Durum.baslangic.dizge = true from Bool.false_ne_true), if_neg h.1, if_neg h.2.1,
    if_neg h.2.2]
  rfl

/-- Blanks in front are nothing to the scanner. -/
theorem sonra_dropWhile (p : List Char) : Durum.baslangic.sonra (p.dropWhile boslukMu) = Durum.baslangic.sonra p := by
  induction p with
  | nil => rfl
  | cons c p ih =>
    cases h : boslukMu c with
    | true => rw [List.dropWhile_cons_of_pos h, ih, sonra_cons, adim_baslangic (bosluk_plain h)]
    | false => rw [List.dropWhile_cons_of_neg (by simp [h])]

/-- Stripping a text leaves an object in it alone. -/
theorem kirp_nesne (t : List Char) (hJ : J = '\x7b' :: t ++ ['\x7d']) :
    kirp (p ++ J ++ s) = p.dropWhile boslukMu ++ J ++ s.rdropWhile boslukMu := by
  have hbas : (J ++ s).dropWhile boslukMu = J ++ s := by
    rw [hJ, List.cons_append, List.cons_append, List.dropWhile_cons_of_neg (by decide)]
  have hson : (p.dropWhile boslukMu ++ J).rdropWhile boslukMu = p.dropWhile boslukMu ++ J := by
    rw [hJ, ← List.append_assoc, List.rdropWhile_concat_neg _ _ _ (by decide)]
  have hfront : (p ++ J ++ s).dropWhile boslukMu = p.dropWhile boslukMu ++ J ++ s := by
    rw [List.append_assoc, List.dropWhile_append]
    split
    · next h =>
      rw [hbas, List.isEmpty_iff.mp h]
      rfl
    · rw [List.append_assoc]
  rw [kirp, hfront, List.rdropWhile, List.reverse_append, List.dropWhile_append]
  split
  · next h =>
    have hs : s.rdropWhile boslukMu = [] := by rw [List.rdropWhile, List.isEmpty_iff.mp h, List.reverse_nil]
    rw [hs, List.append_nil]
    exact hson
  · rw [List.reverse_append, List.reverse_reverse]
    rfl

/-- Between prose an object is the one block, if the prose before it leaves no string open. -/
theorem dengeliBloklar_nesne (hJ : JsonForm .object J) (hp : Duzyazi p) (hs : Duzyazi s) (hkapali : DizgeKapali p) :
    dengeliBloklar (kirp (p ++ J ++ s)) = [J] := by
  obtain ⟨t, hJt, ht⟩ := taramaKurali hJ
  rw [kirp_nesne t hJt, dengeliBloklar, bloklar_append, bloklar_append]
  have hp' : Duzyazi (p.dropWhile boslukMu) := fun c hc => hp c ((List.dropWhile_sublist _).mem hc)
  have hs' : Duzyazi (s.rdropWhile boslukMu) := fun c hc =>
    hs c (List.mem_reverse.mp ((List.dropWhile_sublist _).mem (List.mem_reverse.mp hc)))
  obtain ⟨hpb, hpd⟩ := bloklar_duzyazi hp' (show Durum.baslangic.derinlik = 0 from rfl)
  have hdizge : (Durum.baslangic.sonra (p.dropWhile boslukMu)).dizge = false := by rwa [sonra_dropWhile]
  have hkacis := kacis_sonra (show Durum.baslangic.dizge = false → Durum.baslangic.kacis = false from fun _ => rfl) hdizge
  obtain ⟨hJb, hJd⟩ := bloklar_object ht hpd hdizge hkacis
  rw [← hJt] at hJb hJd
  rw [sonra_append, (bloklar_duzyazi hs' hJd).1, hpb, hJb]
  rfl

theorem ilkDeger_append_iff (v : JsonDeger) (ws : List JsonDeger) : ilkDeger none (ws ++ [v]) = some v ↔ Golgelenmez v ws := by
  match ws with
  | [] =>
    refine iff_of_true ?_ trivial
    cases hv : v.bosMu <;> simp [ilkDeger, hv]
  | [w] =>
    cases hw : w.bosMu <;> simp [ilkDeger, Golgelenmez, hw]
  | w :: x :: ws =>
    cases hw : w.bosMu <;> simp [ilkDeger, Golgelenmez, hw]

/-- The candidates in an answer whose prose leaves no string open are the whole text, its fenced parts and the
object; the object's value is the result exactly if no earlier candidate has another one. -/
theorem cikar_nesne_iff {loads : List Char → Option JsonDeger} {v : JsonDeger} (hJ : JsonForm .object J) (hp : Duzyazi p)
    (hs : Duzyazi s) (hkapali : DizgeKapali p) (hv : loads J = some v) :
    jsonAdaylar (some (p ++ J ++ s)) = ilkAdaylar (kirp (p ++ J ++ s)) ++ [J] ∧
      (cikar loads (some (p ++ J ++ s)) = .ok v ↔
        Golgelenmez v ((ilkAdaylar (kirp (p ++ J ++ s))).filterMap loads)) := by
  have hadaylar : jsonAdaylar (some (p ++ J ++ s)) = ilkAdaylar (kirp (p ++ J ++ s)) ++ [J] := by
    rw [jsonAdaylar, Option.getD_some, dengeliBloklar_nesne hJ hp hs hkapali]
  refine ⟨hadaylar, ?_⟩
  rw [← ilkDeger_append_iff, cikar, hadaylar, List.filterMap_append]
  have hson : [J].filterMap loads = [v] := by simp [hv]
  rw [hson]
  cases ilkDeger none ((ilkAdaylar (kirp (p ++ J ++ s))).filterMap loads ++ [v]) with
  | none => simp
  | some w => simp

end Rescue

/-- An object with one member, `{"a":1}`, and its value. -/
def ornekNesne : List Char := '\x7b' :: (jsonString ['a'] ++ ":1".toList) ++ ['\x7d']

def ornekDeger : JsonDeger := .sozluk [("a", .sayi (.finite 1))]

/-- What `json.loads` makes of the object and of a list with it. -/
def ornekLoads (metin : List Char) : Option JsonDeger :=
  if metin = ornekNesne then some ornekDeger
  else if metin = '[' :: ornekNesne ++ [']'] then some (.liste [ornekDeger])
  else none

theorem ornekNesne_text : JsonForm .object ornekNesne := by
  have hblank : JsonBlank [] := fun c hc => absurd hc List.not_mem_nil
  have hbir : JsonNumber ['1'] := ⟨[], ['1'], [], [], rfl, .inl rfl, .inr ⟨⟨by decide, fun c hc => List.mem_singleton.mp hc ▸ rfl⟩, by decide⟩, .inl rfl, .inl rfl⟩
  have hkey : JsonChars ['a'] := .plain (by decide) (by decide) (by decide) .nil
  exact .object (.member hblank hkey hblank hblank (.number hbir) hblank)

theorem duzyazi_of_all {s : List Char} (h : s.all (fun c => c != '\x7b' && c != '\x7d') = true) : Duzyazi s := by
  intro c hc
  simpa using List.all_eq_true.mp h c hc

/-- Between two square brackets the whole answer is a list, and the list is the result. -/
theorem cikar_koseli : ¬ ∀ (loads : List Char → Option JsonDeger) (p J s : List Char) (v : JsonDeger), JsonForm .object J →
    (∀ c ∈ p ++ s, c ≠ '\x7b' ∧ c ≠ '\x7d' ∧ c ≠ '\x60') → loads J = some v → cikar loads (some (p ++ J ++ s)) = .ok v := by
  intro h
  have hkoseli (c : Char) (hc : c ∈ ['['] ++ [']']) : c ≠ '\x7b' ∧ c ≠ '\x7d' ∧ c ≠ '\x60' := by
    rcases List.mem_cons.mp hc with rfl | hc
    · decide
    · obtain rfl := List.mem_singleton.mp hc
      decide
  have hnesne := h ornekLoads ['['] ornekNesne [']'] ornekDeger ornekNesne_text hkoseli rfl
  have hliste : cikar ornekLoads (some (['['] ++ ornekNesne ++ [']'])) = .ok (.liste [ornekDeger]) := rfl
  rw [hliste] at hnesne
  cases hnesne

theorem cikar_nesne_sonuc :
    jsonAdaylar (some ("Yanıt: ".toList ++ ornekNesne ++ " Bitti.".toList)) =
        ilkAdaylar (kirp ("Yanıt: ".toList ++ ornekNesne ++ " Bitti.".toList)) ++ [ornekNesne] ∧
      (cikar ornekLoads (some ("Yanıt: ".toList ++ ornekNesne ++ " Bitti.".toList)) = .ok ornekDeger ↔
        Golgelenmez ornekDeger ((ilkAdaylar (kirp ("Yanıt: ".toList ++ ornekNesne ++ " Bitti.".toList))).filterMap ornekLoads)) :=
  cikar_nesne_iff ornekNesne_text (duzyazi_of_all (by decide)) (duzyazi_of_all (by decide)) rfl rfl

end FinancialOs.Guarantees
