import FinancialOs.Rules.InsightSchema

/-! The keys of the memory: a key that comes back as the key of another fact finds its row again. -/
namespace FinancialOs.Guarantees
open Library Store Rules

/-- The lower case of single characters; small letters, digits and the underscore stay what they are. -/
structure SlugHarfleri extends KucukHarfler where
  kucuk_slug : ∀ c, slugHarfi c = true ∨ c = '_' → kucuk c = c

/-- The words of a text once it has been folded. -/
def sluglar (k : KucukHarfler) (metin : List Char) : List (List Char) := wordsOf slugHarfi (normalize k metin)

/-- The cut to eighty characters leaves a separator behind some of the words. -/
def AyracKesik (k : KucukHarfler) (metin : List Char) : Prop :=
  ∃ i, 0 < i ∧ i < (sluglar k metin).length ∧
    (joinWords '_' ((sluglar k metin).take i)).length + 1 = dedupAnahtarAzami

/-- The normal form of a key. -/
structure Kalici (k : KucukHarfler) (anahtar : List Char) : Prop where
  harfler : ∀ c ∈ anahtar, slugHarfi c = true ∨ c = '_'
  uzunluk : anahtar.length ≤ dedupAnahtarAzami
  bas : anahtar.head? ≠ some '_'
  son : anahtar.getLast? ≠ some '_'
  sabit : slugla k anahtar = anahtar

section Slugs
variable {k : SlugHarfleri} {metin : List Char} {ws : List (List Char)}

theorem slugHarfi_ayrac : slugHarfi '_' = false := by decide

/-- A letter of a key is none that the folding changes or leaves out. -/
theorem slugHarfi_katlanmaz {c : Char} (h : slugHarfi c = true ∨ c = '_') : c ∉ turkceHarfler ∧ c ≠ birlesikNokta := by
  have hdis : (birlesikNokta :: turkceHarfler).all (fun d => !slugHarfi d && d != '_') = true := by decide
  have hc (d : Char) (hd : d ∈ birlesikNokta :: turkceHarfler) : c ≠ d := by
    rintro rfl
    have hharf := List.all_eq_true.mp hdis c hd
    rcases h with h | rfl
    · simp [h] at hharf
    · simp at hharf
  exact ⟨fun hmem => hc c (List.mem_cons_of_mem _ hmem) rfl, hc _ List.mem_cons_self⟩

/-- The folding leaves a key as it is. -/
theorem normalize_slug (h : ∀ c ∈ metin, slugHarfi c = true ∨ c = '_') : normalize k.toKucukHarfler metin = metin := by
  rw [normalize_eq, List.filter_eq_self.mpr fun c hc => by simpa using (slugHarfi_katlanmaz (h c hc)).2]
  refine (List.map_congr_left fun c hc => ?_).trans (List.map_id metin)
  rw [katlanmis, trHarf_of_notMem (slugHarfi_katlanmaz (h c hc)).1]
  exact k.kucuk_slug c (h c hc)

/-- A key is the words of the text with a separator between any two, cut to its length. -/
theorem slugla_eq (k : KucukHarfler) (metin : List Char) :
    slugla k metin = (joinWords '_' (sluglar k metin)).take dedupAnahtarAzami := by
  rw [slugla, stripSep_collapseRuns slugHarfi_ayrac]
  rfl

theorem areWords_sluglar (k : KucukHarfler) (metin : List Char) : AreWords slugHarfi (sluglar k metin) := areWords_wordsOf _

theorem slugla_eq_nil_iff {k : KucukHarfler} : slugla k metin = [] ↔ sluglar k metin = [] := by
  rw [slugla_eq, List.take_eq_nil_iff, or_iff_right (by decide)]
  constructor
  · intro h
    by_contra hne
    exact joinWords_ne_nil (areWords_sluglar k metin) hne h
  · intro h
    rw [h, joinWords_nil]

theorem sluglar_joinWords (hws : AreWords slugHarfi ws) : sluglar k.toKucukHarfler (joinWords '_' ws) = ws := by
  rw [sluglar, normalize_slug fun c hc => mem_joinWords hws hc, wordsOf_joinWords slugHarfi_ayrac hws]

/-- Words with a separator between any two are a key as they are, up to the cut. -/
theorem slugla_joinWords (hws : AreWords slugHarfi ws) :
    slugla k.toKucukHarfler (joinWords '_' ws) = (joinWords '_' ws).take dedupAnahtarAzami := by
  rw [slugla_eq, sluglar_joinWords hws]

theorem joinWords_getLast?_ne (hws : AreWords slugHarfi ws) : (joinWords '_' ws).getLast? ≠ some '_' := by
  by_cases h : ws = []
  · simp [h]
  · obtain ⟨s, c, hs, hc⟩ := @joinWords_getLast _ slugHarfi '_' ws hws h
    rw [hs, List.getLast?_append, List.getLast?_singleton]
    intro heq
    obtain rfl : c = '_' := by simpa using heq
    rw [slugHarfi_ayrac] at hc
    cases hc

theorem joinWords_head?_ne (hws : AreWords slugHarfi ws) : (joinWords '_' ws).head? ≠ some '_' := by
  by_cases h : ws = []
  · simp [h]
  · obtain ⟨c, s, hs, hc⟩ := @joinWords_head _ slugHarfi '_' ws hws h
    rw [hs, List.head?_cons]
    intro heq
    obtain rfl : c = '_' := by simpa using heq
    rw [slugHarfi_ayrac] at hc
    cases hc

/-- What a key is: words, or words with a separator behind them. -/
theorem slugla_cases (k : KucukHarfler) (metin : List Char) :
    ∃ us, AreWords slugHarfi us ∧ (joinWords '_' us).length ≤ dedupAnahtarAzami ∧
      (¬ AyracKesik k metin ∧ slugla k metin = joinWords '_' us ∨
        AyracKesik k metin ∧ us ≠ [] ∧ slugla k metin = joinWords '_' us ++ ['_']) := by
  have hws := areWords_sluglar k metin
  by_cases hkesik : AyracKesik k metin
  · obtain ⟨i, hi, hlen, hn⟩ := id hkesik
    refine ⟨(sluglar k metin).take i, hws.take i, by omega, .inr ⟨hkesik, ?_, ?_⟩⟩
    · exact List.ne_nil_of_length_pos (by rw [List.length_take]; omega)
    · rw [slugla_eq, take_joinWords_of_length hi hlen hn]
  · rcases @take_joinWords _ slugHarfi '_' _ hws dedupAnahtarAzami with ⟨us, hus, htake, -⟩ | hcut
    · refine ⟨us, hus, ?_, .inl ⟨hkesik, ?_⟩⟩
      · rw [← htake]
        exact List.length_take_le _ _
      · rw [slugla_eq, htake]
    · exact absurd hcut hkesik

/-- The separator at the end of a key does not come back. -/
theorem slugla_ayracli {us : List (List Char)} (hus : AreWords slugHarfi us) (hlen : (joinWords '_' us).length ≤ dedupAnahtarAzami) :
    slugla k.toKucukHarfler (joinWords '_' us ++ ['_']) = joinWords '_' us := by
  have hfold : normalize k.toKucukHarfler (joinWords '_' us ++ ['_']) = joinWords '_' us ++ ['_'] := by
    refine normalize_slug fun c hc => ?_
    rcases List.mem_append.mp hc with hc | hc
    · exact mem_joinWords hus hc
    · exact .inr (by simpa using hc)
  have hwords : sluglar k.toKucukHarfler (joinWords '_' us ++ ['_']) = us := by
    rw [sluglar, hfold, wordsOf_append_sep slugHarfi_ayrac, wordsOf_joinWords slugHarfi_ayrac hus]
    exact List.append_nil us
  rw [slugla_eq, hwords, List.take_of_length_le hlen]

/-- A key is in its normal form exactly if the cut does not end on a separator. -/
theorem kalici_slugla_iff : Kalici k.toKucukHarfler (slugla k.toKucukHarfler metin) ↔ ¬ AyracKesik k.toKucukHarfler metin := by
  obtain ⟨us, hus, hlen, ⟨hkesik, heq⟩ | ⟨hkesik, hne, heq⟩⟩ := slugla_cases k.toKucukHarfler metin
  · refine iff_of_true ⟨?_, ?_, ?_, ?_, ?_⟩ hkesik
    · intro c hc
      rw [heq] at hc
      exact mem_joinWords hus hc
    · rwa [heq]
    · rw [heq]
      exact joinWords_head?_ne hus
    · rw [heq]
      exact joinWords_getLast?_ne hus
    · rw [heq, slugla_joinWords hus, List.take_of_length_le hlen]
  · refine iff_of_false (fun hkalici => hkalici.son ?_) (not_not_intro hkesik)
    rw [heq, List.getLast?_append]
    rfl

/-- A key that is cut behind a separator is not the key of itself. -/
theorem slugla_slugla_iff : slugla k.toKucukHarfler (slugla k.toKucukHarfler metin) = slugla k.toKucukHarfler metin ↔
    ¬ AyracKesik k.toKucukHarfler metin := by
  constructor
  · intro hsabit hkesik
    obtain ⟨us, hus, hlen, ⟨hkesik', -⟩ | ⟨-, -, heq⟩⟩ := slugla_cases k.toKucukHarfler metin
    · exact hkesik' hkesik
    · rw [heq, slugla_ayracli hus hlen] at hsabit
      simpa using congrArg List.length hsabit
  · intro hkesik
    exact (kalici_slugla_iff.mpr hkesik).sabit

theorem slugla_slugla_ne_nil (h : slugla k.toKucukHarfler metin ≠ []) :
    slugla k.toKucukHarfler (slugla k.toKucukHarfler metin) ≠ [] := by
  obtain ⟨us, hus, hlen, ⟨-, heq⟩ | ⟨-, hne, heq⟩⟩ := slugla_cases k.toKucukHarfler metin
  · rw [heq] at h ⊢
    rwa [slugla_joinWords hus, List.take_of_length_le hlen]
  · rw [heq, slugla_ayracli hus hlen]
    exact joinWords_ne_nil hus hne

end Slugs

/-- The text whose words become the key. -/
def anahtarMetni (k : KucukHarfler) (inp : SaveInsight) (content : List Char) : List Char :=
  match inp.dedupKey with
  | .str s => if sluglar k s.toList = [] then content else s.toList
  | _ => content

section Saving
variable {k : SlugHarfleri} {inp : SaveInsight} {a b : Ayiklama} {t t₁ : Table HafizaKaydi} {userId id : ℕ} {now later : ℤ}

theorem ayikla_anahtar {k : KucukHarfler} (h : ayikla k (some inp) = .ok a) : a.dedupKey = (anahtarOku k inp.dedupKey a.content).1 := by
  rw [ayikla] at h
  cases hcontent : icerikOku inp.content with
  | error e =>
    rw [hcontent] at h
    cases h
  | ok content =>
    rw [hcontent] at h
    obtain rfl := Except.ok.inj h
    rfl

/-- The key of a fact is that of its text, unless the text has no words. -/
theorem dedupKey_eq {k : KucukHarfler} (h : ayikla k (some inp) = .ok a) : a.dedupKey =
    if sluglar k (anahtarMetni k inp a.content) = [] then "icgoru".toList else slugla k (anahtarMetni k inp a.content) := by
  rw [ayikla_anahtar h]
  unfold anahtarOku anahtarMetni
  cases inp.dedupKey with
  | str s =>
    by_cases hs : sluglar k s.toList = []
    · simp only [hs, slugla_eq_nil_iff.mpr hs, if_true, slugla_eq_nil_iff]
    · simp only [hs, if_false, slugla_eq_nil_iff]
  | _ => simp only [if_true, slugla_eq_nil_iff]

/-- The row that is answered is the first one under the key. -/
theorem saveInsightAction_ok (h : saveInsightAction t userId a now = .ok (t₁, id)) :
    ∃ r, t₁.first? (fun r => r.userId = userId ∧ r.dedupKey = some a.dedupKey) = some (id, r) := by
  rw [saveInsightAction] at h
  cases hfirst : t.first? (fun r => r.userId = userId ∧ r.dedupKey = some a.dedupKey) with
  | some r =>
    rw [hfirst] at h
    obtain ⟨rfl, rfl⟩ := Prod.mk.inj (Except.ok.inj h)
    have hkey := @Table.first?_modify_key _ t (fun r => r.userId = userId ∧ r.dedupKey = some a.dedupKey)
      (HafizaKaydi.guncelle a now) r.1 fun r' => rfl
    rw [hfirst, Option.map_some, Option.map_eq_some_iff] at hkey
    obtain ⟨⟨id, r'⟩, hfirst', rfl⟩ := hkey
    exact ⟨r', hfirst'⟩
  | none =>
    rw [hfirst] at h
    dsimp only at h
    split at h
    · cases h
    · obtain ⟨rfl, rfl⟩ := Prod.mk.inj (Except.ok.inj h)
      exact ⟨_, Table.first?_push_of_none hfirst (by simp)⟩

/-- What is saved next is saved in the same row exactly if it has the same key. -/
theorem saveInsightAction_again (h : saveInsightAction t userId a now = .ok (t₁, id)) :
    (∃ t₂, saveInsightAction t₁ userId b later = .ok (t₂, id)) ↔ b.dedupKey = a.dedupKey := by
  obtain ⟨r, hfirst⟩ := saveInsightAction_ok h
  obtain ⟨hget, hr⟩ := Table.first?_spec hfirst
  obtain ⟨-, hkey⟩ := of_decide_eq_true hr
  constructor
  · rintro ⟨t₂, hsave⟩
    rw [saveInsightAction] at hsave
    cases hb : t₁.first? (fun r => r.userId = userId ∧ r.dedupKey = some b.dedupKey) with
    | none =>
      rw [hb] at hsave
      dsimp only at hsave
      split at hsave
      · cases hsave
      · obtain ⟨-, rfl⟩ := Prod.mk.inj (Except.ok.inj hsave)
        rw [Table.get?_freshKey] at hget
        cases hget
    | some r' =>
      rw [hb] at hsave
      obtain ⟨-, rfl⟩ := Prod.mk.inj (Except.ok.inj hsave)
      obtain ⟨hget', hr'⟩ := Table.first?_spec hb
      obtain ⟨-, hkey'⟩ := of_decide_eq_true hr'
      obtain rfl := Option.some.inj (hget.symm.trans hget')
      exact Option.some.inj (hkey'.symm.trans hkey)
  · intro hkey
    rw [saveInsightAction, hkey, hfirst]
    exact ⟨_, rfl⟩

/-- A key is in its normal form, and a fact under the key of another one updates its row, exactly if the cut to
eighty characters does not end on the separator behind a word. -/
theorem key_survives_iff {ikinci : SaveInsight} (ha : ayikla k.toKucukHarfler (some inp) = .ok a)
    (hsave : saveInsightAction t userId a now = .ok (t₁, id)) (hanahtar : ikinci.dedupKey = .str (String.ofList a.dedupKey))
    (hb : ayikla k.toKucukHarfler (some ikinci) = .ok b) :
    (∀ metin, Kalici k.toKucukHarfler (slugla k.toKucukHarfler metin) ↔ ¬ AyracKesik k.toKucukHarfler metin) ∧
      ((∃ t₂, saveInsightAction t₁ userId b later = .ok (t₂, id)) ↔
        ¬ AyracKesik k.toKucukHarfler (anahtarMetni k.toKucukHarfler inp a.content)) := by
  refine ⟨fun metin => kalici_slugla_iff, ?_⟩
  rw [saveInsightAction_again hsave]
  have hokunan : (anahtarOku k.toKucukHarfler ikinci.dedupKey b.content).1 =
      if slugla k.toKucukHarfler a.dedupKey = [] then
        (anahtarOku k.toKucukHarfler ikinci.dedupKey b.content).1 else slugla k.toKucukHarfler a.dedupKey := by
    split
    · rfl
    · next h =>
      rw [hanahtar, anahtarOku, String.toList_ofList]
      dsimp only
      rw [if_neg h]
  rw [ayikla_anahtar hb, hokunan, dedupKey_eq ha]
  generalize anahtarMetni k.toKucukHarfler inp a.content = metin
  by_cases hbos : sluglar k.toKucukHarfler metin = []
  · -- The word that stands for any fact is one of letters only.
    have hicgoru : AreWords slugHarfi ["icgoru".toList] := by
      intro w hw
      obtain rfl := List.mem_singleton.mp hw
      exact ⟨by decide, List.all_eq_true.mp (by decide)⟩
    have hsabit := @slugla_joinWords k _ hicgoru
    rw [joinWords_singleton] at hsabit
    rw [if_pos hbos, hsabit, if_neg (by decide)]
    refine iff_of_true (by decide) ?_
    rintro ⟨i, -, hi, -⟩
    rw [hbos] at hi
    exact absurd hi (Nat.not_lt_zero i)
  · have hne : slugla k.toKucukHarfler metin ≠ [] := mt slugla_eq_nil_iff.mp hbos
    rw [if_neg hbos, if_neg (slugla_slugla_ne_nil hne), slugla_slugla_iff]

end Saving

theorem isUpper_slug {c : Char} (h : slugHarfi c = true ∨ c = '_') : c.isUpper = false := by
  by_contra hupper
  have hmem := mem_of_isUpper (Bool.not_eq_false _ ▸ hupper)
  obtain ⟨n, hn, rfl⟩ := List.mem_map.mp hmem
  have hdis : ((List.range' 65 26).map Char.ofNat).all (fun d => !slugHarfi d && d != '_') = true := by decide
  have hc := List.all_eq_true.mp hdis _ hmem
  rcases h with h | h
  · simp [h] at hc
  · simp [h] at hc

/-- The lower case of the letters A to Z. -/
def latinSlugHarfleri : SlugHarfleri where
  toKucukHarfler := latinKucukHarfler
  kucuk_slug _ h := toLower_of_not_isUpper (isUpper_slug h)

/-- A word of seventy-nine letters with another one behind it. -/
def uzunMetin : List Char := List.replicate 79 'a' ++ " b".toList

def uzunAnahtar : List Char := List.replicate 79 'a' ++ ['_']

def beyan (dedupKey : PyValue) : SaveInsight := ⟨.str "Kredi çekmeyeceğim", .none, .str "critical", dedupKey, .none⟩

def beyanAyiklamasi (dedupKey : List Char) : Ayiklama :=
  ⟨"Kredi çekmeyeceğim".toList, "general", .critical, dedupKey, none, 14, []⟩

theorem ayikla_beyan {s : List Char} {anahtar : List Char} (h : slugla latinKucukHarfler s = anahtar) (hne : anahtar ≠ []) :
    ayikla latinKucukHarfler (some (beyan (.str (String.ofList s)))) = .ok (beyanAyiklamasi anahtar) := by
  have hcontent : icerikOku (.str "Kredi çekmeyeceğim") = .ok "Kredi çekmeyeceğim".toList := rfl
  have honcelik : oncelikOku (.str "critical") = some .critical := by decide
  rw [ayikla, beyan, hcontent, honcelik]
  simp only [anahtarOku, String.toList_ofList, h, if_neg hne]
  rfl

/-- The key is cut behind its separator; the same fact under the key that is shown becomes a second row. -/
theorem key_cut_behind_separator : ¬ Kalici latinSlugHarfleri.toKucukHarfler (slugla latinKucukHarfler uzunMetin) ∧
    ∃ a b t₁ t₂, ayikla latinKucukHarfler (some (beyan (.str (String.ofList uzunMetin)))) = .ok a ∧
      saveInsightAction .empty 1 a 0 = .ok (t₁, 1) ∧
      ayikla latinKucukHarfler (some (beyan (.str (String.ofList a.dedupKey)))) = .ok b ∧
      saveInsightAction t₁ 1 b 1 = .ok (t₂, 2) := by
  have hkey : slugla latinKucukHarfler uzunMetin = uzunAnahtar := by decide +kernel
  have hagain : slugla latinKucukHarfler uzunAnahtar = List.replicate 79 'a' := by decide +kernel
  refine ⟨fun hkalici => hkalici.son ?_, beyanAyiklamasi uzunAnahtar, beyanAyiklamasi (List.replicate 79 'a'), _, _,
    ayikla_beyan hkey (by decide), rfl, ayikla_beyan hagain (by decide), rfl⟩
  rw [hkey]
  rfl

def kisaBeyan : SaveInsight := beyan (.str (String.ofList "kredi yok".toList))

theorem key_survives_kisaBeyan :
    (∀ metin, Kalici latinKucukHarfler (slugla latinKucukHarfler metin) ↔ ¬ AyracKesik latinKucukHarfler metin) ∧
      ∃ t₁, saveInsightAction .empty 1 (beyanAyiklamasi "kredi_yok".toList) 0 = .ok (t₁, 1) ∧
      ((∃ t₂, saveInsightAction t₁ 1 (beyanAyiklamasi "kredi_yok".toList) 1 = .ok (t₂, 1)) ↔
        ¬ AyracKesik latinKucukHarfler (anahtarMetni latinKucukHarfler kisaBeyan "Kredi çekmeyeceğim".toList)) := by
  have hkey : slugla latinKucukHarfler "kredi yok".toList = "kredi_yok".toList := by decide +kernel
  have hagain : slugla latinKucukHarfler "kredi_yok".toList = "kredi_yok".toList := by decide +kernel
  obtain ⟨hmetin, hsatir⟩ := @key_survives_iff latinSlugHarfleri kisaBeyan (beyanAyiklamasi "kredi_yok".toList)
    (beyanAyiklamasi "kredi_yok".toList) .empty _ 1 1 0 1 (beyan (.str (String.ofList "kredi_yok".toList)))
    (ayikla_beyan hkey (by decide)) rfl rfl (ayikla_beyan hagain (by decide))
  exact ⟨hmetin, _, rfl, hsatir⟩

end FinancialOs.Guarantees
