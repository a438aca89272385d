import FinancialOs.Rules.ExplicitRedLine

/-! The evidence of the red lines: as long as the references of a title have room for every message, each message
counts once, over any number of runs. -/
namespace FinancialOs.Guarantees
open Library Store Rules Routers

/-- The row of a title. -/
def satir (t : Table CoachInsight) (userId : ℕ) (title : String) : Option (ℕ × CoachInsight) :=
  t.first? (ayniIcgoru userId .explicitRedLine title)

/-- The evidence count of a title and the references that are kept of it. -/
def kanit (t : Table CoachInsight) (userId : ℕ) (title : String) : Recent String where
  count := (satir t userId title).elim 0 fun r => r.2.evidenceCount
  keys := (satir t userId title).elim [] fun r => r.2.sourceRefs

/-- A red line of the user. -/
def Kirmizi (userId : ℕ) (i : CoachInsight) : Prop := i.userId = userId ∧ i.insightType = some .explicitRedLine

/-- Each red line is the row of its title. -/
def TekBaslik (t : Table CoachInsight) (userId : ℕ) : Prop :=
  ∀ j i, t.get? j = some i → Kirmizi userId i → ∃ title, i.title = some title ∧ satir t userId title = some (j, i)

section Rows
variable {t : Table CoachInsight} {userId : ℕ} {title : String} {now : ℤ}

theorem ayniIcgoru_eq_true {insightType : InsightType} {i : CoachInsight} : ayniIcgoru userId insightType title i = true ↔
    i.userId = userId ∧ i.insightType = some insightType ∧ i.title = some title := decide_eq_true_iff

/-- Rewritings that keep the columns of the unique key. -/
structure KeepsKey (f : CoachInsight → CoachInsight) : Prop where
  userId : ∀ i, (f i).userId = i.userId
  insightType : ∀ i, (f i).insightType = i.insightType
  title : ∀ i, (f i).title = i.title

theorem KeepsKey.ayniIcgoru {f : CoachInsight → CoachInsight} (hf : KeepsKey f) (insightType : InsightType) (i : CoachInsight) :
    Rules.ayniIcgoru userId insightType title (f i) = Rules.ayniIcgoru userId insightType title i := by
  unfold Rules.ayniIcgoru
  rw [hf.userId, hf.insightType, hf.title]

theorem satir_modify {f : CoachInsight → CoachInsight} (hf : KeepsKey f) (k : ℕ) : satir (t.modify k f) userId title =
    (satir t userId title).map fun r => (r.1, if r.1 = k then f r.2 else r.2) :=
  Table.first?_modify k (hf.ayniIcgoru _)

theorem tekBaslik_modify {f : CoachInsight → CoachInsight} (hf : KeepsKey f) (k : ℕ) (h : TekBaslik t userId) :
    TekBaslik (t.modify k f) userId := by
  intro j i hget hi
  rw [Table.get?_modify] at hget
  by_cases hj : j = k
  · subst hj
    rw [if_pos rfl, Option.map_eq_some_iff] at hget
    obtain ⟨i, hget, rfl⟩ := hget
    rw [Kirmizi, hf.userId, hf.insightType] at hi
    obtain ⟨title, htitle, hsatir⟩ := h j i hget hi
    exact ⟨title, (hf.title i).trans htitle, by rw [satir_modify hf, hsatir, Option.map_some, if_pos rfl]⟩
  · rw [if_neg hj] at hget
    obtain ⟨title, htitle, hsatir⟩ := h j i hget hi
    exact ⟨title, htitle, by rw [satir_modify hf, hsatir, Option.map_some, if_neg hj]⟩

/-- Nothing of the invalidation is about the evidence. -/
theorem kanit_checkAndInvalidate (insightType : InsightType) (baslik : String) :
    kanit (checkAndInvalidate now userId insightType baslik t) userId title = kanit t userId title ∧
      (TekBaslik t userId → TekBaslik (checkAndInvalidate now userId insightType baslik t) userId) := by
  unfold checkAndInvalidate
  split
  · exact ⟨rfl, id⟩
  · next k i _ =>
    split
    · have hf : KeepsKey fun i : CoachInsight => { i with
          status := .invalidated
          archivedAt := some now
          archivedReason := some "data_changed" } := ⟨fun _ => rfl, fun _ => rfl, fun _ => rfl⟩
      refine ⟨?_, tekBaslik_modify hf k⟩
      unfold kanit
      rw [satir_modify hf]
      cases satir t userId title with
      | none => rfl
      | some r =>
        rw [Option.map_some, Option.elim_some, Option.elim_some, Option.elim_some, Option.elim_some]
        by_cases hk : r.1 = k
        · rw [if_pos hk]
        · rw [if_neg hk]
    · exact ⟨rfl, id⟩

theorem satir_eq_some {r : ℕ × CoachInsight} (h : satir t userId title = some r) :
    t.get? r.1 = some r.2 ∧ r.2.userId = userId ∧ r.2.insightType = some .explicitRedLine ∧ r.2.title = some title := by
  obtain ⟨hget, hp⟩ := Table.first?_spec h
  exact ⟨hget, ayniIcgoru_eq_true.mp hp⟩

theorem keepsKey_guncelle (y : YeniIcgoru) (now : ℤ) : KeepsKey (y.guncelle now) := ⟨fun _ => rfl, fun _ => rfl, fun _ => rfl⟩

/-- An upsert counts one more for its title, and no other title notices. -/
theorem kanit_upsertInsight (b : ErlBulgu) (refs : List String) :
    kanit (upsertInsight now userId (erlIcgoru b refs) t) userId title =
        (if title = b.title then ⟨(kanit t userId title).count + 1, refs⟩ else kanit t userId title) ∧
      (TekBaslik t userId → TekBaslik (upsertInsight now userId (erlIcgoru b refs) t) userId) := by
  cases hs : satir t userId b.title with
  | none =>
    have hupsert : upsertInsight now userId (erlIcgoru b refs) t = t.push ((erlIcgoru b refs).satir userId now) := by
      unfold upsertInsight
      rw [show t.first? (ayniIcgoru userId (erlIcgoru b refs).insightType (erlIcgoru b refs).title) = none from hs]
    have hyeni : ayniIcgoru userId .explicitRedLine b.title ((erlIcgoru b refs).satir userId now) = true :=
      ayniIcgoru_eq_true.mpr ⟨rfl, rfl, rfl⟩
    have hbaska {title : String} (h : title ≠ b.title) :
        satir (t.push ((erlIcgoru b refs).satir userId now)) userId title = satir t userId title := by
      refine Table.first?_push_of_neg (Bool.eq_false_iff.mpr fun hp => h ?_)
      exact (Option.some.inj (ayniIcgoru_eq_true.mp hp).2.2).symm
    have hayni : satir (t.push ((erlIcgoru b refs).satir userId now)) userId b.title =
        some (t.freshKey, (erlIcgoru b refs).satir userId now) := Table.first?_push_of_none hs hyeni
    rw [hupsert]
    refine ⟨?_, fun h j i hget hi => ?_⟩
    · by_cases htitle : title = b.title
      · subst htitle
        rw [if_pos rfl, kanit, kanit, hayni, hs]
        rfl
      · rw [if_neg htitle, kanit, kanit, hbaska htitle]
    · rw [Table.get?_push] at hget
      split at hget
      · next hj =>
        obtain rfl := Option.some.inj hget
        exact ⟨b.title, rfl, by rw [hayni, hj]⟩
      · obtain ⟨title, htitle, hsatir⟩ := h j i hget hi
        have hne : title ≠ b.title := by
          rintro rfl
          rw [hs] at hsatir
          cases hsatir
        exact ⟨title, htitle, (hbaska hne).trans hsatir⟩
  | some r =>
    have hupsert : upsertInsight now userId (erlIcgoru b refs) t = t.modify r.1 ((erlIcgoru b refs).guncelle now) := by
      unfold upsertInsight
      rw [show t.first? (ayniIcgoru userId (erlIcgoru b refs).insightType (erlIcgoru b refs).title) = some r from hs]
    obtain ⟨hget, -, -, hbaslik⟩ := satir_eq_some hs
    rw [hupsert]
    refine ⟨?_, tekBaslik_modify (keepsKey_guncelle _ _) r.1⟩
    rw [kanit, satir_modify (keepsKey_guncelle _ _)]
    by_cases htitle : title = b.title
    · subst htitle
      rw [if_pos rfl, kanit, hs, Option.map_some, if_pos rfl]
      rfl
    · rw [if_neg htitle, kanit]
      cases hsatir : satir t userId title with
      | none => rfl
      | some q =>
        obtain ⟨hget', -, -, hbaslik'⟩ := satir_eq_some hsatir
        have hne : q.1 ≠ r.1 := by
          intro heq
          rw [heq, hget] at hget'
          rw [← Option.some.inj hget', hbaslik] at hbaslik'
          exact htitle (Option.some.inj hbaslik').symm
        rw [Option.map_some, if_neg hne]

/-- One finding that is saved counts one more for its title. -/
theorem kanit_save (b : ErlBulgu) (refs : List String) :
    kanit (saveOrUpdateInsight now userId (erlIcgoru b refs) t) userId title =
        (if title = b.title then ⟨(kanit t userId title).count + 1, refs⟩ else kanit t userId title) ∧
      (TekBaslik t userId → TekBaslik (saveOrUpdateInsight now userId (erlIcgoru b refs) t) userId) := by
  obtain ⟨hkanit, htek⟩ := @kanit_upsertInsight t userId title now b refs
  obtain ⟨hkanit', htek'⟩ := @kanit_checkAndInvalidate (upsertInsight now userId (erlIcgoru b refs) t) userId title now
    (erlIcgoru b refs).insightType (erlIcgoru b refs).title
  exact ⟨hkanit'.trans hkanit, fun h => htek' (htek h)⟩

end Rows

/-- The references of a title in the findings of a message. -/
def bulguRefleri (title : String) (memoryId : ℕ) (bs : List ErlBulgu) : List String :=
  (bs.filter fun b => b.title = title).map fun _ => erlRef memoryId

/-- The references of a title in the messages of a run, in their order. -/
def mesajRefleri (kelime : Char → Bool) (title : String) (ms : List (ℕ × CoachMemory)) : List String :=
  ms.flatMap fun m => bulguRefleri title m.1 (erlBulgular kelime m.2.content)

/-- The loop knows the references that the rows have. -/
structure ErlUyumu (userId : ℕ) (d : ErlDurum) : Prop where
  refs : ∀ title, (d.refs title).getD [] = (kanit d.tablo userId title).keys
  tek : TekBaslik d.tablo userId

section Run
variable {kelime : Char → Bool} {userId : ℕ} {now : ℤ} {title : String}

theorem uyum_isle {s : ErlDurum × Bool} (h : ErlUyumu userId s.1) (memoryId : ℕ) (b : ErlBulgu) :
    ErlUyumu userId (erlIsle now userId memoryId s b).1 ∧
      ∀ title, kanit (erlIsle now userId memoryId s b).1.tablo userId title =
        (kanit s.1.tablo userId title).noteAll erlKayitSiniri (bulguRefleri title memoryId [b]) := by
  have hnote (title : String) : (kanit s.1.tablo userId title).noteAll erlKayitSiniri (bulguRefleri title memoryId [b]) =
      if title = b.title then (kanit s.1.tablo userId title).note erlKayitSiniri (erlRef memoryId)
      else kanit s.1.tablo userId title := by
    unfold bulguRefleri
    by_cases htitle : title = b.title
    · subst htitle
      simp [Recent.noteAll]
    · simp [Recent.noteAll, htitle, Ne.symm htitle]
  unfold erlIsle
  dsimp only
  by_cases hmem : erlRef memoryId ∈ (s.1.refs b.title).getD []
  · rw [if_pos hmem]
    refine ⟨⟨h.refs, h.tek⟩, fun title => ?_⟩
    rw [hnote]
    split
    · next htitle =>
      subst htitle
      rw [Recent.note, ← h.refs, if_pos hmem]
    · rfl
  · rw [if_neg hmem]
    have hsave (title : String) := @kanit_save s.1.tablo userId title now b
      (((s.1.refs b.title).getD [] ++ [erlRef memoryId]).rtake erlKayitSiniri)
    refine ⟨⟨fun title => ?_, (hsave b.title).2 h.tek⟩, fun title => ?_⟩
    · dsimp only
      rw [(hsave title).1]
      by_cases htitle : title = b.title
      · subst htitle
        rw [if_pos rfl, Function.update_self, Option.getD_some]
      · rw [if_neg htitle, Function.update_of_ne htitle]
        exact h.refs title
    · rw [(hsave title).1, hnote]
      by_cases htitle : title = b.title
      · subst htitle
        rw [if_pos rfl, if_pos rfl, Recent.note, ← h.refs, if_neg hmem]
      · rw [if_neg htitle, if_neg htitle]

theorem uyum_bulgular {s : ErlDurum × Bool} (h : ErlUyumu userId s.1) (memoryId : ℕ) (bs : List ErlBulgu) :
    ErlUyumu userId (bs.foldl (erlIsle now userId memoryId) s).1 ∧
      ∀ title, kanit (bs.foldl (erlIsle now userId memoryId) s).1.tablo userId title =
        (kanit s.1.tablo userId title).noteAll erlKayitSiniri (bulguRefleri title memoryId bs) := by
  induction bs generalizing s with
  | nil => exact ⟨h, fun _ => rfl⟩
  | cons b bs ih =>
    obtain ⟨hstep, hkanit⟩ := @uyum_isle userId now s h memoryId b
    obtain ⟨hrest, hkanit'⟩ := ih hstep
    refine ⟨hrest, fun title => ?_⟩
    rw [List.foldl_cons, hkanit', hkanit, ← Recent.noteAll_append]
    unfold bulguRefleri
    rw [← List.map_append, ← List.filter_append]
    rfl

theorem uyum_mesajlar {d : ErlDurum} (h : ErlUyumu userId d) (ms : List (ℕ × CoachMemory)) :
    ErlUyumu userId (ms.foldl (erlMesajIsle now userId kelime) d) ∧
      ∀ title, kanit (ms.foldl (erlMesajIsle now userId kelime) d).tablo userId title =
        (kanit d.tablo userId title).noteAll erlKayitSiniri (mesajRefleri kelime title ms) := by
  induction ms generalizing d with
  | nil => exact ⟨h, fun _ => rfl⟩
  | cons m ms ih =>
    have hstep : ErlUyumu userId (erlMesajIsle now userId kelime d m) ∧
        ∀ title, kanit (erlMesajIsle now userId kelime d m).tablo userId title =
          (kanit d.tablo userId title).noteAll erlKayitSiniri (bulguRefleri title m.1 (erlBulgular kelime m.2.content)) := by
      obtain ⟨huyum, hkanit⟩ := @uyum_bulgular userId now (d, false) h m.1 (erlBulgular kelime m.2.content)
      unfold erlMesajIsle
      dsimp only
      split
      · exact ⟨⟨huyum.refs, huyum.tek⟩, hkanit⟩
      · exact ⟨huyum, hkanit⟩
    obtain ⟨hrest, hkanit'⟩ := ih hstep.1
    refine ⟨hrest, fun title => ?_⟩
    rw [List.foldl_cons, hkanit', hstep.2, ← Recent.noteAll_append]
    rfl

/-- What the loop begins with. -/
theorem uyum_baslangic {t : Table CoachInsight} (h : TekBaslik t userId) (memories : Table CoachMemory) :
    ErlUyumu userId (erlBaslangic now userId memories t) := by
  refine ⟨fun title => ?_, h⟩
  change (((erlMevcut userId t).find? fun i => i.2.title = some title).map fun i => i.2.sourceRefs).getD [] =
    (kanit t userId title).keys
  cases hfind : (erlMevcut userId t).find? fun i => i.2.title = some title with
  | some r =>
    have htitle : r.2.title = some title := by simpa using List.find?_some hfind
    obtain ⟨hget, hkirmizi⟩ := Table.mem_select.mp (List.mem_of_find?_eq_some hfind)
    have hkirmizi := of_decide_eq_true hkirmizi
    obtain ⟨title', htitle', hsatir⟩ := h r.1 r.2 hget hkirmizi
    obtain rfl := Option.some.inj (htitle.symm.trans htitle')
    rw [kanit, hsatir]
    rfl
  | none =>
    have hyok : satir t userId title = none := by
      refine Table.first?_eq_none.mpr fun k i hget => Bool.eq_false_iff.mpr fun hp => ?_
      obtain ⟨hu, htip, htitle⟩ := ayniIcgoru_eq_true.mp hp
      refine List.find?_eq_none.mp hfind (k, i) (Table.mem_select.mpr ⟨hget, ?_⟩) (decide_eq_true htitle)
      exact decide_eq_true ⟨hu, htip⟩
    rw [kanit, hyok]
    rfl

/-- The messages that match under a title. -/
def eslesenler (kelime : Char → Bool) (title : String) (ms : List (ℕ × CoachMemory)) : List (ℕ × CoachMemory) :=
  ms.filter fun m => title ∈ (erlBulgular kelime m.2.content).map ErlBulgu.title

theorem erlRef_injective : Function.Injective erlRef := by
  intro a b h
  have hdigits := congrArg String.toList ((String.append_right_inj _).mp h)
  rw [Nat.toString_eq_repr, Nat.toString_eq_repr, Nat.toList_repr, Nat.toList_repr] at hdigits
  rw [← @Nat.ofDigitChars_toDigits 10 a (by decide) (by decide), hdigits, Nat.ofDigitChars_toDigits (by decide) (by decide)]

/-- The references of a title are those of the messages that match under it. -/
theorem toFinset_mesajRefleri (ms : List (ℕ × CoachMemory)) :
    (mesajRefleri kelime title ms).toFinset = ((eslesenler kelime title ms).map fun m => erlRef m.1).toFinset := by
  ext x
  simp only [mesajRefleri, bulguRefleri, eslesenler, List.mem_toFinset, List.mem_flatMap, List.mem_map, List.mem_filter,
    decide_eq_true_eq]
  constructor
  · rintro ⟨m, hm, b, ⟨hb, htitle⟩, rfl⟩
    exact ⟨m, ⟨hm, b, hb, htitle⟩, rfl⟩
  · rintro ⟨m, ⟨hm, b, hb, htitle⟩, rfl⟩
    exact ⟨m, hm, b, ⟨hb, htitle⟩, rfl⟩

theorem card_mesajRefleri {ms : List (ℕ × CoachMemory)} (hms : (ms.map Prod.fst).Nodup) :
    (mesajRefleri kelime title ms).toFinset.card = (eslesenler kelime title ms).length := by
  have hnodup : ((eslesenler kelime title ms).map fun m => erlRef m.1).Nodup := by
    have hmap : ((eslesenler kelime title ms).map fun m => erlRef m.1) =
        ((eslesenler kelime title ms).map Prod.fst).map erlRef := by rw [List.map_map]; rfl
    rw [hmap]
    exact (hms.sublist (List.filter_sublist.map _)).map erlRef_injective
  rw [toFinset_mesajRefleri, List.toFinset_card_of_nodup hnodup, List.length_map]

theorem nodup_erlMesajlar (now : ℤ) (userId : ℕ) (memories : Table CoachMemory) :
    ((erlMesajlar now userId memories).map Prod.fst).Nodup := by
  refine (((List.mergeSort_perm _ _).map Prod.fst).nodup_iff).mpr ?_
  exact memories.nodup.sublist (List.filter_sublist.map _)

end Run

/-- A run of the extractor over the messages that are there. -/
structure ErlKosu where
  now : ℤ
  memories : Table CoachMemory

def ErlKosu.mesajlar (k : ErlKosu) (userId : ℕ) : List (ℕ × CoachMemory) := erlMesajlar k.now userId k.memories

theorem ErlKosu.nodup_mesajlar (k : ErlKosu) (userId : ℕ) : ((k.mesajlar userId).map Prod.fst).Nodup :=
  nodup_erlMesajlar k.now userId k.memories

def erlKos (kelime : Char → Bool) (userId : ℕ) (t : Table CoachInsight) (k : ErlKosu) : Table CoachInsight :=
  (extractExplicitRedLineK1 k.now userId kelime k.memories t).2

/-- Every red line of the user has as much evidence as there are messages that match under its title. -/
def DogruSayim (kelime : Char → Bool) (userId : ℕ) (ms : List (ℕ × CoachMemory)) (t : Table CoachInsight) : Prop :=
  ∀ j i, t.get? j = some i → Kirmizi userId i → ∃ title, i.title = some title ∧
    i.evidenceCount = (eslesenler kelime title ms).length

section Runs
variable {kelime : Char → Bool} {userId : ℕ} {t : Table CoachInsight} {ms : List (ℕ × CoachMemory)}

/-- What one run does to the evidence of each title. -/
theorem kanit_erlKos (h : TekBaslik t userId) (k : ErlKosu) : TekBaslik (erlKos kelime userId t k) userId ∧
    ∀ title, kanit (erlKos kelime userId t k) userId title =
      (kanit t userId title).noteAll erlKayitSiniri (mesajRefleri kelime title (k.mesajlar userId)) := by
  obtain ⟨huyum, hkanit⟩ := @uyum_mesajlar kelime userId k.now _ (@uyum_baslangic userId k.now t h k.memories)
    (k.mesajlar userId)
  exact ⟨huyum.tek, hkanit⟩

/-- Every title has counted its messages once. -/
structure TamSayim (kelime : Char → Bool) (userId : ℕ) (ms : List (ℕ × CoachMemory)) (t : Table CoachInsight) : Prop where
  tek : TekBaslik t userId
  kanit : ∀ title, (Guarantees.kanit t userId title).Exact (mesajRefleri kelime title ms).toFinset

theorem mesajRefleri_subset {ms ms' : List (ℕ × CoachMemory)} (h : ms ⊆ ms') (title : String) :
    (mesajRefleri kelime title ms).toFinset ⊆ (mesajRefleri kelime title ms').toFinset := by
  intro x hx
  rw [List.mem_toFinset, mesajRefleri, List.mem_flatMap] at hx ⊢
  obtain ⟨m, hm, hx⟩ := hx
  exact ⟨m, h hm, hx⟩

/-- A run over the messages so far and others keeps that up, where there is room for all of them. -/
theorem tamSayim_erlKos (h : TamSayim kelime userId ms t) {k : ErlKosu} (hms : ms ⊆ k.mesajlar userId)
    (hyer : ∀ title, (eslesenler kelime title (k.mesajlar userId)).length ≤ erlKayitSiniri) :
    TamSayim kelime userId (k.mesajlar userId) (erlKos kelime userId t k) := by
  obtain ⟨htek, hkanit⟩ := @kanit_erlKos kelime userId t h.tek k
  refine ⟨htek, fun title => ?_⟩
  have hunion := Finset.union_eq_right.mpr (@mesajRefleri_subset kelime _ _ hms title)
  rw [hkanit, ← hunion]
  refine (h.kanit title).noteAll ?_
  rw [hunion, card_mesajRefleri (k.nodup_mesajlar userId)]
  exact hyer title

theorem dogruSayim_of_tamSayim (h : TamSayim kelime userId ms t) (hms : (ms.map Prod.fst).Nodup) :
    DogruSayim kelime userId ms t := by
  intro j i hget hi
  obtain ⟨title, htitle, hsatir⟩ := h.tek j i hget hi
  refine ⟨title, htitle, ?_⟩
  have hcount := (h.kanit title).count
  rwa [kanit, hsatir, card_mesajRefleri hms] at hcount

/-- Without a red line nothing has been counted. -/
theorem tamSayim_bos (hbos : erlMevcut userId t = []) : TamSayim kelime userId [] t := by
  have hyok : ∀ j i, t.get? j = some i → ¬ Kirmizi userId i := by
    intro j i hget hi
    have hmem : (j, i) ∈ erlMevcut userId t := Table.mem_select.mpr ⟨hget, decide_eq_true hi⟩
    rw [hbos] at hmem
    cases hmem
  refine ⟨fun j i hget hi => absurd hi (hyok j i hget), fun title => ?_⟩
  have hsatir : satir t userId title = none := by
    refine Table.first?_eq_none.mpr fun k i hget => Bool.eq_false_iff.mpr fun hp => hyok k i hget ?_
    obtain ⟨hu, htip, -⟩ := ayniIcgoru_eq_true.mp hp
    exact ⟨hu, htip⟩
  rw [kanit, hsatir]
  exact Recent.exact_empty

theorem tamSayim_kosular (h : TamSayim kelime userId ms t) {kosular : List ErlKosu}
    (hartan : (kosular.Pairwise fun a b => a.mesajlar userId ⊆ b.mesajlar userId) ∧ ∀ k ∈ kosular, ms ⊆ k.mesajlar userId)
    (hyer : ∀ k ∈ kosular, ∀ title, (eslesenler kelime title (k.mesajlar userId)).length ≤ erlKayitSiniri) :
    TamSayim kelime userId ((kosular.getLast?.map (ErlKosu.mesajlar · userId)).getD ms)
      (kosular.foldl (erlKos kelime userId) t) := by
  induction kosular generalizing t ms with
  | nil => exact h
  | cons k kosular ih =>
    obtain ⟨hk, hartan'⟩ := List.pairwise_cons.mp hartan.1
    have hstep := tamSayim_erlKos h (hartan.2 k List.mem_cons_self) (hyer k List.mem_cons_self)
    have hrest := ih hstep ⟨hartan', hk⟩ fun k' hk' => hyer k' (List.mem_cons_of_mem _ hk')
    cases kosular with
    | nil => exact hrest
    | cons k' kosular =>
      rw [List.getLast?_cons_cons]
      rw [List.getLast?_eq_some_getLast (List.cons_ne_nil k' kosular)] at hrest ⊢
      exact hrest

/-- Without room for every message of a title the next run counts some of them again. -/
theorem kanit_artar (htek : TekBaslik t userId) (hkeys : ∀ title, (kanit t userId title).keys.length ≤ erlKayitSiniri)
    {k : ErlKosu} {title : String} (hcok : erlKayitSiniri < (eslesenler kelime title (k.mesajlar userId)).length) :
    (kanit t userId title).count < (kanit (erlKos kelime userId t k) userId title).count := by
  rw [(kanit_erlKos htek k).2]
  refine Recent.count_lt_noteAll_of_card (hkeys title) ?_
  rwa [card_mesajRefleri (k.nodup_mesajlar userId)]

/-- What any runs leave: each red line is the row of its title, with at most fifty references. -/
theorem keys_kosular (hbos : erlMevcut userId t = []) (kosular : List ErlKosu) :
    TekBaslik (kosular.foldl (erlKos kelime userId) t) userId ∧
      ∀ title, (kanit (kosular.foldl (erlKos kelime userId) t) userId title).keys.length ≤ erlKayitSiniri := by
  have hbas := @tamSayim_bos kelime userId t hbos
  have hilk : ∀ title, (kanit t userId title).keys.length ≤ erlKayitSiniri := by
    intro title
    have hkeys := (hbas.kanit title).keys
    rw [(List.toFinset_eq_empty_iff _).mp hkeys]
    exact Nat.zero_le _
  have htek := hbas.tek
  clear hbas hbos
  induction kosular generalizing t with
  | nil => exact ⟨htek, hilk⟩
  | cons k kosular ih =>
    obtain ⟨htek', hkanit⟩ := @kanit_erlKos kelime userId t htek k
    refine ih (fun title => ?_) htek'
    rw [hkanit]
    exact Recent.noteAll_length (hilk title) _

theorem count_eq_of_dogruSayim (h : DogruSayim kelime userId ms t) {title : String}
    (hpos : 0 < (kanit t userId title).count) : (kanit t userId title).count = (eslesenler kelime title ms).length := by
  cases hsatir : satir t userId title with
  | none =>
    rw [kanit, hsatir] at hpos
    exact absurd hpos (Nat.lt_irrefl 0)
  | some r =>
    obtain ⟨hget, hu, htip, htitle⟩ := satir_eq_some hsatir
    obtain ⟨title', htitle', hcount⟩ := h r.1 r.2 hget ⟨hu, htip⟩
    obtain rfl := Option.some.inj (htitle.symm.trans htitle')
    rw [kanit, hsatir]
    exact hcount

/-- With more than fifty messages under a title no history of runs ends in two right counts in a row. -/
theorem sayim_bozulur (hbos : erlMevcut userId t = []) (gecmis : List ErlKosu) {k : ErlKosu} {title : String}
    (hcok : erlKayitSiniri < (eslesenler kelime title (k.mesajlar userId)).length) :
    ¬ (DogruSayim kelime userId (k.mesajlar userId) ((gecmis ++ [k]).foldl (erlKos kelime userId) t) ∧
      DogruSayim kelime userId (k.mesajlar userId) ((gecmis ++ [k, k]).foldl (erlKos kelime userId) t)) := by
  rintro ⟨hbir, hiki⟩
  obtain ⟨htek, hkeys⟩ := @keys_kosular kelime userId t hbos gecmis
  obtain ⟨htek₁, hkeys₁⟩ := @keys_kosular kelime userId t hbos (gecmis ++ [k])
  simp only [List.foldl_append, List.foldl_cons, List.foldl_nil] at hbir hiki htek₁ hkeys₁
  have hlt := kanit_artar htek hkeys hcok
  have hlt₁ := kanit_artar htek₁ hkeys₁ hcok
  have heq := @count_eq_of_dogruSayim kelime userId _ _ hbir title (by omega)
  have heq₁ := @count_eq_of_dogruSayim kelime userId _ _ hiki title (by omega)
  omega

/-- As long as no run meets more than fifty messages under a title, the evidence of every red line is right after
each of them; with more than fifty it cannot be right after that run and another one. -/
theorem evidence_counted_once (hbos : erlMevcut userId t = []) :
    (∀ kosular : List ErlKosu, (kosular.Pairwise fun a b => a.mesajlar userId ⊆ b.mesajlar userId) →
      (∀ k ∈ kosular, ∀ title, (eslesenler kelime title (k.mesajlar userId)).length ≤ erlKayitSiniri) →
      ∀ k ∈ kosular.getLast?, DogruSayim kelime userId (k.mesajlar userId) (kosular.foldl (erlKos kelime userId) t)) ∧
    ∀ (gecmis : List ErlKosu) (k : ErlKosu) (title : String),
      erlKayitSiniri < (eslesenler kelime title (k.mesajlar userId)).length →
      ¬ (DogruSayim kelime userId (k.mesajlar userId) ((gecmis ++ [k]).foldl (erlKos kelime userId) t) ∧
        DogruSayim kelime userId (k.mesajlar userId) ((gecmis ++ [k, k]).foldl (erlKos kelime userId) t)) := by
  refine ⟨fun kosular hartan hyer k hk => ?_, fun gecmis k title hcok => sayim_bozulur hbos gecmis hcok⟩
  have htam := tamSayim_kosular (tamSayim_bos hbos) ⟨hartan, fun k _ => List.nil_subset _⟩ hyer
  rw [Option.mem_def.mp hk] at htam
  exact dogruSayim_of_tamSayim htam (k.nodup_mesajlar userId)

end Runs

/-- The letters, digits and the underscore. -/
def latinKelime (c : Char) : Bool := c.isAlphanum ∨ c = '_'

def sinirMesaji : CoachMemory where
  role := .user
  content := "bu benim kirmizi cizgim"
  toolCallsJson := none
  toolCallId := none
  userId := 1
  pendingActionIds := none
  timestamp := 0

def sinirBulgusu : ErlBulgu where
  title := "Kirmizi cizgi [acik_sinir]: bu benim kirmizi cizgim"
  category := "acik_sinir"
  excerpt := "bu benim kirmizi cizgim"

theorem erlBulgular_sinirMesaji : erlBulgular latinKelime sinirMesaji.content = [sinirBulgusu] := by decide +kernel

/-- So many messages of the same words. -/
def sinirMesajlari : ℕ → Table CoachMemory
  | 0 => .empty
  | n + 1 => (sinirMesajlari n).push sinirMesaji

def sinirKosusu (n : ℕ) : ErlKosu := ⟨0, sinirMesajlari n⟩

theorem sinirMesajlari_rows (n : ℕ) : (sinirMesajlari n).rows.length = n ∧ ∀ r ∈ (sinirMesajlari n).rows, r.2 = sinirMesaji := by
  induction n with
  | zero => exact ⟨rfl, fun r hr => absurd hr List.not_mem_nil⟩
  | succ n ih =>
    refine ⟨?_, fun r hr => ?_⟩
    · change ((sinirMesajlari n).rows ++ [_]).length = n + 1
      rw [List.length_append, ih.1]
      rfl
    · rcases List.mem_append.mp hr with hr | hr
      · exact ih.2 r hr
      · rw [List.mem_singleton.mp hr]

/-- All of them match under one title. -/
theorem length_eslesenler_sinir (n : ℕ) :
    (eslesenler latinKelime sinirBulgusu.title ((sinirKosusu n).mesajlar 1)).length = n := by
  obtain ⟨hlen, hrows⟩ := sinirMesajlari_rows n
  have hsec : (sinirMesajlari n).select (fun m => m.userId = 1 ∧ m.role = .user ∧
      (0 : ℤ) - erlPeriodDays * 86400000000 ≤ m.timestamp) = (sinirMesajlari n).rows := by
    refine List.filter_eq_self.mpr fun r hr => ?_
    rw [hrows r hr]
    decide
  have hmem : ∀ m ∈ (sinirKosusu n).mesajlar 1, m.2 = sinirMesaji := by
    intro m hm
    rw [ErlKosu.mesajlar, erlMesajlar, sinirKosusu, hsec, List.mem_mergeSort] at hm
    exact hrows m hm
  rw [eslesenler, List.filter_eq_self.mpr fun m hm => by rw [hmem m hm, erlBulgular_sinirMesaji]; rfl]
  rw [ErlKosu.mesajlar, erlMesajlar, sinirKosusu, hsec, List.length_mergeSort, hlen]

/-- Fifty-one messages of the same words, and the extractor runs twice. -/
theorem evidence_recounted : ¬ ∀ (kelime : Char → Bool) (kosular : List ErlKosu),
    (kosular.Pairwise fun a b => a.mesajlar 1 ⊆ b.mesajlar 1) →
    ∀ k ∈ kosular.getLast?, DogruSayim kelime 1 (k.mesajlar 1) (kosular.foldl (erlKos kelime 1) .empty) := by
  intro h
  have hcok : erlKayitSiniri < (eslesenler latinKelime sinirBulgusu.title ((sinirKosusu 51).mesajlar 1)).length := by
    rw [length_eslesenler_sinir]
    decide
  refine sayim_bozulur rfl [] hcok ⟨h latinKelime [sinirKosusu 51] ?_ _ rfl,
    h latinKelime [sinirKosusu 51, sinirKosusu 51] ?_ _ rfl⟩
  · exact List.pairwise_singleton _ _
  · exact List.pairwise_pair.mpr fun _ hm => hm

theorem evidence_counted_once_sinir : DogruSayim latinKelime 1 ((sinirKosusu 1).mesajlar 1)
    ([sinirKosusu 1, sinirKosusu 1].foldl (erlKos latinKelime 1) .empty) := by
  refine (@evidence_counted_once latinKelime 1 .empty rfl).1 [sinirKosusu 1, sinirKosusu 1]
    (List.pairwise_pair.mpr fun _ hm => hm) (fun k hk title => ?_) _ rfl
  have hkosu : k = sinirKosusu 1 := by simpa using hk
  have hlen : ((sinirKosusu 1).mesajlar 1).length ≤ 1 := by
    rw [ErlKosu.mesajlar, erlMesajlar, List.length_mergeSort]
    exact (List.length_filter_le _ _).trans (sinirMesajlari_rows 1).1.le
  rw [hkosu]
  exact ((List.length_filter_le _ _).trans hlen).trans (by decide)

end FinancialOs.Guarantees
