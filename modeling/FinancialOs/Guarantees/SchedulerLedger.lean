import FinancialOs.Library.TransitionRuns
import FinancialOs.Store.SchedulerRuns

/-! The ledger of the scheduled jobs under any number of processes that run them, break off, and clean up: what it
calls a success was one, and a start of the application makes up for exactly the jobs that are overdue. -/
namespace FinancialOs.Guarantees
open Library Store

/-- A job at work in a process, and how many runs of the job have begun since. -/
structure Kosu where
  ad : String
  baslangic : ℤ
  kayitId : Option ℕ
  sonraki : ℕ

/-- A run of a job that came to its end without an error. -/
structure Basari where
  ad : String
  baslangic : ℤ
  an : ℤ
  yazildi : Bool
  sonraki : ℕ

structure Zamanlayici where
  simdi : ℤ
  kayitlar : Table SchedulerRun
  kosular : Table Kosu
  basarilar : List Basari

def Zamanlayici.ilk (simdi : ℤ) : Zamanlayici := ⟨simdi, .empty, .empty, []⟩

inductive ZamanlayiciOlayi where
  | saat (gecen : ℕ)
  | basla (ad : String) (ariza : KayitArizasi) (bosluk : ℕ)
  | bitir (kosu : ℕ) (ok : Bool) (detail : String) (ariza : KayitArizasi)
  | coker (kosu : ℕ)
  | buda (ad : String)
  | sakla

def Kosu.ardindan (ad : String) (k : Kosu) : Kosu :=
  if k.ad = ad then { k with sonraki := k.sonraki + 1 } else k

def Basari.ardindan (ad : String) (b : Basari) : Basari :=
  if b.ad = ad then { b with sonraki := b.sonraki + 1 } else b

@[simp] theorem Kosu.ardindan_ad (ad : String) (k : Kosu) : (k.ardindan ad).ad = k.ad := by
  rw [ardindan]
  split <;> rfl

@[simp] theorem Kosu.ardindan_baslangic (ad : String) (k : Kosu) : (k.ardindan ad).baslangic = k.baslangic := by
  rw [ardindan]
  split <;> rfl

@[simp] theorem Kosu.ardindan_kayitId (ad : String) (k : Kosu) : (k.ardindan ad).kayitId = k.kayitId := by
  rw [ardindan]
  split <;> rfl

theorem Kosu.ardindan_sonraki (ad : String) (k : Kosu) :
    (k.ardindan ad).sonraki = if k.ad = ad then k.sonraki + 1 else k.sonraki := by
  rw [ardindan]
  split <;> rfl

@[simp] theorem Basari.ardindan_ad (ad : String) (b : Basari) : (b.ardindan ad).ad = b.ad := by
  rw [ardindan]
  split <;> rfl

@[simp] theorem Basari.ardindan_baslangic (ad : String) (b : Basari) : (b.ardindan ad).baslangic = b.baslangic := by
  rw [ardindan]
  split <;> rfl

@[simp] theorem Basari.ardindan_an (ad : String) (b : Basari) : (b.ardindan ad).an = b.an := by
  rw [ardindan]
  split <;> rfl

@[simp] theorem Basari.ardindan_yazildi (ad : String) (b : Basari) : (b.ardindan ad).yazildi = b.yazildi := by
  rw [ardindan]
  split <;> rfl

theorem Basari.ardindan_sonraki (ad : String) (b : Basari) :
    (b.ardindan ad).sonraki = if b.ad = ad then b.sonraki + 1 else b.sonraki := by
  rw [ardindan]
  split <;> rfl

/-- `_izlenen_is` around the jobs, an event at a time: a job begins, ends, or is lost with its process; the rows
beyond the fiftieth go in a transaction of their own, which may come later or not at all. -/
def zamanlayiciAdimi (temizle : String → String) (s : Zamanlayici) : ZamanlayiciOlayi → Zamanlayici
  | .saat gecen => { s with simdi := s.simdi + gecen }
  | .basla ad ariza bosluk =>
    let kayit := kayitBasla s.kayitlar ariza bosluk ad s.simdi
    { s with
      kayitlar := kayit.1
      kosular := (s.kosular.mapRows (Kosu.ardindan ad)).push ⟨ad, s.simdi, kayit.2, 0⟩
      basarilar := s.basarilar.map (Basari.ardindan ad) }
  | .bitir kosu ok detail ariza =>
    match s.kosular.get? kosu with
    | none => s
    | some k => { s with
        kayitlar := kayitBitir temizle s.kayitlar ariza k.kayitId ok detail s.simdi
        kosular := s.kosular.erase kosu
        basarilar :=
          if ok then ⟨k.ad, k.baslangic, s.simdi, k.kayitId.isSome ∧ ariza ≠ .once, k.sonraki⟩ :: s.basarilar
          else s.basarilar }
  | .coker kosu => { s with kosular := s.kosular.erase kosu }
  | .buda ad => { s with kayitlar := kayitBuda s.kayitlar ad }
  | .sakla => { s with kayitlar := saklamaKurali (fun r => some r.startedAt) 90 s.simdi s.kayitlar }

def saklamaEsigi (simdi : ℤ) : ℤ := simdi - (90 : ℕ) * 86400 * saniye

/-- While the old rows are swept no job has been at work for more than ninety days. -/
def KosularKisa (s : Zamanlayici) (olay : ZamanlayiciOlayi) : Prop :=
  olay = .sakla → ∀ i k, s.kosular.get? i = some k → saklamaEsigi s.simdi ≤ k.baslangic

section Rows
variable {rows rows' : Table SchedulerRun} {ad ad' : String} {baslangic simdi : ℤ} {sonraki n id j : ℕ}
variable {P Q : SchedulerRun → Prop} {k : Kosu}

/-- The row of a run is there, and not more runs of the job are written behind it than have begun. -/
def Duruyor (rows : Table SchedulerRun) (ad : String) (baslangic : ℤ) (sonraki id : ℕ)
    (P : SchedulerRun → Prop) : Prop :=
  ∃ r, rows.get? id = some r ∧ r.jobName = ad ∧ r.startedAt = baslangic ∧ P r ∧ yeniKayitlar rows ad id ≤ sonraki

/-- What a running job knows of the row it has opened. -/
structure KaydiTutar (rows : Table SchedulerRun) (k : Kosu) (id : ℕ) : Prop where
  dahaYeni : ∃ j r, id ≤ j ∧ rows.get? j = some r ∧ k.baslangic ≤ r.startedAt
  kendi : ∀ r, rows.get? id = some r → r.jobName = k.ad ∧ r.ok = none
  yerinde : k.sonraki < 50 → Duruyor rows k.ad k.baslangic k.sonraki id fun r => r.ok = none

theorem KaydiTutar.lt_freshKey (h : KaydiTutar rows k id) : id < rows.freshKey := by
  obtain ⟨j, r, hle, hr, -⟩ := h.dahaYeni
  exact hle.trans_lt (Table.lt_freshKey hr)

/-- A row opened above all keys. -/
theorem Duruyor.push (h : Duruyor rows ad baslangic sonraki id P) (bosluk : ℕ) (a : SchedulerRun) :
    Duruyor (rows.pushAbove bosluk a) ad baslangic (if ad = a.jobName then sonraki + 1 else sonraki) id P := by
  obtain ⟨r, hr, had, hbas, hP, hle⟩ := h
  have hlt := Table.lt_freshKey hr
  refine ⟨r, ?_, had, hbas, hP, ?_⟩
  · rw [Table.get?_pushAbove, if_neg (by omega)]
    exact hr
  · rw [yeniKayitlar] at hle ⊢
    rw [Table.count_pushAbove]
    by_cases hayni : ad = a.jobName
    · rw [if_pos hayni]
      split <;> omega
    · rw [if_neg hayni, if_neg (by simp [Ne.symm hayni])]
      omega

theorem Duruyor.mono (h : Duruyor rows ad baslangic sonraki id P) (hle : sonraki ≤ n) :
    Duruyor rows ad baslangic n id P := by
  obtain ⟨r, hr, had, hbas, hP, hcount⟩ := h
  exact ⟨r, hr, had, hbas, hP, hcount.trans hle⟩

/-- Fewer rows, but not without this one. -/
theorem Duruyor.kalan (h : Duruyor rows ad baslangic sonraki id P) (hsub : rows'.rows.Sublist rows.rows)
    (hkal : ∀ r, rows.get? id = some r → r.jobName = ad → r.startedAt = baslangic →
      yeniKayitlar rows ad id ≤ sonraki → rows'.get? id = some r) : Duruyor rows' ad baslangic sonraki id P := by
  obtain ⟨r, hr, had, hbas, hP, hle⟩ := h
  exact ⟨r, hkal r hr had hbas hle, had, hbas, hP, (yeniKayitlar_le hsub).trans hle⟩

/-- Another row is closed. -/
theorem Duruyor.kapat (h : Duruyor rows ad baslangic sonraki id P) (hne : id ≠ j) (temizle : String → String)
    (ok : Bool) (detail : String) (simdi : ℤ) :
    Duruyor (kayitKapat temizle rows j ok detail simdi) ad baslangic sonraki id P := by
  obtain ⟨r, hr, had, hbas, hP, hle⟩ := h
  refine ⟨r, ?_, had, hbas, hP, ?_⟩
  · rw [kayitKapat, Table.get?_modify, if_neg hne]
    exact hr
  · rw [yeniKayitlar_kayitKapat]
    exact hle

theorem get?_kayitKapat {temizle : String → String} {ok : Bool} {detail : String} {i : ℕ} {r : SchedulerRun}
    (h : (kayitKapat temizle rows j ok detail simdi).get? i = some r) : ∃ a, rows.get? i = some a ∧
      a.jobName = r.jobName ∧ a.startedAt = r.startedAt ∧
        if i = j then r.ok = some ok ∧ r.finishedAt = some simdi else r = a := by
  rw [kayitKapat, Table.get?_modify] at h
  split at h
  · next hij =>
    obtain ⟨a, ha, rfl⟩ := Option.map_eq_some_iff.mp h
    exact ⟨a, ha, rfl, rfl, by rw [if_pos hij]; exact ⟨rfl, rfl⟩⟩
  · next hij => exact ⟨r, h, rfl, rfl, by rw [if_neg hij]⟩

theorem get?_kayitKapat_kendi {temizle : String → String} {ok : Bool} {detail : String} {r : SchedulerRun}
    (h : rows.get? j = some r) : ∃ a, (kayitKapat temizle rows j ok detail simdi).get? j = some a ∧
      a.jobName = r.jobName ∧ a.startedAt = r.startedAt ∧ a.ok = some ok ∧ a.finishedAt = some simdi := by
  rw [kayitKapat, Table.get?_modify, if_pos rfl, h]
  exact ⟨_, rfl, rfl, rfl, rfl, rfl⟩

/-- The row itself is closed. -/
theorem Duruyor.kapatilan (h : Duruyor rows ad baslangic sonraki id P) (temizle : String → String) (ok : Bool)
    (detail : String) (simdi : ℤ) : Duruyor (kayitKapat temizle rows id ok detail simdi) ad baslangic sonraki id
      fun r => r.ok = some ok ∧ r.finishedAt = some simdi := by
  obtain ⟨r, hr, had, hbas, -, hle⟩ := h
  obtain ⟨a, ha, haad, habas, hkapali⟩ := @get?_kayitKapat_kendi rows simdi id temizle ok detail r hr
  refine ⟨a, ha, haad.trans had, habas.trans hbas, hkapali, ?_⟩
  rw [yeniKayitlar_kayitKapat]
  exact hle

/-- The row of another job at work is closed. -/
theorem KaydiTutar.kapat (h : KaydiTutar rows k id) (hne : id ≠ j) (temizle : String → String) (ok : Bool)
    (detail : String) (simdi : ℤ) : KaydiTutar (kayitKapat temizle rows j ok detail simdi) k id := by
  obtain ⟨m, r, hle, hr, hbas⟩ := h.dahaYeni
  refine ⟨?_, fun r hr => ?_, fun hsonraki => (h.yerinde hsonraki).kapat hne temizle ok detail simdi⟩
  · by_cases hm : m = j
    · subst hm
      obtain ⟨a, ha, -, habas, -⟩ := @get?_kayitKapat_kendi rows simdi m temizle ok detail r hr
      refine ⟨m, a, hle, ha, ?_⟩
      rw [habas]
      exact hbas
    · refine ⟨m, r, hle, ?_, hbas⟩
      rw [kayitKapat, Table.get?_modify, if_neg hm]
      exact hr
  · obtain ⟨a, ha, -, -, hayni⟩ := get?_kayitKapat hr
    rw [if_neg hne] at hayni
    rw [hayni]
    exact h.kendi a ha

section Opening
variable {ariza : KayitArizasi} {bosluk : ℕ}

theorem get?_kayitBasla {i : ℕ} {a : SchedulerRun} (h : (kayitBasla rows ariza bosluk ad simdi).1.get? i = some a) :
    rows.get? i = some a ∨ i = rows.freshKey + bosluk ∧ a = ⟨ad, simdi, none, none, none⟩ := by
  have hyeni : (rows.pushAbove bosluk ⟨ad, simdi, none, none, none⟩).get? i = some a →
      rows.get? i = some a ∨ i = rows.freshKey + bosluk ∧ a = ⟨ad, simdi, none, none, none⟩ := by
    intro hi
    rw [Table.get?_pushAbove] at hi
    split at hi
    · next hkey => exact .inr ⟨hkey, (Option.some.inj hi).symm⟩
    · exact .inl hi
  cases ariza with
  | yok => exact hyeni h
  | once => exact .inl h
  | sonra => exact hyeni h

theorem get?_kayitBasla_eski {i : ℕ} {a : SchedulerRun} (h : rows.get? i = some a) :
    (kayitBasla rows ariza bosluk ad simdi).1.get? i = some a := by
  have hyeni : (rows.pushAbove bosluk ⟨ad, simdi, none, none, none⟩).get? i = some a := by
    have hlt := Table.lt_freshKey h
    rw [Table.get?_pushAbove, if_neg (by omega)]
    exact h
  cases ariza with
  | yok => exact hyeni
  | once => exact h
  | sonra => exact hyeni

theorem Duruyor.basla (h : Duruyor rows ad' baslangic sonraki id P) :
    Duruyor (kayitBasla rows ariza bosluk ad simdi).1 ad' baslangic (if ad' = ad then sonraki + 1 else sonraki) id
      P := by
  have hyeni := h.push bosluk ⟨ad, simdi, none, none, none⟩
  cases ariza with
  | yok => exact hyeni
  | once =>
    refine h.mono ?_
    split
    · exact Nat.le_succ _
    · exact le_rfl
  | sonra => exact hyeni

/-- The key that is given back is that of the new row. -/
theorem kayitBasla_anahtar (h : (kayitBasla rows ariza bosluk ad simdi).2 = some id) :
    id = rows.freshKey + bosluk ∧
      Duruyor (kayitBasla rows ariza bosluk ad simdi).1 ad simdi 0 id fun r => r = ⟨ad, simdi, none, none, none⟩ := by
  cases ariza with
  | yok =>
    obtain rfl : rows.freshKey + bosluk = id := Option.some.inj h
    have hget : (rows.pushAbove bosluk ⟨ad, simdi, none, none, none⟩).get? (rows.freshKey + bosluk) =
        some ⟨ad, simdi, none, none, none⟩ := by
      rw [Table.get?_pushAbove, if_pos rfl]
    refine ⟨rfl, _, hget, rfl, rfl, rfl, (yeniKayitlar_sonKayit fun i b hb => ?_).le⟩
    change (rows.pushAbove bosluk ⟨ad, simdi, none, none, none⟩).get? i = some b at hb
    rw [Table.get?_pushAbove] at hb
    split at hb
    · next hi => exact hi.le
    · exact (Table.lt_freshKey hb).le.trans (Nat.le_add_right _ _)
  | once => cases h
  | sonra => cases h

/-- The job that has just begun. -/
theorem kaydiTutar_acilan (h : (kayitBasla rows ariza bosluk ad simdi).2 = some id) :
    KaydiTutar (kayitBasla rows ariza bosluk ad simdi).1
      ⟨ad, simdi, (kayitBasla rows ariza bosluk ad simdi).2, 0⟩ id := by
  obtain ⟨-, r, hr, -, -, rfl, hcount⟩ := kayitBasla_anahtar h
  refine ⟨⟨id, _, le_rfl, hr, le_rfl⟩, fun r hr' => ?_, fun _ => ⟨_, hr, rfl, rfl, rfl, hcount⟩⟩
  rw [hr] at hr'
  rw [← Option.some.inj hr']
  exact ⟨rfl, rfl⟩

/-- A job at work, when a row is opened. -/
theorem KaydiTutar.basla (h : KaydiTutar rows k id) :
    KaydiTutar (kayitBasla rows ariza bosluk ad simdi).1 (k.ardindan ad) id := by
  obtain ⟨j, r, hle, hr, hbas⟩ := h.dahaYeni
  refine ⟨⟨j, r, hle, get?_kayitBasla_eski hr, ?_⟩, fun r hr => ?_, fun hsonraki => ?_⟩
  · rw [Kosu.ardindan_baslangic]
    exact hbas
  · rw [Kosu.ardindan_ad]
    rcases get?_kayitBasla hr with hr | ⟨rfl, -⟩
    · exact h.kendi r hr
    · have hlt := h.lt_freshKey
      omega
  · rw [Kosu.ardindan_sonraki] at hsonraki
    rw [Kosu.ardindan_ad, Kosu.ardindan_baslangic, Kosu.ardindan_sonraki]
    refine (h.yerinde ?_).basla
    split at hsonraki <;> omega

end Opening

end Rows

/-- What holds of the ledger after every event. -/
structure DefterDogru (s : Zamanlayici) : Prop where
  sirali : ∀ i j a b, s.kayitlar.get? i = some a → s.kayitlar.get? j = some b → i < j → a.startedAt ≤ b.startedAt
  gecmis : ∀ i a, s.kayitlar.get? i = some a → a.startedAt ≤ s.simdi
  kosu : ∀ i k id, s.kosular.get? i = some k → k.kayitId = some id → KaydiTutar s.kayitlar k id
  tek : ∀ i j k l id, s.kosular.get? i = some k → s.kosular.get? j = some l → k.kayitId = some id →
    l.kayitId = some id → i = j
  basari : ∀ i r, s.kayitlar.get? i = some r → r.ok = some true →
    ∃ b ∈ s.basarilar, b.ad = r.jobName ∧ r.finishedAt = some b.an
  duran : ∀ b ∈ s.basarilar, b.yazildi = true → b.sonraki < 50 → saklamaEsigi s.simdi ≤ b.baslangic →
    ∃ id, Duruyor s.kayitlar b.ad b.baslangic b.sonraki id fun r => r.ok = some true ∧ r.finishedAt = some b.an

section Steps
variable {temizle : String → String} {s : Zamanlayici} {ad : String} {ariza : KayitArizasi}
variable {rows' : Table SchedulerRun}

theorem defterDogru_ilk (simdi : ℤ) : DefterDogru (Zamanlayici.ilk simdi) where
  sirali _ _ _ _ ha _ _ := by cases ha
  gecmis _ _ ha := by cases ha
  kosu _ _ _ hk _ := by cases hk
  tek _ _ _ _ _ hk _ _ _ := by cases hk
  basari _ _ hr _ := by cases hr
  duran _ hb _ _ _ := by cases hb

theorem DefterDogru.saat (h : DefterDogru s) (gecen : ℕ) :
    DefterDogru (zamanlayiciAdimi temizle s (.saat gecen)) where
  sirali := h.sirali
  gecmis i a ha := by
    have hle := h.gecmis i a ha
    change a.startedAt ≤ s.simdi + gecen
    omega
  kosu := h.kosu
  tek := h.tek
  basari := h.basari
  duran b hb hyazildi hsonraki hesik := by
    refine h.duran b hb hyazildi hsonraki ?_
    have hesik : saklamaEsigi (s.simdi + gecen) ≤ b.baslangic := hesik
    rw [saklamaEsigi] at hesik ⊢
    omega

theorem DefterDogru.coker (h : DefterDogru s) (i : ℕ) : DefterDogru { s with kosular := s.kosular.erase i } := by
  have hvar : ∀ {j : ℕ} {k : Kosu}, (s.kosular.erase i).get? j = some k → s.kosular.get? j = some k := by
    intro j k hk
    rw [Table.get?_erase] at hk
    split at hk
    · cases hk
    · exact hk
  exact ⟨h.sirali, h.gecmis, fun j k id hk => h.kosu j k id (hvar hk),
    fun a b k l id hk hl => h.tek a b k l id (hvar hk) (hvar hl), h.basari, h.duran⟩

/-- Rows that no running job and no success stands on may go. -/
theorem DefterDogru.silme (h : DefterDogru s) (hsub : rows'.rows.Sublist s.kayitlar.rows)
    (hson : ∀ i k j r, s.kosular.get? i = some k → s.kayitlar.get? j = some r → k.baslangic ≤ r.startedAt →
      ∃ m a, j ≤ m ∧ rows'.get? m = some a ∧ k.baslangic ≤ a.startedAt)
    (hkosu : ∀ i k id r, s.kosular.get? i = some k → s.kayitlar.get? id = some r → r.startedAt = k.baslangic →
      yeniKayitlar s.kayitlar r.jobName id < 50 → rows'.get? id = some r)
    (hduran : ∀ id r, s.kayitlar.get? id = some r → saklamaEsigi s.simdi ≤ r.startedAt →
      yeniKayitlar s.kayitlar r.jobName id < 50 → rows'.get? id = some r) :
    DefterDogru { s with kayitlar := rows' } where
  sirali i j a b ha hb := h.sirali i j a b (get?_of_sublist hsub ha) (get?_of_sublist hsub hb)
  gecmis i a ha := h.gecmis i a (get?_of_sublist hsub ha)
  kosu i k id hk hid := by
    have htutar := h.kosu i k id hk hid
    obtain ⟨j, r, hle, hr, hbas⟩ := htutar.dahaYeni
    obtain ⟨m, a, hjm, ha, hma⟩ := hson i k j r hk hr hbas
    refine ⟨⟨m, a, hle.trans hjm, ha, hma⟩, fun r hr => htutar.kendi r (get?_of_sublist hsub hr),
      fun hsonraki => ?_⟩
    refine (htutar.yerinde hsonraki).kalan hsub fun r hr had hbas hcount => hkosu i k id r hk hr hbas ?_
    rw [had]
    omega
  tek := h.tek
  basari i r hr := h.basari i r (get?_of_sublist hsub hr)
  duran b hb hyazildi hsonraki hesik := by
    obtain ⟨id, hyerinde⟩ := h.duran b hb hyazildi hsonraki hesik
    refine ⟨id, hyerinde.kalan hsub fun r hr had hbas hcount => hduran id r hr ?_ ?_⟩
    · rw [hbas]
      exact hesik
    · rw [had]
      omega

theorem DefterDogru.buda (h : DefterDogru s) (ad : String) :
    DefterDogru { s with kayitlar := kayitBuda s.kayitlar ad } := by
  have hkal : ∀ id r, s.kayitlar.get? id = some r → yeniKayitlar s.kayitlar r.jobName id < 50 →
      (kayitBuda s.kayitlar ad).get? id = some r := by
    intro id r hr hcount
    refine Table.get?_retain.mpr ⟨hr, decide_eq_true ?_⟩
    by_cases had : r.jobName = ad
    · rw [had] at hcount
      exact .inr hcount
    · exact .inl had
  refine h.silme List.filter_sublist (fun i k j r hk hr hbas => ?_) (fun i k id r _ hr _ => hkal id r hr)
    (fun id r hr _ => hkal id r hr)
  -- the newest row of all is never among those that go
  obtain ⟨m, a, ha, hmax⟩ := exists_sonKayit hr
  have hcount : yeniKayitlar s.kayitlar a.jobName m < 50 := by
    rw [yeniKayitlar_sonKayit hmax]
    decide
  refine ⟨m, a, hmax j r hr, hkal m a ha hcount, ?_⟩
  rcases Nat.lt_or_eq_of_le (hmax j r hr) with hlt | rfl
  · exact hbas.trans (h.sirali j m r a hr ha hlt)
  · rw [hr] at ha
    rw [← Option.some.inj ha]
    exact hbas

theorem DefterDogru.sakla (h : DefterDogru s)
    (hkisa : ∀ i k, s.kosular.get? i = some k → saklamaEsigi s.simdi ≤ k.baslangic) :
    DefterDogru (zamanlayiciAdimi temizle s .sakla) := by
  have hkal : ∀ id r, s.kayitlar.get? id = some r → saklamaEsigi s.simdi ≤ r.startedAt →
      (saklamaKurali (fun r => some r.startedAt) 90 s.simdi s.kayitlar).get? id = some r := by
    intro id r hr hesik
    refine Table.get?_keep.mpr ⟨hr, ?_⟩
    simpa [saklamaEsigi] using hesik
  refine h.silme List.filter_sublist (fun i k j r hk hr hbas => ?_) (fun i k id r hk hr hbas _ => hkal id r hr ?_)
    (fun id r hr hesik _ => hkal id r hr hesik)
  · exact ⟨j, r, le_rfl, hkal j r hr ((hkisa i k hk).trans hbas), hbas⟩
  · rw [hbas]
    exact hkisa i k hk

/-- A running job closes its row. -/
theorem DefterDogru.kapat (h : DefterDogru s) {i id : ℕ} {k : Kosu} (hk : s.kosular.get? i = some k)
    (hid : k.kayitId = some id) (ok : Bool) (detail : String) :
    DefterDogru { s with
      kayitlar := kayitKapat temizle s.kayitlar id ok detail s.simdi
      kosular := s.kosular.erase i
      basarilar := if ok then ⟨k.ad, k.baslangic, s.simdi, true, k.sonraki⟩ :: s.basarilar else s.basarilar } := by
  have htutar := h.kosu i k id hk hid
  have heski : ∀ b ∈ s.basarilar, b ∈
      if ok then ⟨k.ad, k.baslangic, s.simdi, true, k.sonraki⟩ :: s.basarilar else s.basarilar := by
    intro b hb
    split
    · exact List.mem_cons_of_mem _ hb
    · exact hb
  refine ⟨fun a b x y hx hy hab => ?_, fun j a ha => ?_, fun j l jd hl hjd => ?_, fun a b x y jd hx hy => ?_,
    fun j r hr hok => ?_, fun b hb hyazildi hsonraki hesik => ?_⟩
  · obtain ⟨x', hx', -, hxbas, -⟩ := get?_kayitKapat hx
    obtain ⟨y', hy', -, hybas, -⟩ := get?_kayitKapat hy
    rw [← hxbas, ← hybas]
    exact h.sirali a b x' y' hx' hy' hab
  · obtain ⟨a', ha', -, hbas, -⟩ := get?_kayitKapat ha
    rw [← hbas]
    exact h.gecmis j a' ha'
  · dsimp only at hl
    rw [Table.get?_erase] at hl
    split at hl
    · cases hl
    · next hji =>
      have hne : jd ≠ id := fun he => hji (h.tek j i l k id hl hk (he ▸ hjd) hid)
      exact (h.kosu j l jd hl hjd).kapat hne temizle ok detail s.simdi
  · exact (h.coker i).tek a b x y jd hx hy
  · obtain ⟨a, ha, had, -, hayni⟩ := get?_kayitKapat hr
    split at hayni
    · next hj =>
      obtain ⟨hrok, hfin⟩ := hayni
      obtain rfl : ok = true := Option.some.inj (hrok.symm.trans hok)
      subst hj
      have hadi := (htutar.kendi a ha).1.symm.trans had
      exact ⟨⟨k.ad, k.baslangic, s.simdi, true, k.sonraki⟩, List.mem_cons_self, hadi, hfin⟩
    · subst hayni
      obtain ⟨b, hb, hbad, hfin⟩ := h.basari j r ha hok
      exact ⟨b, heski b hb, hbad, hfin⟩
  · have hduran : b ∈ s.basarilar → ∃ id', Duruyor (kayitKapat temizle s.kayitlar id ok detail s.simdi) b.ad
        b.baslangic b.sonraki id' fun r => r.ok = some true ∧ r.finishedAt = some b.an := by
      intro hb
      obtain ⟨id', hyerinde⟩ := h.duran b hb hyazildi hsonraki hesik
      refine ⟨id', hyerinde.kapat ?_ temizle ok detail s.simdi⟩
      rintro rfl
      obtain ⟨r, hr, -, -, ⟨hok, -⟩, -⟩ := hyerinde
      rw [(htutar.kendi r hr).2] at hok
      cases hok
    cases ok with
    | false => exact hduran hb
    | true =>
      rcases List.mem_cons.mp hb with rfl | hb
      · exact ⟨id, (htutar.yerinde hsonraki).kapatilan temizle true detail s.simdi⟩
      · exact hduran hb

/-- A job ends whose row is not closed. -/
theorem DefterDogru.kayitsiz (h : DefterDogru s) (i : ℕ) (ok : Bool) {b : Basari}
    (hb : b.yazildi = true → ¬b.sonraki < 50) :
    DefterDogru { s with
      kosular := s.kosular.erase i
      basarilar := if ok then b :: s.basarilar else s.basarilar } := by
  cases ok with
  | false => exact h.coker i
  | true =>
    refine { h.coker i with
      basari := fun j r hr hok => ?_
      duran := fun c hc hyazildi hsonraki hesik => ?_ }
    · obtain ⟨c, hc, hson⟩ := h.basari j r hr hok
      exact ⟨c, List.mem_cons_of_mem b hc, hson⟩
    · rcases List.mem_cons.mp hc with rfl | hc
      · exact absurd hsonraki (hb hyazildi)
      · exact h.duran c hc hyazildi hsonraki hesik

theorem DefterDogru.bitir (h : DefterDogru s) (i : ℕ) (ok : Bool) (detail : String) (ariza : KayitArizasi) :
    DefterDogru (zamanlayiciAdimi temizle s (.bitir i ok detail ariza)) := by
  cases hk : s.kosular.get? i with
  | none =>
    rw [zamanlayiciAdimi, hk]
    exact h
  | some k =>
    rw [zamanlayiciAdimi, hk]
    obtain ⟨ad, baslangic, kayitId, sonraki⟩ := k
    dsimp only
    cases kayitId with
    | none =>
      refine h.kayitsiz i ok fun hyazildi => ?_
      simp only [Option.isSome_none, Bool.false_eq_true, false_and, decide_false] at hyazildi
    | some id =>
      cases hr : s.kayitlar.get? id with
      | none =>
        rw [kayitBitir_silinmis hr]
        refine h.kayitsiz i ok fun _ hsonraki => ?_
        obtain ⟨r, hvar, -⟩ := (h.kosu i _ id hk rfl).yerinde hsonraki
        rw [hr] at hvar
        cases hvar
      | some r =>
        cases ariza with
        | once =>
          rw [kayitBitir_once hr]
          refine h.kayitsiz i ok fun hyazildi => ?_
          simp only [ne_eq, not_true_eq_false, and_false, decide_false, Bool.false_eq_true] at hyazildi
        | sonra =>
          rw [kayitBitir_sonra hr]
          exact h.kapat hk rfl ok detail
        | yok =>
          rw [kayitBitir_yok hr]
          exact (h.kapat hk rfl ok detail).buda r.jobName

theorem DefterDogru.basla (h : DefterDogru s) (ad : String) (ariza : KayitArizasi) (bosluk : ℕ) :
    DefterDogru (zamanlayiciAdimi temizle s (.basla ad ariza bosluk)) := by
  have hkosu : ∀ {i : ℕ} {k : Kosu}, ((s.kosular.mapRows (Kosu.ardindan ad)).push
      ⟨ad, s.simdi, (kayitBasla s.kayitlar ariza bosluk ad s.simdi).2, 0⟩).get? i = some k →
      i = (s.kosular.mapRows (Kosu.ardindan ad)).freshKey ∧
        k = ⟨ad, s.simdi, (kayitBasla s.kayitlar ariza bosluk ad s.simdi).2, 0⟩ ∨
      ∃ k', s.kosular.get? i = some k' ∧ k = k'.ardindan ad := by
    intro i k hk
    rw [Table.get?_push] at hk
    split at hk
    · next hi => exact .inl ⟨hi, (Option.some.inj hk).symm⟩
    · rw [Table.get?_mapRows] at hk
      obtain ⟨k', hk', rfl⟩ := Option.map_eq_some_iff.mp hk
      exact .inr ⟨k', hk', rfl⟩
  refine ⟨fun i j a b ha hb hij => ?_, fun i a ha => ?_, fun i k id hk hid => ?_,
    fun i j k l id hk hl hkid hlid => ?_, fun i r hr hok => ?_, fun b hb hyazildi hsonraki hesik => ?_⟩
  · rcases get?_kayitBasla ha with ha | ⟨rfl, rfl⟩ <;> rcases get?_kayitBasla hb with hb | ⟨rfl, rfl⟩
    · exact h.sirali i j a b ha hb hij
    · exact h.gecmis i a ha
    · have hlt := Table.lt_freshKey hb
      omega
    · exact le_rfl
  · rcases get?_kayitBasla ha with ha | ⟨-, rfl⟩
    · exact h.gecmis i a ha
    · exact le_rfl
  · rcases hkosu hk with ⟨-, rfl⟩ | ⟨k, hk', rfl⟩
    · exact kaydiTutar_acilan hid
    · rw [Kosu.ardindan_kayitId] at hid
      exact (h.kosu i k id hk' hid).basla
  · rcases hkosu hk with ⟨rfl, rfl⟩ | ⟨k, hk', rfl⟩ <;> rcases hkosu hl with ⟨rfl, rfl⟩ | ⟨l, hl', rfl⟩
    · rfl
    · rw [Kosu.ardindan_kayitId] at hlid
      have hlt := (h.kosu j l id hl' hlid).lt_freshKey
      have hkey := (kayitBasla_anahtar hkid).1
      omega
    · rw [Kosu.ardindan_kayitId] at hkid
      have hlt := (h.kosu i k id hk' hkid).lt_freshKey
      have hkey := (kayitBasla_anahtar hlid).1
      omega
    · rw [Kosu.ardindan_kayitId] at hkid hlid
      exact h.tek i j k l id hk' hl' hkid hlid
  · rcases get?_kayitBasla hr with hr | ⟨-, rfl⟩
    · obtain ⟨b, hb, hbad, hfin⟩ := h.basari i r hr hok
      refine ⟨b.ardindan ad, List.mem_map_of_mem hb, ?_, ?_⟩
      · rw [Basari.ardindan_ad]
        exact hbad
      · rw [Basari.ardindan_an]
        exact hfin
    · cases hok
  · obtain ⟨b, hb', rfl⟩ := List.mem_map.mp hb
    rw [Basari.ardindan_yazildi] at hyazildi
    rw [Basari.ardindan_baslangic] at hesik
    rw [Basari.ardindan_sonraki] at hsonraki
    rw [Basari.ardindan_ad, Basari.ardindan_baslangic, Basari.ardindan_sonraki, Basari.ardindan_an]
    obtain ⟨id, hyerinde⟩ := h.duran b hb' hyazildi (by split at hsonraki <;> omega) hesik
    exact ⟨id, hyerinde.basla⟩

theorem DefterDogru.adim (h : DefterDogru s) (olay : ZamanlayiciOlayi) (hkisa : KosularKisa s olay) :
    DefterDogru (zamanlayiciAdimi temizle s olay) := by
  cases olay with
  | saat gecen => exact h.saat gecen
  | basla ad ariza bosluk => exact h.basla ad ariza bosluk
  | bitir kosu ok detail ariza => exact h.bitir kosu ok detail ariza
  | coker kosu => exact h.coker kosu
  | buda ad => exact h.buda ad
  | sakla => exact h.sakla (hkisa rfl)

/-- After every run the jobs that a start of the application makes up for are those without a success in their period:
none of these is left out, and no other is run again whose success was written, which fewer than fifty runs of the job
have begun after and which the sweep of old rows has not reached. -/
theorem catch_up_exact {simdi : ℤ} {olaylar : List ZamanlayiciOlayi} {planlar : List PlanliIs} {plan : PlanliIs}
    (hkisa : StepsMeet (zamanlayiciAdimi temizle) KosularKisa (Zamanlayici.ilk simdi) olaylar)
    (hplan : plan ∈ planlar) (hs : s = run (zamanlayiciAdimi temizle) (Zamanlayici.ilk simdi) olaylar) :
    ((∀ b ∈ s.basarilar, b.ad = plan.ad → plan.periyot < s.simdi - b.an) →
      plan ∈ telafiEdilecekler s.kayitlar s.simdi planlar) ∧
    ((∃ b ∈ s.basarilar, b.ad = plan.ad ∧ s.simdi - b.an ≤ plan.periyot ∧ b.yazildi = true ∧ b.sonraki < 50 ∧
        saklamaEsigi s.simdi ≤ b.baslangic) → plan ∉ telafiEdilecekler s.kayitlar s.simdi planlar) := by
  have hdogru : DefterDogru s := by
    rw [hs]
    exact run_invariant (fun s olay h hkisa => h.adim olay hkisa) (defterDogru_ilk simdi) hkisa
  have hgeciken : plan ∈ telafiEdilecekler s.kayitlar s.simdi planlar ↔ gecikti s.kayitlar s.simdi plan = true := by
    rw [telafiEdilecekler, List.mem_filter]
    exact and_iff_right hplan
  rw [hgeciken]
  constructor
  · intro hyok
    by_contra hgec
    obtain ⟨i, r, f, hr, had, hok, hf, hle⟩ := gecikti_eq_false.mp (Bool.eq_false_iff.mpr hgec)
    obtain ⟨b, hb, hbad, hfin⟩ := hdogru.basari i r hr hok
    have han : f = b.an := Option.some.inj (hf.symm.trans hfin)
    have hlt := hyok b hb (hbad.trans had)
    omega
  · rintro ⟨b, hb, hbad, hle, hyazildi, hsonraki, hesik⟩
    obtain ⟨id, r, hr, had, -, ⟨hok, hfin⟩, -⟩ := hdogru.duran b hb hyazildi hsonraki hesik
    rw [Bool.not_eq_true]
    exact gecikti_eq_false.mpr ⟨id, r, b.an, hr, had.trans hbad, hok, hfin, hle⟩

theorem catch_up_exact_nightly :
    let s := run (zamanlayiciAdimi id) (Zamanlayici.ilk 0)
      [.basla "nightly_batch" .yok 0, .saat 1000, .bitir 1 true "" .yok, .sakla]
    ⟨"k2_batch", 24⟩ ∈ telafiEdilecekler s.kayitlar s.simdi (planliIsler false) ∧
      ⟨"nightly_batch", 24⟩ ∉ telafiEdilecekler s.kayitlar s.simdi (planliIsler false) := by
  intro s
  have hkisa : StepsMeet (zamanlayiciAdimi id) KosularKisa (Zamanlayici.ilk 0)
      [.basla "nightly_batch" .yok 0, .saat 1000, .bitir 1 true "" .yok, .sakla] := by
    refine ⟨fun h => ?_, fun h => ?_, fun h => ?_, fun _ i k hk => ?_, trivial⟩
    · cases h
    · cases h
    · cases h
    · cases hk
  exact ⟨(catch_up_exact hkisa (by decide) rfl).1 (by decide), (catch_up_exact hkisa (by decide) rfl).2 (by decide)⟩

end Steps

end FinancialOs.Guarantees
