import FinancialOs.Routers.TokenUses

/-! A single-use token is used once as long as nobody finds it revoked at the second lookup. The
insert of the revocation is the only way to an answer then, and it succeeds for one request. -/
namespace FinancialOs.Guarantees
open Library Store Rules Routers
variable {ι : Type} {ayar : AuthAyarlari} {kullanim : ι → Kullanim} {jti : ℕ}

/-- A request that has answered with a success. -/
def Basarili (k : TokenKonumu) : Prop := ∃ govde, k = .bitti (.ok govde)

/-- `revoke_jti` is not about to find the token revoked. -/
def Zamaninda (jti : ℕ) (s : TokenOrtak ι) (k : TokenKonumu) : Prop :=
  match k with
  | .tekrarBakacak _ _ => s.db.tokenRevoked jti = false
  | _ => True

instance (jti : ℕ) (s : TokenOrtak ι) (k : TokenKonumu) : Decidable (Zamaninda jti s k) := by
  unfold Zamaninda
  split <;> infer_instance

/-- The request has its revocation behind it. -/
inductive Kazandi : TokenKonumu → Prop where
  | cevaplayacak (payload : Token) : Kazandi (.cevaplayacak payload)
  | bitti (govde : Govde) : Kazandi (.bitti (.ok govde))

/-- A request on its way: neither its insert nor its success is there yet. -/
def Yolda (k : TokenKonumu) : Prop :=
  match k with
  | .eklendi _ _ => False
  | .kaydedecek _ _ => False
  | .cevaplayacak _ => False
  | .bitti (.ok _) => False
  | _ => True

/-- What one step can do to the token. -/
inductive TokenHareketi (jti : ℕ) (i : ι) (s : TokenOrtak ι) :
    TokenKonumu → TokenOrtak ι → TokenKonumu → Prop where
  | ilerle {k k' : TokenKonumu} {db : KimlikDb} (hk : Yolda k) (hk' : Yolda k')
      (hr : db.tokenRevoked jti = s.db.tokenRevoked jti) : TokenHareketi jti i s k { s with db := db } k'
  | ekle {k : TokenKonumu} (payload : Token) (yaz : Option (Kullanici → Kullanici)) (hk : Yolda k)
      (hkilit : s.kilit = none) (hr : s.db.tokenRevoked jti = false) :
      TokenHareketi jti i s k { s with kilit := some i } (.eklendi payload yaz)
  | kaydet {k' : TokenKonumu} {db : KimlikDb} (payload : Token) (yaz : Option (Kullanici → Kullanici))
      (hr : db.tokenRevoked jti = true) (hk' : Kazandi k') :
      TokenHareketi jti i s (.eklendi payload yaz) ⟨db, none, some i⟩ k'
  | cevapla {k k' : TokenKonumu} {db : KimlikDb} (hk : Kazandi k) (hk' : Kazandi k' ∨ Yolda k')
      (hr : db.tokenRevoked jti = s.db.tokenRevoked jti) : TokenHareketi jti i s k { s with db := db } k'

section Steps
variable {i j : ι} {s s' : TokenOrtak ι} {k k' m : TokenKonumu}

theorem yolda_kontrolSonrasi (n : Kullanim) (payload : Token) (okunan : Option Kullanici) :
    Yolda (kontrolSonrasi ayar n payload okunan) := by
  unfold kontrolSonrasi
  split
  · trivial
  · split <;> trivial

theorem yolda_ilkOkuma (n : Kullanim) (db : KimlikDb) : Yolda (ilkOkuma n db jti) := by
  unfold ilkOkuma kullanilmadiysa
  split
  · trivial
  · split
    · trivial
    · split
      · trivial
      · split <;> trivial
      · split <;> trivial

theorem kazandi_kayitSonrasi (n : Kullanim) (payload : Token) : Kazandi (kayitSonrasi n payload) := by
  unfold kayitSonrasi
  split
  · exact .bitti _
  · exact .bitti _
  · exact .cevaplayacak payload

theorem tokenRevoked_revokeJti (db : KimlikDb) : (db.revokeJti jti).tokenRevoked jti = true := by
  unfold KimlikDb.revokeJti
  split
  · assumption
  · simp [KimlikDb.tokenRevoked]

theorem revoked_oauthKullanici {db db' : KimlikDb} {info : OAuthInfo} {davetli : Bool} {id : ℕ}
    (h : oauthKullanici ayar db info davetli = .ok (id, db')) : db'.revoked = db.revoked := by
  unfold oauthKullanici at h
  split at h
  · simp only [bind_eq_ok, pure_eq_ok, Prod.mk.injEq] at h
    obtain ⟨_, _, _, rfl⟩ := h
    split <;> rfl
  · simp only [bind_eq_ok, pure_eq_ok, Prod.mk.injEq] at h
    obtain ⟨_, _, _, rfl⟩ := h
    rfl

/-- Answering revokes nothing. -/
theorem revoked_sonCevap (n : Kullanim) (db : KimlikDb) (payload : Token) :
    (sonCevap ayar n db payload).1.revoked = db.revoked := by
  unfold sonCevap
  split
  · unfold callbackDevam
    split
    · rfl
    · split
      · rfl
      · next h => exact (revoked_oauthKullanici h :)
  · rfl

theorem kazandi_or_yolda (yanit : Except AuthHatasi Govde) : Kazandi (.bitti yanit) ∨ Yolda (.bitti yanit) := by
  cases yanit with
  | error e => exact .inr trivial
  | ok govde => exact .inl (.bitti govde)

theorem kullanimAdimi_hareket (h : Zamaninda jti s k) (hk : ∀ payload yaz, k ≠ .kaydedecek payload yaz) :
    TokenHareketi jti i s k (kullanimAdimi ayar kullanim jti i s k).1
      (kullanimAdimi ayar kullanim jti i s k).2 := by
  cases k with
  | basla => exact .ilerle trivial (yolda_ilkOkuma _ _) rfl
  | bakacak payload okunan =>
    dsimp only [kullanimAdimi]
    split
    · refine .ilerle trivial ?_ rfl
      split <;> trivial
    · exact .ilerle trivial (yolda_kontrolSonrasi _ _ _) rfl
  | dusurecek payload okunan => exact .ilerle trivial trivial rfl
  | yukleyecek payload => exact .ilerle trivial (yolda_kontrolSonrasi _ _ _) rfl
  | adresBakacak payload yaz =>
    refine .ilerle trivial ?_ rfl
    dsimp only [kullanimAdimi]
    split <;> trivial
  | tekrarBakacak payload yaz =>
    refine .ilerle trivial ?_ rfl
    dsimp only [kullanimAdimi]
    rw [if_neg (by rw [show s.db.tokenRevoked jti = false from h]; exact Bool.false_ne_true)]
    trivial
  | ekleyecek payload yaz =>
    dsimp only [kullanimAdimi]
    split
    · exact .ilerle trivial trivial rfl
    · next hkilit =>
      split
      · exact .ilerle trivial trivial rfl
      · next hr =>
        rw [not_or, Bool.not_eq_true] at hr
        exact .ekle payload yaz trivial hkilit hr.1
  | eklendi payload yaz => exact .kaydet payload yaz (tokenRevoked_revokeJti _) (kazandi_kayitSonrasi _ _)
  | kaydedecek payload yaz => exact absurd rfl (hk payload yaz)
  | cevaplayacak payload =>
    refine .cevapla (.cevaplayacak payload) (kazandi_or_yolda _) ?_
    simp only [KimlikDb.tokenRevoked, revoked_sonCevap]
  | bitti yanit =>
    cases yanit with
    | error e => exact .ilerle trivial trivial rfl
    | ok govde => exact .cevapla (.bitti govde) (.inl (.bitti govde)) rfl

/-- An uncommitted insert excludes a committed one. -/
structure TekAlan (jti : ℕ) (s : TokenOrtak ι) : Prop where
  kilitli : s.kilit ≠ none → s.db.tokenRevoked jti = false
  alinmis : s.alan ≠ none → s.db.tokenRevoked jti = true

/-- Only the request that holds the insert is behind it, and only the one that committed it wins. -/
structure Hakli (i : ι) (s : TokenOrtak ι) (k : TokenKonumu) : Prop where
  ekledi : (∃ payload yaz, k = .eklendi payload yaz) ↔ s.kilit = some i
  kazandi : Kazandi k → s.alan = some i
  kayit : ∀ payload yaz, k ≠ .kaydedecek payload yaz

theorem not_yolda_eklendi (h : Yolda k) : ¬ ∃ payload yaz, k = .eklendi payload yaz := by
  rintro ⟨payload, yaz, rfl⟩
  exact h

theorem not_kazandi_of_yolda (h : Yolda k) : ¬ Kazandi k := by
  rintro (payload | govde)
  · exact h
  · exact h

theorem not_kaydedecek_of_yolda (h : Yolda k) (payload : Token) (yaz : Option (Kullanici → Kullanici)) :
    k ≠ .kaydedecek payload yaz := by
  rintro rfl
  exact h

/-- A request on its way holds nothing. -/
theorem hakli_of_yolda (h : Yolda k) (hs : s.kilit ≠ some i) : Hakli i s k :=
  ⟨iff_of_false (not_yolda_eklendi h) hs, fun hw => absurd hw (not_kazandi_of_yolda h),
    not_kaydedecek_of_yolda h⟩

/-- A request that has won holds no insert any more. -/
theorem hakli_of_kazandi (h : Kazandi k) (hs : s.kilit ≠ some i) (ha : s.alan = some i) : Hakli i s k := by
  refine ⟨iff_of_false ?_ hs, fun _ => ha, ?_⟩
  · rintro ⟨payload, yaz, rfl⟩
    cases h
  · rintro payload yaz rfl
    cases h

theorem Hakli.bosta (h : Hakli i s k) (hk : ¬ ∃ payload yaz, k = .eklendi payload yaz) : s.kilit ≠ some i :=
  fun hs => hk (h.ekledi.mpr hs)

theorem kazandi_ekledi (h : Kazandi k) : ¬ ∃ payload yaz, k = .eklendi payload yaz := by
  rintro ⟨payload, yaz, rfl⟩
  cases h

theorem tekAlan_own (hs : TekAlan jti s) (hk : Hakli i s k) (h : TokenHareketi jti i s k s' k') :
    TekAlan jti s' ∧ Hakli i s' k' := by
  cases h with
  | ilerle hyol hyol' hr =>
    have hbos := hk.bosta (not_yolda_eklendi hyol)
    refine ⟨⟨fun hl => ?_, fun ha => ?_⟩, hakli_of_yolda hyol' hbos⟩
    · rw [hr]
      exact hs.kilitli hl
    · rw [hr]
      exact hs.alinmis ha
  | ekle payload yaz hyol hkilit hr =>
    refine ⟨⟨fun _ => hr, hs.alinmis⟩, iff_of_true ⟨payload, yaz, rfl⟩ rfl, fun hw => ?_, ?_⟩
    · cases hw
    · rintro _ _ h
      cases h
  | kaydet payload yaz hr hw =>
    exact ⟨⟨fun hl => absurd rfl hl, fun _ => hr⟩, hakli_of_kazandi hw (fun h => by cases h) rfl⟩
  | cevapla hw hson hr =>
    have hbos := hk.bosta (kazandi_ekledi hw)
    refine ⟨⟨fun hl => ?_, fun ha => ?_⟩, ?_⟩
    · rw [hr]
      exact hs.kilitli hl
    · rw [hr]
      exact hs.alinmis ha
    · rcases hson with hw' | hyol'
      · exact hakli_of_kazandi hw' hbos (hk.kazandi hw)
      · exact hakli_of_yolda hyol' hbos

/-- While an insert is uncommitted nobody has won, and nobody else holds one. -/
theorem hakli_other (hj : j ≠ i) (hs : TekAlan jti s) (hk : Hakli i s k) (hm : Hakli j s m)
    (h : TokenHareketi jti i s k s' k') : Hakli j s' m := by
  cases h with
  | ilerle => exact ⟨hm.ekledi, hm.kazandi, hm.kayit⟩
  | cevapla => exact ⟨hm.ekledi, hm.kazandi, hm.kayit⟩
  | ekle payload yaz hyol hkilit hr =>
    have hlock := hm.ekledi
    rw [hkilit] at hlock
    refine ⟨?_, hm.kazandi, hm.kayit⟩
    rw [hlock]
    exact iff_of_false (fun h => by cases h) fun h => hj (Option.some.inj h).symm
  | kaydet payload yaz hr hw =>
    have hkilit : s.kilit = some i := hk.ekledi.mp ⟨payload, yaz, rfl⟩
    have hbos : s.db.tokenRevoked jti = false := hs.kilitli (by rw [hkilit]; exact Option.some_ne_none i)
    have hlock := hm.ekledi
    rw [hkilit] at hlock
    refine ⟨?_, fun hwm => ?_, hm.kayit⟩
    · rw [hlock]
      exact iff_of_false (fun h => hj (Option.some.inj h).symm) fun h => by cases h
    · have halan := hs.alinmis (by rw [hm.kazandi hwm]; exact Option.some_ne_none j)
      rw [hbos] at halan
      cases halan

end Steps

theorem tokenBaslangic_tekAlan (db : KimlikDb) :
    (tokenBaslangic db : Pool ι (TokenOrtak ι) TokenKonumu).Holds (TekAlan jti) Hakli :=
  ⟨⟨fun h => absurd rfl h, fun h => absurd rfl h⟩, fun _ => hakli_of_yolda trivial fun h => by cases h⟩

theorem run_tekAlan [DecidableEq ι] (ayar : AuthAyarlari) (kullanim : ι → Kullanim) (jti : ℕ)
    (db : KimlikDb) (sira : List ι)
    (h : StepsMeet (Pool.step (kullanimAdimi ayar kullanim jti))
      (fun p i => Zamaninda jti p.shared (p.loc i)) (tokenBaslangic db) sira) :
    (run (Pool.step (kullanimAdimi ayar kullanim jti)) (tokenBaslangic db) sira).Holds (TekAlan jti) Hakli :=
  Pool.run_holds
    (fun _ _ _ hs hk hc => tekAlan_own hs hk (kullanimAdimi_hareket hc hk.kayit))
    (fun _ _ _ _ _ hj hs hk hc hm => hakli_other hj hs hk hm (kullanimAdimi_hareket hc hk.kayit))
    (tokenBaslangic_tekAlan db) h

/-- In every schedule in which no second lookup finds the token revoked, at most one of the requests
that present it succeeds. -/
theorem token_used_at_most_once [DecidableEq ι] (ayar : AuthAyarlari) (kullanim : ι → Kullanim) (jti : ℕ)
    (db : KimlikDb) (sira : List ι)
    (h : StepsMeet (Pool.step (kullanimAdimi ayar kullanim jti))
      (fun p i => Zamaninda jti p.shared (p.loc i)) (tokenBaslangic db) sira) (i j : ι) :
    let p := run (Pool.step (kullanimAdimi ayar kullanim jti)) (tokenBaslangic db) sira
    Basarili (p.loc i) → Basarili (p.loc j) → i = j := by
  rintro p ⟨gi, hi⟩ ⟨gj, hj⟩
  have hrun := run_tekAlan ayar kullanim jti db sira h
  have hai : p.shared.alan = some i := (hrun.loc i).kazandi (hi ▸ .bitti gi)
  have haj : p.shared.alan = some j := (hrun.loc j).kazandi (hj ▸ .bitti gj)
  exact Option.some.inj (hai.symm.trans haj)

def tekKullaniciDb : KimlikDb :=
  (KimlikDb.empty.kullaniciEkle
    ⟨some "a@b.c", "A", some "gizli", none, none, some 0, true, 0⟩).createToken 1 .refresh 2592000 0 0

def ikiYenileme (_ : ℕ) : Kullanim := ⟨.refresh, 5⟩

def sifreAyari : AuthAyarlari :=
  ⟨true, true, true, false, false, 1800, 2592000, fun _ => true, fun _ _ _ => [], id, fun a b => a == b⟩

/-- The second request looks the token up before the first one has revoked it, and is refused. -/
theorem token_used_at_most_once_ikiYenileme :
    let p := run (Pool.step (kullanimAdimi sifreAyari ikiYenileme 1)) (tokenBaslangic tekKullaniciDb)
      [0, 0, 1, 1, 0, 1, 0, 0, 1, 1, 0]
    Basarili (p.loc 0) → Basarili (p.loc 1) → 0 = 1 :=
  token_used_at_most_once sifreAyari ikiYenileme 1 tekKullaniciDb _ (by decide +kernel) 0 1

/-- Both requests look the token up before either revokes it; the slower one finds it revoked at its
second lookup and answers with tokens all the same. -/
theorem token_used_twice :
    ¬ ∀ (ayar : AuthAyarlari) (kullanim : ℕ → Kullanim) (jti : ℕ) (db : KimlikDb) (sira : List ℕ) (i j : ℕ),
      let p := run (Pool.step (kullanimAdimi ayar kullanim jti)) (tokenBaslangic db) sira
      Basarili (p.loc i) → Basarili (p.loc j) → i = j := by
  intro h
  have hiki := h sifreAyari ikiYenileme 1 tekKullaniciDb [0, 0, 1, 1, 0, 0, 0, 1, 1, 0, 1] 0 1
    ⟨.tokenOut 1 2 3, by rfl⟩ ⟨.tokenOut 1 4 5, by rfl⟩
  cases hiki

end FinancialOs.Guarantees
