import FinancialOs.Routers.BetaRegistration
import Mathlib.Data.List.DropRight

/-! A beta invitation opens one account as long as it is still unused when the account is written. One that is
bound to an address always does, since the address is unique; a bare code can be read by many before the first
of them is written. -/
namespace FinancialOs.Guarantees
open Library Store Rules Routers

section Addresses

/-- A letter is an upper-case one of the alphabet, or its own lower case. -/
private theorem toLower_cases (c : Char) : (∃ n : Fin 26, c = Char.ofNat (65 + n)) ∨ c.toLower = c := by
  by_cases h : c.val ≥ 'A'.val ∧ c.val ≤ 'Z'.val
  · left
    obtain ⟨h1, h2⟩ := h
    have h1' : 65 ≤ c.toNat := h1
    have h2' : c.toNat ≤ 90 := h2
    refine ⟨⟨c.toNat - 65, by omega⟩, ?_⟩
    rw [show 65 + (c.toNat - 65) = c.toNat by omega, Char.ofNat_toNat]
  · right
    exact dif_neg h

/-- The letters of a lowered letter are left alone, and none is a blank where the letter is not. -/
private def kucukKalir (c : Char) : Bool :=
  (kucukHarf c).all fun d => kucukHarf d == [d] && (!NumberText.isBlank d || NumberText.isBlank c)

private theorem kucukHarf_kucuk {c d : Char} (h : d ∈ kucukHarf c) :
    kucukHarf d = [d] ∧ (NumberText.isBlank d = true → NumberText.isBlank c = true) := by
  have hoku (hc : kucukKalir c = true) :
      kucukHarf d = [d] ∧ (NumberText.isBlank d = true → NumberText.isBlank c = true) := by
    have hd := List.all_eq_true.mp hc d h
    simp only [Bool.and_eq_true, beq_iff_eq, Bool.or_eq_true, Bool.not_eq_true'] at hd
    exact ⟨hd.1, fun hbos => hd.2.resolve_left (by rw [hbos]; nofun)⟩
  rcases toLower_cases c with ⟨n, rfl⟩ | hc
  · have hall : ∀ n : Fin 26, kucukKalir (Char.ofNat (65 + n)) = true := by decide +kernel
    exact hoku (hall n)
  · by_cases hozel : c ∈ ['Ç', 'Ğ', 'İ', 'Ö', 'Ş', 'Ü']
    · have hall : ['Ç', 'Ğ', 'İ', 'Ö', 'Ş', 'Ü'].all kucukKalir = true := by decide +kernel
      exact hoku (List.all_eq_true.mp hall c hozel)
    · have hkendi : kucukHarf c = [c] := by
        simp only [List.mem_cons, List.not_mem_nil, or_false, not_or] at hozel
        obtain ⟨h1, h2, h3, h4, h5, h6⟩ := hozel
        rw [kucukHarf, if_neg h1, if_neg h2, if_neg h3, if_neg h4, if_neg h5, if_neg h6, hc]
      rw [hkendi, List.mem_singleton] at h
      rw [h]
      exact ⟨hkendi, id⟩

private theorem strip_eq_self {l : List Char} (hilk : ∀ c ∈ l.head?, NumberText.isBlank c = false)
    (hson : ∀ c ∈ l.getLast?, NumberText.isBlank c = false) : NumberText.strip l = l := by
  have hdrop : ∀ m : List Char, (∀ c ∈ m.head?, NumberText.isBlank c = false) →
      m.dropWhile NumberText.isBlank = m := by
    intro m hm
    cases m with
    | nil => rfl
    | cons c m => rw [List.dropWhile_cons, hm c rfl, if_neg Bool.false_ne_true]
  rw [NumberText.strip, hdrop l hilk, hdrop l.reverse (by rwa [List.head?_reverse]), List.reverse_reverse]

private theorem strip_uclar (cs : List Char) :
    (∀ c ∈ (NumberText.strip cs).head?, NumberText.isBlank c = false) ∧
      ∀ c ∈ (NumberText.strip cs).getLast?, NumberText.isBlank c = false := by
  have hdrop : ∀ m : List Char, ∀ c ∈ (m.dropWhile NumberText.isBlank).head?, NumberText.isBlank c = false := by
    intro m c hc
    have := List.head?_dropWhile_not NumberText.isBlank m
    rw [Option.mem_def.mp hc] at this
    exact this
  constructor
  · intro c hc
    have honek : NumberText.strip cs <+: cs.dropWhile NumberText.isBlank :=
      List.rdropWhile_prefix NumberText.isBlank _
    obtain ⟨kalan, hkalan⟩ := honek
    refine hdrop cs c ?_
    rw [← hkalan, List.head?_append, Option.mem_def.mp hc]
    rfl
  · intro c hc
    rw [NumberText.strip, List.getLast?_reverse] at hc
    exact hdrop _ c hc

private theorem strip_flatMap (cs : List Char) :
    NumberText.strip ((NumberText.strip cs).flatMap kucukHarf) = (NumberText.strip cs).flatMap kucukHarf := by
  obtain ⟨hilk, hson⟩ := strip_uclar cs
  have hdolu : ∀ c, kucukHarf c ≠ [] := by
    intro c
    unfold kucukHarf
    repeat' split
    all_goals exact List.cons_ne_nil _ _
  have hduz : ∀ c d, NumberText.isBlank c = false → d ∈ kucukHarf c → NumberText.isBlank d = false := by
    intro c d hc hd
    by_contra hn
    rw [(kucukHarf_kucuk hd).2 (Bool.not_eq_false _ ▸ hn)] at hc
    cases hc
  refine strip_eq_self (fun d hd => ?_) fun d hd => ?_
  · cases hl : NumberText.strip cs with
    | nil =>
      rw [hl] at hd
      cases hd
    | cons c l =>
      rw [hl, List.flatMap_cons, List.head?_append_of_ne_nil _ (hdolu c)] at hd
      exact hduz c d (hilk c (by rw [hl]; rfl)) (List.mem_of_mem_head? hd)
  · rcases List.eq_nil_or_concat (NumberText.strip cs) with hl | ⟨l, c, hl⟩
    · rw [hl] at hd
      cases hd
    · rw [List.concat_eq_append] at hl
      rw [hl, List.flatMap_append, List.flatMap_singleton, List.getLast?_append_of_ne_nil _ (hdolu c)] at hd
      exact hduz c d (hson c (by rw [hl]; exact List.getLast?_concat)) (List.mem_of_getLast? hd)

/-- Normalising an address twice changes nothing. -/
theorem epostaDuz_epostaDuz (email : String) : epostaDuz (epostaDuz email) = epostaDuz email := by
  have hkucuk : ∀ l : List Char, (∀ d ∈ l, kucukHarf d = [d]) → l.flatMap kucukHarf = l := by
    intro l hl
    induction l with
    | nil => rfl
    | cons d l ih =>
      rw [List.flatMap_cons, hl d List.mem_cons_self, ih fun e he => hl e (List.mem_cons_of_mem _ he)]
      rfl
  have hsade : sade (String.ofList (sade email)) = sade email := by
    rw [sade, String.toList_ofList, sade, strip_flatMap]
    refine hkucuk _ fun d hd => ?_
    obtain ⟨c, _, hc⟩ := List.mem_flatMap.mp hd
    exact (kucukHarf_kucuk hc).1
  rw [epostaDuz, epostaDuz, hsade]

end Addresses

section Lookups
variable {davetler : Table BetaInvite} {email : String} {now : ℤ} {d : ℕ} {row : BetaInvite} {s : KimlikDb}

/-- An invitation that is for an address is for this one. -/
def AdresUyar (row : BetaInvite) (email : String) : Prop := ∀ e, row.email = some e → e = "" ∨ e = email

theorem davetDogrula_some {code : Option String} (h : davetDogrula davetler code email now = some (d, row)) :
    davetler.get? d = some row ∧ row.usedAt = none ∧ AdresUyar row (epostaDuz email) := by
  unfold davetDogrula at h
  dsimp only at h
  split at h
  · cases h
  · obtain ⟨hilk, hgecerli⟩ := Option.filter_eq_some_iff.mp h
    obtain ⟨hused, -, hemail⟩ := of_decide_eq_true hgecerli
    refine ⟨(Table.first?_spec hilk).1, hused, fun e he => ?_⟩
    rw [he, Option.all_some] at hemail
    exact of_decide_eq_true hemail

theorem epostaDavetiBul_some (h : epostaDavetiBul davetler email now = some (d, row)) :
    davetler.get? d = some row ∧ row.usedAt = none ∧ row.email = some (epostaDuz email) := by
  unfold epostaDavetiBul at h
  dsimp only at h
  split at h
  · cases h
  · obtain ⟨hget, hp⟩ := Table.first?_spec h
    obtain ⟨hemail, hused, -⟩ := of_decide_eq_true hp
    exact ⟨hget, hused, hemail⟩

/-- The address belongs to a user. -/
def EpostaDolu (s : KimlikDb) (email : String) : Prop := ∃ id u, s.kullanici id = some u ∧ u.email = some email

theorem epostaylaBul_isSome : (s.epostaylaBul email).isSome = true ↔ EpostaDolu s email := by
  have hilk : (s.epostaylaBul email).isSome = true ↔
      (s.users.first? fun row => row.any fun u => u.email = some email) ≠ none := by
    rw [KimlikDb.epostaylaBul, KimlikDb.ilkKullanici]
    cases hf : s.users.first? (fun row => row.any fun u => decide (u.email = some email)) with
    | none => simp
    | some r =>
      obtain ⟨id, user⟩ := r
      cases user with
      | none => cases (Table.first?_spec hf).2
      | some user => simp
  rw [hilk, Ne, Table.first?_eq_none]
  constructor
  · intro h
    simp only [not_forall, Bool.not_eq_false] at h
    obtain ⟨id, row, hrow, hp⟩ := h
    obtain ⟨u, rfl, hu⟩ := (Option.any_eq_true _ _).mp hp
    exact ⟨id, u, kullanici_some.mpr hrow, of_decide_eq_true hu⟩
  · rintro ⟨id, u, hu, he⟩ h
    have hp := h id (some u) (kullanici_some.mp hu)
    rw [Option.any_some, decide_eq_false_iff_not] at hp
    exact hp he

/-- An account that is opened takes no address away. -/
theorem EpostaDolu.ekle (h : EpostaDolu s email) (user : Kullanici) : EpostaDolu (s.kullaniciEkle user) email := by
  obtain ⟨id, u, hu, he⟩ := h
  have hne : id ≠ s.users.freshKey := by
    rintro rfl
    have := kullanici_some.mp hu
    rw [Table.get?_freshKey] at this
    cases this
  refine ⟨id, u, kullanici_some.mpr ?_, he⟩
  rw [KimlikDb.kullaniciEkle, Table.get?_push, if_neg hne]
  exact kullanici_some.mp hu

theorem epostaDolu_ekle_self {user : Kullanici} (h : user.email = some email) :
    EpostaDolu (s.kullaniciEkle user) email := by
  refine ⟨s.users.freshKey, user, kullanici_some.mpr ?_, h⟩
  rw [KimlikDb.kullaniciEkle, Table.get?_push, if_pos rfl]

theorem EpostaDolu.yaz (h : EpostaDolu s email) {id : ℕ} {f : Kullanici → Kullanici}
    (hf : ∀ u, (f u).email = u.email) : EpostaDolu (s.kullaniciYaz id f) email := by
  obtain ⟨j, u, hu, he⟩ := h
  by_cases hj : j = id
  · subst hj
    exact ⟨j, f u, kullanici_some.mpr (users_kullaniciYaz hu), (hf u).trans he⟩
  · refine ⟨j, u, ?_, he⟩
    rw [kullanici_yaz, if_neg hj]
    exact hu

end Lookups

variable {ι : Type} [DecidableEq ι] {ayar : AuthAyarlari} {istek : ι → KayitIstegi}
  {davetler₀ : Table BetaInvite}

abbrev KayitHavuzu (ι : Type) := Pool ι BetaDb KayitKonumu

/-- Registrations side by side over one database. -/
def kayitlarAdimi (ayar : AuthAyarlari) (istek : ι → KayitIstegi) : KayitHavuzu ι → ι → KayitHavuzu ι :=
  Pool.step fun i s k => kayitAdimi ayar (istek i) s k

def kayitBaslangici (s : BetaDb) : KayitHavuzu ι := ⟨s, fun _ => .basla⟩

/-- The registration has opened an account with the invitation. -/
def DavetleAcildi (k : KayitKonumu) (d : ℕ) : Prop := ∃ userId, k = .bitti (.acildi userId (some d))

/-- No invitation has opened two accounts. -/
def EnCokBirHesap (p : KayitHavuzu ι) : Prop :=
  ∀ d i j, DavetleAcildi (p.loc i) d → DavetleAcildi (p.loc j) d → i = j

/-- Where the registration is about to write an account under a free address, the invitation it has read is bound
to an address or still unused. -/
def DavetTaze (p : KayitHavuzu ι) (i : ι) : Prop :=
  ∀ d user row, p.loc i = .kaydedecek (some d) user → (p.shared.kimlik.epostaylaBul (user.email.getD "")).isSome = false →
    p.shared.davetler.get? d = some row → row.email.getD "" ≠ "" ∨ row.usedAt = none

/-- The invitation that a registration carries along. -/
def tasinanDavet : KayitKonumu → Option ℕ
  | .kullaniciBakacak davet => davet
  | .kaydedecek davet _ => davet
  | .bitti (.acildi _ davet) => davet
  | _ => none

/-- What every step keeps: invitations keep their addresses, whoever carries one found it unused and fit for the
address, and a mark stands for an account under an address of its own. -/
structure DavetUyumluluk (istek : ι → KayitIstegi) (davetler₀ : Table BetaInvite) (p : KayitHavuzu ι) : Prop where
  adres : ∀ d row, p.shared.davetler.get? d = some row → ∃ row₀, davetler₀.get? d = some row₀ ∧
    row₀.email = row.email ∧ (row.usedAt = none → row₀.usedAt = none)
  kalan : ∀ d row₀, davetler₀.get? d = some row₀ → ∃ row, p.shared.davetler.get? d = some row
  tasinan : ∀ i d, tasinanDavet (p.loc i) = some d →
    ∃ row, davetler₀.get? d = some row ∧ row.usedAt = none ∧ AdresUyar row (istek i).yol.email
  satir : ∀ i davet user, p.loc i = .kaydedecek davet user → user.email = some (istek i).yol.email
  isaret : ∀ d row row₀, p.shared.davetler.get? d = some row → row.usedAt ≠ none → davetler₀.get? d = some row₀ →
    row₀.usedAt = none → ∃ j, DavetleAcildi (p.loc j) d
  acilan : ∀ j d, DavetleAcildi (p.loc j) d → (∃ row, p.shared.davetler.get? d = some row ∧ row.usedAt ≠ none) ∧
    EpostaDolu p.shared.kimlik (istek j).yol.email

section Steps
variable {p : KayitHavuzu ι}

/-- A step that opens no account. -/
structure SessizAdim (istek : KayitIstegi) (s s' : BetaDb) (k k' : KayitKonumu) : Prop where
  davetler : s'.davetler = s.davetler
  dolu : ∀ e, EpostaDolu s.kimlik e → EpostaDolu s'.kimlik e
  acilan : ∀ d, DavetleAcildi k' d → k' = k
  tasinan : ∀ d, tasinanDavet k' = some d → tasinanDavet k = some d ∨
    ∃ row, s.davetler.get? d = some row ∧ row.usedAt = none ∧ AdresUyar row istek.yol.email
  satir : ∀ davet user, k' = .kaydedecek davet user → user.email = some istek.yol.email
  kayit : ∀ davet user, k = .kaydedecek davet user → (s.kimlik.epostaylaBul (user.email.getD "")).isSome = true

/-- A step that ends in an answer, or goes on without an invitation. -/
private theorem SessizAdim.yanit {i : KayitIstegi} {s : BetaDb} {k k' : KayitKonumu}
    (hk : ∀ davet user, k ≠ .kaydedecek davet user) (ht : tasinanDavet k' = none)
    (hk' : ∀ davet user, k' = .kaydedecek davet user → user.email = some i.yol.email) : SessizAdim i s s k k' where
  davetler := rfl
  dolu _ h := h
  acilan d h := by
    obtain ⟨u, rfl⟩ := h
    cases ht
  tasinan d h := by
    rw [ht] at h
    cases h
  satir := hk'
  kayit davet user h := absurd h (hk davet user)

/-- Every step is silent, but for the commit of an account under a free address. -/
theorem kayitAdimi_cases (ayar : AuthAyarlari) (istek : KayitIstegi) (s : BetaDb) (k : KayitKonumu) :
    SessizAdim istek s (kayitAdimi ayar istek s k).1 k (kayitAdimi ayar istek s k).2 ∨
    ∃ davet user, k = .kaydedecek davet user ∧ (s.kimlik.epostaylaBul (user.email.getD "")).isSome = false ∧
      kayitAdimi ayar istek s k = ({
        kimlik := s.kimlik.kullaniciEkle user
        davetler := davetiIsaretle s.davetler istek.now s.kimlik.users.freshKey davet }, .bitti (.acildi s.kimlik.users.freshKey davet)) := by
  have hred : ∀ (k k' : KayitKonumu), (∀ davet user, k ≠ .kaydedecek davet user) → tasinanDavet k' = none →
      (∀ davet user, k' ≠ .kaydedecek davet user) → SessizAdim istek s s k k' := fun k k' hk ht hk' =>
    .yanit hk ht fun davet user h => absurd h (hk' davet user)
  cases k with
  | basla =>
    left
    cases hyol : istek.yol with
    | sifreli body code =>
      simp only [kayitAdimi, hyol, davetSonrasi]
      split
      · exact hred _ _ (fun _ _ => KayitKonumu.noConfusion) rfl fun _ _ => KayitKonumu.noConfusion
      · split
        · split
          · next d hd =>
            obtain ⟨hget, hused, huyar⟩ := davetDogrula_some hd
            refine ⟨rfl, fun _ h => h, fun d h => ?_, fun e he => .inr ?_, fun _ _ => KayitKonumu.noConfusion,
              fun _ _ => KayitKonumu.noConfusion⟩
            · obtain ⟨u, hu⟩ := h
              cases hu
            · obtain rfl := Option.some.inj he
              rw [epostaDuz_epostaDuz] at huyar
              exact ⟨d.2, hget, hused, by rw [hyol]; exact huyar⟩
          · exact hred _ _ (fun _ _ => KayitKonumu.noConfusion) rfl fun _ _ => KayitKonumu.noConfusion
        · exact hred _ _ (fun _ _ => KayitKonumu.noConfusion) rfl fun _ _ => KayitKonumu.noConfusion
    | oauth info =>
      simp only [kayitAdimi, hyol, oauthAdresSonrasi]
      split
      · split
        · exact hred _ _ (fun _ _ => KayitKonumu.noConfusion) rfl fun _ _ => KayitKonumu.noConfusion
        · split <;> exact hred _ _ (fun _ _ => KayitKonumu.noConfusion) rfl fun _ _ => KayitKonumu.noConfusion
      · split
        · exact hred _ _ (fun _ _ => KayitKonumu.noConfusion) rfl fun _ _ => KayitKonumu.noConfusion
        · refine .yanit (fun _ _ => KayitKonumu.noConfusion) rfl fun davet user h => ?_
          obtain ⟨-, rfl⟩ := KayitKonumu.kaydedecek.inj h
          rw [hyol]
          rfl
  | kullaniciBakacak davet =>
    left
    cases hyol : istek.yol with
    | sifreli body code =>
      simp only [kayitAdimi, hyol, adresSonrasi]
      split
      · split <;> exact hred _ _ (fun _ _ => KayitKonumu.noConfusion) rfl fun _ _ => KayitKonumu.noConfusion
      · split
        · exact hred _ _ (fun _ _ => KayitKonumu.noConfusion) rfl fun _ _ => KayitKonumu.noConfusion
        · refine ⟨rfl, fun _ h => h, fun d h => ?_, fun d h => .inl h, fun davet user h => ?_,
            fun _ _ => KayitKonumu.noConfusion⟩
          · obtain ⟨u, hu⟩ := h
            cases hu
          · obtain ⟨-, rfl⟩ := KayitKonumu.kaydedecek.inj h
            rw [hyol]
            rfl
    | oauth info =>
      simp only [kayitAdimi, hyol]
      exact ⟨rfl, fun _ h => h, fun _ _ => rfl, fun d h => .inl h, fun _ _ => KayitKonumu.noConfusion,
        fun _ _ => KayitKonumu.noConfusion⟩
  | davetBakacak =>
    left
    cases hyol : istek.yol with
    | oauth info =>
      simp only [kayitAdimi, hyol, oauthDavetSonrasi]
      split
      · next d hd =>
        obtain ⟨hget, hused, hemail⟩ := epostaDavetiBul_some hd
        refine ⟨rfl, fun _ h => h, fun d h => ?_, fun e he => .inr ?_, fun davet user h => ?_,
          fun _ _ => KayitKonumu.noConfusion⟩
        · obtain ⟨u, hu⟩ := h
          cases hu
        · obtain rfl := Option.some.inj he
          refine ⟨d.2, hget, hused, fun e he => .inr ?_⟩
          rw [hemail, epostaDuz_epostaDuz] at he
          rw [hyol]
          exact (Option.some.inj he).symm
        · obtain ⟨-, rfl⟩ := KayitKonumu.kaydedecek.inj h
          rw [hyol]
          rfl
      · exact hred _ _ (fun _ _ => KayitKonumu.noConfusion) rfl fun _ _ => KayitKonumu.noConfusion
    | sifreli body code =>
      simp only [kayitAdimi, hyol]
      exact hred _ _ (fun _ _ => KayitKonumu.noConfusion) rfl fun _ _ => KayitKonumu.noConfusion
  | baglayacak userId =>
    left
    cases hyol : istek.yol with
    | oauth info =>
      simp only [kayitAdimi, hyol]
      refine ⟨rfl, fun e h => h.yaz fun _ => rfl, fun d h => ?_, fun d h => ?_, fun _ _ => KayitKonumu.noConfusion,
        fun _ _ => KayitKonumu.noConfusion⟩
      · obtain ⟨u, hu⟩ := h
        cases hu
      · cases h
    | sifreli body code =>
      simp only [kayitAdimi, hyol]
      exact hred _ _ (fun _ _ => KayitKonumu.noConfusion) rfl fun _ _ => KayitKonumu.noConfusion
  | kaydedecek davet user =>
    by_cases hdolu : (s.kimlik.epostaylaBul (user.email.getD "")).isSome = true
    · left
      rw [kayitAdimi, kaydet, if_pos hdolu]
      refine ⟨rfl, fun _ h => h, fun d h => ?_, fun d h => ?_, fun _ _ => KayitKonumu.noConfusion, fun _ _ h => ?_⟩
      · obtain ⟨u, hu⟩ := h
        cases hu
      · cases h
      · obtain ⟨-, rfl⟩ := KayitKonumu.kaydedecek.inj h
        exact hdolu
    · right
      refine ⟨davet, user, rfl, Bool.eq_false_of_not_eq_true hdolu, ?_⟩
      rw [kayitAdimi, kaydet, if_neg hdolu]
  | bitti sonuc =>
    left
    exact ⟨rfl, fun _ h => h, fun _ _ => rfl, fun d h => .inl h, fun _ _ => KayitKonumu.noConfusion,
      fun _ _ => KayitKonumu.noConfusion⟩

omit [DecidableEq ι] in
theorem davetUyumluluk_baslangic (s : BetaDb) : DavetUyumluluk istek s.davetler (kayitBaslangici s) where
  adres _ row h := ⟨row, h, rfl, id⟩
  kalan _ row h := ⟨row, h⟩
  tasinan _ _ h := by cases h
  satir _ _ _ h := by cases h
  isaret d row row₀ hrow hused hrow₀ hused₀ := absurd (Option.some.inj (hrow.symm.trans hrow₀) ▸ hused₀) hused
  acilan _ _ h := by
    obtain ⟨u, hu⟩ := h
    cases hu

private theorem davetUyumluluk_sessiz (h : DavetUyumluluk istek davetler₀ p) {i : ι}
    (hs : SessizAdim (istek i) p.shared (kayitAdimi ayar (istek i) p.shared (p.loc i)).1 (p.loc i)
      (kayitAdimi ayar (istek i) p.shared (p.loc i)).2) :
    DavetUyumluluk istek davetler₀ (kayitlarAdimi ayar istek p i) := by
  have hgeri : ∀ j d, DavetleAcildi ((kayitlarAdimi ayar istek p i).loc j) d → DavetleAcildi (p.loc j) d := by
    intro j d hj
    by_cases hji : j = i
    · subst hji
      rw [kayitlarAdimi, Pool.step_loc_self] at hj
      rwa [hs.acilan d hj] at hj
    · rwa [kayitlarAdimi, Pool.step_loc_of_ne p hji] at hj
  refine ⟨fun d row hrow => ?_, fun d row₀ hrow₀ => ?_, fun j d hj => ?_, fun j davet user hj => ?_,
    fun d row row₀ hrow hu hrow₀ hu₀ => ?_, fun j d hj => ?_⟩
  · rw [kayitlarAdimi, Pool.step_shared, hs.davetler] at hrow
    exact h.adres d row hrow
  · rw [kayitlarAdimi, Pool.step_shared, hs.davetler]
    exact h.kalan d row₀ hrow₀
  · by_cases hji : j = i
    · subst hji
      rw [kayitlarAdimi, Pool.step_loc_self] at hj
      rcases hs.tasinan d hj with hesk | ⟨row, hrow, hused, huyar⟩
      · exact h.tasinan j d hesk
      · obtain ⟨row₀, hrow₀, hemail, hbos⟩ := h.adres d row hrow
        refine ⟨row₀, hrow₀, hbos hused, fun e he => huyar e (hemail ▸ he)⟩
    · rw [kayitlarAdimi, Pool.step_loc_of_ne p hji] at hj
      exact h.tasinan j d hj
  · by_cases hji : j = i
    · subst hji
      rw [kayitlarAdimi, Pool.step_loc_self] at hj
      exact hs.satir davet user hj
    · rw [kayitlarAdimi, Pool.step_loc_of_ne p hji] at hj
      exact h.satir j davet user hj
  · rw [kayitlarAdimi, Pool.step_shared, hs.davetler] at hrow
    obtain ⟨j, userId, hj⟩ := h.isaret d row row₀ hrow hu hrow₀ hu₀
    refine ⟨j, userId, ?_⟩
    by_cases hji : j = i
    · subst hji
      rw [kayitlarAdimi, Pool.step_loc_self, hj]
      rfl
    · rw [kayitlarAdimi, Pool.step_loc_of_ne p hji, hj]
  · obtain ⟨⟨row, hrow, hused⟩, hdolu⟩ := h.acilan j d (hgeri j d hj)
    rw [kayitlarAdimi, Pool.step_shared, hs.davetler]
    exact ⟨⟨row, hrow, hused⟩, hs.dolu _ hdolu⟩

private theorem get?_davetiIsaretle {now : ℤ} {userId : ℕ} {davetler : Table BetaInvite} {davet : Option ℕ} {d : ℕ} :
    (davetiIsaretle davetler now userId davet).get? d =
      if davet = some d then (davetler.get? d).map (davetKullan now userId) else davetler.get? d := by
  cases davet with
  | none =>
    rw [if_neg nofun]
    rfl
  | some e =>
    rw [davetiIsaretle, Table.get?_modify]
    by_cases hde : d = e
    · rw [if_pos hde, if_pos (congrArg some hde.symm)]
    · rw [if_neg hde, if_neg fun h => hde (Option.some.inj h).symm]

private theorem davetUyumluluk_kayit (h : DavetUyumluluk istek davetler₀ p) {i : ι} {davet : Option ℕ}
    {user : Kullanici} (hk : p.loc i = .kaydedecek davet user)
    (hadim : kayitAdimi ayar (istek i) p.shared (p.loc i) = ({
        kimlik := p.shared.kimlik.kullaniciEkle user
        davetler := davetiIsaretle p.shared.davetler (istek i).now p.shared.kimlik.users.freshKey davet }, .bitti (.acildi p.shared.kimlik.users.freshKey davet))) :
    DavetUyumluluk istek davetler₀ (kayitlarAdimi ayar istek p i) := by
  have hkendi : (kayitlarAdimi ayar istek p i).loc i = .bitti (.acildi p.shared.kimlik.users.freshKey davet) := by
    rw [kayitlarAdimi, Pool.step_loc_self, hadim]
  have hbaska : ∀ j, j ≠ i → (kayitlarAdimi ayar istek p i).loc j = p.loc j := fun j hj =>
    Pool.step_loc_of_ne p hj
  have hget : ∀ d, (kayitlarAdimi ayar istek p i).shared.davetler.get? d =
      if davet = some d then (p.shared.davetler.get? d).map (davetKullan (istek i).now p.shared.kimlik.users.freshKey)
      else p.shared.davetler.get? d := by
    intro d
    rw [kayitlarAdimi, Pool.step_shared, hadim]
    exact get?_davetiIsaretle
  have hisaretli : ∀ d row, p.shared.davetler.get? d = some row → davet = some d ∨ row.usedAt ≠ none →
      ∃ yeni, (kayitlarAdimi ayar istek p i).shared.davetler.get? d = some yeni ∧ yeni.usedAt ≠ none := by
    intro d row hrow hd
    rw [hget]
    by_cases hde : davet = some d
    · rw [if_pos hde, hrow]
      exact ⟨_, rfl, Option.some_ne_none _⟩
    · rw [if_neg hde]
      exact ⟨row, hrow, hd.resolve_left hde⟩
  refine ⟨fun d row hrow => ?_, fun d row₀ hrow₀ => ?_, fun j d hj => ?_, fun j davet' user' hj => ?_,
    fun d row row₀ hrow hu hrow₀ hu₀ => ?_, fun j d hj => ?_⟩
  · rw [hget] at hrow
    by_cases hd : davet = some d
    · rw [if_pos hd] at hrow
      obtain ⟨eski, heski, rfl⟩ := Option.map_eq_some_iff.mp hrow
      obtain ⟨row₀, hrow₀, hemail, -⟩ := h.adres d eski heski
      exact ⟨row₀, hrow₀, hemail, fun hn => by cases hn⟩
    · rw [if_neg hd] at hrow
      exact h.adres d row hrow
  · obtain ⟨row, hrow⟩ := h.kalan d row₀ hrow₀
    rw [hget]
    by_cases hd : davet = some d
    · exact ⟨_, (if_pos hd).trans (congrArg _ hrow)⟩
    · exact ⟨row, (if_neg hd).trans hrow⟩
  · by_cases hji : j = i
    · subst hji
      rw [hkendi] at hj
      exact h.tasinan j d (by rw [hk]; exact hj)
    · rw [hbaska j hji] at hj
      exact h.tasinan j d hj
  · by_cases hji : j = i
    · subst hji
      rw [hkendi] at hj
      cases hj
    · rw [hbaska j hji] at hj
      exact h.satir j davet' user' hj
  · rw [hget] at hrow
    by_cases hd : davet = some d
    · exact ⟨i, _, hd ▸ hkendi⟩
    · rw [if_neg hd] at hrow
      obtain ⟨j, userId, hj⟩ := h.isaret d row row₀ hrow hu hrow₀ hu₀
      have hji : j ≠ i := by
        rintro rfl
        rw [hk] at hj
        cases hj
      exact ⟨j, userId, (hbaska j hji).trans hj⟩
  · obtain ⟨userId, hj⟩ := hj
    have hdolu (e : String) (he : EpostaDolu p.shared.kimlik e ∨ user.email = some e) :
        EpostaDolu (kayitlarAdimi ayar istek p i).shared.kimlik e := by
      rw [kayitlarAdimi, Pool.step_shared, hadim]
      exact he.elim (fun he => he.ekle user) epostaDolu_ekle_self
    by_cases hji : j = i
    · subst hji
      rw [hkendi] at hj
      obtain ⟨-, rfl⟩ := KayitSonucu.acildi.inj (KayitKonumu.bitti.inj hj)
      obtain ⟨row₀, hrow₀, -, -⟩ := h.tasinan j d (by rw [hk]; rfl)
      obtain ⟨row, hrow⟩ := h.kalan d row₀ hrow₀
      exact ⟨hisaretli d row hrow (.inl rfl), hdolu _ (.inr (h.satir j _ user hk))⟩
    · rw [hbaska j hji] at hj
      obtain ⟨⟨row, hrow, hused⟩, he⟩ := h.acilan j d ⟨userId, hj⟩
      exact ⟨hisaretli d row hrow (.inr hused), hdolu _ (.inl he)⟩

theorem davetUyumluluk_adim (h : DavetUyumluluk istek davetler₀ p) (i : ι) :
    DavetUyumluluk istek davetler₀ (kayitlarAdimi ayar istek p i) := by
  rcases kayitAdimi_cases ayar (istek i) p.shared (p.loc i) with hs | ⟨davet, user, hk, -, hadim⟩
  · exact davetUyumluluk_sessiz h hs
  · exact davetUyumluluk_kayit h hk hadim

/-- One more account keeps the law exactly when its invitation is still good for it. -/
theorem enCokBirHesap_adim (h : DavetUyumluluk istek davetler₀ p) (hbir : EnCokBirHesap p) (i : ι) :
    EnCokBirHesap (kayitlarAdimi ayar istek p i) ↔ DavetTaze p i := by
  have hbaska : ∀ j, j ≠ i → (kayitlarAdimi ayar istek p i).loc j = p.loc j := fun j hj =>
    Pool.step_loc_of_ne p hj
  rcases kayitAdimi_cases ayar (istek i) p.shared (p.loc i) with hs | ⟨davet, user, hk, hbos, hadim⟩
  · have hgeri : ∀ j d, DavetleAcildi ((kayitlarAdimi ayar istek p i).loc j) d → DavetleAcildi (p.loc j) d := by
      intro j d hj
      by_cases hji : j = i
      · subst hji
        rw [kayitlarAdimi, Pool.step_loc_self] at hj
        rwa [hs.acilan d hj] at hj
      · rwa [hbaska j hji] at hj
    refine iff_of_true (fun d a b ha hb => hbir d a b (hgeri a d ha) (hgeri b d hb)) fun d user row hk hbos => ?_
    rw [hs.kayit _ _ hk] at hbos
    cases hbos
  · have hkendi : (kayitlarAdimi ayar istek p i).loc i = .bitti (.acildi p.shared.kimlik.users.freshKey davet) := by
      rw [kayitlarAdimi, Pool.step_loc_self, hadim]
    constructor
    · intro hlaw d user' row hk' _ hrow
      obtain ⟨rfl, -⟩ := KayitKonumu.kaydedecek.inj (hk.symm.trans hk')
      by_contra hn
      obtain ⟨row₀, hrow₀, hused₀, -⟩ := h.tasinan i d (by rw [hk]; rfl)
      obtain ⟨j, userId, hj⟩ := h.isaret d row row₀ hrow (not_or.mp hn).2 hrow₀ hused₀
      have hji : j ≠ i := by
        rintro rfl
        rw [hk] at hj
        cases hj
      exact hji (hlaw d j i ⟨userId, (hbaska j hji).trans hj⟩ ⟨_, hkendi⟩)
    · intro htaze
      -- another account with the same invitation would have taken the address that was found free
      have htek : ∀ d, davet = some d → ∀ j, j ≠ i → ¬ DavetleAcildi (p.loc j) d := by
        rintro d rfl j hji hj
        obtain ⟨⟨row, hrow, hused⟩, hdolu⟩ := h.acilan j d hj
        have hadres : row.email.getD "" ≠ "" := (htaze d user row hk hbos hrow).resolve_right hused
        obtain ⟨e, he⟩ : ∃ e, row.email = some e := by
          cases he : row.email with
          | none =>
            rw [he] at hadres
            exact absurd rfl hadres
          | some e => exact ⟨e, rfl⟩
        have hdolu_e : e ≠ "" := by
          rwa [he] at hadres
        obtain ⟨row₀, hrow₀, hemail, -⟩ := h.adres d row hrow
        have huyar : ∀ k, tasinanDavet (p.loc k) = some d → e = (istek k).yol.email := by
          intro k hk
          obtain ⟨row₁, hrow₁, -, huyar⟩ := h.tasinan k d hk
          obtain rfl := Option.some.inj (hrow₁.symm.trans hrow₀)
          exact (huyar e (hemail.trans he)).resolve_left hdolu_e
        obtain ⟨userId, hj⟩ := hj
        have hayni : (istek j).yol.email = (istek i).yol.email :=
          (huyar j (by rw [hj]; rfl)).symm.trans (huyar i (by rw [hk]; rfl))
        rw [h.satir i _ user hk, Option.getD_some, ← hayni, epostaylaBul_isSome.mpr hdolu] at hbos
        cases hbos
      have hsahip : ∀ j d, DavetleAcildi ((kayitlarAdimi ayar istek p i).loc j) d →
          (j = i ∧ davet = some d) ∨ (j ≠ i ∧ DavetleAcildi (p.loc j) d) := by
        rintro j d ⟨userId, hj⟩
        by_cases hji : j = i
        · subst hji
          rw [hkendi] at hj
          exact .inl ⟨rfl, (KayitSonucu.acildi.inj (KayitKonumu.bitti.inj hj)).2⟩
        · rw [hbaska j hji] at hj
          exact .inr ⟨hji, userId, hj⟩
      intro d a b ha hb
      rcases hsahip a d ha with ⟨rfl, had⟩ | ⟨hai, ha'⟩
      · rcases hsahip b d hb with ⟨rfl, -⟩ | ⟨hbi, hb'⟩
        · rfl
        · exact absurd hb' (htek d had b hbi)
      · rcases hsahip b d hb with ⟨rfl, hbd⟩ | ⟨-, hb'⟩
        · exact absurd ha' (htek d hbd a hai)
        · exact hbir d a b ha' hb'

end Steps

/-- In every state of an interleaving each invitation has opened at most one account exactly when every account
that is written under a free address finds its invitation bound to an address or still unused. -/
theorem beta_invitations (ayar : AuthAyarlari) (istek : ι → KayitIstegi) (s : BetaDb) (sira : List ι) :
    (∀ n, EnCokBirHesap (run (kayitlarAdimi ayar istek) (kayitBaslangici s) (sira.take n))) ↔
      StepsMeet (kayitlarAdimi ayar istek) DavetTaze (kayitBaslangici s) sira := by
  refine prefixes_iff_stepsMeet (fun p i (h : DavetUyumluluk istek s.davetler p) => davetUyumluluk_adim h i)
    (fun p i h hbir => enCokBirHesap_adim h hbir i) (davetUyumluluk_baslangic s) ?_ sira
  rintro d i j ⟨userId, hi⟩
  cases hi

def davetliAyar : AuthAyarlari :=
  ⟨true, true, true, true, false, 1800, 2592000, fun _ => true, fun _ _ _ => [], id, fun a b => a == b⟩

/-- One bare code and nobody registered. -/
def tekKod : BetaDb := ⟨.empty, Table.empty.push ⟨"KOD", none, none, none, none⟩⟩

def ikiKayit (i : Fin 2) : KayitIstegi where
  yol := .sifreli ⟨if i = 0 then "a@b.c" else "d@e.f", "gizli parola", none, true⟩ (some "KOD")
  now := 0

/-- Both look the code up before either account is written, and both accounts are. -/
theorem one_code_opens_two_accounts :
    ¬ ∀ n, EnCokBirHesap
      (run (kayitlarAdimi davetliAyar ikiKayit) (kayitBaslangici tekKod) (([0, 1, 0, 1, 0, 1] : List (Fin 2)).take n)) := by
  intro h
  have hiki := h 6 1 0 1 ⟨1, by decide +kernel⟩ ⟨2, by decide +kernel⟩
  cases hiki

end FinancialOs.Guarantees
