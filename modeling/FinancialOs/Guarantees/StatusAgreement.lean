import FinancialOs.Guarantees.AtMostOnce
import Mathlib.Data.Fintype.Basic

/-! The status of an action against what it did, when all its requests have returned. A
rejection writes over whatever it finds, and a failure behind the handler's commit is written
as one that changed nothing. -/
namespace FinancialOs.Guarantees
open Library Store Rules Executor
variable {ι : Type} {actionId : ℕ} {db₀ : Db}

/-- The status, the effects and the answers agree. -/
structure Uyumlu (db₀ : Db) (actionId : ℕ) (p : Pool ι (Ortak ι) Konum) : Prop where
  ret : durumu p.shared.db actionId = some .rejected → Defter.oku p.shared.db = Defter.oku db₀
  etki : p.shared.etkiler ≠ [] → durumu p.shared.db actionId = some .executed
  cevap : ∀ i n, (p.loc i).yanit? = some (.reddedildi n) →
    p.shared.etkiler = [] ∧ durumu p.shared.db actionId ≠ some .executed

/-- Every request has returned. -/
def Bitmis (p : Pool ι (Ortak ι) Konum) : Prop := ∀ i, (p.loc i).yanit?.isSome = true

instance [Fintype ι] (p : Pool ι (Ortak ι) Konum) : Decidable (Bitmis p) :=
  inferInstanceAs (Decidable (∀ i, (p.loc i).yanit?.isSome = true))

/-- What a request knows about the row from where it stands. -/
structure Bilir (actionId : ℕ) (i : ι) (s : Ortak ι) (k : Konum) : Prop where
  islemis : ∀ ws, (i, ws) ∈ s.etkiler →
    durumu s.db actionId = some .executed ∨ k.yazacakMi = true
  yazan : k.yazacakMi = true → s.etkiler ≠ []
  basarisiz : k.basarisizMi = true → s.etkiler = []
  karar : k.yazacakMi = true ∨ k.basarisizMi = true →
    s.sahip = none ∧ durumu s.db actionId ≠ some .pending
  ret : ∀ n, k.yanit? = some (.reddedildi n) → s.sahip = none ∧ s.etkiler = [] ∧
    durumu s.db actionId ≠ some .pending ∧ durumu s.db actionId ≠ some .executed
  satir : k.once = true ∨ k.yazacakMi = true → (durumu s.db actionId).isSome = true

/-- A place that says nothing about effects or a rejection. -/
structure Notr (k : Konum) : Prop where
  yazan : k.yazacakMi = false
  basarisiz : k.basarisizMi = false
  ret : ∀ n, k.yanit? ≠ some (.reddedildi n)

private theorem etkisiz_notr {k : Konum} (h : k.etkisiz = true) : Notr k := by
  cases k with
  | sahiplenecek => exact ⟨rfl, rfl, fun _ => (nomatch ·)⟩
  | reddedecek => exact ⟨rfl, rfl, fun _ => (nomatch ·)⟩
  | bitti yanit =>
    cases yanit with
    | bulunamadi error => exact ⟨rfl, rfl, fun _ => (nomatch ·)⟩
    | zaten error => exact ⟨rfl, rfl, fun _ => (nomatch ·)⟩
    | _ => cases h
  | _ => cases h

private theorem tasiyan_notr {k : Konum} (h : k.tasiyan = true) : Notr k := by
  cases k with
  | yukleyecek => exact ⟨rfl, rfl, fun _ => (nomatch ·)⟩
  | denetleyecek pending => exact ⟨rfl, rfl, fun _ => (nomatch ·)⟩
  | calistiracak pending handler payload => exact ⟨rfl, rfl, fun _ => (nomatch ·)⟩
  | _ => cases h

private theorem bilir_notr {i : ι} {s : Ortak ι} {k : Konum} (hk : Notr k)
    (hislem : ∀ ws, (i, ws) ∈ s.etkiler → durumu s.db actionId = some .executed)
    (hsatir : k.once = true → (durumu s.db actionId).isSome = true) : Bilir actionId i s k where
  islemis ws h := .inl (hislem ws h)
  yazan h := by simp [hk.yazan] at h
  basarisiz h := by simp [hk.basarisiz] at h
  karar h := by simp [hk.yazan, hk.basarisiz] at h
  ret n h := absurd h (hk.ret n)
  satir h := by
    rw [hk.yazan] at h
    exact h.elim hsatir (nomatch ·)

private theorem durumu_ne_pending {i : ι} {s : Ortak ι} (hs : TekSahip db₀ actionId s)
    (hsahip : s.sahip = some i) (hkilit : s.kilit = none) : durumu s.db actionId ≠ some .pending := by
  intro hd
  rw [(hs.acik hkilit hd).1] at hsahip
  cases hsahip

private theorem bilir_own {talep : ι → Talep} {i : ι} {s s' : Ortak ι} {k k' : Konum}
    (hs : TekSahip db₀ actionId s) (hk : Yerli i s k) (hb : Bilir actionId i s k)
    (hd : Duzgun talep i s k) (h : Hareket talep actionId i s k s' k') : Bilir actionId i s' k' := by
  cases h with
  | bekle => exact hb
  | oku _ _ hbas he =>
    have hyaz : k.yazacakMi = false := by rcases hbas with rfl | rfl <;> rfl
    refine bilir_notr (etkisiz_notr he) (fun ws hw => ?_) fun ho => ?_
    · exact (hb.islemis ws hw).resolve_right (by simp [hyaz])
    · rw [(Konum.etkisiz_bosta he).once] at ho
      cases ho
  | sahiplen hkilit hdurum =>
    have hetki := (hs.acik hkilit hdurum).2
    refine bilir_notr ⟨rfl, rfl, by simp [Konum.yanit?]⟩ (fun ws hw => ?_) fun _ => ?_
    · simp [hetki] at hw
    · simp [hdurum]
  | onayla =>
    have hetki := hs.bekleyen i (hk.once.mp rfl)
    refine bilir_notr ⟨rfl, rfl, by simp [Konum.yanit?]⟩ (fun ws hw => ?_) fun _ => ?_
    · simp [hetki] at hw
    · simpa using hb.satir (.inl rfl)
  | ilerle _ _ ht ht' _ =>
    have hetki := hs.bekleyen i (kilit_of_tasiyan hs hk ht).1
    refine bilir_notr (tasiyan_notr ht') (fun ws hw => ?_) fun _ => ?_
    · simp [hetki] at hw
    · exact hb.satir (.inl (Konum.tasiyan_once ht).1)
  | vazgec _ _ ht hv =>
    obtain ⟨hsahip, hkilit⟩ := kilit_of_tasiyan hs hk ht
    have hetki := hs.bekleyen i hsahip
    have hdurum := durumu_ne_pending hs hsahip hkilit
    have hyaz : k'.yazacakMi = false := by
      cases k' with
      | basarisizYazacak mesaj yanit => rfl
      | bitti yanit => rfl
      | _ => cases hv
    refine ⟨fun ws hw => ?_, fun h => ?_, fun _ => hetki, fun _ => ⟨rfl, hdurum⟩,
      fun n hn => ?_, fun h => ?_⟩
    · simp [hetki] at hw
    · simp [hyaz] at h
    · cases k' with
      | bitti yanit =>
        cases yanit with
        | firlatti e => cases hn
        | _ => cases hv
      | _ => cases hn
    · simp [hyaz, (Konum.vazgecen_bosta hv).once] at h
  | isledi _ _ ws ht hws hv =>
    obtain ⟨hsahip, hkilit⟩ := kilit_of_tasiyan hs hk ht
    have hyaz : k'.yazacakMi = true := hv.resolve_right fun h => h.2 hd
    have hsatir := hb.satir (.inl (Konum.tasiyan_once ht).1)
    refine ⟨fun _ _ => .inr hyaz, fun _ => by simp, fun h => ?_, fun _ => ⟨rfl, ?_⟩, fun n hn => ?_,
      fun _ => ?_⟩
    · cases k' with
      | yazacak pending payload cevap => cases h
      | _ => cases hyaz
    · rw [durumu_writeAll hws]
      exact durumu_ne_pending hs hsahip hkilit
    · cases k' with
      | yazacak pending payload cevap => cases hn
      | _ => cases hyaz
    · rw [durumu_writeAll hws]
      exact hsatir
  | yaz _ _ db hy _ hdurum hv =>
    obtain ⟨cevap, rfl⟩ := hv.resolve_right fun h => h.2 hd
    obtain ⟨d, hdur⟩ := Option.isSome_iff_exists.mp (hb.satir (.inr hy))
    refine bilir_notr ⟨rfl, rfl, by simp [Konum.yanit?]⟩ (fun ws _ => ?_) fun h => (by cases h)
    rw [hdurum, hdur, Option.map_some]
  | yazamadi _ _ _ _ hnot => exact absurd hd hnot
  | basarisiz mesaj yanit _ =>
    have hetki := hb.basarisiz rfl
    refine ⟨fun ws hw => ?_, fun h => (by cases h), fun h => (by cases h), fun h => ?_, fun n _ => ?_,
      fun h => ?_⟩
    · simp [hetki] at hw
    · simp [Konum.yazacakMi, Konum.basarisizMi] at h
    · refine ⟨(hb.karar (.inr rfl)).1, hetki, ?_, ?_⟩ <;> cases hdur : durumu s.db actionId <;> simp [hdur]
    · simp [Konum.yazacakMi, Konum.once] at h
  | reddet reason _ hred =>
    obtain ⟨hsahip, hetki⟩ := hred hd
    refine ⟨fun ws hw => ?_, fun h => (by cases h), fun h => (by cases h), fun h => ?_, fun n _ => ?_,
      fun h => ?_⟩
    · simp [hetki] at hw
    · simp [Konum.yazacakMi, Konum.basarisizMi] at h
    · refine ⟨hsahip, hetki, ?_, ?_⟩ <;> cases hdur : durumu s.db actionId <;> simp [hdur]
    · simp [Konum.yazacakMi, Konum.once] at h

/-- No step of another request makes what a request knows wrong. -/
private theorem bilir_other {talep : ι → Talep} {i j : ι} {s s' : Ortak ι} {k k' m : Konum} (hj : j ≠ i)
    (hs : TekSahip db₀ actionId s) (hk : Yerli i s k) (hb : Bilir actionId i s k)
    (hm : Bilir actionId j s m) (hd : Duzgun talep i s k) (h : Hareket talep actionId i s k s' k') :
    Bilir actionId j s' m := by
  have hsatir : m.once = true ∨ m.yazacakMi = true → (durumu s'.db actionId).isSome = true := by
    rw [h.satir]
    exact hm.satir
  cases h with
  | sahiplen hkilit hdurum =>
    refine ⟨hm.islemis, hm.yazan, hm.basarisiz, fun h => absurd hdurum (hm.karar h).2, fun n hn => ?_,
      hsatir⟩
    exact absurd hdurum (hm.ret n hn).2.2.1
  | onayla =>
    have hsahip := hk.once.mp rfl
    have hetki := hs.bekleyen i hsahip
    have hno : s.sahip ≠ none := by simp [hsahip]
    refine ⟨fun ws hw => ?_, hm.yazan, hm.basarisiz, fun h => absurd (hm.karar h).1 hno,
      fun n hn => absurd (hm.ret n hn).1 hno, hsatir⟩
    simp [hetki] at hw
  | vazgec _ _ _ _ =>
    exact ⟨hm.islemis, hm.yazan, hm.basarisiz, fun h => ⟨rfl, (hm.karar h).2⟩,
      fun n hn => ⟨rfl, (hm.ret n hn).2⟩, hsatir⟩
  | isledi _ _ ws ht hws _ =>
    have hsahip := (kilit_of_tasiyan hs hk ht).1
    have hetki := hs.bekleyen i hsahip
    have hno : s.sahip ≠ none := by simp [hsahip]
    refine ⟨fun vs hv => ?_, fun _ => by simp, fun h => absurd (hm.karar (.inr h)).1 hno,
      fun h => absurd (hm.karar h).1 hno, fun n hn => absurd (hm.ret n hn).1 hno, hsatir⟩
    simp [hetki, hj] at hv
  | yaz _ _ db hy _ hdurum _ =>
    obtain ⟨d, hdur⟩ := Option.isSome_iff_exists.mp (hb.satir (.inr hy))
    rw [hdur, Option.map_some] at hdurum
    refine ⟨fun _ _ => .inl hdurum, hm.yazan, hm.basarisiz, fun h => ⟨(hm.karar h).1, ?_⟩, fun n hn => ?_,
      hsatir⟩
    · simp [hdurum]
    · exact absurd (hm.ret n hn).2.1 (hb.yazan hy)
  | basarisiz mesaj yanit _ =>
    have hetki := hb.basarisiz rfl
    refine ⟨fun ws hw => ?_, hm.yazan, hm.basarisiz, fun h => ⟨(hm.karar h).1, ?_⟩, fun n hn => ?_, hsatir⟩
    · simp [hetki] at hw
    · rw [durumu_markFailed]
      exact map_ne_pending (by decide)
    · refine ⟨(hm.ret n hn).1, hetki, ?_, ?_⟩ <;> cases hdur : durumu s.db actionId <;> simp [hdur]
  | reddet reason _ hred =>
    obtain ⟨hsahip, hetki⟩ := hred hd
    refine ⟨fun ws hw => ?_, hm.yazan, hm.basarisiz, fun h => ⟨hsahip, ?_⟩, fun n hn => ?_, hsatir⟩
    · simp [hetki] at hw
    · rw [durumu_retYaz]
      exact map_ne_pending (by decide)
    · refine ⟨hsahip, hetki, ?_, ?_⟩ <;> cases hdur : durumu s.db actionId <;> simp [hdur]
  | _ => exact ⟨hm.islemis, hm.yazan, hm.basarisiz, hm.karar, hm.ret, hsatir⟩

private theorem baslangic_bilir (db : Db) (actionId : ℕ) (i : ι) :
    Bilir actionId i (baslangic db : Pool ι (Ortak ι) Konum).shared .basla :=
  bilir_notr ⟨rfl, rfl, fun _ => (nomatch ·)⟩ (fun _ h => (nomatch h)) (fun h => (by cases h))

private theorem run_bilir [DecidableEq ι] {talep : ι → Talep} {db : Db} {sira : List ι}
    (h : StepsMeet (Pool.step (talepAdimi talep actionId)) (fun p i => Duzgun talep i p.shared (p.loc i))
      (baslangic db) sira) :
    (run (Pool.step (talepAdimi talep actionId)) (baslangic db) sira).Holds (TekSahip db actionId)
      (fun i s k => Yerli i s k ∧ Bilir actionId i s k) := by
  refine Pool.run_holds ?_ ?_ ?_ h
  · intro i s k hs hk hd
    have hmove : Hareket talep actionId i s k _ _ := talepAdimi_hareket talep i s hk.1.kayit
    obtain ⟨hG, hL⟩ := tekSahip_own hs hk.1 hmove
    exact ⟨hG, hL, bilir_own hs hk.1 hk.2 hd hmove⟩
  · intro i j s k m hj hs hk hd hm
    have hmove : Hareket talep actionId i s k _ _ := talepAdimi_hareket talep i s hk.1.kayit
    exact ⟨yerli_other hj hs hk.1 hm.1 hmove, bilir_other hj hs hk.1 hk.2 hm.2 hd hmove⟩
  · have hbas : (baslangic db : Pool ι (Ortak ι) Konum).Holds (TekSahip db actionId) Yerli :=
      baslangic_tekSahip db actionId
    exact ⟨hbas.shared, fun i => ⟨hbas.loc i, baslangic_bilir db actionId i⟩⟩

/-- When no rejection lands on an action that is being carried out or has been, and nothing is
raised behind a handler's commit, the requests that have all returned agree with what was done. -/
theorem final_status_agrees [DecidableEq ι] (talep : ι → Talep) (actionId : ℕ) (db : Db) (sira : List ι)
    (h : StepsMeet (Pool.step (talepAdimi talep actionId)) (fun p i => Duzgun talep i p.shared (p.loc i))
      (baslangic db) sira)
    (hbit : Bitmis (run (Pool.step (talepAdimi talep actionId)) (baslangic db) sira)) :
    Uyumlu db actionId (run (Pool.step (talepAdimi talep actionId)) (baslangic db) sira) := by
  obtain ⟨hG, hL⟩ := run_bilir h
  have hetki : ∀ r ∈ (run (Pool.step (talepAdimi talep actionId)) (baslangic db) sira).shared.etkiler,
      durumu (run (Pool.step (talepAdimi talep actionId)) (baslangic db) sira).shared.db actionId =
        some .executed := by
    rintro ⟨i, ws⟩ hr
    refine ((hL i).2.islemis ws hr).resolve_right fun hy => ?_
    have hi := hbit i
    revert hy hi
    cases (run (Pool.step (talepAdimi talep actionId)) (baslangic db) sira).loc i <;>
      simp [Konum.yazacakMi, Konum.yanit?]
  refine ⟨fun hred => ?_, fun hne => ?_, fun i n hn => ?_⟩
  · have hbos : (run (Pool.step (talepAdimi talep actionId)) (baslangic db) sira).shared.etkiler = [] := by
      rw [List.eq_nil_iff_forall_not_mem]
      intro r hr
      rw [hetki r hr] at hred
      cases hred
    rw [hG.defter, hbos]
    rfl
  · obtain ⟨r, hr⟩ := List.exists_mem_of_ne_nil _ hne
    exact hetki r hr
  · exact ⟨((hL i).2.ret n hn).2.1, ((hL i).2.ret n hn).2.2.2⟩

/-- A cash account with 1000 and a pending income of 40 on it. -/
def gelirDb : Db := Db.empty.writeAll [
  .account (.insert ⟨1, none, "Nakit", .cash, 1000, none, none, none, none, none, none, none, false⟩),
  .pendingAction (.insert ⟨1, none, .addTransaction, .object [(.transactionType, .str "income"),
    (.amount, .int 40), (.accountId, .int 1), (.autoUpdateBalance, .bool true)], "40 TL gelir", .pending,
    none, none, none⟩)]

def talepGunu : Date := (Date.ofYmd? 2026 5 5).get rfl

/-- Request `true` approves, request `false` rejects. -/
def ikiTalep : Bool → Talep
  | true => .onay 1 (fun _ => talepGunu) .yok
  | false => .ret 1 none

/-- No rejection about to be written, and no recurring source about to be marked. -/
def Konum.sade : Konum → Bool
  | .reddedecek => false
  | .yazacak pending _ _ => pending.sourceRecurringId.isNone
  | _ => true

private theorem duzgun_ikiTalep {i : Bool} {s : Ortak Bool} {k : Konum} (h : Konum.sade k = true) :
    Duzgun ikiTalep i s k := by
  cases i with
  | false =>
    cases k with
    | reddedecek => cases h
    | _ => trivial
  | true =>
    cases k with
    | calistiracak pending handler payload => exact fun _ => rfl
    | yazacak pending payload cevap =>
      refine ⟨rfl, rfl, rfl, rfl, fun ⟨id, hid, _⟩ => ?_⟩
      simp only [Konum.sade, Option.isNone_iff_eq_none] at h
      rw [h] at hid
      cases hid
    | _ => trivial

theorem final_status_agrees_gelirDb :
    Uyumlu gelirDb 1 (run (Pool.step (talepAdimi ikiTalep 1)) (baslangic gelirDb)
      (List.replicate 7 true ++ [false])) := by
  apply final_status_agrees
  · refine StepsMeet.mono (fun p i h => duzgun_ikiTalep h) ?_
    decide +kernel
  · decide +kernel

/-- Read by both, carried out by one and then rejected by the other, the income stays booked. -/
theorem rejection_hid_the_income :
    ¬ ∀ (talep : Bool → Talep) (actionId : ℕ) (db : Db) (sira : List Bool),
      Bitmis (run (Pool.step (talepAdimi talep actionId)) (baslangic db) sira) →
        Uyumlu db actionId (run (Pool.step (talepAdimi talep actionId)) (baslangic db) sira) := by
  intro h
  have hu := h ikiTalep 1 gelirDb (false :: List.replicate 7 true ++ [false]) (by decide +kernel)
  have hdefter := hu.ret (by decide +kernel)
  have hbakiye := congrArg (fun d => (d.accounts.get? 1).map Account.balance) hdefter
  exact absurd hbakiye (by decide +kernel)

end FinancialOs.Guarantees
