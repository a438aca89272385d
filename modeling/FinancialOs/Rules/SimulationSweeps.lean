import FinancialOs.Library.TableSweeps
import FinancialOs.Rules.Simulation
import Mathlib.Tactic.Ring

/-! The projection as a pass over the rows: what it makes of each account and each debt, and what
all of them together move on the default cash account. -/
namespace FinancialOs.Rules
open Library Store

/-- A rewrite of accounts that leaves cash accounts alone and changes no account's kind. -/
structure NakitDisi (f : AccountSnap → AccountSnap) : Prop where
  accountType : ∀ a, (f a).accountType = a.accountType
  isEmanet : ∀ a, (f a).isEmanet = a.isEmanet
  nakit : ∀ a, a.accountType = .cash → f a = a

theorem NakitDisi.comp {f g : AccountSnap → AccountSnap} (hg : NakitDisi g) (hf : NakitDisi f) :
    NakitDisi (g ∘ f) where
  accountType a := (hg.accountType _).trans (hf.accountType a)
  isEmanet a := (hg.isEmanet _).trans (hf.isEmanet a)
  nakit a ha := by
    rw [Function.comp, hf.nakit a ha]
    exact hg.nakit a ha

theorem NakitDisi.iterate {f : AccountSnap → AccountSnap} (hf : NakitDisi f) : ∀ n, NakitDisi (f^[n])
  | 0 => ⟨fun _ => rfl, fun _ => rfl, fun _ _ => rfl⟩
  | n + 1 => (hf.iterate n).comp hf

section Cash
variable {w : WorldSnap} {f : AccountSnap → AccountSnap} {x y : ℚ} {k : ℕ}

theorem WorldSnap.defaultCash_spec (h : w.defaultCash = some k) :
    ∃ a, w.accounts.get? k = some a ∧ a.accountType = .cash := by
  obtain ⟨⟨j, a⟩, hfirst, rfl⟩ := Option.map_eq_some_iff.mp h
  obtain ⟨ha, hp⟩ := Table.first?_spec hfirst
  exact ⟨a, ha, (of_decide_eq_true hp).1⟩

/-- Which account it is depends on the kinds of the accounts only. -/
theorem defaultCash_modify (w : WorldSnap) (k : ℕ) (htype : ∀ a, (f a).accountType = a.accountType)
    (hemanet : ∀ a, (f a).isEmanet = a.isEmanet) : (w.hesapGuncelle k f).defaultCash = w.defaultCash := by
  apply Table.first?_key_congr
  intro j
  simp only [WorldSnap.hesapGuncelle, Table.get?_modify]
  split
  · cases w.accounts.get? j with
    | none => exact Iff.rfl
    | some a => simp [htype, hemanet]
  · exact Iff.rfl

theorem defaultCash_mapRows (w : WorldSnap) (hf : NakitDisi f) :
    WorldSnap.defaultCash { w with accounts := w.accounts.mapRows f } = w.defaultCash := by
  apply Table.first?_key_congr
  intro j
  simp only [Table.get?_mapRows]
  cases w.accounts.get? j with
  | none => exact Iff.rfl
  | some a => simp [hf.accountType, hf.isEmanet]

theorem nakitEkle_some (h : w.defaultCash = some k) (x : ℚ) :
    w.nakitEkle x = w.hesapGuncelle k (fun a => { a with balance := a.balance + x }) := by
  simp only [WorldSnap.nakitEkle, h]
  rfl

theorem nakitEkle_none (h : w.defaultCash = none) (x : ℚ) : w.nakitEkle x = w := by
  simp only [WorldSnap.nakitEkle, h]

theorem defaultCash_nakitEkle (w : WorldSnap) (x : ℚ) : (w.nakitEkle x).defaultCash = w.defaultCash := by
  cases h : w.defaultCash with
  | none => rw [nakitEkle_none h, h]
  | some k =>
    rw [nakitEkle_some h, ← h]
    exact defaultCash_modify w k (fun _ => rfl) (fun _ => rfl)

@[simp] theorem nakitEkle_zero (w : WorldSnap) : w.nakitEkle 0 = w := by
  cases h : w.defaultCash with
  | none => exact nakitEkle_none h 0
  | some k =>
    rw [nakitEkle_some h, WorldSnap.hesapGuncelle]
    simp only [add_zero, Table.modify_self]

theorem nakitEkle_nakitEkle (w : WorldSnap) (x y : ℚ) : (w.nakitEkle x).nakitEkle y = w.nakitEkle (x + y) := by
  cases h : w.defaultCash with
  | none => rw [nakitEkle_none h, nakitEkle_none h, nakitEkle_none h]
  | some k =>
    have h' := (defaultCash_nakitEkle w x).trans h
    rw [nakitEkle_some h', nakitEkle_some h, nakitEkle_some h]
    simp only [WorldSnap.hesapGuncelle, Table.modify_modify]
    have he : (fun a : AccountSnap => { a with balance := a.balance + y }) ∘
        (fun a : AccountSnap => { a with balance := a.balance + x }) =
        fun a : AccountSnap => { a with balance := a.balance + (x + y) } := by
      funext a
      simp only [Function.comp, add_assoc]
    rw [he]

/-- Movements on cash and rewrites of other accounts do not meet. -/
theorem hesapGuncelle_nakitEkle (w : WorldSnap) (hf : NakitDisi f) (k : ℕ) (x : ℚ) :
    (w.nakitEkle x).hesapGuncelle k f = (w.hesapGuncelle k f).nakitEkle x := by
  have hcash := defaultCash_modify w k hf.accountType hf.isEmanet
  cases h : w.defaultCash with
  | none => rw [nakitEkle_none h, nakitEkle_none (hcash.trans h)]
  | some c =>
    obtain ⟨a, ha, htype⟩ := WorldSnap.defaultCash_spec h
    rw [nakitEkle_some h, nakitEkle_some (hcash.trans h)]
    simp only [WorldSnap.hesapGuncelle]
    rw [Table.modify_comm]
    rintro rfl b hb
    rw [ha] at hb
    obtain rfl := Option.some.inj hb
    rw [hf.nakit a htype]
    exact (hf.nakit { a with balance := a.balance + x } htype).symm

/-- The same for one account that is not a cash account, and any rewrite that keeps its kind. -/
theorem hesapGuncelle_nakitEkle_of_row (w : WorldSnap) {a : AccountSnap} (ha : w.accounts.get? k = some a)
    (htype : a.accountType ≠ .cash) (f : AccountSnap → AccountSnap) (hf : ∀ a, (f a).accountType = a.accountType)
    (hemanet : ∀ a, (f a).isEmanet = a.isEmanet) (x : ℚ) :
    (w.nakitEkle x).hesapGuncelle k f = (w.hesapGuncelle k f).nakitEkle x := by
  have hcash := defaultCash_modify w k hf hemanet
  cases h : w.defaultCash with
  | none => rw [nakitEkle_none h, nakitEkle_none (hcash.trans h)]
  | some c =>
    obtain ⟨b, hb, hbtype⟩ := WorldSnap.defaultCash_spec h
    rw [nakitEkle_some h, nakitEkle_some (hcash.trans h)]
    simp only [WorldSnap.hesapGuncelle]
    rw [Table.modify_comm]
    rintro rfl
    rw [ha] at hb
    rw [Option.some.inj hb] at htype
    exact absurd hbtype htype

theorem hesapGuncelle_congr {g : AccountSnap → AccountSnap} (h : ∀ a, w.accounts.get? k = some a → f a = g a) :
    w.hesapGuncelle k f = w.hesapGuncelle k g := by
  rw [WorldSnap.hesapGuncelle, Table.modify_congr h, WorldSnap.hesapGuncelle]

theorem mapRows_nakitEkle (w : WorldSnap) (hf : NakitDisi f) (x : ℚ) :
    ({ w.nakitEkle x with accounts := (w.nakitEkle x).accounts.mapRows f } : WorldSnap) =
      WorldSnap.nakitEkle { w with accounts := w.accounts.mapRows f } x := by
  have hcash := defaultCash_mapRows w hf
  cases h : w.defaultCash with
  | none => rw [nakitEkle_none h, nakitEkle_none (hcash.trans h)]
  | some c =>
    obtain ⟨a, ha, htype⟩ := WorldSnap.defaultCash_spec h
    rw [nakitEkle_some h, nakitEkle_some (hcash.trans h)]
    simp only [WorldSnap.hesapGuncelle, WorldSnap.mk.injEq, true_and, and_true]
    apply Table.ext_keys
    · simp only [Table.keys_mapRows, Table.keys_modify]
    · intro j
      simp only [Table.get?_mapRows, Table.get?_modify]
      split
      · next hj =>
        rw [hj, ha]
        simp only [Option.map_some]
        rw [hf.nakit a htype]
        exact congrArg some (hf.nakit { a with balance := a.balance + x } htype)
      · rfl

end Cash

/-- A movement that an account causes on the default cash account; cash accounts cause none. -/
def NakitsizFark (d : AccountSnap → ℚ) : Prop := ∀ a, a.accountType = .cash → d a = 0

/-- One account is rewritten, and moves cash. -/
def WorldSnap.hesapAdimi (f : AccountSnap → AccountSnap) (d : AccountSnap → ℚ) (w : WorldSnap) (k : ℕ) : WorldSnap :=
  (w.hesapGuncelle k f).nakitEkle (((w.accounts.get? k).map d).getD 0)

/-- Every account is rewritten, and all of them move cash. -/
def WorldSnap.hesapTara (f : AccountSnap → AccountSnap) (d : AccountSnap → ℚ) (w : WorldSnap) : WorldSnap :=
  WorldSnap.nakitEkle { w with accounts := w.accounts.mapRows f } (w.accounts.total d)

/-- Every debt is rewritten, and all of them move cash. -/
def WorldSnap.borcTara (f : DebtSnap → DebtSnap) (d : DebtSnap → ℚ) (w : WorldSnap) : WorldSnap :=
  WorldSnap.nakitEkle { w with debts := w.debts.mapRows f } (w.debts.total d)

section Sweeps
variable {w : WorldSnap} {f g : AccountSnap → AccountSnap} {d e : AccountSnap → ℚ}

theorem fark_nakitEkle (w : WorldSnap) (hd : NakitsizFark d) (x : ℚ) (k : ℕ) :
    ((w.nakitEkle x).accounts.get? k).map d = (w.accounts.get? k).map d := by
  cases h : w.defaultCash with
  | none => rw [nakitEkle_none h]
  | some c =>
    obtain ⟨a, ha, htype⟩ := WorldSnap.defaultCash_spec h
    rw [nakitEkle_some h, WorldSnap.hesapGuncelle, Table.get?_modify]
    split
    · next hk =>
      rw [hk, ha, Option.map_some, Option.map_some, Option.map_some, hd a htype]
      exact congrArg some (hd { a with balance := a.balance + x } htype)
    · rfl

theorem keys_nakitEkle (w : WorldSnap) (x : ℚ) : (w.nakitEkle x).accounts.keys = w.accounts.keys := by
  cases h : w.defaultCash with
  | none => rw [nakitEkle_none h]
  | some c => rw [nakitEkle_some h, WorldSnap.hesapGuncelle, Table.keys_modify]

theorem total_nakitEkle (w : WorldSnap) (hd : NakitsizFark d) (x : ℚ) :
    (w.nakitEkle x).accounts.total d = w.accounts.total d := by
  rw [← Table.sum_keys, ← Table.sum_keys, keys_nakitEkle]
  simp only [fark_nakitEkle w hd]

theorem foldl_hesapGuncelle_nakitEkle (hf : NakitDisi f) (x : ℚ) (l : List ℕ) (w : WorldSnap) :
    l.foldl (fun w k => w.hesapGuncelle k f) (w.nakitEkle x) =
      (l.foldl (fun w k => w.hesapGuncelle k f) w).nakitEkle x := by
  induction l generalizing w with
  | nil => rfl
  | cons k l ih => rw [List.foldl_cons, List.foldl_cons, hesapGuncelle_nakitEkle w hf, ih]

/-- The accounts of a list, one behind the other. -/
theorem foldl_hesapAdimi (hf : NakitDisi f) (hd : NakitsizFark d) {l : List ℕ} (hl : l.Nodup) (w : WorldSnap) :
    l.foldl (WorldSnap.hesapAdimi f d) w = (l.foldl (fun w k => w.hesapGuncelle k f) w).nakitEkle
      ((l.map (fun k => ((w.accounts.get? k).map d).getD 0)).sum) := by
  induction l generalizing w with
  | nil => exact (nakitEkle_zero w).symm
  | cons k l ih =>
    rw [List.nodup_cons] at hl
    have hrest : l.map (fun j => (((WorldSnap.hesapAdimi f d w k).accounts.get? j).map d).getD 0) =
        l.map (fun j => ((w.accounts.get? j).map d).getD 0) := by
      apply List.map_congr_left
      intro j hj
      have hne : j ≠ k := fun he => hl.1 (he ▸ hj)
      rw [WorldSnap.hesapAdimi, fark_nakitEkle _ hd, WorldSnap.hesapGuncelle, Table.get?_modify, if_neg hne]
    rw [List.foldl_cons, ih hl.2, hrest, WorldSnap.hesapAdimi, foldl_hesapGuncelle_nakitEkle hf, List.foldl_cons,
      nakitEkle_nakitEkle, List.map_cons, List.sum_cons]

theorem foldl_hesapGuncelle (l : List ℕ) (w : WorldSnap) : l.foldl (fun w k => w.hesapGuncelle k f) w =
    { w with accounts := l.foldl (fun t k => t.modify k f) w.accounts } := by
  induction l generalizing w with
  | nil => rfl
  | cons k l ih => rw [List.foldl_cons, ih, List.foldl_cons, WorldSnap.hesapGuncelle]

/-- All accounts, one behind the other. -/
theorem foldl_hesapAdimi_keys (hf : NakitDisi f) (hd : NakitsizFark d) (w : WorldSnap) :
    w.accounts.keys.foldl (WorldSnap.hesapAdimi f d) w = w.hesapTara f d := by
  have hnodup : w.accounts.keys.Nodup := w.accounts.nodup
  rw [foldl_hesapAdimi hf hd hnodup, foldl_hesapGuncelle, Table.foldl_modify_keys, Table.sum_keys]
  rfl

/-- What an account moves while it is rewritten again and again. -/
def birikim (f : AccountSnap → AccountSnap) (d : AccountSnap → ℚ) : ℕ → AccountSnap → ℚ
  | 0, _ => 0
  | n + 1, a => d a + birikim f d n (f a)

theorem birikim_add (f : AccountSnap → AccountSnap) (d : AccountSnap → ℚ) (m n : ℕ) (a : AccountSnap) :
    birikim f d (m + n) a = birikim f d m a + birikim f d n (f^[m] a) := by
  induction m generalizing a with
  | zero => rw [Nat.zero_add, birikim, zero_add, Function.iterate_zero_apply]
  | succ m ih => rw [Nat.succ_add, birikim, birikim, ih, Function.iterate_succ_apply, add_assoc]

theorem birikim_nakitsiz (hf : NakitDisi f) (hd : NakitsizFark d) (n : ℕ) : NakitsizFark (birikim f d n) := by
  intro a ha
  induction n with
  | zero => rfl
  | succ n ih => rw [birikim, hf.nakit a ha, hd a ha, ih, add_zero]

/-- One account, again and again. -/
theorem iterate_hesapAdimi (hf : NakitDisi f) (hd : NakitsizFark d) (k n : ℕ) (w : WorldSnap) :
    (fun w => WorldSnap.hesapAdimi f d w k)^[n] w = WorldSnap.hesapAdimi (f^[n]) (birikim f d n) w k := by
  induction n generalizing w with
  | zero =>
    have hzero : ((w.accounts.get? k).map (birikim f d 0)).getD 0 = 0 := by
      cases w.accounts.get? k with
      | none => rfl
      | some a => rfl
    rw [WorldSnap.hesapAdimi, hzero, nakitEkle_zero, WorldSnap.hesapGuncelle]
    exact (congrArg (fun t => { w with accounts := t }) (Table.modify_self w.accounts k)).symm
  | succ n ih =>
    have hrest : ((WorldSnap.hesapAdimi f d w k).accounts.get? k).map (birikim f d n) =
        ((w.accounts.get? k).map f).map (birikim f d n) := by
      rw [WorldSnap.hesapAdimi, fark_nakitEkle _ (birikim_nakitsiz hf hd n), WorldSnap.hesapGuncelle,
        Table.get?_modify, if_pos rfl]
    rw [Function.iterate_succ_apply, ih, WorldSnap.hesapAdimi, hrest, WorldSnap.hesapAdimi,
      hesapGuncelle_nakitEkle _ (hf.iterate n), nakitEkle_nakitEkle, WorldSnap.hesapAdimi]
    congr 1
    · simp only [WorldSnap.hesapGuncelle, Table.modify_modify]
      rw [← Function.iterate_succ]
    · cases w.accounts.get? k with
      | none => exact add_zero 0
      | some a => rfl

/-- Two passes make one. -/
theorem hesapTara_hesapTara (hg : NakitDisi g) (he : NakitsizFark e) (w : WorldSnap) :
    (w.hesapTara f d).hesapTara g e = w.hesapTara (g ∘ f) (fun a => d a + e (f a)) := by
  rw [WorldSnap.hesapTara, WorldSnap.hesapTara, total_nakitEkle _ he, mapRows_nakitEkle _ hg, nakitEkle_nakitEkle,
    Table.mapRows_mapRows, Table.total_mapRows, WorldSnap.hesapTara, Table.total_add]

theorem hesapTara_nakitEkle (hf : NakitDisi f) (hd : NakitsizFark d) (w : WorldSnap) (x : ℚ) :
    (w.nakitEkle x).hesapTara f d = (w.hesapTara f d).nakitEkle x := by
  rw [WorldSnap.hesapTara, total_nakitEkle w hd, mapRows_nakitEkle w hf, WorldSnap.hesapTara, nakitEkle_nakitEkle,
    nakitEkle_nakitEkle, add_comm]

/-- What a step on an account does depends on its row only. -/
theorem hesapAdimi_congr {k : ℕ} (h : ∀ a, w.accounts.get? k = some a → f a = g a ∧ d a = e a) :
    w.hesapAdimi f d k = w.hesapAdimi g e k := by
  rw [WorldSnap.hesapAdimi, hesapGuncelle_congr (fun a ha => (h a ha).1), WorldSnap.hesapAdimi]
  cases ha : w.accounts.get? k with
  | none => rfl
  | some a => rw [Option.map_some, Option.map_some, (h a ha).2]

/-- A step that rewrites nothing and moves nothing. -/
theorem hesapAdimi_self {k : ℕ} (h : ∀ a, w.accounts.get? k = some a → f a = a ∧ d a = 0) :
    w.hesapAdimi f d k = w := by
  have hfark : ((w.accounts.get? k).map d).getD 0 = 0 := by
    cases ha : w.accounts.get? k with
    | none => rfl
    | some a => exact (h a ha).2
  rw [WorldSnap.hesapAdimi, hfark, nakitEkle_zero, hesapGuncelle_congr (fun a ha => (h a ha).1),
    WorldSnap.hesapGuncelle, Table.modify_self]

end Sweeps

section Phases
variable {start stop : MonthDay} {w : WorldSnap} {k : ℕ}

/-- A loan over one instalment. -/
def krediAy (a : AccountSnap) : AccountSnap :=
  if a.accountType = .loan ∧ a.monthlyPayment.getD 0 ≠ 0 then taksitSonrasi (a.monthlyPayment.getD 0) a else a

def krediNakit (a : AccountSnap) : ℚ := if a.accountType = .loan then -a.monthlyPayment.getD 0 else 0

/-- A card over one minimum payment. -/
def kartAy (a : AccountSnap) : AccountSnap :=
  if a.accountType = .creditCard ∧ bosEsigi < a.balance then
    { a with balance := max 0 ((faizliKart a).balance - kartAsgarisi (faizliKart a).balance) }
  else a

def kartNakit (a : AccountSnap) : ℚ :=
  if a.accountType = .creditCard ∧ bosEsigi < a.balance then -kartAsgarisi (faizliKart a).balance else 0

theorem krediAy_nakitDisi : NakitDisi krediAy where
  accountType a := by
    unfold krediAy
    split
    · rfl
    · rfl
  isEmanet a := by
    unfold krediAy
    split
    · rfl
    · rfl
  nakit a ha := if_neg (fun h => by rw [ha] at h; cases h.1)

theorem krediNakit_nakitsiz : NakitsizFark krediNakit := fun a ha => if_neg (fun h => by rw [ha] at h; cases h)

theorem kartAy_nakitDisi : NakitDisi kartAy where
  accountType a := by
    unfold kartAy
    split
    · rfl
    · rfl
  isEmanet a := by
    unfold kartAy
    split
    · rfl
    · rfl
  nakit a ha := if_neg (fun h => by rw [ha] at h; cases h.1)

theorem kartNakit_nakitsiz : NakitsizFark kartNakit := fun a ha => if_neg (fun h => by rw [ha] at h; cases h.1)

theorem krediTaksiti_eq {a : AccountSnap} (ha : w.accounts.get? k = some a) (htype : a.accountType = .loan) :
    krediTaksiti k w = w.hesapAdimi krediAy krediNakit k := by
  have hnakit : krediNakit a = -a.monthlyPayment.getD 0 := if_pos htype
  have hbos (hzero : a.monthlyPayment.getD 0 = 0) : w.hesapAdimi krediAy krediNakit k = w := by
    apply hesapAdimi_self
    intro b hb
    rw [ha] at hb
    obtain rfl := Option.some.inj hb
    refine ⟨if_neg (fun h => h.2 hzero), ?_⟩
    rw [hnakit, hzero, neg_zero]
  simp only [krediTaksiti, ha]
  cases hm : a.monthlyPayment with
  | none => exact (hbos (by rw [hm]; rfl)).symm
  | some m =>
    simp only
    split
    · next hzero => exact (hbos (by rw [hm]; exact hzero)).symm
    · next hne =>
      rw [hesapGuncelle_nakitEkle_of_row w ha (by rw [htype]; decide) (taksitSonrasi m) (fun _ => rfl) (fun _ => rfl),
        WorldSnap.hesapAdimi, ha, Option.map_some, Option.getD_some, hnakit, hm, Option.getD_some]
      rw [hesapGuncelle_congr (g := krediAy)]
      intro b hb
      rw [ha] at hb
      obtain rfl := Option.some.inj hb
      rw [krediAy, hm, Option.getD_some, if_pos ⟨htype, hne⟩]

theorem kartAsgari_eq {a : AccountSnap} (ha : w.accounts.get? k = some a) (htype : a.accountType = .creditCard) :
    kartAsgari k w = w.hesapAdimi kartAy kartNakit k := by
  simp only [kartAsgari, ha]
  split
  · next hbos =>
    refine (hesapAdimi_self (fun b hb => ?_)).symm
    rw [ha] at hb
    obtain rfl := Option.some.inj hb
    exact ⟨if_neg (fun h => hbos.not_gt h.2), if_neg (fun h => hbos.not_gt h.2)⟩
  · next hdolu =>
    have hguard : a.accountType = .creditCard ∧ bosEsigi < a.balance := ⟨htype, not_le.mp hdolu⟩
    have hfaizli : (w.hesapGuncelle k faizliKart).accounts.get? k = some (faizliKart a) := by
      rw [WorldSnap.hesapGuncelle, Table.get?_modify, if_pos rfl, ha, Option.map_some]
    have hcash : (faizliKart a).accountType ≠ .cash := by
      change a.accountType ≠ .cash
      rw [htype]
      decide
    rw [hesapGuncelle_nakitEkle_of_row _ hfaizli hcash
      (fun b => { b with balance := max 0 (b.balance - kartAsgarisi (faizliKart a).balance) })
      (fun _ => rfl) (fun _ => rfl), WorldSnap.hesapAdimi, ha,
      Option.map_some, Option.getD_some, kartNakit, if_pos hguard]
    congr 1
    simp only [WorldSnap.hesapGuncelle, Table.modify_modify]
    rw [Table.modify_congr (g := kartAy)]
    intro b hb
    rw [ha] at hb
    obtain rfl := Option.some.inj hb
    rw [kartAy, if_pos hguard]
    rfl

/-- A loop that does the same step on one account for every date. -/
private theorem foldl_tekrar {adim : ℕ → WorldSnap → WorldSnap} {f : AccountSnap → AccountSnap}
    {d : AccountSnap → ℚ} (hf : NakitDisi f) (hd : NakitsizFark d) (type : AccountType)
    (hadim : ∀ w k a, w.accounts.get? k = some a → a.accountType = type → adim k w = w.hesapAdimi f d k)
    (gunler : List MonthDay) {a : AccountSnap} (ha : w.accounts.get? k = some a) (htype : a.accountType = type)
    (hcash : type ≠ .cash) : gunler.foldl (fun w _ => adim k w) w =
      w.hesapAdimi (f^[gunler.length]) (birikim f d gunler.length) k := by
  rw [← iterate_hesapAdimi hf hd]
  induction gunler generalizing w a with
  | nil => rfl
  | cons gun gunler ih =>
    rw [List.foldl_cons, hadim w k a ha htype, List.length_cons, Function.iterate_succ_apply]
    have hnext : (w.hesapAdimi f d k).accounts.get? k = some (f a) := by
      have hrow : (w.hesapGuncelle k f).accounts.get? k = some (f a) := by
        rw [WorldSnap.hesapGuncelle, Table.get?_modify, if_pos rfl, ha, Option.map_some]
      rw [WorldSnap.hesapAdimi]
      cases h : (w.hesapGuncelle k f).defaultCash with
      | none => rw [nakitEkle_none h, hrow]
      | some c =>
        obtain ⟨b, hb, hbtype⟩ := WorldSnap.defaultCash_spec h
        have hne : k ≠ c := by
          rintro rfl
          rw [hrow] at hb
          rw [← Option.some.inj hb, hf.accountType, htype] at hbtype
          exact hcash hbtype
        rw [nakitEkle_some h, WorldSnap.hesapGuncelle, Table.get?_modify, if_neg hne, hrow]
    exact ih hnext ((hf.accountType a).trans htype)

/-- The instalments of a loan in a window. -/
def taksitSayisi (start stop : MonthDay) (a : AccountSnap) : ℕ :=
  (nextPaymentInWindow a.nextPaymentDate start stop).length

/-- The payment dates of a card in a window, with the first one looked at in the month of a day. -/
def asgariSayisi (bas start stop : MonthDay) (a : AccountSnap) : ℕ :=
  (nextPaymentInWindow (kartBasi a.paymentDay bas) start stop).length

def krediSonrasi (start stop : MonthDay) (a : AccountSnap) : AccountSnap := krediAy^[taksitSayisi start stop a] a

def krediFarki (start stop : MonthDay) (a : AccountSnap) : ℚ :=
  birikim krediAy krediNakit (taksitSayisi start stop a) a

def kartSonrasi (bas start stop : MonthDay) (a : AccountSnap) : AccountSnap :=
  kartAy^[asgariSayisi bas start stop a] a

def kartFarki (bas start stop : MonthDay) (a : AccountSnap) : ℚ :=
  birikim kartAy kartNakit (asgariSayisi bas start stop a) a

/-- An account that a rewrite leaves alone. -/
theorem iterate_durgun {f : AccountSnap → AccountSnap} {d : AccountSnap → ℚ} {a : AccountSnap}
    (hf : f a = a) (hd : d a = 0) (n : ℕ) : f^[n] a = a ∧ birikim f d n a = 0 := by
  induction n with
  | zero => exact ⟨rfl, rfl⟩
  | succ n ih =>
    refine ⟨by rw [Function.iterate_succ_apply, hf, ih.1], ?_⟩
    rw [birikim, hf, hd, ih.2, add_zero]

theorem nakitDisi_tekrar {f : AccountSnap → AccountSnap} (hf : NakitDisi f) (sayi : AccountSnap → ℕ) :
    NakitDisi (fun a => f^[sayi a] a) where
  accountType a := (hf.iterate _).accountType a
  isEmanet a := (hf.iterate _).isEmanet a
  nakit a ha := (hf.iterate _).nakit a ha

theorem nakitsiz_tekrar {f : AccountSnap → AccountSnap} {d : AccountSnap → ℚ} (hf : NakitDisi f)
    (hd : NakitsizFark d) (sayi : AccountSnap → ℕ) : NakitsizFark (fun a => birikim f d (sayi a) a) :=
  fun a ha => birikim_nakitsiz hf hd _ a ha

theorem krediIsle_eq (w : WorldSnap) (k : ℕ) :
    krediIsle start stop w k = w.hesapAdimi (krediSonrasi start stop) (krediFarki start stop) k := by
  cases ha : w.accounts.get? k with
  | none =>
    simp only [krediIsle, ha]
    refine (hesapAdimi_self (fun b hb => ?_)).symm
    rw [ha] at hb
    cases hb
  | some a =>
    simp only [krediIsle, ha]
    split
    · next htype =>
      rw [foldl_tekrar krediAy_nakitDisi krediNakit_nakitsiz .loan (fun _ _ _ h ht => krediTaksiti_eq h ht) _ ha
        htype (by decide)]
      apply hesapAdimi_congr
      intro b hb
      rw [ha] at hb
      obtain rfl := Option.some.inj hb
      exact ⟨rfl, rfl⟩
    · next htype =>
      refine (hesapAdimi_self (fun b hb => ?_)).symm
      rw [ha] at hb
      obtain rfl := Option.some.inj hb
      exact iterate_durgun (f := krediAy) (d := krediNakit) (if_neg (fun h => htype h.1)) (if_neg htype) _

theorem kartIsle_eq (w : WorldSnap) (k : ℕ) :
    kartIsle start stop w k = w.hesapAdimi (kartSonrasi start start stop) (kartFarki start start stop) k := by
  cases ha : w.accounts.get? k with
  | none =>
    simp only [kartIsle, ha]
    refine (hesapAdimi_self (fun b hb => ?_)).symm
    rw [ha] at hb
    cases hb
  | some a =>
    simp only [kartIsle, ha]
    split
    · next hbos =>
      refine (hesapAdimi_self (fun b hb => ?_)).symm
      rw [ha] at hb
      obtain rfl := Option.some.inj hb
      have hguard : ¬ (a.accountType = .creditCard ∧ bosEsigi < a.balance) := by
        rintro ⟨htype, hlt⟩
        rcases hbos with hne | hle
        · exact hne htype
        · exact hle.not_gt hlt
      exact iterate_durgun (f := kartAy) (d := kartNakit) (if_neg hguard) (if_neg hguard) _
    · next hdolu =>
      have htype : a.accountType = .creditCard := not_not.mp (fun h => hdolu (.inl h))
      rw [foldl_tekrar kartAy_nakitDisi kartNakit_nakitsiz .creditCard (fun _ _ _ h ht => kartAsgari_eq h ht) _ ha
        htype (by decide)]
      apply hesapAdimi_congr
      intro b hb
      rw [ha] at hb
      obtain rfl := Option.some.inj hb
      exact ⟨rfl, rfl⟩

/-- What the incomes bring in a window. -/
def gelirToplami (start stop : MonthDay) (incomes : List IncomeSnap) : ℚ :=
  (incomes.map (fun inc => if inc.isActive then (gelirGunleri inc start stop).length * inc.amount else 0)).sum

theorem foldl_gelirIsle (incomes : List IncomeSnap) (w : WorldSnap) :
    incomes.foldl (gelirIsle start stop) w = w.nakitEkle (gelirToplami start stop incomes) := by
  have htekrar (x : ℚ) (gunler : List MonthDay) (w : WorldSnap) :
      gunler.foldl (fun w _ => w.nakitEkle x) w = w.nakitEkle (gunler.length * x) := by
    induction gunler generalizing w with
    | nil =>
      rw [List.length_nil, Nat.cast_zero, zero_mul, nakitEkle_zero]
      rfl
    | cons gun gunler ih =>
      rw [List.foldl_cons, ih, nakitEkle_nakitEkle, List.length_cons]
      congr 1
      push_cast
      ring
  induction incomes generalizing w with
  | nil => exact (nakitEkle_zero w).symm
  | cons inc incomes ih =>
    have hinc : gelirIsle start stop w inc =
        w.nakitEkle (if inc.isActive then (gelirGunleri inc start stop).length * inc.amount else 0) := by
      unfold gelirIsle
      split
      · exact htekrar _ _ w
      · exact (nakitEkle_zero w).symm
    rw [List.foldl_cons, ih, hinc, nakitEkle_nakitEkle, gelirToplami, gelirToplami, List.map_cons, List.sum_cons]

/-- A debt behind a window. -/
def borcSonrasi (start stop : MonthDay) (d : DebtSnap) : DebtSnap :=
  if vadesiGelir start stop d then { d with paidDate := d.dueDate } else d

def borcFarki (start stop : MonthDay) (d : DebtSnap) : ℚ :=
  if vadesiGelir start stop d then (if d.direction = .receivable then d.amount else -d.amount) else 0

/-- What cash becomes depends on the accounts alone. -/
theorem nakitEkle_mk (w : WorldSnap) (asOf : MonthDay) (incomes : List IncomeSnap) (debts : Table DebtSnap) (x : ℚ) :
    (⟨asOf, (w.nakitEkle x).accounts, incomes, debts⟩ : WorldSnap) =
      WorldSnap.nakitEkle ⟨asOf, w.accounts, incomes, debts⟩ x := by
  cases h : w.defaultCash with
  | none =>
    have h' : WorldSnap.defaultCash ⟨asOf, w.accounts, incomes, debts⟩ = none := h
    rw [nakitEkle_none h, nakitEkle_none h']
  | some c =>
    have h' : WorldSnap.defaultCash ⟨asOf, w.accounts, incomes, debts⟩ = some c := h
    rw [nakitEkle_some h, nakitEkle_some h']
    rfl

theorem asOf_nakitEkle (w : WorldSnap) (x : ℚ) : (w.nakitEkle x).asOf = w.asOf := by
  cases h : w.defaultCash with
  | none => rw [nakitEkle_none h]
  | some c =>
    rw [nakitEkle_some h]
    rfl

theorem debts_nakitEkle (w : WorldSnap) (x : ℚ) : (w.nakitEkle x).debts = w.debts := by
  cases h : w.defaultCash with
  | none => rw [nakitEkle_none h]
  | some c =>
    rw [nakitEkle_some h]
    rfl

theorem incomes_nakitEkle (w : WorldSnap) (x : ℚ) : (w.nakitEkle x).incomes = w.incomes := by
  cases h : w.defaultCash with
  | none => rw [nakitEkle_none h]
  | some c =>
    rw [nakitEkle_some h]
    rfl

/-- Cash and debts do not meet. -/
theorem nakitEkle_debts (w : WorldSnap) (t : Table DebtSnap) (x : ℚ) :
    ({ w.nakitEkle x with debts := t } : WorldSnap) = WorldSnap.nakitEkle { w with debts := t } x := by
  have h := nakitEkle_mk w w.asOf w.incomes t x
  rw [← incomes_nakitEkle w x, ← asOf_nakitEkle w x] at h
  exact h.trans (by rw [incomes_nakitEkle, asOf_nakitEkle])

theorem nakitEkle_asOf (w : WorldSnap) (asOf : MonthDay) (x : ℚ) :
    ({ w.nakitEkle x with asOf := asOf } : WorldSnap) = WorldSnap.nakitEkle { w with asOf := asOf } x := by
  have h := nakitEkle_mk w asOf w.incomes w.debts x
  rw [← incomes_nakitEkle w x, ← debts_nakitEkle w x] at h
  exact h.trans (by rw [incomes_nakitEkle, debts_nakitEkle])

theorem borcIsle_eq (w : WorldSnap) (i : ℕ) : borcIsle start stop w i =
    WorldSnap.nakitEkle { w with debts := w.debts.modify i (borcSonrasi start stop) }
      (((w.debts.get? i).map (borcFarki start stop)).getD 0) := by
  have hself (h : ∀ d, w.debts.get? i = some d → borcSonrasi start stop d = d) :
      w.debts.modify i (borcSonrasi start stop) = w.debts := by
    rw [Table.modify_congr h, Table.modify_self]
  cases hd : w.debts.get? i with
  | none =>
    rw [hself (fun d h => by rw [hd] at h; cases h), Option.map_none, Option.getD_none, nakitEkle_zero]
    simp only [borcIsle, hd]
  | some d =>
    rw [Option.map_some, Option.getD_some]
    by_cases hv : vadesiGelir start stop d = true
    · simp only [borcIsle, hd, if_pos hv, borcFarki]
      rw [debts_nakitEkle, nakitEkle_debts, Table.modify_congr (g := borcSonrasi start stop)]
      intro b hb
      rw [hd] at hb
      obtain rfl := Option.some.inj hb
      rw [borcSonrasi, if_pos hv]
    · simp only [borcIsle, hd, if_neg hv, borcFarki]
      rw [hself, nakitEkle_zero]
      intro b hb
      rw [hd] at hb
      obtain rfl := Option.some.inj hb
      rw [borcSonrasi, if_neg hv]

theorem foldl_borcIsle {l : List ℕ} (hl : l.Nodup) (w : WorldSnap) : l.foldl (borcIsle start stop) w =
    WorldSnap.nakitEkle { w with debts := l.foldl (fun t k => t.modify k (borcSonrasi start stop)) w.debts }
      ((l.map (fun k => ((w.debts.get? k).map (borcFarki start stop)).getD 0)).sum) := by
  induction l generalizing w with
  | nil => exact (nakitEkle_zero w).symm
  | cons k l ih =>
    rw [List.nodup_cons] at hl
    have hrest : l.map (fun j => (((w.debts.modify k (borcSonrasi start stop)).get? j).map
        (borcFarki start stop)).getD 0) = l.map (fun j => ((w.debts.get? j).map (borcFarki start stop)).getD 0) := by
      apply List.map_congr_left
      intro j hj
      have hne : j ≠ k := fun he => hl.1 (he ▸ hj)
      rw [Table.get?_modify, if_neg hne]
    rw [List.foldl_cons, ih hl.2, borcIsle_eq, debts_nakitEkle, nakitEkle_debts, hrest, nakitEkle_nakitEkle,
      List.foldl_cons, List.map_cons, List.sum_cons]

theorem foldl_borcIsle_keys (w : WorldSnap) : w.debts.keys.foldl (borcIsle start stop) w =
    w.borcTara (borcSonrasi start stop) (borcFarki start stop) := by
  have hnodup : w.debts.keys.Nodup := w.debts.nodup
  rw [foldl_borcIsle hnodup, Table.foldl_modify_keys, Table.sum_keys]
  rfl

/-- An account over a window, and what it moves on cash. -/
def hesapSonrasi (bas start stop : MonthDay) (a : AccountSnap) : AccountSnap :=
  kartSonrasi bas start stop (krediSonrasi start stop a)

def hesapFarki (bas start stop : MonthDay) (a : AccountSnap) : ℚ :=
  krediFarki start stop a + kartFarki bas start stop (krediSonrasi start stop a)

theorem nakitDisi_hesapSonrasi (bas start stop : MonthDay) : NakitDisi (hesapSonrasi bas start stop) :=
  (nakitDisi_tekrar kartAy_nakitDisi (asgariSayisi bas start stop)).comp
    (nakitDisi_tekrar krediAy_nakitDisi (taksitSayisi start stop))

theorem nakitsiz_hesapFarki (bas start stop : MonthDay) : NakitsizFark (hesapFarki bas start stop) := by
  intro a ha
  rw [hesapFarki, krediFarki, birikim_nakitsiz krediAy_nakitDisi krediNakit_nakitsiz _ a ha, zero_add]
  apply birikim_nakitsiz kartAy_nakitDisi kartNakit_nakitsiz
  rw [krediSonrasi, (krediAy_nakitDisi.iterate _).accountType]
  exact ha

/-- The projection at once. -/
theorem projectForward_eq (w : WorldSnap) (days : ℕ) : projectForward w days =
    { ((w.nakitEkle (gelirToplami w.asOf (w.asOf.addDays days) w.incomes)).hesapTara
        (hesapSonrasi w.asOf w.asOf (w.asOf.addDays days)) (hesapFarki w.asOf w.asOf (w.asOf.addDays days))).borcTara
        (borcSonrasi w.asOf (w.asOf.addDays days)) (borcFarki w.asOf (w.asOf.addDays days)) with
      asOf := w.asOf.addDays days } := by
  have hkredi (v : WorldSnap) (start stop : MonthDay) :
      v.accounts.keys.foldl (krediIsle start stop) v = v.hesapTara (krediSonrasi start stop) (krediFarki start stop) := by
    have hfun : krediIsle start stop = WorldSnap.hesapAdimi (krediSonrasi start stop) (krediFarki start stop) := by
      funext w k
      exact krediIsle_eq w k
    rw [hfun]
    exact foldl_hesapAdimi_keys (nakitDisi_tekrar krediAy_nakitDisi (taksitSayisi start stop))
      (nakitsiz_tekrar krediAy_nakitDisi krediNakit_nakitsiz (taksitSayisi start stop)) v
  have hkart (v : WorldSnap) (start stop : MonthDay) : v.accounts.keys.foldl (kartIsle start stop) v =
      v.hesapTara (kartSonrasi start start stop) (kartFarki start start stop) := by
    have hfun : kartIsle start stop =
        WorldSnap.hesapAdimi (kartSonrasi start start stop) (kartFarki start start stop) := by
      funext w k
      exact kartIsle_eq w k
    rw [hfun]
    exact foldl_hesapAdimi_keys (nakitDisi_tekrar kartAy_nakitDisi (asgariSayisi start start stop))
      (nakitsiz_tekrar kartAy_nakitDisi kartNakit_nakitsiz (asgariSayisi start start stop)) v
  have htara (v : WorldSnap) (start stop : MonthDay) :
      (v.hesapTara (krediSonrasi start stop) (krediFarki start stop)).hesapTara (kartSonrasi start start stop)
        (kartFarki start start stop) = v.hesapTara (hesapSonrasi start start stop) (hesapFarki start start stop) :=
    hesapTara_hesapTara (nakitDisi_tekrar kartAy_nakitDisi (asgariSayisi start start stop))
      (nakitsiz_tekrar kartAy_nakitDisi kartNakit_nakitsiz (asgariSayisi start start stop)) v
  have hborc (v : WorldSnap) (start stop : MonthDay) : v.debts.keys.foldl (borcIsle start stop) v =
      v.borcTara (borcSonrasi start stop) (borcFarki start stop) := foldl_borcIsle_keys v
  rw [← htara, ← hkart, ← hkredi, ← hborc, ← foldl_gelirIsle]
  rfl

/-- The projection as one movement on cash over rewritten accounts and debts. -/
theorem projectForward_normal (w : WorldSnap) (days : ℕ) : projectForward w days =
    WorldSnap.nakitEkle ⟨w.asOf.addDays days,
      w.accounts.mapRows (hesapSonrasi w.asOf w.asOf (w.asOf.addDays days)), w.incomes,
      w.debts.mapRows (borcSonrasi w.asOf (w.asOf.addDays days))⟩
      (gelirToplami w.asOf (w.asOf.addDays days) w.incomes +
        w.accounts.total (hesapFarki w.asOf w.asOf (w.asOf.addDays days)) +
        w.debts.total (borcFarki w.asOf (w.asOf.addDays days))) := by
  have hf := nakitDisi_hesapSonrasi w.asOf w.asOf (w.asOf.addDays days)
  have hd := nakitsiz_hesapFarki w.asOf w.asOf (w.asOf.addDays days)
  rw [projectForward_eq, hesapTara_nakitEkle hf hd, WorldSnap.borcTara, WorldSnap.hesapTara, nakitEkle_nakitEkle,
    debts_nakitEkle, nakitEkle_debts, nakitEkle_nakitEkle, nakitEkle_asOf]
  congr 1
  ring

end Phases

end FinancialOs.Rules
