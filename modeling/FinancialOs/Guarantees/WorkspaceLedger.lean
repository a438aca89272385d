import FinancialOs.Guarantees.TransactionLedger

/-! The ledger when every panel request has a workspace, as in production: a
transaction then stays in the workspace of its account, so the panel always finds both. -/
namespace FinancialOs.Guarantees
open Library Store Rules Executor Routers

/-- A transaction lies in the workspace of its account. -/
def AyniKapsam (db : Db) (txn : Transaction) : Prop :=
  ∀ k a, txn.accountId = some k → db.accounts.get? k = some a → txn.workspaceId = a.workspaceId

def KapsamTutarli (db : Db) : Prop := ∀ id txn, db.transactions.get? id = some txn → AyniKapsam db txn

private theorem ayniKapsam_bakiyeEkle {db : Db} {txn : Transaction} (h : AyniKapsam db txn) (id : ℕ)
    (q : ℚ) : AyniKapsam (db.write (bakiyeEkle id q)) txn := by
  intro k a hk ha
  rw [accounts_bakiyeEkle] at ha
  obtain ⟨b, hb, rfl⟩ := Option.map_eq_some_iff.mp ha
  rw [h k b hk hb]
  split <;> rfl

private theorem kapsam_bakiyeEkle {db : Db} (h : KapsamTutarli db) (id : ℕ) (q : ℚ) :
    KapsamTutarli (db.write (bakiyeEkle id q)) :=
  fun j txn hj => ayniKapsam_bakiyeEkle (h j txn hj) id q

private theorem kapsam_etkiYaz {d : Db} (h : KapsamTutarli d) (db : Db) (istek : Istek)
    (txn : Transaction) (reverse : Bool) : KapsamTutarli (d.writeAll (etkiYaz db istek txn reverse)) := by
  unfold etkiYaz
  cases bagliHesap db istek txn with
  | none => exact h
  | some g => exact kapsam_bakiyeEkle h g.1 _

private theorem ayniKapsam_etkiYaz {d : Db} {t : Transaction} (h : AyniKapsam d t) (db : Db)
    (istek : Istek) (txn : Transaction) (reverse : Bool) :
    AyniKapsam (d.writeAll (etkiYaz db istek txn reverse)) t := by
  unfold etkiYaz
  cases bagliHesap db istek txn with
  | none => exact h
  | some g => exact ayniKapsam_bakiyeEkle h g.1 _

private theorem kapsam_insert {db : Db} (h : KapsamTutarli db) {txn : Transaction}
    (ht : AyniKapsam db txn) : KapsamTutarli (db.write (.transaction (.insert txn))) := by
  intro j t hj
  simp only [Db.write, Table.change, Table.get?_push] at hj
  split at hj
  · obtain rfl := Option.some.inj hj
    exact ht
  · exact h j t hj

private theorem kapsam_update {db : Db} (h : KapsamTutarli db) (id : ℕ) {txn : Transaction}
    (ht : AyniKapsam db txn) : KapsamTutarli (db.write (.transaction (.update id (fun _ => txn)))) := by
  intro j t hj
  simp only [Db.write, Table.change, Table.get?_modify] at hj
  split at hj
  · obtain ⟨_, _, rfl⟩ := Option.map_eq_some_iff.mp hj
    exact ht
  · exact h j t hj

private theorem kapsam_delete {db : Db} (h : KapsamTutarli db) (id : ℕ) :
    KapsamTutarli (db.write (.transaction (.delete id))) := by
  intro j t hj
  simp only [Db.write, Table.change, Table.get?_erase] at hj
  split at hj
  · cases hj
  · exact h j t hj

/-- What a request with a workspace sees lies in that workspace. -/
private theorem ayniKapsam_of_bagli {db : Db} {istek : Istek} {w : ℕ} {txn : Transaction} {g : ℕ × Account}
    (hw : istek.wsId = some w) (hb : bagliHesap db istek txn = some g) (ht : txn.workspaceId = some w) :
    AyniKapsam db txn := by
  obtain ⟨hid, hget, hscope⟩ := bagliHesap_some.mp hb
  intro k a hk ha
  obtain rfl : g.1 = k := by simpa [hid] using hk
  obtain rfl : g.2 = a := by simpa [hget] using ha
  rw [hw] at hscope
  rw [ht]
  exact (of_decide_eq_true hscope).symm

/-- The coach writes a transaction into the workspace of its account, active or not. -/
private theorem ayniKapsam_of_entry {o : Ortam} {p : Payload} {hesap : Option (ℕ × Account)}
    {txn : Transaction} (h : TransactionEntry o p hesap txn) : AyniKapsam o.db txn := by
  have hsak := h.saklanan
  intro k a hk ha
  cases hesap with
  | none =>
    have hk0 : k = 0 := by
      simp only [saklananHesap, hk] at hsak
      cases hv : p.get .accountId <;> rw [hv] at hsak <;> cases hsak <;> rfl
    rw [hk0, Table.get?_zero] at ha
    cases ha
  | some g =>
    obtain ⟨_, hname, _⟩ := islemHesabi_some.mp h.secim
    obtain ⟨_, hget, hscope⟩ := findById_eq_some.mp hname
    simp only [saklananHesap, Except.ok.injEq] at hsak
    obtain rfl : g.1 = k := by simpa [hk] using hsak
    obtain rfl : g.2 = a := by simpa [hget] using ha
    rw [h.kapsam, Option.bind_some]
    unfold Ortam.kapsam yazmaWorkspaceId at hscope ⊢
    cases haktif : o.aktif with
    | some w =>
      simp only [haktif] at hscope ⊢
      exact (of_decide_eq_true hscope).symm
    | none =>
      simp only [haktif] at hscope ⊢
      cases hp : personalWorkspace o.db o.userId with
      | some w =>
        rw [hp] at hscope
        have : g.2.workspaceId = some w := of_decide_eq_true hscope
        rw [this]
      | none => cases g.2.workspaceId <;> rfl

/-- A panel operation of a request that has a workspace. -/
def Kapsamli : LedgerIslemi → Prop
  | .olustur istek _ => istek.wsId ≠ none
  | .guncelle istek _ _ => istek.wsId ≠ none
  | .sil istek _ _ => istek.wsId ≠ none
  | .oner _ => True
  | .onayla _ _ _ => True

private theorem found_workspace {db : Db} {istek : Istek} {w : ℕ} {v : PyValue} {id : ℕ} {txn : Transaction}
    (hw : istek.wsId = some w)
    (hf : findById db.transactions istek.userId istek.wsId v = .ok (some (id, txn))) :
    txn.workspaceId = some w := by
  obtain ⟨_, _, hscope⟩ := findById_eq_some.mp hf
  rw [hw] at hscope
  exact of_decide_eq_true hscope

private theorem gorunur_of_kapsam {db : Db} {istek : Istek} {w : ℕ} {txn : Transaction}
    (hw : istek.wsId = some w) (ht : txn.workspaceId = some w) (h : AyniKapsam db txn) :
    Gorunur db istek txn := by
  intro k a hk ha
  have := h k a hk ha
  rw [hw]
  exact decide_eq_true (this.symm.trans ht)

private theorem kapsam_congr {d e : Db} (h : Defter.oku d = Defter.oku e) (he : KapsamTutarli e) :
    KapsamTutarli d := by
  have ha : d.accounts = e.accounts := congrArg Defter.accounts h
  have ht : d.transactions = e.transactions := congrArg Defter.transactions h
  unfold KapsamTutarli AyniKapsam
  rw [ha, ht]
  exact he

private theorem ayniKapsam_write {db : Db} {w : Write} (hw : HandlerWrite w) {txn : Transaction}
    (h : AyniKapsam db txn) : AyniKapsam (db.write w) txn := by
  intro k a hk ha
  have hrow := accounts_row (by simpa using hw : ∀ x ∈ [w], HandlerWrite x) db k
  rw [writeAll_cons, writeAll_nil, ha] at hrow
  obtain ⟨b, hb, rfl⟩ := Option.map_eq_some_iff.mp hrow.symm
  rw [(foldl_sameIdentity (by simpa using hw : ∀ x ∈ [w], HandlerWrite x) k b).workspaceId]
  exact h k b hk hb

/-- Handler writes keep the scopes, when the transactions among them are booked in scope. -/
private theorem kapsam_handler {ws : List Write} (hws : ∀ w ∈ ws, HandlerWrite w) {db : Db}
    (h : KapsamTutarli db) (ht : ∀ t, .transaction (.insert t) ∈ ws → AyniKapsam db t) :
    KapsamTutarli (db.writeAll ws) := by
  induction ws generalizing db with
  | nil => exact h
  | cons w ws ih =>
    have hw := hws w List.mem_cons_self
    refine ih (fun x hx => hws x (List.mem_cons_of_mem _ hx)) ?_
      fun t hm => ayniKapsam_write hw (ht t (List.mem_cons_of_mem _ hm))
    cases hw with
    | transaction t => exact kapsam_insert h (ht t List.mem_cons_self)
    | account id f hf => exact fun j txn hj => ayniKapsam_write (.account id f hf) (h j txn hj)
    | debt id f hf => exact h
    | checkpoint c => exact h

private theorem kapsam_accepted {o : Ortam} {p : Payload} {t : ActionType} {ws : List Write}
    (h : KapsamTutarli o.db) (hacc : Accepted o p t ws) : KapsamTutarli (o.db.writeAll ws) := by
  refine kapsam_handler hacc.writes h fun txn hm => ?_
  cases hacc with
  | islem hesap booked hentry =>
    rcases List.mem_cons.mp hm with he | hm
    · cases he
      exact ayniKapsam_of_entry hentry
    · obtain ⟨b, _, hb⟩ := Option.map_eq_some_iff.mp (Option.mem_toList.mp hm)
      cases hb
  | borc id d tarih hp =>
    rcases List.mem_cons.mp hm with he | hm
    · cases he
    · obtain ⟨_, _, hb⟩ := mem_ayakYazimlari hm
      cases hb
  | _ => simp [bakiyeYaz, bakiyeEkle, satisYaz, fiyatYaz] at hm

/-- Requests with a workspace keep every transaction in the workspace of its account. -/
theorem kapsam_adim {bugun : ℕ → Date} {db : Db} {islem : LedgerIslemi} (h : KapsamTutarli db)
    (hk : Kapsamli islem) : KapsamTutarli (ledgerAdimi bugun db islem) := by
  cases islem with
  | olustur istek payload =>
    rcases sonuc_cases db (createTransaction db istek payload) with he | ⟨ws, hws, he, _⟩
    · rw [ledgerAdimi, he]
      exact h
    · obtain ⟨yeni, hy, rfl⟩ := createTransaction_ok hws
      obtain ⟨hget, hscope, hid, _, _, hws', _⟩ := yeniIslem_ok hy
      obtain ⟨w, hw⟩ := Option.ne_none_iff_exists'.mp hk
      have ht : AyniKapsam db yeni.txn :=
        ayniKapsam_of_bagli hw (bagliHesap_some.mpr ⟨hid, hget, hscope⟩) (hws'.trans hw)
      rw [ledgerAdimi, he, writeAll_cons]
      split
      · exact kapsam_bakiyeEkle (kapsam_insert h ht) _ _
      · exact kapsam_insert h ht
  | guncelle istek txnId payload =>
    rcases sonuc_cases db (updateTransaction db istek txnId payload) with he | ⟨ws, hws, he, _⟩
    · rw [ledgerAdimi, he]
      exact h
    · obtain ⟨id, eski, yeni, hf, hy, rfl⟩ := updateTransaction_ok hws
      obtain ⟨w, hw⟩ := Option.ne_none_iff_exists'.mp hk
      obtain ⟨_, hkeep, hmove⟩ := guncelIslem_ok hy
      have hyeni : AyniKapsam db yeni := by
        rcases hmove with hsame | hnone | ⟨g, hg⟩
        · intro k a hj ha
          rw [hkeep]
          exact h id eski (findById_eq_some.mp hf).2.1 k a (hsame ▸ hj) ha
        · intro k a hj
          rw [hnone] at hj
          cases hj
        · exact ayniKapsam_of_bagli hw hg (hkeep.trans (found_workspace hw hf))
      rw [ledgerAdimi, he]
      split
      · rw [writeAll_append, writeAll_cons]
        exact kapsam_etkiYaz (kapsam_update (kapsam_etkiYaz h _ _ _ _) id
          (ayniKapsam_etkiYaz hyeni _ _ _ _)) _ _ _ _
      · exact kapsam_update h id hyeni
  | sil istek txnId autoRevert =>
    rcases sonuc_cases db (deleteTransaction db istek txnId autoRevert) with he | ⟨ws, hws, he, _⟩
    · rw [ledgerAdimi, he]
      exact h
    · obtain ⟨id, txn, _, rfl⟩ := deleteTransaction_ok.mp hws
      rw [ledgerAdimi, he, writeAll_append]
      split
      · exact kapsam_delete (kapsam_etkiYaz h _ _ _ _) id
      · exact kapsam_delete h id
  | oner pending => exact h
  | onayla ariza actionId userId =>
    have hP : KapsamTutarli (executePendingAction ariza bugun db actionId userId).2 := by
      rcases execute_cases ariza bugun db actionId userId with
        ⟨_, _, hd⟩ | ⟨pending, p, ws, _, happ, hd, _⟩
      · exact kapsam_congr hd h
      · obtain ⟨_, hacc, _⟩ := applies_iff_accepted.mp happ
        exact kapsam_congr hd (kapsam_accepted (o := ortam bugun db pending userId) h hacc)
    exact hP

/-- In a run of requests with workspaces only the coach's sign rule can break the ledger. -/
theorem sapma_only_by_coach {bugun : ℕ → Date} {db : Db} {islem : LedgerIslemi} (h : KapsamTutarli db)
    (hk : Kapsamli islem) (hs : Sapma bugun db islem) : ∃ ariza actionId userId, islem = .onayla ariza actionId userId := by
  cases islem with
  | olustur istek payload => exact hs.elim
  | guncelle istek txnId payload =>
    obtain ⟨id, txn, hf, hn⟩ := hs
    obtain ⟨w, hw⟩ := Option.ne_none_iff_exists'.mp hk
    exact absurd (gorunur_of_kapsam hw (found_workspace hw hf) (h id txn (findById_eq_some.mp hf).2.1)) hn
  | sil istek txnId autoRevert =>
    obtain ⟨id, txn, hf, hn⟩ := hs
    obtain ⟨w, hw⟩ := Option.ne_none_iff_exists'.mp hk
    exact absurd (gorunur_of_kapsam hw (found_workspace hw hf) (h id txn (findById_eq_some.mp hf).2.1)) hn
  | oner pending => exact hs.elim
  | onayla ariza actionId userId => exact ⟨ariza, actionId, userId, rfl⟩

/-- When every panel request has a workspace, only bookings of the coach need a condition. -/
theorem ledger_kept_in_workspaces (bugun : ℕ → Date) (db : Db) (islemler : List LedgerIslemi)
    (hbos : db.transactions = .empty)
    (hadim : StepsMeet (ledgerAdimi bugun) (fun d islem => (Otomatik d islem ∧ Kapsamli islem) ∧
      ∀ ariza actionId userId, islem = .onayla ariza actionId userId → ¬ Sapma bugun d islem) db islemler) :
    Denge (bakiyeOku db) (run (ledgerAdimi bugun) db islemler) := by
  have hstart : KapsamTutarli db := by
    intro id txn hg
    rw [hbos, Table.get?_empty] at hg
    cases hg
  refine ledger_kept bugun db islemler hbos ?_
  refine stepsMeet_of_invariant (fun d islem hd hc => kapsam_adim hd hc.1.2) (fun d islem hd hc => ?_)
    hstart hadim
  refine ⟨hc.1.1, fun hs => ?_⟩
  obtain ⟨ariza, actionId, userId, hi⟩ := sapma_only_by_coach hd hc.1.2 hs
  exact hc.2 ariza actionId userId hi hs

end FinancialOs.Guarantees
