import FinancialOs.Guarantees.LedgerGap
import FinancialOs.Library.TransitionRuns

/-! Deleting a transaction against never having created it. Creations read the
accounts but not their balances, so two runs that differ by one creation stay in step. -/
namespace FinancialOs.Guarantees
open Library Store Rules Executor Routers

/-- A creation: by the panel, or by the coach's handler for an action being executed. -/
inductive Olusturma where
  | panel (istek : Istek) (payload : TransactionCreate)
  | koc (aktif : Option ℕ) (userId : ℕ) (bugun : Date) (payload : Payload)

/-- The rows a creation writes, unless it is refused. -/
def Olusturma.yazimlar (db : Db) : Olusturma → Option (List Write)
  | .panel istek payload => (createTransaction db istek payload).toOption
  | .koc aktif userId bugun payload =>
    (executeAddTransaction ⟨db, aktif, userId, bugun⟩ payload).toOption.map Islem.writes

def olusturAdimi (db : Db) (c : Olusturma) : Db :=
  match c.yazimlar db with
  | some ws => (commit db ws).toOption.getD db
  | none => db

/-- A creation that goes through. -/
def Olusur (db : Db) (c : Olusturma) (db' : Db) : Prop := ∃ ws, c.yazimlar db = some ws ∧ commit db ws = .ok db'

/-- The same accounts up to their balances, which differ by given amounts. -/
structure Benzer (fark : ℕ → ℚ) (d e : Db) : Prop where
  hesaplar : ∀ k, d.accounts.get? k =
    (e.accounts.get? k).map (fun a => { a with balance := a.balance + fark k })
  calismaAlanlari : d.workspaces = e.workspaces

section Similar
variable {fark : ℕ → ℚ} {d e : Db}

theorem Benzer.refl (d : Db) : Benzer (fun _ => 0) d d := by
  refine ⟨fun k => ?_, rfl⟩
  cases d.accounts.get? k <;> simp

theorem Benzer.symm (h : Benzer fark d e) : Benzer (fun k => -fark k) e d := by
  refine ⟨fun k => ?_, h.calismaAlanlari.symm⟩
  rw [h.hesaplar k]
  cases e.accounts.get? k <;> simp

theorem Benzer.trans {gark : ℕ → ℚ} {f : Db} (h : Benzer fark d e) (g : Benzer gark e f) :
    Benzer (fun k => gark k + fark k) d f := by
  refine ⟨fun k => ?_, h.calismaAlanlari.trans g.calismaAlanlari⟩
  rw [h.hesaplar k, g.hesaplar k]
  cases f.accounts.get? k <;> simp [add_assoc]

theorem Benzer.bakiye (h : Benzer fark d e) (k : ℕ) :
    bakiyeOku d k = bakiyeOku e k + if (e.accounts.get? k).isSome then fark k else 0 := by
  unfold bakiyeOku
  rw [h.hesaplar k]
  cases e.accounts.get? k <;> simp

theorem Benzer.isSome (h : Benzer fark d e) (k : ℕ) :
    (d.accounts.get? k).isSome = (e.accounts.get? k).isSome := by
  rw [h.hesaplar k, Option.isSome_map]

/-- A leg applied on top of one state and not of the other. -/
theorem Benzer.tekTaraf (h : Benzer fark d e) (id : ℕ) (q : ℚ) :
    Benzer (fun k => fark k + if k = id then q else 0) (d.write (bakiyeEkle id q)) e := by
  refine ⟨fun k => ?_, h.calismaAlanlari⟩
  rw [accounts_bakiyeEkle, h.hesaplar k]
  cases e.accounts.get? k with
  | none => rfl
  | some a => by_cases hk : k = id <;> simp [hk, add_assoc]

theorem Benzer.islem (h : Benzer fark d e) (c : Table.Change Transaction) :
    Benzer fark (d.write (.transaction c)) e := ⟨h.hesaplar, h.calismaAlanlari⟩

/-- The same leg applied on both sides. -/
theorem Benzer.ikiTaraf (h : Benzer fark d e) (id : ℕ) (q : ℚ) :
    Benzer fark (d.write (bakiyeEkle id q)) (e.write (bakiyeEkle id q)) := by
  refine ⟨fun k => ?_, h.calismaAlanlari⟩
  rw [accounts_bakiyeEkle, accounts_bakiyeEkle, h.hesaplar k]
  cases e.accounts.get? k with
  | none => rfl
  | some a =>
    by_cases hk : k = id
    · simp [hk, add_right_comm]
    · simp [hk]

/-- A lookup finds the same row on both sides, up to its balance. -/
theorem Benzer.bul (h : Benzer fark d e) {userId : ℕ} {w : Option ℕ} {v : PyValue} {g : ℕ × Account}
    (hf : findById e.accounts userId w v = .ok (some g)) :
    findById d.accounts userId w v =
      .ok (some (g.1, { g.2 with balance := g.2.balance + fark g.1 })) := by
  obtain ⟨hk, hg, hs⟩ := findById_eq_some.mp hf
  refine findById_eq_some.mpr ⟨hk, ?_, ?_⟩
  · rw [h.hesaplar, hg]
    rfl
  · rw [← hs]
    cases w <;> rfl

theorem Benzer.varsayilan (h : Benzer fark d e) (userId : ℕ) (w : Option ℕ) (tip : AccountType) :
    (varsayilanHesap d userId w tip).map Prod.fst = (varsayilanHesap e userId w tip).map Prod.fst := by
  apply Table.first?_key_congr
  intro k
  rw [h.hesaplar k]
  cases e.accounts.get? k with
  | none => simp
  | some a =>
    simp only [Option.map_some, Option.some.injEq, exists_eq_left']
    cases w <;> rfl

theorem Benzer.kapsam (h : Benzer fark d e) (aktif : Option ℕ) (userId : ℕ) (kaynak : Option ℕ) :
    yazmaWorkspaceId d aktif userId kaynak = yazmaWorkspaceId e aktif userId kaynak := by
  unfold yazmaWorkspaceId personalWorkspace
  rw [h.calismaAlanlari]

/-- The panel books the same transaction and the same leg on both sides. -/
theorem Benzer.yeniIslem (h : Benzer fark d e) {istek : Istek} {payload : TransactionCreate}
    {yeni : YeniIslem} (hy : yeniIslem e istek payload = .ok yeni) :
    Routers.yeniIslem d istek payload = .ok { yeni with
      hesap := (yeni.hesap.1, { yeni.hesap.2 with balance := yeni.hesap.2.balance + fark yeni.hesap.1 }) } := by
  have hsec : ∀ data, hesapSecimi d istek data = hesapSecimi e istek data := by
    intro data
    have hv := h.varsayilan istek.userId istek.wsId
      (if data.isCardExpense.getD false then .creditCard else .cash)
    have hcast := congrArg (Option.map (fun k : ℕ => (k : ℤ))) hv
    rw [Option.map_map, Option.map_map] at hcast
    unfold hesapSecimi
    cases data.accountId.filter (· ≠ 0) with
    | some id => rfl
    | none => exact hcast
  simp only [Routers.yeniIslem, bind_eq_ok, stopIf_eq_ok, require_eq_ok, within_eq_ok, pure_eq_ok,
    exists_and_left, exists_const] at hy ⊢
  obtain ⟨huygun, dolu, hdolu, tip, htip, amount, hamount, hpos, id, hid, _, hf, hesap, rfl, rfl⟩ := hy
  exact ⟨huygun, dolu, hdolu, tip, htip, amount, hamount, hpos, id, (hsec _).trans hid, _, h.bul hf, _,
    rfl, rfl⟩

/-- The coach books the same transaction on both sides. -/
theorem Benzer.entry (h : Benzer fark d e) {aktif : Option ℕ} {userId : ℕ} {bugun : Date} {p : Payload}
    {hesap : Option (ℕ × Account)} {txn : Transaction}
    (ht : TransactionEntry ⟨e, aktif, userId, bugun⟩ p hesap txn) :
    TransactionEntry ⟨d, aktif, userId, bugun⟩ p
      (hesap.map (fun g => (g.1, { g.2 with balance := g.2.balance + fark g.1 }))) txn := by
  have hkapsam : ∀ kaynak, Ortam.kapsam ⟨d, aktif, userId, bugun⟩ kaynak =
      Ortam.kapsam ⟨e, aktif, userId, bugun⟩ kaynak := h.kapsam aktif userId
  refine ⟨ht.tip, ht.tutar, ht.pozitif, ?_, ?_, ht.sahip, ?_, ht.tarih, ht.kategori, ht.aciklama, ht.kart⟩
  · have hsec := ht.secim
    cases hesap with
    | some g =>
      obtain ⟨htruthy, hname, hemanet⟩ := islemHesabi_some.mp hsec
      refine islemHesabi_some.mpr ⟨htruthy, ?_, hemanet⟩
      unfold Names at hname ⊢
      rw [hkapsam]
      exact h.bul hname
    | none =>
      exact islemHesabi_none.mpr (islemHesabi_none.mp hsec)
  · have hsak := ht.saklanan
    cases hesap <;> exact hsak
  · rw [hkapsam, ht.kapsam]
    cases hesap <;> rfl

end Similar

/-- The rows of one booking: the transaction and, if balances follow, its leg. -/
def kayitYazimlari (txn : Transaction) (ayak : Option (ℕ × ℚ)) : List Write :=
  .transaction (.insert txn) :: (ayak.map (fun b => bakiyeEkle b.1 b.2)).toList

def panelAyagi (yeni : YeniIslem) : Option (ℕ × ℚ) :=
  if yeni.otomatik then
    some (yeni.hesap.1, balanceDelta yeni.hesap.2.accountType yeni.txn.transactionType yeni.txn.amount)
  else none

theorem yazimlar_panel {db : Db} {istek : Istek} {payload : TransactionCreate} {ws : List Write} :
    (Olusturma.panel istek payload).yazimlar db = some ws ↔
      ∃ yeni, yeniIslem db istek payload = .ok yeni ∧ ws = kayitYazimlari yeni.txn (panelAyagi yeni) := by
  simp only [Olusturma.yazimlar, createTransaction]
  cases yeniIslem db istek payload with
  | error e => simp [bind, Except.bind, Except.toOption]
  | ok yeni =>
    simp only [bind, Except.bind, pure, Except.pure, Except.toOption, Option.some.injEq, Except.ok.injEq,
      exists_eq_left', kayitYazimlari, panelAyagi]
    cases yeni.otomatik <;> simp [applyToBalance, eq_comm]

theorem yazimlar_koc {db : Db} {aktif : Option ℕ} {userId : ℕ} {bugun : Date} {p : Payload}
    {ws : List Write} :
    (Olusturma.koc aktif userId bugun p).yazimlar db = some ws ↔
      ∃ hesap txn, TransactionEntry ⟨db, aktif, userId, bugun⟩ p hesap txn ∧
        ws = kayitYazimlari txn (bakiyeBacagi p hesap txn.transactionType txn.amount) := by
  have hc : Commits (executeAddTransaction ⟨db, aktif, userId, bugun⟩ p) ws ↔ _ := addTransaction_commits
  unfold Commits at hc
  simp only [Olusturma.yazimlar, kayitYazimlari]
  rw [← hc]
  cases executeAddTransaction ⟨db, aktif, userId, bugun⟩ p <;> simp [Except.toOption]

section Step
variable {fark : ℕ → ℚ} {d e : Db}

theorem Benzer.yazimlar (h : Benzer fark d e) {c : Olusturma} {ws : List Write}
    (hc : c.yazimlar e = some ws) : c.yazimlar d = some ws := by
  cases c with
  | panel istek payload =>
    obtain ⟨yeni, hy, rfl⟩ := yazimlar_panel.mp hc
    exact yazimlar_panel.mpr ⟨_, h.yeniIslem hy, rfl⟩
  | koc aktif userId bugun p =>
    obtain ⟨hesap, txn, ht, rfl⟩ := yazimlar_koc.mp hc
    refine yazimlar_koc.mpr ⟨_, txn, h.entry ht, ?_⟩
    cases hesap <;> rfl

theorem Benzer.kayit (h : Benzer fark d e) (txn : Transaction) (ayak : Option (ℕ × ℚ)) :
    Benzer fark (d.writeAll (kayitYazimlari txn ayak)) (e.writeAll (kayitYazimlari txn ayak)) := by
  have hi : Benzer fark (d.write (.transaction (.insert txn))) (e.write (.transaction (.insert txn))) :=
    ⟨h.hesaplar, h.calismaAlanlari⟩
  cases ayak with
  | none => exact hi
  | some b => exact hi.ikiTaraf b.1 b.2

/-- The flush check of a booking does not look at balances. -/
theorem Benzer.flush (h : Benzer fark d e) {txn : Transaction} {ayak : Option (ℕ × ℚ)} {w : Write}
    (hw : w ∈ kayitYazimlari txn ayak) (hf : flushOncesi e w = .ok ()) : flushOncesi d w = .ok () := by
  rcases List.mem_cons.mp hw with rfl | hw
  · simp only [flushOncesi, checkChange, hesapVar] at hf ⊢
    cases htxn : txn.accountId with
    | none => rfl
    | some k =>
      rw [htxn] at hf
      dsimp only at hf ⊢
      rw [h.isSome k]
      exact hf
  · obtain ⟨b, _, rfl⟩ := Option.map_eq_some_iff.mp (Option.mem_toList.mp hw)
    simp only [bakiyeEkle, flushOncesi, checkChange] at hf ⊢
    rw [h.hesaplar]
    cases ha : e.accounts.get? b.1 with
    | none => rfl
    | some a =>
      rw [ha] at hf
      exact denetleHesap_ok.mpr (denetleHesap_ok.mp hf)

/-- The writes of a creation are one booking. -/
theorem yazimlar_kayit {db : Db} {c : Olusturma} {ws : List Write} (h : c.yazimlar db = some ws) :
    ∃ txn ayak, ws = kayitYazimlari txn ayak := by
  cases c with
  | panel istek payload =>
    obtain ⟨yeni, _, rfl⟩ := yazimlar_panel.mp h
    exact ⟨_, _, rfl⟩
  | koc aktif userId bugun p =>
    obtain ⟨_, txn, _, rfl⟩ := yazimlar_koc.mp h
    exact ⟨_, _, rfl⟩

theorem Benzer.olusur (h : Benzer fark d e) {c : Olusturma} {e' : Db} (hc : Olusur e c e') :
    ∃ d', Olusur d c d' ∧ Benzer fark d' e' := by
  obtain ⟨ws, hws, hcommit⟩ := hc
  obtain ⟨txn, ayak, rfl⟩ := yazimlar_kayit hws
  obtain ⟨rfl, hflush⟩ := commit_ok.mp hcommit
  have hafter := h.kayit txn ayak
  exact ⟨_, ⟨_, h.yazimlar hws, commit_ok.mpr ⟨rfl, fun w hw => hafter.flush hw (hflush w hw)⟩⟩, hafter⟩

theorem olusturAdimi_olusur {c : Olusturma} {d' : Db} (h : Olusur d c d') : olusturAdimi d c = d' := by
  obtain ⟨ws, hws, hc⟩ := h
  simp only [olusturAdimi, hws, hc]
  rfl

theorem olusturAdimi_red {c : Olusturma} (h : ¬ ∃ d', Olusur d c d') : olusturAdimi d c = d := by
  unfold olusturAdimi
  cases hws : c.yazimlar d with
  | none => rfl
  | some ws =>
    cases hc : commit d ws with
    | error x => simp only [hc, Except.toOption, Option.getD_none]
    | ok d' => exact absurd ⟨d', ws, hws, hc⟩ h

/-- Runs of creations stay in step: what goes through on one side goes through on the other. -/
theorem Benzer.adim (h : Benzer fark d e) (c : Olusturma) :
    Benzer fark (olusturAdimi d c) (olusturAdimi e c) := by
  by_cases he : ∃ e', Olusur e c e'
  · obtain ⟨e', he⟩ := he
    obtain ⟨d', hd, hb⟩ := h.olusur he
    rw [olusturAdimi_olusur he, olusturAdimi_olusur hd]
    exact hb
  · have hd : ¬ ∃ d', Olusur d c d' := by
      rintro ⟨d', hd⟩
      obtain ⟨e', he', _⟩ := h.symm.olusur hd
      exact he ⟨e', he'⟩
    rw [olusturAdimi_red he, olusturAdimi_red hd]
    exact h

theorem Benzer.run (h : Benzer fark d e) (cs : List Olusturma) :
    Benzer fark (Library.run olusturAdimi d cs) (Library.run olusturAdimi e cs) := by
  induction cs generalizing d e with
  | nil => exact h
  | cons c cs ih => exact ih (h.adim c)

/-- A booking changes balances only, besides adding its transaction. -/
theorem benzer_kayit (db : Db) (txn : Transaction) (ayak : Option (ℕ × ℚ)) :
    Benzer (fun k => (ayak.map (fun b => if k = b.1 then b.2 else 0)).getD 0)
      (db.writeAll (kayitYazimlari txn ayak)) db := by
  have hi : Benzer (fun _ => 0) (db.write (.transaction (.insert txn))) db :=
    (Benzer.refl db).islem (.insert txn)
  cases ayak with
  | none => exact hi
  | some b => simpa [kayitYazimlari] using hi.tekTaraf b.1 b.2

theorem benzer_run (db : Db) (cs : List Olusturma) :
    ∃ fark, Benzer fark (Library.run olusturAdimi db cs) db := by
  induction cs generalizing db with
  | nil => exact ⟨_, Benzer.refl db⟩
  | cons c cs ih =>
    obtain ⟨fark, hrest⟩ := ih (olusturAdimi db c)
    by_cases hc : ∃ db', Olusur db c db'
    · obtain ⟨db', ws, hws, hcommit⟩ := hc
      obtain ⟨txn, ayak, rfl⟩ := yazimlar_kayit hws
      rw [olusturAdimi_olusur ⟨_, hws, hcommit⟩] at hrest
      obtain ⟨rfl, _⟩ := commit_ok.mp hcommit
      rw [run_cons, olusturAdimi_olusur ⟨_, hws, hcommit⟩]
      exact ⟨_, hrest.trans (benzer_kayit db txn ayak)⟩
    · rw [olusturAdimi_red hc] at hrest
      rw [run_cons, olusturAdimi_red hc]
      exact ⟨fark, hrest⟩

/-- No creation touches a transaction that is already booked. -/
theorem adim_keeps_transaction {db : Db} {id : ℕ} {txn : Transaction}
    (h : db.transactions.get? id = some txn) (c : Olusturma) :
    (olusturAdimi db c).transactions.get? id = some txn := by
  by_cases hc : ∃ db', Olusur db c db'
  · obtain ⟨db', ws, hws, hcommit⟩ := hc
    rw [olusturAdimi_olusur ⟨ws, hws, hcommit⟩]
    obtain ⟨booked, ayak, rfl⟩ := yazimlar_kayit hws
    obtain ⟨rfl, _⟩ := commit_ok.mp hcommit
    have hne : id ≠ db.transactions.freshKey := by
      rintro rfl
      rw [Table.get?_freshKey] at h
      cases h
    have hrow : (db.write (.transaction (.insert booked))).transactions.get? id = some txn := by
      simp [Db.write, Table.change, hne, h]
    cases ayak <;> exact hrow
  · rw [olusturAdimi_red hc]
    exact h

theorem run_keeps_transaction {db : Db} {id : ℕ} {txn : Transaction}
    (h : db.transactions.get? id = some txn) (cs : List Olusturma) :
    (Library.run olusturAdimi db cs).transactions.get? id = some txn := by
  induction cs generalizing db with
  | nil => exact h
  | cons c cs ih => exact ih (adim_keeps_transaction h c)

end Step

/-- The flag that asks for a balance update at creation. -/
def Olusturma.otomatik : Olusturma → Bool
  | .panel _ payload => payload.autoUpdateBalance.getD true
  | .koc _ _ _ p => (p.get .autoUpdateBalance).truthy

/-- The sign rule of the path that creates. -/
def Olusturma.delta : Olusturma → AccountType → TransactionType → ℚ → ℚ
  | .panel _ _ => balanceDelta
  | .koc _ _ _ _ => kocDelta

/-- The transaction a creation books and the account it names. -/
def Kaydeder (db : Db) (txn : Transaction) (hesap : Option (ℕ × Account)) : Olusturma → Prop
  | .panel istek payload => ∃ yeni, yeniIslem db istek payload = .ok yeni ∧ txn = yeni.txn ∧
      hesap = some yeni.hesap
  | .koc aktif userId bugun p => TransactionEntry ⟨db, aktif, userId, bugun⟩ p hesap txn

def Olusturma.ayak (c : Olusturma) (txn : Transaction) (hesap : Option (ℕ × Account)) : Option (ℕ × ℚ) :=
  hesap.bind (fun g =>
    if c.otomatik then some (g.1, c.delta g.2.accountType txn.transactionType txn.amount) else none)

theorem Kaydeder.yazimlar {db : Db} {c : Olusturma} {txn : Transaction} {hesap : Option (ℕ × Account)}
    (h : Kaydeder db txn hesap c) : c.yazimlar db = some (kayitYazimlari txn (c.ayak txn hesap)) := by
  cases c with
  | panel istek payload =>
    obtain ⟨yeni, hy, rfl, rfl⟩ := h
    obtain ⟨_, _, _, _, _, _, hflag⟩ := yeniIslem_ok hy
    refine yazimlar_panel.mpr ⟨yeni, hy, ?_⟩
    rw [panelAyagi, hflag]
    rfl
  | koc aktif userId bugun p =>
    refine yazimlar_koc.mpr ⟨hesap, txn, h, ?_⟩
    cases hesap <;> rfl

/-- The effect a booked transaction should have, read from its account. -/
theorem Kaydeder.katki {db : Db} {c : Olusturma} {txn : Transaction} {hesap : Option (ℕ × Account)}
    (h : Kaydeder db txn hesap c) (k : ℕ) :
    katki db txn k = (hesap.map (fun g => if k = g.1 ∧ (db.accounts.get? k).isSome then
      balanceDelta g.2.accountType txn.transactionType txn.amount else 0)).getD 0 := by
  cases c with
  | panel istek payload =>
    obtain ⟨yeni, hy, rfl, rfl⟩ := h
    obtain ⟨hget, hscope, hid, _⟩ := yeniIslem_ok hy
    exact katki_of_bagli (bagliHesap_some.mpr ⟨hid, hget, hscope⟩) k
  | koc aktif userId bugun p => exact katki_of_entry h k

theorem Kaydeder.hesap {db : Db} {c : Olusturma} {txn : Transaction} {g : ℕ × Account}
    (h : Kaydeder db txn (some g) c) :
    db.accounts.get? g.1 = some g.2 ∧ txn.accountId = some g.1 ∧ 0 < txn.amount := by
  cases c with
  | panel istek payload =>
    obtain ⟨yeni, hy, rfl, hg⟩ := h
    obtain rfl := Option.some.inj hg
    obtain ⟨hget, _, hid, hpos, _⟩ := yeniIslem_ok hy
    exact ⟨hget, hid, hpos⟩
  | koc aktif userId bugun p =>
    obtain ⟨_, hname, _⟩ := islemHesabi_some.mp h.secim
    have hsak := h.saklanan
    simp only [saklananHesap, Except.ok.injEq] at hsak
    exact ⟨hname.row, hsak.symm, h.pozitif⟩

section Identity
variable {fark : ℕ → ℚ} {d e : Db}

theorem Benzer.katki (h : Benzer fark d e) (txn : Transaction) (k : ℕ) :
    Guarantees.katki d txn k = Guarantees.katki e txn k := by
  unfold Guarantees.katki
  rw [h.hesaplar k]
  cases e.accounts.get? k <;> rfl

theorem Benzer.gorunenKatki (h : Benzer fark d e) (istek : Istek) (txn : Transaction) (k : ℕ) :
    Guarantees.gorunenKatki d istek txn k = Guarantees.gorunenKatki e istek txn k := by
  have hsome : (bagliHesap d istek txn).isSome = (bagliHesap e istek txn).isSome := by
    unfold bagliHesap inScope
    cases txn.accountId with
    | none => rfl
    | some id =>
      dsimp only
      rw [h.hesaplar id]
      cases e.accounts.get? id with
      | none => rfl
      | some a =>
        simp only [Option.map_some]
        cases istek.wsId with
        | none =>
          by_cases hs : a.userId = istek.userId <;> simp [scopeFilter, Scoped.userId, hs]
        | some w =>
          by_cases hs : a.workspaceId = some w <;> simp [scopeFilter, Scoped.workspaceId, hs]
  unfold Guarantees.gorunenKatki
  rw [hsome, h.katki]

end Identity

/-- What a deletion takes back from a balance. -/
theorem bakiye_sil {db : Db} (istek : Istek) (txn : Transaction) (id k : ℕ) :
    bakiyeOku (db.writeAll (etkiYaz db istek txn true ++ [.transaction (.delete id)])) k =
      bakiyeOku db k - gorunenKatki db istek txn k := by
  rw [writeAll_append, writeAll_cons, writeAll_nil]
  show bakiyeOku (db.writeAll (etkiYaz db istek txn true)) k = _
  unfold etkiYaz gorunenKatki
  cases hb : bagliHesap db istek txn with
  | none => simp
  | some g =>
    have hfark := ((Benzer.refl db).tekTaraf g.1
      (-balanceDelta g.2.accountType txn.transactionType txn.amount)).bakiye k
    simp only [Option.map_some, Option.toList_some, writeAll_cons, writeAll_nil, applyToBalance, if_true,
      Option.isSome_some, katki_of_bagli hb]
    rw [hfark]
    by_cases hs : (db.accounts.get? k).isSome = true
    · simp only [hs, if_true, and_true]
      split <;> simp [sub_eq_add_neg]
    · simp [hs]

/-- The path moves nothing on the pair. -/
def Olusturma.Etkisiz (c : Olusturma) (tip : AccountType) (txnType : TransactionType) : Prop :=
  match c with
  | .panel _ _ => Hareketsiz tip txnType
  | .koc _ _ _ _ => txnType = .transfer

/-- The path's sign rule is the ledger's on the pair. -/
def Olusturma.Kuralli (c : Olusturma) (tip : AccountType) (txnType : TransactionType) : Prop :=
  match c with
  | .panel _ _ => True
  | .koc _ _ _ _ => ¬ KocFarkli tip txnType

theorem Olusturma.delta_eq_zero {c : Olusturma} {tip : AccountType} {txnType : TransactionType} {q : ℚ}
    (hq : q ≠ 0) : c.delta tip txnType q = 0 ↔ c.Etkisiz tip txnType := by
  cases c with
  | panel istek payload => exact balanceDelta_eq_zero_iff tip txnType hq
  | koc aktif userId bugun p =>
    cases txnType <;> cases tip <;> simp [Olusturma.delta, Olusturma.Etkisiz, kocDelta, hq]

theorem Olusturma.delta_eq_balanceDelta {c : Olusturma} {tip : AccountType} {txnType : TransactionType}
    {q : ℚ} (hq : q ≠ 0) : c.delta tip txnType q = balanceDelta tip txnType q ↔ c.Kuralli tip txnType := by
  cases c with
  | panel istek payload => simp [Olusturma.delta, Olusturma.Kuralli]
  | koc aktif userId bugun p => exact kocDelta_eq_balanceDelta hq

/-- When deleting takes back what creating moved: on an account the deletion sees, the balance was
kept up to date by the ledger's rule, or there was nothing to move; on one it does not see,
creating moved nothing. -/
def GeriAlinir (istek : Istek) (c : Olusturma) (txn : Transaction) (hesap : Option (ℕ × Account)) : Prop :=
  ∀ g, hesap = some g →
    if scopeFilter istek.userId istek.wsId g.2 then
      if c.otomatik then c.Kuralli g.2.accountType txn.transactionType
      else Hareketsiz g.2.accountType txn.transactionType
    else c.otomatik = true → c.Etkisiz g.2.accountType txn.transactionType

private theorem geriAlinir_iff {db : Db} {istek : Istek} {c : Olusturma} {txn : Transaction}
    {hesap : Option (ℕ × Account)} (hk : Kaydeder db txn hesap c) :
    (∀ k, (if (db.accounts.get? k).isSome then
        ((c.ayak txn hesap).map (fun b => if k = b.1 then b.2 else 0)).getD 0 else 0) =
      gorunenKatki db istek txn k) ↔ GeriAlinir istek c txn hesap := by
  cases hesap with
  | none =>
    have hzero : ∀ k, gorunenKatki db istek txn k = 0 := by
      intro k
      rw [gorunenKatki, hk.katki k]
      simp
    simp [GeriAlinir, Olusturma.ayak, hzero]
  | some g =>
    obtain ⟨hget, hid, hpos⟩ := hk.hesap
    have hne : txn.amount ≠ 0 := hpos.ne'
    have hgor : ∀ k, gorunenKatki db istek txn k =
        if scopeFilter istek.userId istek.wsId g.2 then
          if k = g.1 then balanceDelta g.2.accountType txn.transactionType txn.amount else 0
        else 0 := by
      intro k
      have hsee : (bagliHesap db istek txn).isSome = scopeFilter istek.userId istek.wsId g.2 := by
        simp only [bagliHesap, hid, inScope, hget]
        split <;> simp [*]
      rw [gorunenKatki, hsee, hk.katki k]
      by_cases hkg : k = g.1 <;> simp [hkg, hget]
    have hayak : ∀ k, (if (db.accounts.get? k).isSome then
        ((c.ayak txn (some g)).map (fun b => if k = b.1 then b.2 else 0)).getD 0 else 0) =
        if k = g.1 then
          if c.otomatik then c.delta g.2.accountType txn.transactionType txn.amount else 0
        else 0 := by
      intro k
      unfold Olusturma.ayak
      by_cases hkg : k = g.1
      · subst hkg
        cases c.otomatik <;> simp [hget]
      · cases c.otomatik <;> simp [hkg]
    have hone : (∀ k, (if k = g.1 then
          if c.otomatik then c.delta g.2.accountType txn.transactionType txn.amount else 0
        else 0) = if scopeFilter istek.userId istek.wsId g.2 then
          if k = g.1 then balanceDelta g.2.accountType txn.transactionType txn.amount else 0
        else (0 : ℚ)) ↔
        (if c.otomatik then c.delta g.2.accountType txn.transactionType txn.amount else 0) =
          if scopeFilter istek.userId istek.wsId g.2 then
            balanceDelta g.2.accountType txn.transactionType txn.amount else 0 := by
      constructor
      · intro h
        simpa using h g.1
      · intro h k
        by_cases hkg : k = g.1
        · simpa [hkg] using h
        · simp [hkg]
    simp only [hayak, hgor, hone, GeriAlinir, Option.some.injEq, forall_eq']
    by_cases hs : scopeFilter istek.userId istek.wsId g.2 = true
    · cases hoto : c.otomatik with
      | true => simpa [hs] using c.delta_eq_balanceDelta hne
      | false =>
        simp only [hs, if_true, Bool.false_eq_true, if_false]
        rw [eq_comm]
        exact balanceDelta_eq_zero_iff _ _ hne
    · cases hoto : c.otomatik with
      | true => simpa [hs] using c.delta_eq_zero hne
      | false => simp [hs]

/-- The creation is carried out. -/
def Olusturma.gecer (db : Db) (c : Olusturma) : Bool :=
  match c.yazimlar db with
  | some ws => (commit db ws).toOption.isSome
  | none => false

theorem Olusturma.gecer_iff {db : Db} {c : Olusturma} : c.gecer db = true ↔ ∃ db', Olusur db c db' := by
  unfold Olusturma.gecer Olusur
  cases c.yazimlar db with
  | none => simp
  | some ws =>
    cases hc : commit db ws with
    | error e => simp [hc, Except.toOption]
    | ok db' => simp [hc, Except.toOption]

/-- Deleting a transaction after any further creations restores every balance to what it would
have been without its creation exactly when deleting takes back what creating moved. -/
theorem delete_undoes_iff (db : Db) (once sonra : List Olusturma) (c : Olusturma) (istek : Istek)
    (txn : Transaction) (hesap : Option (ℕ × Account))
    (hkayit : Kaydeder (run olusturAdimi db once) txn hesap c)
    (hgecer : c.gecer (run olusturAdimi db once) = true)
    (hsil : Routers.gecer (run olusturAdimi db (once ++ c :: sonra))
      (deleteTransaction (run olusturAdimi db (once ++ c :: sonra)) istek
        (run olusturAdimi db once).transactions.freshKey true) = true) :
    (∀ k, bakiyeOku (sonuc (run olusturAdimi db (once ++ c :: sonra))
        (deleteTransaction (run olusturAdimi db (once ++ c :: sonra)) istek
          (run olusturAdimi db once).transactions.freshKey true)) k =
      bakiyeOku (run olusturAdimi db (once ++ sonra)) k) ↔ GeriAlinir istek c txn hesap := by
  rw [run_append, run_append, run_cons] at *
  generalize run olusturAdimi db once = s at *
  obtain ⟨s', hs'⟩ := Olusturma.gecer_iff.mp hgecer
  rw [olusturAdimi_olusur hs'] at hsil ⊢
  obtain ⟨ws, hws, hcommit⟩ := hs'
  obtain rfl : kayitYazimlari txn (c.ayak txn hesap) = ws := Option.some.inj (hkayit.yazimlar.symm.trans hws)
  obtain ⟨rfl, _⟩ := commit_ok.mp hcommit
  -- the run with the creation stays one leg apart from the run without it
  have hfark := (benzer_kayit s txn (c.ayak txn hesap)).run sonra
  obtain ⟨gark, hson⟩ := benzer_run s sonra
  have hrow : (run olusturAdimi (s.writeAll (kayitYazimlari txn (c.ayak txn hesap))) sonra).transactions.get?
      s.transactions.freshKey = some txn := by
    refine run_keeps_transaction ?_ sonra
    have hnew : (s.write (.transaction (.insert txn))).transactions.get? s.transactions.freshKey =
        some txn := by simp [Db.write, Table.change]
    cases c.ayak txn hesap <;> exact hnew
  generalize run olusturAdimi (s.writeAll (kayitYazimlari txn (c.ayak txn hesap))) sonra = t at *
  generalize run olusturAdimi s sonra = t₀ at *
  obtain ⟨ws', hws', hcommit'⟩ := gecer_iff.mp hsil
  have hsonuc : sonuc t (deleteTransaction t istek s.transactions.freshKey true) = t.writeAll ws' := by
    simp only [sonuc, hws', hcommit']
    rfl
  obtain ⟨id, txn', hf, rfl⟩ := deleteTransaction_ok.mp hws'
  obtain rfl : txn' = txn := by
    obtain ⟨hkey, hget, _⟩ := findById_eq_some.mp hf
    have hid : id = s.transactions.freshKey := by
      simp only [primaryKey] at hkey
      split at hkey
      · cases hkey
      · simpa using (Except.ok.inj hkey).symm
    rw [hid, hrow] at hget
    exact (Option.some.inj hget).symm
  rw [← geriAlinir_iff hkayit]
  have hgor : ∀ k, gorunenKatki t istek txn' k = gorunenKatki s istek txn' k := by
    intro k
    rw [hfark.gorunenKatki, hson.gorunenKatki]
  refine forall_congr' fun k => ?_
  rw [hsonuc, if_pos rfl, bakiye_sil, hfark.bakiye k, hgor, hson.isSome k]
  constructor
  · intro h
    linarith
  · intro h
    rw [h]
    ring

/-- One cash account of user 1 with a balance of 1000. -/
def nakitDb : Db := Db.empty.writeAll [
  .account (.insert ⟨1, none, "Nakit", .cash, 1000, none, none, none, none, none, none, none, false⟩)]

def panelIstegi : Istek := ⟨1, none, (Date.ofYmd? 2026 5 4).get rfl⟩

/-- An expense of 100 on account 1, with or without a balance update. -/
def yuzLira (otomatik : Bool) : Olusturma :=
  .panel panelIstegi ⟨some 1, some .expense, some 100, some "market", none, none, none, none, some otomatik⟩

def yuzLiraKaydi : Transaction :=
  ⟨1, none, some 1, .expense, 100, some "market", none, panelIstegi.bugun, false⟩

def nakitHesabi : ℕ × Account :=
  (1, ⟨1, none, "Nakit", .cash, 1000, none, none, none, none, none, none, none, false⟩)

private theorem yuzLira_kaydeder (otomatik : Bool) :
    Kaydeder nakitDb yuzLiraKaydi (some nakitHesabi) (yuzLira otomatik) := by
  refine ⟨⟨yuzLiraKaydi, nakitHesabi, otomatik⟩, ?_, rfl, rfl⟩
  cases otomatik <;> decide +kernel

theorem delete_undoes_iff_nakitDb :
    (∀ k, bakiyeOku (sonuc (run olusturAdimi nakitDb ([] ++ yuzLira true :: [yuzLira false]))
        (deleteTransaction (run olusturAdimi nakitDb ([] ++ yuzLira true :: [yuzLira false])) panelIstegi
          (run olusturAdimi nakitDb []).transactions.freshKey true)) k =
      bakiyeOku (run olusturAdimi nakitDb ([] ++ [yuzLira false])) k) ↔
      GeriAlinir panelIstegi (yuzLira true) yuzLiraKaydi (some nakitHesabi) :=
  delete_undoes_iff nakitDb [] [yuzLira false] (yuzLira true) panelIstegi yuzLiraKaydi (some nakitHesabi)
    (yuzLira_kaydeder true) (by decide +kernel) (by decide +kernel)

/-- Booked without a balance update, the expense leaves 100 too much behind when it is deleted. -/
theorem deletion_invented_money :
    ¬ ∀ db once sonra c istek txn hesap, Kaydeder (run olusturAdimi db once) txn hesap c →
      c.gecer (run olusturAdimi db once) = true →
      Routers.gecer (run olusturAdimi db (once ++ c :: sonra))
        (deleteTransaction (run olusturAdimi db (once ++ c :: sonra)) istek
          (run olusturAdimi db once).transactions.freshKey true) = true →
      ∀ k, bakiyeOku (sonuc (run olusturAdimi db (once ++ c :: sonra))
          (deleteTransaction (run olusturAdimi db (once ++ c :: sonra)) istek
            (run olusturAdimi db once).transactions.freshKey true)) k =
        bakiyeOku (run olusturAdimi db (once ++ sonra)) k := by
  intro h
  have hbal := h nakitDb [] [] (yuzLira false) panelIstegi yuzLiraKaydi (some nakitHesabi)
    (yuzLira_kaydeder false) (by decide +kernel) (by decide +kernel) 1
  exact absurd hbal (by decide +kernel)

/-- The coach's creation is what the executor does to the ledger for such an action. -/
theorem execute_is_creation {ariza : Ariza} {bugun : ℕ → Date} {db : Db} {actionId userId : ℕ}
    {pending : PendingAction} {p : Payload} (hr : Reaches db actionId userId pending p)
    (ht : pending.actionType = .addTransaction) (hn : ariza.handlerOnce = none) :
    Defter.oku (executePendingAction ariza bugun db actionId userId).2 =
      Defter.oku (olusturAdimi db (.koc pending.workspaceId userId (bugun userId) p)) := by
  have happlies : ∀ ws, (Olusturma.koc pending.workspaceId userId (bugun userId) p).yazimlar db = some ws →
      commit db ws = .ok (db.writeAll ws) → Applies bugun db actionId userId pending p ws := by
    intro ws hws hc
    obtain ⟨hesap, txn, hentry, rfl⟩ := yazimlar_koc.mp hws
    exact ⟨hr.aksiyon, hr.bekliyor, hr.payload, hr.kurallar,
      ⟨executeAddTransaction, by rw [ht]; rfl, addTransaction_commits.mpr ⟨hesap, txn, hentry, rfl⟩⟩,
      (commit_ok.mp hc).2⟩
  rcases execute_cases ariza bugun db actionId userId with
    ⟨hno, _, hd⟩ | ⟨pending', p', ws, _, happ, hd, _⟩
  · rw [hd, olusturAdimi_red]
    rintro ⟨db', ws, hws, hc⟩
    obtain ⟨rfl, _⟩ := commit_ok.mp hc
    exact hno pending p ws hn (happlies ws hws hc)
  · obtain ⟨hr', hacc, _⟩ := applies_iff_accepted.mp happ
    obtain rfl : pending = pending' := by simpa [hr.aksiyon] using hr'.aksiyon
    obtain rfl : p = p' := by simpa [hr.payload] using hr'.payload
    rw [ht] at hacc
    have hcommit : commit db ws = .ok (db.writeAll ws) := commit_ok.mpr ⟨rfl, happ.flush⟩
    cases hacc with
    | islem hesap txn hentry =>
      rw [hd, olusturAdimi_olusur ⟨_, yazimlar_koc.mpr ⟨hesap, txn, hentry, rfl⟩, hcommit⟩]

end FinancialOs.Guarantees
