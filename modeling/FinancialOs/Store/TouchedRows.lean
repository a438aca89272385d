import FinancialOs.Store.Scope

/-! Which workspaces a piece of work touches: the ones that own a row that is not
the same before and after it. -/
namespace FinancialOs.Store
open Library

/-- A row of the workspace, before or after, differs between the two tables. -/
def Degisen {α : Type} [Scoped α] (t u : Table α) (workspaceId : ℕ) : Prop :=
  ∃ k a, Table.Differs t u k a ∧ Scoped.workspaceId a = some workspaceId

/-- A row belonging to the workspace was mutated on the way from one database to the other. -/
def Etkilenen (d e : Db) (workspaceId : ℕ) : Prop :=
  Degisen d.accounts e.accounts workspaceId ∨ Degisen d.transactions e.transactions workspaceId ∨
    Degisen d.debts e.debts workspaceId ∨ Degisen d.checkpoints e.checkpoints workspaceId ∨
    Degisen d.pendingActions e.pendingActions workspaceId ∨ Degisen d.incomes e.incomes workspaceId ∨
    Degisen d.expenses e.expenses workspaceId

/-- A workspace column that is empty or names this workspace. -/
def Icinde (workspaceId : ℕ) (column : Option ℕ) : Prop := ∀ w, column = some w → w = workspaceId

def TabloIcinde {α : Type} [Scoped α] (workspaceId : ℕ) (t : Table α) (c : Table.Change α) : Prop :=
  Table.Confined (fun a => Icinde workspaceId (Scoped.workspaceId a)) t c

/-- A write that touches no row of another workspace. -/
def Write.Icinde (workspaceId : ℕ) (db : Db) : Write → Prop
  | .workspace _ => False
  | .membership _ => False
  | .account c => TabloIcinde workspaceId db.accounts c
  | .transaction c => TabloIcinde workspaceId db.transactions c
  | .debt c => TabloIcinde workspaceId db.debts c
  | .checkpoint c => TabloIcinde workspaceId db.checkpoints c
  | .pendingAction c => TabloIcinde workspaceId db.pendingActions c
  | .income c => TabloIcinde workspaceId db.incomes c
  | .expense c => TabloIcinde workspaceId db.expenses c

/-- A write to rows whose workspace column has a property, before it and after it. -/
def Write.Kapsaminda (P : Option ℕ → Prop) (db : Db) : Write → Prop
  | .workspace _ => False
  | .membership _ => False
  | .account c => Table.Confined (fun a => P (Scoped.workspaceId a)) db.accounts c
  | .transaction c => Table.Confined (fun a => P (Scoped.workspaceId a)) db.transactions c
  | .debt c => Table.Confined (fun a => P (Scoped.workspaceId a)) db.debts c
  | .checkpoint c => Table.Confined (fun a => P (Scoped.workspaceId a)) db.checkpoints c
  | .pendingAction c => Table.Confined (fun a => P (Scoped.workspaceId a)) db.pendingActions c
  | .income c => Table.Confined (fun a => P (Scoped.workspaceId a)) db.incomes c
  | .expense c => Table.Confined (fun a => P (Scoped.workspaceId a)) db.expenses c

theorem Write.icinde_iff {r : ℕ} {db : Db} {x : Write} : x.Icinde r db ↔ x.Kapsaminda (Store.Icinde r) db := by
  cases x <;> rfl

/-- Every version of a row that differs between the two tables has the property. -/
def TabloSinirli {α : Type} [Scoped α] (P : Option ℕ → Prop) (t u : Table α) : Prop :=
  ∀ k a, Table.Differs t u k a → P (Scoped.workspaceId a)

/-- Every version of a row that differs between the two databases has the property. -/
structure Sinirli (P : Option ℕ → Prop) (d e : Db) : Prop where
  accounts : TabloSinirli P d.accounts e.accounts
  transactions : TabloSinirli P d.transactions e.transactions
  debts : TabloSinirli P d.debts e.debts
  checkpoints : TabloSinirli P d.checkpoints e.checkpoints
  pendingActions : TabloSinirli P d.pendingActions e.pendingActions
  incomes : TabloSinirli P d.incomes e.incomes
  expenses : TabloSinirli P d.expenses e.expenses

section Tables
variable {α : Type} [Scoped α] {t u v : Table α} {P : Option ℕ → Prop} {w : ℕ}

theorem TabloSinirli.refl : TabloSinirli P t t := fun _ _ h => absurd h Table.not_differs_self

theorem TabloSinirli.trans (htu : TabloSinirli P t u) (huv : TabloSinirli P u v) :
    TabloSinirli P t v := by
  intro k a h
  rcases h.split u with h | h
  · exact htu k a h
  · exact huv k a h

theorem TabloSinirli.change {c : Table.Change α}
    (hc : Table.Confined (fun a => P (Scoped.workspaceId a)) t c) : TabloSinirli P t (t.change c) :=
  fun _ _ h => hc.differs h

theorem TabloSinirli.degisen (h : TabloSinirli P t u) (hd : Degisen t u w) : P (some w) := by
  obtain ⟨k, a, hk, ha⟩ := hd
  rw [← ha]
  exact h k a hk

end Tables

section Writes
variable {P : Option ℕ → Prop} {d e f db : Db}

theorem Sinirli.refl : Sinirli P db db :=
  ⟨.refl, .refl, .refl, .refl, .refl, .refl, .refl⟩

theorem Sinirli.trans (h : Sinirli P d e) (h' : Sinirli P e f) : Sinirli P d f :=
  ⟨h.accounts.trans h'.accounts, h.transactions.trans h'.transactions, h.debts.trans h'.debts,
    h.checkpoints.trans h'.checkpoints, h.pendingActions.trans h'.pendingActions,
    h.incomes.trans h'.incomes, h.expenses.trans h'.expenses⟩

/-- Rows that differ only where the property holds touch only workspaces it holds of. -/
theorem Sinirli.etkilenen (h : Sinirli P d e) {w : ℕ} (he : Etkilenen d e w) : P (some w) := by
  rcases he with he | he | he | he | he | he | he
  · exact h.accounts.degisen he
  · exact h.transactions.degisen he
  · exact h.debts.degisen he
  · exact h.checkpoints.degisen he
  · exact h.pendingActions.degisen he
  · exact h.incomes.degisen he
  · exact h.expenses.degisen he

theorem not_etkilenen_self {w : ℕ} : ¬ Etkilenen db db w := by
  intro h
  exact Sinirli.etkilenen (P := fun _ => False) .refl h

private theorem sinirli_write {x : Write} (hx : x.Kapsaminda P db) : Sinirli P db (db.write x) := by
  cases x with
  | workspace c => exact hx.elim
  | membership c => exact hx.elim
  | account c => exact { Sinirli.refl with accounts := .change hx }
  | transaction c => exact { Sinirli.refl with transactions := .change hx }
  | debt c => exact { Sinirli.refl with debts := .change hx }
  | checkpoint c => exact { Sinirli.refl with checkpoints := .change hx }
  | pendingAction c => exact { Sinirli.refl with pendingActions := .change hx }
  | income c => exact { Sinirli.refl with incomes := .change hx }
  | expense c => exact { Sinirli.refl with expenses := .change hx }

private theorem kapsaminda_write {x y : Write} (hy : y.Kapsaminda P db) (hx : x.Kapsaminda P db) :
    y.Kapsaminda P (db.write x) := by
  cases y <;> cases x <;>
    first
    | exact hy
    | exact Table.Confined.change hy hx

/-- Writes that are each confined leave every other row alone. -/
theorem sinirli_writeAll {ws : List Write} (hws : ∀ x ∈ ws, x.Kapsaminda P db) :
    Sinirli P db (db.writeAll ws) := by
  induction ws generalizing db with
  | nil => exact .refl
  | cons x ws ih =>
    have hx := hws x List.mem_cons_self
    have hrest : Sinirli P (db.write x) ((db.write x).writeAll ws) :=
      ih fun y hy => kapsaminda_write (hws y (List.mem_cons_of_mem _ hy)) hx
    exact (sinirli_write hx).trans hrest

end Writes

/-- Work confined to one workspace mutates no row of another. -/
theorem etkilenen_writeAll {r : ℕ} {db : Db} {ws : List Write} (hws : ∀ x ∈ ws, x.Icinde r db)
    {w : ℕ} (h : Etkilenen db (db.writeAll ws) w) : w = r := by
  have hs : Sinirli (Icinde r) db (db.writeAll ws) :=
    sinirli_writeAll fun x hx => Write.icinde_iff.mp (hws x hx)
  exact hs.etkilenen h w rfl

theorem icinde_some {r : ℕ} : Icinde r (some r) := fun _ h => (Option.some.inj h).symm

/-- Rewriting one row that lies in the workspace, without moving it. -/
theorem tabloIcinde_update {α : Type} [Scoped α] {t : Table α} {r k : ℕ} {f : α → α}
    (hf : ∀ a, Scoped.workspaceId (f a) = Scoped.workspaceId a)
    (hrow : ∀ a, t.get? k = some a → Icinde r (Scoped.workspaceId a)) :
    TabloIcinde r t (.update k f) := by
  refine ⟨fun a ha => ?_, hrow⟩
  have hkept : Icinde r (Scoped.workspaceId (f a)) := by
    rw [hf a]
    exact ha
  exact hkept

end FinancialOs.Store
