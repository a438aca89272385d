import FinancialOs.Store.AuditLog

/-! The trail of updates and deletions, read backwards: it gives back every row that it follows as it was before any
run of flushes. -/
namespace FinancialOs.Guarantees
open Library Store

/-- What one entry says of a row before it. -/
def geriAl (a : Anahtar) (e : AuditLog) (v : Option (String → DenetimDegeri)) : Option (String → DenetimDegeri) :=
  if (e.entity, e.entityId) = a then
    match e.action with
    | .delete => some fun c => (e.before.lookup c).getD .yok
    | .update => v.map fun r c => (e.before.lookup c).getD (r c)
  else v

/-- The texts of a row. -/
def gorunum (db : DenetimDb) (a : Anahtar) : Option (String → DenetimDegeri) := (db.kayitlar a).map fun r c => ser (r c)

/-- What is there stays there, with the same texts in the columns. -/
def Korur (ks : List String) (v w : Option (String → DenetimDegeri)) : Prop :=
  ∀ r, v = some r → ∃ r', w = some r' ∧ ∀ c ∈ ks, r' c = r c

/-- What the session does to a row: one object at most stands for it, a deleted one as the database has it, an owner
is always named, and a new row takes a free id. -/
structure DuzgunFlush (sema : List TabloSemasi) (a : Anahtar) (db : DenetimDb) (o : Oturum) : Prop where
  tekil : ((o.silinen ++ o.kirli).map Nesne.anahtar).Nodup
  taze : ∀ n ∈ o.silinen, n.anahtar = a → ∀ r, db.kayitlar a = some r → ∀ c ∈ kolonlar sema a.1, n.satir c = r c
  sahipli : ∀ n ∈ o.silinen ++ o.kirli, n.anahtar = a → n.satir "user_id" ≠ .yok
  bos : ∀ n ∈ o.yeni, n.anahtar = a → db.kayitlar a = none

section Undo
variable {sema : List TabloSemasi} {a : Anahtar} {db : DenetimDb} {o : Oturum} {n : Nesne} {e : AuditLog}
  {v w : Option (String → DenetimDegeri)} {ks : List String}

theorem Korur.refl (v : Option (String → DenetimDegeri)) : Korur ks v v := fun r hr => ⟨r, hr, fun _ _ => rfl⟩

theorem Korur.trans {u : Option (String → DenetimDegeri)} (h : Korur ks u v) (h' : Korur ks v w) : Korur ks u w := by
  intro r hr
  obtain ⟨r', hr', heq⟩ := h r hr
  obtain ⟨r'', hr'', heq'⟩ := h' r' hr'
  exact ⟨r'', hr'', fun c hc => (heq' c hc).trans (heq c hc)⟩

theorem Korur.geriAl (h : Korur ks v w) (e : AuditLog) : Korur ks (geriAl a e v) (geriAl a e w) := by
  rw [Guarantees.geriAl, Guarantees.geriAl]
  split_ifs
  · cases e.action with
    | delete => exact .refl _
    | update =>
      intro r hr
      obtain ⟨q, hq, rfl⟩ := Option.map_eq_some_iff.mp hr
      obtain ⟨q', hq', heq⟩ := h q hq
      refine ⟨_, by rw [hq']; rfl, fun c hc => ?_⟩
      dsimp only
      rw [heq c hc]
  · exact h

/-- Entries about other rows say nothing of this one. -/
theorem geriAl_other {l : List AuditLog} (h : ∀ e ∈ l, (e.entity, e.entityId) ≠ a) : l.foldr (geriAl a) v = v := by
  induction l with
  | nil => rfl
  | cons e l ih =>
    rw [List.foldr_cons, ih fun e he => h e (List.mem_cons_of_mem _ he)]
    exact if_neg (h e List.mem_cons_self)

theorem lookup_map (l : List String) (f : String → DenetimDegeri) (c : String) :
    (l.map fun c => (c, f c)).lookup c = if c ∈ l then some (f c) else none := by
  induction l with
  | nil => rfl
  | cons d l ih =>
    rw [List.map_cons, List.lookup_cons]
    by_cases hc : c = d
    · subst hc
      simp
    · rw [show (c == d) = false by simpa using hc, ih]
      simp [hc]

theorem silmeIzi_key (h : silmeIzi sema o n = some e) : (e.entity, e.entityId) = n.anahtar := by
  rw [silmeIzi] at h
  split_ifs at h
  rw [← Option.some.inj h]

theorem guncellemeIzi_key (h : guncellemeIzi sema db o n = some e) : (e.entity, e.entityId) = n.anahtar := by
  rw [guncellemeIzi] at h
  split_ifs at h
  rw [← Option.some.inj h]

theorem silme_other {l : List Nesne} (h : ∀ n ∈ l, n.anahtar ≠ a) :
    (l.filterMap (silmeIzi sema o)).foldr (geriAl a) v = v := by
  refine geriAl_other fun e he => ?_
  obtain ⟨n, hn, hiz⟩ := List.mem_filterMap.mp he
  rw [silmeIzi_key hiz]
  exact h n hn

theorem guncelleme_other {l : List Nesne} (h : ∀ n ∈ l, n.anahtar ≠ a) :
    (l.filterMap (guncellemeIzi sema db o)).foldr (geriAl a) v = v := by
  refine geriAl_other fun e he => ?_
  obtain ⟨n, hn, hiz⟩ := List.mem_filterMap.mp he
  rw [guncellemeIzi_key hiz]
  exact h n hn

/-- The entry of a deletion is the whole row. -/
theorem geriAl_silme (hn : n.anahtar = a) (ha : a.1 ∈ denetlenenTablolar sema) (hsahip : n.satir "user_id" ≠ .yok) :
    ∃ e, silmeIzi sema o n = some e ∧
      geriAl a e v = some fun c => ((satirJson sema n).lookup c).getD .yok := by
  have hiz : izlenir sema n = true := decide_eq_true ⟨hn ▸ ha, hsahip⟩
  refine ⟨_, by rw [silmeIzi, if_pos hiz], ?_⟩
  rw [geriAl, if_pos hn]

/-- What the entries of an update take back is what it wrote. -/
theorem geriAl_guncelleme {r : KolonDegerleri} (hn : n.anahtar = a) (ha : a.1 ∈ denetlenenTablolar sema)
    (hsahip : n.satir "user_id" ≠ .yok) (hr : db.kayitlar a = some r) :
    ((guncellemeIzi sema db o n).toList).foldr (geriAl a)
      (some fun c => ser (if c ∈ n.degisen then n.satir c else r c)) = some fun c => ser (r c) := by
  have hiz : izlenir sema n = true := decide_eq_true ⟨hn ▸ ha, hsahip⟩
  have hdegisen : ∀ c, c ∈ degisenler (db.kayitlar n.anahtar) n ↔ c ∈ n.degisen ∧ ser (r c) ≠ ser (n.satir c) := by
    intro c
    rw [degisenler, hn, hr, List.mem_filter]
    exact and_congr_right fun _ => decide_eq_true_iff
  have hsame : ∀ c, c ∉ degisenler (db.kayitlar n.anahtar) n →
      ser (if c ∈ n.degisen then n.satir c else r c) = ser (r c) := by
    intro c hc
    split_ifs with hset
    · by_contra hne
      exact hc ((hdegisen c).mpr ⟨hset, fun h => hne h.symm⟩)
    · rfl
  rw [guncellemeIzi]
  by_cases hbos : degisenler (db.kayitlar n.anahtar) n = []
  · rw [if_neg fun h => h.2 hbos]
    refine congrArg some (funext fun c => hsame c ?_)
    rw [hbos]
    exact List.not_mem_nil
  · rw [if_pos ⟨hiz, hbos⟩, Option.toList_some, List.foldr_cons, List.foldr_nil, geriAl, if_pos hn]
    refine congrArg some (funext fun c => ?_)
    dsimp only
    rw [lookup_map]
    by_cases hc : c ∈ degisenler (db.kayitlar n.anahtar) n
    · rw [if_pos hc, hn, hr]
      rfl
    · rw [if_neg hc]
      exact hsame c hc

theorem notMem_of_find {l : List Nesne} (h : l.find? (fun n => n.anahtar = a) = none) : ∀ n ∈ l, n.anahtar ≠ a := by
  intro n hn
  exact of_decide_eq_false (Bool.eq_false_of_not_eq_true (List.find?_eq_none.mp h n hn))

/-- One flush: its entries take back what it did to the row. -/
theorem korur_flush (ha : a.1 ∈ denetlenenTablolar sema) (h : DuzgunFlush sema a db o) :
    Korur (kolonlar sema a.1) (gorunum db a)
      ((denetimYaz sema db o).foldr (geriAl a) (gorunum (flush sema db o) a)) := by
  intro r hr
  obtain ⟨row, hrow, rfl⟩ := Option.map_eq_some_iff.mp hr
  have htekil := h.tekil
  rw [List.map_append, List.nodup_append] at htekil
  obtain ⟨htekilS, htekilK, hayri⟩ := htekil
  rw [denetimYaz, List.foldr_append]
  -- the row is deleted, updated or left alone
  by_cases hsil : ∃ n ∈ o.silinen, n.anahtar = a
  · obtain ⟨n, hn, hkey⟩ := hsil
    obtain ⟨once, sonra, hl⟩ := List.append_of_mem hn
    have honce : ∀ m ∈ once, m.anahtar ≠ a := by
      intro m hm hma
      rw [hl, List.map_append, List.nodup_append] at htekilS
      exact htekilS.2.2 m.anahtar (List.mem_map_of_mem hm) n.anahtar (by simp) (by rw [hma, hkey])
    obtain ⟨e, he, hgeri⟩ := @geriAl_silme sema a o n
      ((sonra.filterMap (silmeIzi sema o)).foldr (geriAl a) ((o.kirli.filterMap (guncellemeIzi sema db o)).foldr
        (geriAl a) (gorunum (flush sema db o) a))) hkey ha (h.sahipli n (List.mem_append_left _ hn) hkey)
    refine ⟨_, by rw [hl, List.filterMap_append, List.filterMap_cons_some he, List.foldr_append, List.foldr_cons,
      silme_other honce, hgeri], fun c hc => ?_⟩
    rw [satirJson, lookup_map, hkey, if_pos hc, h.taze n hn hkey row hrow c hc]
    rfl
  · have hkalan : ∀ m ∈ o.silinen, m.anahtar ≠ a := fun m hm hma => hsil ⟨m, hm, hma⟩
    have hany : (o.silinen.any fun n => n.anahtar = a) = false := by
      rw [List.any_eq_false]
      exact fun m hm => by simpa using hkalan m hm
    rw [silme_other hkalan]
    have hyeni : o.yeni.find? (fun n => n.anahtar = a) = none := by
      rw [List.find?_eq_none]
      intro m hm hma
      rw [h.bos m hm (of_decide_eq_true hma)] at hrow
      cases hrow
    cases hkirli : o.kirli.find? fun n => n.anahtar = a with
    | none =>
      have hson : gorunum (flush sema db o) a = some fun c => ser (row c) := by
        change (yazilan db o a).map _ = _
        simp only [yazilan, hany, hkirli, hyeni, hrow, Bool.false_eq_true, if_false, Option.map_some]
      rw [hson, guncelleme_other (notMem_of_find hkirli)]
      exact ⟨_, rfl, fun _ _ => rfl⟩
    | some n =>
      have hkey : n.anahtar = a := by simpa using List.find?_some hkirli
      have hn : n ∈ o.kirli := List.mem_of_find?_eq_some hkirli
      obtain ⟨once, sonra, hl⟩ := List.append_of_mem hn
      have hbaska : (∀ m ∈ once, m.anahtar ≠ a) ∧ ∀ m ∈ sonra, m.anahtar ≠ a := by
        rw [hl, List.map_append, List.map_cons, List.nodup_append, List.nodup_cons] at htekilK
        refine ⟨fun m hm hma => ?_, fun m hm hma => ?_⟩
        · exact htekilK.2.2 m.anahtar (List.mem_map_of_mem hm) n.anahtar List.mem_cons_self (by rw [hma, hkey])
        · exact htekilK.2.1.1 (List.mem_map.mpr ⟨m, hm, by rw [hma, hkey]⟩)
      have hson : gorunum (flush sema db o) a = some fun c => ser (if c ∈ n.degisen then n.satir c else row c) := by
        change (yazilan db o a).map _ = _
        simp only [yazilan, hany, hkirli, hrow, Bool.false_eq_true, if_false, Option.map_some]
      have hbir := @geriAl_guncelleme sema a db o n row hkey ha (h.sahipli n (List.mem_append_right _ hn) hkey) hrow
      have htek : [n].filterMap (guncellemeIzi sema db o) = (guncellemeIzi sema db o n).toList := by
        cases hiz : guncellemeIzi sema db o n with
        | none => exact List.filterMap_cons_none hiz
        | some e => exact List.filterMap_cons_some hiz
      refine ⟨fun c => ser (row c), ?_, fun _ _ => rfl⟩
      rw [hson, hl, show once ++ n :: sonra = once ++ ([n] ++ sonra) from rfl, List.filterMap_append, List.filterMap_append,
        List.foldr_append, List.foldr_append, guncelleme_other hbaska.2, guncelleme_other hbaska.1, htek]
      exact hbir

theorem audit_run (db : DenetimDb) (os : List Oturum) :
    (run (flush sema) db os).audit = db.audit ++ trail (flush sema) (denetimYaz sema) db os := by
  induction os generalizing db with
  | nil => exact (List.append_nil _).symm
  | cons o os ih =>
    rw [run_cons, ih, trail, ← List.append_assoc]
    rfl

end Undo

/-- An account with one amount. -/
def denetlenenSatir (bakiye : ℚ) : KolonDegerleri := fun c => if c = "balance" then .sayi bakiye else .sayi 1

def hesapSemasi : List TabloSemasi := [⟨"accounts", ["id", "user_id", "balance"], ["balance"]⟩]

def denetlenenHesap : DenetimDb := ⟨fun a => if a = ("accounts", 1) then some (denetlenenSatir 100) else none, []⟩

/-- The balance is corrected, and then the account is deleted. -/
def duzeltVeSil : List Oturum :=
  [⟨[], [⟨("accounts", 1), denetlenenSatir 250, ["balance"]⟩], [], none, 0⟩,
    ⟨[⟨("accounts", 1), denetlenenSatir 250, []⟩], [], [], none, 1⟩]

end FinancialOs.Guarantees
