import FinancialOs.Guarantees.ProposalIntegrity
import FinancialOs.Routers.RecurringTriggers
import Mathlib.Data.Fin.VecNotation

/-! A recurring record pays or earns once a month. The mark and the pending proposal that keep a second
one away are two rows, read at other moments than they are written. -/
namespace FinancialOs.Guarantees
open Library Store Rules Executor Routers
variable {ι : Type}

/-- Carried out, by its status or by what its handler has committed. -/
def Yurutuldu (s : DuzenliOrtak ι) (actionId : ℕ) : Prop :=
  actionId ∈ s.yurutulen ∨ durumu s.db actionId = some .executed

def AyniKayit (d e : Dogum) : Prop := d.kind = e.kind ∧ d.kayit = e.kayit

/-- Of the actions created from a record in a month at most one is carried out. -/
def AydaBir (s : DuzenliOrtak ι) : Prop :=
  ∀ d ∈ s.dogan, ∀ e ∈ s.dogan, AyniKayit d e → d.gun.year = e.gun.year → d.gun.month = e.gun.month →
    Yurutuldu s d.actionId → Yurutuldu s e.actionId → d.actionId = e.actionId

/-- Pending, or being carried out. -/
def AcikAksiyon (s : DuzenliOrtak ι) (actionId : ℕ) : Prop :=
  durumu s.db actionId = some .pending ∨ s.tasiyan actionId ≠ none

/-- A proposal is committed in the month its request started in, for a record of the user's own that is
not marked with that month and has no other proposal open. -/
def EklemeUygun (userId : ℕ) (gelir : Bool) (s : DuzenliOrtak ι) : DuzenliKonum → Prop
  | .ekleyecek bugun _ id _ _ =>
    (∃ r, (duzenliler s.db (tetikTuru gelir)).get? id = some r ∧ r.userId = userId ∧
      r.lastTriggeredYearMonth ≠ some (ayMetni bugun)) ∧
    (s.gun userId).monthNo = bugun.monthNo ∧
    ∀ d ∈ s.dogan, d.kind = tetikTuru gelir → d.kayit = id → ¬ AcikAksiyon s d.actionId
  | _ => True

/-- A triggered action is marked after it has got its source, with the month it was created in. -/
def YazimUygun (userId actionId : ℕ) (s : DuzenliOrtak ι) : Konum → Prop
  | .yazacak _ payload _ => ∀ d ∈ s.dogan, d.actionId = actionId →
    (∃ p, s.db.pendingActions.get? actionId = some p ∧ p.sourceRecurringId.isSome = true) ∧
    tetikAyi (s.gun userId) (payload.getD []) = ayMetni d.gun ∧ yilAyMi (ayMetni d.gun) = true
  | _ => True

def SiraliAdim (talep : ι → DuzenliTalep) (i : ι) (s : DuzenliOrtak ι) (κ : DuzenliKonum) : Prop :=
  match (talep i).uc, κ with
  | .tetik gelir, κ => EklemeUygun (talep i).userId gelir s κ
  | .onay actionId, .islemde k => YazimUygun (talep i).userId actionId s k
  | _, _ => True

/-- Where an action stands between its claim and its carrying out. -/
structure KilitDuzeni (s : DuzenliOrtak ι) : Prop where
  kilitli : ∀ a i, s.kilit a = some i → s.tasiyan a = some i
  serbest : ∀ a, durumu s.db a = some .pending → s.kilit a = none → s.tasiyan a = none
  bekleyen : ∀ a, durumu s.db a = some .pending → a ∉ s.yurutulen
  satirsiz : ∀ a, s.db.pendingActions.get? a = none → a ∉ s.yurutulen ∧ s.tasiyan a = none

/-- The triggered actions against their rows: a source is the record the action was created from. -/
structure Kaynaklar (s : DuzenliOrtak ι) : Prop where
  satir : ∀ d ∈ s.dogan, ∃ p, s.db.pendingActions.get? d.actionId = some p ∧ p.userId = d.userId ∧
    (p.sourceRecurringId = none ∨
      p.sourceRecurringId = some d.kayit ∧ p.sourceRecurringType = some d.kind)
  kaynak : ∀ a p, s.db.pendingActions.get? a = some p → p.sourceRecurringId ≠ none →
    ∃ d ∈ s.dogan, d.actionId = a
  tek : ∀ d ∈ s.dogan, ∀ e ∈ s.dogan, d.actionId = e.actionId → d = e

/-- The triggered actions against the marks of their records. An open action is the newest of its
record, and a mark is no older than the last action carried out. -/
structure AyDefteri (s : DuzenliOrtak ι) : Prop where
  kayit : ∀ d ∈ s.dogan, (∃ gelir, d.kind = tetikTuru gelir) ∧
    ∃ r, (duzenliler s.db d.kind).get? d.kayit = some r ∧ r.userId = d.userId
  gun : ∀ d ∈ s.dogan, d.gun.monthNo ≤ (s.gun d.userId).monthNo
  once : ∀ d ∈ s.dogan, ∀ e ∈ s.dogan, AyniKayit d e → AcikAksiyon s d.actionId →
    AcikAksiyon s e.actionId ∨ e.actionId ∈ s.yurutulen →
      d.actionId = e.actionId ∨ e.gun.monthNo < d.gun.monthNo
  ay : ∀ d ∈ s.dogan, ∀ e ∈ s.dogan, AyniKayit d e → d.gun.monthNo = e.gun.monthNo →
    d.actionId ∈ s.yurutulen → e.actionId ∈ s.yurutulen → d.actionId = e.actionId
  isaret : ∀ d ∈ s.dogan, d.actionId ∈ s.yurutulen → s.tasiyan d.actionId = none →
    ∃ g r, (duzenliler s.db d.kind).get? d.kayit = some r ∧ r.lastTriggeredYearMonth = some (ayMetni g) ∧
      d.gun.monthNo ≤ g.monthNo ∧ g.monthNo ≤ (s.gun d.userId).monthNo
  yurutulmus : ∀ d ∈ s.dogan, durumu s.db d.actionId = some .executed → d.actionId ∈ s.yurutulen

theorem AyDefteri.aydaBir {s : DuzenliOrtak ι} (h : AyDefteri s) : AydaBir s := by
  intro d hd e he hkayit hyil hay hdy hey
  have hdy := hdy.elim (fun hy => hy) (h.yurutulmus d hd)
  have hey := hey.elim (fun hy => hy) (h.yurutulmus e he)
  exact h.ay d hd e he hkayit (Date.monthNo_eq.mpr ⟨hyil, hay⟩) hdy hey

/-- The rows of the actions behind a step: none appears or goes, none changes its owner or its source,
and none becomes pending. -/
structure AksiyonIzi (d e : Db) : Prop where
  yok : ∀ a, d.pendingActions.get? a = none → e.pendingActions.get? a = none
  var : ∀ a p, d.pendingActions.get? a = some p → ∃ q, e.pendingActions.get? a = some q ∧
    q.userId = p.userId ∧ q.sourceRecurringId = p.sourceRecurringId ∧
    q.sourceRecurringType = p.sourceRecurringType ∧ (q.status = .pending → p.status = .pending)

section Rows
variable {d e f : Db} {a : ℕ}

theorem aksiyonIzi_of_eq (h : e.pendingActions = d.pendingActions) : AksiyonIzi d e :=
  ⟨fun _ ha => h ▸ ha, fun _ p hp => ⟨p, h ▸ hp, rfl, rfl, rfl, fun hs => hs⟩⟩

theorem aksiyonIzi_update {g : PendingAction → PendingAction}
    (hg : ∀ p, (g p).userId = p.userId ∧ (g p).sourceRecurringId = p.sourceRecurringId ∧
      (g p).sourceRecurringType = p.sourceRecurringType ∧ ((g p).status = .pending → p.status = .pending)) :
    AksiyonIzi d (d.write (.pendingAction (.update a g))) := by
  constructor
  · intro b hb
    simp only [Db.write, Table.change, Table.get?_modify, hb, Option.map_none, ite_self]
  · intro b p hp
    simp only [Db.write, Table.change, Table.get?_modify, hp, Option.map_some]
    by_cases hb : b = a
    · rw [if_pos hb]
      exact ⟨g p, rfl, hg p⟩
    · rw [if_neg hb]
      exact ⟨p, rfl, rfl, rfl, rfl, fun hs => hs⟩

theorem durumu_eq_some {durum : ActionStatus} :
    durumu d a = some durum ↔ ∃ p, d.pendingActions.get? a = some p ∧ p.status = durum := by
  rw [durumu, Option.map_eq_some_iff]

/-- A row that a write leaves alone keeps its status. -/
theorem durumu_update_ne {g : PendingAction → PendingAction} {b : ℕ} (hb : b ≠ a) :
    durumu (d.write (.pendingAction (.update a g))) b = durumu d b := by
  simp only [durumu, Db.write, Table.change, Table.get?_modify, if_neg hb]

theorem AksiyonIzi.bekleyen (h : AksiyonIzi d e) (he : durumu e a = some .pending) :
    durumu d a = some .pending := by
  obtain ⟨q, hq, hs⟩ := durumu_eq_some.mp he
  cases hp : d.pendingActions.get? a with
  | none =>
    rw [h.yok a hp] at hq
    cases hq
  | some p =>
    obtain ⟨q', hq', -, -, -, hdurum⟩ := h.var a p hp
    obtain rfl : q' = q := Option.some.inj (hq'.symm.trans hq)
    exact durumu_eq_some.mpr ⟨p, hp, hdurum hs⟩

theorem AksiyonIzi.yok_of (h : AksiyonIzi d e) (he : e.pendingActions.get? a = none) :
    d.pendingActions.get? a = none := by
  cases hp : d.pendingActions.get? a with
  | none => rfl
  | some p =>
    obtain ⟨q, hq, -⟩ := h.var a p hp
    rw [he] at hq
    cases hq

theorem Kaynaklar.iz {s s' : DuzenliOrtak ι} (hs : Kaynaklar s) (hd : s'.dogan = s.dogan)
    (h : AksiyonIzi s.db s'.db) : Kaynaklar s' where
  satir d hmem := by
    rw [hd] at hmem
    obtain ⟨p, hp, hu, hk⟩ := hs.satir d hmem
    obtain ⟨q, hq, hqu, hqid, hqt, -⟩ := h.var d.actionId p hp
    refine ⟨q, hq, hqu.trans hu, ?_⟩
    rw [hqid, hqt]
    exact hk
  kaynak a q hq hne := by
    rw [hd]
    cases hp : s.db.pendingActions.get? a with
    | none =>
      rw [h.yok a hp] at hq
      cases hq
    | some p =>
      obtain ⟨q', hq', -, hqid, -⟩ := h.var a p hp
      obtain rfl : q' = q := Option.some.inj (hq'.symm.trans hq)
      rw [hqid] at hne
      exact hs.kaynak a p hp hne
  tek := by
    rw [hd]
    exact hs.tek

end Rows

/-- A step that creates nothing, marks nothing and opens nothing. What it carries out was open, and
stays with the request that carries it out. -/
structure Sakin (s s' : DuzenliOrtak ι) : Prop where
  dogan : s'.dogan = s.dogan
  gun : ∀ u, (s.gun u).monthNo ≤ (s'.gun u).monthNo
  kayitlar : ∀ kind, duzenliler s'.db kind = duzenliler s.db kind
  acik : ∀ a, AcikAksiyon s' a → AcikAksiyon s a
  yurutulen : ∀ a ∈ s'.yurutulen, a ∈ s.yurutulen ∨ AcikAksiyon s a ∧ s'.tasiyan a ≠ none
  kalan : ∀ a ∈ s.yurutulen, a ∈ s'.yurutulen
  birakan : ∀ d ∈ s.dogan, d.actionId ∈ s.yurutulen → s'.tasiyan d.actionId = none →
    s.tasiyan d.actionId = none
  yurutulmus : ∀ d ∈ s.dogan, durumu s'.db d.actionId = some .executed →
    d.actionId ∈ s.yurutulen ∨ durumu s.db d.actionId = some .executed

theorem Sakin.defter {s s' : DuzenliOrtak ι} (h : Sakin s s') (hs : AyDefteri s) : AyDefteri s' where
  kayit d hd := by
    rw [h.dogan] at hd
    rw [h.kayitlar]
    exact hs.kayit d hd
  gun d hd := by
    rw [h.dogan] at hd
    exact (hs.gun d hd).trans (h.gun d.userId)
  once d hd e he hkayit hacik hcanli := by
    rw [h.dogan] at hd he
    refine hs.once d hd e he hkayit (h.acik _ hacik) ?_
    rcases hcanli with ha | hy
    · exact .inl (h.acik _ ha)
    · exact (h.yurutulen _ hy).elim .inr fun hy => .inl hy.1
  ay d hd e he hkayit hay hdy hey := by
    rw [h.dogan] at hd he
    have hsira : ∀ d ∈ s.dogan, ∀ e ∈ s.dogan, AyniKayit d e → d.gun.monthNo = e.gun.monthNo →
        AcikAksiyon s d.actionId → e.actionId ∈ s'.yurutulen → d.actionId = e.actionId := by
      intro d hd e he hkayit hay hacik hey
      have hcanli := (h.yurutulen _ hey).elim Or.inr fun hy => Or.inl hy.1
      exact (hs.once d hd e he hkayit hacik hcanli).resolve_right (by omega)
    rcases h.yurutulen _ hdy with hdo | ⟨hda, -⟩
    · rcases h.yurutulen _ hey with heo | ⟨hea, -⟩
      · exact hs.ay d hd e he hkayit hay hdo heo
      · exact (hsira e he d hd ⟨hkayit.1.symm, hkayit.2.symm⟩ hay.symm hea hdy).symm
    · exact hsira d hd e he hkayit hay hda hey
  isaret d hd hdy hbos := by
    rw [h.dogan] at hd
    rw [h.kayitlar]
    rcases h.yurutulen _ hdy with hdo | ⟨-, hne⟩
    · obtain ⟨g, r, hr, hg, hdg, hgn⟩ := hs.isaret d hd hdo (h.birakan d hd hdo hbos)
      exact ⟨g, r, hr, hg, hdg, hgn.trans (h.gun d.userId)⟩
    · exact absurd hbos hne
  yurutulmus d hd hdurum := by
    rw [h.dogan] at hd
    rcases h.yurutulmus d hd hdurum with hy | hy
    · exact h.kalan _ hy
    · exact h.kalan _ (hs.yurutulmus d hd hy)

section Decisions
variable {userId a : ℕ} {i j : ι} {s s' : DuzenliOrtak ι} {k k' : Konum}

/-- What a decision on an action knows from where it stands. -/
structure KararYeri (a : ℕ) (i : ι) (s : DuzenliOrtak ι) (k : Konum) : Prop where
  tasir : ∀ b, s.tasiyan b = some i ↔ tasiyor k = true ∧ b = a
  kilit : ∀ b, s.kilit b = some i ↔ k = .onaylayacak ∧ b = a
  kayit : k.Kayitli
  yazan : k.yazacakMi = true → a ∈ s.yurutulen
  once : tasiyor k = true → k.yazacakMi = false → a ∉ s.yurutulen

/-- The row behind a claim that is still being carried out is not pending. -/
theorem tasinan_bekleyen (hl : KilitDuzeni s) (hy : KararYeri a i s k) (hk : k.tasiyan = true) :
    s.tasiyan a = some i ∧ s.kilit a = none ∧ durumu s.db a ≠ some .pending := by
  have htas := (hy.tasir a).mpr ⟨(tasiyor_of_tasiyan hk).1, rfl⟩
  have hkilit : s.kilit a = none := by
    cases hl' : s.kilit a with
    | none => rfl
    | some j =>
      have hj := hl.kilitli a j hl'
      rw [htas] at hj
      cases hj
      exact absurd ((hy.kilit a).mp hl').1 (Konum.tasiyan_once hk).2
  refine ⟨htas, hkilit, fun hd => ?_⟩
  have := hl.serbest a hd hkilit
  rw [htas] at this
  cases this

private theorem acik_birakan {v : Option ι} (hv : v = none) {b : ℕ} {db : Db} {t : ℕ → Option ι}
    (h : durumu db b = some .pending ∨ Function.update t a v b ≠ none) :
    durumu db b = some .pending ∨ t b ≠ none := by
  refine h.imp_right fun hne => ?_
  by_cases hb : b = a
  · subst hb
    rw [Function.update_self] at hne
    exact absurd hv hne
  · rwa [Function.update_of_ne hb] at hne

theorem sahiplen_sakin (hdurum : durumu s.db a = some .pending) :
    Sakin s { s with
      kilit := Function.update s.kilit a (some i)
      tasiyan := Function.update s.tasiyan a (some i) } where
  dogan := rfl
  gun _ := le_rfl
  kayitlar _ := rfl
  acik b hb := by
    by_cases he : b = a
    · exact .inl (he ▸ hdurum)
    · refine hb.imp_right fun hne => ?_
      dsimp only at hne
      rwa [Function.update_of_ne he] at hne
  yurutulen _ hb := .inl hb
  kalan _ hb := hb
  birakan d _ _ hbos := by
    dsimp only at hbos
    by_cases he : d.actionId = a
    · rw [he, Function.update_self] at hbos
      cases hbos
    · rwa [Function.update_of_ne he] at hbos
  yurutulmus _ _ hd := .inr hd

/-- A write to a row that decides nothing about who carries it. -/
theorem satir_sakin {db : Db} {kilit : ℕ → Option ι} (hk : ∀ kind, duzenliler db kind = duzenliler s.db kind)
    (hiz : AksiyonIzi s.db db) (hyur : ∀ b, durumu db b = some .executed →
      b ∈ s.yurutulen ∨ durumu s.db b = some .executed) :
    Sakin s { s with db := db, kilit := kilit } where
  dogan := rfl
  gun _ := le_rfl
  kayitlar := hk
  acik _ hb := hb.imp_left hiz.bekleyen
  yurutulen _ hb := .inl hb
  kalan _ hb := hb
  birakan _ _ _ hbos := hbos
  yurutulmus _ _ hd := hyur _ hd

theorem birak_sakin (ha : ∀ d ∈ s.dogan, d.actionId = a → a ∉ s.yurutulen) :
    Sakin s { s with tasiyan := Function.update s.tasiyan a none } where
  dogan := rfl
  gun _ := le_rfl
  kayitlar _ := rfl
  acik _ hb := acik_birakan rfl hb
  yurutulen _ hb := .inl hb
  kalan _ hb := hb
  birakan d hd hy hbos := by
    dsimp only at hbos
    rwa [Function.update_of_ne] at hbos
    rintro he
    exact ha d hd he (he ▸ hy)
  yurutulmus _ _ hd := .inr hd

theorem isledi_sakin {ws : List Write} (hws : ∀ w ∈ ws, HandlerWrite w) (htas : s.tasiyan a ≠ none) :
    Sakin s { s with db := s.db.writeAll ws, yurutulen := a :: s.yurutulen } where
  dogan := rfl
  gun _ := le_rfl
  kayitlar kind := by
    obtain ⟨-, hi, he, -⟩ := handler_frame hws s.db
    cases kind with
    | income => exact hi
    | _ => exact he
  acik b hb := by
    refine hb.imp_left fun hd => ?_
    rwa [durumu_writeAll hws] at hd
  yurutulen b hb := by
    rcases List.mem_cons.mp hb with rfl | hb
    · exact .inr ⟨.inr htas, htas⟩
    · exact .inl hb
  kalan _ hb := List.mem_cons_of_mem _ hb
  birakan _ _ _ hbos := hbos
  yurutulmus _ _ hd := by
    right
    rwa [durumu_writeAll hws] at hd

/-- The last write of an approval marks the record with the month the action was created in. -/
theorem isaret_defter {d₀ : Dogum} {gelir : Bool} (hk : Kaynaklar s) (hs : AyDefteri s) (hd₀ : d₀ ∈ s.dogan)
    (hgelir : d₀.kind = tetikTuru gelir) (htas : s.tasiyan d₀.actionId ≠ none) :
    AyDefteri { s with
      db := s.db.write (isaretYaz gelir d₀.kayit (ayMetni d₀.gun))
      tasiyan := Function.update s.tasiyan d₀.actionId none } := by
  have hdurum (b : ℕ) : durumu (s.db.write (isaretYaz gelir d₀.kayit (ayMetni d₀.gun))) b = durumu s.db b := by
    rw [durumu, pendingActions_isaretYaz]
    rfl
  have hacik (b : ℕ) (h : AcikAksiyon { s with
      db := s.db.write (isaretYaz gelir d₀.kayit (ayMetni d₀.gun))
      tasiyan := Function.update s.tasiyan d₀.actionId none } b) : AcikAksiyon s b := by
    have hb := acik_birakan rfl h
    dsimp only at hb
    rwa [hdurum] at hb
  refine ⟨fun d hd => ?_, hs.gun, fun d hd e he hkayit ha hcanli => ?_, hs.ay, fun d hd hdy hbos => ?_,
    fun d hd hex => ?_⟩
  · obtain ⟨⟨gelir', hkind⟩, r, hr, hu⟩ := hs.kayit d hd
    refine ⟨⟨gelir', hkind⟩, ?_⟩
    rw [hkind] at hr ⊢
    rw [get?_isaretYaz, hr]
    split
    · exact ⟨_, rfl, hu⟩
    · exact ⟨r, rfl, hu⟩
  · exact hs.once d hd e he hkayit (hacik _ ha) (hcanli.imp_left (hacik _))
  · obtain ⟨⟨gelir', hkind⟩, r, hr, hu⟩ := hs.kayit d hd
    dsimp only at hbos ⊢
    rw [hkind] at hr ⊢
    rw [get?_isaretYaz, hr]
    by_cases hayni : gelir' = gelir ∧ d.kayit = d₀.kayit
    · rw [if_pos hayni]
      obtain ⟨rfl, hid⟩ := hayni
      obtain ⟨-, r₀, hr₀, hu₀⟩ := hs.kayit d₀ hd₀
      rw [hgelir, ← hid, hr] at hr₀
      cases hr₀
      -- the marked action was open, so no action of the record is newer
      have hyeni : d.gun.monthNo ≤ d₀.gun.monthNo := by
        rcases hs.once d₀ hd₀ d hd ⟨hgelir.trans hkind.symm, hid.symm⟩ (.inr htas) (.inr hdy) with he | hlt
        · exact (hk.tek d₀ hd₀ d hd he) ▸ le_rfl
        · exact hlt.le
      refine ⟨d₀.gun, _, rfl, rfl, hyeni, ?_⟩
      rw [← hu, hu₀]
      exact hs.gun d₀ hd₀
    · rw [if_neg hayni]
      have hne : d.actionId ≠ d₀.actionId := by
        intro he
        obtain rfl := hk.tek d hd d₀ hd₀ he
        apply hayni
        rw [hkind] at hgelir
        cases gelir <;> cases gelir' <;> simp_all [tetikTuru]
      rw [Function.update_of_ne hne] at hbos
      obtain ⟨g, r', hr', hg⟩ := hs.isaret d hd hdy hbos
      rw [hkind, hr] at hr'
      cases hr'
      exact ⟨g, r, rfl, hg⟩
  · dsimp only at hex
    rw [hdurum] at hex
    exact hs.yurutulmus d hd hex

theorem pendingActions_mark {db d : Db} {bugun : Date} {pending : PendingAction} {payload : Payload} :
    (d.writeAll (markRecurringTriggered db bugun pending payload)).pendingActions = d.pendingActions := by
  rcases markRecurringTriggered_cases db bugun pending payload with he | ⟨_, _, he⟩ | ⟨_, _, he⟩
  all_goals
    rw [he]
    rfl

theorem durumYaz_izi {durum : ActionStatus} (hd : durum ≠ .pending) : AksiyonIzi s.db (s.db.write (durumYaz a durum)) :=
  aksiyonIzi_update fun _ => ⟨rfl, rfl, rfl, fun h => absurd h hd⟩

/-- The invariants of the shared state. -/
structure Duzen (s : DuzenliOrtak ι) : Prop where
  kaynak : Kaynaklar s
  ay : AyDefteri s
  kilit : KilitDuzeni s

theorem KilitDuzeni.satir {db : Db} (hl : KilitDuzeni s) (hiz : AksiyonIzi s.db db) :
    KilitDuzeni { s with db := db } where
  kilitli := hl.kilitli
  serbest b hd hk := hl.serbest b (hiz.bekleyen hd) hk
  bekleyen b hd := hl.bekleyen b (hiz.bekleyen hd)
  satirsiz b hb := hl.satirsiz b (hiz.yok_of hb)

theorem KilitDuzeni.birak (hl : KilitDuzeni s) (ha : s.kilit a = none) :
    KilitDuzeni { s with tasiyan := Function.update s.tasiyan a none } where
  kilitli b j hj := by
    dsimp only at hj ⊢
    rw [Function.update_of_ne]
    · exact hl.kilitli b j hj
    · rintro rfl
      rw [ha] at hj
      cases hj
  serbest b hd hk := by
    dsimp only
    by_cases hb : b = a
    · rw [hb, Function.update_self]
    · rw [Function.update_of_ne hb]
      exact hl.serbest b hd hk
  bekleyen := hl.bekleyen
  satirsiz b hb := by
    refine ⟨(hl.satirsiz b hb).1, ?_⟩
    dsimp only
    by_cases he : b = a
    · rw [he, Function.update_self]
    · rw [Function.update_of_ne he]
      exact (hl.satirsiz b hb).2

theorem KilitDuzeni.sahiplen (hl : KilitDuzeni s) (hdurum : durumu s.db a = some .pending) :
    KilitDuzeni { s with
      kilit := Function.update s.kilit a (some i)
      tasiyan := Function.update s.tasiyan a (some i) } where
  kilitli b j hj := by
    dsimp only at hj ⊢
    by_cases hb : b = a
    · subst hb
      rw [Function.update_self] at hj ⊢
      exact hj
    · rw [Function.update_of_ne hb] at hj ⊢
      exact hl.kilitli b j hj
  serbest b hd hk := by
    dsimp only at hk ⊢
    by_cases hb : b = a
    · rw [hb, Function.update_self] at hk
      cases hk
    · rw [Function.update_of_ne hb] at hk ⊢
      exact hl.serbest b hd hk
  bekleyen := hl.bekleyen
  satirsiz b hb := by
    refine ⟨(hl.satirsiz b hb).1, ?_⟩
    dsimp only
    rw [Function.update_of_ne]
    · exact (hl.satirsiz b hb).2
    · rintro rfl
      obtain ⟨p, hp, -⟩ := durumu_eq_some.mp hdurum
      dsimp only at hb
      rw [hp] at hb
      cases hb

theorem KilitDuzeni.onayla (hl : KilitDuzeni s) :
    KilitDuzeni { s with db := s.db.write (durumYaz a .approved), kilit := Function.update s.kilit a none } where
  kilitli b j hj := by
    dsimp only at hj
    by_cases hb : b = a
    · rw [hb, Function.update_self] at hj
      cases hj
    · rw [Function.update_of_ne hb] at hj
      exact hl.kilitli b j hj
  serbest b hd hk := by
    dsimp only at hd hk
    have hb : b ≠ a := by
      rintro rfl
      rw [durumu_durumYaz] at hd
      exact absurd hd (map_ne_pending (by decide))
    rw [Function.update_of_ne hb] at hk
    exact hl.serbest b ((durumYaz_izi (by decide)).bekleyen hd) hk
  bekleyen b hd := hl.bekleyen b ((durumYaz_izi (by decide)).bekleyen hd)
  satirsiz b hb := hl.satirsiz b ((durumYaz_izi (by decide)).yok_of hb)

theorem KilitDuzeni.isledi {ws : List Write} (hl : KilitDuzeni s) (hws : ∀ w ∈ ws, HandlerWrite w)
    (htas : s.tasiyan a ≠ none) (ha : durumu s.db a ≠ some .pending) :
    KilitDuzeni { s with db := s.db.writeAll ws, yurutulen := a :: s.yurutulen } where
  kilitli := hl.kilitli
  serbest b hd hk := by
    rw [durumu_writeAll hws] at hd
    exact hl.serbest b hd hk
  bekleyen b hd hb := by
    rw [durumu_writeAll hws] at hd
    rcases List.mem_cons.mp hb with rfl | hb
    · exact ha hd
    · exact hl.bekleyen b hd hb
  satirsiz b hb := by
    rw [(handler_frame hws s.db).1] at hb
    obtain ⟨hby, hbt⟩ := hl.satirsiz b hb
    refine ⟨fun hmem => ?_, hbt⟩
    rcases List.mem_cons.mp hmem with rfl | hmem
    · exact htas hbt
    · exact hby hmem

/-- A triggered action reaches its last write with its source, and the mark is its month. -/
theorem yazdi_duzen {pending : PendingAction} {payload : Option Payload} {cevap : Cevap} {db : Db}
    (hs : Duzen s) (hy : KararYeri a i s (.yazacak pending payload cevap)) (hkilit : s.kilit a = none)
    (hu : YazimUygun userId a s (.yazacak pending payload cevap))
    (hdb : commit s.db (durumYaz a .executed :: markRecurringTriggered s.db (s.gun userId)
      ((s.db.pendingActions.get? a).getD pending) (payload.getD [])) = .ok db) :
    Duzen { s with db := db, tasiyan := Function.update s.tasiyan a none } := by
  obtain ⟨rfl, -⟩ := commit_ok.mp hdb
  have htas := (hy.tasir a).mpr ⟨rfl, rfl⟩
  have hyur := hy.yazan rfl
  obtain ⟨p, hp⟩ : ∃ p, s.db.pendingActions.get? a = some p := by
    cases hp : s.db.pendingActions.get? a with
    | none => exact absurd hyur (hs.kilit.satirsiz a hp).1
    | some p => exact ⟨p, rfl⟩
  rw [hp, Option.getD_some, writeAll_cons]
  have hiz : AksiyonIzi s.db (s.db.write (durumYaz a .executed)) := durumYaz_izi (by decide)
  have hson : AksiyonIzi s.db ((s.db.write (durumYaz a .executed)).writeAll
      (markRecurringTriggered s.db (s.gun userId) p (payload.getD []))) := by
    refine ⟨fun b hb => ?_, fun b q hq => ?_⟩
    · rw [pendingActions_mark]
      exact hiz.yok b hb
    · rw [pendingActions_mark]
      exact hiz.var b q hq
  have hdurum : Sakin s { s with db := s.db.write (durumYaz a .executed) } := by
    refine satir_sakin (fun kind => by cases kind <;> rfl) hiz fun b hb => ?_
    by_cases he : b = a
    · exact .inl (he ▸ hyur)
    · rw [durumYaz, durumu_update_ne he] at hb
      exact .inr hb
  refine ⟨hs.kaynak.iz rfl hson, ?_, (hs.kilit.satir hson).birak hkilit⟩
  by_cases hdogum : ∃ d ∈ s.dogan, d.actionId = a
  · obtain ⟨d, hd, rfl⟩ := hdogum
    obtain ⟨⟨p', hp', hkaynak⟩, hay, -⟩ := hu d hd rfl
    rw [hp] at hp'
    cases hp'
    obtain ⟨q, hq, huser, hk⟩ := hs.kaynak.satir d hd
    rw [hp] at hq
    cases hq
    obtain ⟨⟨gelir, hgelir⟩, r, hr, hru⟩ := hs.ay.kayit d hd
    obtain ⟨hid, htur⟩ := hk.resolve_left fun hn => by simp [hn] at hkaynak
    rw [hgelir] at hr htur
    rw [markRecurringTriggered_eq hid htur hr (hru.trans huser.symm), hay]
    have hkaynaklar : Kaynaklar { s with db := s.db.write (durumYaz d.actionId .executed) } :=
      hs.kaynak.iz rfl hiz
    exact isaret_defter hkaynaklar (hdurum.defter hs.ay) hd hgelir (by simp [htas])
  · have hyok : markRecurringTriggered s.db (s.gun userId) p (payload.getD []) = [] := by
      have hid : p.sourceRecurringId = none := by
        by_contra hne
        exact hdogum (hs.kaynak.kaynak a p hp hne)
      simp only [markRecurringTriggered, hid]
    rw [hyok]
    refine (birak_sakin fun d hd he => ?_).defter (hdurum.defter hs.ay)
    exact absurd ⟨d, hd, he⟩ hdogum

/-- The mark of a triggered action is well formed. -/
theorem not_tetikBozuk {pending : PendingAction} {payload : Option Payload} {cevap : Cevap} (hs : Duzen s)
    (hy : KararYeri a i s (.yazacak pending payload cevap))
    (hu : YazimUygun userId a s (.yazacak pending payload cevap)) :
    ¬ TetikBozuk s.db (s.gun userId) ((s.db.pendingActions.get? a).getD pending) (payload.getD []) := by
  rintro ⟨id, hid, hym, -⟩
  cases hp : s.db.pendingActions.get? a with
  | none => exact absurd (hy.yazan rfl) (hs.kilit.satirsiz a hp).1
  | some p =>
    rw [hp, Option.getD_some] at hid
    obtain ⟨d, hd, rfl⟩ := hs.kaynak.kaynak a p hp (by simp [hid])
    obtain ⟨-, hay, hyil⟩ := hu d hd rfl
    rw [hay, hyil] at hym
    cases hym

theorem kararYazimi_izi {f : PendingAction → PendingAction} (hf : KararYazimi f) :
    AksiyonIzi s.db (s.db.write (.pendingAction (.update a f))) :=
  aksiyonIzi_update fun p => ⟨hf.sahip p, (hf.kaynak p).1, (hf.kaynak p).2, fun h => absurd h (hf.durum p).1⟩

/-- A write to a row that leaves the records and the carried actions alone. -/
theorem satir_duzen {db : Db} (hs : Duzen s) (hk : ∀ kind, duzenliler db kind = duzenliler s.db kind)
    (hiz : AksiyonIzi s.db db) (hyur : ∀ b, durumu db b = some .executed →
      b ∈ s.yurutulen ∨ durumu s.db b = some .executed) : Duzen { s with db := db } :=
  ⟨hs.kaynak.iz rfl hiz, (satir_sakin hk hiz hyur).defter hs.ay, hs.kilit.satir hiz⟩

theorem yururlukte_update {f : PendingAction → PendingAction} (hf : ∀ p, (f p).status ≠ .executed) {b : ℕ}
    (h : durumu (s.db.write (.pendingAction (.update a f))) b = some .executed) :
    durumu s.db b = some .executed := by
  by_cases hb : b = a
  · subst hb
    obtain ⟨q, hq, hs⟩ := durumu_eq_some.mp h
    simp only [Db.write, Table.change, Table.get?_modify, if_true] at hq
    obtain ⟨p, -, rfl⟩ := Option.map_eq_some_iff.mp hq
    exact absurd hs (hf p)
  · rwa [durumu_update_ne hb] at h

/-- A place that carries nothing. -/
theorem kararYeri_bos (htas : ∀ b, s.tasiyan b ≠ some i) (hkilit : ∀ b, s.kilit b ≠ some i)
    (hbos : tasiyor k = false) (hkayit : k.Kayitli) : KararYeri a i s k where
  tasir b := iff_of_false (htas b) fun h => by simp [hbos] at h
  kilit b := iff_of_false (hkilit b) fun h => by
    rw [h.1] at hbos
    cases hbos
  kayit := hkayit
  yazan h := by
    rw [tasiyor_of_yazacakMi h] at hbos
    cases hbos
  once h := by
    rw [hbos] at h
    cases h

theorem KararYeri.tasiyan_ne (hy : KararYeri a i s k) (hbos : tasiyor k = false) (b : ℕ) :
    s.tasiyan b ≠ some i := by
  intro h
  have := ((hy.tasir b).mp h).1
  rw [hbos] at this
  cases this

theorem KararYeri.kilit_ne (hy : KararYeri a i s k) (hne : k ≠ .onaylayacak) (b : ℕ) : s.kilit b ≠ some i :=
  fun h => hne ((hy.kilit b).mp h).1

/-- What the request carried is put down. -/
theorem birakan_ne (hy : KararYeri a i s k) (b : ℕ) : Function.update s.tasiyan a none b ≠ some i := by
  by_cases hb : b = a
  · rw [hb, Function.update_self]
    exact (Option.some_ne_none i).symm
  · rw [Function.update_of_ne hb]
    exact fun h => hb ((hy.tasir b).mp h).2

theorem ne_onaylayacak (h : tasiyor k = false) : k ≠ .onaylayacak := by
  rintro rfl
  cases h

/-- One step of a decision keeps the invariants, and its own place. -/
theorem karar_own (hs : Duzen s) (hy : KararYeri a i s k) (hu : YazimUygun userId a s k)
    (h : KararHareketi userId a i s k s' k') : Duzen s' ∧ KararYeri a i s' k' := by
  cases h with
  | ilerle _ _ htasir hkilit hyaz hkayit =>
    refine ⟨hs, fun b => ?_, fun b => ?_, hkayit, fun hy' => hy.yazan (hyaz ▸ hy'), fun ht hn => ?_⟩
    · rw [htasir]
      exact hy.tasir b
    · rw [hkilit]
      exact hy.kilit b
    · exact hy.once (htasir ▸ ht) (hyaz ▸ hn)
  | sahiplen hkilit hdurum =>
    have hrow : AksiyonIzi s.db s.db := aksiyonIzi_of_eq rfl
    have hyok : ∀ b, s.tasiyan b ≠ some i := hy.tasiyan_ne rfl
    have hkyok : ∀ b, s.kilit b ≠ some i := hy.kilit_ne (fun h => by cases h)
    refine ⟨⟨hs.kaynak.iz rfl hrow, (sahiplen_sakin hdurum).defter hs.ay, hs.kilit.sahiplen hdurum⟩,
      fun b => ?_, fun b => ?_, trivial, (fun h => by cases h), fun _ _ => hs.kilit.bekleyen a hdurum⟩
    · by_cases hb : b = a
      · simp [hb, tasiyor]
      · simp [hb, hyok b]
    · by_cases hb : b = a
      · simp [hb]
      · simp [hb, hkyok b]
  | onayla =>
    have hiz : AksiyonIzi s.db (s.db.write (durumYaz a .approved)) := durumYaz_izi (by decide)
    have hsakin : Sakin s { s with
        db := s.db.write (durumYaz a .approved), kilit := Function.update s.kilit a none } :=
      satir_sakin (fun kind => by cases kind <;> rfl) hiz fun b hb =>
        .inr (yururlukte_update (fun _ => by simp) hb)
    refine ⟨⟨hs.kaynak.iz rfl hiz, hsakin.defter hs.ay, hs.kilit.onayla⟩, hy.tasir, fun b => ?_, trivial,
      (fun h => by cases h), hy.once⟩
    by_cases hb : b = a
    · simp [hb]
    · have := hy.kilit b
      simp [hb] at this
      simp [hb, this]
  | vazgec _ _ hk hk' hbos =>
    obtain ⟨htas, hkilit, -⟩ := tasinan_bekleyen hs.kilit hy hk
    have hrow : AksiyonIzi s.db s.db := aksiyonIzi_of_eq rfl
    have honce := hy.once (tasiyor_of_tasiyan hk).1 (tasiyor_of_tasiyan hk).2
    refine ⟨⟨hs.kaynak.iz rfl hrow, (birak_sakin fun _ _ _ => honce).defter hs.ay, hs.kilit.birak hkilit⟩,
      kararYeri_bos (birakan_ne hy) (hy.kilit_ne (Konum.tasiyan_once hk).2) hbos hk'.kayit⟩
  | isledi _ _ ws hk hws hk' =>
    obtain ⟨htas, hkilit, hdurum⟩ := tasinan_bekleyen hs.kilit hy hk
    have htas' : s.tasiyan a ≠ none := by simp [htas]
    have hiz : AksiyonIzi s.db (s.db.writeAll ws) := aksiyonIzi_of_eq (handler_frame hws s.db).1
    refine ⟨⟨hs.kaynak.iz rfl hiz, (isledi_sakin hws htas').defter hs.ay, hs.kilit.isledi hws htas' hdurum⟩,
      fun b => ?_, fun b => ?_, (Konum.yazacakMi_bosta hk').kayit, fun _ => List.mem_cons_self,
      fun _ hn => ?_⟩
    · rw [hy.tasir b, tasiyor_of_yazacakMi hk', (tasiyor_of_tasiyan hk).1]
    · exact iff_of_false (hy.kilit_ne (Konum.tasiyan_once hk).2 b) fun h => (Konum.yazacakMi_bosta hk').kilit h.1
    · rw [hk'] at hn
      cases hn
  | yazdi pending payload cevap db hkilit hdb =>
    exact ⟨yazdi_duzen hs hy hkilit hu hdb,
      kararYeri_bos (birakan_ne hy) (hy.kilit_ne (fun h => by cases h)) rfl trivial⟩
  | yazamadi pending payload cevap mesaj yanit hbozuk => exact absurd hbozuk (not_tetikBozuk hs hy hu)
  | satirYaz _ _ f hf hkilit hk hk' hbos =>
    refine ⟨satir_duzen hs (fun kind => by cases kind <;> rfl) (kararYazimi_izi hf) fun b hb =>
      .inr (yururlukte_update (fun p => (hf.durum p).2) hb), ?_⟩
    exact kararYeri_bos (hy.tasiyan_ne hk) (hy.kilit_ne (ne_onaylayacak hk)) hbos hk'.kayit

/-- A step of a decision does not touch what another request carries. -/
theorem karar_other (hj : j ≠ i) (hs : Duzen s) (hy : KararYeri a i s k)
    (h : KararHareketi userId a i s k s' k') (b : ℕ) :
    (s'.tasiyan b = some j ↔ s.tasiyan b = some j) ∧ (s'.kilit b = some j ↔ s.kilit b = some j) ∧
      (s.tasiyan b = some j → (b ∈ s'.yurutulen ↔ b ∈ s.yurutulen)) := by
  have hji : ¬ some i = some j := fun he => hj (Option.some.inj he).symm
  have hdegis (t : ℕ → Option ι) (v : Option ι) (hv : v ≠ some j) (ht : t a ≠ some j) :
      Function.update t a v b = some j ↔ t b = some j := by
    by_cases hb : b = a
    · subst hb
      rw [Function.update_self]
      exact iff_of_false hv ht
    · rw [Function.update_of_ne hb]
  have htasa : tasiyor k = true → s.tasiyan a ≠ some j := by
    intro ht
    rw [(hy.tasir a).mpr ⟨ht, rfl⟩]
    exact hji
  cases h with
  | ilerle => exact ⟨Iff.rfl, Iff.rfl, fun _ => Iff.rfl⟩
  | sahiplen hkilit hdurum =>
    have hbos := hs.kilit.serbest a hdurum hkilit
    exact ⟨hdegis s.tasiyan (some i) hji (by simp [hbos]), hdegis s.kilit (some i) hji (by simp [hkilit]),
      fun _ => Iff.rfl⟩
  | onayla =>
    have hkilit : s.kilit a ≠ some j := by
      rw [(hy.kilit a).mpr ⟨rfl, rfl⟩]
      exact hji
    exact ⟨Iff.rfl, hdegis s.kilit none (by simp) hkilit, fun _ => Iff.rfl⟩
  | vazgec _ _ hk _ _ =>
    exact ⟨hdegis s.tasiyan none (by simp) (htasa (tasiyor_of_tasiyan hk).1), Iff.rfl, fun _ => Iff.rfl⟩
  | isledi _ _ ws hk _ _ =>
    refine ⟨Iff.rfl, Iff.rfl, fun hb => ?_⟩
    have hne : b ≠ a := by
      rintro rfl
      exact htasa (tasiyor_of_tasiyan hk).1 hb
    simp [hne]
  | yazdi => exact ⟨hdegis s.tasiyan none (by simp) (htasa rfl), Iff.rfl, fun _ => Iff.rfl⟩
  | yazamadi => exact ⟨hdegis s.tasiyan none (by simp) (htasa rfl), Iff.rfl, fun _ => Iff.rfl⟩
  | satirYaz => exact ⟨Iff.rfl, Iff.rfl, fun _ => Iff.rfl⟩

end Decisions

section Proposals
variable {k : TeklifKurallari} {s : DuzenliOrtak ι}

/-- What `propose_action` commits for a trigger: a pending row without a source. -/
theorem oneriYaz_satiri {db : Db} {kind : RecurringKind} {userId : ℕ} {kasa : Option ℕ} {bugun : Date}
    {r : Recurring} {ws : List Write}
    (h : oneriYaz k db none "" (duzenliOneri kind userId kasa bugun r) = .ok ws) :
    ∃ p, ws = [.pendingAction (.insert p)] ∧ p.userId = userId ∧ p.status = .pending ∧
      p.sourceRecurringId = none := by
  have ho : (duzenliOneri kind userId kasa bugun r).userId = userId ∧
      (duzenliOneri kind userId kasa bugun r).kaynak = none := by
    cases kind <;> exact ⟨rfl, rfl⟩
  simp only [oneriYaz, proposeAction, bind_eq_ok, within_eq_ok, pure_eq_ok] at h
  obtain ⟨-, -, p, -, -, -, -, -, q, -, hws⟩ := h
  refine ⟨_, hws.symm, ho.1, rfl, ?_⟩
  rw [ho.2]
  rfl

/-- A new proposal of a record that has no other open and is not marked with the month. -/
theorem ekle_duzen {p : PendingAction} {d₀ : Dogum} {gelir : Bool} {r : Recurring} (hs : Duzen s)
    (hid : d₀.actionId = s.db.pendingActions.freshKey) (hkind : d₀.kind = tetikTuru gelir)
    (hgun : d₀.gun = s.gun d₀.userId) (hpu : p.userId = d₀.userId) (hps : p.status = .pending)
    (hpk : p.sourceRecurringId = none) (hr : (duzenliler s.db d₀.kind).get? d₀.kayit = some r)
    (hru : r.userId = d₀.userId) (hisaret : ∀ g : Date, r.lastTriggeredYearMonth = some (ayMetni g) →
      g.monthNo ≠ d₀.gun.monthNo)
    (hkapali : ∀ d ∈ s.dogan, AyniKayit d d₀ → ¬ AcikAksiyon s d.actionId) :
    Duzen { s with db := s.db.write (.pendingAction (.insert p)), dogan := d₀ :: s.dogan } := by
  have hyok : s.db.pendingActions.get? d₀.actionId = none := by
    rw [hid]
    exact Table.get?_freshKey _
  obtain ⟨hyur, htas⟩ := hs.kilit.satirsiz d₀.actionId hyok
  have hrow (b : ℕ) : (s.db.write (.pendingAction (.insert p))).pendingActions.get? b =
      if b = d₀.actionId then some p else s.db.pendingActions.get? b := by
    rw [hid]
    exact Table.get?_push ..
  have heski {d : Dogum} (hd : d ∈ s.dogan) : d.actionId ≠ d₀.actionId := by
    intro he
    obtain ⟨q, hq, -⟩ := hs.kaynak.satir d hd
    rw [he, hyok] at hq
    cases hq
  have hdurum {b : ℕ} (hb : b ≠ d₀.actionId) :
      durumu (s.db.write (.pendingAction (.insert p))) b = durumu s.db b := by
    rw [durumu, hrow, if_neg hb]
    rfl
  have hkullanici {d : Dogum} (hd : d ∈ s.dogan) (hk : AyniKayit d d₀) : d.userId = d₀.userId := by
    obtain ⟨-, r', hr', hu'⟩ := hs.ay.kayit d hd
    rw [hk.1, hk.2, hr] at hr'
    cases hr'
    exact hu'.symm.trans hru
  -- everything of the record that was carried out is older than the mark, and so than this month
  have honce {d : Dogum} (hd : d ∈ s.dogan) (hk : AyniKayit d d₀) (hy : d.actionId ∈ s.yurutulen) :
      d.gun.monthNo < d₀.gun.monthNo := by
    have hbos : s.tasiyan d.actionId = none := by
      by_contra hne
      exact hkapali d hd hk (.inr hne)
    obtain ⟨g, r', hr', hg, hdg, hgn⟩ := hs.ay.isaret d hd hy hbos
    rw [hk.1, hk.2, hr] at hr'
    cases hr'
    have hne := hisaret g hg
    rw [hkullanici hd hk, ← hgun] at hgn
    omega
  refine ⟨⟨?_, ?_, ?_⟩, ⟨?_, ?_, ?_, ?_, ?_, ?_⟩, ⟨hs.kilit.kilitli, ?_, ?_, ?_⟩⟩
  · intro d hd
    rcases List.mem_cons.mp hd with rfl | hd
    · exact ⟨p, (hrow d.actionId).trans (if_pos rfl), hpu, .inl hpk⟩
    · obtain ⟨q, hq, hu, hk⟩ := hs.kaynak.satir d hd
      exact ⟨q, (hrow d.actionId).trans ((if_neg (heski hd)).trans hq), hu, hk⟩
  · intro b q hq hne
    rw [hrow] at hq
    split at hq
    · cases hq
      exact absurd hpk hne
    · obtain ⟨d, hd, he⟩ := hs.kaynak.kaynak b q hq hne
      exact ⟨d, List.mem_cons_of_mem _ hd, he⟩
  · intro d hd e he hde
    rcases List.mem_cons.mp hd with rfl | hds
    · rcases List.mem_cons.mp he with rfl | hes
      · rfl
      · exact absurd hde.symm (heski hes)
    · rcases List.mem_cons.mp he with rfl | hes
      · exact absurd hde (heski hds)
      · exact hs.kaynak.tek d hds e hes hde
  · intro d hd
    have hk : ∀ kind, duzenliler (s.db.write (.pendingAction (.insert p))) kind = duzenliler s.db kind := by
      intro kind
      cases kind <;> rfl
    dsimp only
    rw [hk]
    rcases List.mem_cons.mp hd with rfl | hd
    · exact ⟨⟨gelir, hkind⟩, r, hr, hru⟩
    · exact hs.ay.kayit d hd
  · intro d hd
    rcases List.mem_cons.mp hd with rfl | hd
    · exact (congrArg Date.monthNo hgun).le
    · exact hs.ay.gun d hd
  · intro d hd e he hk hacik hcanli
    have hacik' {b : ℕ} (hb : b ≠ d₀.actionId)
        (h : AcikAksiyon { s with db := s.db.write (.pendingAction (.insert p)), dogan := d₀ :: s.dogan } b) :
        AcikAksiyon s b := by
      refine h.imp_left fun hd => ?_
      dsimp only at hd
      rwa [hdurum hb] at hd
    rcases List.mem_cons.mp hd with rfl | hds
    · rcases List.mem_cons.mp he with rfl | hes
      · exact .inl rfl
      · have hk' : AyniKayit e d := ⟨hk.1.symm, hk.2.symm⟩
        rcases hcanli with ha | hy
        · exact absurd (hacik' (heski hes) ha) (hkapali e hes hk')
        · exact .inr (honce hes hk' hy)
    · rcases List.mem_cons.mp he with rfl | hes
      · exact absurd (hacik' (heski hds) hacik) (hkapali d hds hk)
      · exact hs.ay.once d hds e hes hk (hacik' (heski hds) hacik) (hcanli.imp_left (hacik' (heski hes)))
  · intro d hd e he hk hay hdy hey
    rcases List.mem_cons.mp hd with rfl | hds
    · exact absurd hdy hyur
    · rcases List.mem_cons.mp he with rfl | hes
      · exact absurd hey hyur
      · exact hs.ay.ay d hds e hes hk hay hdy hey
  · intro d hd hdy hbos
    rcases List.mem_cons.mp hd with rfl | hd
    · exact absurd hdy hyur
    · obtain ⟨g, r', hr', hg⟩ := hs.ay.isaret d hd hdy hbos
      refine ⟨g, r', ?_, hg⟩
      rw [← hr']
      cases d.kind <;> rfl
  · intro d hd hex
    rcases List.mem_cons.mp hd with rfl | hd
    · dsimp only at hex
      rw [durumu, hrow, if_pos rfl, Option.map_some, hps] at hex
      cases hex
    · dsimp only at hex
      rw [hdurum (heski hd)] at hex
      exact hs.ay.yurutulmus d hd hex
  · intro b hd hk
    dsimp only at hd
    by_cases hb : b = d₀.actionId
    · rw [hb]
      exact htas
    · rw [hdurum hb] at hd
      exact hs.kilit.serbest b hd hk
  · intro b hd
    dsimp only at hd
    by_cases hb : b = d₀.actionId
    · rw [hb]
      exact hyur
    · rw [hdurum hb] at hd
      exact hs.kilit.bekleyen b hd
  · intro b hb
    dsimp only at hb
    rw [hrow] at hb
    split at hb
    · cases hb
    · exact hs.kilit.satirsiz b hb

/-- The second commit names the record the action was created from. -/
theorem kaynakYaz_duzen {d₀ : Dogum} (hs : Duzen s) (hd₀ : d₀ ∈ s.dogan) :
    Duzen { s with db := s.db.write (kaynakYaz d₀.actionId d₀.kayit d₀.kind) } := by
  have hrow (b : ℕ) : (s.db.write (kaynakYaz d₀.actionId d₀.kayit d₀.kind)).pendingActions.get? b =
      if b = d₀.actionId then (s.db.pendingActions.get? b).map fun p =>
        { p with sourceRecurringId := some d₀.kayit, sourceRecurringType := some d₀.kind }
      else s.db.pendingActions.get? b := Table.get?_modify ..
  have hdurum (b : ℕ) : durumu (s.db.write (kaynakYaz d₀.actionId d₀.kayit d₀.kind)) b = durumu s.db b := by
    rw [durumu, hrow]
    split
    · rw [Option.map_map]
      rfl
    · rfl
  have hsakin : Sakin s { s with db := s.db.write (kaynakYaz d₀.actionId d₀.kayit d₀.kind) } := by
    refine ⟨rfl, fun _ => le_rfl, fun kind => ?_, fun b hb => ?_, fun _ hb => .inl hb, fun _ hb => hb,
      fun _ _ _ hb => hb, fun d _ hd => .inr ?_⟩
    · cases kind <;> rfl
    · rw [AcikAksiyon] at hb
      dsimp only at hb
      rwa [hdurum] at hb
    · rwa [← hdurum]
  refine ⟨⟨fun d hd => ?_, fun b q hq hne => ?_, hs.kaynak.tek⟩, hsakin.defter hs.ay,
    ⟨hs.kilit.kilitli, fun b hb hk => ?_, fun b hb => ?_, fun b hb => ?_⟩⟩
  · obtain ⟨p, hp, hu, hk⟩ := hs.kaynak.satir d hd
    by_cases he : d.actionId = d₀.actionId
    · obtain rfl := hs.kaynak.tek d hd d₀ hd₀ he
      refine ⟨{ p with sourceRecurringId := some d.kayit, sourceRecurringType := some d.kind },
        (hrow d.actionId).trans ((if_pos rfl).trans ?_), hu, .inr ⟨rfl, rfl⟩⟩
      rw [hp]
      rfl
    · exact ⟨p, (hrow d.actionId).trans ((if_neg he).trans hp), hu, hk⟩
  · dsimp only at hq
    rw [hrow] at hq
    split at hq
    · next he => exact ⟨d₀, hd₀, he.symm⟩
    · exact hs.kaynak.kaynak b q hq hne
  · dsimp only at hb
    rw [hdurum] at hb
    exact hs.kilit.serbest b hb hk
  · dsimp only at hb
    rw [hdurum] at hb
    exact hs.kilit.bekleyen b hb
  · dsimp only at hb
    rw [hrow] at hb
    split at hb
    · exact hs.kilit.satirsiz b (Option.map_eq_none_iff.mp hb)
    · exact hs.kilit.satirsiz b hb

theorem saat_duzen {userId : ℕ} {gun : Date} (hs : Duzen s) (hg : gun.notBefore (s.gun userId) = true) :
    Duzen { s with gun := Function.update s.gun userId gun } := by
  have hsakin : Sakin s { s with gun := Function.update s.gun userId gun } := by
    refine ⟨rfl, fun u => ?_, fun _ => rfl, fun _ hb => hb, fun _ hb => .inl hb, fun _ hb => hb,
      fun _ _ _ hb => hb, fun _ _ hd => .inr hd⟩
    dsimp only
    by_cases hu : u = userId
    · rw [hu, Function.update_self]
      exact Date.monthNo_le_of_notBefore hg
    · rw [Function.update_of_ne hu]
  exact ⟨⟨hs.kaynak.satir, hs.kaynak.kaynak, hs.kaynak.tek⟩, hsakin.defter hs.ay,
    ⟨hs.kilit.kilitli, hs.kilit.serbest, hs.kilit.bekleyen, hs.kilit.satirsiz⟩⟩

/-- An edit replaces what an action says, not what it is. -/
theorem duzenle_duzen {a : ℕ} {p : Payload} {summary : String} (hs : Duzen s) :
    Duzen { s with db := sonuc s.db (.ok [duzenleYaz a p summary]) } := by
  have hiz : AksiyonIzi s.db (s.db.write (duzenleYaz a p summary)) :=
    aksiyonIzi_update fun _ => ⟨rfl, rfl, rfl, fun h => h⟩
  have hson : sonuc s.db (.ok [duzenleYaz a p summary]) = s.db.write (duzenleYaz a p summary) := rfl
  rw [hson]
  refine satir_duzen hs (fun kind => by cases kind <;> rfl) hiz fun b hb => .inr ?_
  by_cases he : b = a
  · subst he
    rw [durumu_eq_some] at hb ⊢
    obtain ⟨q, hq, hd⟩ := hb
    simp only [duzenleYaz, Db.write, Table.change, Table.get?_modify, if_true] at hq
    obtain ⟨r, hr, rfl⟩ := Option.map_eq_some_iff.mp hq
    exact ⟨r, hr, hd⟩
  · rwa [duzenleYaz, durumu_update_ne he] at hb

end Proposals

/-- The request carries no action. -/
structure Bos (i : ι) (s : DuzenliOrtak ι) : Prop where
  tasir : ∀ b, s.tasiyan b ≠ some i
  kilit : ∀ b, s.kilit b ≠ some i

/-- A trigger request holds a row that is to be inserted, or has inserted one that lacks its source. -/
structure TetikYeri (userId : ℕ) (gelir : Bool) (s : DuzenliOrtak ι) (κ : DuzenliKonum) : Prop where
  ekle : ∀ bugun kasa id ws kalan, κ = .ekleyecek bugun kasa id ws kalan →
    ∃ p, ws = [.pendingAction (.insert p)] ∧ p.userId = userId ∧ p.status = .pending ∧
      p.sourceRecurringId = none
  kaynak : ∀ bugun kasa id a kalan, κ = .kaynakYazacak bugun kasa id a kalan →
    ∃ d ∈ s.dogan, d.actionId = a ∧ d.kayit = id ∧ d.kind = tetikTuru gelir

/-- What a request knows from where it stands. -/
def DuzenliYeri (talep : ι → DuzenliTalep) (i : ι) (s : DuzenliOrtak ι) (κ : DuzenliKonum) : Prop :=
  match (talep i).uc with
  | .onay a => (∀ k, κ = .islemde k → KararYeri a i s k) ∧ ((∀ k, κ ≠ .islemde k) → Bos i s)
  | .ret _ _ => Bos i s ∧ ∀ k, κ = .islemde k → tasiyor k = false ∧ k.Kayitli
  | .tetik gelir => Bos i s ∧ TetikYeri (talep i).userId gelir s κ
  | .duzenle a _ _ => Bos i s ∧ ∀ ws, κ = .kaydedecek ws → ∃ p summary, ws = [duzenleYaz a p summary]
  | .saat _ => Bos i s

section Requests
variable {k : TeklifKurallari} {production : Bool} {talep : ι → DuzenliTalep} {i j : ι} {s s' : DuzenliOrtak ι}
  {κ m : DuzenliKonum}

/-- A step of another request leaves a request where it is, as long as it touches nothing of its. -/
theorem yerinde_of (hm : DuzenliYeri talep j s m)
    (htas : ∀ b, s'.tasiyan b = some j ↔ s.tasiyan b = some j)
    (hkilit : ∀ b, s'.kilit b = some j ↔ s.kilit b = some j)
    (hyur : ∀ b, s.tasiyan b = some j → (b ∈ s'.yurutulen ↔ b ∈ s.yurutulen))
    (hdogan : ∀ d ∈ s.dogan, d ∈ s'.dogan) : DuzenliYeri talep j s' m := by
  have hbos (h : Bos j s) : Bos j s' :=
    ⟨fun b hb => h.tasir b ((htas b).mp hb), fun b hb => h.kilit b ((hkilit b).mp hb)⟩
  unfold DuzenliYeri at hm ⊢
  cases hu : (talep j).uc with
  | onay a =>
    simp only [hu] at hm ⊢
    refine ⟨fun k hk => ?_, fun hne => hbos (hm.2 hne)⟩
    have hy := hm.1 k hk
    refine ⟨fun b => (htas b).trans (hy.tasir b), fun b => (hkilit b).trans (hy.kilit b), hy.kayit,
      fun hyaz => ?_, fun ht hn => ?_⟩
    · exact (hyur a ((hy.tasir a).mpr ⟨tasiyor_of_yazacakMi hyaz, rfl⟩)).mpr (hy.yazan hyaz)
    · exact fun h => hy.once ht hn ((hyur a ((hy.tasir a).mpr ⟨ht, rfl⟩)).mp h)
  | ret a reason =>
    simp only [hu] at hm ⊢
    exact ⟨hbos hm.1, hm.2⟩
  | tetik gelir =>
    simp only [hu] at hm ⊢
    refine ⟨hbos hm.1, hm.2.ekle, fun bugun kasa id a kalan he => ?_⟩
    obtain ⟨d, hd, h⟩ := hm.2.kaynak bugun kasa id a kalan he
    exact ⟨d, hdogan d hd, h⟩
  | duzenle a payload summary =>
    simp only [hu] at hm ⊢
    exact ⟨hbos hm.1, hm.2⟩
  | saat gun =>
    simp only [hu] at hm ⊢
    exact hbos hm

/-- A place that holds no row. -/
def satirsiz : DuzenliKonum → Bool
  | .ekleyecek _ _ _ _ _ => false
  | .kaynakYazacak _ _ _ _ _ => false
  | _ => true

theorem tetikYeri_of {userId : ℕ} {gelir : Bool} (h : satirsiz κ = true) : TetikYeri userId gelir s κ := by
  constructor
  · rintro bugun kasa id ws kalan rfl
    cases h
  · rintro bugun kasa id a kalan rfl
    cases h

/-- A step of a trigger request keeps the invariants; it takes no lock and carries nothing. -/
structure TetikGecisi (userId : ℕ) (gelir : Bool) (s : DuzenliOrtak ι) (r : DuzenliOrtak ι × DuzenliKonum) :
    Prop where
  duzen : Duzen r.1
  yer : TetikYeri userId gelir r.1 r.2
  tasiyan : r.1.tasiyan = s.tasiyan
  kilit : r.1.kilit = s.kilit
  yurutulen : r.1.yurutulen = s.yurutulen
  dogan : ∀ d ∈ s.dogan, d ∈ r.1.dogan

theorem tetikGecisi_okuma {userId : ℕ} {gelir : Bool} (hs : Duzen s) (h : TetikYeri userId gelir s κ) :
    TetikGecisi userId gelir s (s, κ) := ⟨hs, h, rfl, rfl, rfl, fun _ hd => hd⟩

theorem tetik_gecisi {userId : ℕ} {x : Option ℤ} {gelir : Bool} (hs : Duzen s)
    (hy : TetikYeri userId gelir s κ) (hu : EklemeUygun userId gelir s κ) :
    TetikGecisi userId gelir s (tetikAdimi k production userId x gelir s κ) := by
  have hbos {κ' : DuzenliKonum} (h : satirsiz κ' = true) : TetikGecisi userId gelir s (s, κ') :=
    tetikGecisi_okuma hs (tetikYeri_of h)
  cases κ with
  | basla =>
    cases hk : aksiyonKapisi production s.db userId x with
    | error e =>
      simp only [tetikAdimi, hk]
      exact hbos rfl
    | ok wsId =>
      simp only [tetikAdimi, hk]
      cases gelir <;> exact hbos rfl
  | hesapBakacak wsId bugun =>
    cases hh : varsayilanNakitHesap s.db userId wsId with
    | none =>
      simp only [tetikAdimi, hh]
      exact hbos rfl
    | some cash =>
      simp only [tetikAdimi, hh]
      exact hbos rfl
  | listeleyecek wsId bugun kasa =>
    simp only [tetikAdimi]
    exact hbos rfl
  | dongude bugun kasa kalan =>
    cases kalan with
    | nil =>
      simp only [tetikAdimi]
      exact hbos rfl
    | cons q kalan =>
      obtain ⟨id, r⟩ := q
      cases r with
      | none =>
        simp only [tetikAdimi]
        cases (duzenliler s.db (tetikTuru gelir)).get? id <;> exact hbos rfl
      | some r =>
        simp only [tetikAdimi]
        cases tetiklenir s.db userId (tetikTuru gelir) bugun id r <;> exact hbos rfl
  | onerecek bugun kasa id r kalan =>
    cases ho : oneriYaz k s.db none "" (duzenliOneri (tetikTuru gelir) userId kasa bugun r) with
    | error e =>
      simp only [tetikAdimi, ho]
      exact hbos rfl
    | ok ws =>
      simp only [tetikAdimi, ho]
      refine tetikGecisi_okuma hs ⟨?_, ?_⟩
      · intro bugun' kasa' id' ws' kalan' he
        cases he
        exact oneriYaz_satiri ho
      · intro bugun' kasa' id' a' kalan' he
        cases he
  | ekleyecek bugun kasa id ws kalan =>
    obtain ⟨p, rfl, hpu, hps, hpk⟩ := hy.ekle bugun kasa id ws kalan rfl
    obtain ⟨⟨r, hr, hru, hisaret⟩, hay, hkapali⟩ := hu
    have hc : commit s.db [.pendingAction (.insert p)] = .ok (s.db.write (.pendingAction (.insert p))) := rfl
    have hfark : ∀ g : Date, r.lastTriggeredYearMonth = some (ayMetni g) →
        g.monthNo ≠ (s.gun userId).monthNo := by
      intro g hg hne
      obtain ⟨hyil, hm⟩ := Date.monthNo_eq.mp (hne.trans hay)
      apply hisaret
      rw [hg, ayMetni, ayMetni, hyil, hm]
    simp only [tetikAdimi, hc]
    refine ⟨ekle_duzen hs rfl rfl rfl hpu hps hpk hr hru hfark fun d hd hk => hkapali d hd hk.1 hk.2,
      ⟨?_, ?_⟩, rfl, rfl, rfl, fun d hd => List.mem_cons_of_mem _ hd⟩
    · intro bugun' kasa' id' ws' kalan' he
      cases he
    · intro bugun' kasa' id' a' kalan' he
      cases he
      exact ⟨_, List.mem_cons_self, rfl, rfl, rfl⟩
  | kaynakYazacak bugun kasa id a kalan =>
    obtain ⟨d, hd, rfl, rfl, hkind⟩ := hy.kaynak bugun kasa id a kalan rfl
    cases hkilit : s.kilit d.actionId with
    | some i' =>
      simp only [tetikAdimi, hkilit]
      exact tetikGecisi_okuma hs hy
    | none =>
      simp only [tetikAdimi, hkilit, ← hkind]
      exact ⟨kaynakYaz_duzen hs hd, tetikYeri_of rfl, rfl, rfl, rfl, fun _ h => h⟩
  | islemde k => exact tetikGecisi_okuma hs hy
  | kaydedecek ws => exact tetikGecisi_okuma hs hy
  | bitti => exact tetikGecisi_okuma hs hy

theorem editAction_writes {db : Db} {userId a : ℕ} {x : Option ℤ} {payload : Payload} {summary : String}
    {ws : List Write} (h : editAction k db userId x a payload summary = .ok ws) :
    ∃ p summary, ws = [duzenleYaz a p summary] := by
  simp only [editAction, bind_eq_ok] at h
  obtain ⟨-, -, pending, -, h⟩ := h
  split at h
  · cases h
  · exact ⟨_, _, (pure_eq_ok.mp h).symm⟩

/-- A decision that has not begun, or whose request was turned away. -/
theorem onayYeri_bos {a : ℕ} (hb : Bos i s) (h : κ = .islemde .basla ∨ ∀ k, κ ≠ .islemde k) :
    (∀ k, κ = .islemde k → KararYeri a i s k) ∧ ((∀ k, κ ≠ .islemde k) → Bos i s) := by
  refine ⟨fun k hk => ?_, fun _ => hb⟩
  rcases h with rfl | hne
  · cases hk
    exact kararYeri_bos hb.tasir hb.kilit rfl trivial
  · exact absurd hk (hne k)

theorem KararYeri.bos {a : ℕ} {k : Konum} (h : KararYeri a i s k) (hbos : tasiyor k = false) : Bos i s :=
  ⟨h.tasiyan_ne hbos, h.kilit_ne (ne_onaylayacak hbos)⟩

/-- One step of a request keeps the invariants and its own place. -/
theorem duzenli_own (hs : Duzen s) (hy : DuzenliYeri talep i s κ) (hc : SiraliAdim talep i s κ) :
    Duzen (duzenliAdimi k production talep i s κ).1 ∧
      DuzenliYeri talep i (duzenliAdimi k production talep i s κ).1 (duzenliAdimi k production talep i s κ).2 := by
  unfold DuzenliYeri SiraliAdim at *
  cases hu : (talep i).uc with
  | tetik gelir =>
    simp only [hu, duzenliAdimi] at hy hc ⊢
    have hg : TetikGecisi (talep i).userId gelir s
        (tetikAdimi k production (talep i).userId (talep i).xWorkspaceId gelir s κ) :=
      tetik_gecisi hs hy.2 hc
    refine ⟨hg.duzen, ⟨fun b => ?_, fun b => ?_⟩, hg.yer⟩
    · rw [hg.tasiyan]
      exact hy.1.tasir b
    · rw [hg.kilit]
      exact hy.1.kilit b
  | onay a =>
    simp only [hu, duzenliAdimi] at hy hc ⊢
    cases κ with
    | islemde k =>
      have hyer := hy.1 k rfl
      obtain ⟨hson, hyer'⟩ := karar_own hs hyer hc
        (onay_hareketi hyer.kayit (fun ht => (hyer.tasir a).mpr ⟨ht, rfl⟩) rfl)
      refine ⟨hson, fun k' hk' => ?_, fun hne => absurd rfl (hne _)⟩
      cases hk'
      exact hyer'
    | basla =>
      have hb := hy.2 (by simp)
      refine ⟨hs, onayYeri_bos hb ?_⟩
      simp only [onayIstegiAdimi]
      split
      · exact .inl rfl
      · exact .inr (by simp)
    | _ => exact ⟨hs, hy⟩
  | ret a reason =>
    simp only [hu, duzenliAdimi] at hy ⊢
    obtain ⟨hb, hkonum⟩ := hy
    cases κ with
    | islemde k =>
      obtain ⟨hbos, hkayit⟩ := hkonum k rfl
      have hyer : KararYeri a i s k := kararYeri_bos hb.tasir hb.kilit hbos hkayit
      have huygun : YazimUygun (talep i).userId a s k := by
        cases k with
        | yazacak pending payload cevap => cases hbos
        | _ => trivial
      have hret : KararHareketi (talep i).userId a i s k
          (kararSonrasi a i s k (retAdimi a (talep i).userId reason (s.aksiyon a) k)).1
          (retAdimi a (talep i).userId reason (s.aksiyon a) k).2 ∧ _ := ret_hareketi hkayit hbos rfl
      obtain ⟨hhareket, hbos'⟩ := hret
      obtain ⟨hson, hyer'⟩ := karar_own hs hyer huygun hhareket
      refine ⟨hson, hyer'.bos hbos', fun k' hk' => ?_⟩
      cases hk'
      exact ⟨hbos', hyer'.kayit⟩
    | basla =>
      refine ⟨hs, hb, fun k hk => ?_⟩
      simp only [retIstegiAdimi] at hk
      split at hk
      · cases hk
        exact ⟨rfl, trivial⟩
      · cases hk
    | _ => exact ⟨hs, hb, hkonum⟩
  | duzenle a payload summary =>
    simp only [hu, duzenliAdimi] at hy ⊢
    obtain ⟨hb, hkonum⟩ := hy
    cases κ with
    | basla =>
      refine ⟨hs, hb, fun ws hws => ?_⟩
      simp only [duzenleIstegiAdimi] at hws
      split at hws
      · cases hws
      · next he =>
        cases hws
        exact editAction_writes he
    | kaydedecek ws =>
      obtain ⟨p, summary', rfl⟩ := hkonum ws rfl
      simp only [duzenleIstegiAdimi]
      cases s.kilit a with
      | some j => exact ⟨hs, hb, hkonum⟩
      | none => exact ⟨duzenle_duzen hs, ⟨hb.tasir, hb.kilit⟩, by simp⟩
    | _ => exact ⟨hs, hb, hkonum⟩
  | saat gun =>
    simp only [hu, duzenliAdimi] at hy ⊢
    cases κ with
    | basla =>
      simp only [saatAdimi]
      split
      · next hg => exact ⟨saat_duzen hs hg, hy.tasir, hy.kilit⟩
      · exact ⟨hs, hy⟩
    | _ => exact ⟨hs, hy⟩

/-- One step of a request leaves every other one where it is. -/
theorem duzenli_other (hj : j ≠ i) (hs : Duzen s) (hy : DuzenliYeri talep i s κ) (hc : SiraliAdim talep i s κ)
    (hm : DuzenliYeri talep j s m) : DuzenliYeri talep j (duzenliAdimi k production talep i s κ).1 m := by
  have hayni {s' : DuzenliOrtak ι} (ht : s'.tasiyan = s.tasiyan) (hk : s'.kilit = s.kilit)
      (hyur : s'.yurutulen = s.yurutulen) (hd : ∀ d ∈ s.dogan, d ∈ s'.dogan) : DuzenliYeri talep j s' m :=
    yerinde_of hm (fun b => by rw [ht]) (fun b => by rw [hk]) (fun b _ => by rw [hyur]) hd
  have hkarar {userId a : ℕ} {k k' : Konum} {s' : DuzenliOrtak ι} (hyer : KararYeri a i s k)
      (h : KararHareketi userId a i s k s' k') : DuzenliYeri talep j s' m := by
    have hdiger := karar_other hj hs hyer h
    refine yerinde_of hm (fun b => (hdiger b).1) (fun b => (hdiger b).2.1) (fun b => (hdiger b).2.2) ?_
    cases h <;> exact fun _ hd => hd
  unfold DuzenliYeri at hy
  unfold SiraliAdim at hc
  cases hu : (talep i).uc with
  | tetik gelir =>
    simp only [hu, duzenliAdimi] at hy hc ⊢
    have hg : TetikGecisi (talep i).userId gelir s
        (tetikAdimi k production (talep i).userId (talep i).xWorkspaceId gelir s κ) :=
      tetik_gecisi hs hy.2 hc
    exact hayni hg.tasiyan hg.kilit hg.yurutulen hg.dogan
  | onay a =>
    simp only [hu, duzenliAdimi] at hy hc ⊢
    cases κ with
    | islemde k =>
      have hyer := hy.1 k rfl
      exact hkarar hyer (onay_hareketi hyer.kayit (fun ht => (hyer.tasir a).mpr ⟨ht, rfl⟩) rfl)
    | _ => exact hm
  | ret a reason =>
    simp only [hu, duzenliAdimi] at hy ⊢
    cases κ with
    | islemde k =>
      obtain ⟨hbos, hkayit⟩ := hy.2 k rfl
      have hyer : KararYeri a i s k := kararYeri_bos hy.1.tasir hy.1.kilit hbos hkayit
      have hret : KararHareketi (talep i).userId a i s k
          (kararSonrasi a i s k (retAdimi a (talep i).userId reason (s.aksiyon a) k)).1
          (retAdimi a (talep i).userId reason (s.aksiyon a) k).2 ∧ _ := ret_hareketi hkayit hbos rfl
      exact hkarar hyer hret.1
    | _ => exact hm
  | duzenle a payload summary =>
    simp only [duzenliAdimi, hu]
    cases κ with
    | kaydedecek ws =>
      simp only [duzenleIstegiAdimi]
      cases s.kilit a with
      | some j => exact hm
      | none => exact hayni rfl rfl rfl fun _ hd => hd
    | _ => exact hm
  | saat gun =>
    simp only [duzenliAdimi, hu]
    cases κ with
    | basla =>
      simp only [saatAdimi]
      split
      · exact hayni rfl rfl rfl fun _ hd => hd
      · exact hm
    | _ => exact hm

/-- Before the first trigger there is nothing to keep. -/
theorem baslangic_duzen {db : Db} (gun : ℕ → Date)
    (hilk : ∀ a p, db.pendingActions.get? a = some p → p.sourceRecurringId = none) :
    Duzen (duzenliBaslangic db gun : Pool ι (DuzenliOrtak ι) DuzenliKonum).shared := by
  have hyok {P : Dogum → Prop} :
      ∀ d ∈ (duzenliBaslangic db gun : Pool ι (DuzenliOrtak ι) DuzenliKonum).shared.dogan, P d := by
    intro d hd
    cases hd
  refine ⟨⟨hyok, fun a p hp hne => absurd (hilk a p hp) hne, hyok⟩,
    ⟨hyok, hyok, hyok, hyok, hyok, hyok⟩, ⟨fun a i h => ?_, fun _ _ _ => rfl, fun _ _ h => ?_, fun _ _ => ⟨fun h => ?_, rfl⟩⟩⟩
  all_goals cases h

theorem baslangic_yerinde {db : Db} (gun : ℕ → Date) (talep : ι → DuzenliTalep) (i : ι) :
    DuzenliYeri talep i (duzenliBaslangic db gun : Pool ι (DuzenliOrtak ι) DuzenliKonum).shared .basla := by
  have hb : Bos i (duzenliBaslangic db gun : Pool ι (DuzenliOrtak ι) DuzenliKonum).shared := by
    constructor
    · intro b h
      cases h
    · intro b h
      cases h
  unfold DuzenliYeri
  cases (talep i).uc with
  | onay a => exact onayYeri_bos hb (.inr (by simp))
  | tetik gelir => exact ⟨hb, tetikYeri_of rfl⟩
  | ret a reason => exact ⟨hb, by simp⟩
  | duzenle a payload summary => exact ⟨hb, by simp⟩
  | saat gun => exact hb

end Requests

/-- For any requests and any schedule whose steps all meet the condition, at most one of the actions
that the triggers create from a record in a month is carried out. -/
theorem recurring_at_most_once_a_month [DecidableEq ι] (k : TeklifKurallari) (production : Bool)
    (talep : ι → DuzenliTalep) (db : Db) (gun : ℕ → Date)
    (hilk : ∀ a p, db.pendingActions.get? a = some p → p.sourceRecurringId = none) (sira : List ι)
    (hsira : StepsMeet (Pool.step (duzenliAdimi k production talep))
      (fun p i => SiraliAdim talep i p.shared (p.loc i)) (duzenliBaslangic db gun) sira) :
    AydaBir (run (Pool.step (duzenliAdimi k production talep)) (duzenliBaslangic db gun) sira).shared := by
  have hholds := Pool.run_holds (C := SiraliAdim talep)
    (fun i s κ hs hy hc => duzenli_own (k := k) hs hy hc)
    (fun i j s κ m hj hs hy hc hm => duzenli_other hj hs hy hc hm)
    ⟨baslangic_duzen gun hilk, baslangic_yerinde gun talep⟩ hsira
  exact hholds.shared.ay.aydaBir

section Sample

instance tutanVar_decidable {α : Type} (o : Option α) (P : α → Prop) [DecidablePred P] : Decidable (∃ a, o = some a ∧ P a) :=
  decidable_of_iff (o.any (fun a => decide (P a)) = true) (by cases o <;> simp)

instance (s : DuzenliOrtak ι) (a : ℕ) : Decidable (AcikAksiyon s a) :=
  decidable_of_iff (durumu s.db a = some .pending ∨ (s.tasiyan a).isSome = true)
    (or_congr_right Option.isSome_iff_ne_none)

instance (userId : ℕ) (gelir : Bool) (s : DuzenliOrtak ι) : ∀ κ, Decidable (EklemeUygun userId gelir s κ)
  | .ekleyecek bugun _ id _ _ => inferInstanceAs (Decidable (
    (∃ r, (duzenliler s.db (tetikTuru gelir)).get? id = some r ∧ r.userId = userId ∧
      r.lastTriggeredYearMonth ≠ some (ayMetni bugun)) ∧
    (s.gun userId).monthNo = bugun.monthNo ∧
    ∀ d ∈ s.dogan, d.kind = tetikTuru gelir → d.kayit = id → ¬ AcikAksiyon s d.actionId))
  | .basla | .hesapBakacak _ _ | .listeleyecek _ _ _ | .dongude _ _ _ | .onerecek _ _ _ _ _
  | .kaynakYazacak _ _ _ _ _ | .islemde _ | .kaydedecek _ | .bitti => .isTrue trivial

instance (userId a : ℕ) (s : DuzenliOrtak ι) : ∀ k, Decidable (YazimUygun userId a s k)
  | .yazacak _ payload _ => inferInstanceAs (Decidable (∀ d ∈ s.dogan, d.actionId = a →
    (∃ p, s.db.pendingActions.get? a = some p ∧ p.sourceRecurringId.isSome = true) ∧
    tetikAyi (s.gun userId) (payload.getD []) = ayMetni d.gun ∧ yilAyMi (ayMetni d.gun) = true))
  | .basla | .sahiplenecek | .onaylayacak | .yukleyecek | .denetleyecek _ | .calistiracak _ _ _
  | .basarisizYazacak _ _ | .reddedecek | .bitti _ => .isTrue trivial

instance (talep : ι → DuzenliTalep) (i : ι) (s : DuzenliOrtak ι) (κ : DuzenliKonum) :
    Decidable (SiraliAdim talep i s κ) := by
  unfold SiraliAdim
  split <;> infer_instance

/-- A user with a rent that is due, two trigger requests and the approvals of what they create. -/
def kiraDb : Db := Db.empty.writeAll [
  .workspace (.insert ⟨1, true⟩),
  .membership (.insert ⟨1, 1, .owner⟩),
  .expense (.insert ⟨1, some 1, "Kira", 12000, none, none, 1, true, none⟩)]

def kiraGunu : ℕ → Date := fun _ => (Date.ofYmd? 2026 5 11).get rfl

def kiraTalepleri : Fin 4 → DuzenliTalep :=
  ![⟨1, none, .tetik false⟩, ⟨1, none, .tetik false⟩, ⟨1, none, .onay 1⟩, ⟨1, none, .onay 2⟩]

/-- One request after the other: the second trigger finds the rent marked. -/
def ardArda : List (Fin 4) := List.replicate 8 0 ++ List.replicate 9 2 ++ List.replicate 5 1

/-- Both triggers look for a pending proposal before either has made one. -/
def icIce : List (Fin 4) :=
  [0, 0, 0, 1, 1, 1, 0, 1, 0, 0, 1, 1] ++ List.replicate 9 2 ++ List.replicate 9 3

theorem recurring_at_most_once_a_month_kira :
    AydaBir (run (Pool.step (duzenliAdimi yalinKurallar false kiraTalepleri))
      (duzenliBaslangic kiraDb kiraGunu) ardArda).shared := by
  apply recurring_at_most_once_a_month
  · intro a p hp
    cases hp
  · decide +kernel

/-- The rent is paid twice in May. -/
theorem recurring_twice_a_month :
    ¬ ∀ (k : TeklifKurallari) (production : Bool) (talep : Fin 4 → DuzenliTalep) (db : Db) (gun : ℕ → Date)
      (sira : List (Fin 4)),
      (∀ a p, db.pendingActions.get? a = some p → p.sourceRecurringId = none) →
        AydaBir (run (Pool.step (duzenliAdimi k production talep)) (duzenliBaslangic db gun) sira).shared := by
  intro h
  have hson := h yalinKurallar false kiraTalepleri kiraDb kiraGunu icIce (fun a p hp => by cases hp)
  have hdogan : (run (Pool.step (duzenliAdimi yalinKurallar false kiraTalepleri))
      (duzenliBaslangic kiraDb kiraGunu) icIce).shared.dogan =
      [⟨2, 1, .expense, 1, kiraGunu 1⟩, ⟨1, 1, .expense, 1, kiraGunu 1⟩] := by decide +kernel
  have hyur : (run (Pool.step (duzenliAdimi yalinKurallar false kiraTalepleri))
      (duzenliBaslangic kiraDb kiraGunu) icIce).shared.yurutulen = [2, 1] := by decide +kernel
  have htek := hson ⟨2, 1, .expense, 1, kiraGunu 1⟩ (by rw [hdogan]; exact List.mem_cons_self)
    ⟨1, 1, .expense, 1, kiraGunu 1⟩ (by rw [hdogan]; exact List.mem_cons_of_mem _ List.mem_cons_self)
    ⟨rfl, rfl⟩ rfl rfl (.inl (by rw [hyur]; exact List.mem_cons_self))
    (.inl (by rw [hyur]; exact List.mem_cons_of_mem _ List.mem_cons_self))
  cases htek

end Sample

end FinancialOs.Guarantees
