import FinancialOs.Executor.RowAccess
import FinancialOs.Library.TransitionRuns
import FinancialOs.Routers.Proposals

/-! What a user reads before approving is what will be applied: every proposal is checked when it is
made, and stays so as long as nobody edits it into something else. -/
namespace FinancialOs.Guarantees
open Library Store Rules Executor Routers

/-- A proposal whose payload its schema accepts and whose summary names its amount. -/
def TeklifUyumlu (k : TeklifKurallari) (p : PendingAction) : Prop :=
  ∃ q, p.payload = .object q ∧ (∃ r, dogrula k.cevirim p.actionType q = .ok r) ∧
    ozetPayloadCeliskisi p.actionType q p.summary = .ok none

def BekleyenlerUyumlu (k : TeklifKurallari) (db : Db) : Prop :=
  ∀ id p, db.pendingActions.get? id = some p → p.status = .pending → TeklifUyumlu k p

inductive TeklifIstegi where
  | oner (workspaceId : Option ℕ) (userMessage : String) (o : Oneri)
  | tetikle (userId : ℕ) (xWorkspaceId : Option ℤ) (kind : RecurringKind) (bugun : Date)
  | duzenle (userId : ℕ) (xWorkspaceId : Option ℤ) (actionId : ℕ) (payload : Payload) (summary : String)
  | onayla (ariza : Ariza) (bugun : ℕ → Date) (userId : ℕ) (xWorkspaceId : Option ℤ) (actionId : ℕ)
  | reddet (userId : ℕ) (xWorkspaceId : Option ℤ) (actionId : ℕ) (reason : Option String)

def teklifAdimi (k : TeklifKurallari) (production : Bool) (db : Db) : TeklifIstegi → Db
  | .oner workspaceId userMessage o =>
    sonuc db (oneriYaz k db workspaceId userMessage { o with kaynak := none })
  | .tetikle userId x kind bugun => (triggerDue k production db userId x kind bugun).2
  | .duzenle userId x actionId payload summary =>
    sonuc db (editAction k db userId x actionId payload summary)
  | .onayla ariza bugun userId x actionId => (approveAction production ariza bugun db userId x actionId).2
  | .reddet userId x actionId reason => (rejectAction db userId x actionId reason).2

/-- The card an edited payload is rerouted to, if it is a transaction's. -/
def yonlendirme (k : TeklifKurallari) (db : Db) (userId : ℕ) (t : ActionType) (p : Payload) :
    Except PyError (Option (String × ℕ)) :=
  if t = .addTransaction then kartaYonlenir k db none userId p else .ok none

/-- An edit of a proposal that is open brings a payload the schema accepts, apart from what a card
takes over, and a summary that names its amount. -/
def DuzenlemeUygun (k : TeklifKurallari) (db : Db) : TeklifIstegi → Prop
  | .duzenle userId x actionId payload summary => ∀ pending yon,
    requireWrite db userId x = .ok () → duzenlenebilir db actionId userId = some pending →
      yonlendirme k db userId pending.actionType payload = .ok yon →
        (∃ r, dogrula k.cevirim pending.actionType (if yon.isSome then kartsiz payload else payload) = .ok r) ∧
          ozetPayloadCeliskisi pending.actionType payload summary = .ok none
  | _ => True

section Contract
variable {k : TeklifKurallari} {db : Db} {userId : ℕ} {t : ActionType} {p q : Payload} {summary : String}

/-- The summary is held against one field, which a card leaves alone. -/
theorem celiski_congr (h : ∀ alan, paraAlanlari t = some alan → p.get alan = q.get alan) :
    ozetPayloadCeliskisi t p summary = ozetPayloadCeliskisi t q summary := by
  unfold ozetPayloadCeliskisi
  cases ht : paraAlanlari t with
  | none => rfl
  | some alan => simp only [h alan ht]

theorem celiski_kartli {kategori : String} {card : ℕ} :
    ozetPayloadCeliskisi .addTransaction (kartli kategori card p) summary =
      ozetPayloadCeliskisi .addTransaction p summary := by
  apply celiski_congr
  intro alan h
  cases h
  rfl

theorem kartaYonlenir_card {aktif : Option ℕ} {kategori : String} {card : ℕ}
    (h : kartaYonlenir k db aktif userId p = .ok (some (kategori, card))) : 0 < card := by
  simp only [kartaYonlenir, bind_eq_ok] at h
  obtain ⟨kat, -, h⟩ := h
  split at h
  · cases h
  · simp only [bind_eq_ok] at h
    obtain ⟨secilen, -, h⟩ := h
    split at h
    · cases h
    · rw [Except.ok.injEq, Option.map_eq_some_iff] at h
      obtain ⟨⟨id, a⟩, hcard, he⟩ := h
      cases he
      obtain ⟨hget, -⟩ := varsayilanHesap_spec hcard
      rw [Nat.pos_iff_ne_zero]
      rintro rfl
      rw [Table.get?_zero] at hget
      cases hget

/-- A normalised transaction is the transaction, or the same one on a card. -/
theorem normalize_ok {aktif : Option ℕ} :
    normalizeTransactionPayload k db aktif userId p = .ok q ↔
      ∃ yon, kartaYonlenir k db aktif userId p = .ok yon ∧
        q = yon.elim p fun y => kartli y.1 y.2 p := by
  simp only [normalizeTransactionPayload, bind_eq_ok, pure_eq_ok]
  exact exists_congr fun yon => and_congr_right fun _ => eq_comm

/-- What `propose_action` stores is accepted, and its summary names its amount. -/
theorem oneriYaz_uyumlu {workspaceId : Option ℕ} {userMessage : String} {o : Oneri} {ws : List Write}
    (h : oneriYaz k db workspaceId userMessage o = .ok ws) :
    ∃ a, ws = [.pendingAction (.insert a)] ∧ TeklifUyumlu k a := by
  simp only [oneriYaz, bind_eq_ok, within_eq_ok, proposeAction, metinDenetimi, stopIf_eq_ok,
    exists_const, Bool.not_eq_true, Option.isSome_eq_false_iff] at h
  obtain ⟨-, p, hp, -, -, q, ⟨celiski, hcel, hyok, hq⟩, hws⟩ := h
  rw [pure_eq_ok] at hws
  rw [Option.isNone_iff_eq_none] at hyok
  subst hyok
  refine ⟨_, hws.symm, q, rfl, ?_⟩
  split at hq
  · cases hq
    exact ⟨dogrula_dogrula hp, hcel⟩
  · next ht =>
    rw [not_not] at ht
    simp only [bind_eq_ok, stopIf_eq_ok, exists_const] at hq
    obtain ⟨-, -, hq⟩ := hq
    obtain ⟨yon, hyon, rfl⟩ := normalize_ok.mp hq
    cases yon with
    | none => exact ⟨dogrula_dogrula hp, hcel⟩
    | some y =>
      rw [ht] at hp hcel ⊢
      obtain ⟨r, hr⟩ := dogrula_dogrula hp
      exact ⟨(dogrula_kartli (kartaYonlenir_card hyon)).mpr (dogrula_kartsiz hr), celiski_kartli.trans hcel⟩

end Contract

/-- The proposals that are pending were there before, as they are. -/
def Kalan (db db' : Db) : Prop :=
  ∀ id p, db'.pendingActions.get? id = some p → p.status = .pending → db.pendingActions.get? id = some p

section Steps
variable {k : TeklifKurallari} {production : Bool} {db db' e : Db} {userId actionId : ℕ}

theorem Kalan.trans (h : Kalan db e) (h' : Kalan e db') : Kalan db db' :=
  fun id p hp hs => h id p (h' id p hp hs) hs

theorem Kalan.uyumlu (h : Kalan db db') (hu : BekleyenlerUyumlu k db) : BekleyenlerUyumlu k db' :=
  fun id p hp hs => hu id p (h id p hp hs) hs

theorem kalan_of_eq (h : db'.pendingActions = db.pendingActions) : Kalan db db' := by
  intro id p hp _
  rwa [h] at hp

/-- A row whose status is set to something else is pending no more. -/
theorem kalan_update {f : PendingAction → PendingAction} (hf : ∀ p, (f p).status ≠ .pending) :
    Kalan db (db.write (.pendingAction (.update actionId f))) := by
  intro id p hp hs
  simp only [Db.write, Table.change, Table.get?_modify] at hp
  split at hp
  · obtain ⟨q, -, rfl⟩ := Option.map_eq_some_iff.mp hp
    exact absurd hs (hf q)
  · exact hp

theorem kalan_writeAll {ws : List Write} (h : ∀ w ∈ ws, ∀ d : Db, Kalan d (d.write w)) :
    Kalan db (db.writeAll ws) := by
  induction ws generalizing db with
  | nil => exact kalan_of_eq rfl
  | cons w ws ih =>
    have hw := h w List.mem_cons_self db
    exact hw.trans (ih fun v hv => h v (List.mem_cons_of_mem w hv))

/-- An approval leaves no other proposal pending than were. -/
theorem kalan_execute (ariza : Ariza) (bugun : ℕ → Date) (db : Db) (actionId userId : ℕ) :
    Kalan db (executePendingAction ariza bugun db actionId userId).2 := by
  rcases execute_writes ariza bugun db actionId userId with he | ⟨pending, ws, son, -, -, he, hson, hws⟩
  · rw [he]
    exact kalan_of_eq rfl
  · rw [he, writeAll_cons, writeAll_append]
    have hsahip : Kalan db (db.write (durumYaz actionId .approved)) := kalan_update fun _ h => by cases h
    have hhandler : Kalan (db.write (durumYaz actionId .approved))
        ((db.write (durumYaz actionId .approved)).writeAll ws) := by
      rcases hws with rfl | ⟨p, happ⟩
      · exact kalan_of_eq rfl
      · exact kalan_of_eq (handler_frame (accepted_iff.mp happ.handler).writes _).1
    refine (hsahip.trans hhandler).trans (kalan_writeAll fun w hw d => ?_)
    cases hson w hw with
    | durum f _ hf => exact kalan_update hf
    | gelir => exact kalan_of_eq rfl
    | gider => exact kalan_of_eq rfl

theorem kalan_approve (ariza : Ariza) (bugun : ℕ → Date) (xWorkspaceId : Option ℤ) :
    Kalan db (approveAction production ariza bugun db userId xWorkspaceId actionId).2 := by
  rcases approveAction_db production ariza bugun db userId xWorkspaceId actionId with he | ⟨-, he⟩
  · rw [he]
    exact kalan_of_eq rfl
  · rw [he]
    exact kalan_execute ariza bugun db actionId userId

theorem kalan_reject (xWorkspaceId : Option ℤ) (reason : Option String) :
    Kalan db (rejectAction db userId xWorkspaceId actionId reason).2 := by
  unfold rejectAction
  cases requireWrite db userId xWorkspaceId with
  | error e => exact kalan_of_eq rfl
  | ok _ =>
    simp only [rejectPendingAction]
    cases kendiAksiyonu db actionId userId with
    | none => exact kalan_of_eq rfl
    | some pending =>
      by_cases hp : pending.status = .pending
      · simp only [hp, ne_eq, not_true_eq_false, if_false]
        exact kalan_update fun _ h => by cases h
      · simp only [hp, ne_eq, not_false_eq_true, if_true]
        exact kalan_of_eq rfl

/-- A new proposal is checked before it is stored. -/
theorem uyumlu_oneri {workspaceId : Option ℕ} {userMessage : String} {o : Oneri}
    (h : BekleyenlerUyumlu k db) : BekleyenlerUyumlu k (sonuc db (oneriYaz k db workspaceId userMessage o)) := by
  rcases sonuc_cases db (oneriYaz k db workspaceId userMessage o) with he | ⟨ws, hws, he, -⟩
  · rwa [he]
  · obtain ⟨a, rfl, ha⟩ := oneriYaz_uyumlu hws
    rw [he]
    intro id p hp hs
    simp only [writeAll_cons, writeAll_nil, Db.write, Table.change, Table.get?_push] at hp
    split at hp
    · cases hp
      exact ha
    · exact h id p hp hs

theorem uyumlu_tetikleKayit {kind : RecurringKind} {kasa : Option ℕ} {bugun : Date} (id : ℕ)
    (h : BekleyenlerUyumlu k db) : BekleyenlerUyumlu k (tetikleKayit k userId kind kasa bugun db id) := by
  unfold tetikleKayit
  split
  · exact h
  · split
    · exact uyumlu_oneri h
    · exact h

/-- The records follow one another, each with the state the one before it left. -/
theorem uyumlu_tetikle {kind : RecurringKind} {kasa : Option ℕ} {bugun : Date} (idler : List ℕ)
    (h : BekleyenlerUyumlu k db) :
    BekleyenlerUyumlu k (idler.foldl (tetikleKayit k userId kind kasa bugun) db) := by
  induction idler generalizing db with
  | nil => exact h
  | cons id idler ih => exact ih (uyumlu_tetikleKayit id h)

theorem uyumlu_triggerDue {xWorkspaceId : Option ℤ} {kind : RecurringKind} {bugun : Date}
    (h : BekleyenlerUyumlu k db) :
    BekleyenlerUyumlu k (triggerDue k production db userId xWorkspaceId kind bugun).2 := by
  unfold triggerDue
  split
  · exact h
  · dsimp only
    split
    · exact h
    · exact uyumlu_tetikle _ h

theorem yeniPayload_ok {t : ActionType} {p q : Payload} :
    yeniPayload k db userId t p = .ok q ↔
      ∃ yon, yonlendirme k db userId t p = .ok yon ∧ q = yon.elim p fun y => kartli y.1 y.2 p := by
  unfold yeniPayload yonlendirme
  by_cases ht : t = .addTransaction
  · simp only [ht, if_true]
    exact normalize_ok
  · simp [ht, eq_comm]

/-- An edited row is accepted exactly when the request's own payload and summary are. -/
theorem uyumlu_duzenlenen {pending : PendingAction} {payload : Payload} {summary : String}
    {yon : Option (String × ℕ)} (hyon : yonlendirme k db userId pending.actionType payload = .ok yon) :
    TeklifUyumlu k { pending with
        payload := .object (yon.elim payload fun y => kartli y.1 y.2 payload)
        summary := summary } ↔
      (∃ r, dogrula k.cevirim pending.actionType (if yon.isSome then kartsiz payload else payload) = .ok r) ∧
        ozetPayloadCeliskisi pending.actionType payload summary = .ok none := by
  simp only [TeklifUyumlu, JsonText.object.injEq, exists_eq_left']
  cases yon with
  | none => exact Iff.rfl
  | some y =>
    have ht : pending.actionType = .addTransaction := by
      by_contra ht
      rw [yonlendirme, if_neg ht] at hyon
      cases hyon
    rw [ht] at hyon ⊢
    rw [yonlendirme, if_pos rfl] at hyon
    simp only [Option.elim_some, Option.isSome_some, if_true]
    rw [dogrula_kartli (kartaYonlenir_card hyon), celiski_kartli]

/-- The state behind an edit that goes through: the row of the action is the edited one. -/
theorem uyumlu_duzenleYaz {pending : PendingAction} {p : Payload} {summary : String}
    (ha : duzenlenebilir db actionId userId = some pending) (h : BekleyenlerUyumlu k db) :
    BekleyenlerUyumlu k (db.write (duzenleYaz actionId p summary)) ↔
      TeklifUyumlu k { pending with payload := .object p, summary := summary } := by
  obtain ⟨hkendi, hs⟩ := Option.filter_eq_some_iff.mp ha
  obtain ⟨hget, -⟩ := kendiAksiyonu_eq_some.mp hkendi
  have hrow (id : ℕ) : (db.write (duzenleYaz actionId p summary)).pendingActions.get? id =
      if id = actionId then some { pending with payload := .object p, summary := summary }
      else db.pendingActions.get? id := by
    simp only [duzenleYaz, Db.write, Table.change, Table.get?_modify]
    split
    · next he => rw [he, hget, Option.map_some]
    · rfl
  constructor
  · intro hall
    have hbek : pending.status = .pending := of_decide_eq_true hs
    exact hall actionId { pending with payload := .object p, summary := summary }
      ((hrow actionId).trans (if_pos rfl)) hbek
  · intro hu id q hq hbek
    rw [hrow] at hq
    split at hq
    · cases hq
      exact hu
    · exact h id q hq hbek

/-- An edit leaves every pending proposal accepted exactly when what it brings is. -/
theorem uyumlu_edit {xWorkspaceId : Option ℤ} {payload : Payload} {summary : String}
    (h : BekleyenlerUyumlu k db) :
    BekleyenlerUyumlu k (sonuc db (editAction k db userId xWorkspaceId actionId payload summary)) ↔
      DuzenlemeUygun k db (.duzenle userId xWorkspaceId actionId payload summary) := by
  cases hg : requireWrite db userId xWorkspaceId with
  | error e =>
    have he : editAction k db userId xWorkspaceId actionId payload summary = .error e := by
      rw [editAction, hg]
      rfl
    rw [he]
    refine iff_of_true h fun pending yon hok => ?_
    rw [hg] at hok
    cases hok
  | ok _ =>
    cases ha : duzenlenebilir db actionId userId with
    | none =>
      have he : editAction k db userId xWorkspaceId actionId payload summary =
          .error (.http 404 "Aksiyon bulunamadi veya artik duzenlenemez.") := by
        rw [editAction, hg, ha]
        rfl
      rw [he]
      refine iff_of_true h fun pending yon _ hok => ?_
      rw [ha] at hok
      cases hok
    | some pending =>
      cases hy : yonlendirme k db userId pending.actionType payload with
      | error e =>
        have he : editAction k db userId xWorkspaceId actionId payload summary =
            .error (.http 400 "Aksiyon icerigi gecersiz.") := by
          have hyeni : ∃ e, yeniPayload k db userId pending.actionType payload = .error e := by
            cases hp : yeniPayload k db userId pending.actionType payload with
            | error e => exact ⟨e, rfl⟩
            | ok q =>
              obtain ⟨yon, hyon, -⟩ := yeniPayload_ok.mp hp
              rw [hy] at hyon
              cases hyon
          obtain ⟨e, hp⟩ := hyeni
          simp only [editAction, hg, ha, require, bind, Except.bind, hp]
          rfl
        rw [he]
        refine iff_of_true h fun pending' yon _ hok hyon => ?_
        rw [ha] at hok
        cases hok
        rw [hy] at hyon
        cases hyon
      | ok yon =>
        have hp := yeniPayload_ok.mpr ⟨yon, hy, rfl⟩
        have he : editAction k db userId xWorkspaceId actionId payload summary =
            .ok [duzenleYaz actionId (yon.elim payload fun y => kartli y.1 y.2 payload) summary] := by
          simp only [editAction, hg, ha, require, bind, Except.bind, hp]
          rfl
        have hson : sonuc db (editAction k db userId xWorkspaceId actionId payload summary) =
            db.write (duzenleYaz actionId (yon.elim payload fun y => kartli y.1 y.2 payload) summary) := by
          rw [he]
          rfl
        rw [hson, uyumlu_duzenleYaz ha h, uyumlu_duzenlenen hy]
        constructor
        · intro hu pending' yon' _ hok hyon
          rw [ha] at hok
          cases hok
          rw [hy] at hyon
          cases hyon
          exact hu
        · exact fun hu => hu pending yon hg ha hy

/-- Of all the requests only an edit can leave a pending proposal in which the user reads one thing
and approves another. -/
theorem uyumlu_adim (istek : TeklifIstegi) (h : BekleyenlerUyumlu k db) :
    BekleyenlerUyumlu k (teklifAdimi k production db istek) ↔ DuzenlemeUygun k db istek := by
  cases istek with
  | oner workspaceId userMessage o => exact iff_of_true (uyumlu_oneri h) trivial
  | tetikle userId x kind bugun => exact iff_of_true (uyumlu_triggerDue h) trivial
  | duzenle userId x actionId payload summary => exact uyumlu_edit h
  | onayla ariza bugun userId x actionId => exact iff_of_true ((kalan_approve ariza bugun x).uyumlu h) trivial
  | reddet userId x actionId reason => exact iff_of_true ((kalan_reject x reason).uyumlu h) trivial

end Steps

/-- In every state a run passes through the pending proposals are accepted by their schemas and say
what they will apply, exactly when every edit on the way is. -/
theorem proposals_intact_iff (k : TeklifKurallari) (production : Bool) (db : Db)
    (istekler : List TeklifIstegi) (h : BekleyenlerUyumlu k db) :
    (∀ n, BekleyenlerUyumlu k (run (teklifAdimi k production) db (istekler.take n))) ↔
      StepsMeet (teklifAdimi k production) (DuzenlemeUygun k) db istekler := by
  have hlaw : ∀ d istek, True → BekleyenlerUyumlu k d →
      (BekleyenlerUyumlu k (teklifAdimi k production d istek) ↔ DuzenlemeUygun k d istek) :=
    fun d istek _ hd => uyumlu_adim istek hd
  exact prefixes_iff_stepsMeet (fun _ _ _ => trivial) hlaw trivial h istekler

def yalinKurallar : TeklifKurallari :=
  ⟨⟨fun _ _ => none, fun _ _ _ h => absurd h.symm (Option.some_ne_none _)⟩, fun _ _ _ => true,
    fun _ => false, fun _ _ _ => false⟩

/-- The coach proposes a balance, and its owner edits the amount in the payload. -/
def bakiyeDuzenlemesi (ozet : String) : List TeklifIstegi := [
  .oner none "" ⟨1, .updateAccountBalance, [(.accountId, .int 1), (.newBalance, .int 320)],
    "Nakit bakiyesi 320 TL olacak", none⟩,
  .duzenle 1 none 1 [(.accountId, .int 1), (.newBalance, .int 3200)] ozet]

private theorem empty_uyumlu (k : TeklifKurallari) : BekleyenlerUyumlu k .empty := by
  intro id p hp
  cases hp

theorem proposals_intact_iff_bakiye :
    (∀ n, BekleyenlerUyumlu yalinKurallar
      (run (teklifAdimi yalinKurallar false) .empty ((bakiyeDuzenlemesi "3.200 TL").take n))) ↔
      StepsMeet (teklifAdimi yalinKurallar false) (DuzenlemeUygun yalinKurallar) .empty
        (bakiyeDuzenlemesi "3.200 TL") :=
  proposals_intact_iff yalinKurallar false .empty (bakiyeDuzenlemesi "3.200 TL") (empty_uyumlu yalinKurallar)

/-- The summary still says 320 TL, and 3200 is what an approval applies. -/
theorem edited_amount_differs_from_the_summary :
    ¬ ∀ (k : TeklifKurallari) (production : Bool) (istekler : List TeklifIstegi) (n : ℕ),
      BekleyenlerUyumlu k (run (teklifAdimi k production) .empty (istekler.take n)) := by
  intro h
  have hrow : (run (teklifAdimi yalinKurallar false) .empty
      ((bakiyeDuzenlemesi "Nakit bakiyesi 320 TL olacak").take 2)).pendingActions.get? 1 =
      some ⟨1, none, .updateAccountBalance, .object [(.accountId, .int 1), (.newBalance, .int 3200)],
        "Nakit bakiyesi 320 TL olacak", .pending, none, none, none⟩ := by decide +kernel
  obtain ⟨q, hq, -, hcel⟩ := h yalinKurallar false (bakiyeDuzenlemesi "Nakit bakiyesi 320 TL olacak") 2 1 _
    hrow rfl
  cases hq
  have hfark : ozetPayloadCeliskisi .updateAccountBalance [(.accountId, .int 1), (.newBalance, .int 3200)]
      "Nakit bakiyesi 320 TL olacak" ≠ .ok none := by decide +kernel
  exact hfark hcel

end FinancialOs.Guarantees
