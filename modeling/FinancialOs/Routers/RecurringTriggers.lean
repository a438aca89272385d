import FinancialOs.Executor.RequestSteps
import FinancialOs.Routers.Proposals

/-! Trigger requests and the decisions and edits of the actions they create, side by side. Each takes
one database step at a time and keeps what it has read; a write to an action waits for an uncommitted
claim on it. -/
namespace FinancialOs.Routers
open Library Store Rules Executor
variable {ι : Type}

inductive DuzenliUc where
  | tetik (gelir : Bool)
  | onay (actionId : ℕ)
  | ret (actionId : ℕ) (reason : Option String)
  | duzenle (actionId : ℕ) (payload : Payload) (summary : String)
  | saat (gun : Date)

/-- A request of a user under a workspace header, or the user's clock moving on. -/
structure DuzenliTalep where
  userId : ℕ
  xWorkspaceId : Option ℤ
  uc : DuzenliUc

/-- An action a trigger has created, with its record and the user's day at the commit. -/
structure Dogum where
  actionId : ℕ
  userId : ℕ
  kind : RecurringKind
  kayit : ℕ
  gun : Date
  deriving DecidableEq

/-- The committed rows, the days of the users and the requests behind uncommitted claims. Three
histories go with them: the actions the triggers have created, the requests that are carrying an
action out, and the actions whose handler has committed. -/
structure DuzenliOrtak (ι : Type) where
  db : Db
  gun : ℕ → Date
  kilit : ℕ → Option ι
  tasiyan : ℕ → Option ι
  dogan : List Dogum
  yurutulen : List ℕ

/-- How far a request has come. A loaded record is lost with every commit and read again. -/
inductive DuzenliKonum where
  | basla
  | hesapBakacak (wsId : Option ℕ) (bugun : Date)
  | listeleyecek (wsId : Option ℕ) (bugun : Date) (kasa : Option ℕ)
  | dongude (bugun : Date) (kasa : Option ℕ) (kalan : List (ℕ × Option Recurring))
  | onerecek (bugun : Date) (kasa : Option ℕ) (id : ℕ) (r : Recurring) (kalan : List (ℕ × Option Recurring))
  | ekleyecek (bugun : Date) (kasa : Option ℕ) (id : ℕ) (ws : List Write)
      (kalan : List (ℕ × Option Recurring))
  | kaynakYazacak (bugun : Date) (kasa : Option ℕ) (id actionId : ℕ) (kalan : List (ℕ × Option Recurring))
  | islemde (k : Konum)
  | kaydedecek (ws : List Write)
  | bitti

def tetikTuru (gelir : Bool) : RecurringKind := if gelir then .income else .expense

/-- The commit behind `propose_action` expires every record that is still to come. -/
def tazelenecek (kalan : List (ℕ × Option Recurring)) : List (ℕ × Option Recurring) :=
  kalan.map fun r => (r.1, none)

def kaynakYaz (actionId id : ℕ) (kind : RecurringKind) : Write :=
  .pendingAction (.update actionId fun p => { p with
    sourceRecurringId := some id
    sourceRecurringType := some kind })

/-- One database step of `trigger_due_incomes` or `trigger_due_expenses`. -/
def tetikAdimi (k : TeklifKurallari) (production : Bool) (userId : ℕ) (xWorkspaceId : Option ℤ) (gelir : Bool)
    (s : DuzenliOrtak ι) : DuzenliKonum → DuzenliOrtak ι × DuzenliKonum
  | .basla => match aksiyonKapisi production s.db userId xWorkspaceId with
    | .error _ => (s, .bitti)
    | .ok wsId =>
      (s, if gelir then .hesapBakacak wsId (s.gun userId) else .listeleyecek wsId (s.gun userId) none)
  | .hesapBakacak wsId bugun => match varsayilanNakitHesap s.db userId wsId with
    | none => (s, .bitti)
    | some cash => (s, .listeleyecek wsId bugun (some cash.1))
  | .listeleyecek wsId bugun kasa =>
    (s, .dongude bugun kasa ((aktifDuzenliler s.db userId wsId (tetikTuru gelir)).map fun id =>
      (id, (duzenliler s.db (tetikTuru gelir)).get? id)))
  | .dongude _ _ [] => (s, .bitti)
  | .dongude bugun kasa ((id, none) :: kalan) =>
    (s, match (duzenliler s.db (tetikTuru gelir)).get? id with
      | none => .bitti
      | some r => .dongude bugun kasa ((id, some r) :: kalan))
  | .dongude bugun kasa ((id, some r) :: kalan) =>
    (s, if tetiklenir s.db userId (tetikTuru gelir) bugun id r then .onerecek bugun kasa id r kalan
      else .dongude bugun kasa kalan)
  | .onerecek bugun kasa id r kalan =>
    (s, match oneriYaz k s.db none "" (duzenliOneri (tetikTuru gelir) userId kasa bugun r) with
      | .error _ => .dongude bugun kasa kalan
      | .ok ws => .ekleyecek bugun kasa id ws kalan)
  -- the new row is committed without its source, which a second commit adds
  | .ekleyecek bugun kasa id ws kalan => match commit s.db ws with
    | .error _ => (s, .dongude bugun kasa kalan)
    | .ok db =>
      let actionId := s.db.pendingActions.freshKey
      ({ s with db := db, dogan := ⟨actionId, userId, tetikTuru gelir, id, s.gun userId⟩ :: s.dogan },
        .kaynakYazacak bugun kasa id actionId (tazelenecek kalan))
  | .kaynakYazacak bugun kasa id actionId kalan => match s.kilit actionId with
    | some _ => (s, .kaynakYazacak bugun kasa id actionId kalan)
    | none => ({ s with db := s.db.write (kaynakYaz actionId id (tetikTuru gelir)) },
        .dongude bugun kasa (tazelenecek kalan))
  | κ => (s, κ)

/-- The request has claimed the action, or is about to commit the claim, and has not finished. -/
def tasiyor : Konum → Bool
  | .onaylayacak => true
  | .yukleyecek => true
  | .denetleyecek _ => true
  | .calistiracak _ _ _ => true
  | .yazacak _ _ _ => true
  | _ => false

/-- The status write loads the row again; the payload decoded from it stays. -/
def tazele (db : Db) (actionId : ℕ) : Konum → Konum
  | .yazacak pending payload cevap =>
    .yazacak ((db.pendingActions.get? actionId).getD pending) payload cevap
  | k => k

/-- What a decision on one action sees of the rows. -/
def DuzenliOrtak.aksiyon (s : DuzenliOrtak ι) (actionId : ℕ) : Ortak ι := ⟨s.db, s.kilit actionId, none, []⟩

/-- The rows and the histories behind one step of a decision. -/
def kararSonrasi (actionId : ℕ) (i : ι) (s : DuzenliOrtak ι) (k : Konum) (r : Ortak ι × Konum) :
    DuzenliOrtak ι × DuzenliKonum :=
  ({ s with
      db := r.1.db
      kilit := Function.update s.kilit actionId r.1.kilit
      tasiyan := if tasiyor r.2 then Function.update s.tasiyan actionId (some i)
        else if tasiyor k then Function.update s.tasiyan actionId none else s.tasiyan
      yurutulen := if r.1.etkiler.isEmpty then s.yurutulen else actionId :: s.yurutulen },
    .islemde r.2)

/-- The action a decision is about exists and is the user's. -/
def aksiyonVar (db : Db) (actionId userId : ℕ) : Bool := (kendiAksiyonu db actionId userId).isSome

/-- One database step of `approve_action`, whose executor meets no exception. -/
def onayIstegiAdimi (production : Bool) (userId : ℕ) (xWorkspaceId : Option ℤ) (actionId : ℕ) (i : ι)
    (s : DuzenliOrtak ι) : DuzenliKonum → DuzenliOrtak ι × DuzenliKonum
  | .basla => (s, if (aksiyonKapisi production s.db userId xWorkspaceId).isOk ∧ aksiyonVar s.db actionId userId
      then .islemde .basla else .bitti)
  | .islemde k => kararSonrasi actionId i s k
      (onayAdimi actionId userId s.gun Ariza.yok i (s.aksiyon actionId) (tazele s.db actionId k))
  | κ => (s, κ)

/-- One database step of `reject_action`. -/
def retIstegiAdimi (userId : ℕ) (xWorkspaceId : Option ℤ) (actionId : ℕ) (reason : Option String) (i : ι)
    (s : DuzenliOrtak ι) : DuzenliKonum → DuzenliOrtak ι × DuzenliKonum
  | .basla => (s, if (requireWrite s.db userId xWorkspaceId).isOk then .islemde .basla else .bitti)
  | .islemde k => kararSonrasi actionId i s k (retAdimi actionId userId reason (s.aksiyon actionId) k)
  | κ => (s, κ)

/-- One database step of `edit_action`: the reads, and the commit that does not look again. -/
def duzenleIstegiAdimi (k : TeklifKurallari) (userId : ℕ) (xWorkspaceId : Option ℤ) (actionId : ℕ)
    (payload : Payload) (summary : String) (s : DuzenliOrtak ι) :
    DuzenliKonum → DuzenliOrtak ι × DuzenliKonum
  | .basla => (s, match editAction k s.db userId xWorkspaceId actionId payload summary with
    | .error _ => .bitti
    | .ok ws => .kaydedecek ws)
  | .kaydedecek ws => match s.kilit actionId with
    | some _ => (s, .kaydedecek ws)
    | none => ({ s with db := sonuc s.db (.ok ws) }, .bitti)
  | κ => (s, κ)

/-- A user's day moves on, never back. -/
def saatAdimi (userId : ℕ) (gun : Date) (s : DuzenliOrtak ι) : DuzenliKonum → DuzenliOrtak ι × DuzenliKonum
  | .basla =>
    (if gun.notBefore (s.gun userId) then { s with gun := Function.update s.gun userId gun } else s, .bitti)
  | κ => (s, κ)

/-- One database step of a request. -/
def duzenliAdimi (k : TeklifKurallari) (production : Bool) (talep : ι → DuzenliTalep) (i : ι)
    (s : DuzenliOrtak ι) (κ : DuzenliKonum) : DuzenliOrtak ι × DuzenliKonum :=
  match (talep i).uc with
  | .tetik gelir => tetikAdimi k production (talep i).userId (talep i).xWorkspaceId gelir s κ
  | .onay actionId => onayIstegiAdimi production (talep i).userId (talep i).xWorkspaceId actionId i s κ
  | .ret actionId reason => retIstegiAdimi (talep i).userId (talep i).xWorkspaceId actionId reason i s κ
  | .duzenle actionId payload summary =>
    duzenleIstegiAdimi k (talep i).userId (talep i).xWorkspaceId actionId payload summary s κ
  | .saat gun => saatAdimi (talep i).userId gun s κ

def duzenliBaslangic (db : Db) (gun : ℕ → Date) : Pool ι (DuzenliOrtak ι) DuzenliKonum :=
  ⟨⟨db, gun, fun _ => none, fun _ => none, [], []⟩, fun _ => .basla⟩

/-- A write to an action's row that decides it without carrying it out. -/
structure KararYazimi (f : PendingAction → PendingAction) : Prop where
  sahip : ∀ p, (f p).userId = p.userId
  kaynak : ∀ p, (f p).sourceRecurringId = p.sourceRecurringId ∧
    (f p).sourceRecurringType = p.sourceRecurringType
  durum : ∀ p, (f p).status ≠ .pending ∧ (f p).status ≠ .executed

/-- What one step of a decision can do. -/
inductive KararHareketi (userId a : ℕ) (i : ι) (s : DuzenliOrtak ι) :
    Konum → DuzenliOrtak ι → Konum → Prop where
  | ilerle (k k' : Konum) (htasir : tasiyor k' = tasiyor k) (hkilit : k' = .onaylayacak ↔ k = .onaylayacak)
      (hyaz : k'.yazacakMi = k.yazacakMi) (hkayit : k'.Kayitli) : KararHareketi userId a i s k s k'
  | sahiplen (hkilit : s.kilit a = none) (hdurum : durumu s.db a = some .pending) :
      KararHareketi userId a i s .sahiplenecek
        { s with
          kilit := Function.update s.kilit a (some i)
          tasiyan := Function.update s.tasiyan a (some i) } .onaylayacak
  | onayla : KararHareketi userId a i s .onaylayacak
      { s with db := s.db.write (durumYaz a .approved), kilit := Function.update s.kilit a none } .yukleyecek
  | vazgec (k k' : Konum) (hk : k.tasiyan = true) (hk' : k'.Bosta) (hbos : tasiyor k' = false) :
      KararHareketi userId a i s k { s with tasiyan := Function.update s.tasiyan a none } k'
  | isledi (k k' : Konum) (ws : List Write) (hk : k.tasiyan = true) (hws : ∀ w ∈ ws, HandlerWrite w)
      (hk' : k'.yazacakMi = true) :
      KararHareketi userId a i s k { s with db := s.db.writeAll ws, yurutulen := a :: s.yurutulen } k'
  | yazdi (pending : PendingAction) (payload : Option Payload) (cevap : Cevap) (db : Db)
      (hkilit : s.kilit a = none)
      (hdb : commit s.db (durumYaz a .executed :: markRecurringTriggered s.db (s.gun userId)
        ((s.db.pendingActions.get? a).getD pending) (payload.getD [])) = .ok db) :
      KararHareketi userId a i s (.yazacak pending payload cevap)
        { s with db := db, tasiyan := Function.update s.tasiyan a none } (.bitti (.basarili cevap))
  | yazamadi (pending : PendingAction) (payload : Option Payload) (cevap : Cevap) (mesaj : String) (yanit : Yanit)
      (hbozuk : TetikBozuk s.db (s.gun userId) ((s.db.pendingActions.get? a).getD pending) (payload.getD [])) :
      KararHareketi userId a i s (.yazacak pending payload cevap)
        { s with tasiyan := Function.update s.tasiyan a none } (.basarisizYazacak mesaj yanit)
  | satirYaz (k k' : Konum) (f : PendingAction → PendingAction) (hf : KararYazimi f) (hkilit : s.kilit a = none)
      (hk : tasiyor k = false) (hk' : k'.Bosta) (hbos : tasiyor k' = false) :
      KararHareketi userId a i s k { s with db := s.db.write (.pendingAction (.update a f)) } k'

section Moves
variable {userId a : ℕ} {i : ι} {s : DuzenliOrtak ι} {k : Konum}

theorem tasiyor_of_tasiyan (h : k.tasiyan = true) : tasiyor k = true ∧ k.yazacakMi = false := by
  cases k <;> simp_all [Konum.tasiyan, tasiyor, Konum.yazacakMi]

theorem tasiyor_of_yazacakMi (h : k.yazacakMi = true) : tasiyor k = true := by
  cases k <;> simp_all [tasiyor, Konum.yazacakMi]

theorem tasiyor_of_etkisiz (h : k.etkisiz = true) : tasiyor k = false ∧ k.yazacakMi = false := by
  cases k <;> simp_all [tasiyor, Konum.etkisiz, Konum.yazacakMi]

theorem tasiyor_of_vazgecen (h : k.vazgecen = true) : tasiyor k = false := by
  cases k <;> simp_all [tasiyor, Konum.vazgecen]

theorem kararYazimi_markFailed (mesaj : String) :
    KararYazimi fun p => { p with status := .failed, errorMessage := some mesaj } :=
  ⟨fun _ => rfl, fun _ => ⟨rfl, rfl⟩, fun _ => by simp⟩

theorem kararYazimi_ret (reason : Option String) :
    KararYazimi fun p => { p with
      status := .rejected
      errorMessage := (reason.filter (· ≠ "")).orElse (fun _ => p.errorMessage) } :=
  ⟨fun _ => rfl, fun _ => ⟨rfl, rfl⟩, fun _ => by simp⟩

/-- A step that keeps the lock and what the request carries changes the rows alone. -/
theorem kararSonrasi_eq {k' : Konum} {o : Ortak ι} (htas : tasiyor k = true → s.tasiyan a = some i)
    (hk : tasiyor k' = tasiyor k) (hkilit : o.kilit = s.kilit a) (hetki : o.etkiler = []) :
    (kararSonrasi a i s k (o, k')).1 = { s with db := o.db } := by
  simp only [kararSonrasi, hk, hkilit, hetki, Function.update_eq_self, List.isEmpty_nil, if_true]
  cases ht : tasiyor k with
  | false => simp
  | true => simp [← htas ht]

/-- A step of a decision that is not the last write of an approval. -/
theorem karar_of_hareket {talep : ι → Talep} {r : Ortak ι × Konum} (hyaz : k.yazacakMi = false)
    (hkayit : k.Kayitli) (hd : k.tasiyan = true → Duzgun talep i (s.aksiyon a) k)
    (htas : tasiyor k = true → s.tasiyan a = some i) (h : Hareket talep a i (s.aksiyon a) k r.1 r.2) :
    KararHareketi userId a i s k (kararSonrasi a i s k r).1 r.2 := by
  obtain ⟨o, k'⟩ := r
  dsimp only at h ⊢
  cases h with
  | bekle =>
    rw [kararSonrasi_eq htas rfl rfl rfl]
    exact .ilerle k k rfl Iff.rfl rfl hkayit
  | oku _ _ hk hk' =>
    obtain ⟨hbos, hyaz'⟩ := tasiyor_of_etkisiz hk'
    have hilk : tasiyor k = false ∧ k ≠ .onaylayacak := by
      rcases hk with rfl | rfl
      · exact ⟨rfl, (fun h => by cases h)⟩
      · exact ⟨rfl, (fun h => by cases h)⟩
    obtain ⟨-, hne, hkay⟩ := Konum.etkisiz_bosta hk'
    rw [kararSonrasi_eq htas (hbos.trans hilk.1.symm) rfl rfl]
    exact .ilerle k k' (hbos.trans hilk.1.symm) (iff_of_false hne hilk.2) (hyaz'.trans hyaz.symm) hkay
  | sahiplen hkilit hdurum => exact .sahiplen hkilit hdurum
  | onayla =>
    have htasir := htas rfl
    have he : Function.update s.tasiyan a (some i) = s.tasiyan := by
      rw [← htasir, Function.update_eq_self]
    have hs : (kararSonrasi a i s .onaylayacak
        ({ s.aksiyon a with db := s.db.write (durumYaz a .approved), kilit := none }, .yukleyecek)).1 =
        { s with db := s.db.write (durumYaz a .approved), kilit := Function.update s.kilit a none } := by
      simp only [kararSonrasi, tasiyor, if_true, he]
      rfl
    exact hs ▸ KararHareketi.onayla
  | ilerle _ _ hk hk' hkay =>
    obtain ⟨htas', hyaz'⟩ := tasiyor_of_tasiyan hk'
    obtain ⟨htask, -⟩ := tasiyor_of_tasiyan hk
    rw [kararSonrasi_eq htas (htas'.trans htask.symm) rfl rfl]
    exact .ilerle k k' (htas'.trans htask.symm)
      (iff_of_false (Konum.tasiyan_once hk').2 (Konum.tasiyan_once hk).2) (hyaz'.trans hyaz.symm) hkay
  | vazgec _ _ hk hk' =>
    have hbos := tasiyor_of_vazgecen hk'
    have hs : (kararSonrasi a i s k ({ s.aksiyon a with sahip := none }, k')).1 =
        { s with tasiyan := Function.update s.tasiyan a none } := by
      simp [kararSonrasi, hbos, (tasiyor_of_tasiyan hk).1, DuzenliOrtak.aksiyon]
    exact hs ▸ .vazgec k k' hk (Konum.vazgecen_bosta hk') hbos
  | isledi _ _ ws hk hws hk' =>
    have hyaz' : k'.yazacakMi = true := hk'.resolve_right fun h => h.2 (hd hk)
    have htasir := htas (tasiyor_of_tasiyan hk).1
    have he : Function.update s.tasiyan a (some i) = s.tasiyan := by
      rw [← htasir, Function.update_eq_self]
    have hs : (kararSonrasi a i s k ({ s.aksiyon a with
        db := s.db.writeAll ws
        sahip := none
        etkiler := [] ++ [(i, ws)] }, k')).1 =
        { s with db := s.db.writeAll ws, yurutulen := a :: s.yurutulen } := by
      simp [kararSonrasi, tasiyor_of_yazacakMi hyaz', he, DuzenliOrtak.aksiyon]
    exact hs ▸ .isledi k k' ws hk hws hyaz'
  | yaz _ _ db hk => simp [hyaz] at hk
  | yazamadi _ _ hk => simp [hyaz] at hk
  | basarisiz mesaj yanit hkilit =>
    have hbos : tasiyor (.bitti yanit) = tasiyor (.basarisizYazacak mesaj yanit) := rfl
    rw [kararSonrasi_eq htas hbos rfl rfl]
    exact .satirYaz _ _ _ (kararYazimi_markFailed mesaj) hkilit rfl (Konum.bitti_bosta _) rfl
  | reddet reason hkilit _ =>
    have hbos : tasiyor (.bitti (.reddedildi a)) = tasiyor .reddedecek := rfl
    rw [kararSonrasi_eq htas hbos rfl rfl]
    exact .satirYaz _ _ _ (kararYazimi_ret reason) hkilit rfl (Konum.bitti_bosta _) rfl

theorem onay_hareketi (hkayit : k.Kayitli) (htas : tasiyor k = true → s.tasiyan a = some i)
    {r : Ortak ι × Konum} (hr : onayAdimi a userId s.gun Ariza.yok i (s.aksiyon a) (tazele s.db a k) = r) :
    KararHareketi userId a i s k (kararSonrasi a i s k r).1 r.2 := by
  cases hyaz : k.yazacakMi with
  | false =>
    have htaze : tazele s.db a k = k := by cases k <;> first | rfl | cases hyaz
    have hd : k.tasiyan = true → Duzgun (fun _ : ι => .onay userId s.gun Ariza.yok) i (s.aksiyon a) k := by
      intro hk
      cases k with
      | calistiracak pending handler payload => exact fun _ => rfl
      | _ => trivial
    rw [htaze] at hr
    subst hr
    exact karar_of_hareket hyaz hkayit hd htas
      (talepAdimi_hareket (fun _ : ι => .onay userId s.gun Ariza.yok) i (s.aksiyon a) hkayit)
  | true =>
    cases k with
    | yazacak pending payload cevap =>
      have htasir := htas rfl
      cases hkilit : s.kilit a with
      | some j =>
        have hadim : onayAdimi a userId s.gun Ariza.yok i (s.aksiyon a)
            (tazele s.db a (.yazacak pending payload cevap)) =
            (s.aksiyon a, .yazacak ((s.db.pendingActions.get? a).getD pending) payload cevap) := by
          simp only [tazele, onayAdimi, DuzenliOrtak.aksiyon, hkilit]
        have hayni : tasiyor (.yazacak ((s.db.pendingActions.get? a).getD pending) payload cevap) =
            tasiyor (.yazacak pending payload cevap) := rfl
        obtain rfl := hadim.symm.trans hr
        dsimp only
        rw [kararSonrasi_eq htas hayni rfl rfl]
        exact .ilerle _ _ rfl (iff_of_false (fun h => by cases h) (fun h => by cases h)) rfl trivial
      | none =>
        cases hson : sonuclandir Ariza.yok (s.gun userId) s.db a ((s.db.pendingActions.get? a).getD pending)
            payload with
        | error e =>
          have hbozuk : TetikBozuk s.db (s.gun userId) ((s.db.pendingActions.get? a).getD pending)
              (payload.getD []) := by
            by_contra hb
            have hok : ∃ db, sonuclandir Ariza.yok (s.gun userId) s.db a
                ((s.db.pendingActions.get? a).getD pending) payload = .ok db :=
              sonuclandir_ok_iff.mpr ⟨rfl, rfl, rfl, hb⟩
            obtain ⟨db, hdb⟩ := hok
            rw [hson] at hdb
            cases hdb
          have hadim : onayAdimi a userId s.gun Ariza.yok i (s.aksiyon a)
              (tazele s.db a (.yazacak pending payload cevap)) = (s.aksiyon a, beklenmeyenYaz e) := by
            simp only [tazele, onayAdimi, DuzenliOrtak.aksiyon, hkilit, hson]
          obtain rfl := hadim.symm.trans hr
          have hs : (kararSonrasi a i s (.yazacak pending payload cevap) (s.aksiyon a, beklenmeyenYaz e)).1 =
              { s with tasiyan := Function.update s.tasiyan a none } := by
            simp [kararSonrasi, beklenmeyenYaz, tasiyor, DuzenliOrtak.aksiyon]
          exact hs ▸ .yazamadi pending payload cevap _ _ hbozuk
        | ok db =>
          have hadim : onayAdimi a userId s.gun Ariza.yok i (s.aksiyon a)
              (tazele s.db a (.yazacak pending payload cevap)) =
              ({ s.aksiyon a with db := db }, .bitti (.basarili cevap)) := by
            simp only [tazele, onayAdimi, DuzenliOrtak.aksiyon, hkilit, hson]
            rfl
          obtain rfl := hadim.symm.trans hr
          have hs : (kararSonrasi a i s (.yazacak pending payload cevap)
              ({ s.aksiyon a with db := db }, .bitti (.basarili cevap))).1 =
              { s with db := db, tasiyan := Function.update s.tasiyan a none } := by
            simp [kararSonrasi, tasiyor, DuzenliOrtak.aksiyon]
          exact hs ▸ .yazdi pending payload cevap db hkilit hson
    | _ => cases hyaz

/-- A rejection waits, or writes; it carries nothing. -/
theorem ret_hareketi {reason : Option String} (hkayit : k.Kayitli) (hbos : tasiyor k = false)
    {r : Ortak ι × Konum} (hr : retAdimi a userId reason (s.aksiyon a) k = r) :
    KararHareketi userId a i s k (kararSonrasi a i s k r).1 r.2 ∧ tasiyor r.2 = false := by
  have hyaz : k.yazacakMi = false := by
    cases k with
    | yazacak pending payload cevap => cases hbos
    | _ => rfl
  have hd : k.tasiyan = true → Duzgun (fun _ : ι => .ret userId reason) i (s.aksiyon a) k := by
    intro hk
    rw [(tasiyor_of_tasiyan hk).1] at hbos
    cases hbos
  have htas : tasiyor k = true → s.tasiyan a = some i := by
    intro ht
    rw [hbos] at ht
    cases ht
  subst hr
  refine ⟨karar_of_hareket hyaz hkayit hd htas
    (talepAdimi_hareket (fun _ : ι => .ret userId reason) i (s.aksiyon a) hkayit), ?_⟩
  cases k with
  | basla =>
    have hilk : Konum.etkisiz .reddedecek = true := rfl
    exact (tasiyor_of_etkisiz (oku_etkisiz s.db a userId "Aksiyon bulunamadi."
      (fun durum => s!"Aksiyon zaten '{durum}'.") hilk)).1
  | reddedecek =>
    simp only [retAdimi, DuzenliOrtak.aksiyon]
    cases s.kilit a <;> rfl
  | _ => exact hbos

end Moves

section Marks
variable {db : Db} {bugun : Date} {p : PendingAction} {payload : Payload} {gelir gelir' : Bool} {id j : ℕ}

/-- The mark on an income or an expense. -/
def isaretYaz (gelir : Bool) (id : ℕ) (ym : String) : Write :=
  let isaretle (r : Recurring) : Recurring := { r with lastTriggeredYearMonth := some ym }
  if gelir then .income (.update id isaretle) else .expense (.update id isaretle)

/-- An action whose source is its own user's record marks it. -/
theorem markRecurringTriggered_eq {r : Recurring} (hid : p.sourceRecurringId = some id)
    (ht : p.sourceRecurringType = some (tetikTuru gelir))
    (hr : (duzenliler db (tetikTuru gelir)).get? id = some r) (hu : r.userId = p.userId) :
    markRecurringTriggered db bugun p payload = [isaretYaz gelir id (tetikAyi bugun payload)] := by
  cases gelir with
  | true =>
    have hk : kaynakKaydi db.incomes id p.userId = some r :=
      Option.filter_eq_some_iff.mpr ⟨hr, decide_eq_true hu⟩
    simp [markRecurringTriggered, hid, ht, tetikTuru, hk, isaretYaz]
  | false =>
    have hk : kaynakKaydi db.expenses id p.userId = some r :=
      Option.filter_eq_some_iff.mpr ⟨hr, decide_eq_true hu⟩
    simp [markRecurringTriggered, hid, ht, tetikTuru, hk, isaretYaz]

theorem get?_isaretYaz (ym : String) :
    (duzenliler (db.write (isaretYaz gelir id ym)) (tetikTuru gelir')).get? j =
      if gelir' = gelir ∧ j = id then
        ((duzenliler db (tetikTuru gelir')).get? j).map fun r => { r with lastTriggeredYearMonth := some ym }
      else (duzenliler db (tetikTuru gelir')).get? j := by
  cases gelir <;> cases gelir' <;>
    simp [isaretYaz, duzenliler, tetikTuru, Db.write, Table.change]

@[simp] theorem pendingActions_isaretYaz (ym : String) :
    (db.write (isaretYaz gelir id ym)).pendingActions = db.pendingActions := by
  cases gelir <;> rfl

end Marks

section Alone
variable {k : TeklifKurallari} {production : Bool} {talep : ι → DuzenliTalep} {i : ι} {s : DuzenliOrtak ι}
  {gelir : Bool} {bugun : Date} {kasa : Option ℕ}

/-- The source of a proposal is stored with it and checked by nobody. -/
private theorem oneriYaz_kaynak (k : TeklifKurallari) (db : Db) (o : Oneri) (id : ℕ) (kind : RecurringKind) :
    (∃ e, oneriYaz k db none "" o = .error e ∧
      oneriYaz k db none "" { o with kaynak := some (id, kind) } = .error e) ∨
    ∃ a, oneriYaz k db none "" o = .ok [.pendingAction (.insert a)] ∧
      oneriYaz k db none "" { o with kaynak := some (id, kind) } = .ok [.pendingAction (.insert { a with
        sourceRecurringId := some id
        sourceRecurringType := some kind })] := by
  have hmetin (p : Payload) : metinDenetimi k "" db none { o with payload := p, kaynak := some (id, kind) } =
      metinDenetimi k "" db none { o with payload := p } := rfl
  simp only [oneriYaz, proposeAction, stopIf, bind, Except.bind, hmetin]
  by_cases htur : (payloadSemalari o.actionType).isNone = true
  · simp only [htur, if_true]
    exact .inl ⟨_, rfl, rfl⟩
  simp only [htur]
  cases within UcHatasi.hata (dogrula k.cevirim o.actionType o.payload) with
  | error e => exact .inl ⟨e, rfl, rfl⟩
  | ok p =>
    by_cases hsema : semayaUyar o.actionType p = false
    · simp only [hsema, if_true]
      exact .inl ⟨_, rfl, rfl⟩
    simp only [hsema]
    cases within UcHatasi.hata (metinDenetimi k "" db none { o with payload := p }) with
    | error e => exact .inl ⟨e, rfl, rfl⟩
    | ok q => exact .inr ⟨_, rfl, rfl⟩

/-- Some of its own steps take an undisturbed request from one place to another. -/
private def Varir (k : TeklifKurallari) (production : Bool) (talep : ι → DuzenliTalep) (i : ι)
    (r r' : DuzenliOrtak ι × DuzenliKonum) : Prop :=
  ∃ n, (fun r : DuzenliOrtak ι × DuzenliKonum => duzenliAdimi k production talep i r.1 r.2)^[n] r = r'

private theorem varir_adim {κ : DuzenliKonum} {r : DuzenliOrtak ι × DuzenliKonum}
    (hu : (talep i).uc = .tetik gelir)
    (h : Varir k production talep i
      (tetikAdimi k production (talep i).userId (talep i).xWorkspaceId gelir s κ) r) :
    Varir k production talep i (s, κ) r := by
  obtain ⟨n, hn⟩ := h
  have hadim : duzenliAdimi k production talep i s κ =
      tetikAdimi k production (talep i).userId (talep i).xWorkspaceId gelir s κ := by
    simp only [duzenliAdimi, hu]
  refine ⟨n + 1, ?_⟩
  rw [Function.iterate_succ_apply]
  exact (congrArg _ hadim).trans hn

/-- The rest of the loop, as long as nobody else is at work: each record is proposed or passed over. -/
private theorem varir_dongu (hu : (talep i).uc = .tetik gelir) (ids : List ℕ)
    (kalan : List (ℕ × Option Recurring)) (hids : kalan.map Prod.fst = ids)
    (hkilit : ∀ a, s.kilit a = none)
    (hkalan : ∀ q ∈ kalan, ∃ r, (duzenliler s.db (tetikTuru gelir)).get? q.1 = some r ∧
      (q.2 = none ∨ q.2 = some r)) :
    ∃ s', Varir k production talep i (s, .dongude bugun kasa kalan) (s', .bitti) ∧
      s'.db = ids.foldl (tetikleKayit k (talep i).userId (tetikTuru gelir) kasa bugun) s.db := by
  induction ids generalizing s kalan with
  | nil =>
    obtain rfl := List.map_eq_nil_iff.mp hids
    exact ⟨s, varir_adim hu ⟨0, rfl⟩, rfl⟩
  | cons id ids ih =>
    obtain ⟨q, kalan, rfl, rfl, hkalanlar⟩ := List.map_eq_cons_iff.mp hids
    obtain ⟨r, hr, hq⟩ := hkalan q List.mem_cons_self
    have hsonra : ∀ q ∈ kalan, ∃ r, (duzenliler s.db (tetikTuru gelir)).get? q.1 = some r ∧
        (q.2 = none ∨ q.2 = some r) := fun q hq => hkalan q (List.mem_cons_of_mem _ hq)
    -- a record that was lost with a commit is read again first
    have hoku {s' : DuzenliOrtak ι}
        (h : Varir k production talep i (s, .dongude bugun kasa ((q.1, some r) :: kalan)) (s', .bitti)) :
        Varir k production talep i (s, .dongude bugun kasa (q :: kalan)) (s', .bitti) := by
      obtain ⟨id, o⟩ := q
      rcases hq with rfl | rfl
      · apply varir_adim hu
        simp only [tetikAdimi, hr]
        exact h
      · exact h
    rw [List.foldl_cons]
    cases ht : tetiklenir s.db (talep i).userId (tetikTuru gelir) bugun q.1 r with
    | false =>
      have hgec : tetikleKayit k (talep i).userId (tetikTuru gelir) kasa bugun s.db q.1 = s.db := by
        simp only [tetikleKayit, hr, ht, Bool.false_eq_true, if_false]
      rw [hgec]
      obtain ⟨s', hv, hdb⟩ := ih kalan hkalanlar hkilit hsonra
      refine ⟨s', hoku (varir_adim hu ?_), hdb⟩
      simp only [tetikAdimi, ht, Bool.false_eq_true, if_false]
      exact hv
    | true =>
      rcases oneriYaz_kaynak k s.db (duzenliOneri (tetikTuru gelir) (talep i).userId kasa bugun r) q.1
        (tetikTuru gelir) with ⟨e, ho, ho'⟩ | ⟨a, ho, ho'⟩
      · have hgec : tetikleKayit k (talep i).userId (tetikTuru gelir) kasa bugun s.db q.1 = s.db := by
          simp only [tetikleKayit, hr, ht, if_true, ho']
          rfl
        rw [hgec]
        obtain ⟨s', hv, hdb⟩ := ih kalan hkalanlar hkilit hsonra
        refine ⟨s', hoku (varir_adim hu ?_), hdb⟩
        simp only [tetikAdimi, ht, if_true]
        apply varir_adim hu
        simp only [tetikAdimi, ho]
        exact hv
      · let s₁ : DuzenliOrtak ι := { s with
          db := (s.db.write (.pendingAction (.insert a))).write
            (kaynakYaz s.db.pendingActions.freshKey q.1 (tetikTuru gelir))
          dogan := ⟨s.db.pendingActions.freshKey, (talep i).userId, tetikTuru gelir, q.1,
            s.gun (talep i).userId⟩ :: s.dogan }
        have hyaz : tetikleKayit k (talep i).userId (tetikTuru gelir) kasa bugun s.db q.1 = s₁.db := by
          simp only [tetikleKayit, hr, ht, if_true, ho']
          have hpush := Table.modify_push s.db.pendingActions a fun p => { p with
            sourceRecurringId := some q.1
            sourceRecurringType := some (tetikTuru gelir) }
          simp only [s₁, kaynakYaz, Db.write, Table.change, hpush]
          rfl
        have hk (kind : RecurringKind) : duzenliler s₁.db kind = duzenliler s.db kind := by cases kind <;> rfl
        have hids' : (tazelenecek kalan).map Prod.fst = ids := by
          rw [tazelenecek, List.map_map]
          exact hkalanlar
        rw [hyaz]
        obtain ⟨s', hv, hdb⟩ := ih (s := s₁) (tazelenecek (tazelenecek kalan))
          (by rw [tazelenecek, List.map_map]; exact hids') hkilit fun q' hq' => by
            obtain ⟨q₁, hq₁, rfl⟩ := List.mem_map.mp hq'
            obtain ⟨q₂, hq₂, rfl⟩ := List.mem_map.mp hq₁
            obtain ⟨r₂, hr₂, -⟩ := hsonra q₂ hq₂
            rw [hk]
            exact ⟨r₂, hr₂, .inl rfl⟩
        refine ⟨s', hoku (varir_adim hu ?_), hdb⟩
        simp only [tetikAdimi, ht, if_true]
        apply varir_adim hu
        simp only [tetikAdimi, ho]
        apply varir_adim hu
        have hc : commit s.db [.pendingAction (.insert a)] = .ok (s.db.write (.pendingAction (.insert a))) := rfl
        simp only [tetikAdimi, hc]
        apply varir_adim hu
        simp only [tetikAdimi, hkilit]
        exact hv

/-- A trigger request that nobody disturbs is `trigger_due` as it stands. -/
theorem trigger_alone [DecidableEq ι] (hu : (talep i).uc = .tetik gelir)
    (p : Pool ι (DuzenliOrtak ι) DuzenliKonum) (hb : p.loc i = .basla) (hkilit : ∀ a, p.shared.kilit a = none) :
    ∃ n, let q := run (Pool.step (duzenliAdimi k production talep)) p (List.replicate n i)
      q.shared.db = (triggerDue k production p.shared.db (talep i).userId (talep i).xWorkspaceId
        (tetikTuru gelir) (p.shared.gun (talep i).userId)).2 ∧ q.loc i = .bitti := by
  have hvar : ∃ s', Varir k production talep i (p.shared, .basla) (s', .bitti) ∧
      s'.db = (triggerDue k production p.shared.db (talep i).userId (talep i).xWorkspaceId
        (tetikTuru gelir) (p.shared.gun (talep i).userId)).2 := by
    have hliste (wsId : Option ℕ) (kasa : Option ℕ) (bugun : Date) :
        ∃ s', Varir k production talep i (p.shared, .listeleyecek wsId bugun kasa) (s', .bitti) ∧
          s'.db = (aktifDuzenliler p.shared.db (talep i).userId wsId (tetikTuru gelir)).foldl
            (tetikleKayit k (talep i).userId (tetikTuru gelir) kasa bugun) p.shared.db := by
      have hids : ((aktifDuzenliler p.shared.db (talep i).userId wsId (tetikTuru gelir)).map fun id =>
          (id, (duzenliler p.shared.db (tetikTuru gelir)).get? id)).map Prod.fst =
          aktifDuzenliler p.shared.db (talep i).userId wsId (tetikTuru gelir) := by
        rw [List.map_map]
        exact List.map_id _
      have hkayit : ∀ q ∈ (aktifDuzenliler p.shared.db (talep i).userId wsId (tetikTuru gelir)).map fun id =>
          (id, (duzenliler p.shared.db (tetikTuru gelir)).get? id),
          ∃ r, (duzenliler p.shared.db (tetikTuru gelir)).get? q.1 = some r ∧ (q.2 = none ∨ q.2 = some r) := by
        intro q hq
        obtain ⟨id, hid, rfl⟩ := List.mem_map.mp hq
        obtain ⟨⟨id, r⟩, hr, rfl⟩ := List.mem_map.mp hid
        have hget := (Table.mem_select.mp hr).1
        exact ⟨r, hget, .inr hget⟩
      obtain ⟨s', hv, hdb⟩ := varir_dongu hu _ _ hids hkilit hkayit
      exact ⟨s', varir_adim hu hv, hdb⟩
    cases hk : aksiyonKapisi production p.shared.db (talep i).userId (talep i).xWorkspaceId with
    | error e =>
      refine ⟨p.shared, varir_adim hu ⟨0, ?_⟩, ?_⟩
      · simp only [tetikAdimi, hk]
        rfl
      · simp only [triggerDue, hk]
    | ok wsId =>
      cases gelir with
      | true =>
        cases hh : varsayilanNakitHesap p.shared.db (talep i).userId wsId with
        | none =>
          refine ⟨p.shared, varir_adim hu ?_, ?_⟩
          · simp only [tetikAdimi, hk, if_true]
            refine varir_adim hu ⟨0, ?_⟩
            simp only [tetikAdimi, hh]
            rfl
          · simp only [triggerDue, hk, hh]
            rfl
        | some cash =>
          obtain ⟨s', hv, hdb⟩ := hliste wsId (some cash.1) (p.shared.gun (talep i).userId)
          refine ⟨s', varir_adim hu ?_, hdb.trans ?_⟩
          · simp only [tetikAdimi, hk, if_true]
            apply varir_adim hu
            simp only [tetikAdimi, hh]
            exact hv
          · simp only [triggerDue, hk, hh]
            rfl
      | false =>
        obtain ⟨s', hv, hdb⟩ := hliste wsId none (p.shared.gun (talep i).userId)
        refine ⟨s', varir_adim hu ?_, hdb.trans ?_⟩
        · simp only [tetikAdimi, hk, Bool.false_eq_true, if_false]
          exact hv
        · have hkasa (kasa : Option ℕ) : tetikleKayit k (talep i).userId (tetikTuru false) kasa
              (p.shared.gun (talep i).userId) = tetikleKayit k (talep i).userId (tetikTuru false) none
              (p.shared.gun (talep i).userId) := rfl
          simp only [triggerDue, hk, hkasa]
          rfl
  obtain ⟨s', ⟨n, hn⟩, hdb⟩ := hvar
  have halone := Pool.run_alone p i n (f := duzenliAdimi k production talep)
  rw [hb, hn] at halone
  refine ⟨n, ?_, congrArg Prod.snd halone⟩
  rw [← hdb]
  exact congrArg (fun r => r.1.db) halone

end Alone

end FinancialOs.Routers
