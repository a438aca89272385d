import FinancialOs.Rules.ActionSchema

/-! `dogrula` and `ozet_payload_celiskisi`: the payload of a proposal is checked against the schema
of its action type, and its amount against the amounts its summary names. -/
namespace FinancialOs.Rules
open Library Store

/-- The name of a payload field. -/
def alanAdi : PayloadKey → String
  | .accountId => "account_id"
  | .newBalance => "new_balance"
  | .transactionType => "transaction_type"
  | .amount => "amount"
  | .category => "category"
  | .description => "description"
  | .transactionDate => "transaction_date"
  | .isCardExpense => "is_card_expense"
  | .autoUpdateBalance => "auto_update_balance"
  | .debtId => "debt_id"
  | .paidDate => "paid_date"
  | .cardAccountId => "card_account_id"
  | .sourceAccountId => "source_account_id"
  | .investmentId => "investment_id"
  | .lotsToSell => "lots_to_sell"
  | .actualPrice => "actual_price"
  | .creditToAccountId => "credit_to_account_id"
  | .newPrice => "new_price"
  | .title => "title"
  | .checkpointType => "checkpoint_type"
  | .priority => "priority"
  | .targetAccountId => "target_account_id"
  | .creditAccountId => "credit_account_id"
  | .fromAccountId => "from_account_id"
  | .other name => name

/-- The validator's lenient conversion of a value that does not have its field's type as it stands;
what it converts to has the type and keeps the bounds. -/
structure Cevirim where
  cevir : AlanTuru → PyValue → Option PyValue
  uyar : ∀ tur v w, cevir tur v = some w → tur.uyar w = true

/-- An amount is a float, also where an integer was written. -/
def AlanTuru.kanon : AlanTuru → PyValue → PyValue
  | .tutar, .int n => .float (.finite n)
  | .bakiye, .int n => .float (.finite n)
  | _, v => v

def AlanTuru.oku (cevirim : Cevirim) (tur : AlanTuru) (v : PyValue) : Option PyValue :=
  if tur.uyar v then some (tur.kanon v) else cevirim.cevir tur v

/-- A field of a payload: its value, nothing where an optional field is left out, or an error. -/
def alanSonucu (cevirim : Cevirim) (t : ActionType) (p : Payload) (a : Alan) : Option (Option PyValue) :=
  match p.lookup a.ad with
  | none => if a.zorunlu then none else some none
  | some v =>
    if v.isNone then
      -- a validator of its own: an account that is written as null needs the card's account
      let kart := p.get .cardAccountId
      let kartsiz := kart.isNone ∨ (AlanTuru.kimlik.oku cevirim kart).isNone
      if a.zorunlu ∨ t = .payCreditCard ∧ a.ad = .accountId ∧ kartsiz then none else some none
    else (a.tur.oku cevirim v).map some

/-- The fields in error: first those of the schema, then the ones it does not know. -/
def hataliAlanlar (cevirim : Cevirim) (t : ActionType) (p : Payload) (alanlar : List Alan) :
    List PayloadKey :=
  ((alanlar.filter fun a => (alanSonucu cevirim t p a).isNone).map Alan.ad) ++
    ((p.map Prod.fst).filter fun k => alanlar.all fun a => a.ad ≠ k)

/-- `dogrula`: the normalised payload, in the order of the schema and without the absent fields. -/
def dogrula (cevirim : Cevirim) (t : ActionType) (p : Payload) : Except PyError Payload :=
  match payloadSemalari t with
  | none =>
    let tur := match t with
      | .unknown name => name
      | _ => ""
    .error (.raised s!"PAYLOAD_GECERSIZ: {tur} icin sema tanimli degil")
  | some alanlar =>
    let hatali := hataliAlanlar cevirim t p alanlar
    let adlar := ", ".intercalate ((hatali.take 4).map alanAdi).dedup
    if hatali = [] then
      .ok (alanlar.filterMap fun a => ((alanSonucu cevirim t p a).join).map fun w => (a.ad, w))
    else .error (.raised s!"PAYLOAD_GECERSIZ: islem verisi sozlesmeye uymuyor ({adlar})")

/-- The amount a summary has to name. -/
def paraAlanlari : ActionType → Option PayloadKey
  | .updateAccountBalance => some .newBalance
  | .addTransaction => some .amount
  | .payCreditCard => some .amount
  | .updateFundPrice => some .newPrice
  | _ => none

def sayiHarfi (c : Char) : Bool := c.isDigit ∨ c = '.' ∨ c = ','

/-- The runs of digits, dots and commas that begin with a digit. -/
def sayiParcalari : ℕ → List Char → List (List Char)
  | 0, _ => []
  | _, [] => []
  | fuel + 1, c :: rest =>
    if c.isDigit then (c :: rest.takeWhile sayiHarfi) :: sayiParcalari fuel (rest.dropWhile sayiHarfi)
    else sayiParcalari fuel rest

/-- A written number, with the comma or the dot as its decimal mark. -/
def sayiCoz (ham : List Char) : Option PyFloat :=
  let kirpik := (ham.reverse.dropWhile fun c => c = '.' ∨ c = ',').reverse
  let noktasiz := kirpik.filter (· ≠ '.')
  let aday :=
    if ',' ∈ kirpik then noktasiz.map fun c => if c = ',' then '.' else c
    else if kirpik.count '.' = 1 ∧ (kirpik.reverse.takeWhile (· ≠ '.')).length ≠ 3 then kirpik
    else noktasiz
  NumberText.read (String.ofList aday)

def ozettekiSayilar (metin : String) : List PyFloat :=
  (sayiParcalari metin.length metin.toList).filterMap sayiCoz

/-- Equal to the kuruş. -/
def yakin (x : PyFloat) : PyFloat → Bool
  | .finite s => match x with
    | .finite q => |s - q| ≤ 1 / 100
    | _ => false
  | _ => false

/-- `ozet_payload_celiskisi`: nothing where the summary names the amount. -/
def ozetPayloadCeliskisi (t : ActionType) (p : Payload) (summary : String) :
    Except PyError (Option String) :=
  match paraAlanlari t with
  | none => .ok none
  | some alan =>
    let ad := alanAdi alan
    let tutar := (p.get alan).text
    let sayilar := ozettekiSayilar summary
    let liste := ", ".intercalate (sayilar.map fun s => (PyValue.float s).text)
    if (p.get alan).isNone then .ok none
    else if sayilar = [] then
      .ok (some s!"ozet tutari SOYLEMIYOR ({ad}={tutar}); kullanici neyi onayladigini goremez")
    else match (p.get alan).toFloat with
      | .error e => .error e
      | .ok x =>
        if sayilar.any (yakin x) then .ok none
        else .ok (some s!"ozetteki tutar(lar) [{liste}] ile payload {ad}={tutar} uyusmuyor")

section Fields
variable {cevirim : Cevirim} {tur : AlanTuru} {t : ActionType} {p q : Payload} {v w : PyValue} {a : Alan}
variable {alanlar : List Alan}

theorem uyar_none (tur : AlanTuru) : tur.uyar .none = false := by
  cases tur <;> rfl

theorem isNone_of_uyar (h : tur.uyar v = true) : v.isNone = false := by
  cases v with
  | none =>
    rw [uyar_none] at h
    cases h
  | _ => rfl

theorem uyar_kanon (h : tur.uyar v = true) : tur.uyar (tur.kanon v) = true := by
  cases tur with
  | tutar =>
    cases v with
    | int n =>
      simp only [AlanTuru.uyar, decide_eq_true_eq] at h
      simpa [AlanTuru.kanon, AlanTuru.uyar] using h
    | _ => exact h
  | bakiye =>
    cases v with
    | int n =>
      simp only [AlanTuru.uyar, decide_eq_true_eq] at h
      simpa [AlanTuru.kanon, AlanTuru.uyar] using h
    | _ => exact h
  | _ => exact h

/-- What a field reads has its type and keeps its bounds. -/
theorem uyar_oku (h : tur.oku cevirim v = some w) : tur.uyar w = true := by
  unfold AlanTuru.oku at h
  split at h
  · next hv =>
    cases h
    exact uyar_kanon hv
  · exact cevirim.uyar tur v w h

theorem oku_of_uyar (h : tur.uyar v = true) : tur.oku cevirim v = some (tur.kanon v) := if_pos h

/-- A schema names a field once. -/
theorem semalar_nodup (h : payloadSemalari t = some alanlar) : (alanlar.map Alan.ad).Nodup := by
  cases t <;> cases h <;> decide

theorem dogrula_ok : dogrula cevirim t p = .ok q ↔ ∃ alanlar, payloadSemalari t = some alanlar ∧
    (∀ a ∈ alanlar, (alanSonucu cevirim t p a).isSome = true) ∧
      (∀ r ∈ p, ∃ a ∈ alanlar, a.ad = r.1) ∧
        q = alanlar.filterMap fun a => ((alanSonucu cevirim t p a).join).map fun w => (a.ad, w) := by
  unfold dogrula
  cases hs : payloadSemalari t with
  | none => simp
  | some alanlar =>
    have hbos : hataliAlanlar cevirim t p alanlar = [] ↔
        (∀ a ∈ alanlar, (alanSonucu cevirim t p a).isSome = true) ∧ ∀ r ∈ p, ∃ a ∈ alanlar, a.ad = r.1 := by
      simp only [hataliAlanlar, List.append_eq_nil_iff, List.map_eq_nil_iff, List.filter_eq_nil_iff,
        Bool.not_eq_true, Option.isNone_eq_false_iff, List.forall_mem_map, List.all_eq_false,
        decide_eq_true_eq, not_not]
    simp only [Option.some.injEq, exists_eq_left']
    split
    · next hb =>
      obtain ⟨ha, hk⟩ := hbos.mp hb
      constructor
      · intro h
        cases h
        exact ⟨ha, hk, rfl⟩
      · rintro ⟨-, -, rfl⟩
        rfl
    · next hb =>
      simp only [reduceCtorEq, false_iff]
      rintro ⟨ha, hk, -⟩
      exact hb (hbos.mpr ⟨ha, hk⟩)

/-- What the reading of a list of fields says about each of them. -/
theorem lookup_alanlar {f : Alan → Option PyValue} (hn : (alanlar.map Alan.ad).Nodup) (ha : a ∈ alanlar) :
    (alanlar.filterMap fun a => (f a).map fun w => (a.ad, w)).lookup a.ad = f a := by
  induction alanlar with
  | nil => cases ha
  | cons b alanlar ih =>
    rw [List.map_cons, List.nodup_cons] at hn
    have hyok : a.ad ∉ alanlar.map Alan.ad → (alanlar.filterMap fun a => (f a).map fun w => (a.ad, w)).lookup
        a.ad = none := by
      intro h
      rw [List.lookup_eq_none_iff]
      rintro ⟨k, w⟩ hr
      obtain ⟨c, hc, hcw⟩ := List.mem_filterMap.mp hr
      obtain ⟨w, -, he⟩ := Option.map_eq_some_iff.mp hcw
      cases he
      rw [bne_iff_ne]
      intro hk
      exact h (hk ▸ List.mem_map_of_mem hc)
    rcases List.mem_cons.mp ha with rfl | ha
    · rw [List.filterMap_cons]
      cases hf : f a with
      | none => exact hyok hn.1
      | some w => simp
    · have hne : a.ad ≠ b.ad := by
        intro h
        exact hn.1 (h ▸ List.mem_map_of_mem ha)
      rw [List.filterMap_cons]
      cases hf : f b with
      | none => exact ih hn.2 ha
      | some w =>
        rw [Option.map_some, List.lookup_cons, beq_eq_false_iff_ne.mpr hne]
        exact ih hn.2 ha

/-- The value of a field that was read. -/
theorem alanSonucu_some (h : alanSonucu cevirim t p a = some (some w)) : a.tur.uyar w = true := by
  unfold alanSonucu at h
  split at h
  · split at h
    · cases h
    · cases h
  · split at h
    · dsimp only at h
      split at h
      · cases h
      · cases h
    · obtain ⟨w', hw, he⟩ := Option.map_eq_some_iff.mp h
      cases he
      exact uyar_oku hw

/-- Only an optional field may be left out. -/
theorem zorunlu_of_alanSonucu (h : alanSonucu cevirim t p a = some none) : a.zorunlu = false := by
  unfold alanSonucu at h
  split at h
  · split at h
    · cases h
    · next hz => exact Bool.eq_false_iff.mpr hz
  · split at h
    · dsimp only at h
      split at h
      · cases h
      · next hz => exact Bool.eq_false_iff.mpr fun hz' => hz (.inl hz')
    · obtain ⟨w', hw, he⟩ := Option.map_eq_some_iff.mp h
      cases he

theorem alanSonucu_yok (hl : p.lookup a.ad = none) (hz : a.zorunlu = false) :
    alanSonucu cevirim t p a = some none := by
  unfold alanSonucu
  rw [hl]
  simp only [hz, Bool.false_eq_true, if_false]

theorem alanSonucu_var (hl : p.lookup a.ad = some v) (hv : a.tur.uyar v = true) :
    alanSonucu cevirim t p a = some (some (a.tur.kanon v)) := by
  unfold alanSonucu
  rw [hl]
  simp only [isNone_of_uyar hv, Bool.false_eq_true, if_false, oku_of_uyar hv, Option.map_some]

/-- A field of a normalised payload: a value of its type, or nothing where the field is optional. -/
theorem dogrula_alani (h : dogrula cevirim t p = .ok q) (hs : payloadSemalari t = some alanlar)
    (ha : a ∈ alanlar) : (∃ w, q.lookup a.ad = some w ∧ a.tur.uyar w = true) ∨
      q.lookup a.ad = none ∧ a.zorunlu = false := by
  obtain ⟨alanlar', hs', halan, -, rfl⟩ := dogrula_ok.mp h
  cases hs.symm.trans hs'
  have hl := lookup_alanlar (f := fun a => (alanSonucu cevirim t p a).join) (semalar_nodup hs) ha
  obtain ⟨d, hd⟩ := Option.isSome_iff_exists.mp (halan a ha)
  rw [hd] at hl
  cases d with
  | none => exact .inr ⟨hl, zorunlu_of_alanSonucu hd⟩
  | some w => exact .inl ⟨w, hl, alanSonucu_some hd⟩

/-- A normalised payload validates as it stands. -/
theorem dogrula_dogrula (h : dogrula cevirim t p = .ok q) : ∃ r, dogrula cevirim t q = .ok r := by
  obtain ⟨alanlar, hs, halan, -, rfl⟩ := dogrula_ok.mp h
  refine ⟨_, dogrula_ok.mpr ⟨alanlar, hs, fun a ha => ?_, fun r hr => ?_, rfl⟩⟩
  · have hl := lookup_alanlar (f := fun a => (alanSonucu cevirim t p a).join) (semalar_nodup hs) ha
    obtain ⟨d, hd⟩ := Option.isSome_iff_exists.mp (halan a ha)
    cases d with
    | none =>
      rw [hd] at hl
      rw [alanSonucu_yok hl (zorunlu_of_alanSonucu hd)]
      rfl
    | some w =>
      rw [hd] at hl
      rw [alanSonucu_var hl (alanSonucu_some hd)]
      rfl
  · obtain ⟨a, ha, hr⟩ := List.mem_filterMap.mp hr
    obtain ⟨w, -, he⟩ := Option.map_eq_some_iff.mp hr
    cases he
    exact ⟨a, ha, rfl⟩

/-- The fields that a card takes over in a transaction. -/
def kartAlani : PayloadKey → Bool
  | .category => true
  | .accountId => true
  | .isCardExpense => true
  | _ => false

/-- A transaction that was rerouted to a card. -/
def kartli (kategori : String) (card : ℕ) (p : Payload) : Payload :=
  (.category, .str kategori) :: (.accountId, .int card) :: (.isCardExpense, .bool true) :: p

/-- What a card does not take over. -/
def kartsiz (p : Payload) : Payload := p.filter fun r => !kartAlani r.1

theorem lookup_kartli {kategori : String} {card : ℕ} {k : PayloadKey} (hk : kartAlani k = false) :
    (kartli kategori card p).lookup k = p.lookup k := by
  cases k <;> first | rfl | cases hk

theorem lookup_kartsiz {k : PayloadKey} :
    (kartsiz p).lookup k = if kartAlani k then none else p.lookup k := by
  induction p with
  | nil => simp [kartsiz]
  | cons r p ih =>
    obtain ⟨j, v⟩ := r
    have ih' : List.lookup k (List.filter (fun r => !kartAlani r.1) p) =
        if kartAlani k then none else p.lookup k := ih
    rw [kartsiz, List.filter_cons, List.lookup_cons]
    by_cases hk : k = j
    · subst hk
      cases hr : kartAlani k with
      | true => simpa [hr] using ih'
      | false => simp
    · have hne : (k == j) = false := beq_eq_false_iff_ne.mpr hk
      rw [hne]
      split
      · rw [List.lookup_cons, hne]
        exact ih'
      · exact ih'

private theorem alanSonucu_congr (ht : t ≠ .payCreditCard) (h : p.lookup a.ad = q.lookup a.ad) :
    alanSonucu cevirim t p a = alanSonucu cevirim t q a := by
  unfold alanSonucu
  rw [h]
  simp only [ht, false_and, or_false]

/-- The three fields in the schema of a transaction. -/
private theorem kart_alani (ha : a ∈ (payloadSemalari .addTransaction).getD [])
    (hk : kartAlani a.ad = true) : a = opsiyonel .category (.metin 0) ∨ a = opsiyonel .accountId .kimlik ∨
      a = opsiyonel .isCardExpense .mantik := by
  simp only [payloadSemalari, Option.getD_some, List.mem_cons, List.not_mem_nil, or_false] at ha
  rcases ha with rfl | rfl | rfl | rfl | rfl | rfl | rfl | rfl
  · cases hk
  · cases hk
  · exact .inl rfl
  · cases hk
  · cases hk
  · exact .inr (.inl rfl)
  · exact .inr (.inr rfl)
  · cases hk

/-- They may be left out. -/
private theorem kartsiz_alan (ha : a ∈ (payloadSemalari .addTransaction).getD [])
    (hk : kartAlani a.ad = true) : (alanSonucu cevirim .addTransaction (kartsiz p) a).isSome = true := by
  have hyok : (kartsiz p).lookup a.ad = none := by
    rw [lookup_kartsiz, hk]
    rfl
  have hops : a.zorunlu = false := by
    rcases kart_alani ha hk with rfl | rfl | rfl <;> rfl
  rw [alanSonucu_yok hyok hops]
  rfl

/-- A card fills them in with their types. -/
private theorem kartli_alan {kategori : String} {card : ℕ} (hcard : 0 < card)
    (ha : a ∈ (payloadSemalari .addTransaction).getD []) (hk : kartAlani a.ad = true) :
    (alanSonucu cevirim .addTransaction (kartli kategori card p) a).isSome = true := by
  rcases kart_alani ha hk with rfl | rfl | rfl
  · have huyar : AlanTuru.uyar (.metin 0) (.str kategori) = true := by simp [AlanTuru.uyar]
    rw [alanSonucu_var rfl huyar]
    rfl
  · have huyar : AlanTuru.uyar .kimlik (.int card) = true := by simpa [AlanTuru.uyar] using hcard
    rw [alanSonucu_var rfl huyar]
    rfl
  · have huyar : AlanTuru.uyar .mantik (.bool true) = true := rfl
    rw [alanSonucu_var rfl huyar]
    rfl

private theorem kartAlani_semada {k : PayloadKey} (hk : kartAlani k = true) :
    ∃ a ∈ (payloadSemalari .addTransaction).getD [], a.ad = k := by
  cases k with
  | category => exact ⟨opsiyonel .category (.metin 0), by simp [payloadSemalari], rfl⟩
  | accountId => exact ⟨opsiyonel .accountId .kimlik, by simp [payloadSemalari], rfl⟩
  | isCardExpense => exact ⟨opsiyonel .isCardExpense .mantik, by simp [payloadSemalari], rfl⟩
  | _ => cases hk

private theorem alanSonucu_kartsiz (hk : kartAlani a.ad = false) :
    alanSonucu cevirim .addTransaction (kartsiz p) a = alanSonucu cevirim .addTransaction p a := by
  apply alanSonucu_congr (by decide)
  rw [lookup_kartsiz, hk]
  rfl

private theorem alanSonucu_kartli {kategori : String} {card : ℕ} (hk : kartAlani a.ad = false) :
    alanSonucu cevirim .addTransaction (kartli kategori card p) a =
      alanSonucu cevirim .addTransaction p a :=
  alanSonucu_congr (by decide) (lookup_kartli hk)

/-- What a card takes over was optional. -/
theorem dogrula_kartsiz (h : dogrula cevirim .addTransaction p = .ok q) :
    ∃ r, dogrula cevirim .addTransaction (kartsiz p) = .ok r := by
  obtain ⟨alanlar, hs, halan, hbilinen, -⟩ := dogrula_ok.mp h
  cases hs
  refine ⟨_, dogrula_ok.mpr ⟨_, rfl, fun a ha => ?_, fun r hr => ?_, rfl⟩⟩
  · cases hk : kartAlani a.ad with
    | true => exact kartsiz_alan ha hk
    | false =>
      rw [alanSonucu_kartsiz hk]
      exact halan a ha
  · exact hbilinen r (List.mem_of_mem_filter hr)

/-- The fields of a card fit, so the rest of a rerouted payload decides whether it is accepted. -/
theorem dogrula_kartli {kategori : String} {card : ℕ} (hcard : 0 < card) :
    (∃ q, dogrula cevirim .addTransaction (kartli kategori card p) = .ok q) ↔
      ∃ q, dogrula cevirim .addTransaction (kartsiz p) = .ok q := by
  constructor
  · rintro ⟨q, h⟩
    obtain ⟨alanlar, hs, halan, hbilinen, -⟩ := dogrula_ok.mp h
    cases hs
    refine ⟨_, dogrula_ok.mpr ⟨_, rfl, fun a ha => ?_, fun r hr => ?_, rfl⟩⟩
    · cases hk : kartAlani a.ad with
      | true => exact kartsiz_alan ha hk
      | false =>
        rw [alanSonucu_kartsiz hk, ← alanSonucu_kartli hk]
        exact halan a ha
    · have hr' : r ∈ kartli kategori card p := by
        simp only [kartli, List.mem_cons]
        exact .inr (.inr (.inr (List.mem_of_mem_filter hr)))
      exact hbilinen r hr'
  · rintro ⟨q, h⟩
    obtain ⟨alanlar, hs, halan, hbilinen, -⟩ := dogrula_ok.mp h
    cases hs
    refine ⟨_, dogrula_ok.mpr ⟨_, rfl, fun a ha => ?_, fun r hr => ?_, rfl⟩⟩
    · cases hk : kartAlani a.ad with
      | true => exact kartli_alan hcard ha hk
      | false =>
        rw [alanSonucu_kartli hk, ← alanSonucu_kartsiz hk]
        exact halan a ha
    · cases hk : kartAlani r.1 with
      | true => exact kartAlani_semada hk
      | false =>
        have hr' : r ∈ p := by
          simp only [kartli, List.mem_cons] at hr
          rcases hr with rfl | rfl | rfl | hr
          · cases hk
          · cases hk
          · cases hk
          · exact hr
        exact hbilinen r (List.mem_filter.mpr ⟨hr', by rw [hk]; rfl⟩)

end Fields

end FinancialOs.Rules
