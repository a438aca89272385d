import FinancialOs.Routers.WorkspaceDeps
import FinancialOs.Rules.CategoryPatterns
import FinancialOs.Rules.PromptSafety
import FinancialOs.Rules.TurkishText

/-! The deletion of a category, whose uses are put under another one. -/
namespace FinancialOs.Routers
open Library Store Rules

/-- `normalize(...).strip()`, the form a slug is written in. -/
def slugYap (k : KucukHarfler) (ad : String) : String := String.ofList (kirp (normalize k ad.toList))

/-- The transactions of the scope under a slug. -/
def slugIslemi (istek : Istek) (slug : String) (t : Transaction) : Bool :=
  scopeFilter istek.userId istek.wsId t ∧ t.category = some slug

/-- `_kullanim_sayisi`. -/
def kullanimSayisi (db : KokpitDb) (istek : Istek) (slug : String) : ℕ :=
  (db.panel.db.transactions.select (slugIslemi istek slug)).length

/-- The transactions under a slug go to another one. -/
def islemleriTasi (t : Table Transaction) (istek : Istek) (slug hedefSlug : String) : Table Transaction :=
  t.mapRows fun txn => if slugIslemi istek slug txn then { txn with category := some hedefSlug } else txn

/-- The first envelope of the scope under a slug. -/
def slugZarfi (t : Table Envelope) (istek : Istek) (slug : String) : Option (ℕ × Envelope) :=
  t.first? fun e => scopeFilter istek.userId istek.wsId e ∧ e.category = slug

/-- The envelope goes with the transactions, unless there is one already; no user has two of one category. -/
def zarfiTasi (t : Table Envelope) (istek : Istek) (slug hedefSlug : String) : Except UcHatasi (Table Envelope) :=
  match slugZarfi t istek slug, slugZarfi t istek hedefSlug with
  | none, _ => .ok t
  | some kaynak, some _ => .ok (t.erase kaynak.1)
  | some kaynak, none =>
    if t.any fun e => e.userId = kaynak.2.userId ∧ e.category = hedefSlug then .error (.hata .databaseError)
    else .ok (t.modify kaynak.1 fun e => { e with category := hedefSlug })

/-- The database without the category, with what was under it under the target. -/
def kategoriTasi (db : KokpitDb) (istek : Istek) (kayit : ℕ × Category) (hedefSlug : String)
    (zarflar : Table Envelope) : KokpitDb where
  panel := { db.panel with
    db := { db.panel.db with
      transactions := islemleriTasi db.panel.db.transactions istek kayit.2.slug hedefSlug }
    envelopes := zarflar }
  categories := db.categories.erase kayit.1

/-- The slug that the uses are put under. -/
def hedefSec (k : KucukHarfler) (db : KokpitDb) (istek : Istek) (slug : String) (kullanim : ℕ) (hedef : Option String) :
    Except UcHatasi String := do
  let ad ← require (.http 409
    s!"'{slug}' {kullanim} işlemde kullanılıyor. Silmek için işlemlerin taşınacağı kategoriyi `hedef` ile belirtin.")
    (hedef.filter (· ≠ ""))
  stopIf (.http 422 "Hedef kategori silinenle aynı olamaz.") (slugYap k ad = slug)
  let hedefSlug := slugYap k ad
  stopIf (.http 404 s!"Hedef kategori bulunamadi ('{hedefSlug}').")
    (db.categories.first? (fun c => scopeFilter istek.userId istek.wsId c ∧ c.slug = hedefSlug) = none)
  return hedefSlug

/-- `delete_category`; a category that no transaction uses goes alone. -/
def deleteCategory (k : KucukHarfler) (db : KokpitDb) (istek : Istek) (kategoriId : ℤ) (hedef : Option String) :
    Except UcHatasi KokpitDb := do
  let bulunan ← within .hata (findById db.categories istek.userId istek.wsId (.int kategoriId))
  let kayit ← require (.http 404 s!"Kategori bulunamadi (id={kategoriId})") bulunan
  let slug := kayit.2.slug
  stopIf (.http 409 s!"'{slug}' bir sistem kategorisidir; silinemez (gizleyebilirsiniz).") kayit.2.sistem
  let kullanim := kullanimSayisi db istek slug
  if kullanim = 0 then return { db with categories := db.categories.erase kayit.1 }
  else
    let hedefSlug ← hedefSec k db istek slug kullanim hedef
    let zarflar ← zarfiTasi db.panel.envelopes istek slug hedefSlug
    return kategoriTasi db istek kayit hedefSlug zarflar

section
variable {k : KucukHarfler} {db db' : KokpitDb} {istek : Istek} {slug hedefSlug : String}

theorem hedefSec_ok {kullanim : ℕ} {hedef : String} (h : hedefSec k db istek slug kullanim (some hedef) = .ok hedefSlug) :
    hedefSlug = slugYap k hedef ∧ hedefSlug ≠ slug := by
  simp only [hedefSec, bind_eq_ok, require_eq_ok, stopIf_eq_ok, pure_eq_ok, Option.filter_eq_some_iff,
    Option.some.injEq] at h
  obtain ⟨ad, ⟨rfl, -⟩, -, hne, -, -, rfl⟩ := h
  exact ⟨rfl, hne⟩

/-- The category goes alone, or its uses go to the target. -/
theorem deleteCategory_ok {kategoriId : ℤ} {hedef : String} {kayit : ℕ × Category}
    (hkayit : findById db.categories istek.userId istek.wsId (.int kategoriId) = .ok (some kayit))
    (h : deleteCategory k db istek kategoriId (some hedef) = .ok db') :
    kullanimSayisi db istek kayit.2.slug = 0 ∧ db' = { db with categories := db.categories.erase kayit.1 } ∨
      kullanimSayisi db istek kayit.2.slug ≠ 0 ∧ slugYap k hedef ≠ kayit.2.slug ∧
        ∃ zarflar, zarfiTasi db.panel.envelopes istek kayit.2.slug (slugYap k hedef) = .ok zarflar ∧
          db' = kategoriTasi db istek kayit (slugYap k hedef) zarflar := by
  rw [deleteCategory, hkayit] at h
  simp only [bind_eq_ok, within_eq_ok, require_eq_ok, Except.ok.injEq] at h
  obtain ⟨_, rfl, _, hsome, h⟩ := h
  obtain rfl := Option.some.inj hsome
  obtain ⟨-, -, h⟩ := h
  split at h
  · next hbos => exact .inl ⟨hbos, (pure_eq_ok.mp h).symm⟩
  · next hdolu =>
    obtain ⟨hedefSlug, hsec, h⟩ := bind_eq_ok.mp h
    obtain ⟨zarflar, hzarf, h⟩ := bind_eq_ok.mp h
    obtain ⟨rfl, hne⟩ := hedefSec_ok hsec
    exact .inr ⟨hdolu, hne, zarflar, hzarf, (pure_eq_ok.mp h).symm⟩

/-- Every other envelope stays as it is. -/
theorem get?_of_zarfiTasi {t t' : Table Envelope} (h : zarfiTasi t istek slug hedefSlug = .ok t') {id : ℕ}
    (hid : ∀ kaynak, slugZarfi t istek slug = some kaynak → id ≠ kaynak.1) : t'.get? id = t.get? id := by
  rw [zarfiTasi] at h
  split at h
  · obtain rfl := Except.ok.inj h
    rfl
  · next kaynak _ hkaynak _ =>
    obtain rfl := Except.ok.inj h
    rw [Table.get?_erase, if_neg (hid kaynak hkaynak)]
  · next kaynak hkaynak _ =>
    split at h
    · cases h
    · obtain rfl := Except.ok.inj h
      rw [Table.get?_modify, if_neg (hid kaynak hkaynak)]

/-- The envelope under the slug is gone or under the target. -/
theorem zarf_of_zarfiTasi {t t' : Table Envelope} (h : zarfiTasi t istek slug hedefSlug = .ok t')
    {kaynak : ℕ × Envelope} (hkaynak : slugZarfi t istek slug = some kaynak) {e : Envelope}
    (he : t'.get? kaynak.1 = some e) : e.category = hedefSlug := by
  rw [zarfiTasi, hkaynak] at h
  split at h
  · next hnone => cases hnone
  · next hsome _ =>
    obtain rfl := Option.some.inj hsome
    obtain rfl := Except.ok.inj h
    rw [Table.get?_erase, if_pos rfl] at he
    cases he
  · next hsome _ =>
    obtain rfl := Option.some.inj hsome
    split at h
    · cases h
    · obtain rfl := Except.ok.inj h
      rw [Table.get?_modify, if_pos rfl, Option.map_eq_some_iff] at he
      obtain ⟨e, -, rfl⟩ := he
      rfl

end
end FinancialOs.Routers
