import FinancialOs.Guarantees.TextOffsets
import FinancialOs.Library.TableSweeps
import FinancialOs.Routers.Categories

/-! The deletion of a category into another one: whatever names it in any spelling, and the totals by month. -/
namespace FinancialOs.Guarantees
open Library Store Rules Routers

section Slugs
variable {k : KucukHarfler} {metin : List Char} {c : Char}

theorem mem_normalize (h : c ∈ normalize k metin) : katlanmis k c = c ∧ c ≠ birlesikNokta := by
  rw [normalize_eq] at h
  obtain ⟨d, hd, rfl⟩ := List.mem_map.mp h
  exact ⟨katlanmis_katlanmis k d, mt (katlanmis_nokta k d).mp (of_decide_eq_true (List.mem_filter.mp hd).2)⟩

theorem normalize_of_forall (h : ∀ c ∈ metin, katlanmis k c = c ∧ c ≠ birlesikNokta) : normalize k metin = metin := by
  rw [normalize_of_notMem fun hdot => (h _ hdot).2 rfl]
  exact (List.map_congr_left fun c hc => (h c hc).1).trans (List.map_id' _)

/-- A slug is its own slug. -/
theorem slugYap_slugYap (ad : String) : slugYap k (slugYap k ad) = slugYap k ad := by
  rw [slugYap, slugYap, String.toList_ofList, normalize_of_forall fun c hc => mem_normalize (mem_kirp hc), kirp_kirp]

end Slugs

section
variable (k : KucukHarfler) (db : KokpitDb) (istek : Istek)

/-- Nothing in the scope names the category. -/
structure AnanYok (slug : String) : Prop where
  islem : ∀ id t, db.panel.db.transactions.get? id = some t → scopeFilter istek.userId istek.wsId t = true →
    t.category.map (slugYap k) ≠ some (slugYap k slug)
  zarf : ∀ id e, db.panel.envelopes.get? id = some e → scopeFilter istek.userId istek.wsId e = true →
    slugYap k e.category ≠ slugYap k slug
  gider : ∀ id r, db.panel.db.expenses.get? id = some r → scopeFilter istek.userId istek.wsId r = true →
    r.category.map (slugYap k) ≠ some (slugYap k slug)

/-- The transaction is spending of the scope in the month, under any spelling of the category. -/
def aydaki (yil ay : ℕ) (ad : String) (t : Transaction) : Prop :=
  scopeFilter istek.userId istek.wsId t = true ∧ t.transactionType = .expense ∧ t.transactionDate.year = yil ∧
    t.transactionDate.month = ay ∧ t.category.map (slugYap k) = some (slugYap k ad)

instance (yil ay : ℕ) (ad : String) (t : Transaction) : Decidable (aydaki k istek yil ay ad t) :=
  inferInstanceAs (Decidable (_ ∧ _ ∧ _ ∧ _ ∧ _))

/-- The spending of the month. -/
def aylikHarcama (t : Table Transaction) (yil ay : ℕ) (ad : String) : ℚ :=
  t.total fun txn => if aydaki k istek yil ay ad txn then txn.amount else 0

/-- The category is merged into the target: nothing names it any more, and the spending of every month is added. -/
structure Birlesti (sonra : KokpitDb) (slug hedef : String) : Prop where
  ananYok : AnanYok k sonra istek slug
  toplam : ∀ yil ay, aylikHarcama k istek sonra.panel.db.transactions yil ay hedef =
    aylikHarcama k istek db.panel.db.transactions yil ay slug + aylikHarcama k istek db.panel.db.transactions yil ay hedef

/-- What names the category is what the deletion takes along: the transactions that spell it as the slug does and,
where there are any, one envelope; and the slug of the target is not a spelling of it. -/
structure TamTasinir (slug hedef : String) : Prop where
  islem : ∀ id t, db.panel.db.transactions.get? id = some t → scopeFilter istek.userId istek.wsId t = true →
    t.category.map (slugYap k) = some (slugYap k slug) → t.category = some slug
  zarf : ∀ id e, db.panel.envelopes.get? id = some e → scopeFilter istek.userId istek.wsId e = true →
    slugYap k e.category = slugYap k slug →
      kullanimSayisi db istek slug ≠ 0 ∧ slugZarfi db.panel.envelopes istek slug = some (id, e)
  gider : ∀ id r, db.panel.db.expenses.get? id = some r → scopeFilter istek.userId istek.wsId r = true →
    r.category.map (slugYap k) ≠ some (slugYap k slug)
  hedef : kullanimSayisi db istek slug ≠ 0 → slugYap k hedef ≠ slugYap k slug

variable {k db istek} {db' : KokpitDb} {slug hedef hedefSlug : String}

theorem get?_islemleriTasi {t : Table Transaction} {id : ℕ} : (islemleriTasi t istek slug hedefSlug).get? id =
    (t.get? id).map fun txn => if slugIslemi istek slug txn then { txn with category := some hedefSlug } else txn :=
  Table.get?_mapRows _ _ _

theorem slugIslemi_iff {t : Transaction} : slugIslemi istek slug t = true ↔
    scopeFilter istek.userId istek.wsId t = true ∧ t.category = some slug := decide_eq_true_iff

theorem kullanimSayisi_pos : kullanimSayisi db istek slug ≠ 0 ↔
    ∃ id t, db.panel.db.transactions.get? id = some t ∧ slugIslemi istek slug t = true := by
  rw [kullanimSayisi, Ne, List.length_eq_zero_iff]
  constructor
  · intro h
    obtain ⟨⟨id, t⟩, hmem⟩ := List.exists_mem_of_ne_nil _ h
    exact ⟨id, t, Table.mem_select.mp hmem⟩
  · rintro ⟨id, t, hmem⟩ hnil
    have := Table.mem_select.mpr hmem
    rw [hnil] at this
    cases this

/-- No moved transaction names the category exactly if each that named it was spelled as the slug, and the target is
not a spelling of it. -/
theorem islem_tasinir {t : Table Transaction} :
    (∀ id txn, (islemleriTasi t istek slug hedefSlug).get? id = some txn → scopeFilter istek.userId istek.wsId txn = true →
        txn.category.map (slugYap k) ≠ some (slugYap k slug)) ↔
      (∀ id txn, t.get? id = some txn → scopeFilter istek.userId istek.wsId txn = true →
          txn.category.map (slugYap k) = some (slugYap k slug) → txn.category = some slug) ∧
        ((∃ id txn, t.get? id = some txn ∧ slugIslemi istek slug txn = true) → slugYap k hedefSlug ≠ slugYap k slug) := by
  constructor
  · refine fun h => ⟨fun id txn hget hscope hcat => ?_, ?_⟩
    · by_contra hne
      have hsame : (islemleriTasi t istek slug hedefSlug).get? id = some txn := by
        rw [get?_islemleriTasi, hget, Option.map_some, if_neg fun hs => hne (slugIslemi_iff.mp hs).2]
      exact h id txn hsame hscope hcat
    · rintro ⟨id, txn, hget, hs⟩ heq
      have hmoved : (islemleriTasi t istek slug hedefSlug).get? id = some { txn with category := some hedefSlug } := by
        rw [get?_islemleriTasi, hget, Option.map_some, if_pos hs]
      exact h id _ hmoved (slugIslemi_iff.mp hs).1 (congrArg some heq)
  · rintro ⟨hspelled, htarget⟩ id txn hget hscope hcat
    rw [get?_islemleriTasi] at hget
    obtain ⟨txn, hrow, rfl⟩ := Option.map_eq_some_iff.mp hget
    split at hcat
    · next hs => exact htarget ⟨id, txn, hrow, hs⟩ (Option.some.inj hcat)
    · next hs =>
      rw [if_neg hs] at hscope
      exact hs (slugIslemi_iff.mpr ⟨hscope, hspelled id txn hrow hscope hcat⟩)

/-- No envelope names the category any more exactly if the only one was the one under the slug. -/
theorem zarf_tasinir {t t' : Table Envelope} (h : zarfiTasi t istek slug hedefSlug = .ok t')
    (hhedef : slugYap k hedefSlug ≠ slugYap k slug) :
    (∀ id e, t'.get? id = some e → scopeFilter istek.userId istek.wsId e = true → slugYap k e.category ≠ slugYap k slug) ↔
      ∀ id e, t.get? id = some e → scopeFilter istek.userId istek.wsId e = true →
        slugYap k e.category = slugYap k slug → slugZarfi t istek slug = some (id, e) := by
  constructor
  · intro hnone id e hget hscope hcat
    by_contra hne
    have hother : ∀ kaynak, slugZarfi t istek slug = some kaynak → id ≠ kaynak.1 := by
      rintro kaynak hkaynak rfl
      obtain ⟨hget', -⟩ := Table.first?_spec (show t.first? _ = some (kaynak.1, kaynak.2) from hkaynak)
      obtain rfl := Option.some.inj (hget.symm.trans hget')
      exact hne hkaynak
    exact hnone id e ((get?_of_zarfiTasi h hother).trans hget) hscope hcat
  · intro honly id e hget hscope hcat
    by_cases hid : ∀ kaynak, slugZarfi t istek slug = some kaynak → id ≠ kaynak.1
    · have hzarf := honly id e ((get?_of_zarfiTasi h hid).symm.trans hget) hscope hcat
      exact hid (id, e) hzarf rfl
    · push Not at hid
      obtain ⟨kaynak, hkaynak, rfl⟩ := hid
      rw [zarf_of_zarfiTasi h hkaynak hget] at hcat
      exact hhedef hcat

/-- What the moved transactions spent is added to the spending of the target. -/
theorem aylikHarcama_tasinir {t : Table Transaction} (hhedef : slugYap k hedefSlug ≠ slugYap k slug)
    (hspelled : ∀ id txn, t.get? id = some txn → scopeFilter istek.userId istek.wsId txn = true →
      txn.category.map (slugYap k) = some (slugYap k slug) → txn.category = some slug) (yil ay : ℕ) :
    aylikHarcama k istek (islemleriTasi t istek slug hedefSlug) yil ay hedefSlug =
      aylikHarcama k istek t yil ay slug + aylikHarcama k istek t yil ay hedefSlug := by
  rw [aylikHarcama, islemleriTasi, Table.total_mapRows, aylikHarcama, aylikHarcama, ← Table.total_add]
  refine Table.total_congr fun id txn hget => ?_
  by_cases hs : slugIslemi istek slug txn = true
  · obtain ⟨-, hcat⟩ := slugIslemi_iff.mp hs
    have hnot : ¬ aydaki k istek yil ay hedefSlug txn := by
      rintro ⟨-, -, -, -, h⟩
      rw [hcat, Option.map_some] at h
      exact hhedef (Option.some.inj h).symm
    have hiff : aydaki k istek yil ay hedefSlug { txn with category := some hedefSlug } ↔ aydaki k istek yil ay slug txn := by
      simp only [aydaki, hcat, Option.map_some, and_true]
      exact Iff.rfl
    rw [if_pos hs, if_neg hnot, add_zero]
    exact if_congr hiff rfl rfl
  · have hnot : ¬ aydaki k istek yil ay slug txn := by
      rintro ⟨hscope, -, -, -, h⟩
      exact hs (slugIslemi_iff.mpr ⟨hscope, hspelled id txn hget hscope h⟩)
    rw [if_neg hs, if_neg hnot, zero_add]

theorem aylikHarcama_congr {t : Table Transaction} {ad ad' : String} (h : slugYap k ad = slugYap k ad') (yil ay : ℕ) :
    aylikHarcama k istek t yil ay ad = aylikHarcama k istek t yil ay ad' := by
  have hiff : ∀ txn, aydaki k istek yil ay ad txn ↔ aydaki k istek yil ay ad' txn := by
    intro txn
    rw [aydaki, aydaki, h]
  exact Table.total_congr fun _ txn _ => if_congr (hiff txn) rfl rfl

theorem aylikHarcama_eq_zero {t : Table Transaction} {ad : String} (h : ∀ id txn, t.get? id = some txn →
    scopeFilter istek.userId istek.wsId txn = true → txn.category.map (slugYap k) ≠ some (slugYap k ad)) (yil ay : ℕ) :
    aylikHarcama k istek t yil ay ad = 0 := by
  have hzero : ∀ id txn, t.get? id = some txn → (if aydaki k istek yil ay ad txn then txn.amount else 0) = (0 : ℚ) := by
    intro id txn hget
    refine if_neg ?_
    rintro ⟨hscope, -, -, -, hcat⟩
    exact h id txn hget hscope hcat
  rw [aylikHarcama, Table.total_congr hzero]
  exact List.sum_map_zero

/-- A deleted category is merged into its target exactly if what names it is what the deletion takes along. -/
theorem category_merged_iff {kategoriId : ℤ} {kayit : ℕ × Category}
    (hkayit : findById db.categories istek.userId istek.wsId (.int kategoriId) = .ok (some kayit))
    (h : deleteCategory k db istek kategoriId (some hedef) = .ok db') :
    Birlesti k db istek db' kayit.2.slug hedef ↔ TamTasinir k db istek kayit.2.slug hedef := by
  rcases deleteCategory_ok hkayit h with ⟨hbos, rfl⟩ | ⟨hdolu, -, zarflar, hzarf, rfl⟩
  · -- Without a transaction under the slug nothing is moved.
    constructor
    · intro hb
      exact {
        islem id t hget hscope hcat := absurd hcat (hb.ananYok.islem id t hget hscope)
        zarf id e hget hscope hcat := absurd hcat (hb.ananYok.zarf id e hget hscope)
        gider := hb.ananYok.gider
        hedef hdolu := absurd hbos hdolu }
    · intro ht
      have hislem : ∀ id t, db.panel.db.transactions.get? id = some t → scopeFilter istek.userId istek.wsId t = true →
          t.category.map (slugYap k) ≠ some (slugYap k kayit.2.slug) := by
        intro id t hget hscope hcat
        exact kullanimSayisi_pos.mpr ⟨id, t, hget, slugIslemi_iff.mpr ⟨hscope, ht.islem id t hget hscope hcat⟩⟩ hbos
      refine ⟨⟨hislem, fun id e hget hscope hcat => (ht.zarf id e hget hscope hcat).1 hbos, ht.gider⟩, fun yil ay => ?_⟩
      rw [aylikHarcama_eq_zero hislem, zero_add]
  · have hslug : slugYap k (slugYap k hedef) = slugYap k hedef := slugYap_slugYap hedef
    constructor
    · intro hb
      obtain ⟨hspelled, htarget⟩ := islem_tasinir.mp hb.ananYok.islem
      have hhedef := htarget (kullanimSayisi_pos.mp hdolu)
      exact {
        islem := hspelled
        zarf id e hget hscope hcat := ⟨hdolu, (zarf_tasinir hzarf hhedef).mp hb.ananYok.zarf id e hget hscope hcat⟩
        gider := hb.ananYok.gider
        hedef _ := fun heq => hhedef (hslug.trans heq) }
    · intro ht
      have hhedef : slugYap k (slugYap k hedef) ≠ slugYap k kayit.2.slug := by
        rw [hslug]
        exact ht.hedef hdolu
      refine ⟨⟨islem_tasinir.mpr ⟨ht.islem, fun _ => hhedef⟩, ?_, ht.gider⟩, fun yil ay => ?_⟩
      · exact (zarf_tasinir hzarf hhedef).mpr fun id e hget hscope hcat => (ht.zarf id e hget hscope hcat).2
      · rw [aylikHarcama_congr hslug.symm, aylikHarcama_congr hslug.symm]
        exact aylikHarcama_tasinir hhedef ht.islem yil ay

end

def haziranOrtasi : Date := (Date.ofYmd? 2026 6 14).get rfl

def kategori (slug ad : String) : Category := ⟨1, none, slug, ad, false, false, false⟩

def marketAlisverisi : Transaction := ⟨1, none, none, .expense, 100, some "market", none, haziranOrtasi, false⟩

/-- Two categories and one transaction, with these recurring expenses. -/
def kategoriliDb (giderler : Table Recurring) : KokpitDb where
  panel := {
    db := { Db.empty with transactions := Table.empty.push marketAlisverisi, expenses := giderler }
    hesapEki := fun _ => ⟨none, none, none, none⟩
    envelopes := .empty }
  categories := (Table.empty.push (kategori "market" "Market")).push (kategori "gida" "Gıda")

def kategoriIstegi : Istek := ⟨1, none, haziranOrtasi⟩

def marketAboneligi : Recurring := ⟨1, none, "Haftalık sepet", 50, none, some "market", 1, true, none⟩

/-- The category is deleted and its transaction moved, whatever the recurring expenses are. -/
theorem deleteCategory_market (giderler : Table Recurring) :
    deleteCategory latinKucukHarfler (kategoriliDb giderler) kategoriIstegi 1 (some "Gıda") =
      .ok (kategoriTasi (kategoriliDb giderler) kategoriIstegi (1, kategori "market" "Market") "gida" .empty) := rfl

/-- The recurring expense of the category still names it, and books its next transaction under it. -/
theorem recurring_expense_kept_category : ∃ db', deleteCategory latinKucukHarfler
      (kategoriliDb (Table.empty.push marketAboneligi)) kategoriIstegi 1 (some "Gıda") = .ok db' ∧
    ¬ Birlesti latinKucukHarfler (kategoriliDb (Table.empty.push marketAboneligi)) kategoriIstegi db' "market" "Gıda" := by
  refine ⟨_, deleteCategory_market _, fun h => ?_⟩
  exact h.ananYok.gider 1 marketAboneligi rfl rfl rfl

theorem category_merged_iff_market : Birlesti latinKucukHarfler (kategoriliDb .empty) kategoriIstegi
    (kategoriTasi (kategoriliDb .empty) kategoriIstegi (1, kategori "market" "Market") "gida" .empty) "market" "Gıda" := by
  refine (@category_merged_iff latinKucukHarfler _ kategoriIstegi _ _ 1 (1, kategori "market" "Market") rfl
    (deleteCategory_market .empty)).mpr ⟨?_, ?_, ?_, ?_⟩
  · intro id t hget _ _
    change (Table.empty.push marketAlisverisi).get? id = some t at hget
    rw [Table.get?_push] at hget
    split at hget
    · obtain rfl := Option.some.inj hget
      rfl
    · cases hget
  · intro id e hget
    cases hget
  · intro id r hget
    cases hget
  · intro _
    decide +kernel

end FinancialOs.Guarantees
