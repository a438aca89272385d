import Mathlib.Data.List.Basic

/-! The texts of JSON, by what stands in them: values, objects, and what is between the brackets of an array or of an
object. -/
namespace FinancialOs.Library

def JsonBlank (s : List Char) : Prop := ∀ c ∈ s, c ∈ [' ', '\t', '\n', '\r']

def JsonDigits (s : List Char) : Prop := s ≠ [] ∧ ∀ c ∈ s, c.isDigit = true

/-- What stands between the quotes of a string. -/
inductive JsonChars : List Char → Prop where
  | nil : JsonChars []
  | plain {c : Char} {s : List Char} (hcontrol : 32 ≤ c.toNat) (hquote : c ≠ '\x22') (hescape : c ≠ '\x5c')
      (h : JsonChars s) : JsonChars (c :: s)
  | escaped {c : Char} {s : List Char} (hc : c ∈ ['\x22', '\x5c', '/', 'b', 'f', 'n', 'r', 't']) (h : JsonChars s) :
      JsonChars ('\x5c' :: c :: s)
  | unicode {u s : List Char} (hlen : u.length = 4) (hu : ∀ c ∈ u, c.isDigit ∨ c ∈ "abcdefABCDEF".toList)
      (h : JsonChars s) : JsonChars ('\x5c' :: 'u' :: (u ++ s))

def jsonString (s : List Char) : List Char := '\x22' :: s ++ ['\x22']

structure JsonNumber (s : List Char) : Prop where
  parts : ∃ sign whole fraction power, s = sign ++ whole ++ fraction ++ power ∧
    (sign = [] ∨ sign = ['-']) ∧
    (whole = ['0'] ∨ JsonDigits whole ∧ whole.head? ≠ some '0') ∧
    (fraction = [] ∨ ∃ d, fraction = '.' :: d ∧ JsonDigits d) ∧
    (power = [] ∨ ∃ e d, power = e ++ d ∧ e ∈ ["e", "E", "e+", "E+", "e-", "E-"].map String.toList ∧ JsonDigits d)

def jsonLiterals : List (List Char) := ["true", "false", "null", "NaN", "Infinity", "-Infinity"].map String.toList

inductive JsonKind where
  | value | object | elements | members

inductive JsonForm : JsonKind → List Char → Prop where
  | string {s : List Char} (h : JsonChars s) : JsonForm .value (jsonString s)
  | number {s : List Char} (h : JsonNumber s) : JsonForm .value s
  | literal {s : List Char} (h : s ∈ jsonLiterals) : JsonForm .value s
  | ofObject {s : List Char} (h : JsonForm .object s) : JsonForm .value s
  | emptyArray {s : List Char} (h : JsonBlank s) : JsonForm .value ('[' :: s ++ [']'])
  | array {s : List Char} (h : JsonForm .elements s) : JsonForm .value ('[' :: s ++ [']'])
  | emptyObject {s : List Char} (h : JsonBlank s) : JsonForm .object ('\x7b' :: s ++ ['\x7d'])
  | object {s : List Char} (h : JsonForm .members s) : JsonForm .object ('\x7b' :: s ++ ['\x7d'])
  | element {a v b : List Char} (ha : JsonBlank a) (hv : JsonForm .value v) (hb : JsonBlank b) :
      JsonForm .elements (a ++ v ++ b)
  | elements {s t : List Char} (hs : JsonForm .elements s) (ht : JsonForm .elements t) : JsonForm .elements (s ++ ',' :: t)
  | member {a k b c v d : List Char} (ha : JsonBlank a) (hk : JsonChars k) (hb : JsonBlank b) (hc : JsonBlank c)
      (hv : JsonForm .value v) (hd : JsonBlank d) :
      JsonForm .members (a ++ jsonString k ++ b ++ ':' :: (c ++ v ++ d))
  | members {s t : List Char} (hs : JsonForm .members s) (ht : JsonForm .members t) : JsonForm .members (s ++ ',' :: t)

/-- A character that neither begins nor ends a string or an object. -/
def JsonPlain (c : Char) : Prop := c ≠ '\x22' ∧ c ≠ '\x7b' ∧ c ≠ '\x7d'

theorem JsonBlank.plain {s : List Char} (h : JsonBlank s) : ∀ c ∈ s, JsonPlain c := by
  intro c hc
  have hmem := h c hc
  simp only [List.mem_cons, List.not_mem_nil, or_false] at hmem
  rcases hmem with rfl | rfl | rfl | rfl
  · exact ⟨by decide, by decide, by decide⟩
  · exact ⟨by decide, by decide, by decide⟩
  · exact ⟨by decide, by decide, by decide⟩
  · exact ⟨by decide, by decide, by decide⟩

theorem plain_of_isDigit {c : Char} (h : c.isDigit = true) : JsonPlain c := by
  refine ⟨?_, ?_, ?_⟩
  · rintro rfl
    exact absurd h (by decide)
  · rintro rfl
    exact absurd h (by decide)
  · rintro rfl
    exact absurd h (by decide)

theorem plain_of_all {s : List Char} (h : s.all (fun c => c != '\x22' && c != '\x7b' && c != '\x7d') = true) :
    ∀ c ∈ s, JsonPlain c := by
  intro c hc
  simpa [JsonPlain, and_assoc] using List.all_eq_true.mp h c hc

theorem JsonNumber.plain {s : List Char} (h : JsonNumber s) : ∀ c ∈ s, JsonPlain c := by
  obtain ⟨sign, whole, fraction, power, rfl, hsign, hwhole, hfraction, hpower⟩ := h.parts
  have hdigits {d : List Char} (hd : JsonDigits d) : ∀ c ∈ d, JsonPlain c := fun c hc => plain_of_isDigit (hd.2 c hc)
  have happend {u v : List Char} (hu : ∀ c ∈ u, JsonPlain c) (hv : ∀ c ∈ v, JsonPlain c) : ∀ c ∈ u ++ v, JsonPlain c :=
    fun c hc => (List.mem_append.mp hc).elim (hu c) (hv c)
  refine happend (happend (happend ?_ ?_) ?_) ?_
  · rcases hsign with rfl | rfl
    · exact plain_of_all (by decide)
    · exact plain_of_all (by decide)
  · rcases hwhole with rfl | ⟨hd, -⟩
    · exact plain_of_all (by decide)
    · exact hdigits hd
  · rcases hfraction with rfl | ⟨d, rfl, hd⟩
    · exact plain_of_all (by decide)
    · exact @happend ['.'] d (plain_of_all (by decide)) (hdigits hd)
  · rcases hpower with rfl | ⟨e, d, rfl, he, hd⟩
    · exact plain_of_all (by decide)
    · refine happend ?_ (hdigits hd)
      obtain ⟨t, ht, rfl⟩ := List.mem_map.mp he
      have hall : ["e", "E", "e+", "E+", "e-", "E-"].all (fun t => t.toList.all
        (fun c => c != '\x22' && c != '\x7b' && c != '\x7d')) = true := by decide
      exact plain_of_all (List.all_eq_true.mp hall t ht)

theorem plain_of_mem_jsonLiterals {s : List Char} (h : s ∈ jsonLiterals) : ∀ c ∈ s, JsonPlain c := by
  have hall : jsonLiterals.all (fun s => s.all (fun c => c != '\x22' && c != '\x7b' && c != '\x7d')) = true := by decide
  exact plain_of_all (List.all_eq_true.mp hall s h)

end FinancialOs.Library
