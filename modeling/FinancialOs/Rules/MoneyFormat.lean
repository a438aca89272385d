import FinancialOs.Library.DecimalRounding

/-! Turkish money text: a dot between thousands and a comma before decimals. -/
namespace FinancialOs.Rules
open Library

/-- Digits from the right, with a dot after every third one. -/
def binlik : List Char → List Char
  | a :: b :: c :: d :: rest => a :: b :: c :: '.' :: binlik (d :: rest)
  | short => short

theorem mem_binlik {c : Char} {l : List Char} (hc : c ∈ binlik l) : c ∈ l ∨ c = '.' := by
  induction l using binlik.induct with
  | case1 a b d e rest ih =>
    rw [binlik] at hc
    rcases List.mem_cons.mp hc with rfl | hc
    · simp
    rcases List.mem_cons.mp hc with rfl | hc
    · simp
    rcases List.mem_cons.mp hc with rfl | hc
    · simp
    rcases List.mem_cons.mp hc with rfl | hc
    · exact .inr rfl
    · rcases ih hc with hc | hc
      · exact .inl (by simp [List.mem_cons.mp hc])
      · exact .inr hc
  | case2 short hshort =>
    refine .inl ?_
    match short, hshort with
    | [], _ | [_], _ | [_, _], _ | [_, _, _], _ => exact hc
    | a :: b :: d :: e :: rest, h => exact absurd rfl (h a b d e rest)

def trSayi (deger : ℚ) (ondalik : ℕ) : String :=
  let units := (nearestEven (|deger| * 10 ^ ondalik)).toNat
  let whole := toString (units / 10 ^ ondalik)
  let part := toString (units % 10 ^ ondalik)
  let zeros := String.ofList (List.replicate (ondalik - part.length) '0')
  (if deger < 0 then "-" else "") ++ String.ofList (binlik whole.toList.reverse).reverse ++
    (if ondalik = 0 then "" else "," ++ zeros ++ part)

def formatPara (deger : ℚ) (ondalik : ℕ) : String := trSayi deger ondalik ++ " TL"

/-- Fixed point text with a decimal point and no grouping. -/
def sabitNokta (deger : ℚ) (ondalik : ℕ) : String :=
  let units := (nearestEven (|deger| * 10 ^ ondalik)).toNat
  let part := toString (units % 10 ^ ondalik)
  let zeros := String.ofList (List.replicate (ondalik - part.length) '0')
  (if deger < 0 then "-" else "") ++ toString (units / 10 ^ ondalik) ++ "." ++ zeros ++ part

/-- A lot count: an integer as it is, otherwise two decimals without trailing zeros. -/
def fmtLot (lot : ℚ) : String :=
  if lot.den = 1 then toString lot.num
  else
    let virgullu := (sabitNokta lot 2).toList.map (fun c => if c = '.' then ',' else c)
    String.ofList ((virgullu.reverse.dropWhile (· = '0')).dropWhile (· = ',')).reverse

example : formatPara (-12345678 / 1000) 2 = "-12.345,68 TL" := by decide +kernel

end FinancialOs.Rules
