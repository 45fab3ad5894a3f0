import Mathlib.Data.Int.Notation
import TradeBot.Library.TextCuts

/-!
# Decimal numbers in texts

Decimal numerals as byte strings, and the integer that a text begins with: blanks, a sign, and as
many digits as there are. Whatever stands behind the digits is not read.
-/

namespace TradeBot.Library

/-- A decimal digit. -/
def isDecimalDigit (c : UInt8) : Bool := decide (byteOf '0' ≤ c ∧ c ≤ byteOf '9')

/-- The number that decimal digits spell. -/
def decimalValue (digits : Bytes) : ℕ :=
  digits.foldl (fun value c => value * 10 + (c.toNat - 0x30)) 0

/-- A text that is a decimal numeral and nothing else. -/
structure Numeral (text : Bytes) (n : ℕ) : Prop where
  ne_nil : text ≠ []
  digits : ∀ c ∈ text, isDecimalDigit c = true
  value : decimalValue text = n

/-- The blanks of the C locale. -/
def isBlank (c : UInt8) : Bool :=
  c == byteOf ' ' || c == 0x09 || c == 0x0a || c == 0x0b || c == 0x0c || c == 0x0d

/-- The integer that a text begins with. -/
def BeginsWithInteger (text : Bytes) (value : ℤ) : Prop :=
  ∃ blanks sign digits rest : Bytes, text = blanks ++ (sign ++ (digits ++ rest)) ∧
    (∀ c ∈ blanks, isBlank c = true) ∧ (sign = [] ∨ sign = ascii "+" ∨ sign = ascii "-") ∧
    digits ≠ [] ∧ (∀ c ∈ digits, isDecimalDigit c = true) ∧
    (∀ c ∈ rest.head?, isDecimalDigit c = false) ∧
    value = if sign = ascii "-" then -(decimalValue digits : ℤ) else decimalValue digits

/-- Whether a text begins with a minus sign, and the text without its sign. -/
def splitSign : Bytes → Bool × Bytes
  | [] => (false, [])
  | c :: text =>
    if c = byteOf '-' then (true, text)
    else if c = byteOf '+' then (false, text)
    else (false, c :: text)

/-- The integer that a text begins with, if it begins with one. -/
def readInteger (text : Bytes) : Option ℤ :=
  let (negative, unsigned) := splitSign (text.dropWhile isBlank)
  let digits := unsigned.takeWhile isDecimalDigit
  if digits.isEmpty then none
  else some (if negative then -(decimalValue digits : ℤ) else decimalValue digits)

/-- The test for a decimal digit is one for a range of bytes. -/
theorem isDecimalDigit_iff {c : UInt8} :
    isDecimalDigit c = true ↔ 0x30 ≤ c.toNat ∧ c.toNat ≤ 0x39 := by
  rw [isDecimalDigit, decide_eq_true_iff]
  exact Iff.rfl

/-- A digit is neither a blank nor a sign. -/
theorem isDecimalDigit_other {c : UInt8} (h : isDecimalDigit c = true) :
    isBlank c = false ∧ c ≠ byteOf '-' ∧ c ≠ byteOf '+' := by
  rw [isDecimalDigit_iff] at h
  have hne {d : UInt8} (hd : d.toNat < 0x30) : c ≠ d := by
    rintro rfl
    omega
  refine ⟨?_, hne (by decide), hne (by decide)⟩
  simp only [isBlank, Bool.or_eq_false_iff, beq_eq_false_iff_ne]
  refine ⟨⟨⟨⟨⟨?_, ?_⟩, ?_⟩, ?_⟩, ?_⟩, ?_⟩ <;> exact hne (by decide)

/-- A sign and the digits behind it. -/
theorem splitSign_append {sign digits rest : Bytes}
    (hsign : sign = [] ∨ sign = ascii "+" ∨ sign = ascii "-") (hsome : digits ≠ [])
    (hdigits : ∀ c ∈ digits, isDecimalDigit c = true) :
    (∀ c ∈ (sign ++ (digits ++ rest)).head?, isBlank c = false) ∧
      splitSign (sign ++ (digits ++ rest)) = (decide (sign = ascii "-"), digits ++ rest) := by
  rcases hsign with rfl | rfl | rfl
  · obtain ⟨d, ds, rfl⟩ := List.exists_cons_of_ne_nil hsome
    obtain ⟨hblank, hminus, hplus⟩ := isDecimalDigit_other (hdigits d List.mem_cons_self)
    refine ⟨fun c hc => ?_, ?_⟩
    · obtain rfl : d = c := Option.some.inj hc
      exact hblank
    · change splitSign (d :: (ds ++ rest)) = _
      rw [splitSign, if_neg hminus, if_neg hplus]
      rfl
  · refine ⟨fun c hc => ?_, rfl⟩
    obtain rfl : byteOf '+' = c := Option.some.inj hc
    decide
  · refine ⟨fun c hc => ?_, rfl⟩
    obtain rfl : byteOf '-' = c := Option.some.inj hc
    decide

/-- A text is its sign, if it has one, and the rest. -/
theorem splitSign_cases (text : Bytes) :
    ∃ sign, text = sign ++ (splitSign text).2 ∧
      (sign = [] ∨ sign = ascii "+" ∨ sign = ascii "-") ∧
      (splitSign text).1 = decide (sign = ascii "-") := by
  cases text with
  | nil => exact ⟨[], rfl, Or.inl rfl, rfl⟩
  | cons c text =>
    rw [splitSign]
    split
    · next h => exact ⟨ascii "-", by rw [h]; rfl, Or.inr (Or.inr rfl), rfl⟩
    split
    · next h => exact ⟨ascii "+", by rw [h]; rfl, Or.inr (Or.inl rfl), rfl⟩
    · exact ⟨[], rfl, Or.inl rfl, rfl⟩

/-- The integer that is read is the one that the text begins with. -/
theorem readInteger_eq_some_iff {text : Bytes} {value : ℤ} :
    readInteger text = some value ↔ BeginsWithInteger text value := by
  constructor
  · intro h
    have htext := @List.takeWhile_append_dropWhile _ isBlank text
    obtain ⟨sign, hsplit, hsign, hnegative⟩ := splitSign_cases (text.dropWhile isBlank)
    unfold readInteger at h
    dsimp only at h
    rw [hnegative] at h
    generalize (splitSign (text.dropWhile isBlank)).2 = unsigned at h hsplit
    split at h
    · cases h
    · next hdigits =>
      refine ⟨text.takeWhile isBlank, sign, unsigned.takeWhile isDecimalDigit,
        unsigned.dropWhile isDecimalDigit, ?_, fun c hc => List.mem_takeWhile_imp hc, hsign,
        fun hnil => hdigits (List.isEmpty_iff.mpr hnil), fun c hc => List.mem_takeWhile_imp hc,
        head?_dropWhile_stops isDecimalDigit unsigned, ?_⟩
      · rw [List.takeWhile_append_dropWhile, ← hsplit, htext]
      · rw [← Option.some.inj h]
        simp only [decide_eq_true_iff]
  · rintro ⟨blanks, sign, digits, rest, rfl, hblanks, hsign, hsome, hdigits, hrest, rfl⟩
    obtain ⟨hhead, hsplit⟩ := @splitSign_append sign digits rest hsign hsome hdigits
    unfold readInteger
    rw [(whileOf_append hblanks hhead).2, hsplit]
    dsimp only
    rw [(whileOf_append hdigits hrest).1, if_neg (fun hnil => hsome (List.isEmpty_iff.mp hnil))]
    simp only [decide_eq_true_iff]

end TradeBot.Library
