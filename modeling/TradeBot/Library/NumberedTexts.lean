import Mathlib.Data.List.Infix
import Mathlib.Tactic.Common
import TradeBot.Library.TextCuts

/-!
# Texts that carry a number

Identifiers are often built from a fixed stem, a number, and a fixed ending. Within one
stem the number can be read off; two stems of which neither begins the other never make
the same text.
-/

namespace TradeBot.Library

/-- Distinct numbers are written differently. -/
theorem toString_injective : Function.Injective (toString : ℕ → String) := by
  intro m n h
  rw [Nat.toString_eq_ofList_toDigits, Nat.toString_eq_ofList_toDigits] at h
  have hdigits : Nat.toDigits 10 m = Nat.toDigits 10 n := String.ofList_injective h
  rw [← Nat.ofDigitChars_ten_toDigits (n := m), hdigits, Nat.ofDigitChars_ten_toDigits]

/-- Between a fixed stem and a fixed ending, the number is determined. -/
theorem numbered_injective (stem ending : String) :
    Function.Injective fun n : ℕ => stem ++ toString n ++ ending := by
  intro m n h
  have hlists := congrArg String.toList h
  simp only [String.toList_append, List.append_left_inj, List.append_right_inj] at hlists
  exact toString_injective (String.toList_injective hlists)

/-- A number is written in digits. -/
theorem isDigit_of_mem_toString {n : ℕ} {c : Char} (h : c ∈ (toString n).toList) :
    c.isDigit = true := by
  rw [Nat.toString_eq_ofList_toDigits, String.toList_ofList] at h
  exact Nat.isDigit_of_mem_toDigits (by decide) (by decide) h

/-- The number after the last separator is determined, whatever stands before it. -/
theorem numbered_last {stem other : String} (separator : Char)
    (hseparator : separator.isDigit = false) {m n : ℕ}
    (h : stem ++ separator.toString ++ toString m = other ++ separator.toString ++ toString n) :
    m = n := by
  have hdigits (k : ℕ) : separator ∉ (toString k).toList.reverse := fun hmem => by
    rw [List.mem_reverse] at hmem
    rw [isDigit_of_mem_toString hmem] at hseparator
    cases hseparator
  have hlists := congrArg (fun text : String => text.toList.reverse) h
  simp only [Char.toString, String.toList_append, String.toList_singleton, List.reverse_append,
    List.reverse_cons, List.reverse_nil, List.nil_append, List.singleton_append] at hlists
  have hspan := congrArg (fun text => (text.span (· != separator)).1) hlists
  rw [span_of_first (hdigits m), span_of_first (hdigits n)] at hspan
  exact toString_injective (String.toList_injective (List.reverse_injective hspan))

/-- The text begins with the stem. -/
def BeginsWith (stem text : String) : Prop := stem.toList <+: text.toList

instance (stem text : String) : Decidable (BeginsWith stem text) :=
  inferInstanceAs (Decidable (_ <+: _))

/-- A stem begins what it is put in front of. -/
theorem beginsWith_append (stem rest : String) : BeginsWith stem (stem ++ rest) := by
  rw [BeginsWith, String.toList_append]
  exact List.prefix_append _ _

/-- A text that grows begins as before. -/
theorem BeginsWith.append {stem text : String} (h : BeginsWith stem text) (rest : String) :
    BeginsWith stem (text ++ rest) := by
  rw [BeginsWith, String.toList_append]
  exact h.trans (List.prefix_append _ _)

/-- Of two stems of one text, one begins the other. -/
theorem BeginsWith.comparable {stem other text : String} (h : BeginsWith stem text)
    (hother : BeginsWith other text) : BeginsWith stem other ∨ BeginsWith other stem :=
  List.prefix_or_prefix_of_prefix h hother

end TradeBot.Library
