import Mathlib.Data.List.Basic
import WebCoverage.Number.Format
import WebCoverage.Xml.Character

/-! A document can carry the text of every number. -/

namespace WebCoverage

namespace Xml

theorem isWritableText_append {first second : String} (hfirst : isWritableText first)
    (hsecond : isWritableText second) : isWritableText (first ++ second) := by
  unfold isWritableText at *
  rw [String.toList_append, List.all_append, hfirst, hsecond]
  rfl

theorem isWritableText_ite {condition : Prop} [Decidable condition] {first second : String}
    (hfirst : isWritableText first) (hsecond : isWritableText second) :
    isWritableText (if condition then first else second) := by
  split
  · exact hfirst
  · exact hsecond

theorem isWritableText_ofDigits {digits : List Char} (h : ∀ c ∈ digits, c.isDigit) :
    isWritableText (String.ofList digits) := by
  unfold isWritableText
  rw [String.toList_ofList, List.all_eq_true]
  intro c hc
  have hdigit := h c hc
  simp only [Char.isDigit, Bool.and_eq_true, decide_eq_true_eq, UInt32.le_iff_toNat_le] at hdigit
  obtain ⟨hlow, hhigh⟩ : 0x30 ≤ c.toNat ∧ c.toNat ≤ 0x39 := hdigit
  simp only [isWritable, isWritableCode, Bool.not_eq_true', Bool.or_eq_false_iff,
    Bool.and_eq_false_iff, decide_eq_false_iff_not, beq_eq_false_iff_ne]
  omega

theorem isWritableText_repr (n : Nat) : isWritableText (toString n) := by
  have hdigits : toString n = String.ofList (Nat.toDigits 10 n) := Nat.repr_eq_ofList_toDigits
  rw [hdigits]
  exact isWritableText_ofDigits fun c hc =>
    Nat.isDigit_of_mem_toDigits (by decide) (by decide) hc

end Xml

open Xml

namespace Number

namespace Layout

theorem isWritableText_zeros (n : Nat) : isWritableText (zeros n) :=
  isWritableText_ofDigits fun _ hc => List.eq_of_mem_replicate hc ▸ rfl

theorem isWritableText_exponentText (e : Int) : isWritableText (exponentText e) := by
  refine isWritableText_append (isWritableText_append (by decide)
    (isWritableText_ite (by decide) (by decide))) (isWritableText_ite ?_ (isWritableText_repr _))
  exact isWritableText_append (by decide) (isWritableText_repr _)

theorem isWritableText_digitsText (layout : Layout) (decimal : Decimal) :
    isWritableText (layout.digitsText decimal) := by
  unfold digitsText
  extract_lets all digits exponent whole
  have hdigits : ∀ c ∈ digits, c.isDigit := by
    intro c hc
    have hmem := (List.dropWhile_sublist _).subset (List.mem_reverse.1 hc)
    exact Nat.isDigit_of_mem_toDigits (by decide) (by decide) (List.mem_reverse.1 hmem)
  have htake (n : Nat) : isWritableText (String.ofList (digits.take n)) :=
    isWritableText_ofDigits fun c hc => hdigits c (List.mem_of_mem_take hc)
  have hdrop (n : Nat) : isWritableText (String.ofList (digits.drop n)) :=
    isWritableText_ofDigits fun c hc => hdigits c (List.mem_of_mem_drop hc)
  have hall : isWritableText (String.ofList digits) := isWritableText_ofDigits hdigits
  refine isWritableText_ite (isWritableText_ite ?small (isWritableText_ite ?whole ?mixed)) ?exponent
  case small =>
    exact isWritableText_append (isWritableText_append (by decide) (isWritableText_zeros _)) hall
  case whole =>
    exact isWritableText_append (isWritableText_append hall (isWritableText_zeros _))
      (isWritableText_ite (by decide) (by decide))
  case mixed => exact isWritableText_append (isWritableText_append (htake _) (by decide)) (hdrop _)
  case exponent =>
    refine isWritableText_append (isWritableText_append (htake _) ?_)
      (isWritableText_exponentText _)
    exact isWritableText_ite (by decide) (isWritableText_append (by decide) (hdrop _))

theorem isWritableText_text (layout : Layout) (decimal : Nat → Int → Decimal) (x : Float) :
    isWritableText (layout.text decimal x) := by
  unfold text
  split
  · decide
  · exact isWritableText_ite (by decide) (by decide)
  · refine isWritableText_append (isWritableText_ite (by decide) (by decide))
      (isWritableText_ite ?_ (isWritableText_digitsText ..))
    exact isWritableText_ite (by decide) (by decide)

end Layout

theorem isWritableText_significant (count : Nat) (x : Float) :
    isWritableText (significant count x) :=
  Layout.isWritableText_text ..

end Number

theorem isWritableText_pointText (x y : Float) : isWritableText (pointText x y) :=
  isWritableText_append (isWritableText_append (Number.isWritableText_significant ..) (by decide))
    (Number.isWritableText_significant ..)

end WebCoverage
