import Mathlib.Data.List.Infix
import Mathlib.Data.List.TakeWhile
import WebCoverage.Json.Reader

/-! Integers that are too long to be read. A reader answers with a rest of its text, and faults an
integer only in a text with that many digits in a row (`hasLongRun_of_read`). Digits alone that are
too many are such a text (`read_digits`). -/

namespace WebCoverage.Json

variable {α β : Type} {limit fuel : Nat} {text rest whole : List Char}

/-- More than `limit` digits stand in a row. -/
def HasLongRun (limit : Nat) (text : List Char) : Prop :=
  ∃ run, run <:+: text ∧ limit < run.length ∧ ∀ c ∈ run, c.isDigit

theorem HasLongRun.of_infix (h : HasLongRun limit text) (hpart : text <:+: whole) :
    HasLongRun limit whole := by
  obtain ⟨run, hrun, hlong, hdigits⟩ := h
  exact ⟨run, hrun.trans hpart, hlong, hdigits⟩

theorem HasLongRun.lt_length (h : HasLongRun limit text) : limit < text.length := by
  obtain ⟨run, hrun, hlong, -⟩ := h
  exact hlong.trans_le hrun.length_le

namespace Reader

/-- What a reader may answer: a rest of the text, or a fault. That an integer is too long is a fault
of texts with a long run of digits alone. -/
def Sound (limit : Nat) (text : List Char) : Except Fault (α × List Char) → Prop
  | .ok result => result.2 <:+ text
  | .error .longInteger => HasLongRun limit text
  | .error .malformed => True

namespace Sound

variable {answer : Except Fault (α × List Char)}

theorem of_suffix (h : Sound limit rest answer) (hrest : rest <:+ text) :
    Sound limit text answer := by
  match answer with
  | .ok _ => exact List.IsSuffix.trans h hrest
  | .error .longInteger => exact HasLongRun.of_infix h hrest.isInfix
  | .error .malformed => trivial

theorem map {f : α × List Char → β × List Char} (h : Sound limit text answer)
    (hf : ∀ result, (f result).2 = result.2) : Sound limit text (answer.map f) := by
  match answer with
  | .ok result =>
    have hrest : result.2 <:+ text := h
    rw [← hf] at hrest
    exact hrest
  | .error .longInteger => exact h
  | .error .malformed => trivial

theorem bind {f : α × List Char → Except Fault (β × List Char)} (h : Sound limit text answer)
    (hf : ∀ result, result.2 <:+ text → Sound limit text (f result)) :
    Sound limit text (answer >>= f) := by
  match answer with
  | .ok result => exact hf result h
  | .error .longInteger => exact h
  | .error .malformed => trivial

end Sound

/-! ## Strings and numbers -/

theorem skipSpace_suffix (text : List Char) : skipSpace text <:+ text :=
  List.dropWhile_suffix _

theorem suffix_of_skipSpace {c : Char} (h : skipSpace text = c :: rest) : rest <:+ text := by
  have hspace := skipSpace_suffix text
  rw [h] at hspace
  exact (List.suffix_cons c rest).trans hspace

theorem sound_stringRest (read : List Nat) : Sound limit text (stringRest read text) := by
  fun_induction stringRest read text with
  | case1 read rest => exact List.suffix_cons _ _
  | case3 read a b c d rest _ _ ih => exact ih.of_suffix ⟨['\\', 'u', a, b, c, d], rfl⟩
  | case4 read c rest _ _ _ ih => exact ih.of_suffix ⟨['\\', c], rfl⟩
  | case7 read c rest _ _ _ _ ih => exact ih.of_suffix (List.suffix_cons c rest)
  | _ => trivial

theorem span_digits_suffix (text : List Char) : (text.span (·.isDigit)).2 <:+ text := by
  rw [List.span_eq_takeWhile_dropWhile]
  exact List.dropWhile_suffix _

/-- The digits before the point start the text. -/
theorem wholeDigits_append (text : List Char) :
    (wholeDigits text).1 ++ (wholeDigits text).2 = text := by
  unfold wholeDigits
  split
  · rfl
  · rw [List.span_eq_takeWhile_dropWhile]
    exact List.takeWhile_append_dropWhile

theorem isDigit_of_mem_wholeDigits {c : Char} (h : c ∈ (wholeDigits text).1) : c.isDigit := by
  unfold wholeDigits at h
  split at h
  · rw [List.mem_singleton.1 h]
    rfl
  · rw [List.span_eq_takeWhile_dropWhile] at h
    exact List.mem_takeWhile_imp h

theorem fractionDigits_suffix (text : List Char) : (fractionDigits text).2 <:+ text := by
  unfold fractionDigits
  split
  · next c rest =>
    split
    · exact (span_digits_suffix (c :: rest)).trans (List.suffix_cons _ _)
    · exact List.suffix_rfl
  · exact List.suffix_rfl

theorem sign_suffix (text : List Char) : (Number.Literal.sign text).2 <:+ text := by
  unfold Number.Literal.sign
  split
  · exact List.suffix_cons _ _
  · exact List.suffix_cons _ _
  · exact List.suffix_rfl

theorem exponentDigits?_suffix {negative : Bool} {digits : List Char}
    (h : exponentDigits? text = some (negative, digits, rest)) : rest <:+ text := by
  unfold exponentDigits? at h
  split at h
  · next c tail =>
    split at h
    · dsimp only at h
      split at h
      · cases h
      · cases h
        exact ((span_digits_suffix _).trans (sign_suffix tail)).trans (List.suffix_cons c tail)
    · cases h
  · cases h

theorem sound_number (negative : Bool) (text : List Char) :
    Sound limit text (number (some limit) negative text) := by
  have hwhole : (wholeDigits text).2 <:+ text := ⟨_, wholeDigits_append text⟩
  have hfraction := (fractionDigits_suffix (wholeDigits text).2).trans hwhole
  unfold number
  dsimp only
  split
  · trivial
  · split
    · split
      · next hlong =>
        have hlong : limit < (wholeDigits text).1.length := of_decide_eq_true hlong
        have hrun : (wholeDigits text).1 <:+: text := ⟨[], _, wholeDigits_append text⟩
        exact ⟨_, hrun, hlong, fun c => isDigit_of_mem_wholeDigits⟩
      · exact hwhole
    · cases hexponent : exponentDigits? (fractionDigits (wholeDigits text).2).2 with
      | none => exact hfraction
      | some exponent => exact (exponentDigits?_suffix hexponent).trans hfraction

theorem sound_expect (word : String) (value : Json) (text : List Char) :
    Sound limit text (expect word value text) := by
  unfold expect
  split
  · exact List.drop_suffix _ _
  · trivial

/-! ## Values -/

/-- Readers of values with the given fuel are sound. -/
structure Sounds (limit fuel : Nat) : Prop where
  value text : Sound limit text (value (some limit) fuel text)
  elements before text : Sound limit text (elements (some limit) fuel before text)
  members before text : Sound limit text (members (some limit) fuel before text)

namespace Sounds

theorem value_succ (h : Sounds limit fuel) (text : List Char) :
    Sound limit text (Reader.value (some limit) (fuel + 1) text) := by
  unfold Reader.value
  split
  case h_1 rest =>
    exact ((sound_stringRest []).of_suffix (List.suffix_cons _ rest)).map fun _ => rfl
  case h_2 rest =>
    have hstart : rest <:+ '[' :: rest := List.suffix_cons _ rest
    split
    · next hspace => exact (suffix_of_skipSpace hspace).trans hstart
    · exact (h.elements [] _).of_suffix ((skipSpace_suffix rest).trans hstart)
  case h_3 rest =>
    have hstart : rest <:+ '\x7b' :: rest := List.suffix_cons _ rest
    split
    · next hspace => exact (suffix_of_skipSpace hspace).trans hstart
    · exact (h.members [] _).of_suffix ((skipSpace_suffix rest).trans hstart)
  case h_10 rest _ => exact (sound_number true rest).of_suffix (List.suffix_cons _ rest)
  case h_11 => exact sound_number false text
  all_goals exact sound_expect _ _ _

theorem elements_succ (h : Sounds limit fuel) (before : List Json) (text : List Char) :
    Sound limit text (Reader.elements (some limit) (fuel + 1) before text) := by
  unfold Reader.elements
  refine (h.value text).bind fun item hitem => ?_
  split
  · next hspace => exact (suffix_of_skipSpace hspace).trans hitem
  · next rest hspace =>
    have hrest := (suffix_of_skipSpace hspace).trans hitem
    exact (h.elements _ _).of_suffix ((skipSpace_suffix rest).trans hrest)
  · trivial

theorem members_succ (h : Sounds limit fuel) (before : List (String × Json)) (text : List Char) :
    Sound limit text (Reader.members (some limit) (fuel + 1) before text) := by
  unfold Reader.members
  split
  · next start =>
    refine ((sound_stringRest []).of_suffix (List.suffix_cons _ start)).bind fun name hname => ?_
    split
    · next rest hspace =>
      have hrest := (suffix_of_skipSpace hspace).trans hname
      have hvalue := (h.value (skipSpace rest)).of_suffix ((skipSpace_suffix rest).trans hrest)
      refine hvalue.bind fun item hitem => ?_
      dsimp only
      split
      · next hspace => exact (suffix_of_skipSpace hspace).trans hitem
      · next rest hspace =>
        have hrest := (suffix_of_skipSpace hspace).trans hitem
        exact (h.members _ _).of_suffix ((skipSpace_suffix rest).trans hrest)
      · trivial
    · trivial
  · trivial

end Sounds

theorem sounds (limit fuel : Nat) : Sounds limit fuel := by
  induction fuel with
  | zero => exact ⟨fun _ => trivial, fun _ _ => trivial, fun _ _ => trivial⟩
  | succ fuel ih => exact ⟨ih.value_succ, ih.elements_succ, ih.members_succ⟩

end Reader

/-- An integer that is too long is found only in a text with that many digits in a row. -/
theorem hasLongRun_of_read {text : String} (h : read (some limit) text = .error .longInteger) :
    HasLongRun limit text.toList := by
  have hsound := (Reader.sounds limit (2 * (Reader.skipSpace text.toList).length + 1)).value
    (Reader.skipSpace text.toList)
  unfold read at h
  dsimp only at h
  cases hvalue : Reader.value (some limit) (2 * (Reader.skipSpace text.toList).length + 1)
      (Reader.skipSpace text.toList) with
  | ok result =>
    rw [hvalue] at h
    dsimp only [bind, Except.bind] at h
    split at h <;> cases h
  | error fault =>
    rw [hvalue] at h hsound
    cases h
    exact HasLongRun.of_infix hsound (Reader.skipSpace_suffix _).isInfix

namespace Reader

variable {first : Char} {digits : List Char}

theorem wholeDigits_eq_self (hfirst : first ≠ '0') (h : ∀ c ∈ first :: digits, c.isDigit) :
    wholeDigits (first :: digits) = (first :: digits, []) := by
  unfold wholeDigits
  split
  · next heq =>
    cases heq
    exact absurd rfl hfirst
  · rw [List.span_eq_takeWhile_dropWhile, List.takeWhile_eq_self_iff.2 h,
      List.dropWhile_eq_nil_iff.2 h]

theorem number_of_long {negative : Bool} (hfirst : first ≠ '0')
    (h : ∀ c ∈ first :: digits, c.isDigit) (hlong : limit < (first :: digits).length) :
    number (some limit) negative (first :: digits) = .error .longInteger := by
  unfold number
  rw [wholeDigits_eq_self hfirst h]
  exact if_pos (decide_eq_true hlong)

theorem value_of_isDigit (h : first.isDigit) :
    value (some limit) (fuel + 1) (first :: rest) = number (some limit) false (first :: rest) := by
  unfold value
  split
  case h_11 => rfl
  all_goals
    next heq =>
    cases heq
    exact absurd h (by decide)

end Reader

/-- Digits alone are an integer, which may be too long. -/
theorem read_digits {first : Char} {digits : List Char} (hfirst : first ≠ '0')
    (h : ∀ c ∈ first :: digits, c.isDigit) (hlong : limit < (first :: digits).length) :
    read (some limit) (String.ofList (first :: digits)) = .error .longInteger := by
  have hdigit : first.isDigit := h first List.mem_cons_self
  have hstart : Reader.skipSpace (first :: digits) = first :: digits := by
    refine List.dropWhile_cons_of_neg ?_
    intro hspace
    rcases of_decide_eq_true hspace with rfl | rfl | rfl | rfl <;> cases hdigit
  unfold read
  rw [String.toList_ofList, hstart]
  dsimp only
  rw [Reader.value_of_isDigit hdigit, Reader.number_of_long hfirst h hlong]
  rfl

end WebCoverage.Json
