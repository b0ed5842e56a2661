import Mathlib.Data.List.Basic
import WebCoverage.Text.Charset

/-! Bytes read back. Reading what was written in one of the common encodings gives the text, but for
the characters that the encoding lacks, which have become references (`Charset.read?_write`). -/

namespace WebCoverage.Text.Charset

variable {charset : Charset} {c : Char}

/-- The encodings that every reader knows. -/
def common : List Charset :=
  [ascii, latin1, utf8]

/-- What a reader finds in the place of a character. -/
def spelled (charset : Charset) (c : Char) : List Char :=
  if (charset.encodeChar? c).isSome then [c] else reference c.toNat

theorem spelled_eq (charset : Charset) (c : Char) :
    charset.spelled c = [c] ∨ charset.spelled c = reference c.toNat := by
  unfold spelled
  split
  · exact .inl rfl
  · exact .inr rfl

theorem spelled_ascii (hcharset : charset ∈ common) (h : c.toNat < 0x80) :
    charset.spelled c = [c] := by
  refine if_pos ?_
  simp only [common, List.mem_cons, List.not_mem_nil, or_false] at hcharset
  obtain rfl | rfl | rfl := hcharset
  · simp [encodeChar?, h]
  · simp [encodeChar?, show c.toNat < 0x100 by omega]
  · rfl

theorem ascii_of_mem_reference {d : Char} (h : d ∈ reference c.toNat) : d.toNat < 0x80 := by
  simp only [reference, List.cons_append, List.mem_cons, List.mem_append, List.not_mem_nil,
    or_false] at h
  obtain rfl | rfl | hdigit | rfl := h
  · decide
  · decide
  · have hdigit := Nat.isDigit_of_mem_toDigits (by decide) (by decide) hdigit
    simp only [Char.isDigit, Bool.and_eq_true, decide_eq_true_eq] at hdigit
    have := UInt32.le_iff_toNat_le.1 hdigit.2
    exact Nat.lt_of_le_of_lt this (by decide)
  · decide

/-! ## Encodings of one byte for each character -/

/-- The byte of a character among the first code points. -/
def toByte (c : Char) : UInt8 :=
  UInt8.ofNat c.toNat

theorem ofNat_toByte (h : c.toNat < 0x100) : Char.ofNat (toByte c).toNat = c := by
  have hbyte : (toByte c).toNat = c.toNat := by
    rw [toByte, UInt8.toNat_ofNat']
    exact Nat.mod_eq_of_lt h
  rw [hbyte, Char.ofNat_toNat]

section

variable {bound : Nat}
  (hencode : ∀ c, charset.encodeChar? c = if c.toNat < bound then some [toByte c] else none)
  (hbound : 0x80 ≤ bound)

include hencode hbound

/-- A character that lacks a byte is written in characters that have one. -/
theorem writeChar_eq (c : Char) : charset.writeChar c = (charset.spelled c).map toByte := by
  unfold writeChar spelled
  rw [hencode]
  by_cases h : c.toNat < bound
  · simp [h]
  · have hreference : ∀ d ∈ reference c.toNat, (charset.encodeChar? d).getD [] = [toByte d] := by
      intro d hd
      have := ascii_of_mem_reference hd
      rw [hencode, if_pos (by omega)]
      rfl
    simp only [h, if_false, Option.isSome_none, Bool.false_eq_true]
    rw [List.flatMap_congr hreference, List.map_eq_flatMap]

theorem lt_of_mem_spelled {d : Char} (h : d ∈ charset.spelled c) : d.toNat < bound := by
  unfold spelled at h
  rw [hencode] at h
  by_cases hc : c.toNat < bound
  · simp only [hc, if_true, Option.isSome_some, List.mem_singleton] at h
    exact h ▸ hc
  · simp only [hc, if_false, Option.isSome_none, Bool.false_eq_true] at h
    have := ascii_of_mem_reference h
    omega

theorem flatMap_writeChar (text : List Char) :
    text.flatMap charset.writeChar = (text.flatMap charset.spelled).map toByte := by
  rw [List.map_flatMap]
  exact List.flatMap_congr fun c _ => writeChar_eq hencode hbound c

end

private theorem mapM_toByte {text : List Char} (h : ∀ c ∈ text, c.toNat < 0x80) :
    ((text.map toByte).mapM fun byte =>
      if byte < 0x80 then some (Char.ofNat byte.toNat) else none) = some text := by
  induction text with
  | nil => rfl
  | cons c rest ih =>
    obtain ⟨hc, hrest⟩ := List.forall_mem_cons.1 h
    have hbyte : toByte c < 0x80 := by
      rw [UInt8.lt_iff_toNat_lt, toByte, UInt8.toNat_ofNat', Nat.mod_eq_of_lt (by omega)]
      exact hc
    rw [List.map_cons, List.mapM_cons, if_pos hbyte, ih hrest, ofNat_toByte (by omega)]
    rfl

private theorem map_toByte {text : List Char} (h : ∀ c ∈ text, c.toNat < 0x100) :
    (text.map toByte).map (fun byte => Char.ofNat byte.toNat) = text := by
  rw [List.map_map]
  calc
    text.map ((fun byte => Char.ofNat byte.toNat) ∘ toByte) = text.map id :=
      List.map_congr_left fun c hc => ofNat_toByte (h c hc)
    _ = text := List.map_id text

/-- Reading undoes writing, but for the references. -/
theorem read?_write (hcharset : charset ∈ common) (text : List Char) :
    charset.read? (charset.write text) = some (text.flatMap charset.spelled) := by
  simp only [common, List.mem_cons, List.not_mem_nil, or_false] at hcharset
  obtain rfl | rfl | rfl := hcharset
  · have hencode (c : Char) :
        ascii.encodeChar? c = if c.toNat < 0x80 then some [toByte c] else none := rfl
    have hwrite : ascii.write text = text.flatMap ascii.writeChar := rfl
    rw [hwrite, flatMap_writeChar hencode (by decide)]
    refine mapM_toByte fun c hc => ?_
    obtain ⟨_, -, hc⟩ := List.mem_flatMap.1 hc
    exact lt_of_mem_spelled hencode (by decide) hc
  · have hencode (c : Char) :
        latin1.encodeChar? c = if c.toNat < 0x100 then some [toByte c] else none := rfl
    have hwrite : latin1.write text = text.flatMap latin1.writeChar := rfl
    rw [hwrite, flatMap_writeChar hencode (by decide)]
    refine congrArg some (map_toByte fun c hc => ?_)
    obtain ⟨_, -, hc⟩ := List.mem_flatMap.1 hc
    exact lt_of_mem_spelled hencode (by decide) hc
  · -- No character lacks bytes, so there are no references.
    have hspelled : text.flatMap utf8.spelled = text := List.flatMap_singleton' text
    have hwrite : (utf8.write text).toByteArray = text.utf8Encode := rfl
    show (utf8.write text).toByteArray.utf8Decode?.map Array.toList = _
    rw [hwrite, List.utf8Decode?_utf8Encode, hspelled]
    rfl

end WebCoverage.Text.Charset
