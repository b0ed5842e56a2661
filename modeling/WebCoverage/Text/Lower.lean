import WebCoverage.Text.LowerTable

/-! Lower case. A capital sigma becomes the final form of the letter at the end of a word, and the
capital I with a dot keeps its dot as a combining mark. -/

namespace WebCoverage.Text

def isCased (c : Char) : Bool :=
  inRanges casedRanges c.toNat

def isCaseIgnorable (c : Char) : Bool :=
  inRanges caseIgnorableRanges c.toNat

/-- Lower case of a character on its own. -/
def lowerChar (c : Char) : List Char :=
  if c.toNat < 128 then [c.toLower]
  else if c.toNat = 0x130 then ['i', Char.ofNat 0x307]
  else match lookupRun? lowerRuns c.toNat with
    | some code => [Char.ofNat code]
    | none => [c]

/-- A sigma is final if the nearest character before it that is not skipped has case and the
nearest such character after it has not. `before` is read backwards. -/
def isFinalSigma (before after : List Char) : Bool :=
  ((before.dropWhile isCaseIgnorable).head?.any isCased) &&
    !((after.dropWhile isCaseIgnorable).head?.any isCased)

private def lowerFrom (before : List Char) : List Char → List Char
  | [] => []
  | c :: after =>
    (if c.toNat = 0x3A3 then
      [Char.ofNat (if isFinalSigma before after then 0x3C2 else 0x3C3)]
    else
      lowerChar c) ++ lowerFrom (c :: before) after

/-- Lower case of a text. -/
def lower (text : String) : String :=
  String.ofList (lowerFrom [] text.toList)

/-- Texts that differ in case only. -/
def sameLower (a b : String) : Bool :=
  lower a == lower b

theorem lowerChar_ne_nil (c : Char) : lowerChar c ≠ [] := by
  unfold lowerChar
  split
  · exact List.cons_ne_nil _ _
  · split
    · exact List.cons_ne_nil _ _
    · split <;> exact List.cons_ne_nil _ _

/-- No character is lost in lower case. -/
theorem lower_eq_empty_iff {text : String} : lower text = "" ↔ text = "" := by
  have hlower : lower text = "" ↔ lowerFrom [] text.toList = [] := by
    rw [lower, String.ofList_eq_empty_iff]
  rw [hlower, ← String.toList_eq_nil_iff]
  cases text.toList with
  | nil => simp [lowerFrom]
  | cons c rest =>
    rw [lowerFrom, List.append_eq_nil_iff]
    refine iff_of_false (fun h => ?_) (List.cons_ne_nil _ _)
    have hc := h.1
    split at hc
    · cases hc
    · exact lowerChar_ne_nil c hc

theorem isEmpty_eq_of_sameLower {a b : String} (h : sameLower a b) : a.isEmpty = b.isEmpty := by
  have heq : lower a = lower b := by simpa [sameLower] using h
  rw [Bool.eq_iff_iff, String.isEmpty_iff, String.isEmpty_iff, ← lower_eq_empty_iff, heq,
    lower_eq_empty_iff]

/-! ## Underscores

The form of a sigma depends on the nearest characters that are not skipped. An underscore is not
skipped and has no case, so what comes after it is put into lower case as if nothing stood before
it. -/

private theorem any_isCased_append_underscore (front before : List Char) :
    ((front ++ '_' :: before).dropWhile isCaseIgnorable).head?.any isCased =
      (front.dropWhile isCaseIgnorable).head?.any isCased := by
  have hstop : isCaseIgnorable '_' = false := by decide +kernel
  have hcaseless : isCased '_' = false := by decide +kernel
  induction front with
  | nil => simp [hstop, hcaseless]
  | cons c front ih =>
    by_cases hc : isCaseIgnorable c
    · simpa [hc] using ih
    · simp [hc]

private theorem lowerFrom_append_underscore (front before text : List Char) :
    lowerFrom (front ++ '_' :: before) text = lowerFrom front text := by
  induction text generalizing front with
  | nil => rfl
  | cons c after ih =>
    have hfinal : isFinalSigma (front ++ '_' :: before) after = isFinalSigma front after := by
      unfold isFinalSigma
      rw [any_isCased_append_underscore]
    have hrest := ih (c :: front)
    rw [List.cons_append] at hrest
    rw [lowerFrom, lowerFrom, hfinal, hrest]

/-- An ASCII character that is its own small form. -/
def isSmall (c : Char) : Bool :=
  c.toNat < 128 && c.toLower = c

private theorem lowerFrom_append_small {word : List Char} (text : List Char)
    (h : word.all isSmall) (before : List Char) :
    lowerFrom before (word ++ text) = word ++ lowerFrom (word.reverse ++ before) text := by
  induction word generalizing before with
  | nil => rfl
  | cons c word ih =>
    obtain ⟨hc, hword⟩ := Bool.and_eq_true_iff.1 (List.all_cons ▸ h)
    obtain ⟨hascii, hsmall⟩ : c.toNat < 128 ∧ c.toLower = c := by simpa [isSmall] using hc
    have hsigma : c.toNat ≠ 0x3A3 := by omega
    rw [List.cons_append, lowerFrom, if_neg hsigma, lowerChar, if_pos hascii, hsmall, ih hword]
    simp

/-- Small letters at the start of a text stay as they are. -/
theorem prefix_lower {word : String} (h : word.toList.all isSmall) (text : String) :
    word.toList <+: (lower (word ++ text)).toList := by
  rw [lower, String.toList_append, String.toList_ofList, lowerFrom_append_small _ h]
  exact List.prefix_append _ _

/-- A word of small letters before an underscore stays as it is, and what follows is put into lower
case as if it stood alone. -/
theorem lower_append_underscore {word : String} (h : word.toList.all isSmall) (text : String) :
    lower (word ++ "_" ++ text) = word ++ "_" ++ lower text := by
  have hunderscore : "_".toList = ['_'] := rfl
  have hsmall : ['_'].all isSmall := by decide
  rw [← String.toList_inj]
  simp only [lower, String.toList_append, String.toList_ofList, hunderscore, List.append_assoc]
  rw [lowerFrom_append_small _ h, lowerFrom_append_small _ hsmall]
  exact congrArg (word.toList ++ '_' :: ·) (lowerFrom_append_underscore [] _ text.toList)

end WebCoverage.Text
