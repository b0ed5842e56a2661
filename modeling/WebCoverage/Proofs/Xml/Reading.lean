import WebCoverage.Proofs.Text.Decoding
import WebCoverage.Proofs.Xml.Composition
import WebCoverage.Xml.Reader

/-! Markup read back. Between two tags, inside a value and inside a name, a reader takes one
character after the other, each of them as itself or as a reference (`Spells`). A tree is read by
induction on it: from inside an open element a reader goes through the markup of another element and
stands again where it stood, with that element as a new child (`Reader.run_chars`). -/

namespace WebCoverage.Xml

open Text (Charset)

variable {charset : Charset} {c : Char} {text : List Char}

/-! ## References -/

private theorem mapM_asciiDigit? (h : ∀ d ∈ text, d.isDigit) :
    text.mapM Text.asciiDigit? = some (text.map fun d => d.toNat - '0'.toNat) := by
  induction text with
  | nil => rfl
  | cons d rest ih =>
    obtain ⟨hd, hrest⟩ := List.forall_mem_cons.1 h
    simp only [Char.isDigit, Bool.and_eq_true, decide_eq_true_eq] at hd
    have hdigit : Text.asciiDigit? d = some (d.toNat - '0'.toNat) := if_pos hd
    rw [List.mapM_cons, hdigit, ih hrest]
    rfl

/-- A code point with its digits in base ten stands for its character, if it has one. -/
theorem ofCode?_toDigits (code : Nat) :
    ofCode? 10 Text.asciiDigit? (Nat.toDigits 10 code) =
      if code.isValidChar then some (Char.ofNat code) else none := by
  have hdigits := mapM_asciiDigit? fun d (hd : d ∈ Nat.toDigits 10 code) =>
    Nat.isDigit_of_mem_toDigits (by decide) (by decide) hd
  have hcode : ((Nat.toDigits 10 code).map fun d => d.toNat - '0'.toNat).foldl
      (fun code digit => 10 * code + digit) 0 = code := by
    rw [List.foldl_map]
    exact Nat.ofDigitChars_toDigits (by decide) (by decide)
  have hsome : (Nat.toDigits 10 code).map (fun d => d.toNat - '0'.toNat) ≠ [] := by
    simp [Nat.toDigits_ne_nil]
  simp only [ofCode?, hdigits, bind, Option.bind, hcode, ne_eq, hsome, not_false_eq_true, and_true]

theorem referent?_toDigits (code : Nat) :
    referent? ('#' :: Nat.toDigits 10 code) =
      if code.isValidChar then some (Char.ofNat code) else none := by
  unfold referent?
  split
  · next digits heq =>
    have hx : 'x' ∈ Nat.toDigits 10 code := by
      rw [(List.cons.inj heq).2]
      exact List.mem_cons_self
    have := Nat.isDigit_of_mem_toDigits (by decide) (by decide) hx
    contradiction
  · next heq =>
    rw [← (List.cons.inj heq).2]
    exact ofCode?_toDigits code
  · next hno => exact absurd rfl (hno _)

theorem referent?_toNat (c : Char) : referent? ('#' :: Nat.toDigits 10 c.toNat) = some c := by
  have hvalid : c.toNat.isValidChar := c.valid
  rw [referent?_toDigits, if_pos hvalid, Char.ofNat_toNat]

/-- The name of a reference to a code point does not end the reference. -/
theorem not_mem_hash_toDigits (code : Nat) : ';' ∉ '#' :: Nat.toDigits 10 code := by
  rw [List.mem_cons]
  rintro (hhash | hdigit)
  · contradiction
  · have := Nat.isDigit_of_mem_toDigits (by decide) (by decide) hdigit
    contradiction

/-! ## Characters in markup -/

/-- A character in markup where some characters are special: as itself or as a reference. -/
inductive Spells (special : List Char) (c : Char) : List Char → Prop
  | itself : c ∉ special → Spells special c [c]
  | reference (name : List Char) : ';' ∉ name → referent? name = some c →
      Spells special c ('&' :: name ++ [';'])

theorem flatMap_spelled (hcharset : charset ∈ Charset.common) (h : text.all (·.toNat < 0x80)) :
    text.flatMap charset.spelled = text := by
  have hspelled : ∀ d ∈ text, charset.spelled d = [d] := fun d hd =>
    Charset.spelled_ascii hcharset (of_decide_eq_true (List.all_eq_true.1 h d hd))
  exact (List.flatMap_congr hspelled).trans (List.flatMap_singleton' text)

/-- What is not special may be a reference in any case, where its encoding lacks it. -/
theorem spells_spelled {special : List Char} (h : c ∉ special) :
    Spells special c (charset.spelled c) := by
  obtain hspelled | hspelled := charset.spelled_eq c
  · exact hspelled ▸ .itself h
  · rw [hspelled]
    exact .reference _ (not_mem_hash_toDigits _) (referent?_toNat c)

/-- The characters of tags, and those of references. -/
def textSpecials : List Char :=
  ['<', '&']

/-- In a value also the quote is special, and the blanks that a reader takes for a space. -/
def valueSpecials : List Char :=
  ['<', '&', '"', '\t', '\n', '\r']

theorem spells_textChar (hcharset : charset ∈ Charset.common) (c : Char)
    {special : List Char} (h : c ∉ special ∨ c ∈ textSpecials) :
    Spells special c ((Element.textChar c).flatMap charset.spelled) := by
  unfold Element.textChar
  split
  · rw [flatMap_spelled hcharset (by decide)]
    exact .reference "amp".toList (by decide) rfl
  · rw [flatMap_spelled hcharset (by decide)]
    exact .reference "lt".toList (by decide) rfl
  · rw [flatMap_spelled hcharset (by decide)]
    exact .reference "gt".toList (by decide) rfl
  · next hamp hlt _ =>
    rw [List.flatMap_singleton]
    refine spells_spelled (h.resolve_right fun hmem => ?_)
    simp only [textSpecials, List.mem_cons, List.not_mem_nil, or_false] at hmem
    exact hmem.elim hlt hamp

theorem spells_valueChar (hcharset : charset ∈ Charset.common) (c : Char) :
    Spells valueSpecials c ((Element.valueChar c).flatMap charset.spelled) := by
  unfold Element.valueChar
  split
  · rw [flatMap_spelled hcharset (by decide)]
    exact .reference "quot".toList (by decide) rfl
  · rw [flatMap_spelled hcharset (by decide)]
    exact .reference "#13".toList (by decide) rfl
  · rw [flatMap_spelled hcharset (by decide)]
    exact .reference "#10".toList (by decide) rfl
  · rw [flatMap_spelled hcharset (by decide)]
    exact .reference "#09".toList (by decide) rfl
  · next hquote hreturn hfeed htab =>
    -- What is left of the special characters is special in a text, too.
    refine spells_textChar hcharset c ?_
    by_cases h : c ∈ textSpecials
    · exact .inr h
    · refine .inl fun hmem => ?_
      change c ∈ textSpecials ++ ['"', '\t', '\n', '\r'] at hmem
      have hblank := (List.mem_append.1 hmem).resolve_left h
      simp only [List.mem_cons, List.not_mem_nil, or_false] at hblank
      obtain heq | heq | heq | heq := hblank
      · exact hquote heq
      · exact htab heq
      · exact hfeed heq
      · exact hreturn heq

/-! ## Runs of a reader -/

namespace Reader

variable {α β : Type} {inner : Element} {outer : List Element}

theorem run_append (reader : Reader) (first second : List Char) :
    reader.run (first ++ second) = (reader.run first).bind (·.run second) :=
  List.foldlM_append

theorem run_cons (reader : Reader) (c : Char) (rest : List Char) :
    reader.run (c :: rest) = (reader.step c).bind (·.run rest) := rfl

theorem run_of_step {reader after : Reader} (h : reader.step c = some after) (rest : List Char) :
    reader.run (c :: rest) = after.run rest := by
  rw [run_cons, h, Option.bind_some]

theorem run_of_run {reader after : Reader} {first : List Char} (h : reader.run first = some after)
    (second : List Char) : reader.run (first ++ second) = after.run second := by
  rw [run_append, h, Option.bind_some]

/-- Pieces that are read one after the other. -/
theorem run_flatMap (reader : β → Reader) (next : β → α → β) {markup : α → List Char}
    {items : List α}
    (h : ∀ b, ∀ item ∈ items, (reader b).run (markup item) = some (reader (next b item))) (b : β) :
    (reader b).run (items.flatMap markup) = some (reader (items.foldl next b)) := by
  induction items generalizing b with
  | nil => rfl
  | cons item rest ih =>
    have hitem := h b item List.mem_cons_self
    have hrest := ih (fun b item hmem => h b item (List.mem_cons_of_mem _ hmem)) (next b item)
    rw [List.flatMap_cons, run_of_run hitem]
    exact hrest

theorem foldl_push (text : List Char) (before : String) :
    text.foldl String.push before = before ++ String.ofList text := by
  induction text generalizing before with
  | nil => simp
  | cons c rest ih =>
    rw [List.foldl_cons, ih, String.ofList_cons, ← String.append_assoc]
    rfl

/-- A text that is read character by character into the place for it. -/
theorem run_text (reader : String → Reader) {markup : Char → List Char} {text : String}
    (h : ∀ before, ∀ c ∈ text.toList,
      (reader before).run (markup c) = some (reader (before.push c))) :
    (reader "").run (text.toList.flatMap markup) = some (reader text) := by
  rw [run_flatMap reader String.push h, foldl_push, String.ofList_toList]
  simp

/-- A reference, wherever it stands. -/
theorem run_reference (reader : List Char → Reader) (found : Char → Reader)
    (hnext : ∀ name c, c ≠ ';' → (reader name).step c = some (reader (name ++ [c])))
    (hend : ∀ name, (reader name).step ';' = (referent? name).map found) (before : List Char)
    {name : List Char} (h : ';' ∉ name) :
    (reader before).run (name ++ [';']) = (referent? (before ++ name)).map found := by
  induction name generalizing before with
  | nil =>
    rw [List.nil_append, List.append_nil, run_cons, hend]
    cases referent? before <;> rfl
  | cons c rest ih =>
    rw [List.mem_cons, not_or] at h
    rw [List.cons_append, run_of_step (hnext _ _ (Ne.symm h.1)), ih _ h.2, List.append_assoc,
      List.singleton_append]

/-- In the content of an element a reference is read if it stands for a character. -/
theorem run_contentReference {name : List Char} (h : ';' ∉ name) :
    run ⟨.content, inner, outer⟩ ('&' :: name ++ [';']) =
      (referent? name).map fun c => ⟨.content, inner.receive c, outer⟩ := by
  have hrun := run_reference (fun name => ⟨.contentReference name, inner, outer⟩)
    (fun c => ⟨.content, inner.receive c, outer⟩) (fun name c hc => if_neg hc)
    (fun name => rfl) [] h
  rwa [List.nil_append] at hrun

theorem run_content {markup : List Char} (h : Spells textSpecials c markup) :
    run ⟨.content, inner, outer⟩ markup = some ⟨.content, inner.receive c, outer⟩ := by
  cases h with
  | itself h =>
    simp only [textSpecials, List.mem_cons, List.not_mem_nil, or_false, not_or] at h
    simp only [run, List.foldlM_cons, step, if_neg h.1, if_neg h.2]
    rfl
  | reference name hname hreferent =>
    rw [run_contentReference hname, hreferent]
    rfl

/-- In the value of an attribute, too. -/
theorem run_valueReference {pending : OpenAttribute} (hquote : pending.quote = '"')
    {name : List Char} (h : ';' ∉ name) :
    run ⟨.value pending, inner, outer⟩ ('&' :: name ++ [';']) =
      (referent? name).map fun c => ⟨.value (pending.receive c), inner, outer⟩ := by
  have hrun := run_reference (fun name => ⟨.valueReference pending name, inner, outer⟩)
    (fun c => ⟨.value (pending.receive c), inner, outer⟩) (fun name c hc => if_neg hc)
    (fun name => rfl) [] h
  rw [List.nil_append] at hrun
  rw [List.cons_append, run_cons]
  simp only [step, inValue, hquote]
  exact hrun

theorem run_value {markup : List Char} {pending : OpenAttribute} (hquote : pending.quote = '"')
    (h : Spells valueSpecials c markup) :
    run ⟨.value pending, inner, outer⟩ markup =
      some ⟨.value (pending.receive c), inner, outer⟩ := by
  cases h with
  | itself h =>
    simp only [valueSpecials, List.mem_cons, List.not_mem_nil, or_false, not_or] at h
    obtain ⟨hlt, hamp, hend, htab, hfeed, hreturn⟩ := h
    have hgap : (if isGap c then ' ' else c) = c := by
      by_cases hspace : c = ' '
      · simp [hspace]
      · simp [isGap, hspace, htab, hfeed, hreturn]
    simp only [run, List.foldlM_cons, step, inValue, hquote, if_neg hend, if_neg hlt, if_neg hamp,
      hgap]
    rfl
  | reference name hname hreferent =>
    rw [run_valueReference hquote hname, hreferent]
    rfl

/-! ## Tags -/

end Reader

/-- A name that tags can hold. -/
structure IsName (name : String) : Prop where
  nonempty : name ≠ ""
  chars : ∀ c ∈ name.toList, isNameChar c

theorem ascii_of_isNameChar (h : isNameChar c) : c.toNat < 0x80 := by
  have hranges : c.isAlphanum = (decide ('A' ≤ c ∧ c ≤ 'Z') ||
    (decide ('a' ≤ c) && decide (c ≤ 'z')) || (decide ('0' ≤ c) && decide (c ≤ '9'))) := rfl
  simp only [isNameChar, hranges, Bool.or_eq_true, Bool.and_eq_true, decide_eq_true_eq] at h
  obtain (((((h | h) | h) | rfl) | rfl) | rfl) | rfl := h
  · exact Nat.lt_of_le_of_lt (UInt32.le_iff_toNat_le.1 h.2) (by decide)
  · exact Nat.lt_of_le_of_lt (UInt32.le_iff_toNat_le.1 h.2) (by decide)
  · exact Nat.lt_of_le_of_lt (UInt32.le_iff_toNat_le.1 h.2) (by decide)
  all_goals decide

theorem flatMap_spelled_name (hcharset : charset ∈ Charset.common) {name : String}
    (h : ∀ c ∈ name.toList, isNameChar c) :
    name.toList.flatMap charset.spelled = name.toList :=
  flatMap_spelled hcharset
    (List.all_eq_true.2 fun c hc => decide_eq_true (ascii_of_isNameChar (h c hc)))

theorem ne_of_isNameChar (h : isNameChar c) {d : Char} (hd : isNameChar d = false) : c ≠ d := by
  rintro rfl
  rw [h] at hd
  contradiction

namespace Reader

variable {inner : Element} {outer : List Element}

/-- A name that is read into the place for it, of which the first character has been read. -/
theorem run_name (reader : String → Reader)
    (h : ∀ before c, isNameChar c → (reader before).step c = some (reader (before.push c)))
    (first : Reader) (hfirst : ∀ c, isNameChar c → first.step c = some (reader ("".push c)))
    {name : String} (hname : IsName name) : first.run name.toList = some (reader name) := by
  obtain ⟨hnonempty, hchars⟩ := hname
  have hne : name.toList ≠ [] := fun hnil => hnonempty (String.toList_eq_nil_iff.1 hnil)
  obtain ⟨c, rest, hsplit⟩ := List.exists_cons_of_ne_nil hne
  rw [hsplit] at hchars
  obtain ⟨hc, hrest⟩ := List.forall_mem_cons.1 hchars
  have hstep (before : String) (c : Char) (hc : c ∈ rest) :
      (reader before).run [c] = some (reader (before.push c)) :=
    run_of_step (h before c (hrest c hc)) []
  have hrun := run_flatMap reader String.push hstep ("".push c)
  have hwhole : rest.foldl String.push ("".push c) = name := by
    rw [← List.foldl_cons (f := String.push), ← hsplit, foldl_push, String.ofList_toList]
    exact String.empty_append
  rw [List.flatMap_singleton', hwhole] at hrun
  rw [hsplit, run_of_step (hfirst c hc)]
  exact hrun

/-- A reader in the start tag of an element, where a name or a value may just have ended. -/
def Ends (reader : Reader) (element : Element) : Prop :=
  ∀ c, isNameChar c = false → reader.step c = reader.inTag element c

theorem ends_startName (name : String) :
    Ends ⟨.startName name, inner, outer⟩ (.bare name) := fun c hc => by
  simp only [step, hc, Bool.false_eq_true, if_false]

theorem ends_valueEnd (element : Element) : Ends ⟨.valueEnd element, inner, outer⟩ element :=
  fun _ _ => rfl

section

variable (hcharset : charset ∈ Charset.common) {place : Place} {element : Element}

include hcharset

theorem run_attribute (h : Ends ⟨place, inner, outer⟩ element) {entry : String × String}
    (hname : IsName entry.1) (hfresh : entry.1 ∉ element.attributes.map Prod.fst) :
    run ⟨place, inner, outer⟩ ((Element.attributeChars entry).flatMap charset.spelled) =
      some ⟨.valueEnd { element with attributes := element.attributes ++ [entry] },
        inner, outer⟩ := by
  obtain ⟨name, value⟩ := entry
  have hmarkup : (Element.attributeChars (name, value)).flatMap charset.spelled =
      ' ' :: (name.toList ++ ('=' :: '"' ::
        (value.toList.flatMap (fun c => (Element.valueChar c).flatMap charset.spelled) ++
          ['"']))) := by
    have hascii (c : Char) (hc : c.toNat < 0x80) := Charset.spelled_ascii hcharset hc
    simp only [Element.attributeChars, List.flatMap_append, List.flatMap_cons, List.flatMap_nil,
      flatMap_spelled_name hcharset hname.chars, List.flatMap_assoc, hascii ' ' (by decide),
      hascii '=' (by decide), hascii '"' (by decide), List.cons_append, List.nil_append,
      List.append_assoc]
  have hgap : step ⟨place, inner, outer⟩ ' ' = some ⟨.gap element, inner, outer⟩ := h ' ' rfl
  have hattribute : run ⟨.gap element, inner, outer⟩ name.toList =
      some ⟨.attributeName element name, inner, outer⟩ :=
    run_name (fun name => ⟨.attributeName element name, inner, outer⟩)
      (fun before c hc => if_pos hc) ⟨.gap element, inner, outer⟩ (fun c hc => if_pos hc) hname
  have hequals : step ⟨.attributeName element name, inner, outer⟩ '=' =
      some ⟨.equals element name, inner, outer⟩ := rfl
  have hquote : step ⟨.equals element name, inner, outer⟩ '"' =
      some ⟨.value ⟨element, name, '"', ""⟩, inner, outer⟩ := rfl
  have hvalue : run ⟨.value ⟨element, name, '"', ""⟩, inner, outer⟩
      (value.toList.flatMap fun c => (Element.valueChar c).flatMap charset.spelled) =
        some ⟨.value ⟨element, name, '"', value⟩, inner, outer⟩ :=
    run_text (fun value => ⟨.value ⟨element, name, '"', value⟩, inner, outer⟩)
      fun before c _ => run_value rfl (spells_valueChar hcharset c)
  have hend : step ⟨.value ⟨element, name, '"', value⟩, inner, outer⟩ '"' =
      some ⟨.valueEnd { element with attributes := element.attributes ++ [(name, value)] },
        inner, outer⟩ := by
    simp only [step, inValue, if_true, OpenAttribute.element?, if_neg hfresh, Option.map_some]
  rw [hmarkup, run_of_step hgap, run_of_run hattribute, run_of_step hequals, run_of_step hquote,
    run_of_run hvalue, run_of_step hend]
  rfl

/-- The attributes of an element, none of which it has twice. -/
theorem run_attributes (h : Ends ⟨place, inner, outer⟩ element)
    {attributes : List (String × String)} (hnames : ∀ entry ∈ attributes, IsName entry.1)
    (hnodup : ((element.attributes ++ attributes).map Prod.fst).Nodup) :
    ∃ place',
      run ⟨place, inner, outer⟩ ((attributes.flatMap Element.attributeChars).flatMap
        charset.spelled) = some ⟨place', inner, outer⟩ ∧
      Ends ⟨place', inner, outer⟩
        { element with attributes := element.attributes ++ attributes } := by
  -- An attribute may follow a name or another attribute, so the place is any where the tag may end.
  induction attributes generalizing place element with
  | nil =>
    obtain ⟨name, attributes, text, children, tail⟩ := element
    rw [List.append_nil]
    exact ⟨place, rfl, h⟩
  | cons entry rest ih =>
    obtain ⟨hentry, hrest⟩ := List.forall_mem_cons.1 hnames
    have hfresh : entry.1 ∉ element.attributes.map Prod.fst := by
      rw [List.map_append, List.nodup_append] at hnodup
      exact fun hmem => hnodup.2.2 _ hmem _ List.mem_cons_self rfl
    have hsplit : element.attributes ++ entry :: rest = element.attributes ++ [entry] ++ rest := by
      rw [List.append_assoc, List.singleton_append]
    rw [hsplit] at hnodup ⊢
    let after : Element := { element with attributes := element.attributes ++ [entry] }
    obtain ⟨place', hrun, hends⟩ := ih (ends_valueEnd after) hrest hnodup
    refine ⟨place', ?_, hends⟩
    rw [List.flatMap_cons, List.flatMap_append, run_of_run (run_attribute hcharset h hentry hfresh)]
    exact hrun

/-- A start tag up to its end. -/
theorem run_startTag {name : String} (hname : IsName name) {attributes : List (String × String)}
    (hnames : ∀ entry ∈ attributes, IsName entry.1) (hnodup : (attributes.map Prod.fst).Nodup) :
    ∃ place,
      run ⟨.content, inner, outer⟩
        (('<' :: name.toList ++ attributes.flatMap Element.attributeChars).flatMap
          charset.spelled) = some ⟨place, inner, outer⟩ ∧
      Ends ⟨place, inner, outer⟩ (.ofChildren name attributes []) := by
  have htag : step ⟨.content, inner, outer⟩ '<' = some ⟨.tag, inner, outer⟩ := rfl
  have hstart : run ⟨.tag, inner, outer⟩ name.toList = some ⟨.startName name, inner, outer⟩ := by
    refine run_name (fun name => ⟨.startName name, inner, outer⟩) (fun before c hc => if_pos hc)
      ⟨.tag, inner, outer⟩ (fun c hc => ?_) hname
    simp only [step, if_neg (ne_of_isNameChar hc (show isNameChar '/' = false from rfl)), if_pos hc]
  obtain ⟨place, hrun, hends⟩ := run_attributes hcharset (ends_startName name) hnames hnodup
  refine ⟨place, ?_, hends⟩
  rw [List.cons_append, List.flatMap_cons, List.flatMap_append,
    Charset.spelled_ascii hcharset (by decide), flatMap_spelled_name hcharset hname.chars,
    List.singleton_append, run_of_step htag, run_of_run hstart]
  exact hrun

/-- An end tag with the name of the innermost element. -/
theorem run_endTag (inner parent : Element) (outer : List Element) (hname : IsName inner.name) :
    run ⟨.content, inner, parent :: outer⟩
      (('<' :: '/' :: inner.name.toList ++ ['>']).flatMap charset.spelled) =
        some ⟨.content, parent.adopt inner.closed, outer⟩ := by
  have htag : step ⟨.content, inner, parent :: outer⟩ '<' =
      some ⟨.tag, inner, parent :: outer⟩ := rfl
  have hslash : step ⟨.tag, inner, parent :: outer⟩ '/' =
      some ⟨.endName "", inner, parent :: outer⟩ := rfl
  have hend : run ⟨.endName "", inner, parent :: outer⟩ inner.name.toList =
      some ⟨.endName inner.name, inner, parent :: outer⟩ :=
    run_name (fun name => ⟨.endName name, inner, parent :: outer⟩) (fun before c hc => if_pos hc)
      ⟨.endName "", inner, parent :: outer⟩ (fun c hc => if_pos hc) hname
  have hclose : step ⟨.endName inner.name, inner, parent :: outer⟩ '>' =
      some ⟨.content, parent.adopt inner.closed, outer⟩ := if_pos rfl
  have hascii (c : Char) (hc : c.toNat < 0x80) := Charset.spelled_ascii hcharset hc
  simp only [List.cons_append, List.flatMap_cons, List.flatMap_append, List.flatMap_nil,
    hascii '<' (by decide), hascii '/' (by decide), hascii '>' (by decide),
    flatMap_spelled_name hcharset hname.chars, List.nil_append, List.append_nil]
  rw [run_of_step htag, run_of_step hslash, run_of_run hend, run_of_step hclose]
  rfl

/-- The text of an element before its first child. -/
theorem run_textChars (name : String) (attributes : List (String × String)) (text : String)
    (outer : List Element) :
    run ⟨.content, .ofChildren name attributes [], outer⟩
      ((Element.textChars text).flatMap charset.spelled) =
        some ⟨.content, ⟨name, attributes, text, [], ""⟩, outer⟩ := by
  rw [Element.textChars, List.flatMap_assoc]
  exact run_text (fun text => ⟨.content, ⟨name, attributes, text, [], ""⟩, outer⟩) fun before c _ =>
    run_content (spells_textChar hcharset c (em _).symm)

/-- The text after a child. -/
theorem run_tailChars (inner child : Element) (tail : String) (outer : List Element) :
    run ⟨.content, inner.adopt { child with tail := "" }, outer⟩
      ((Element.textChars tail).flatMap charset.spelled) =
        some ⟨.content, inner.adopt { child with tail := tail }, outer⟩ := by
  rw [Element.textChars, List.flatMap_assoc]
  exact run_text (fun tail => ⟨.content, inner.adopt { child with tail := tail }, outer⟩)
    fun before c _ => run_content (spells_textChar hcharset c (em _).symm)

end

/-! ## Trees -/

end Reader

/-- An element that a reader can tell from its markup. -/
structure Element.Readable (element : Element) : Prop where
  name : IsName element.name
  attributes : ∀ entry ∈ element.attributes, IsName entry.1
  nodup : (element.attributes.map Prod.fst).Nodup

theorem Element.childrenChars_eq (children : List Element) :
    childrenChars children = children.flatMap chars := by
  induction children with
  | nil => rfl
  | cons child rest ih => rw [childrenChars, ih, List.flatMap_cons]

theorem Element.foldl_adopt (children : List Element) (element : Element) :
    children.foldl adopt element =
      { element with children := children.reverse ++ element.children } := by
  induction children generalizing element with
  | nil => obtain ⟨⟩ := element; rfl
  | cons child rest ih => rw [List.foldl_cons, ih]; simp [adopt]

namespace Reader

section

variable (hcharset : charset ∈ Charset.common) {place : Place} {inner : Element}
  {outer : List Element}

include hcharset

/-- The end of a tag without content. -/
theorem run_emptyEnd {element : Element} (h : Ends ⟨place, inner, outer⟩ element) :
    run ⟨place, inner, outer⟩ ([' ', '/', '>'].flatMap charset.spelled) =
      some ⟨.content, inner.adopt element, outer⟩ := by
  have hgap : step ⟨place, inner, outer⟩ ' ' = some ⟨.gap element, inner, outer⟩ := h ' ' rfl
  have hslash : step ⟨.gap element, inner, outer⟩ '/' = some ⟨.slash element, inner, outer⟩ := rfl
  have hend : step ⟨.slash element, inner, outer⟩ '>' =
      some ⟨.content, inner.adopt element, outer⟩ := rfl
  rw [flatMap_spelled hcharset (by decide), run_of_step hgap, run_of_step hslash, run_of_step hend]
  rfl

/-- The end of a start tag, the content of its element and the end tag. -/
theorem run_content_endTag (text : String) {name : String} {attributes : List (String × String)}
    {children : List Element} (hname : IsName name)
    (h : Ends ⟨place, inner, outer⟩ (.ofChildren name attributes []))
    (hchildren : ∀ child ∈ children, ∀ inner outer,
      run ⟨.content, inner, outer⟩ (child.chars.flatMap charset.spelled) =
        some ⟨.content, inner.adopt child, outer⟩) :
    run ⟨place, inner, outer⟩
      (('>' :: Element.textChars text ++ Element.childrenChars children ++
        '<' :: '/' :: name.toList ++ ['>']).flatMap charset.spelled) =
      some ⟨.content, inner.adopt ⟨name, attributes, text, children, ""⟩, outer⟩ := by
  have hopen : step ⟨place, inner, outer⟩ '>' =
      some ⟨.content, .ofChildren name attributes [], inner :: outer⟩ := h '>' rfl
  have htext := run_textChars hcharset name attributes text (inner :: outer)
  have hrow := run_flatMap (fun element => ⟨.content, element, inner :: outer⟩) Element.adopt
    (fun element child hchild => hchildren child hchild element (inner :: outer))
    ⟨name, attributes, text, [], ""⟩
  rw [Element.foldl_adopt, List.append_nil, ← List.flatMap_assoc, ← Element.childrenChars_eq]
    at hrow
  have hend := run_endTag hcharset ⟨name, attributes, text, children.reverse, ""⟩ inner outer hname
  rw [Element.closed, List.reverse_reverse] at hend
  rw [List.append_assoc, List.flatMap_append, List.cons_append, List.cons_append,
    List.flatMap_cons, Charset.spelled_ascii hcharset (by decide), List.flatMap_append,
    List.singleton_append, List.cons_append, run_of_step hopen, List.append_assoc,
    run_of_run htext, run_of_run hrow]
  exact hend

end

/-- An element is read as a child of the innermost open one. -/
theorem run_chars (hcharset : charset ∈ Charset.common) (element : Element)
    (h : ∀ node ∈ element.subtree, node.Readable) (inner : Element) (outer : List Element) :
    run ⟨.content, inner, outer⟩ (element.chars.flatMap charset.spelled) =
      some ⟨.content, inner.adopt element, outer⟩ := by
  -- Children are read inside the element, which then is the innermost open one.
  induction element using Element.induction generalizing inner outer with
  | element element ih =>
    obtain ⟨hself, hchildren⟩ := Element.forall_subtree_iff.1 h
    obtain ⟨name, attributes, text, children, tail⟩ := element
    obtain ⟨place, hstart, hends⟩ :=
      run_startTag hcharset hself.name hself.attributes hself.nodup
    have htail := run_tailChars hcharset inner ⟨name, attributes, text, children, ""⟩ tail outer
    rw [Element.chars, List.append_assoc, List.flatMap_append, run_of_run hstart,
      List.flatMap_append]
    split
    · next hempty =>
      rw [Bool.and_eq_true, String.isEmpty_iff, List.isEmpty_iff] at hempty
      obtain ⟨rfl, rfl⟩ := hempty
      rw [run_of_run (run_emptyEnd hcharset hends)]
      exact htail
    · have hbody := run_content_endTag hcharset text hself.name hends
        fun child hchild => ih child hchild (hchildren child hchild)
      rw [run_of_run hbody]
      exact htail

end Reader

end WebCoverage.Xml
