import WebCoverage.Coverage.Parts
import WebCoverage.Proofs.Text.CommaList
import WebCoverage.Proofs.Text.Decoding

/-! Streams of parts, written and taken apart. The reader finds the parts that were written if each
of them is framed: its fields are lines of their own and no line of what it carries is taken for one
between parts (`Multipart.read?_write_iff`). -/

namespace WebCoverage.Multipart

open Text.Charset

variable {boundary : String} {part : Part} {parts : List Part} {content first second : Bytes}
  {field : String × String} {text : String}

/-! ## Texts as bytes -/

/-- The first code points have one byte each. -/
theorem toByte_injective {c d : Char} (hc : c.toNat < 0x100) (hd : d.toNat < 0x100)
    (h : toByte c = toByte d) : c = d := by
  rw [← ofNat_toByte hc, ← ofNat_toByte hd, h]

theorem textBytes_append (text more : String) :
    textBytes (text ++ more) = textBytes text ++ textBytes more := by
  rw [textBytes, String.toList_append, List.map_append]
  rfl

theorem bytesText_textBytes (h : ∀ c ∈ text.toList, c.toNat < 0x100) :
    bytesText (textBytes text) = text := by
  have hback : (text.toList.map toByte).map (fun byte => Char.ofNat byte.toNat) = text.toList := by
    rw [List.map_map]
    exact (List.map_congr_left fun c hc => ofNat_toByte (h c hc)).trans (List.map_id _)
  change String.ofList ((text.toList.map toByte).map _) = text
  rw [hback, String.ofList_toList]

theorem toByte_mem_textBytes_iff {c : Char} (hc : c.toNat < 0x100)
    (h : ∀ d ∈ text.toList, d.toNat < 0x100) : toByte c ∈ textBytes text ↔ c ∈ text.toList := by
  refine ⟨fun hmem => ?_, fun hmem => List.mem_map_of_mem hmem⟩
  obtain ⟨d, hd, heq⟩ := List.mem_map.1 hmem
  exact toByte_injective (h d hd) hc heq ▸ hd

theorem toNat_lt_of_mem_bytesText {c : Char} (h : c ∈ (bytesText content).toList) :
    c.toNat < 0x100 ∧ toByte c ∈ content := by
  rw [bytesText, String.toList_ofList] at h
  obtain ⟨byte, hbyte, rfl⟩ := List.mem_map.1 h
  have hvalid : byte.toNat.isValidChar := .inl (Nat.lt_trans byte.toNat_lt (by decide))
  have hnat : (Char.ofNat byte.toNat).toNat = byte.toNat := by
    rw [Char.ofNat, dif_pos hvalid]
    rfl
  rw [toByte, hnat, UInt8.ofNat_toNat]
  exact ⟨byte.toNat_lt, hbyte⟩

/-! ## Lines -/

theorem lines_append_cons (first second : Bytes) :
    lines (first ++ 10 :: second) = lines first ++ lines second :=
  List.splitOn_append_cons_self first second

theorem lines_of_not_mem (h : 10 ∉ content) : lines content = [content] :=
  List.splitOn_eq_singleton h

theorem not_mem_of_mem_lines {line : Bytes} (h : line ∈ lines content) : 10 ∉ line := by
  intro hmem
  exact Text.not_mem_of_mem_splitOnP h 10 hmem (beq_self_eq_true _)

/-- Lines joined together are found again, if there are any. -/
theorem mem_lines_intercalate {rows : List Bytes} (h : ∀ row ∈ rows, 10 ∉ row) {line : Bytes}
    (hline : line ∈ lines ([10].intercalate rows)) : line = [] ∨ line ∈ rows := by
  by_cases hrows : rows = []
  · subst hrows
    exact .inl (List.mem_singleton.1 hline)
  · rw [lines, List.splitOn_intercalate 10 h hrows] at hline
    exact .inr hline

theorem mem_of_mem_splitOnP {α : Type} {p : α → Bool} {items piece : List α} {item : α}
    (hpiece : piece ∈ items.splitOnP p) (hitem : item ∈ piece) : item ∈ items := by
  induction items generalizing piece with
  | nil => exact (List.mem_singleton.1 hpiece ▸ hitem :)
  | cons first rest ih =>
    rw [List.splitOnP_cons_eq_if_modifyHead] at hpiece
    split at hpiece
    · rcases List.mem_cons.1 hpiece with rfl | hpiece
      · cases hitem
      · exact List.mem_cons_of_mem _ (ih hpiece hitem)
    · obtain ⟨head, tail, hsplit⟩ := List.exists_cons_of_ne_nil (List.splitOnP_ne_nil p rest)
      rw [hsplit, List.modifyHead_cons] at hpiece
      rw [hsplit] at ih
      rcases List.mem_cons.1 hpiece with rfl | hpiece
      · rcases List.mem_cons.1 hitem with rfl | hitem
        · exact List.mem_cons_self
        · exact List.mem_cons_of_mem _ (ih List.mem_cons_self hitem)
      · exact List.mem_cons_of_mem _ (ih (List.mem_cons_of_mem _ hpiece) hitem)

/-! ## Framed parts -/

/-- A field that is one line, of which the name ends at the first colon. -/
structure IsField (field : String × String) : Prop where
  name : ∀ c ∈ field.1.toList, c.toNat < 0x100 ∧ c ≠ '\n' ∧ c ≠ ':'
  value : ∀ c ∈ field.2.toList, c.toNat < 0x100 ∧ c ≠ '\n'

instance (field : String × String) : Decidable (IsField field) :=
  have : Decidable (∀ c ∈ field.1.toList, c.toNat < 0x100 ∧ c ≠ '\n' ∧ c ≠ ':') :=
    List.decidableBAll _ field.1.toList
  have : Decidable (∀ c ∈ field.2.toList, c.toNat < 0x100 ∧ c ≠ '\n') :=
    List.decidableBAll _ field.2.toList
  decidable_of_iff (_ ∧ _) ⟨fun h => ⟨h.1, h.2⟩, fun h => ⟨h.name, h.value⟩⟩

/-- No line of the content is one that stands between parts. -/
def Clear (boundary : String) (content : Bytes) : Prop :=
  ∀ line ∈ lines content, line ≠ delimiter boundary ∧ line ≠ closeDelimiter boundary

structure Part.Framed (boundary : String) (part : Part) : Prop where
  headers : ∀ field ∈ part.headers, IsField field
  payload : Clear boundary part.payload

/-- A boundary is in one line and holds no colon. -/
def IsBoundary (boundary : String) : Prop :=
  ∀ c ∈ boundary.toList, c.toNat < 0x100 ∧ c ≠ '\n' ∧ c ≠ ':'

instance (boundary : String) : Decidable (IsBoundary boundary) :=
  List.decidableBAll (fun c : Char => c.toNat < 0x100 ∧ c ≠ '\n' ∧ c ≠ ':') boundary.toList

theorem delimiter_ne_nil : delimiter boundary ≠ [] := by
  simp [delimiter, textBytes]

theorem closeDelimiter_ne_nil : closeDelimiter boundary ≠ [] := by
  simp [closeDelimiter, textBytes]

/-! ## What is read is framed -/

theorem isField_fieldOfLine {line : Bytes} (h : 10 ∉ line) : IsField (fieldOfLine line) := by
  have hend {c : Char} (hc : toByte c ∈ line) : c ≠ '\n' := by
    rintro rfl
    exact h hc
  constructor
  · intro c hc
    obtain ⟨hlt, hmem⟩ := toNat_lt_of_mem_bytesText hc
    refine ⟨hlt, hend ((List.takeWhile_sublist _).subset hmem), ?_⟩
    rintro rfl
    have hcolon := List.mem_takeWhile_imp hmem
    revert hcolon
    decide
  · intro c hc
    obtain ⟨hlt, hmem⟩ := toNat_lt_of_mem_bytesText hc
    refine ⟨hlt, hend ?_⟩
    have hrest : toByte c ∈ (line.dropWhile (· ≠ 58)).tail := by
      split at hmem
      · exact List.mem_of_mem_tail hmem
      · exact hmem
    exact (List.dropWhile_sublist _).subset (List.mem_of_mem_tail hrest)

theorem framed_ofLines {rows : List Bytes} (hlines : ∀ row ∈ rows, 10 ∉ row)
    (hclear : ∀ row ∈ rows, row ≠ delimiter boundary ∧ row ≠ closeDelimiter boundary) :
    (Part.ofLines rows).Framed boundary := by
  constructor
  · intro field hfield
    obtain ⟨line, hline, rfl⟩ := List.mem_map.1 hfield
    exact isField_fieldOfLine (hlines line ((List.takeWhile_sublist _).subset hline))
  · have hsub : ∀ row ∈ (rows.dropWhile (!·.isEmpty)).tail, row ∈ rows := fun row hrow =>
      (List.dropWhile_sublist _).subset (List.mem_of_mem_tail hrow)
    intro line hline
    rcases mem_lines_intercalate (fun row hrow => hlines row (hsub row hrow)) hline with rfl | hline
    · exact ⟨delimiter_ne_nil.symm, closeDelimiter_ne_nil.symm⟩
    · exact hclear line (hsub line hline)

theorem framed_of_read? {stream : Bytes} (h : read? boundary stream = some parts) :
    ∀ part ∈ parts, part.Framed boundary := by
  unfold read? at h
  dsimp only at h
  split at h
  · cases h
    intro part hpart
    obtain ⟨rows, hrows, rfl⟩ := List.mem_map.1 hpart
    have hgroup := List.mem_of_mem_tail hrows
    have hkept : ∀ row ∈ rows, row ∈ (lines stream).takeWhile (· ≠ closeDelimiter boundary) :=
      fun row hrow => mem_of_mem_splitOnP hgroup hrow
    refine framed_ofLines (fun row hrow => ?_) (fun row hrow => ⟨?_, ?_⟩)
    · exact not_mem_of_mem_lines ((List.takeWhile_sublist _).subset (hkept row hrow))
    · rintro rfl
      exact Text.not_mem_of_mem_splitOnP hgroup _ hrow (beq_self_eq_true _)
    · simpa using List.mem_takeWhile_imp (hkept row hrow)
  · cases h

/-! ## What is framed is read -/

theorem not_mem_textBytes (h : ∀ c ∈ text.toList, c.toNat < 0x100 ∧ c ≠ '\n') :
    10 ∉ textBytes text := fun hmem =>
  have hend : toByte '\n' ∈ textBytes text := hmem
  (h _ ((toByte_mem_textBytes_iff (by decide) fun d hd => (h d hd).1).1 hend)).2 rfl

theorem lineOfField_eq (field : String × String) :
    lineOfField field = textBytes field.1 ++ 58 :: 32 :: textBytes field.2 := by
  have hcolon : ": ".toList.map (fun c => UInt8.ofNat c.toNat) = [58, 32] := by decide
  rw [lineOfField, textBytes, String.toList_append, String.toList_append, List.map_append,
    List.map_append, hcolon, List.append_assoc]
  rfl

theorem not_mem_lineOfField (h : IsField field) : 10 ∉ lineOfField field := by
  rw [lineOfField_eq, List.mem_append, List.mem_cons, List.mem_cons]
  rintro (hname | hcolon | hspace | hvalue)
  · exact not_mem_textBytes (fun c hc => ⟨(h.name c hc).1, (h.name c hc).2.1⟩) hname
  · exact absurd hcolon (by decide)
  · exact absurd hspace (by decide)
  · exact not_mem_textBytes h.value hvalue

theorem fieldOfLine_lineOfField (h : IsField field) : fieldOfLine (lineOfField field) = field := by
  have hlt : ∀ c ∈ field.1.toList, c.toNat < 0x100 := fun c hc => (h.name c hc).1
  have hname : ∀ byte ∈ textBytes field.1, decide (byte ≠ 58) = true := by
    intro byte hbyte
    refine decide_eq_true ?_
    rintro rfl
    have hcolon : toByte ':' ∈ textBytes field.1 := hbyte
    exact (h.name _ ((toByte_mem_textBytes_iff (by decide) hlt).1 hcolon)).2.2 rfl
  unfold fieldOfLine
  rw [lineOfField_eq, List.takeWhile_append_of_pos hname, List.dropWhile_append_of_pos hname]
  simp [bytesText_textBytes hlt, bytesText_textBytes fun c hc => (h.value c hc).1]

/-! ## Streams -/

def Part.lines (part : Part) : List Bytes :=
  part.headers.map lineOfField ++ [] :: Multipart.lines part.payload

theorem lines_bytes (h : ∀ field ∈ part.headers, IsField field) :
    lines part.bytes = part.lines := by
  obtain ⟨headers, payload⟩ := part
  unfold Part.bytes Part.lines
  dsimp only at h ⊢
  induction headers with
  | nil => exact lines_append_cons [] payload
  | cons field rest ih =>
    obtain ⟨hfield, hrest⟩ := List.forall_mem_cons.1 h
    rw [List.flatMap_cons, List.append_assoc, List.append_assoc, List.singleton_append,
      lines_append_cons, lines_of_not_mem (not_mem_lineOfField hfield), ih hrest]
    rfl

theorem ofLines_lines (h : ∀ field ∈ part.headers, IsField field) :
    Part.ofLines part.lines = part := by
  have hfilled : ∀ line ∈ part.headers.map lineOfField, (!line.isEmpty) = true := by
    rintro _ hline
    obtain ⟨field, -, rfl⟩ := List.mem_map.1 hline
    simp [lineOfField_eq]
  have hfields : (part.headers.map lineOfField).map fieldOfLine = part.headers := by
    rw [List.map_map]
    exact (List.map_congr_left fun field hfield =>
      fieldOfLine_lineOfField (h field hfield)).trans (List.map_id _)
  unfold Part.ofLines Part.lines
  rw [List.takeWhile_append_of_pos hfilled, List.dropWhile_append_of_pos hfilled]
  simp [hfields, Multipart.lines]

section

variable (hboundary : IsBoundary boundary)

include hboundary

/-- The lines between parts are lines without a colon. -/
theorem not_mem_delimiter {c : Char} (hc : c ∈ ['\n', ':']) :
    toByte c ∉ delimiter boundary ∧ toByte c ∉ closeDelimiter boundary := by
  have hdash : ∀ d ∈ "--".toList, d.toNat < 0x100 ∧ d ∉ ['\n', ':'] := by simp
  have hchars : ∀ d ∈ boundary.toList, d.toNat < 0x100 ∧ d ∉ ['\n', ':'] := fun d hd => by
    simpa using hboundary d hd
  have hascii : c.toNat < 0x100 := by
    rcases List.mem_pair.1 hc with rfl | rfl <;> decide
  have hmarked : ∀ d ∈ ("--" ++ boundary).toList, d.toNat < 0x100 ∧ d ∉ ['\n', ':'] := by
    rw [String.toList_append]
    exact List.forall_mem_append.2 ⟨hdash, hchars⟩
  have hclosed : ∀ d ∈ ("--" ++ boundary ++ "--").toList, d.toNat < 0x100 ∧ d ∉ ['\n', ':'] := by
    rw [String.toList_append]
    exact List.forall_mem_append.2 ⟨hmarked, hdash⟩
  constructor
  · intro hmem
    exact (hmarked c ((toByte_mem_textBytes_iff hascii fun d hd => (hmarked d hd).1).1 hmem)).2 hc
  · intro hmem
    exact (hclosed c ((toByte_mem_textBytes_iff hascii fun d hd => (hclosed d hd).1).1 hmem)).2 hc

theorem Part.Framed.lines_ne (h : part.Framed boundary) :
    ∀ line ∈ part.lines, line ≠ delimiter boundary ∧ line ≠ closeDelimiter boundary := by
  intro line hline
  rcases List.mem_append.1 hline with hline | hline
  · -- A field has a colon, which the lines between parts have not.
    obtain ⟨field, -, rfl⟩ := List.mem_map.1 hline
    have hcolon : toByte ':' ∈ lineOfField field := by
      rw [lineOfField_eq]
      exact List.mem_append_right _ List.mem_cons_self
    obtain ⟨hdelimiter, hclose⟩ := not_mem_delimiter hboundary (c := ':') (by decide)
    exact ⟨fun heq => hdelimiter (heq ▸ hcolon), fun heq => hclose (heq ▸ hcolon)⟩
  · rcases List.mem_cons.1 hline with rfl | hline
    · exact ⟨delimiter_ne_nil.symm, closeDelimiter_ne_nil.symm⟩
    · exact h.payload line hline

theorem lines_write (h : ∀ part ∈ parts, part.Framed boundary) :
    lines (write boundary parts) =
      parts.flatMap (fun part => delimiter boundary :: part.lines) ++
        [closeDelimiter boundary, []] := by
  obtain ⟨hdelimiter, hclose⟩ := not_mem_delimiter hboundary (c := '\n') (by decide)
  unfold write
  induction parts with
  | nil => exact (lines_append_cons _ []).trans (congrArg (· ++ [[]]) (lines_of_not_mem hclose))
  | cons part rest ih =>
    obtain ⟨hpart, hrest⟩ := List.forall_mem_cons.1 h
    rw [List.flatMap_cons, List.flatMap_cons]
    simp only [List.append_assoc, List.cons_append, List.nil_append] at ih ⊢
    rw [lines_append_cons, lines_of_not_mem hdelimiter, lines_append_cons,
      lines_bytes hpart.headers, ih hrest]
    rfl

end

theorem delimiter_ne_closeDelimiter : delimiter boundary ≠ closeDelimiter boundary := by
  intro heq
  have hlength := congrArg List.length heq
  simp [delimiter, closeDelimiter, textBytes] at hlength

/-- Groups that follow a separator each are found between the separators. -/
theorem splitOn_flatMap_cons {α β : Type} [BEq α] [LawfulBEq α] {separator : α}
    {group : β → List α} {items : List β} (h : ∀ item ∈ items, separator ∉ group item)
    {before : List α} (hbefore : separator ∉ before) :
    (before ++ items.flatMap fun item => separator :: group item).splitOn separator =
      before :: items.map group := by
  induction items generalizing before with
  | nil =>
    rw [List.flatMap_nil, List.append_nil]
    exact List.splitOn_eq_singleton hbefore
  | cons item rest ih =>
    obtain ⟨hitem, hrest⟩ := List.forall_mem_cons.1 h
    rw [List.flatMap_cons, List.cons_append,
      List.splitOn_append_cons_self_of_not_mem hbefore, ih hrest hitem, List.map_cons]

/-- What was written is found if all of it is framed. -/
theorem read?_write_iff (hboundary : IsBoundary boundary) :
    read? boundary (write boundary parts) = some parts ↔
      ∀ part ∈ parts, part.Framed boundary := by
  refine ⟨framed_of_read?, fun h => ?_⟩
  let rows := parts.flatMap fun part => delimiter boundary :: part.lines
  have hlines : lines (write boundary parts) = rows ++ [closeDelimiter boundary, []] :=
    lines_write hboundary h
  have hkept : ∀ row ∈ rows, decide (row ≠ closeDelimiter boundary) = true := by
    intro row hrow
    obtain ⟨part, hpart, hrow⟩ := List.mem_flatMap.1 hrow
    rcases List.mem_cons.1 hrow with rfl | hrow
    · exact decide_eq_true delimiter_ne_closeDelimiter
    · exact decide_eq_true ((h part hpart).lines_ne hboundary row hrow).2
  have hgroups : rows.splitOn (delimiter boundary) = [] :: parts.map Part.lines :=
    splitOn_flatMap_cons
      (fun part hpart hmem => ((h part hpart).lines_ne hboundary _ hmem).1 rfl) List.not_mem_nil
  have hread : (parts.map Part.lines).map Part.ofLines = parts := by
    rw [List.map_map]
    exact (List.map_congr_left fun part hpart => ofLines_lines (h part hpart).headers).trans
      (List.map_id _)
  unfold read?
  dsimp only
  rw [hlines, if_pos (List.mem_append_right _ List.mem_cons_self),
    List.takeWhile_append_of_pos hkept, List.takeWhile_cons_of_neg (by simp), List.append_nil,
    hgroups, List.tail_cons, hread]

end WebCoverage.Multipart
