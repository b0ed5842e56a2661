import Mathlib.Data.List.DropRight
import WebCoverage.Text.Separated

/-! Lists written with a separator of one character and read again. The texts that come back from a
list are those that stand for themselves in it (`Text.IsToken`): they are not empty, hold nothing
that ends an item, and have no blank at either end. Whatever text is read as a list, its items are
such texts, so they are read again as they are when they are written with separators between them
(`Text.separated?_intercalate`). -/

namespace WebCoverage.Text

variable {p : Char → Bool} {text first second : List Char} {separator : Char} {token : String}

/-! ## Trimming -/

private theorem dropWhile_of_prefix (h : first <+: second) (hsecond : second.dropWhile p = second) :
    first.dropWhile p = first := by
  obtain ⟨after, rfl⟩ := h
  cases first with
  | nil => rfl
  | cons c rest =>
    exact List.dropWhile_cons_of_neg (List.dropWhile_eq_self_iff.1 hsecond (Nat.zero_lt_succ _))

theorem trimWhere_trimWhere : trimWhere p (trimWhere p text) = trimWhere p text := by
  have hright : trimWhere p text = (text.dropWhile p).rdropWhile p := rfl
  have hleft : (trimWhere p text).dropWhile p = trimWhere p text :=
    dropWhile_of_prefix (List.rdropWhile_prefix ..) (List.dropWhile_idempotent ..)
  calc
    trimWhere p (trimWhere p text) = ((trimWhere p text).dropWhile p).rdropWhile p := rfl
    _ = ((text.dropWhile p).rdropWhile p).rdropWhile p := by rw [hleft, hright]
    _ = trimWhere p text := List.rdropWhile_idempotent ..

theorem mem_of_mem_trimWhere {c : Char} (h : c ∈ trimWhere p text) : c ∈ text :=
  (List.dropWhile_sublist p).subset ((List.rdropWhile_prefix p _).subset h)

private theorem dropWhile_eq_self_iff_head? :
    text.dropWhile p = text ↔ ∀ c ∈ text.head?, p c = false := by
  cases text with
  | nil => simp
  | cons c rest => simp [List.dropWhile_eq_self_iff]

/-- A text stays as it is if there is nothing to drop at either end. -/
theorem trimWhere_eq_self_iff :
    trimWhere p text = text ↔
      (∀ c ∈ text.head?, p c = false) ∧ ∀ c ∈ text.getLast?, p c = false := by
  have htrim : trimWhere p text = (text.dropWhile p).rdropWhile p := rfl
  have hreverse : text.rdropWhile p = text ↔ text.reverse.dropWhile p = text.reverse :=
    List.reverse_eq_iff
  rw [List.getLast?_eq_head?_reverse, ← dropWhile_eq_self_iff_head?, ← dropWhile_eq_self_iff_head?,
    ← hreverse, htrim]
  constructor
  · intro h
    have hleft : text.dropWhile p = text :=
      (List.dropWhile_suffix p).eq_of_length_le <| calc
        text.length = ((text.dropWhile p).rdropWhile p).length := by rw [h]
        _ ≤ (text.dropWhile p).length := (List.rdropWhile_prefix p _).length_le
    rw [hleft] at h
    exact ⟨hleft, h⟩
  · rintro ⟨hleft, hright⟩
    rw [hleft, hright]

theorem trimWhere_eq_self (h : ∀ c ∈ text, p c = false) : trimWhere p text = text :=
  trimWhere_eq_self_iff.2
    ⟨fun c hc => h c (List.mem_of_mem_head? hc), fun c hc => h c (List.mem_of_mem_getLast? hc)⟩

/-! ## Pieces -/

theorem not_mem_of_mem_splitOnP {α : Type} {p : α → Bool} {items piece : List α}
    (h : piece ∈ items.splitOnP p) : ∀ item ∈ piece, ¬p item := by
  induction items generalizing piece with
  | nil =>
    rw [List.splitOnP_nil, List.mem_singleton] at h
    exact h ▸ List.forall_mem_nil _
  | cons first rest ih =>
    rw [List.splitOnP_cons_eq_if_modifyHead] at h
    split at h
    · obtain rfl | h := List.mem_cons.1 h
      · exact List.forall_mem_nil _
      · exact ih h
    · next hfirst =>
      obtain ⟨head, tail, hsplit⟩ := List.exists_cons_of_ne_nil (List.splitOnP_ne_nil p rest)
      rw [hsplit, List.modifyHead_cons] at h
      rw [hsplit] at ih
      obtain rfl | h := List.mem_cons.1 h
      · exact List.forall_mem_cons.2 ⟨hfirst, ih List.mem_cons_self⟩
      · exact ih (List.mem_cons_of_mem _ h)

/-- What is read of texts with separators between them is what is read of each of them, if a
separator ends what comes before it. -/
theorem read_intercalate {β : Type} {read : List Char → List β} {separator : Char}
    (hnil : read [] = [])
    (happend : ∀ first second, read (first ++ separator :: second) = read first ++ read second)
    (texts : List (List Char)) : read ([separator].intercalate texts) = texts.flatMap read := by
  induction texts with
  | nil => exact hnil
  | cons first rest ih =>
    cases rest with
    | nil => simp
    | cons second rest =>
      rw [List.intercalate_cons_cons, List.append_assoc, List.singleton_append, happend, ih,
        ← List.flatMap_cons]

/-! ## Tokens -/

/-- What ends an item of a list: the separator, and every blank if the separator is a space. -/
def endsItem (separator c : Char) : Bool :=
  if separator = ' ' then isBlank c else c = separator

/-- A text that stands for itself in a list. -/
structure IsToken (separator : Char) (token : String) : Prop where
  nonempty : token ≠ ""
  unbroken : ∀ c ∈ token.toList, endsItem separator c = false
  /-- There is no blank at the start. -/
  start : ∀ c ∈ token.toList.head?, isBlank c = false
  /-- There is no blank at the end. -/
  finish : ∀ c ∈ token.toList.getLast?, isBlank c = false

theorem IsToken.trim_eq (h : IsToken separator token) : trim token.toList = token.toList :=
  trimWhere_eq_self_iff.2 ⟨h.start, h.finish⟩

/-- The items of a list written with a separator of one character. -/
def tokens (separator : Char) (text : String) : List String :=
  (items [separator] text.toList).map String.ofList

theorem endsItem_self (separator : Char) : endsItem separator separator = true := by
  unfold endsItem
  split
  · next hspace =>
    subst hspace
    decide
  · exact decide_eq_true rfl

/-- Words are no exception: between blanks there is nothing to trim. -/
theorem items_singleton (separator : Char) (text : List Char) :
    items [separator] text =
      ((text.splitOnP (endsItem separator)).map trim).filter (!·.isEmpty) := by
  by_cases hspace : separator = ' '
  · subst hspace
    have hends : endsItem ' ' = isBlank := rfl
    have hsolid : ∀ piece ∈ text.splitOnP isBlank, trim piece = id piece := fun piece hpiece =>
      trimWhere_eq_self fun c hc => Bool.eq_false_iff.2 (not_mem_of_mem_splitOnP hpiece c hc)
    have htrim : (text.splitOnP isBlank).map trim = text.splitOnP isBlank := by
      rw [List.map_congr_left hsolid, List.map_id]
    rw [hends, htrim]
    rfl
  · have hends : endsItem separator = fun c => decide (c = separator) :=
      funext fun _ => if_neg hspace
    have hother : [separator] ≠ [' '] := fun h => hspace (List.singleton_inj.1 h)
    rw [items, if_neg hother, splitFrom_singleton, hends]

theorem isToken_of_mem_tokens {text : String} (h : token ∈ tokens separator text) :
    IsToken separator token := by
  rw [tokens, items_singleton] at h
  obtain ⟨_, hmem, rfl⟩ := List.mem_map.1 h
  obtain ⟨hmem, hnonempty⟩ := List.mem_filter.1 hmem
  obtain ⟨piece, hpiece, rfl⟩ := List.mem_map.1 hmem
  obtain ⟨hstart, hfinish⟩ := trimWhere_eq_self_iff.1 (trimWhere_trimWhere (p := isBlank))
  refine ⟨?_, ?_, ?_, ?_⟩
  · intro hempty
    simp_all
  · rw [String.toList_ofList]
    intro c hc
    exact Bool.eq_false_iff.2 (not_mem_of_mem_splitOnP hpiece c (mem_of_mem_trimWhere hc))
  · rwa [String.toList_ofList]
  · rwa [String.toList_ofList]

theorem tokens_of_isToken (h : IsToken separator token) : tokens separator token = [token] := by
  have hnonempty : token.toList.isEmpty = false := by
    simpa using h.nonempty
  rw [tokens, items_singleton, List.splitOnP_eq_singleton h.unbroken, List.map_singleton, h.trim_eq]
  simp [hnonempty]

private theorem items_append_cons (separator : Char) (first second : List Char) :
    items [separator] (first ++ separator :: second) =
      items [separator] first ++ items [separator] second := by
  simp only [items_singleton]
  rw [List.splitOnP_append_cons first second (endsItem_self separator), List.map_append,
    List.filter_append]

theorem tokens_intercalate (separator : Char) (texts : List String) :
    tokens separator ((String.singleton separator).intercalate texts) =
      texts.flatMap (tokens separator) := by
  have hnil : items [separator] [] = [] := by
    rw [items_singleton]
    rfl
  rw [tokens, String.toList_intercalate, String.toList_singleton,
    read_intercalate hnil (items_append_cons separator), List.flatMap_map, List.map_flatMap]
  rfl

theorem flatMap_tokens_of_isToken {texts : List String} (h : ∀ text ∈ texts, IsToken separator text) :
    texts.flatMap (tokens separator) = texts := by
  rw [List.flatMap_congr fun text htext => tokens_of_isToken (h text htext), List.flatMap_singleton']

/-- At a separator of one character every text can be split, an empty one too. -/
theorem separated?_singleton (separator : Char) (text : String) :
    separated? (String.singleton separator) text = some (tokens separator text) := by
  by_cases htext : text = ""
  · subst htext
    have hnil : tokens separator "" = [] := tokens_intercalate separator []
    rw [hnil]
    rfl
  · have hmark : (String.singleton separator).isEmpty = false := by
      simp
    have htext' : text.isEmpty = false := by
      simpa using htext
    rw [separated?, hmark, htext', String.toList_singleton]
    rfl

/-- The texts that come back from a list are the tokens. The items of any text are tokens, so they
are read again as they are. Lists with commas and lists of words are two of these lists. -/
theorem separated?_intercalate :
    (∀ separator : Char,
      let mark := String.singleton separator
      (∀ texts : List String, separated? mark (mark.intercalate texts) = some texts ↔
          ∀ text ∈ texts, IsToken separator text) ∧
        ∀ text, ∃ items, separated? mark text = some items ∧
          separated? mark (mark.intercalate items) = some items ∧
          ∀ item ∈ items, IsToken separator item) ∧
      ∀ text, separated? "," text = some (commaList text) ∧
        separated? " " text = some (wordList text) := by
  refine ⟨fun separator => ?_, fun text => ⟨?_, ?_⟩⟩
  · have hback {texts : List String} (h : ∀ text ∈ texts, IsToken separator text) :
        tokens separator ((String.singleton separator).intercalate texts) = texts := by
      rw [tokens_intercalate, flatMap_tokens_of_isToken h]
    simp only [separated?_singleton, Option.some_inj]
    refine ⟨fun texts => ⟨fun h text htext => ?_, hback⟩, fun text => ?_⟩
    · rw [← h] at htext
      exact isToken_of_mem_tokens htext
    · have hitems : ∀ item ∈ tokens separator text, IsToken separator item :=
        fun _ hitem => isToken_of_mem_tokens hitem
      exact ⟨_, rfl, hback hitems, hitems⟩
  · exact separated?_singleton ',' text
  · exact separated?_singleton ' ' text

example : separated? "\t" " a b \t\t c\t" = some ["a b", "c"] := by decide

end WebCoverage.Text
