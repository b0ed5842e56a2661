import Mathlib.Data.List.TakeWhile
import WebCoverage.ServiceUrl

/-! Where the URL of a service comes from, and whether query parameters can be appended to it. The
URL ends in a question mark or an ampersand, but an ampersand at its end is taken for the end of a
query whether there is one or not, so what is appended belongs to the query unless such a URL has
no question mark (`ServiceUrl.appendable_iff`). Fragments are left aside: the first question mark
begins the query, also where a number sign stands before it. -/

namespace WebCoverage.ServiceUrl

variable {map : MapDefinition} {origin : Option Origin} {url : String}

/-! ## Queries -/

/-- What follows the first question mark of a URL, which is taken to have no fragment. -/
def query? (url : String) : Option String :=
  match url.toList.dropWhile (· ≠ '?') with
  | [] => none
  | _ :: query => some (String.ofList query)

/-- Whatever is appended to the URL comes to stand at the end of its query. -/
def IsAppendable (url : String) : Prop :=
  ∃ query, ∀ text, query? (url ++ text) = some (query ++ text)

theorem query?_of_not_mem (h : '?' ∉ url.toList) : query? url = none := by
  have hall : url.toList.dropWhile (· ≠ '?') = [] := by
    rw [List.dropWhile_eq_nil_iff]
    intro c hc
    apply decide_eq_true
    rintro rfl
    exact h hc
  rw [query?, hall]

theorem query?_of_split {before after : List Char} (hbefore : '?' ∉ before)
    (h : url.toList = before ++ '?' :: after) : query? url = some (String.ofList after) := by
  have hdrop : (before ++ '?' :: after).dropWhile (· ≠ '?') = '?' :: after := by
    rw [List.dropWhile_append_of_pos]
    · rfl
    · intro c hc
      apply decide_eq_true
      rintro rfl
      exact hbefore hc
  rw [query?, h, hdrop]

theorem isAppendable_iff : IsAppendable url ↔ '?' ∈ url.toList := by
  constructor
  · rintro ⟨query, hquery⟩
    by_contra hnone
    have hempty := hquery ""
    rw [String.append_empty, query?_of_not_mem hnone] at hempty
    cases hempty
  · intro hmem
    obtain ⟨before, after, hsplit, hbefore⟩ := List.eq_append_cons_of_mem hmem
    refine ⟨String.ofList after, fun text => ?_⟩
    have htext : (url ++ text).toList = before ++ '?' :: (after ++ text.toList) := by
      rw [String.toList_append, hsplit, List.append_assoc, List.cons_append]
    rw [query?_of_split hbefore htext, String.ofList_append, String.ofList_toList]

/-! ## Ends of URLs -/

/-- The URL ends where a parameter can begin. -/
def IsTerminated (url : String) : Prop :=
  url.toList.getLast? = some '?' ∨ url.toList.getLast? = some '&'

/-- The URL ends like one with a query, and has none. -/
def IsMisleading (url : String) : Prop :=
  url.toList.getLast? = some '&' ∧ '?' ∉ url.toList

/-- A URL is left alone or gets the sign that begins or continues its query. -/
theorem terminate_cases (url : String) :
    IsTerminated url ∧ terminate url = url ∨
      ¬IsTerminated url ∧ '?' ∈ url.toList ∧ terminate url = url ++ "&" ∨
      ¬IsTerminated url ∧ '?' ∉ url.toList ∧ terminate url = url ++ "?" := by
  by_cases hend : IsTerminated url
  · exact .inl ⟨hend, if_pos hend⟩
  · have hsign : terminate url = url ++ (if url.toList.contains '?' then "&" else "?") :=
      if_neg hend
    by_cases hquery : '?' ∈ url.toList
    · rw [if_pos (List.contains_iff_mem.2 hquery)] at hsign
      exact .inr (.inl ⟨hend, hquery, hsign⟩)
    · rw [if_neg (mt List.contains_iff_mem.1 hquery)] at hsign
      exact .inr (.inr ⟨hend, hquery, hsign⟩)

theorem prefix_terminate (url : String) : url.toList <+: (terminate url).toList := by
  rcases terminate_cases url with ⟨-, h⟩ | ⟨-, -, h⟩ | ⟨-, -, h⟩
  · exact ⟨[], by rw [List.append_nil, h]⟩
  · rw [h, String.toList_append]
    exact List.prefix_append _ _
  · rw [h, String.toList_append]
    exact List.prefix_append _ _

theorem isTerminated_terminate (url : String) : IsTerminated (terminate url) := by
  rcases terminate_cases url with ⟨hend, h⟩ | ⟨-, -, h⟩ | ⟨-, -, h⟩
  · rw [h]
    exact hend
  · rw [h, IsTerminated, String.toList_append]
    exact .inr List.getLast?_concat
  · rw [h, IsTerminated, String.toList_append]
    exact .inl List.getLast?_concat

theorem terminate_of_isTerminated (h : IsTerminated url) : terminate url = url :=
  if_pos h

/-- A URL that ends in an ampersand is left alone, so it has a question mark only if it had one. -/
theorem mem_terminate_iff (url : String) : '?' ∈ (terminate url).toList ↔ ¬IsMisleading url := by
  rcases terminate_cases url with ⟨hend, h⟩ | ⟨-, hquery, h⟩ | ⟨hend, -, h⟩
  · rw [h, IsMisleading, not_and_not_right]
    refine ⟨fun hmem _ => hmem, fun hquery => ?_⟩
    rcases hend with hend | hend
    · exact List.mem_of_getLast? hend
    · exact hquery hend
  · rw [h, String.toList_append]
    exact iff_of_true (List.mem_append_left _ hquery) fun hmisleading => hmisleading.2 hquery
  · rw [h, String.toList_append]
    refine iff_of_true (List.mem_append_right _ List.mem_cons_self) fun hmisleading => ?_
    exact hend (.inr hmisleading.1)

/-! ## Sources -/

/-- How the port of a request is written. Zero stands for none. -/
inductive WritesPort (usual : Int) : Option Int → String → Prop
  | none : WritesPort usual none ""
  | zero : WritesPort usual (some 0) ""
  | usual : WritesPort usual (some usual) ""
  | other {port : Int} : port ≠ 0 → port ≠ usual →
      WritesPort usual (some port) (":" ++ toString port)

/-- How the name of a script is written as a path. -/
inductive WritesPath : String → String → Prop
  | root : WritesPath "" "/"
  | rooted {script : String} : script.toList.head? = some '/' → WritesPath script script
  | relative {script : String} : script ≠ "" → script.toList.head? ≠ some '/' →
      WritesPath script ("/" ++ script)

/-- The URL is put together from the parts of a request. -/
inductive Rebuilt (origin : Origin) (host : String) : String → Prop
  | plain {port path : String} : origin.secure = false → WritesPort 80 origin.port port →
      WritesPath origin.script path → Rebuilt origin host ("http://" ++ host ++ port ++ path)
  | secure {port path : String} : origin.secure = true → WritesPort 443 origin.port port →
      WritesPath origin.script path → Rebuilt origin host ("https://" ++ host ++ port ++ path)

/-- The URL before it is terminated: the configured one, or else one that is rebuilt from the
request. -/
inductive Source (map : MapDefinition) (origin : Option Origin) : String → Prop
  | configured {url : String} : map.metadata.find? "onlineresource" = some url → url ≠ "" →
      Source map origin url
  | rebuilt {request : Origin} {host url : String} :
      (∀ configured, map.metadata.find? "onlineresource" = some configured → configured = "") →
      origin = some request → request.host = some host → host ≠ "" → Rebuilt request host url →
      Source map origin url

theorem writesPort_iff {usual : Int} {port : Option Int} {text : String} :
    WritesPort usual port text ↔ text = match port with
      | some port => if port ≠ 0 ∧ port ≠ usual then s!":{port}" else ""
      | none => "" := by
  constructor
  · intro h
    cases h with
    | none => rfl
    | zero => rfl
    | usual => exact (if_neg fun h => h.2 rfl).symm
    | other hzero husual => exact (if_pos ⟨hzero, husual⟩).symm
  · rintro rfl
    cases port with
    | none => exact .none
    | some port =>
      dsimp only
      split
      · next h => exact .other h.1 h.2
      · next h =>
        rcases not_and_or.1 h with h | h
        · cases not_not.1 h
          exact .zero
        · cases not_not.1 h
          exact .usual

theorem writesPath_iff {script path : String} :
    WritesPath script path ↔ path =
      let script := if script.isEmpty then "/" else script
      if script.toList.head? = some '/' then script else "/" ++ script := by
  constructor
  · intro h
    cases h with
    | root => rfl
    | rooted h =>
      have hnonempty : ¬script.isEmpty := by
        intro hempty
        rw [String.isEmpty_iff.1 hempty] at h
        cases h
      rw [if_neg hnonempty, if_pos h]
    | relative hnonempty h => rw [if_neg (mt String.isEmpty_iff.1 hnonempty), if_neg h]
  · rintro rfl
    by_cases hempty : script = ""
    · subst hempty
      exact .root
    · rw [if_neg (mt String.isEmpty_iff.1 hempty)]
      dsimp only
      split
      · next h => exact .rooted h
      · next h => exact .relative hempty h

theorem rebuilt_iff {origin : Origin} {host url : String} :
    Rebuilt origin host url ↔ url = ofOrigin origin host := by
  unfold ofOrigin
  constructor
  · intro h
    cases h with
    | plain hsecure hport hpath | secure hsecure hport hpath =>
      rw [hsecure, writesPort_iff.1 hport, writesPath_iff.1 hpath]
      rfl
  · rintro rfl
    cases hsecure : origin.secure with
    | false => exact .plain hsecure (writesPort_iff.2 rfl) (writesPath_iff.2 rfl)
    | true => exact .secure hsecure (writesPort_iff.2 rfl) (writesPath_iff.2 rfl)

theorem ofMap?_of_configured {configured : String}
    (h : map.metadata.filled? "onlineresource" = some configured) :
    ofMap? map origin = some (terminate configured) := by
  unfold ofMap?
  rw [h]

theorem ofMap?_of_unconfigured (h : map.metadata.filled? "onlineresource" = none) :
    ofMap? map origin = some url ↔ ∃ request host, origin = some request ∧
      request.host = some host ∧ host ≠ "" ∧ url = terminate (ofOrigin request host) := by
  unfold ofMap?
  rw [h]
  simp only [Option.bind_eq_bind, Option.bind_eq_some_iff, Option.filter_eq_some_iff]
  constructor
  · rintro ⟨request, horigin, host, ⟨hhost, hnonempty⟩, hurl⟩
    cases hurl
    exact ⟨request, host, horigin, hhost, by simpa using hnonempty, rfl⟩
  · rintro ⟨request, host, horigin, hhost, hnonempty, rfl⟩
    exact ⟨request, horigin, host, ⟨hhost, by simpa using hnonempty⟩, rfl⟩

/-- A service has a URL exactly if there is a source for it. -/
theorem ofMap?_eq_some_iff :
    ofMap? map origin = some url ↔ ∃ base, Source map origin base ∧ url = terminate base := by
  constructor
  · intro h
    cases hfilled : map.metadata.filled? "onlineresource" with
    | some configured =>
      rw [ofMap?_of_configured hfilled] at h
      obtain ⟨hfound, hnonempty⟩ := Option.filter_eq_some_iff.1 hfilled
      cases h
      exact ⟨configured, .configured hfound (by simpa using hnonempty), rfl⟩
    | none =>
      obtain ⟨request, host, horigin, hhost, hnonempty, rfl⟩ := (ofMap?_of_unconfigured hfilled).1 h
      refine ⟨_, .rebuilt ?_ horigin hhost hnonempty (rebuilt_iff.2 rfl), rfl⟩
      intro configured hfound
      simpa [Metadata.filled?, hfound] using hfilled
  · rintro ⟨base, hsource, rfl⟩
    cases hsource with
    | configured hfound hnonempty =>
      refine ofMap?_of_configured (Option.filter_eq_some_iff.2 ⟨hfound, ?_⟩)
      simpa using hnonempty
    | rebuilt hnone horigin hhost hnonempty hrebuilt =>
      cases rebuilt_iff.1 hrebuilt
      refine (ofMap?_of_unconfigured (Option.filter_eq_none_iff.2 fun configured hfound => ?_)).2
        ⟨_, _, horigin, hhost, hnonempty, rfl⟩
      simpa using hnone configured hfound

/-- The URL of a service is its source, terminated. Parameters can be appended to it exactly if the
source does not end in an ampersand without a question mark before it. -/
theorem appendable_iff (h : ofMap? map origin = some url) :
    IsTerminated url ∧ terminate url = url ∧ (IsAppendable url ↔ '?' ∈ url.toList) ∧
      ∃ base, Source map origin base ∧ base.toList <+: url.toList ∧
        ('?' ∈ url.toList ↔ ¬IsMisleading base) := by
  obtain ⟨base, hsource, rfl⟩ := ofMap?_eq_some_iff.1 h
  have hend := isTerminated_terminate base
  exact ⟨hend, terminate_of_isTerminated hend, isAppendable_iff, base, hsource,
    prefix_terminate base, mem_terminate_iff base⟩

theorem appendable_of_script :
    ∃ origin : Origin, origin.host = some "h" ∧ origin.script = "wcs" ∧
      ofMap? MapDefinition.empty (some origin) = some "http://h:8080/wcs?" ∧
      IsAppendable "http://h:8080/wcs?" := by
  have h : ofMap? MapDefinition.empty (some ⟨some "h", some 8080, "wcs", false⟩) =
      some "http://h:8080/wcs?" := by
    decide +kernel
  obtain ⟨-, -, happendable, -⟩ := appendable_iff h
  exact ⟨_, rfl, rfl, h, happendable.2 (by decide)⟩

/-- A configured URL that ends in an ampersand is taken as it is, and what is appended to it belongs
to its path. -/
theorem not_appendable_ampersand :
    let map := { MapDefinition.empty with
      metadata := Metadata.ofPairs [("wcs_onlineresource", "http://host/wcs&")] }
    ofMap? map none = some "http://host/wcs&" ∧ '?' ∉ "http://host/wcs&".toList ∧
      ∀ text, '?' ∉ text.toList → query? ("http://host/wcs&" ++ text) = none := by
  have hmem : '?' ∉ "http://host/wcs&".toList := by decide
  refine ⟨by decide +kernel, hmem, fun text htext => query?_of_not_mem ?_⟩
  rw [String.toList_append, List.mem_append]
  exact not_or.2 ⟨hmem, htext⟩

end WebCoverage.ServiceUrl
