import WebCoverage.Crs.Projection
import WebCoverage.Proofs.Rows

/-! The native reference system among the supported ones. Both are found in the tokens of a layer
and of the map that owns it, the native one by a scan that stops at the first token with a URN, the
supported ones from all tokens of the first source that yields any. Where both are found, the scan
finds the head of the list (`native?_of_supported`). -/

namespace WebCoverage.Crs

variable {library : ProjectionLibrary} {owner : Option MapDefinition} {layer : Layer}

/-- The tokens of a source as a search comes to them. Of a source that fails it comes to the
fault. -/
def offered : Except TokenFault (List String) → List (Except TokenFault String)
  | .ok tokens => tokens.map .ok
  | .error fault => [.error fault]

/-- What the search for the native reference system goes through: what the layer offers, and then
what its map does. -/
def candidates (library : ProjectionLibrary) (owner : Option MapDefinition) (layer : Layer) :
    List (Except TokenFault String) :=
  offered (library.tokens layer.projection layer.metadata) ++
    owner.elim [] fun map => offered (library.tokens map.projection map.metadata)

/-- The library fails on a definition that spells no code. -/
def Unidentified (library : ProjectionLibrary) (definition : String) : Prop :=
  let trimmed := Text.trim definition.toList
  initDigits? trimmed = none ∧ epsgDigits? trimmed = none ∧
    library.identify (String.ofList trimmed) = .error .other

theorem definitionTokens_eq_error_iff {definition : String} {fault : TokenFault} :
    library.definitionTokens definition = .error fault ↔
      fault = .unidentified ∧ Unidentified library definition := by
  unfold ProjectionLibrary.definitionTokens Unidentified
  cases hinit : initDigits? (Text.trim definition.toList) with
  | some digits => simp [hinit]
  | none =>
    cases hepsg : epsgDigits? (Text.trim definition.toList) with
    | some digits => simp [hinit, hepsg]
    | none =>
      rcases hanswer : library.identify (String.ofList (Text.trim definition.toList)) with
        (_ | _) | (_ | code) <;> simp [hinit, hepsg, hanswer, eq_comm]

/-- Only a definition that the library is asked for can fail to have tokens. -/
theorem tokens_eq_error_iff {projection : Option String} {metadata : Metadata}
    {fault : TokenFault} :
    library.tokens projection metadata = .error fault ↔
      fault = .unidentified ∧ metadata.filled? "srs" = none ∧
        ∃ definition, projection = some definition ∧ definition ≠ "" ∧
          Unidentified library definition := by
  unfold ProjectionLibrary.tokens
  cases metadata.filled? "srs" with
  | some listed => simp
  | none =>
    cases projection with
    | none => simp
    | some definition =>
      by_cases hempty : definition = ""
      · simp [hempty]
      · simp [hempty, definitionTokens_eq_error_iff]

/-- The only fault that a source offers is that of the library. -/
theorem eq_unidentified_of_mem_candidates {fault : TokenFault}
    (h : .error fault ∈ candidates library owner layer) : fault = .unidentified := by
  have hoffered {projection : Option String} {metadata : Metadata}
      (h : .error fault ∈ offered (library.tokens projection metadata)) :
      fault = .unidentified := by
    cases htokens : library.tokens projection metadata with
    | ok tokens => simp [htokens, offered] at h
    | error other =>
      rw [htokens, offered, List.mem_singleton] at h
      cases h
      exact (tokens_eq_error_iff.1 htokens).1
  obtain h | h := List.mem_append.1 h
  · exact hoffered h
  · cases owner with
    | none => cases h
    | some map => exact hoffered h

/-- A token that spells an EPSG code with more digits than a code may have. -/
def IsLongCode (token : String) : Prop :=
  ∃ digits, epsgDigits? token.toList = some digits ∧ Number.Literal.digitLimit < digits.length

theorem urn?_eq_error_iff {token : String} {fault : TokenFault} :
    urn? token = .error fault ↔ fault = .longCode ∧ IsLongCode token := by
  unfold urn? IsLongCode
  cases epsgDigits? token.toList with
  | none =>
    refine iff_of_false (fun h => ?_) fun ⟨_, _, hdigits, _⟩ => nomatch hdigits
    dsimp only at h
    split at h
    · cases h
    · split at h <;> cases h
  | some digits =>
    dsimp only
    split
    · next hshort =>
      refine iff_of_false (fun h => nomatch h) fun ⟨_, _, hdigits, hlong⟩ => ?_
      cases hdigits
      omega
    · next hlong =>
      rw [Except.error.injEq, eq_comm]
      exact (and_iff_left ⟨digits, rfl, by omega⟩).symm

/-! ## The scan -/

/-- The first URN of candidates. A candidate that cannot be read ends the scan. -/
def scan : List (Except TokenFault String) → Except TokenFault (Option String)
  | [] => .ok none
  | candidate :: rest =>
    match candidate >>= urn? with
    | .ok none => scan rest
    | found => found

theorem scan_append (first second : List (Except TokenFault String)) :
    scan (first ++ second) =
      match scan first with
      | .ok none => scan second
      | found => found := by
  induction first with
  | nil => rfl
  | cons candidate rest ih =>
    rw [List.cons_append, scan, scan, ih]
    rcases candidate >>= urn? with fault | _ | urn <;> rfl

theorem scan_offered (tokens : Except TokenFault (List String)) :
    scan (offered tokens) = tokens >>= firstUrn? := by
  cases tokens with
  | error fault => rfl
  | ok tokens =>
    change scan (tokens.map .ok) = firstUrn? tokens
    induction tokens with
    | nil => rfl
    | cons token rest ih =>
      rw [List.map_cons, scan, firstUrn?, ih]
      rfl

theorem native?_eq : native? library owner layer = scan (candidates library owner layer) := by
  unfold native? candidates
  rw [scan_append, scan_offered]
  rcases library.tokens layer.projection layer.metadata >>= firstUrn? with fault | _ | urn
  · rfl
  · cases owner with
    | none => rfl
    | some map => exact (scan_offered _).symm
  · rfl

/-- The scan fails at the first candidate that cannot be read, if none before it has a URN. -/
theorem scan_eq_error_iff {found : List (Except TokenFault String)} {fault : TokenFault} :
    scan found = .error fault ↔
      ∃ before candidate after, found = before ++ candidate :: after ∧
        (∀ earlier ∈ before, earlier >>= urn? = .ok none) ∧ candidate >>= urn? = .error fault := by
  constructor
  · intro h
    induction found with
    | nil => cases h
    | cons candidate rest ih =>
      rw [scan] at h
      split at h
      · next hnone =>
        obtain ⟨before, fails, after, rfl, hbefore, hfails⟩ := ih h
        exact ⟨candidate :: before, fails, after, rfl, List.forall_mem_cons.2 ⟨hnone, hbefore⟩,
          hfails⟩
      · exact ⟨[], candidate, rest, rfl, List.forall_mem_nil _, h⟩
  · rintro ⟨before, candidate, after, rfl, hbefore, hfails⟩
    induction before with
    | nil => rw [List.nil_append, scan, hfails]
    | cons earlier before ih =>
      obtain ⟨hearlier, hbefore⟩ := List.forall_mem_cons.1 hbefore
      rw [List.cons_append, scan, hearlier]
      exact ih hbefore

theorem native?_eq_error_iff {fault : TokenFault} :
    native? library owner layer = .error fault ↔
      ∃ before candidate after, candidates library owner layer = before ++ candidate :: after ∧
        (∀ earlier ∈ before, earlier >>= urn? = .ok none) ∧ candidate >>= urn? = .error fault := by
  rw [native?_eq]
  exact scan_eq_error_iff

/-! ## The scan and the list -/

/-- A list of reference systems is found where there are tokens and every one can be read. -/
theorem urns_eq_ok_iff {projection : Option String} {metadata : Metadata} {found : List String} :
    urns library projection metadata = .ok found ↔
      ∃ tokens, library.tokens projection metadata = .ok tokens ∧
        ∃ given : List (Option String), tokens.map urn? = given.map .ok ∧
          (NameList.ofList (given.filterMap id)).items = found := by
  simp only [← mapM_eq_ok_iff]
  unfold urns
  cases library.tokens projection metadata with
  | error fault => simp [bind, Except.bind]
  | ok tokens =>
    simp only [bind, Except.bind, Except.ok.injEq, exists_eq_left']
    cases tokens.mapM urn? <;> simp

/-- Where every token can be read, the scan finds the first of their URNs. -/
theorem firstUrn?_of_map {tokens : List String} {given : List (Option String)}
    (h : tokens.map urn? = given.map .ok) : firstUrn? tokens = .ok (given.filterMap id).head? := by
  induction tokens generalizing given with
  | nil => cases given with
    | nil => rfl
    | cons => cases h
  | cons token rest ih => cases given with
    | nil => cases h
    | cons urn given =>
      obtain ⟨hurn, hrest⟩ := List.cons.inj h
      rw [firstUrn?, hurn]
      cases urn with
      | some urn => rfl
      | none => exact (ih hrest :)

theorem firstUrn?_of_urns {projection : Option String} {metadata : Metadata} {found : List String}
    (h : urns library projection metadata = .ok found) :
    library.tokens projection metadata >>= firstUrn? = .ok found.head? := by
  obtain ⟨tokens, htokens, given, hgiven, rfl⟩ := urns_eq_ok_iff.1 h
  rw [htokens, NameList.head?_items_ofList]
  exact firstUrn?_of_map hgiven

/-- Where the supported reference systems are found, the native one is their head. -/
theorem native?_of_supported {found : List String} (h : supported library owner layer = .ok found) :
    native? library owner layer = .ok found.head? := by
  unfold supported at h
  cases hown : urns library layer.projection layer.metadata with
  | error failure => rw [hown] at h; cases h
  | ok own =>
    rw [hown] at h
    have hscan := firstUrn?_of_urns hown
    unfold native?
    rw [hscan]
    cases own with
    | cons urn rest => cases h; rfl
    | nil =>
      cases owner with
      | none => cases h; rfl
      | some map => exact firstUrn?_of_urns h

end WebCoverage.Crs
