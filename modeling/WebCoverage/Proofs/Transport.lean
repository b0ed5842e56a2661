import WebCoverage.Transport

/-! What becomes of calls to a transport. Of all calls those succeed that begin the response and those
that add to it afterwards; any other is refused and changes nothing (`Transport.Holds.event`). So
what was written is one header line and the contents of all writes that succeeded, in their order,
and the body is found after the first blank line, which is the one after the header line whatever the
contents are (`Transport.commits_once`). -/

namespace WebCoverage.Transport

variable {contentType : String} {status : Int} {content more : Bytes} {inMemory : Bool}

/-! ## One response -/

/-- The line that starts a response, and the blank line after it. -/
def headerLine (contentType : String) : Bytes :=
  (s!"Content-Type: {contentType}\n\n").toList.map fun c => UInt8.ofNat c.toNat

/-- A transport that holds one response: the header line and a body. -/
def carrying (contentType : String) (status : Int) (content : Bytes) (inMemory : Bool) :
    Transport :=
  ⟨some contentType, status, true, headerLine contentType ++ content, inMemory⟩

/-- A transport without headers takes them, if the header line is in ASCII. -/
theorem start_of_unsent {transport : Transport} (hsent : transport.headersSent = false)
    (h : contentType.toList.all (·.toNat < 0x80)) :
    start contentType status transport =
      .ok () { transport with
        contentType := some contentType, status, headersSent := true,
        output := transport.output ++ headerLine contentType } := by
  have hascii : Text.asciiBytes? s!"Content-Type: {contentType}\n\n" =
      some (headerLine contentType) := by
    refine if_pos ?_
    simp [toString] at h ⊢
    exact h
  simp only [start, hsent, hascii, Bool.false_eq_true, if_false]

theorem start_fresh (h : contentType.toList.all (·.toNat < 0x80)) :
    start contentType status (fresh inMemory) =
      .ok () (carrying contentType status [] inMemory) := by
  rw [start_of_unsent rfl h, carrying, List.append_nil]
  rfl

theorem write_carrying : write more (carrying contentType status content inMemory) =
    .ok () (carrying contentType status (content ++ more) inMemory) := by
  simp [write, carrying, List.append_assoc]

theorem writePayload_carrying :
    writePayload (.bytes more) (carrying contentType status content inMemory) =
      .ok () (carrying contentType status (content ++ more) inMemory) :=
  write_carrying

/-- The transport after more was written. -/
def push (transport : Transport) (content : Bytes) : Transport :=
  { transport with output := transport.output ++ content }

theorem push_carrying : (carrying contentType status content inMemory).push more =
    carrying contentType status (content ++ more) inMemory := by
  simp [push, carrying, List.append_assoc]

/-! ## The body -/

/-- A content type in ASCII without line ends. -/
def IsPlain (contentType : String) : Prop :=
  ∀ c ∈ contentType.toList, c.toNat < 0x80 ∧ c ≠ '\n'

instance (contentType : String) : Decidable (IsPlain contentType) :=
  List.decidableBAll (fun c : Char => c.toNat < 0x80 ∧ c ≠ '\n') contentType.toList

/-- The first blank line is the one after the first line. -/
theorem afterBlankLine_append {line : Bytes} (h : 10 ∉ line) (rest : Bytes) :
    afterBlankLine (line ++ 10 :: 10 :: rest) = rest := by
  induction line with
  | nil => rfl
  | cons first line ih =>
    rw [List.mem_cons, not_or] at h
    rw [List.cons_append, afterBlankLine, ih h.2]
    intro _ heq
    exact absurd heq.symm h.1

theorem afterBlankLine_headerLine (h : IsPlain contentType) (content : Bytes) :
    afterBlankLine (headerLine contentType ++ content) = content := by
  have hline : headerLine contentType =
      ("Content-Type: ".toList ++ contentType.toList).map (fun c => UInt8.ofNat c.toNat) ++
        [10, 10] := by
    simp [headerLine, toString]
  have hlabel : IsPlain "Content-Type: " := by decide
  have hplain : ∀ c ∈ "Content-Type: ".toList ++ contentType.toList, c.toNat < 0x80 ∧ c ≠ '\n' :=
    List.forall_mem_append.2 ⟨hlabel, h⟩
  rw [hline, List.append_assoc]
  -- No line feed stands before the two at the end.
  refine afterBlankLine_append ?_ content
  intro hmem
  obtain ⟨c, hc, hbyte⟩ := List.mem_map.1 hmem
  obtain ⟨hascii, hne⟩ := hplain c hc
  refine hne (Char.toNat_inj.1 ?_)
  have hcode : (UInt8.ofNat c.toNat).toNat = 10 := by rw [hbyte]; rfl
  rwa [UInt8.toNat_ofNat', Nat.mod_eq_of_lt (by omega)] at hcode

/-! ## Calls -/

/-- A call to a transport. -/
inductive Call where
  | start (contentType : String) (status : Int)
  | write (content : Bytes)
  deriving DecidableEq

namespace Call

def run : Call → Sending Unit
  | start contentType status => Transport.start contentType status
  | write content => Transport.write content

/-- The call is to begin the response. -/
def starts : Call → Bool
  | start _ _ => true
  | write _ => false

/-- What the call is to add to the body. -/
def added : Call → Bytes
  | start _ _ => []
  | write content => content

/-- The content type of the call, if it has one, is plain. -/
def IsPlain : Call → Prop
  | start contentType _ => Transport.IsPlain contentType
  | write _ => True

instance : DecidablePred IsPlain
  | start contentType _ => inferInstanceAs (Decidable (Transport.IsPlain contentType))
  | write _ => inferInstanceAs (Decidable True)

/-- After the calls that succeeded before, the call is in its place: it begins the response if there
is none, or it adds to the response that has begun. -/
def InPlace (done : List Call) : Call → Prop
  | start _ _ => ∀ call ∈ done, call.starts = false
  | write _ => ∃ call ∈ done, call.starts

end Call

/-- A call that was made, and what came of it. -/
structure Event where
  call : Call
  before : Transport
  failure : Option Failure
  after : Transport

def Call.event (call : Call) (transport : Transport) : Event :=
  match call.run transport with
  | .ok _ after => ⟨call, transport, none, after⟩
  | .error failure after => ⟨call, transport, some failure, after⟩

/-- What comes of calls that are made one after the other, whether they fail or not. -/
def history (transport : Transport) : List Call → List Event
  | [] => []
  | call :: calls => call.event transport :: history (call.event transport).after calls

/-- The transport that calls leave. -/
def after (transport : Transport) (calls : List Call) : Transport :=
  calls.foldl (fun transport call => (call.event transport).after) transport

/-- The calls that succeeded. -/
def succeeded (events : List Event) : List Call :=
  (events.filter (·.failure.isNone)).map (·.call)

@[simp]
theorem succeeded_nil : succeeded [] = [] := rfl

theorem succeeded_cons (event : Event) (events : List Event) :
    succeeded (event :: events) = succeeded [event] ++ succeeded events := by
  rw [succeeded, ← List.singleton_append, List.filter_append, List.map_append]
  rfl

/-- What calls add to the body. -/
def written (calls : List Call) : Bytes :=
  calls.flatMap Call.added

/-- What is to come of a call after calls that succeeded: it succeeds if it is in its place, and else
it is a misuse and changes nothing. -/
structure Event.Follows (event : Event) (done : List Call) : Prop where
  succeeds_iff : event.failure = none ↔ event.call.InPlace done
  refused : ∀ failure, event.failure = some failure →
    failure.kind = .serviceMisuse ∧ event.after = event.before

/-! ## What a transport holds -/

/-- What a transport holds after calls that succeeded. -/
inductive Holds (inMemory : Bool) : List Call → Transport → Prop
  | nothing : Holds inMemory [] (fresh inMemory)
  | response {contentType : String} {status : Int} {writes : List Call} :
      IsPlain contentType → (∀ call ∈ writes, call.starts = false) →
      Holds inMemory (.start contentType status :: writes)
        (carrying contentType status (written writes) inMemory)

namespace Holds

variable {transport : Transport} {done calls : List Call} {call : Call}

/-- A call that is in its place is done, and any other leaves the transport as it was. -/
theorem run (h : Holds inMemory done transport) (hcall : call.IsPlain) :
    (call.InPlace done ∧ ∃ left, call.run transport = .ok () left ∧
        Holds inMemory (done ++ [call]) left) ∨
      (¬call.InPlace done ∧ ∃ failure, call.run transport = .error failure transport ∧
        failure.kind = .serviceMisuse) := by
  -- Without headers a start is in its place, and with headers a write is.
  cases h with
  | nothing =>
    cases call with
    | start contentType status =>
      have hascii : contentType.toList.all (·.toNat < 0x80) :=
        List.all_eq_true.2 fun c hc => decide_eq_true (hcall c hc).1
      exact .inl ⟨List.forall_mem_nil _, _, start_fresh hascii,
        .response hcall (List.forall_mem_nil _)⟩
    | write content =>
      have hplace : ¬(Call.write content).InPlace [] := fun ⟨_, hmem, _⟩ => nomatch hmem
      exact .inr ⟨hplace, .bodyBeforeHeaders, rfl, rfl⟩
  | @response contentType status writes hplain hwrites =>
    cases call with
    | start other status' =>
      have hplace : ¬(Call.start other status').InPlace (.start contentType status :: writes) :=
        fun hnone => nomatch hnone _ List.mem_cons_self
      exact .inr ⟨hplace, .headersAlreadySent contentType, rfl, rfl⟩
    | write content =>
      have hwritten : written writes ++ content = written (writes ++ [.write content]) := by
        simp [written, Call.added]
      refine .inl ⟨⟨_, List.mem_cons_self, rfl⟩, _, write_carrying, ?_⟩
      rw [hwritten]
      refine .response hplain fun call hmem => ?_
      obtain hold | hnew := List.mem_append.1 hmem
      · exact hwrites call hold
      · rw [List.mem_singleton.1 hnew]
        rfl

theorem event (h : Holds inMemory done transport) (hcall : call.IsPlain) :
    (call.event transport).Follows done ∧
      Holds inMemory (done ++ succeeded [call.event transport]) (call.event transport).after := by
  rcases h.run hcall with ⟨hplace, left, hrun, hleft⟩ | ⟨hplace, failure, hrun, hkind⟩
  · have hevent : call.event transport = ⟨call, transport, none, left⟩ := by
      rw [Call.event, hrun]
    rw [hevent]
    exact ⟨⟨iff_of_true rfl hplace, fun _ hfailure => nomatch hfailure⟩, hleft⟩
  · have hevent : call.event transport = ⟨call, transport, some failure, transport⟩ := by
      rw [Call.event, hrun]
    have hnone : done ++ succeeded [⟨call, transport, some failure, transport⟩] = done :=
      List.append_nil done
    rw [hevent, hnone]
    refine ⟨⟨iff_of_false (fun hfailure => nomatch hfailure) hplace, fun other hother => ?_⟩, h⟩
    cases hother
    exact ⟨hkind, rfl⟩

/-- Calls keep what the transport holds in step with the calls that succeed. -/
theorem after (h : Holds inMemory done transport) (hcalls : ∀ call ∈ calls, call.IsPlain) :
    Holds inMemory (done ++ succeeded (history transport calls)) (transport.after calls) := by
  induction calls generalizing done transport with
  | nil =>
    rw [history, succeeded_nil, List.append_nil]
    exact h
  | cons call rest ih =>
    obtain ⟨hcall, hrest⟩ := List.forall_mem_cons.1 hcalls
    rw [history, succeeded_cons, ← List.append_assoc]
    exact ih (h.event hcall).2 hrest

theorem follows (h : Holds inMemory done transport) (hcalls : ∀ call ∈ calls, call.IsPlain)
    {earlier later : List Event} {event : Event}
    (hevents : history transport calls = earlier ++ event :: later) :
    event.Follows (done ++ succeeded earlier) := by
  induction calls generalizing done transport earlier with
  | nil =>
    rw [history] at hevents
    exact absurd hevents.symm (List.append_ne_nil_of_right_ne_nil _ (List.cons_ne_nil _ _))
  | cons call rest ih =>
    obtain ⟨hcall, hrest⟩ := List.forall_mem_cons.1 hcalls
    obtain ⟨hfollows, hleft⟩ := h.event hcall
    rw [history] at hevents
    cases earlier with
    | nil =>
      obtain ⟨rfl, -⟩ := List.cons.inj hevents
      rw [succeeded_nil, List.append_nil]
      exact hfollows
    | cons first earlier =>
      obtain ⟨rfl, hlater⟩ := List.cons.inj hevents
      rw [succeeded_cons, ← List.append_assoc]
      exact ih hleft hrest hlater

/-- At most one call has begun the response. -/
theorem countP_starts_le (h : Holds inMemory done transport) : done.countP Call.starts ≤ 1 := by
  cases h with
  | nothing => exact Nat.zero_le 1
  | response _ hwrites =>
    rw [List.countP_cons, List.countP_eq_zero.2 fun call hcall => by simp [hwrites call hcall]]
    exact Nat.le_refl 1

theorem inMemory_eq (h : Holds inMemory done transport) : transport.inMemory = inMemory := by
  cases h <;> rfl

theorem output_eq_nil (h : Holds inMemory done transport)
    (hnone : ∀ call ∈ done, call.starts = false) : transport.output = [] := by
  cases h with
  | nothing => rfl
  | response _ _ => exact nomatch hnone _ List.mem_cons_self

theorem output_eq (h : Holds inMemory done transport) (hstart : .start contentType status ∈ done) :
    transport.output = headerLine contentType ++ written done := by
  cases h with
  | nothing => cases hstart
  | response _ hwrites =>
    obtain hfirst | hwrite := List.mem_cons.1 hstart
    · cases hfirst
      rfl
    · exact nomatch hwrites _ hwrite

theorem afterBlankLine_output (h : Holds inMemory done transport) :
    afterBlankLine transport.output = written done := by
  cases h with
  | nothing => rfl
  | response hplain _ => exact afterBlankLine_headerLine hplain _

end Holds

/-- Of plain calls to a fresh transport one begins the response, unless none is to, and each call
succeeds if and only if it is the first to begin it or adds to it after that. Calls that fail are
misuses and change nothing. Nothing is written before the call that begins the response, and after it
the header line with its content type and what the calls that succeeded added, in their order. That
is the body, whatever they added. -/
theorem commits_once {calls : List Call} (h : ∀ call ∈ calls, call.IsPlain) :
    let events := history (fresh true) calls
    let done := succeeded events
    let transport := (fresh true).after calls
    (∀ earlier event later, events = earlier ++ event :: later →
        event.Follows (succeeded earlier)) ∧
      done.countP Call.starts ≤ 1 ∧
      ((∀ call ∈ done, call.starts = false) → transport.contents = .ok []) ∧
      (∀ contentType status, .start contentType status ∈ done →
        transport.contents = .ok (headerLine contentType ++ written done)) ∧
      transport.body = .ok (written done) := by
  have hholds : Holds true (succeeded (history (fresh true) calls)) ((fresh true).after calls) :=
    Holds.nothing.after h
  have hcontents : ((fresh true).after calls).contents = .ok ((fresh true).after calls).output :=
    if_pos hholds.inMemory_eq
  refine ⟨fun earlier event later hevents => ?_, hholds.countP_starts_le, fun hnone => ?_,
    fun contentType status hstart => ?_, ?_⟩
  · exact Holds.nothing.follows h hevents
  · rw [hcontents, hholds.output_eq_nil hnone]
  · rw [hcontents, hholds.output_eq hstart]
  · rw [body, hcontents]
    exact congrArg Except.ok hholds.afterBlankLine_output

/-- Calls of which the first is too early and the fourth too late, with blank lines in what they
add. -/
def interleaved : List Call :=
  [.write [97], .start "text/xml" 200, .write [60, 97, 62, 10, 10], .start "text/plain" 500,
    .write [10, 10, 98]]

theorem commits_once_interleaved :
    (∀ call ∈ interleaved, call.IsPlain) ∧
      ((fresh true).after interleaved).body = .ok [60, 97, 62, 10, 10, 10, 10, 98] ∧
      ((fresh true).after interleaved).contents =
        .ok (headerLine "text/xml" ++ [60, 97, 62, 10, 10, 10, 10, 98]) := by
  have hplain : ∀ call ∈ interleaved, call.IsPlain := by decide
  have hdone : succeeded (history (fresh true) interleaved) =
      [.start "text/xml" 200, .write [60, 97, 62, 10, 10], .write [10, 10, 98]] := by
    decide
  obtain ⟨-, -, -, hcontents, hbody⟩ := commits_once hplain
  rw [hdone] at hcontents hbody
  exact ⟨hplain, hbody, hcontents "text/xml" 200 List.mem_cons_self⟩

end WebCoverage.Transport
