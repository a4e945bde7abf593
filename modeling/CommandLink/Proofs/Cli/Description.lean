import CommandLink.Cli.Decode
import CommandLink.Proofs.Wire.FrameReaders
import CommandLink.Proofs.Wire.PayloadFormats

/-! # What is described of a frame

Any octets are described or refused. They are refused exactly if they are no frame, or if the
payload is too short for what its kind puts at its beginning, or if it asks for a sync with the
token 0 (`Cli.describe_cases`). A second reader looks at one position after the other and cuts
payloads between positions; it fails where there is none. It never does (`Cli.describe_within`). -/

namespace CommandLink

/-- `Header.decode`, position by position. -/
def Header.decode? (octets : Octets) : Option (Except WireError Header) :=
  Format.sized octets size do
    let first ← octets[0]?
    return .ok ⟨UInt8.ofNat (first.toNat / 16), SeqNum.ofLowBits first, ← octets[1]?,
      Octets.word16 (← octets[2]?) (← octets[3]?)⟩

theorem Header.decode_within (octets : Octets) : decode? octets = some (decode octets) := by
  match octets with
  | [] | [_] | [_, _] | [_, _, _] => rfl
  | _ :: _ :: _ :: _ :: rest => exact Format.sized_of_le (Nat.le_add_left 4 rest.length)

/-- `Frame.decode`, position by position. -/
def Frame.decode? (octets : Octets) : Option (Except WireError (Header × Octets)) := do
  match ← Header.decode? octets with
  | .error e => return .error e
  | .ok header =>
    let body ← octets.slice? Header.size octets.length
    if header.length.toNat ≤ body.length then
      return .ok (header, ← body.slice? 0 header.length.toNat)
    else return .error (.lengthMismatch header.length.toNat body.length)

theorem Header.size_le_of_decode {octets : Octets} {header : Header}
    (h : decode octets = .ok header) : size ≤ octets.length := by
  obtain ⟨-, body, rfl⟩ := decode_eq_ok_iff.mp h
  rw [List.length_append, length_encode]
  exact Nat.le_add_right _ _

theorem Frame.decode_within (octets : Octets) : decode? octets = some (decode octets) := by
  rw [decode?, Header.decode_within, decode]
  cases read : Header.decode octets with
  | error e => rfl
  | ok header =>
    have behind := Octets.slice?_eq (Header.size_le_of_decode read) (Nat.le_refl octets.length)
    rw [List.take_length] at behind
    simp only [Option.bind_eq_bind, Option.bind_some, behind]
    split
    · next fits =>
      rw [Octets.slice?_eq (Nat.zero_le _) fits]
      rfl
    · rfl

namespace Cli

/-! ## What a payload must begin with -/

/-- The payload is long enough for the header or the body that its kind puts at its beginning, and
is not a sync request with the token 0. -/
def Legible (kind : Option FrameKind) (payload : Octets) : Prop :=
  match kind with
  | some .command | some .response | some .event => payloadHeaderSize ≤ payload.length
  | some .syncRequest =>
    SyncRequest.size ≤ payload.length ∧ payload.take SyncRequest.size ≠ [0, 0, 0, 0]
  | some .syncResponse => SyncResponse.size ≤ payload.length
  | _ => True

/-- What is shown of a payload: what follows the header, nothing where there is a body, everything
where there is neither. -/
def shown (kind : Option FrameKind) (payload : Octets) : Octets :=
  match kind with
  | some .command | some .response | some .event => payload.drop payloadHeaderSize
  | some .syncRequest | some .syncResponse => []
  | _ => payload

/-- The name of a kind, or its number. -/
def kindName (code : UInt8) : String :=
  match FrameKind.ofCode? code with
  | some kind => kind.name
  | none => s!"UNKNOWN({code.toNat})"

/-- What is told of a payload whose beginning was read, or that it could not be read. -/
def told (context : String) (read : Except WireError α) (label : α → String) (body : Octets) :
    Except Failure (Option String × Octets) :=
  match read with
  | .ok x => .ok (some (label x), body)
  | .error e => .error (.ofWire context e)

/-- What a sync response says. -/
def syncResponseLabel (response : SyncResponse) : String :=
  let lastSeen := match response.lastSeen with
    | some seq => toString seq.val
    | none => "none"
  s!"token={wordText response.token} last_seen={lastSeen}"
    ++ s!" version={response.version.toNat}"

variable {payload body : Octets}

theorem describePayload_command : describePayload (some .command) payload =
    told "bad command header" (CommandHeader.decode payload) (fun h => commandLabel h.id)
      (payload.drop payloadHeaderSize) := by
  unfold describePayload
  cases CommandHeader.decode payload <;> rfl

theorem describePayload_response : describePayload (some .response) payload =
    told "bad response header" (ResponseHeader.decode payload)
      (fun h => s!"{commandLabel h.id} result={h.status.name}")
      (payload.drop payloadHeaderSize) := by
  unfold describePayload
  cases ResponseHeader.decode payload <;> rfl

theorem describePayload_event : describePayload (some .event) payload =
    told "bad event header" (EventHeader.decode payload)
      (fun h => s!"{Subsystem.label h.subsystem} event={h.event.toNat}")
      (payload.drop payloadHeaderSize) := by
  unfold describePayload
  cases EventHeader.decode payload <;> rfl

theorem describePayload_syncRequest : describePayload (some .syncRequest) payload =
    told "bad sync request" (SyncRequest.decode payload)
      (fun r => s!"token={wordText r.token}") [] := by
  unfold describePayload
  cases SyncRequest.decode payload <;> rfl

theorem describePayload_syncResponse : describePayload (some .syncResponse) payload =
    told "bad sync response" (SyncResponse.decode payload) syncResponseLabel [] := by
  unfold describePayload
  cases SyncResponse.decode payload <;> rfl

/-- A description, or a failure that says that data are invalid. -/
inductive Verdict (legible : Prop) (body : Octets) : Except Failure (Option String × Octets) → Prop
  | described (h : legible) (detail : Option String) : Verdict legible body (.ok (detail, body))
  | refused (h : ¬ legible) (f : Failure) (code : f.code = ExitCode.dataInvalid) :
    Verdict legible body (.error f)

theorem verdict_told {legible : Prop} {read : Except WireError α} (context : String)
    (label : α → String) (h : legible ↔ ∃ x, read = .ok x) :
    Verdict legible body (told context read label body) := by
  cases read with
  | ok x => exact .described (h.mpr ⟨x, rfl⟩) _
  | error e => exact .refused (fun legible => nomatch (h.mp legible).choose_spec) _ rfl

theorem legible_syncRequest : Legible (some .syncRequest) payload ↔
    ∃ r, SyncRequest.decode payload = .ok r := by
  rcases payload with _ | ⟨a, _ | ⟨b, _ | ⟨c, _ | ⟨d, rest⟩⟩⟩⟩
  case cons.cons.cons.cons =>
    have zero : [a, b, c, d] = [0, 0, 0, 0] ↔ Octets.word32 a b c d = 0 := by
      constructor
      · rintro ⟨⟩
        rfl
      · intro h
        rw [← Octets.ofWord32_word32 a b c d, h]
        rfl
    simp only [Legible, SyncRequest.decode, SyncRequest.size, List.take_succ_cons, List.take_zero,
      List.length_cons, ne_eq, zero]
    split <;> simp_all
  all_goals simp [Legible, SyncRequest.decode, SyncRequest.size]

theorem verdict_describePayload (kind : Option FrameKind) (payload : Octets) :
    Verdict (Legible kind payload) (shown kind payload) (describePayload kind payload) := by
  have none_read : ∀ k : Option FrameKind, Legible k payload → describePayload k payload =
      .ok (none, payload) → shown k payload = payload →
      Verdict (Legible k payload) (shown k payload) (describePayload k payload) := by
    intro k legible described shown
    rw [described, shown]
    exact .described legible _
  cases kind with
  | none => exact none_read _ trivial rfl rfl
  | some kind =>
    cases kind with
    | command =>
      rw [describePayload_command]
      refine verdict_told _ _ ?_
      rcases payload with _ | ⟨_, _ | ⟨_, _ | ⟨_, _ | ⟨_, _⟩⟩⟩⟩ <;>
        simp [Legible, CommandHeader.decode, payloadHeaderSize]
    | response =>
      rw [describePayload_response]
      refine verdict_told _ _ ?_
      rcases payload with _ | ⟨_, _ | ⟨_, _ | ⟨_, _ | ⟨_, _⟩⟩⟩⟩ <;>
        simp [Legible, ResponseHeader.decode, payloadHeaderSize]
    | event =>
      rw [describePayload_event]
      refine verdict_told _ _ ?_
      rcases payload with _ | ⟨_, _ | ⟨_, _ | ⟨_, _ | ⟨_, _⟩⟩⟩⟩ <;>
        simp [Legible, EventHeader.decode, payloadHeaderSize]
    | syncRequest =>
      rw [describePayload_syncRequest]
      exact verdict_told _ _ legible_syncRequest
    | syncResponse =>
      rw [describePayload_syncResponse]
      refine verdict_told _ _ ?_
      rcases payload with _ | ⟨_, _ | ⟨_, _ | ⟨_, _ | ⟨_, _ | ⟨_, _ | ⟨_, _⟩⟩⟩⟩⟩⟩ <;>
        simp [Legible, SyncResponse.decode, SyncResponse.size]
    | _ => exact none_read _ trivial rfl rfl

/-! ## Frames -/

/-- What a description says of a frame. -/
def report (header : Header) (payload : Octets) (detail : Option String) : FrameReport :=
  ⟨kindName header.kind, header.seq, header.stream, header.length, detail,
    shown (FrameKind.ofCode? header.kind) payload⟩

/-- The octets are no frame, or the payload is not as its kind demands. -/
def Refused (octets : Octets) : Prop :=
  (∃ e, Frame.decode octets = .error e) ∨
    ∃ header payload, Frame.decode octets = .ok (header, payload) ∧
      ¬ Legible (FrameKind.ofCode? header.kind) payload

variable {octets : Octets} {header : Header}

theorem not_refused (read : Frame.decode octets = .ok (header, payload))
    (legible : Legible (FrameKind.ofCode? header.kind) payload) : ¬ Refused octets := by
  rintro (⟨e, failed⟩ | ⟨header', payload', read', illegible⟩)
  · cases read.symm.trans failed
  · cases read.symm.trans read'
    exact illegible legible

/-- Any octets are described or refused, and what is refused is invalid data. -/
theorem describe_cases (octets : Octets) :
    (∃ header payload detail, Frame.decode octets = .ok (header, payload) ∧
      Legible (FrameKind.ofCode? header.kind) payload ∧
      describe octets = .ok (report header payload detail)) ∨
    Refused octets ∧ ∃ f, describe octets = .error f ∧ f.code = ExitCode.dataInvalid := by
  unfold describe
  cases read : Frame.decode octets with
  | error e => exact .inr ⟨.inl ⟨e, read⟩, _, rfl, rfl⟩
  | ok found =>
    obtain ⟨header, payload⟩ := found
    have verdict := verdict_describePayload (FrameKind.ofCode? header.kind) payload
    simp only [decoding, bind, Except.bind]
    generalize describePayload (FrameKind.ofCode? header.kind) payload = result at verdict ⊢
    cases verdict with
    | described legible detail => exact .inl ⟨header, payload, detail, rfl, legible, rfl⟩
    | refused illegible f code =>
      exact .inr ⟨.inr ⟨header, payload, read, illegible⟩, f, rfl, code⟩

/-- A frame with a legible payload is described. -/
theorem describe_of_legible (read : Frame.decode octets = .ok (header, payload))
    (legible : Legible (FrameKind.ofCode? header.kind) payload) :
    ∃ detail, describe octets = .ok (report header payload detail) := by
  rcases describe_cases octets with ⟨header', payload', detail, read', -, described⟩ | ⟨refused, -⟩
  · cases read.symm.trans read'
    exact ⟨detail, described⟩
  · exact absurd refused (not_refused read legible)

/-- What is refused is not described. -/
theorem describe_of_refused (refused : Refused octets) : ∃ f, describe octets = .error f := by
  rcases describe_cases octets with ⟨header, payload, detail, read, legible, -⟩ | ⟨-, f, failed, -⟩
  · exact absurd refused (not_refused read legible)
  · exact ⟨f, failed⟩

/-! ## Position by position -/

/-- `told`, with a reader and a body that may look outside the payload. -/
def told? (context : String) (read : Option (Except WireError α)) (label : α → String)
    (body : Option Octets) : Option (Except Failure (Option String × Octets)) := do
  match ← read with
  | .ok x => return .ok (some (label x), ← body)
  | .error e => return .error (.ofWire context e)

/-- `describePayload`, position by position. -/
def describePayload? (kind : Option FrameKind) (payload : Octets) :
    Option (Except Failure (Option String × Octets)) :=
  match kind with
  | some .command =>
    told? "bad command header" (Format.commandHeader.decode? payload) (fun h => commandLabel h.id)
      (payload.slice? payloadHeaderSize payload.length)
  | some .response =>
    told? "bad response header" (Format.responseHeader.decode? payload)
      (fun h => s!"{commandLabel h.id} result={h.status.name}")
      (payload.slice? payloadHeaderSize payload.length)
  | some .event =>
    told? "bad event header" (Format.eventHeader.decode? payload)
      (fun h => s!"{Subsystem.label h.subsystem} event={h.event.toNat}")
      (payload.slice? payloadHeaderSize payload.length)
  | some .syncRequest =>
    told? "bad sync request" (Format.syncRequest.decode? payload)
      (fun r => s!"token={wordText r.token}") (payload.slice? 0 0)
  | some .syncResponse =>
    told? "bad sync response" (Format.syncResponse.decode? payload) syncResponseLabel
      (payload.slice? 0 0)
  | _ => some (.ok (none, payload))

/-- `describe`, position by position. -/
def describe? (octets : Octets) : Option (Except Failure FrameReport) := do
  match ← Frame.decode? octets with
  | .error e => return .error (.ofWire "bad frame" e)
  | .ok (header, payload) =>
    match ← describePayload? (FrameKind.ofCode? header.kind) payload with
    | .error f => return .error f
    | .ok (detail, body) =>
      return .ok ⟨kindName header.kind, header.seq, header.stream, header.length, detail, body⟩

/-- A format is read inside the payload, and behind what was read the payload can be cut. -/
theorem told?_within {f : Format α} (F : f.Canonical) {n : Nat} {body : Octets}
    (size : ∀ x, n ≤ (f.encode x).length)
    (cut : n ≤ payload.length → slice = some body) (context : String) (label : α → String) :
    told? context (f.decode? payload) label slice =
      some (told context (f.decode payload) label body) := by
  rw [told?, F.decode_within]
  cases read : f.decode payload with
  | error e => rfl
  | ok x =>
    rw [cut (Nat.le_trans (size x) (F.encode_decoded read).1)]
    rfl

theorem slice?_drop {n : Nat} (h : n ≤ payload.length) :
    payload.slice? n payload.length = some (payload.drop n) := by
  rw [Octets.slice?_eq h (Nat.le_refl _), List.take_length]

theorem describePayload_within (kind : Option FrameKind) (payload : Octets) :
    describePayload? kind payload = some (describePayload kind payload) := by
  have nothing : 0 ≤ payload.length → payload.slice? 0 0 = some [] := fun _ => by
    rw [Octets.slice?_eq (Nat.le_refl 0) (Nat.zero_le _)]
    rfl
  cases kind with
  | none => rfl
  | some kind =>
    cases kind with
    | command =>
      rw [describePayload_command]
      exact told?_within Format.commandHeader_canonical (fun _ => Nat.le_refl _) slice?_drop _ _
    | response =>
      rw [describePayload_response]
      exact told?_within Format.responseHeader_canonical (fun _ => Nat.le_refl _) slice?_drop _ _
    | event =>
      rw [describePayload_event]
      exact told?_within Format.eventHeader_canonical (fun _ => Nat.le_refl _) slice?_drop _ _
    | syncRequest =>
      rw [describePayload_syncRequest]
      exact told?_within Format.syncRequest_canonical (fun _ => Nat.zero_le _) nothing _ _
    | syncResponse =>
      rw [describePayload_syncResponse]
      exact told?_within Format.syncResponse_canonical (fun _ => Nat.zero_le _) nothing _ _
    | _ => rfl

/-- The description looks at no position outside its octets. -/
theorem describe_within (octets : Octets) : describe? octets = some (describe octets) := by
  rw [describe?, Frame.decode_within, describe]
  cases Frame.decode octets with
  | error e => rfl
  | ok found =>
    obtain ⟨header, payload⟩ := found
    simp only [Option.bind_eq_bind, Option.bind_some, decoding, describePayload_within]
    cases described : describePayload (FrameKind.ofCode? header.kind) payload with
    | error f => simp only [bind, Except.bind, described]; rfl
    | ok body => simp only [bind, Except.bind, described]; rfl

end Cli
end CommandLink
