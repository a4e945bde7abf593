import CommandLink.Proofs.Controller.BackPressure
import CommandLink.Proofs.Controller.Malformed
import CommandLink.Proofs.Datalink.BufferLemmas

/-! # Two ways to receive a response

A caller waits for a response with a buffer that the payload is copied into, or without one and gets
the payload whatever its length. Both come to the same verdict on a response, but that a payload may
be too long for the buffer (`Listening.read_within`). Whatever else happens on the controller in the
meantime, a wait takes one response and returns the verdict on it, or it is given up and takes none
(`Site.outcome_perform`). The buffer changes only where the payload is copied to
(`receptions_agree`). -/

namespace CommandLink

/-- No octet but 0 means success. -/
theorem Status.ofCode_ne_ok {b : UInt8} (h : b ≠ 0) : ofCode b ≠ .ok := by
  obtain ⟨n, hn⟩ := Nat.exists_eq_succ_of_ne_zero fun zero => h (UInt8.toNat_inj.mp zero)
  have failure : ofCode b = (all.tail[n]?).getD .error := by
    rw [ofCode, hn]
    rfl
  rw [failure]
  cases found : all.tail[n]? with
  | none => decide
  | some s =>
    rintro rfl
    exact absurd (List.mem_of_getElem? found) (by decide)

namespace Controller

/-! ## Verdicts -/

/-- The verdict on a response if a payload of any length is welcome. -/
inductive Verdict (expected : CommandId) : Octets → Except EndpointError Octets → Prop
  | truncated {body : Octets} (short : body.length < payloadHeaderSize) :
    Verdict expected body (.error (.wire (.truncated payloadHeaderSize body.length)))
  | failed {header : ResponseHeader} {payload : Octets} (result : header.result ≠ 0)
    (status : header.status ≠ .ok) :
    Verdict expected (header.encode ++ payload) (.error (.agent header.status))
  | notFound {got : CommandId} {payload : Octets} (other : got ≠ expected) :
    Verdict expected (ResponseHeader.encode ⟨got, 0⟩ ++ payload) (.error (.notFound expected got))
  | payload {payload : Octets} :
    Verdict expected (ResponseHeader.encode ⟨expected, 0⟩ ++ payload) (.ok payload)

theorem Verdict.not_bufferTooSmall {expected : CommandId} {body : Octets} {size capacity : Nat} :
    ¬ Verdict expected body (.error (.bufferTooSmall size capacity)) := by
  intro V
  cases V

/-- A response has a header, and its payload is longer than a buffer. -/
def Overfull (capacity : Nat) (body : Octets) : Prop :=
  payloadHeaderSize ≤ body.length ∧ capacity < body.length - payloadHeaderSize

namespace Listening

variable {stream : StreamId} {expected : CommandId} {timeout : Option Duration} {capacity : Nat}
  {body payload : Octets}

theorem short_or_headed (body : Octets) :
    body.length < payloadHeaderSize ∨
      ∃ (header : ResponseHeader) (payload : Octets), body = header.encode ++ payload := by
  match body with
  | [] | [_] | [_, _] | [_, _, _] => exact .inl (by simp [payloadHeaderSize])
  | a :: b :: c :: result :: payload => exact .inr ⟨⟨⟨a, b, c⟩, result⟩, payload, rfl⟩

theorem read_short (l : Listening) (short : body.length < payloadHeaderSize) :
    l.read body = .error (.wire (.truncated payloadHeaderSize body.length)) := by
  match body, short with
  | [], _ | [_], _ | [_, _], _ | [_, _, _], _ => rfl
  | _ :: _ :: _ :: _ :: rest, short => exact absurd short (Nat.not_lt.mpr (Nat.le_add_left 4 _))

/-- What a response with a header comes to if there is room for what stands behind it. -/
def judge {α : Type} (l : Listening) (header : ResponseHeader) (rest : α) :
    Except EndpointError α :=
  if header.result ≠ 0 then .error (.agent header.status)
  else if header.id ≠ l.expected then .error (.notFound l.expected header.id)
  else .ok rest

theorem map_judge {α β : Type} (l : Listening) (header : ResponseHeader) (rest : α) (f : α → β) :
    (l.judge header rest).map f = l.judge header (f rest) := by
  unfold judge
  split
  · rfl
  · split <;> rfl

/-- The room is looked at before the result. -/
theorem read_headed (l : Listening) (header : ResponseHeader) (payload : Octets) :
    l.read (header.encode ++ payload) =
      match l.capacity.filter (· < payload.length) with
      | some capacity => .error (.bufferTooSmall payload.length capacity)
      | none => l.judge header payload := by
  simp only [read, ResponseHeader.decode_encode_append,
    List.drop_left' (ResponseHeader.length_encode header)]
  cases l.capacity with
  | none => rfl
  | some capacity =>
    by_cases fits : payload.length ≤ capacity
    · simp only [if_pos fits, Option.filter, decide_eq_false (Nat.not_lt.mpr fits), judge]
      rfl
    · simp only [if_neg fits, Option.filter, decide_eq_true (Nat.lt_of_not_le fits)]
      rfl

theorem verdict_forBytes (stream : StreamId) (expected : CommandId) (timeout : Option Duration)
    (body : Octets) : Verdict expected body ((forBytes stream expected timeout).read body) := by
  obtain short | ⟨⟨id, result⟩, payload, rfl⟩ := short_or_headed body
  · rw [read_short _ short]
    exact .truncated short
  · rw [read_headed]
    change Verdict _ _ (judge _ _ _)
    unfold judge
    split
    · next failed => exact .failed failed (Status.ofCode_ne_ok failed)
    · next succeeded =>
      cases Decidable.of_not_not succeeded
      split
      · next other => exact .notFound other
      · next same =>
        cases Decidable.of_not_not same
        exact .payload

/-- With a buffer the verdict is the same, unless the payload is too long for it. -/
theorem read_within (capacity : Nat) (stream : StreamId) (expected : CommandId)
    (timeout : Option Duration) (body : Octets) :
    (Overfull capacity body ∧ (within capacity stream expected timeout).read body =
      .error (.bufferTooSmall (body.length - payloadHeaderSize) capacity)) ∨
    ¬ Overfull capacity body ∧ (within capacity stream expected timeout).read body =
      (forBytes stream expected timeout).read body := by
  obtain short | ⟨header, payload, rfl⟩ := short_or_headed body
  · rw [read_short _ short, read_short _ short]
    exact .inr ⟨fun long => Nat.not_le.mpr short long.1, rfl⟩
  · have length : (header.encode ++ payload).length - payloadHeaderSize = payload.length := by
      simp
    rw [Overfull, length, read_headed, read_headed]
    by_cases fits : payload.length ≤ capacity
    · refine .inr ⟨fun long => Nat.not_lt.mpr fits long.2, ?_⟩
      simp only [within, forBytes, Option.filter, decide_eq_false (Nat.not_lt.mpr fits)]
      rfl
    · refine .inl ⟨⟨by simp, Nat.lt_of_not_le fits⟩, ?_⟩
      simp only [within, Option.filter, decide_eq_true (Nat.lt_of_not_le fits)]
      rfl

/-- The response that a payload is read from. -/
theorem eq_of_read (h : (within capacity stream expected timeout).read body = .ok payload) :
    body = ResponseHeader.encode ⟨expected, 0⟩ ++ payload ∧ payload.length ≤ capacity := by
  obtain ⟨-, narrow⟩ | ⟨fits, same⟩ := read_within capacity stream expected timeout body
  · rw [narrow] at h
    cases h
  · have V := verdict_forBytes stream expected timeout body
    rw [← same, h] at V
    cases V
    exact ⟨rfl, by simpa [Overfull] using fits⟩

/-- Takes a response apart in the buffer it came in. -/
def readBuffer (l : Listening) (b : Buffer) : Except EndpointError Buffer :=
  match b.removeStart payloadHeaderSize with
  | none => .error (.wire (.truncated payloadHeaderSize b.data.length))
  | some (front, body) =>
    match ResponseHeader.decode front with
    | .error e => .error (.wire e)
    | .ok header =>
      match l.capacity.filter (· < body.data.length) with
      | some capacity => .error (.bufferTooSmall body.data.length capacity)
      | none => l.judge header body

/-- Nothing but the data of the buffer counts, and the payload is the data that is left in it. -/
theorem data_readBuffer (l : Listening) (b : Buffer) :
    (l.readBuffer b).map Buffer.data = l.read b.data := by
  obtain short | ⟨header, payload, headed⟩ := short_or_headed b.data
  · rw [readBuffer, Buffer.removeStart_of_short short, read_short l short]
    rfl
  · obtain ⟨body, cut, rest⟩ := Buffer.removeStart_of_data header.encode payload headed
    rw [ResponseHeader.length_encode] at cut
    have found : ResponseHeader.decode header.encode = .ok header := rfl
    simp only [readBuffer, cut, found, rest, headed, read_headed]
    split
    · rfl
    · rw [map_judge, rest]

end Listening

/-! ## Waits -/

/-- Why a wait ends without a response. -/
inductive GivenUp (wait : Listening) : EndpointError → Prop
  | cancelled : GivenUp wait .cancelled
  | streamClosed : GivenUp wait (.streamClosed wait.stream)
  | shutdown : GivenUp wait .shutdown
  | timeout {limit : Duration} (h : wait.timeout = some limit) : GivenUp wait (.timeout limit)

/-- The count of cancellations when a wait began plays no part in why it may end. -/
theorem GivenUp.of_seen {wait : Listening} {seen : Option Nat} {e : EndpointError}
    (G : GivenUp { wait with seen := seen } e) : GivenUp wait e := by
  cases G with
  | cancelled => exact .cancelled
  | streamClosed => exact .streamClosed
  | shutdown => exact .shutdown
  | timeout limited => exact .timeout limited

/-- One attempt of a wait: it takes the response out of its slot and returns the verdict on it, or
there is none, and it takes nothing and leaves the controller as it is. -/
inductive WaitStep [Datalink L] (c : Controller L) (wait : Listening) : Prop
  | took (body : Octets) (item : (c.slots.get wait.stream).item = some body)
      (catches : (Call.listen wait).catches c = some (wait.stream, body))
      (step : (Call.listen wait).step c =
        ({ c with slots := c.slots.modify wait.stream Slot.clear },
          .done ((wait.read body).map .payload)))
  | gaveUp (empty : (c.slots.get wait.stream).item = none)
      (catches : (Call.listen wait).catches c = none) (e : EndpointError)
      (why : GivenUp wait e) (step : (Call.listen wait).step c = (c, .done (.error e)))
  | blocked (empty : (c.slots.get wait.stream).item = none)
      (catches : (Call.listen wait).catches c = none)
      (step : (Call.listen wait).step c = (c, .blocked))
  | began (empty : (c.slots.get wait.stream).item = none)
      (catches : (Call.listen wait).catches c = none) (seen : Option Nat)
      (step : (Call.listen wait).step c = (c, .next (.listen { wait with seen := seen })))

theorem waitStep [Datalink L] (c : Controller L) (wait : Listening) : WaitStep c wait := by
  cases item : (c.slots.get wait.stream).item with
  | some body =>
    refine .took body item ?_ ?_
    · simp [Call.catches, Slot.pop, item]
    · simp only [Call.step, Slot.pop, item]
      rfl
  | none =>
    cases closed : (c.slots.get wait.stream).closed with
    | false =>
      cases listenStep_of_open c wait closed with
      | took body found =>
        rw [item] at found
        cases found
      | left catches endpoint outcome =>
        obtain returned | blocked | ⟨seen, began⟩ := outcome
        · exact .gaveUp item catches .cancelled .cancelled (Prod.ext endpoint returned)
        · exact .blocked item catches (Prod.ext endpoint blocked)
        · exact .began item catches seen (Prod.ext endpoint began)
    | true =>
      have shut : (c.slots.get wait.stream).Shut := ⟨closed, item⟩
      have catches : (Call.listen wait).catches c = none := by
        simp only [Call.catches, shut.pop]
      have step : (Call.listen wait).step c =
          (c, .done (.error (c.releaseError wait.stream .closed))) := by
        simp only [Call.step, shut.pop]
      refine .gaveUp item catches _ ?_ step
      simp only [releaseError]
      split
      · exact .streamClosed
      · exact .shutdown

/-- What a wait returns, by what it has taken. -/
inductive Outcome (wait : Listening) :
    List (StreamId × Octets) → Except EndpointError Answer → Prop
  | answered (body : Octets) : Outcome wait [(wait.stream, body)] ((wait.read body).map .payload)
  | gaveUp {e : EndpointError} (why : GivenUp wait e) : Outcome wait [] (.error e)

theorem Outcome.of_seen {wait : Listening} {seen : Option Nat} {caught : List (StreamId × Octets)}
    {result : Except EndpointError Answer} (O : Outcome { wait with seen := seen } caught result) :
    Outcome wait caught result := by
  cases O with
  | answered body => exact .answered body
  | gaveUp why => exact .gaveUp why.of_seen

/-! ## Runs -/

namespace Site

variable {s s' : Site L} {buffers : List (Option Octets)} {deed : Deed} {deeds : List Deed}
  {i : Nat} {t t' : Thread}

/-- What a thread takes out of slots in one step. -/
def takenBy (i : Nat) (s : Site L) : Deed → List (StreamId × Octets)
  | .act action => ((s.host.catches action).filter (·.thread = i)).map Catch.parcel
  | _ => []

theorem takenBy_advance (ht : s.host.threads[i]? = some t) :
    s.takenBy i (.act (.advance i)) = (t.call.catches s.host.endpoint).toList := by
  simp only [takenBy, Host.catches, ht, Option.bind_some]
  cases t.call.catches s.host.endpoint <;> simp

theorem takenBy_of_ne (other : deed ≠ .act (.advance i)) : s.takenBy i deed = [] := by
  cases deed with
  | act action =>
    cases action with
    | advance j =>
      have apart : j ≠ i := fun same => other (same ▸ rfl)
      simp only [takenBy, Host.catches]
      cases (s.host.threads[j]?).bind fun t => t.call.catches s.host.endpoint <;> simp [apart]
    | _ => rfl
  | _ => rfl

variable [Datalink L]

/-- What a thread takes out of slots in a run. -/
def caughtBy (buffers : List (Option Octets)) (i : Nat) (s : Site L) :
    List Deed → List (StreamId × Octets)
  | [] => []
  | deed :: deeds =>
    s.takenBy i deed ++ (s.act buffers deed).elim [] (caughtBy buffers i · deeds)

theorem caughtBy_cons (ha : s.act buffers deed = some s') :
    s.caughtBy buffers i (deed :: deeds) = s.takenBy i deed ++ s'.caughtBy buffers i deeds := by
  rw [caughtBy, ha, Option.elim_some]

/-- What is not the step of a caller leaves the callers alone. -/
theorem threads_act (other : ∀ action, deed ≠ .act action) (ha : s.act buffers deed = some s') :
    s'.host.threads = s.host.threads := by
  cases deed with
  | act action => exact absurd rfl (other action)
  | hear =>
    obtain ⟨-, ha⟩ := Option.ite_none_left_eq_some.mp ha
    obtain ⟨buffer, -, rfl⟩ := Option.map_eq_some_iff.mp ha
    rfl
  | openStream stream =>
    simp only [act] at ha
    split at ha <;> cases ha <;> rfl
  | _ =>
    cases ha
    rfl

/-- A thread stays as it is until it goes on or its time runs out, and for good once its call has
returned. -/
theorem thread_act (ha : s.act buffers deed = some s') (ht : s.host.threads[i]? = some t)
    (still : t.result.isSome ∨ deed ≠ .act (.advance i) ∧ deed ≠ .act (.expire i)) :
    s'.host.threads[i]? = some t := by
  cases deed with
  | act action =>
    obtain ⟨h, moved, rfl⟩ := Option.map_eq_some_iff.mp ha
    refine Host.thread_act moved ht (still.imp_right fun apart => ⟨?_, ?_⟩)
    · exact fun same => apart.1 (same ▸ rfl)
    · exact fun same => apart.2 (same ▸ rfl)
  | _ => rw [threads_act (fun _ => Deed.noConfusion) ha, ht]

/-- Once its call has returned, a thread takes nothing any more. -/
theorem caughtBy_of_returned (run : s.perform buffers deeds = some s')
    (ht : s.host.threads[i]? = some t) (returned : t.result.isSome) :
    s.caughtBy buffers i deeds = [] ∧ s'.host.threads[i]? = some t := by
  induction deeds generalizing s with
  | nil =>
    cases run
    exact ⟨rfl, ht⟩
  | cons deed deeds ih =>
    rw [perform_cons] at run
    obtain ⟨s₁, ha, run⟩ := Option.bind_eq_some_iff.mp run
    obtain ⟨rest, last⟩ := ih run (thread_act ha ht (.inl returned))
    have other : deed ≠ .act (.advance i) := by
      rintro rfl
      obtain ⟨h, moved, rfl⟩ := Option.map_eq_some_iff.mp ha
      obtain ⟨u, -, hu, free, -⟩ := Host.act_advance moved
      rw [ht] at hu
      cases hu
      rw [free] at returned
      cases returned
    rw [caughtBy_cons ha, rest, takenBy_of_ne other, List.append_nil]
    exact ⟨rfl, last⟩

/-- Where a step leaves a thread that waits, when it has taken `taken`. -/
inductive Moved (wait : Listening) (taken : List (StreamId × Octets)) (u : Thread) : Prop
  | goesOn (nothing : taken = []) (seen : Option Nat)
      (waits : u.call = .listen { wait with seen := seen }) (free : u.result = none)
  | returned (result : Except EndpointError Answer) (done : u.result = some result)
      (outcome : Outcome wait taken result)

theorem moved_of_take {c : Controller L} {wait : Listening} {u : Thread} (free : t.result = none)
    (take : t.take ((Call.listen wait).step c).2 = some u) :
    Moved wait ((Call.listen wait).catches c).toList u := by
  cases waitStep c wait with
  | took body _ catches step =>
    rw [step] at take
    cases take
    rw [catches]
    exact .returned _ rfl (.answered body)
  | gaveUp _ catches e why step =>
    rw [step] at take
    cases take
    rw [catches]
    exact .returned _ rfl (.gaveUp why)
  | blocked _ _ step =>
    rw [step] at take
    cases take
  | began _ catches seen step =>
    rw [step] at take
    cases take
    rw [catches]
    exact .goesOn rfl seen rfl free

theorem moved_act {wait : Listening} (ha : s.act buffers deed = some s')
    (ht : s.host.threads[i]? = some t) (waits : t.call = .listen wait) (free : t.result = none) :
    ∃ u, s'.host.threads[i]? = some u ∧ Moved wait (s.takenBy i deed) u := by
  have inside := lt_length_of_getElem? ht
  by_cases goes : deed = .act (.advance i)
  · subst goes
    obtain ⟨h, moved, rfl⟩ := Option.map_eq_some_iff.mp ha
    obtain ⟨t₁, u, ht₁, -, take, rfl⟩ := Host.act_advance moved
    cases ht.symm.trans ht₁
    refine ⟨u, List.getElem?_set_self inside, ?_⟩
    rw [takenBy_advance ht, waits]
    rw [waits] at take
    exact moved_of_take free take
  · rw [takenBy_of_ne goes]
    by_cases late : deed = .act (.expire i)
    · subst late
      obtain ⟨h, moved, rfl⟩ := Option.map_eq_some_iff.mp ha
      obtain ⟨t₁, limit, u, ht₁, -, limited, take, rfl⟩ := Host.act_expire moved
      cases ht.symm.trans ht₁
      rw [waits] at limited take
      cases take
      exact ⟨_, List.getElem?_set_self inside, .returned _ rfl (.gaveUp (.timeout limited))⟩
    · exact ⟨t, thread_act ha ht (.inr ⟨goes, late⟩), .goesOn rfl wait.seen waits free⟩

/-- A wait that returns in a run has taken what its outcome tells: it takes nothing in any step but
the one in which it returns. -/
theorem outcome_perform {wait : Listening} {result : Except EndpointError Answer}
    (run : s.perform buffers deeds = some s') (ht : s.host.threads[i]? = some t)
    (waits : t.call = .listen wait) (free : t.result = none)
    (ht' : s'.host.threads[i]? = some t') (returned : t'.result = some result) :
    Outcome wait (s.caughtBy buffers i deeds) result := by
  induction deeds generalizing s t wait with
  | nil =>
    cases run
    cases ht.symm.trans ht'
    rw [free] at returned
    cases returned
  | cons deed deeds ih =>
    rw [perform_cons] at run
    obtain ⟨s₁, ha, run⟩ := Option.bind_eq_some_iff.mp run
    obtain ⟨u, hu, moved⟩ := moved_act ha ht waits free
    rw [caughtBy_cons ha]
    cases moved with
    | goesOn nothing seen waits free =>
      rw [nothing, List.nil_append]
      exact (ih run hu waits free).of_seen
    | returned first done outcome =>
      obtain ⟨rest, last⟩ := caughtBy_of_returned run hu (by rw [done]; rfl)
      cases last.symm.trans ht'
      cases done.symm.trans returned
      rw [rest, List.append_nil]
      exact outcome

end Site

/-! ## Buffers -/

/-- What the caller of a wait with a buffer finds in it: the payload at its start and nothing new
behind it, or what was there before. -/
inductive Deposited (buffer : Octets) :
    Except EndpointError Octets → Except EndpointError Nat × Octets → Prop
  | copied {payload filled : Octets} (fits : payload.length ≤ buffer.length)
    (written : buffer.overwrite? 0 payload = some filled)
    (front : filled.take payload.length = payload)
    (behind : filled.drop payload.length = buffer.drop payload.length) :
    Deposited buffer (.ok payload) (.ok payload.length, filled)
  | failed {e : EndpointError} : Deposited buffer (.error e) (.error e, buffer)

theorem deposited {buffer : Octets} {r : Except EndpointError Octets}
    (fits : ∀ payload, r = .ok payload → payload.length ≤ buffer.length) :
    Deposited buffer r (deposit buffer r) := by
  cases r with
  | error e => exact .failed
  | ok payload =>
    have room := fits payload rfl
    refine .copied room ?_ List.take_left List.drop_left
    rw [Octets.overwrite?_eq (by omega)]
    simp [fill]

/-- What a wait with a buffer returns is an error, or a payload that the buffer has room for. -/
theorem Outcome.read {buffer : Octets} {stream : StreamId} {expected : CommandId}
    {timeout : Option Duration} {caught : List (StreamId × Octets)}
    {result : Except EndpointError Answer}
    (O : Outcome (.within buffer.length stream expected timeout) caught result) :
    ∃ r : Except EndpointError Octets, result = r.map .payload ∧
      ∀ payload, r = .ok payload → payload.length ≤ buffer.length := by
  cases O with
  | answered body => exact ⟨_, rfl, fun payload read => (Listening.eq_of_read read).2⟩
  | @gaveUp e => exact ⟨.error e, rfl, nofun⟩

/-- On every response the two waits come to the same verdict, but that the one with a buffer finds a
payload too long for it, and then says so; taking the response apart in the buffer it came in makes
no difference. An attempt takes the response that there is and returns, or there is none and it
takes none. Through all that happens on a controller, a wait that returns has taken exactly one
response and returns the verdict on it, or it was given up and has taken none. The caller's buffer
then has the payload at its start, where there is room for it, and is otherwise as it was. -/
theorem receptions_agree (stream : StreamId) (expected : CommandId) (timeout : Option Duration)
    (buffer : Octets) :
    let bytes := Listening.forBytes stream expected timeout
    let copying := Listening.within buffer.length stream expected timeout
    (∀ b : Buffer, (bytes.readBuffer b).map Buffer.data = bytes.read b.data ∧
      (copying.readBuffer b).map Buffer.data = copying.read b.data ∧
      Verdict expected b.data (bytes.read b.data) ∧
      ((∃ size capacity, copying.read b.data = .error (.bufferTooSmall size capacity)) ↔
        Overfull buffer.length b.data) ∧
      (¬ Overfull buffer.length b.data → copying.read b.data = bytes.read b.data)) ∧
    ∀ (L : Type) [Datalink L], (∀ (c : Controller L) (wait : Listening), WaitStep c wait) ∧
      ∀ (buffers : List (Option Octets)) (deeds : List Deed) (s s' : Site L) (i : Nat) (t : Thread)
        (result : Except EndpointError Answer), s.perform buffers deeds = some s' →
        s'.host.threads[i]? = some t → t.result = some result →
        (s.host.threads[i]? = some (.ofErrand (.receive stream expected none timeout)) →
          Outcome bytes (s.caughtBy buffers i deeds) result) ∧
        (s.host.threads[i]? =
            some (.ofErrand (.receive stream expected (some buffer.length) timeout)) →
          Outcome copying (s.caughtBy buffers i deeds) result ∧
            ∃ r, result = r.map .payload ∧ Deposited buffer r (deposit buffer r)) := by
  intro bytes copying
  refine ⟨?_, ?_⟩
  · intro b
    have V : Verdict expected b.data (bytes.read b.data) := Listening.verdict_forBytes ..
    refine ⟨bytes.data_readBuffer b, copying.data_readBuffer b, V, ?_⟩
    obtain ⟨long, narrow⟩ | ⟨fits, same⟩ := Listening.read_within buffer.length stream
      expected timeout b.data
    · exact ⟨⟨fun _ => long, fun _ => ⟨_, _, narrow⟩⟩, fun fits => (fits long).elim⟩
    · refine ⟨⟨?_, fun long => (fits long).elim⟩, fun _ => same⟩
      rintro ⟨size, capacity, narrow⟩
      rw [← same, narrow] at V
      exact V.not_bufferTooSmall.elim
  · intro L _
    refine ⟨waitStep, ?_⟩
    intro buffers deeds s s' i t result run ht returned
    refine ⟨fun begun => Site.outcome_perform run begun rfl rfl ht returned, fun begun => ?_⟩
    have outcome : Outcome copying _ result :=
      Site.outcome_perform run begun rfl rfl ht returned
    obtain ⟨r, same, fits⟩ := outcome.read
    exact ⟨outcome, r, same, deposited fits⟩

/-- One wait finds an empty slot, tries again when a response has come, and has room for an octet
more than it gets. Another runs out of time. A payload of three octets is too long for both. -/
theorem receptions_agree_patient :
    let copying := Listening.within 2 3 ⟨1, 2, 3⟩ (some (.ofMillis 20))
    (∃ size capacity,
      copying.read [1, 2, 3, 0, 7, 8, 9] = .error (.bufferTooSmall size capacity)) ∧
    Outcome copying [(3, [1, 2, 3, 0, 7])] (.ok (.payload [7])) ∧
    Deposited [0xAA, 0xAA] (.ok [7]) (.ok 1, [7, 0xAA]) ∧
    Outcome copying [] (.error (.timeout (.ofMillis 20))) := by
  intro copying
  let caller : Thread := .ofErrand (.receive 3 ⟨1, 2, 3⟩ (some 2) (some (.ofMillis 20)))
  let s : Site ScriptedLink :=
    ⟨{ Host.ofController (Controller.start ⟨[], []⟩ ⟨none, .ofMillis 20⟩ 0) with
      threads := [caller, caller] }, []⟩
  let buffers : List (Option Octets) := [some [0x10, 3, 5, 0, 1, 2, 3, 0, 7]]
  let deeds : List Deed :=
    [.act (.advance 0), .act (.advance 1), .hear, .act .pass, .act (.advance 0), .act (.expire 1)]
  obtain ⟨verdicts, runs⟩ := receptions_agree 3 ⟨1, 2, 3⟩ (some (.ofMillis 20)) [0xAA, 0xAA]
  obtain ⟨-, -, -, narrow, -⟩ := verdicts (.ofOctets [1, 2, 3, 0, 7, 8, 9])
  obtain ⟨-, outcomes⟩ := runs ScriptedLink
  have answered := outcomes buffers deeds s _ 0 _ (.ok (.payload [7])) rfl rfl rfl
  have late := outcomes buffers deeds s _ 1 _ (.error (.timeout (.ofMillis 20))) rfl rfl rfl
  obtain ⟨outcome, r, returned, inside⟩ := answered.2 rfl
  have payload : r = .ok [7] := by
    cases r with
    | error e => cases returned
    | ok payload =>
      cases returned
      rfl
  subst payload
  exact ⟨narrow.mpr ⟨by decide, by decide⟩, outcome, inside, (late.2 rfl).1⟩

end Controller
end CommandLink
