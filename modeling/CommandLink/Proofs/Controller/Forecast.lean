import CommandLink.Proofs.Controller.Speech

/-! # What failed attempts do to later ones

An attempt that fails once its number is taken leaves the agent one number behind. Nothing of that
shows until a later frame arrives. `Outlook` counts the numbers that were lost since the agent heard
a frame; the agent's judgement on the next frame depends on that count modulo 16 alone: none lost is
as it should be, fifteen make the frame look like the one before, any other count looks like lost
frames. A sync request carries the number sent last, and with it the agent catches up; after a reset
the agent has nothing to compare with. -/

namespace CommandLink

namespace Controller

structure Outlook where
  /-- The agent has a number to compare with. -/
  anchored : Bool
  /-- The numbers that were used up since without a frame. -/
  lost : Nat

namespace Outlook

/-- Before the first frame. -/
def clear : Outlook := ⟨false, 0⟩

/-- What the agent makes of a message that gets through. -/
def verdict (o : Outlook) (m : Message) : Verdict :=
  if m = .sync ∨ o.anchored = false ∨ o.lost % 16 = 0 then .next
  else if o.lost % 16 = 15 ∧ m ≠ .reset then .again
  else .gap

def after (o : Outlook) (a : Attempt) : Outlook :=
  match a.outcome with
  | .ok () => ⟨a.message != .reset, 0⟩
  | .error e => if e.spares ∨ a.message = .sync then o else { o with lost := o.lost + 1 }

/-- The outlook fits an agent that remembers `r` and a controller that goes on from `t`. -/
def Fits (o : Outlook) (r : Inbound) (t : Outbound) : Prop :=
  (o.anchored = true → ∃ n m, r.lastSeen = some n ∧ t.lastSent = some m ∧
    m.val = (n.val + o.lost) % 16) ∧
  (o.anchored = false → r.lastSeen = none)

end Outlook

/-- The outlook after attempts. -/
def outlook (attempts : List Attempt) : Outlook := attempts.foldl Outlook.after .clear

/-- What an agent makes of the messages that get through, when the outlook is `o`. -/
def forecastFrom (o : Outlook) : List Attempt → List Verdict
  | [] => []
  | a :: rest =>
    match a.outcome with
    | .ok () => o.verdict a.message :: forecastFrom (o.after a) rest
    | .error _ => forecastFrom (o.after a) rest

/-- What an agent makes of the messages that get through, from the first. -/
def forecast (attempts : List Attempt) : List Verdict := forecastFrom .clear attempts

/-- The messages that have got through. -/
def delivered (attempts : List Attempt) : List Message :=
  attempts.filterMap fun a =>
    match a.outcome with
    | .ok () => some a.message
    | .error _ => none

/-- The commands on a stream that were sent as far as their callers know. -/
def sentOn (attempts : List Attempt) (stream : StreamId) : List Octets :=
  (delivered attempts).filterMap (Message.bodyOn stream)

theorem forecastFrom_append (o : Outlook) (as bs : List Attempt) :
    forecastFrom o (as ++ bs) =
      forecastFrom o as ++ forecastFrom (as.foldl Outlook.after o) bs := by
  induction as generalizing o with
  | nil => rfl
  | cons a as ih =>
    cases h : a.outcome with
    | ok u => simp [forecastFrom, h, ih]
    | error e => simp [forecastFrom, h, ih]

theorem forecast_append (as bs : List Attempt) :
    forecast (as ++ bs) = forecast as ++ forecastFrom (outlook as) bs :=
  forecastFrom_append .clear as bs

theorem outlook_concat (as : List Attempt) (a : Attempt) :
    outlook (as ++ [a]) = (outlook as).after a := by
  simp [outlook]

theorem forecast_of_ok {attempts : List Attempt} (ok : ∀ a ∈ attempts, a.outcome = .ok ()) :
    ∀ v ∈ forecast attempts, v = .next := by
  suffices H : ∀ anchored, ∀ v ∈ forecastFrom ⟨anchored, 0⟩ attempts, v = .next from H false
  induction attempts with
  | nil => exact fun _ _ h => (List.not_mem_nil h).elim
  | cons a as ih =>
    intro anchored v hv
    have here := ok a List.mem_cons_self
    simp only [forecastFrom, here] at hv
    rcases List.mem_cons.mp hv with rfl | hv
    · simp [Outlook.verdict]
    · have after : Outlook.after ⟨anchored, 0⟩ a = ⟨a.message != .reset, 0⟩ := by
        simp only [Outlook.after, here]
      rw [after] at hv
      exact ih (fun b hb => ok b (List.mem_cons_of_mem a hb)) _ v hv

/-! ## The forecast comes true -/

/-- A frame whose number is `k` past the number seen last. -/
theorem agent_verdict_of_offset {r : Inbound} {p : Post} {n : SeqNum} {k : Nat}
    (h : r.lastSeen = some n) (hp : p.seq.val = (n.val + k) % 16) :
    Discipline.agent.verdict r p =
      if p.kind = .syncRequest ∨ k % 16 = 1 then .next
      else if k % 16 = 0 ∧ p.kind ≠ .agentReset then .again
      else .gap := by
  have hn := n.isLt
  have repeats : r.isRepeat p.seq = true ↔ k % 16 = 0 := by
    rw [Inbound.isRepeat_iff, h, Option.some.injEq, Fin.ext_iff, hp]
    omega
  have gaps : r.isGap p.seq = true ↔ k % 16 ≠ 1 := by
    have next : p.seq ≠ n.next ↔ k % 16 ≠ 1 := by
      rw [ne_eq, Fin.ext_iff, hp, SeqNum.val_next]
      omega
    rw [Inbound.isGap_iff, ← next]
    simp [h]
  by_cases again : Discipline.agent.verdict r p = .again
  · rw [again]
    obtain ⟨hrep, hk⟩ := Discipline.verdict_eq_again_iff.mp again
    simp only [Discipline.agent, Bool.or_eq_false_iff, beq_eq_false_iff_ne] at hk
    rw [if_neg (by have := repeats.mp hrep; simp [hk.2]; omega), if_pos ⟨repeats.mp hrep, hk.1⟩]
  · by_cases gap : Discipline.agent.verdict r p = .gap
    · rw [gap]
      obtain ⟨hgap, hk⟩ := (Discipline.verdict_eq_gap_iff again).mp gap
      simp only [Discipline.agent, beq_eq_false_iff_ne] at hk
      have ne := mt Discipline.verdict_eq_again_iff.mpr again
      rw [if_neg (by simp [hk, gaps.mp hgap]), if_neg]
      rintro ⟨hrep, hreset⟩
      exact ne ⟨repeats.mpr hrep, by simp [Discipline.agent, hk, hreset]⟩
    · have next : Discipline.agent.verdict r p = .next := by
        cases hv : Discipline.agent.verdict r p with
        | next => rfl
        | again => exact absurd hv again
        | gap => exact absurd hv gap
      rw [next, if_pos]
      have ne := mt (Discipline.verdict_eq_gap_iff again).mpr gap
      simp only [gaps, Discipline.agent, beq_eq_false_iff_ne, not_and] at ne
      by_cases hk : k % 16 = 1
      · exact .inr hk
      · exact .inl (Decidable.not_not.mp (ne hk))

theorem Message.Carried.kind_eq_sync {p : Post} {m : Message} (h : m.Carried p) :
    p.kind = .syncRequest ↔ m = .sync := by
  rw [h.kind]
  cases m <;> simp [Message.kind]

theorem Message.Carried.kind_eq_reset {p : Post} {m : Message} (h : m.Carried p) :
    p.kind = .agentReset ↔ m = .reset := by
  rw [h.kind]
  cases m <;> simp [Message.kind]

namespace Outlook

variable {o : Outlook} {r : Inbound} {t : Outbound} {p : Post} {m : Message}

theorem Fits.verdict (H : o.Fits r t) (hm : m.Carried p) (hs : p.seq = m.seq t) :
    Discipline.agent.verdict r p = o.verdict m := by
  cases ha : o.anchored with
  | false =>
    rw [Discipline.verdict_of_lastSeen_none (H.2 ha)]
    simp [Outlook.verdict, ha]
  | true =>
    obtain ⟨n, l, hn, hl, offset⟩ := H.1 ha
    by_cases sync : m = .sync
    · have exempt : Discipline.agent.verdict r p = .next :=
        Discipline.verdict_of_exempt (by simp [Discipline.agent, hm.kind_eq_sync.mpr sync])
          (by simp [Discipline.agent, hm.kind_eq_sync.mpr sync]) r
      rw [exempt, Outlook.verdict, if_pos (.inl sync)]
    · have number : p.seq.val = (n.val + (o.lost + 1)) % 16 := by
        have peek : m.seq t = t.peek := by
          cases m with
          | command c => rfl
          | reset => rfl
          | sync => exact absurd rfl sync
        have ht : t.peek = l.next := by simp [Outbound.peek, hl]
        rw [hs, peek, ht, SeqNum.val_next, offset]
        omega
      rw [agent_verdict_of_offset hn number, Outlook.verdict]
      have reset : p.kind ≠ .agentReset ↔ m ≠ .reset := not_congr hm.kind_eq_reset
      simp only [hm.kind_eq_sync, reset, sync, ha, false_or, Bool.true_eq_false]
      have one : (o.lost + 1) % 16 = 1 ↔ o.lost % 16 = 0 := by omega
      have zero : (o.lost + 1) % 16 = 0 ↔ o.lost % 16 = 15 := by omega
      simp only [one, zero]

theorem fits_said (o : Outlook) (r : Inbound) (t : Outbound) (hm : m.Carried p) :
    (o.after ⟨m, .ok ()⟩).Fits (Discipline.agent.after r p) (t.commit p.seq) := by
  constructor
  · intro h
    have stays : Discipline.agent.after r p = r.record p.seq := by
      have := mt hm.kind_eq_reset.mp (by simpa [after] using h)
      simp [Discipline.after, Discipline.agent, this]
    refine ⟨p.seq, p.seq, by rw [stays]; rfl, rfl, ?_⟩
    simp only [after, Nat.add_zero]
    omega
  · intro h
    have reset := hm.kind_eq_reset.mpr (by simpa [after] using h)
    simp [Discipline.after, Discipline.agent, reset, Inbound.fresh]

theorem Fits.lost (H : o.Fits r t) {e : EndpointError} (he : e.spares = false) :
    (o.after ⟨m, .error e⟩).Fits r (t.commit (m.seq t)) := by
  by_cases sync : m = .sync
  · subst sync
    have same : o.after ⟨.sync, .error e⟩ = o := by simp [after]
    rw [same]
    refine ⟨fun ha => ?_, H.2⟩
    obtain ⟨n, l, hn, hl, offset⟩ := H.1 ha
    exact ⟨n, l, hn, by simp [Message.seq, hl], offset⟩
  · have more : o.after ⟨m, .error e⟩ = { o with lost := o.lost + 1 } := by
      simp [after, he, sync]
    rw [more]
    refine ⟨fun ha => ?_, H.2⟩
    obtain ⟨n, l, hn, hl, offset⟩ := H.1 ha
    have peek : m.seq t = l.next := by
      cases m with
      | command c => simp [Message.seq, Outbound.peek, hl]
      | reset => simp [Message.seq, Outbound.peek, hl]
      | sync => exact absurd rfl sync
    refine ⟨n, l.next, hn, congrArg some peek, ?_⟩
    rw [SeqNum.val_next, offset]
    simp only
    omega

end Outlook

/-- The frames `ds` are what got through of the attempts, and an agent judges them as forecast. -/
structure Foretold (attempts : List Attempt) (ds : List Post) (t : Outbound) : Prop where
  verdicts : Discipline.agent.verdicts ds = forecast attempts
  fits : (outlook attempts).Fits (Discipline.agent.afterAll ds) t
  kinds : ds.map Post.kind = (delivered attempts).map Message.kind
  carried : ∀ stream, ds.map (Post.payloadOn .command stream) =
    (delivered attempts).map (Message.bodyOn stream)

theorem Foretold.nil : Foretold [] [] .fresh :=
  ⟨rfl, ⟨fun h => Bool.noConfusion h, fun _ => rfl⟩, rfl, fun _ => rfl⟩

theorem Foretold.command {attempts : List Attempt} {ds : List Post} {t : Outbound}
    (F : Foretold attempts ds t) {p : Post} (hp : p ∈ ds) (hk : p.kind = .command) :
    ∃ c, .command c ∈ delivered attempts ∧ c.stream = p.stream ∧ p.payload = c.body := by
  have here : some p.payload ∈ (delivered attempts).map (Message.bodyOn p.stream) := by
    rw [← F.carried p.stream]
    exact List.mem_map.mpr ⟨p, hp, by simp [Post.payloadOn, hk]⟩
  obtain ⟨m, hm, body⟩ := List.mem_map.mp here
  obtain ⟨c, rfl, stream, eq⟩ := Message.mem_of_bodyOn body
  exact ⟨c, hm, stream, eq.symm⟩

variable {L : Type} [FrameLink L]

/-- Whatever becomes of an attempt, what follows is as forecast. -/
theorem Foretold.speech {attempts as : List Attempt} {ds ps : List Post} {c c' : Controller L}
    (F : Foretold attempts ds c.outbound) (S : Speech c c' as ps) :
    Foretold (attempts ++ as) (ds ++ ps) c'.outbound := by
  cases S with
  | silent _ outbound => simpa [outbound] using F
  | @spared m e he _ outbound =>
    have same : (outlook attempts).after ⟨m, .error e⟩ = outlook attempts := by
      simp [Outlook.after, he]
    refine ⟨?_, ?_, ?_, ?_⟩
    · simpa [forecast_append, forecastFrom] using F.verdicts
    · rw [outlook_concat, same, outbound, List.append_nil]
      exact F.fits
    · simpa [delivered] using F.kinds
    · simpa [delivered] using F.carried
  | lost m he _ outbound =>
    refine ⟨?_, ?_, ?_, ?_⟩
    · simpa [forecast_append, forecastFrom] using F.verdicts
    · rw [outlook_concat, outbound, List.append_nil]
      exact F.fits.lost he
    · simpa [delivered] using F.kinds
    · simpa [delivered] using F.carried
  | said m p hm hs _ outbound =>
    have through : delivered (attempts ++ [⟨m, .ok ()⟩]) = delivered attempts ++ [m] := by
      simp [delivered]
    refine ⟨?_, ?_, ?_, fun stream => ?_⟩
    · rw [Discipline.verdicts_concat, F.verdicts, forecast_append, F.fits.verdict hm hs]
      rfl
    · rw [outlook_concat, outbound, Discipline.afterAll_concat]
      exact Outlook.fits_said _ _ _ hm
    · rw [through, List.map_append, List.map_append, F.kinds, List.map_singleton,
        List.map_singleton, hm.kind]
    · rw [through, List.map_append, List.map_append, F.carried, List.map_singleton,
        List.map_singleton, hm.payloadOn]

end Controller
end CommandLink
