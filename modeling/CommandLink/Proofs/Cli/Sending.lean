import CommandLink.Cli.Run
import CommandLink.Proofs.Cli.DurationText
import CommandLink.Proofs.Octets.HexText
import CommandLink.Proofs.Session.RoundTrip

/-! # Commands sent to an agent for demonstrations

How `send` ends when an agent for demonstrations listens and announces itself: with an exit code
that the arguments decide, and with the agent's answer printed if the code is 0. Each reason has its
turn: what the arguments say, then the stream, then the command.

The order in which the threads take turns makes no difference to this. The wait for the agent may
begin before its announcement is heard (`send_unheard`), and every order of turns leads from a
request to the same end (`Session.leads_answered`, `leads_refused`, `leads_rejected`). -/

namespace CommandLink

theorem StreamId.val_of_ofOctet {b : UInt8} {stream : StreamId} (h : ofOctet b = .ok stream) :
    stream.val = b.toNat := by
  simp only [ofOctet, ofOctet?] at h
  split at h
  · next found =>
    split at found
    · cases found
      cases h
      rfl
    · cases found
  · cases h

theorem StreamId.eq_control_iff {b : UInt8} {stream : StreamId} (h : ofOctet b = .ok stream) :
    stream = control ↔ b = 0 := by
  have same := val_of_ofOctet h
  rw [← UInt8.toNat_inj, ← same]
  exact Fin.ext_iff

/-! ## The agent for demonstrations -/

namespace DemoAgent

variable {d : DemoAgent} {invocation : Invocation}

theorem length_answer_le (version : d.version.length ≤ payloadLimit)
    (fits : invocation.payload.length ≤ payloadLimit) (payload : Octets)
    (h : d.answer invocation = .ok payload) : payload.length ≤ payloadLimit := by
  unfold answer at h
  split at h
  · split at h
    · cases h
      exact version
    · split at h
      · cases h
        exact fits
      · cases h
  · cases h

theorem answer_version (system : invocation.id.subsystem = 5)
    (version : invocation.id.command = 1) : d.answer invocation = .ok d.version := by
  rw [answer, if_pos (show _ = Subsystem.sys.code from system),
    if_pos (show _ = versionCommand from version)]

theorem answer_echo (system : invocation.id.subsystem = 5) (echo : invocation.id.command = 2) :
    d.answer invocation = .ok invocation.payload := by
  have other : invocation.id.command ≠ versionCommand := by
    rw [echo]
    decide
  rw [answer, if_pos (show _ = Subsystem.sys.code from system), if_neg other,
    if_pos (show _ = echoCommand from echo)]

/-- A command that the agent does not know is answered with a failure. -/
theorem answer_unknown (unknown : ¬ (invocation.id.subsystem = 5 ∧
      (invocation.id.command = 1 ∨ invocation.id.command = 2))) :
    ∃ status, status ≠ Status.ok ∧ d.answer invocation = .error status := by
  unfold answer
  split
  · next system =>
    obtain ⟨version, echo⟩ := not_or.mp fun known => unknown ⟨system, known⟩
    rw [if_neg (show ¬ _ = versionCommand from version), if_neg (show ¬ _ = echoCommand from echo)]
    exact ⟨.invalidArg, nofun, rfl⟩
  · exact ⟨.notSupported, nofun, rfl⟩

end DemoAgent

namespace Cli

open Session

/-! ## The round trip -/

section
variable {conduct : Conduct} {clock : Nat} {c : Controller Link} {a : Agent Link}
  {command : Command} {timeout : Duration}

/-- A controller that has connected to an agent. The announcement of the agent is on its way. -/
def connected (agent : AgentArguments) (timeout : Duration) : Session :=
  unheard agent.setup.conduct 0 ⟨some timeout, .ofSeconds 1⟩ Session.seed agent.setup.config []

/-- A controller that connects hears an agent that announces itself. -/
theorem connect_serving (agent : AgentArguments) (announces : agent.announce = true)
    (timeout : Duration) :
    connect timeout (.serving agent.setup 0) = .ok (connected agent timeout).settle := by
  have started : Agent.start (linkOn .serial agent.setup.serial) agent.setup.config =
      (.ok (), (starter agent.setup.config).withLink (bearing .agent [startPost.octets])) :=
    start_bearing announces
  have idle : (connected agent timeout).exchange = connected agent timeout :=
    exchange_idle idle_start
  rw [settle, idle, connected, ← exchange_announced]
  simp only [connect, agentSide, started]
  rfl

/-- Then the two have met. -/
theorem connected_meets (agent : AgentArguments) (timeout : Duration) :
    ∃ c a, Met c a ∧
      (connected agent timeout).settle = pair agent.setup.conduct 0 c [] [] a [] :=
  ⟨_, _, met_of_start _ _ _, settle_unheard⟩

/-- The controller once it holds a stream. -/
def holding (c : Controller Link) (stream : StreamId) : Controller Link :=
  { c with held := c.held.set stream true }

/-- A stream that nobody holds can be taken hold of. -/
theorem holdStream_pair {stream : StreamId} (free : c.held.get stream = false) :
    holdStream (pair conduct clock c [] [] a []) stream =
      .ok (pair conduct clock (holding c stream) [] [] a []) := by
  simp [holdStream, pair, Controller.openStream, free, holding]

/-- How a round trip ends, by what its request returns. -/
def requestVerdict : Except EndpointError Controller.Answer → Except Failure Octets
  | .ok (.payload payload) => .ok payload
  | .ok _ => .error (.ofEndpoint "command failed" .shutdown)
  | .error e => .error (.ofEndpoint "command failed" e)

/-- A round trip that begins before the announcement is heard ends as one that begins after. -/
theorem roundTrip_connected (agent : AgentArguments) (limit : Duration) (command : Command)
    (timeout : Duration) :
    roundTrip (connected agent limit) command timeout =
      roundTrip (connected agent limit).settle command timeout := by
  have M := met_of_start ⟨some limit, .ofSeconds 1⟩ Session.seed agent.setup.config
  have settled : (connected agent limit).settle = _ := settle_unheard
  have woken : (connected agent limit).call (.awaitAgent timeout) none .ofAnswer = _ :=
    awaitAgent_woken
  rw [settled, roundTrip, roundTrip, woken,
    awaitAgent_ready (M.controller StreamId.control) M.agent M.ready]

theorem roundTrip_pair (M : Met c a) {result : Except EndpointError Controller.Answer}
    (requested : ((pair conduct clock (holding c command.stream) [] [] a []).call
      (.request command (some timeout)) none .ofAnswer).2 = .ofAnswer result) :
    roundTrip (pair conduct clock c [] [] a []) command timeout = requestVerdict result := by
  obtain ⟨s, called⟩ : ∃ s, (pair conduct clock (holding c command.stream) [] [] a []).call
      (.request command (some timeout)) none .ofAnswer = (s, .ofAnswer result) :=
    ⟨_, Prod.ext rfl requested⟩
  rw [roundTrip, awaitAgent_ready (M.controller command.stream) M.agent M.ready]
  simp only [Outcome.ofAnswer, holdStream_pair (M.held command.stream)]
  rw [called]
  match result with
  | .ok (.payload payload) => rfl
  | .ok .agentReady => rfl
  | .ok (.synced response) => rfl
  | .error e => rfl

/-- Two ends that have met are ready for a request on any stream. -/
theorem vacant_holding (M : Met c a) (stream : StreamId) : (holding c stream).Vacant stream :=
  have C := M.controller stream
  ⟨C.link, C.running, C.free, C.slot⟩

theorem inStep_holding (M : Met c a) (stream : StreamId) : InStep (holding c stream) a :=
  ⟨M.inStep.new, M.inStep.next, M.inStep.answer⟩

theorem roundTrip_answered (conduct : Conduct) (clock : Nat) (timeout : Duration) (M : Met c a)
    (command : Command) (control : command.stream = StreamId.control)
    (fits : command.payload.length ≤ payloadLimit) {result : Except Status Octets}
    (answered : conduct.answer command.invocation = (false, result))
    (short : ∀ payload, result = .ok payload → payload.length ≤ payloadLimit) :
    roundTrip (pair conduct clock c [] [] a []) command timeout = requestVerdict (reply result) :=
  roundTrip_pair M (request_answered (vacant_holding M _) M.agent (inStep_holding M _) control fits
    answered short)

theorem roundTrip_refused (conduct : Conduct) (clock : Nat) (timeout : Duration) (M : Met c a)
    (command : Command) (other : command.stream ≠ StreamId.control)
    (fits : command.payload.length ≤ payloadLimit) :
    roundTrip (pair conduct clock c [] [] a []) command timeout =
      requestVerdict (.error (.timeout timeout)) :=
  roundTrip_pair M (request_refused (vacant_holding M _) M.agent (inStep_holding M _) other fits)

theorem roundTrip_oversized (conduct : Conduct) (clock : Nat) (timeout : Duration) (M : Met c a)
    (command : Command) (long : payloadLimit < command.payload.length) :
    ∃ reason, roundTrip (pair conduct clock c [] [] a []) command timeout =
      requestVerdict (.error (.invalidArg reason)) := by
  obtain ⟨reason, requested⟩ : ∃ reason,
      ((pair conduct clock (holding c command.stream) [] [] a []).call
        (.request command (some timeout)) none .ofAnswer).2 =
        .ofAnswer (.error (.invalidArg reason)) :=
    request_oversized (vacant_holding M _) M.agent long
  exact ⟨reason, roundTrip_pair M requested⟩

end

/-! ## The arguments -/

/-- The version that an agent for demonstrations tells. -/
def AgentArguments.version (agent : AgentArguments) : Octets :=
  (agent.appVersion.getD programVersion).toUTF8.toList

/-- The exit code of a run. -/
def Outcome.exitCode : Outcome → Nat
  | .exit code _ => code
  | .failed failure => failure.code
  | .arguments error => error.code

/-- What a run reads in place of hexadecimal text: a pair may begin with a plus sign. -/
def ReadText (text : String) (octets : Octets) : Prop :=
  Pairs ReadPair (unspaced text) octets

namespace SendArguments

variable {hex : String → Octets → Prop} {a : SendArguments} {payload : Octets}

/-- The payload that the arguments give, as text or in a notation for octets. -/
def Gives (hex : String → Octets → Prop) (a : SendArguments) (payload : Octets) : Prop :=
  match a.data, a.hex with
  | some text, _ => payload = text.toUTF8.toList
  | none, some text => hex text payload
  | none, none => payload = []

/-- The arguments are in order: the timeout and the payload are written correctly, the stream
exists, and a command can carry the payload. -/
structure InOrder (hex : String → Octets → Prop) (a : SendArguments) : Prop where
  timeout : ∃ d, Duration.Written a.timeout d
  stream : a.stream.toNat < 32
  payload : ∃ payload, a.Gives hex payload ∧ payload.length ≤ 2040

/-- The agent knows the command. -/
def Known (a : SendArguments) : Prop := a.id.subsystem = 5 ∧ (a.id.command = 1 ∨ a.id.command = 2)

/-- No pair of the text for octets begins with a plus sign. -/
def Unsigned (a : SendArguments) : Prop :=
  ∀ text, a.hex = some text → CommandLink.Unsigned (unspaced text)

theorem payload_eq_ok_iff : a.payload = .ok payload ↔ a.Gives ReadText payload := by
  rw [SendArguments.payload, Gives]
  cases a.data with
  | some text => simp [eq_comm]
  | none =>
    cases a.hex with
    | some text => exact Octets.parse_eq_ok_iff
    | none => simp [eq_comm]

theorem usage_of_payload {e : Failure} (h : a.payload = .error e) : e.code = ExitCode.usage := by
  unfold SendArguments.payload at h
  split at h
  · cases h
  · exact Octets.usage_of_parse h
  · cases h

theorem gives_hexText_iff (unsigned : a.Unsigned) :
    a.Gives HexText payload ↔ a.Gives ReadText payload := by
  rw [Gives, Gives]
  cases a.data with
  | some text => rfl
  | none =>
    cases h : a.hex with
    | some text => exact ⟨fun H => H.mono .digits, fun H => H.digits (unsigned text h)⟩
    | none => rfl

theorem inOrder_hexText_iff (unsigned : a.Unsigned) : a.InOrder HexText ↔ a.InOrder ReadText := by
  have given : (∃ payload, a.Gives HexText payload ∧ payload.length ≤ 2040) ↔
      ∃ payload, a.Gives ReadText payload ∧ payload.length ≤ 2040 := by
    simp only [gives_hexText_iff unsigned]
  exact ⟨fun O => ⟨O.timeout, O.stream, given.mp O.payload⟩,
    fun O => ⟨O.timeout, O.stream, given.mpr O.payload⟩⟩

/-- Arguments in order are read, as what they write. -/
theorem InOrder.read (O : a.InOrder ReadText) :
    ∃ d stream payload, Duration.parse a.timeout = .ok d ∧ StreamId.ofOctet a.stream = .ok stream ∧
      a.payload = .ok payload ∧ payload.length ≤ payloadLimit := by
  obtain ⟨d, written⟩ := O.timeout
  obtain ⟨payload, given, short⟩ := O.payload
  have stream : StreamId.ofOctet a.stream = .ok ⟨a.stream.toNat, O.stream⟩ := by
    simp [StreamId.ofOctet, StreamId.ofOctet?, O.stream]
  exact ⟨d, _, payload, Duration.parse_eq_ok_iff.mpr written, stream, payload_eq_ok_iff.mpr given,
    short⟩

end SendArguments

/-! ## Endings -/

/-- How a run ends that sends a command to an agent of a version: by what is wrong with the
arguments first, then by the stream, then by the command. In the raw format the octets of the answer
alone are printed. -/
structure Ends (hex : String → Octets → Prop) (version : Octets) (a : SendArguments)
    (format : OutputFormat) (o : Outcome) : Prop where
  /-- The arguments are not in order. -/
  usage : ¬ a.InOrder hex → o.exitCode = 64
  /-- The stream is not open. -/
  timeout : a.InOrder hex → a.stream ≠ 0 → o.exitCode = 124
  /-- The agent does not know the command. -/
  agentError : a.InOrder hex → a.stream = 0 → ¬ a.Known → o.exitCode = 2
  version : a.InOrder hex → a.stream = 0 → a.id.subsystem = 5 → a.id.command = 1 →
    o = .exit 0 (CommandResult.print ⟨a.stream, a.id, version⟩ format)
  echo : a.InOrder hex → a.stream = 0 → a.id.subsystem = 5 → a.id.command = 2 →
    ∀ payload, a.Gives hex payload →
      o = .exit 0 (CommandResult.print ⟨a.stream, a.id, payload⟩ format)

/-- How a run ends, by what `send` returns. -/
def ending (format : OutputFormat) : Except Failure CommandResult → Outcome
  | .ok result => .exit ExitCode.success (result.print format)
  | .error e => .failed e

theorem run_send {arguments : List String} {socketAt : String → Socket} {a : SendArguments}
    {format : OutputFormat} (parsed : CommandLine.ofArguments arguments = .ok ⟨.send a, format⟩) :
    run arguments socketAt = ending format (send a (socketAt a.path)) := by
  simp only [run, parsed]
  cases send a (socketAt a.path) <;> rfl

section
variable {a : SendArguments} {agent : AgentArguments} {d : Duration} {stream : StreamId}
  {payload : Octets}

/-- Arguments that are read lead to a round trip with an agent that announces itself. -/
theorem send_settled (announces : agent.announce = true)
    (timed : Duration.parse a.timeout = .ok d)
    (exists_stream : StreamId.ofOctet a.stream = .ok stream) (given : a.payload = .ok payload) :
    send a (.serving agent.setup 0) =
      (roundTrip (connected agent d).settle ⟨stream, a.id, payload⟩ d).map
        fun answer => ⟨a.stream, a.id, answer⟩ := by
  simp only [send, timed, exists_stream, given, connect_serving agent announces, bind, Except.bind]
  cases roundTrip (connected agent d).settle ⟨stream, a.id, payload⟩ d <;> rfl

theorem send_roundTrip (announces : agent.announce = true)
    (timed : Duration.parse a.timeout = .ok d)
    (exists_stream : StreamId.ofOctet a.stream = .ok stream) (given : a.payload = .ok payload) :
    ∃ c b, Met c b ∧ send a (.serving agent.setup 0) =
      (roundTrip (pair agent.setup.conduct 0 c [] [] b []) ⟨stream, a.id, payload⟩ d).map
        fun answer => ⟨a.stream, a.id, answer⟩ := by
  obtain ⟨c, b, M, settled⟩ := connected_meets agent d
  exact ⟨c, b, M, settled ▸ send_settled announces timed exists_stream given⟩

/-- The outcome is the same if the wait for the agent begins before its announcement is heard. -/
theorem send_unheard (announces : agent.announce = true)
    (timed : Duration.parse a.timeout = .ok d)
    (exists_stream : StreamId.ofOctet a.stream = .ok stream) (given : a.payload = .ok payload) :
    send a (.serving agent.setup 0) =
      (roundTrip (connected agent d) ⟨stream, a.id, payload⟩ d).map
        fun answer => ⟨a.stream, a.id, answer⟩ := by
  rw [send_settled announces timed exists_stream given, roundTrip_connected]

/-- Arguments that are not in order end in a usage error. -/
theorem send_usage (announces : agent.announce = true) (wrong : ¬ a.InOrder ReadText) :
    ∃ e, send a (.serving agent.setup 0) = .error e ∧ e.code = ExitCode.usage := by
  cases timed : Duration.parse a.timeout with
  | error e =>
    exact ⟨e, by simp only [send, timed, bind, Except.bind], Duration.usage_of_parse timed⟩
  | ok d =>
    cases exists_stream : StreamId.ofOctet a.stream with
    | error e =>
      exact ⟨.usage s!"invalid --stream: {e.text}",
        by simp only [send, timed, exists_stream, bind, Except.bind], rfl⟩
    | ok stream =>
      cases given : a.payload with
      | error e =>
        exact ⟨e, by simp only [send, timed, exists_stream, given, bind, Except.bind],
          SendArguments.usage_of_payload given⟩
      | ok payload =>
        have long : payloadLimit < payload.length := by
          refine Nat.lt_of_not_le fun short => wrong ⟨⟨d, Duration.parse_eq_ok_iff.mp timed⟩, ?_,
            payload, SendArguments.payload_eq_ok_iff.mp given, short⟩
          exact StreamId.val_of_ofOctet exists_stream ▸ stream.isLt
        obtain ⟨c, b, M, sent⟩ := send_roundTrip announces timed exists_stream given
        obtain ⟨reason, refused⟩ := roundTrip_oversized agent.setup.conduct 0 d M
          (⟨stream, a.id, payload⟩ : Command) long
        exact ⟨_, by rw [sent, refused]; rfl, rfl⟩

/-- A command on a stream that is not open ends in a timeout. -/
theorem send_refused (announces : agent.announce = true) (O : a.InOrder ReadText)
    (other : a.stream ≠ 0) :
    ∃ e, send a (.serving agent.setup 0) = .error e ∧ e.code = ExitCode.timeout := by
  obtain ⟨d, stream, payload, timed, exists_stream, given, short⟩ := O.read
  obtain ⟨c, b, M, sent⟩ := send_roundTrip announces timed exists_stream given
  have closed : stream ≠ StreamId.control := mt (StreamId.eq_control_iff exists_stream).mp other
  have refused := roundTrip_refused agent.setup.conduct 0 d M (⟨stream, a.id, payload⟩ : Command)
    closed short
  exact ⟨_, by rw [sent, refused]; rfl, rfl⟩

/-- A command on the control stream ends as the agent answers it. -/
theorem send_answered (announces : agent.announce = true)
    (short : agent.version.length ≤ payloadLimit) (O : a.InOrder ReadText)
    (open_stream : a.stream = 0) :
    ∃ payload, a.Gives ReadText payload ∧ send a (.serving agent.setup 0) =
      (requestVerdict (reply (DemoAgent.answer ⟨agent.version⟩
        ⟨StreamId.control, a.id, payload⟩))).map fun answer => ⟨a.stream, a.id, answer⟩ := by
  obtain ⟨d, stream, payload, timed, exists_stream, given, fits⟩ := O.read
  obtain ⟨c, b, M, sent⟩ := send_roundTrip announces timed exists_stream given
  obtain rfl := (StreamId.eq_control_iff exists_stream).mpr open_stream
  have answered := roundTrip_answered agent.setup.conduct 0 d M
    (⟨StreamId.control, a.id, payload⟩ : Command) rfl fits rfl
    (DemoAgent.length_answer_le short fits)
  exact ⟨payload, SendArguments.payload_eq_ok_iff.mp given, by rw [sent, answered]; rfl⟩

/-- The payload that the arguments give is what they are read as. -/
theorem SendArguments.Gives.unique {payload' : Octets} (G : a.Gives ReadText payload)
    (G' : a.Gives ReadText payload') : payload = payload' := by
  have read := payload_eq_ok_iff.mpr G
  rw [payload_eq_ok_iff.mpr G', Except.ok.injEq] at read
  exact read.symm

theorem ends_read (format : OutputFormat) (announces : agent.announce = true)
    (short : agent.version.length ≤ payloadLimit) :
    Ends ReadText agent.version a format (ending format (send a (.serving agent.setup 0))) where
  usage wrong := by
    obtain ⟨e, failed, code⟩ := send_usage announces wrong
    rw [failed]
    exact code
  timeout O other := by
    obtain ⟨e, failed, code⟩ := send_refused announces O other
    rw [failed]
    exact code
  agentError O open_stream unknown := by
    obtain ⟨payload, -, answered⟩ := send_answered announces short O open_stream
    obtain ⟨status, failure, told⟩ : ∃ status, status ≠ Status.ok ∧ DemoAgent.answer ⟨agent.version⟩
        ⟨StreamId.control, a.id, payload⟩ = .error status := DemoAgent.answer_unknown unknown
    rw [answered, told, reply, if_neg failure]
    rfl
  version O open_stream system command := by
    obtain ⟨payload, -, answered⟩ := send_answered announces short O open_stream
    rw [answered, DemoAgent.answer_version system command]
    rfl
  echo O open_stream system command payload given := by
    obtain ⟨payload', given', answered⟩ := send_answered announces short O open_stream
    rw [answered, DemoAgent.answer_echo system command, given'.unique given]
    rfl

end

theorem Ends.hexText {a : SendArguments} {version : Octets} {format : OutputFormat} {o : Outcome}
    (unsigned : a.Unsigned) (E : Ends ReadText version a format o) :
    Ends HexText version a format o where
  usage wrong := E.usage (mt (SendArguments.inOrder_hexText_iff unsigned).mpr wrong)
  timeout O := E.timeout ((SendArguments.inOrder_hexText_iff unsigned).mp O)
  agentError O := E.agentError ((SendArguments.inOrder_hexText_iff unsigned).mp O)
  version O := E.version ((SendArguments.inOrder_hexText_iff unsigned).mp O)
  echo O open_stream system command payload given :=
    E.echo ((SendArguments.inOrder_hexText_iff unsigned).mp O) open_stream system command payload
      ((SendArguments.gives_hexText_iff unsigned).mp given)

/-- Whatever `send` is asked to send, to whatever stream and with whatever timeout: if an agent for
demonstrations listens whose version fits into a response, the run ends as its arguments, the stream
and the command say. A pair that begins with a plus sign is read as one of digits, so that what
holds of hexadecimal text holds where there is none. A command line that asks for this is run so.
Time has no bound here, so that every timeout that is read has a deadline. -/
theorem send_endings (a : SendArguments) (format : OutputFormat) (agent : AgentArguments)
    (announces : agent.announce = true) (short : agent.version.length ≤ 2040) :
    let outcome := ending format (send a (.serving agent.setup 0))
    (a.Unsigned → Ends HexText agent.version a format outcome) ∧
    Ends ReadText agent.version a format outcome ∧
    ∀ arguments socketAt, CommandLine.ofArguments arguments = .ok ⟨.send a, format⟩ →
      socketAt a.path = .serving agent.setup 0 → run arguments socketAt = outcome := by
  intro outcome
  have ends : Ends ReadText agent.version a format outcome := ends_read format announces short
  refine ⟨fun unsigned => ends.hexText unsigned, ends, fun arguments socketAt parsed served => ?_⟩
  rw [run_send parsed, served]

/-- Two octets are echoed, and on another stream there is no answer. -/
theorem send_endings_echo :
    let agent : AgentArguments := ⟨"/agent", some "9.9.9", true⟩
    let common := ["send", "/agent", "--subsystem", "sys", "--command", "2", "--hex", "0A fF",
      "--format", "raw"]
    agent.announce = true ∧ agent.version.length ≤ 2040 ∧
      run common (fun _ => .serving agent.setup 0) = .exit 0 [0x0A, 0xFF] ∧
      (run (common ++ ["--stream", "1"]) fun _ => .serving agent.setup 0).exitCode = 124 := by
  intro agent common
  have announces : agent.announce = true := rfl
  have short : agent.version.length ≤ 2040 := by
    rw [AgentArguments.version, toUTF8_toList]
    decide
  have timed : ∃ d, Duration.Written "5s" d := ⟨⟨5000000000⟩, Duration.parse_eq_ok_iff.mp rfl⟩
  have given : HexText "0A fF" [0x0A, 0xFF] := Octets.pairs_of_toLower (by decide)
  have unsigned (b : UInt8) :
      (SendArguments.mk "/agent" b ⟨5, 2, 0⟩ none (some "0A fF") "5s").Unsigned := by
    intro text h
    cases h
    decide
  refine ⟨announces, short, ?_, ?_⟩
  · let a : SendArguments := ⟨"/agent", 0, ⟨5, 2, 0⟩, none, some "0A fF", "5s"⟩
    obtain ⟨hex, -, runs⟩ := send_endings a .raw agent announces short
    rw [runs common _ rfl rfl]
    exact (hex (unsigned 0)).echo ⟨timed, by decide, _, given, by decide⟩ rfl rfl rfl _ given
  · let a : SendArguments := ⟨"/agent", 1, ⟨5, 2, 0⟩, none, some "0A fF", "5s"⟩
    obtain ⟨hex, -, runs⟩ := send_endings a .raw agent announces short
    rw [runs (common ++ ["--stream", "1"]) _ rfl rfl]
    exact (hex (unsigned 1)).timeout ⟨timed, by decide, _, given, by decide⟩ (by decide)

/-- A payload that is not hexadecimal is sent and echoed. -/
theorem send_signed :
    let agent : AgentArguments := ⟨"/agent", some "9.9.9", true⟩
    run ["send", "/agent", "--subsystem", "sys", "--command", "2", "--hex", "+5", "--format", "raw"]
        (fun _ => .serving agent.setup 0) = .exit 0 [0x05] ∧
      ¬ ∃ octets, HexText "+5" octets := by
  intro agent
  have short : agent.version.length ≤ payloadLimit := by
    rw [AgentArguments.version, toUTF8_toList]
    decide
  have read : ReadText "+5" [0x05] := .pair (.signed (.decimal (by decide) (by decide))) .nil
  have timed : ∃ d, Duration.Written "5s" d := ⟨⟨5000000000⟩, Duration.parse_eq_ok_iff.mp rfl⟩
  let a : SendArguments := ⟨"/agent", 0, ⟨5, 2, 0⟩, none, some "+5", "5s"⟩
  constructor
  · have ends : Ends ReadText agent.version a .raw
        (ending .raw (send a (.serving agent.setup 0))) := ends_read .raw rfl short
    have parsed : CommandLine.ofArguments ["send", "/agent", "--subsystem", "sys", "--command", "2",
        "--hex", "+5", "--format", "raw"] = .ok ⟨.send a, .raw⟩ := rfl
    rw [run_send parsed]
    exact ends.echo ⟨timed, by decide, _, read, by decide⟩ rfl rfl rfl _ read
  · rintro ⟨octets, H⟩
    exact absurd H.unsigned (by decide)

end Cli
end CommandLink
