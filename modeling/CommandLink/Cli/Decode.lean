import CommandLink.Cli.Output
import CommandLink.Wire.Frame
import CommandLink.Wire.Sync

/-! # Describing a frame

What `decode` says of a frame: its header, what the header of its payload says, and the octets that
follow it. Frames of other kinds have no such header, and a kind without a name is shown by its
number. -/

namespace CommandLink
namespace Cli

/-- A 32-bit word in hexadecimal. -/
def wordText (w : UInt32) : String := "0x" ++ Octets.toHex (Octets.ofWord32 w).reverse

/-- An error, with what was being decoded. -/
def decoding (context : String) : Except WireError α → Except Failure α
  | .ok a => .ok a
  | .error e => .error (.ofWire context e)

/-- What the header of a payload says, and what follows it. -/
def describePayload (kind : Option FrameKind) (payload : Octets) :
    Except Failure (Option String × Octets) :=
  match kind with
  | some .command => do
    let header ← decoding "bad command header" (CommandHeader.decode payload)
    return (some (commandLabel header.id), payload.drop payloadHeaderSize)
  | some .response => do
    let header ← decoding "bad response header" (ResponseHeader.decode payload)
    return (some s!"{commandLabel header.id} result={header.status.name}",
      payload.drop payloadHeaderSize)
  | some .event => do
    let header ← decoding "bad event header" (EventHeader.decode payload)
    return (some s!"{Subsystem.label header.subsystem} event={header.event.toNat}",
      payload.drop payloadHeaderSize)
  | some .syncRequest => do
    let request ← decoding "bad sync request" (SyncRequest.decode payload)
    return (some s!"token={wordText request.token}", [])
  | some .syncResponse => do
    let response ← decoding "bad sync response" (SyncResponse.decode payload)
    let lastSeen := match response.lastSeen with
      | some seq => toString seq.val
      | none => "none"
    return (some (s!"token={wordText response.token} last_seen={lastSeen}"
      ++ s!" version={response.version.toNat}"), [])
  | _ => return (none, payload)

/-- Describes a frame. -/
def describe (octets : Octets) : Except Failure FrameReport := do
  let (header, payload) ← decoding "bad frame" (Frame.decode octets)
  let kind := FrameKind.ofCode? header.kind
  let (detail, body) ← describePayload kind payload
  let name := match kind with
    | some k => k.name
    | none => s!"UNKNOWN({header.kind.toNat})"
  return ⟨name, header.seq, header.stream, header.length, detail, body⟩

end Cli
end CommandLink
