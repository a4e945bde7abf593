import CommandLink.Cli.Values
import CommandLink.Text.Quoted
import CommandLink.Text.Table
import CommandLink.Wire.Sequence

/-! # What the command line prints

The result of a command and a decoded frame, each in four formats: a record on one line, a table, a
plain line, and the payload's octets alone. -/

namespace CommandLink
namespace Cli

inductive OutputFormat
  | json
  | table
  | pretty
  | raw
  deriving DecidableEq

/-- A line of text as it is written. -/
def lineOctets (s : String) : Octets := (s ++ "\n").toUTF8.toList

/-- A command by the label of its subsystem and its numbers. -/
def commandLabel (id : CommandId) : String :=
  s!"{Subsystem.label id.subsystem}/{id.command.toNat}/{id.subcommand.toNat}"

/-- The result of a command that went well. -/
structure CommandResult where
  stream : UInt8
  id : CommandId
  payload : Octets

def CommandResult.print (r : CommandResult) : OutputFormat → Octets
  | .json =>
    lineOctets (recordLine [
      ("stream", .number r.stream.toNat),
      ("subsystem", .text (Subsystem.label r.id.subsystem)),
      ("command", .number r.id.command.toNat),
      ("subcommand", .number r.id.subcommand.toNat),
      ("status", .text Status.ok.name),
      ("payload_size", .number r.payload.length),
      ("payload", .text r.payload.preview)])
  | .table =>
    (Table.render ["STREAM", "COMMAND", "STATUS", "SIZE", "PAYLOAD"]
      [toString r.stream.toNat, commandLabel r.id, Status.ok.name, toString r.payload.length,
        r.payload.preview]).toUTF8.toList
  | .pretty =>
    lineOctets (s!"stream={r.stream.toNat} command={commandLabel r.id} status={Status.ok.name}"
      ++ s!" size={r.payload.length} payload=" ++ r.payload.preview)
  | .raw => r.payload

/-- What a frame holds. -/
structure FrameReport where
  kind : String
  seq : SeqNum
  stream : UInt8
  length : UInt16
  /-- What the header of the payload says, for the kinds that have one. -/
  detail : Option String
  /-- What follows that header. -/
  payload : Octets

def FrameReport.print (r : FrameReport) : OutputFormat → Octets
  | .json =>
    lineOctets (recordLine ([
      ("packet_type", .text r.kind),
      ("seq", .number r.seq.val),
      ("stream", .number r.stream.toNat),
      ("length", .number r.length.toNat)]
      ++ (r.detail.map fun d => ("m2m", FieldValue.text d)).toList
      ++ [("payload_size", .number r.payload.length),
        ("payload", .text r.payload.preview)]))
  | .table =>
    (Table.render ["TYPE", "SEQ", "STREAM", "LENGTH", "M2M", "PAYLOAD"]
      [r.kind, toString r.seq.val, toString r.stream.toNat, toString r.length.toNat,
        r.detail.getD "-", r.payload.preview]).toUTF8.toList
  | .pretty =>
    let detail := match r.detail with
      | some d => " m2m=" ++ d
      | none => ""
    lineOctets (s!"type={r.kind} seq={r.seq.val} stream={r.stream.toNat}"
      ++ s!" length={r.length.toNat}" ++ detail ++ " payload=" ++ r.payload.preview)
  | .raw => r.payload

end Cli
end CommandLink
