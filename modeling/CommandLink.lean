import CommandLink.Datalink.Loopback
import CommandLink.Main
import CommandLink.Proofs.Datalink.BufferLemmas
import CommandLink.Proofs.Datalink.PacketRoundTrip
import CommandLink.Proofs.Datalink.SlipRoundTrip
import CommandLink.Proofs.Datalink.SlipGrammar
import CommandLink.Proofs.Datalink.SlipResync
import CommandLink.Proofs.Datalink.PacketFormat
import CommandLink.Proofs.Datalink.Crc16Register
import CommandLink.Proofs.Datalink.BurstErrors
import CommandLink.Proofs.Datalink.SerialFifo
import CommandLink.Proofs.Datalink.FrameLimit
import CommandLink.Proofs.Datalink.BufferRegion
import CommandLink.Proofs.Wire.Numbering
import CommandLink.Proofs.Datalink.FrameLink
import CommandLink.Proofs.Endpoint.Ear
import CommandLink.Proofs.Controller.Hearing
import CommandLink.Proofs.Controller.Speech
import CommandLink.Proofs.Agent.Speech
import CommandLink.Proofs.Agent.Hearing
import CommandLink.Proofs.Controller.Host
import CommandLink.Proofs.Agent.Host
import CommandLink.Proofs.Dialogue.Basic
import CommandLink.Proofs.Dialogue.Agreement
import CommandLink.Proofs.Controller.Forecast
import CommandLink.Proofs.Agent.Routing
import CommandLink.Proofs.Agent.Prepared
import CommandLink.Proofs.Dialogue.FailedSends
import CommandLink.Proofs.Agent.Service
import CommandLink.Proofs.Controller.Requests
import CommandLink.Proofs.Dialogue.Requests
import CommandLink.Proofs.Agent.Progress
import CommandLink.Proofs.Controller.Progress
import CommandLink.Proofs.Dialogue.Progress
import CommandLink.Proofs.Controller.Sync
import CommandLink.Proofs.Agent.Sync
import CommandLink.Proofs.Dialogue.Resync
import CommandLink.Proofs.Wire.Passage
import CommandLink.Proofs.Wire.FrameReaders
import CommandLink.Proofs.Wire.PayloadFormats
import CommandLink.Proofs.Endpoint.Intake
import CommandLink.Proofs.Controller.Intake
import CommandLink.Proofs.Agent.Arrivals
import CommandLink.Proofs.Agent.Intake
import CommandLink.Proofs.Endpoint.LossyLink
import CommandLink.Proofs.Agent.Attendance
import CommandLink.Proofs.Agent.Answers
import CommandLink.Proofs.Controller.Handle
import CommandLink.Proofs.Controller.LateAnswers
import CommandLink.Proofs.Controller.BackPressure
import CommandLink.Proofs.Controller.Receptions
import CommandLink.Proofs.Controller.Malformed
import CommandLink.Proofs.Agent.Emissions
import CommandLink.Proofs.Controller.Arrivals
import CommandLink.Proofs.Dialogue.Validity
import CommandLink.Proofs.Dialogue.Restarts
import CommandLink.Proofs.Controller.SyncAnswers
import CommandLink.Proofs.Controller.Readiness
import CommandLink.Proofs.Agent.Numbers
import CommandLink.Proofs.Dialogue.Readiness
import CommandLink.Proofs.Controller.Shutdown
import CommandLink.Proofs.Agent.Shutdown
import CommandLink.Proofs.Dialogue.Events
import CommandLink.Proofs.Agent.Deeds
import CommandLink.Proofs.Agent.LossReports
import CommandLink.Proofs.Agent.Reactions
import CommandLink.Proofs.Dialogue.Exhaustion
import CommandLink.Proofs.Agent.Succession
import CommandLink.Proofs.Agent.Turns
import CommandLink.Proofs.Agent.Seasons
import CommandLink.Proofs.Octets.HexText
import CommandLink.Proofs.Datalink.LoopbackFifo
import CommandLink.Proofs.Cli.Description
import CommandLink.Proofs.Cli.Understanding
import CommandLink.Proofs.Session.SerialPair
import CommandLink.Proofs.Session.Conversation
import CommandLink.Proofs.Session.RoundTrip
import CommandLink.Proofs.Cli.DurationText
import CommandLink.Proofs.Cli.Sending
import CommandLink.Proofs.Endpoint.SlotThreads
import CommandLink.Proofs.Endpoint.SlotFifo
