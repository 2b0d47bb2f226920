import NgxNats.Verif.Soundness
import NgxNats.Verif.Handshake
import NgxNats.Verif.Lifetime
import NgxNats.Verif.Atomicity
import NgxNats.Verif.Outgoing
import NgxNats.Verif.Startup
import NgxNats.Verif.Alternation
import NgxNats.Verif.ConnectedOnce
import NgxNats.Verif.Gate
import NgxNats.Verif.Rounds
import NgxNats.Model.Module
import NgxNats.Lib.Outcome
import NgxNats.Verif.JsonGrammar
import NgxNats.Verif.JsonStrings
import NgxNats.Verif.JsonAtoms
import NgxNats.Verif.JsonDialect
import NgxNats.Model.JsonPrint
import NgxNats.Verif.JsonRoundTrip
import NgxNats.Model.Config
import NgxNats.Verif.Credentials
import NgxNats.Verif.Decoding
import NgxNats.Verif.Beyond
import NgxNats.Verif.Growth
import NgxNats.Verif.JsonScratch
import NgxNats.Verif.Lines
import NgxNats.Verif.Flushing
import NgxNats.Verif.Survival
import NgxNats.Verif.SurvivalRuns
import NgxNats.Verif.KeepAlive
import NgxNats.Verif.FirstBytes
import NgxNats.Verif.Replies
import NgxNats.Verif.Within
import NgxNats.Verif.ReadRoom
import NgxNats.Verif.TokenShape
import NgxNats.Verif.Terminators
import NgxNats.Verif.JsonIntegers
import NgxNats.Verif.JsonBounds
import NgxNats.Verif.RandomPeriod
import NgxNats.Verif.InboxNames
import NgxNats.Lib.Turns
import NgxNats.Verif.Stream
import NgxNats.Verif.Wire
import NgxNats.Verif.StreamRecord
import NgxNats.Verif.StreamDispatch
import NgxNats.Verif.StreamReader
import NgxNats.Verif.StreamReceive
import NgxNats.Verif.Chunks
import NgxNats.Verif.Transcript
import NgxNats.Verif.Outflow
import NgxNats.Verif.Commands
import NgxNats.Lib.Broker
import NgxNats.Verif.Handover
import NgxNats.Verif.Modes
import NgxNats.Verif.Announcements
