import VehicleShow.Main
import VehicleShow.Event.Document
import VehicleShow.Proofs.FrameTimes
import VehicleShow.Proofs.MatrixView
import VehicleShow.Proofs.Ownership
import VehicleShow.Proofs.CompiledCell
import VehicleShow.Proofs.ClosureChannels
import VehicleShow.Proofs.CommandSpan
import VehicleShow.Proofs.LightChannels
import VehicleShow.Proofs.Concatenation
import VehicleShow.Proofs.HeaderCodec
import VehicleShow.Proofs.SequenceRoundTrip
import VehicleShow.Proofs.SequenceAcceptance
import VehicleShow.Proofs.ExportedShow
import VehicleShow.Proofs.Shortening
import VehicleShow.Proofs.Reordering
import VehicleShow.Proofs.Delay
import VehicleShow.Proofs.CommandBudget
import VehicleShow.Proofs.Splitting
import VehicleShow.Proofs.TransitionReplay
import VehicleShow.Proofs.Json.Grammar
import VehicleShow.Proofs.Json.NumberTokens
import VehicleShow.Proofs.Json.Lexing
import VehicleShow.Proofs.Json.Documents
import VehicleShow.Proofs.Json.Reading
import VehicleShow.Proofs.Json.Refusing
import VehicleShow.Proofs.Json.Printing
import VehicleShow.Proofs.Json.Members
import VehicleShow.Proofs.Event.Drafts
import VehicleShow.Proofs.Event.Writing
import VehicleShow.Proofs.Event.Refusing
import VehicleShow.Proofs.ShareAcceptance
import VehicleShow.Proofs.Event.Reading
import VehicleShow.Proofs.EventListForms
import VehicleShow.Proofs.ShareRoundTrip
import VehicleShow.Proofs.StrayChannels
import VehicleShow.Proofs.TransitionTimes
import VehicleShow.Proofs.Console.CompileRun
import VehicleShow.Proofs.Console.InspectRun
import VehicleShow.Proofs.BudgetReport
import VehicleShow.Proofs.CommandBlock
import VehicleShow.Proofs.Event.Arrangement
import VehicleShow.Proofs.CheckedRun
import VehicleShow.Proofs.Blinking
import VehicleShow.Proofs.Easing
import VehicleShow.Proofs.OwnOptions
import VehicleShow.Proofs.Json.Skipping
import VehicleShow.Proofs.Json.Spelling
import VehicleShow.Proofs.Json.Records
import VehicleShow.Proofs.Settings.Overlay
