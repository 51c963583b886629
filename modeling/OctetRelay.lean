import OctetRelay.Main
import OctetRelay.Script
import OctetRelay.Shutdown
import OctetRelay.Settings.Numeral
import OctetRelay.Settings.Writing
import OctetRelay.Proofs.Fate
import OctetRelay.Proofs.Steps
import OctetRelay.Proofs.Relay
import OctetRelay.Proofs.StopPoint
import OctetRelay.Proofs.Conservation
import OctetRelay.Proofs.Grammar
import OctetRelay.Proofs.RoundTrip
import OctetRelay.Proofs.PlannedEnd
import OctetRelay.Proofs.TopicSearch
import OctetRelay.Proofs.Session
import OctetRelay.Proofs.Isolation
import OctetRelay.Proofs.Ending
import OctetRelay.Proofs.Lookups
import OctetRelay.Proofs.OffsetText
import OctetRelay.Proofs.WrittenLayer
import OctetRelay.Proofs.ReadLayer
import OctetRelay.Proofs.Precedence
import OctetRelay.Proofs.FileLayer
import OctetRelay.Proofs.ClientSettings
import OctetRelay.Proofs.Cancellation
import OctetRelay.Proofs.FirstBlock
import OctetRelay.Proofs.SelfDelimiting
import OctetRelay.Proofs.Elements
import OctetRelay.Proofs.Appending
import OctetRelay.Proofs.Trimming
import OctetRelay.Proofs.LineByLine
import OctetRelay.Proofs.WrittenProperties
import OctetRelay.Proofs.OffsetForms
import OctetRelay.Proofs.Responsiveness
import OctetRelay.Proofs.EarlierTopics
import OctetRelay.Proofs.PartitionEnds
import OctetRelay.Proofs.EndCounter
import OctetRelay.Proofs.OutputSize
import OctetRelay.Proofs.Description
import OctetRelay.Proofs.UnquotedText
import OctetRelay.Proofs.EnvironmentText
import OctetRelay.Proofs.HandleFamilies
import OctetRelay.Proofs.TreeFrames
import OctetRelay.Proofs.LogRemoval
