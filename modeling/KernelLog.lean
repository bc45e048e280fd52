import KernelLog.Concurrent
import KernelLog.Main
import KernelLog.Process
import KernelLog.Proofs.LoggerLives
import KernelLog.Proofs.MemoryRefinement
import KernelLog.Proofs.RecordStreams
import KernelLog.Proofs.SubmittedRecords
import KernelLog.Proofs.FailedWrites
import KernelLog.Proofs.ChannelContents
import KernelLog.Proofs.ConcurrentCalls
import KernelLog.Proofs.Configurations
import KernelLog.Proofs.SharedLogger
import KernelLog.Proofs.Installations
import KernelLog.Proofs.BridgedReports
import KernelLog.Proofs.LineEdits
import KernelLog.Proofs.PrintedTexts
import KernelLog.Proofs.RoutedTags
import KernelLog.Proofs.NamedChannels
import KernelLog.Proofs.ForwardedMessages
import KernelLog.Proofs.RewrittenTags
import KernelLog.Proofs.EventFrames
import KernelLog.Proofs.PropertyKeys
import KernelLog.Proofs.HiddenTails
import KernelLog.Proofs.LongestKeys
import KernelLog.Proofs.ReadDocuments
import KernelLog.Proofs.DocumentEntries
import KernelLog.Proofs.AcceptedDocuments
import KernelLog.Proofs.LayeredConfigurations
import KernelLog.Proofs.OverriddenDirectories
import KernelLog.Proofs.CheckedRecords
import KernelLog.Proofs.FailedAssertions
import KernelLog.Proofs.InsertedQuestions
import KernelLog.Proofs.CommandRuns
