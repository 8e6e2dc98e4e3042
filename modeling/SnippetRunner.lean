import SnippetRunner.Policy
import SnippetRunner.Scaffold
import SnippetRunner.Diagnostic
import SnippetRunner.Settings.Document
import SnippetRunner.Settings.Starter
import SnippetRunner.Settings.File
import SnippetRunner.Cgroup
import SnippetRunner.Run.Live
import SnippetRunner.Context.Session
import SnippetRunner.Request.Pipeline
import SnippetRunner.Worker.Flow
import SnippetRunner.Worker.Serve
import SnippetRunner.CommandLine.Commands
import SnippetRunner.Main
import SnippetRunner.Proofs.PolicyScan
import SnippetRunner.Proofs.TextCut
import SnippetRunner.Proofs.TokenNames
import SnippetRunner.Proofs.AllowedPaths
import SnippetRunner.Proofs.BoxSharing
import SnippetRunner.Proofs.LexedLines
import SnippetRunner.Proofs.TreeParts
import SnippetRunner.Proofs.UseLines
import SnippetRunner.Proofs.WholeProgram
import SnippetRunner.Proofs.TextLines
import SnippetRunner.Proofs.SnippetLines
import SnippetRunner.Proofs.Redaction
import SnippetRunner.Proofs.Teardown.Backend
import SnippetRunner.Proofs.Teardown.Keeper
import SnippetRunner.Proofs.Teardown.Shared
import SnippetRunner.Proofs.Teardown.OneProgram
import SnippetRunner.Proofs.Teardown.Site
import SnippetRunner.Proofs.Teardown.LiveCount
import SnippetRunner.Proofs.Teardown.FreeBoxes
import SnippetRunner.Proofs.SupervisedRun
import SnippetRunner.Proofs.TemporaryDirectories
import SnippetRunner.Proofs.Requests.Supplies
import SnippetRunner.Proofs.Requests.Traffic
import SnippetRunner.Proofs.FailedRuns
import SnippetRunner.Proofs.Requests.Histories
import SnippetRunner.Proofs.Requests.Leftovers
import SnippetRunner.Proofs.Requests.Progress
import SnippetRunner.Proofs.Requests.Concurrent
import SnippetRunner.Proofs.Requests.Alone
import SnippetRunner.Proofs.Teardown.IdBalance
import SnippetRunner.Proofs.FirstBox
import SnippetRunner.Proofs.Octets
import SnippetRunner.Proofs.WrittenJson
import SnippetRunner.Proofs.Worker.Stream
import SnippetRunner.Proofs.Worker.Replies
import SnippetRunner.Proofs.Worker.Delivery
import SnippetRunner.Proofs.Worker.MalformedLines
import SnippetRunner.Proofs.Deadlines
import SnippetRunner.Proofs.AccountReadings
import SnippetRunner.Proofs.WrittenFiles
import SnippetRunner.Proofs.ReadyGroup
import SnippetRunner.Proofs.FlatLevels
import SnippetRunner.Proofs.Attributes
import SnippetRunner.Proofs.WiderLists
import SnippetRunner.Proofs.NamespaceGrammar
import SnippetRunner.Proofs.HiddenText
import SnippetRunner.Proofs.Locations
import SnippetRunner.Proofs.ErrorLines
import SnippetRunner.Proofs.WrittenAccounts
import SnippetRunner.Proofs.Teardown.AfterDestroy
import SnippetRunner.Proofs.TruncatedText
import SnippetRunner.Proofs.ShownValues
import SnippetRunner.Proofs.KeeperCommands
import SnippetRunner.Proofs.MountArguments
import SnippetRunner.Proofs.FileChanges
import SnippetRunner.Proofs.GroupFiles
import SnippetRunner.Proofs.Builds
import SnippetRunner.Proofs.BoxPaths
import SnippetRunner.Proofs.Records
import SnippetRunner.Proofs.PlainDocuments
import SnippetRunner.Proofs.SettingKeys
