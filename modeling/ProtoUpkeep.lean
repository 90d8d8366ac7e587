import ProtoUpkeep.Config.Json
import ProtoUpkeep.Config.Record
import ProtoUpkeep.Status.Plan
import ProtoUpkeep.Tree.Codegen
import ProtoUpkeep.Tree.Imports
import ProtoUpkeep.CommandLine.Arguments
import ProtoUpkeep.CommandLine.Console
import ProtoUpkeep.CommandLine.Fetch
import ProtoUpkeep.CommandLine.RewriteImports
import ProtoUpkeep.CommandLine.Run
import ProtoUpkeep.Proofs.Status.Sessions
import ProtoUpkeep.Proofs.Status.CommentSync
import ProtoUpkeep.Proofs.Status.OtherLines
import ProtoUpkeep.Proofs.Status.PutGet
import ProtoUpkeep.Proofs.Status.Simultaneous
import ProtoUpkeep.Proofs.Status.ReadBack
import ProtoUpkeep.Proofs.Status.CommentText
import ProtoUpkeep.Proofs.Status.EnumText
import ProtoUpkeep.Proofs.Status.EnumBodies
import ProtoUpkeep.Proofs.Status.Identifiers
import ProtoUpkeep.Proofs.Status.InsertedBlocks
import ProtoUpkeep.Proofs.Status.SyncRun
import ProtoUpkeep.Proofs.Tree.Copies
import ProtoUpkeep.Proofs.Tree.Flattening
import ProtoUpkeep.Proofs.Tree.FlatLines
import ProtoUpkeep.Proofs.Tree.Refetch
import ProtoUpkeep.Proofs.Status.CodeOrder
import ProtoUpkeep.Proofs.Status.LineEnds
import ProtoUpkeep.Proofs.Files.AtomicWrite
import ProtoUpkeep.Proofs.Tree.Resolution
import ProtoUpkeep.Proofs.Status.DeclarationLines
import ProtoUpkeep.Proofs.Files.Backups
import ProtoUpkeep.Proofs.Tree.CopyReports
import ProtoUpkeep.Proofs.Config.SavedSettings
import ProtoUpkeep.Proofs.Tree.Visits
