import Walkthrough.LooseInt
import Walkthrough.Walk.Trace
import Walkthrough.Walk.Preorder
import Walkthrough.Report.Format
import Walkthrough.Json.Reader
import Walkthrough.Tree.Table
import Walkthrough.Files.Loading
import Walkthrough.Service.Response
import Walkthrough.Settings
import Walkthrough.Text.Shown
import Walkthrough.Service.Session
import Walkthrough.Command.Run
import Walkthrough.Main
import Walkthrough.Proofs.LooseInt.Value
import Walkthrough.Proofs.LooseInt.Entries
import Walkthrough.Tree.Occurrence
import Walkthrough.Proofs.Walk.Recursion
import Walkthrough.Proofs.Walk.Bounds
import Walkthrough.Proofs.Trace.Timeline
import Walkthrough.Proofs.Trace.Constructs
import Walkthrough.Proofs.Trace.Comments
import Walkthrough.Proofs.Walk.Subtree
import Walkthrough.Proofs.Json.OneLine
import Walkthrough.Proofs.Service.Lines
import Walkthrough.Proofs.Service.Session
import Walkthrough.Proofs.Trace.Fields
import Walkthrough.Service.Server
import Walkthrough.Proofs.Service.Interleaving
import Walkthrough.Proofs.Except
import Walkthrough.Proofs.Command.AllOrNothing
import Walkthrough.Proofs.Command.Agreement
import Walkthrough.Proofs.Service.Params
import Walkthrough.Proofs.Json.KeyOrder
import Walkthrough.Proofs.Command.Arguments
import Walkthrough.Proofs.Files.Writing
import Walkthrough.Proofs.Files.Folder
import Walkthrough.Proofs.Service.Stages
import Walkthrough.Proofs.Text.ByteOrder
import Walkthrough.Proofs.Files.Names
import Walkthrough.Proofs.Files.Tree
import Walkthrough.Proofs.Files.Sources
import Walkthrough.Proofs.Trace.Declarators
import Walkthrough.Proofs.Report.Timeline
import Walkthrough.Proofs.Report.Flowchart
import Walkthrough.Proofs.Report.Document
import Walkthrough.Proofs.Trace.Kinds
