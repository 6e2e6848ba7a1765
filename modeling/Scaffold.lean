import Scaffold.Main
import Scaffold.Program
import Scaffold.Proofs.Content
import Scaffold.Proofs.Name.Identifier
import Scaffold.Proofs.Path.Join
import Scaffold.Proofs.Text.Ascii
import Scaffold.Proofs.Template.Filling
import Scaffold.Proofs.Rendering
import Scaffold.Proofs.Name.Request
import Scaffold.Proofs.Artifact.Apart
import Scaffold.Proofs.Cpp.Token
import Scaffold.Proofs.Cpp.Line
import Scaffold.Proofs.Cpp.Form
import Scaffold.Proofs.Spelling
import Scaffold.Proofs.Plan
import Scaffold.Proofs.Outline
import Scaffold.Proofs.Agreement
import Scaffold.Proofs.Cpp.Quoted
import Scaffold.Proofs.Path.Normal
import Scaffold.Proofs.Include
import Scaffold.Proofs.FileTree.Set
import Scaffold.Proofs.FileTree.Leads
import Scaffold.Proofs.FileTree.Growth
import Scaffold.Proofs.FileTree.Change
import Scaffold.Proofs.Step
import Scaffold.Proofs.Name.Acceptance
import Scaffold.Proofs.Asking
import Scaffold.Proofs.Repetition
import Scaffold.Proofs.Call
import Scaffold.Proofs.History
import Scaffold.Proofs.FileTree.Plain
import Scaffold.Proofs.FileTree.Below
import Scaffold.Proofs.Obstacle
import Scaffold.Proofs.Session
import Scaffold.Proofs.Interleaving
import Scaffold.Proofs.Artifact.Below
import Scaffold.Proofs.Placement
import Scaffold.Proofs.Concurrency
import Scaffold.Proofs.Program
import Scaffold.Proofs.ReadBack
import Scaffold.Proofs.DryRun
import Scaffold.Proofs.ExitCode
import Scaffold.Proofs.Order
import Scaffold.Proofs.Include.Acyclic
import Scaffold.Proofs.Inheritance
import Scaffold.Proofs.Writing
import Scaffold.Proofs.FileTree.Refill
import Scaffold.Proofs.Path.Parent
import Scaffold.Proofs.FileTree.Inside
import Scaffold.Proofs.Artifact.Target
import Scaffold.Proofs.Preparation
import Scaffold.Proofs.Distinct
import Scaffold.Proofs.Success
import Scaffold.Proofs.Template.Reached
import Scaffold.Proofs.Template.Lines
import Scaffold.Proofs.Path.Depth
import Scaffold.Proofs.Root
import Scaffold.Proofs.Containment
import Scaffold.Proofs.FileTree.FreeName
import Scaffold.Proofs.Ensuring
import Scaffold.Proofs.CommandLine.Wording
import Scaffold.Proofs.CommandLine.Reading
import Scaffold.Proofs.CommandLine.Taking
import Scaffold.Proofs.Understanding
import Scaffold.Proofs.Include.Parent
import Scaffold.Proofs.Text.Visible
import Scaffold.Proofs.LogEntry
import Scaffold.Proofs.Event
import Scaffold.Proofs.Log
import Scaffold.Proofs.Name.Folding
