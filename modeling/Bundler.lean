import Bundler.Build.Compiler
import Bundler.Build.Hooks
import Bundler.Build.Output
import Bundler.Build.Project
import Bundler.Build.Search
import Bundler.CommandLine.Arguments
import Bundler.CommandLine.LogFilter
import Bundler.CommandLine.Program
import Bundler.CommandLine.Similarity
import Bundler.Config.Basic
import Bundler.Config.Decode
import Bundler.Config.Load
import Bundler.Host.Basic
import Bundler.Host.FileTree
import Bundler.Host.World
import Bundler.Main
import Bundler.Module.Bundle
import Bundler.Module.Graph
import Bundler.Module.Id
import Bundler.Number.Binary64
import Bundler.Path.Basic
import Bundler.Path.Segments
import Bundler.Pattern.Basic
import Bundler.Pattern.CharSet
import Bundler.Pattern.Parser
import Bundler.Proofs.Build.Again
import Bundler.Proofs.Build.Course
import Bundler.Proofs.Build.Guard
import Bundler.Proofs.Build.Moves
import Bundler.Proofs.Build.Observed
import Bundler.Proofs.Build.Output
import Bundler.Proofs.Build.Placed
import Bundler.Proofs.Build.Related
import Bundler.Proofs.Build.Restored
import Bundler.Proofs.Build.Run
import Bundler.Proofs.Build.Sources
import Bundler.Proofs.Build.Swap
import Bundler.Proofs.Build.Table
import Bundler.Proofs.Build.Writable
import Bundler.Proofs.Host.Calls
import Bundler.Proofs.Host.Changes
import Bundler.Proofs.Host.FileTree
import Bundler.Proofs.Host.Gives
import Bundler.Proofs.Host.Leads
import Bundler.Proofs.Host.Operations
import Bundler.Proofs.Host.Reading
import Bundler.Proofs.Host.Trial
import Bundler.Proofs.Host.Way
import Bundler.Proofs.Module.Extension
import Bundler.Proofs.Module.Graph
import Bundler.Proofs.Module.Id
import Bundler.Proofs.Module.Inside
import Bundler.Proofs.Module.Normal
import Bundler.Proofs.Module.Ordered
import Bundler.Proofs.Module.Resolve
import Bundler.Proofs.Module.Specifier
import Bundler.Proofs.Path.Basic
import Bundler.Proofs.Path.Component
import Bundler.Proofs.Path.Lead
import Bundler.Proofs.Path.Segments
import Bundler.Proofs.Project.Catalogue
import Bundler.Proofs.Project.Ending
import Bundler.Proofs.Project.Files
import Bundler.Proofs.Project.Graph
import Bundler.Proofs.Project.Related
import Bundler.Proofs.Project.Relocation
import Bundler.Proofs.Project.Rounds
import Bundler.Proofs.Script.Binding
import Bundler.Proofs.Script.Carries
import Bundler.Proofs.Script.Dependencies
import Bundler.Proofs.Script.Export
import Bundler.Proofs.Script.Expression
import Bundler.Proofs.Script.Hygiene
import Bundler.Proofs.Script.Require
import Bundler.Proofs.Script.Scanner
import Bundler.Proofs.Script.Scope
import Bundler.Proofs.Script.Sites
import Bundler.Proofs.Script.Statement
import Bundler.Proofs.Script.Tape
import Bundler.Proofs.Script.Tree
import Bundler.Proofs.Search.Alike
import Bundler.Proofs.Search.Bracketed
import Bundler.Proofs.Search.Ending
import Bundler.Proofs.Search.Outcome
import Bundler.Proofs.Search.Reached
import Bundler.Proofs.Search.Recursion
import Bundler.Proofs.Search.Rounds
import Bundler.Proofs.Search.Run
import Bundler.Proofs.Search.Sound
import Bundler.Proofs.Search.Step
import Bundler.Proofs.Text.Literal
import Bundler.Proofs.Text.Pieces
import Bundler.Proofs.Transform.Basic
import Bundler.Proofs.Transform.Rule
import Bundler.Script.Comment
import Bundler.Script.Context
import Bundler.Script.Literal
import Bundler.Script.Operator
import Bundler.Script.Parse
import Bundler.Script.Parse.Basic
import Bundler.Script.Parse.Expression
import Bundler.Script.Parse.Function
import Bundler.Script.Parse.Name
import Bundler.Script.Parse.Pattern
import Bundler.Script.Parse.Statement
import Bundler.Script.Printer
import Bundler.Script.Reader
import Bundler.Script.Require
import Bundler.Script.Scanner
import Bundler.Script.Sheet
import Bundler.Script.Syntax
import Bundler.Script.Token
import Bundler.Text.Blank
import Bundler.Text.ByteOrderMark
import Bundler.Text.CaseFold
import Bundler.Text.Category
import Bundler.Text.Debug
import Bundler.Text.Hex
import Bundler.Text.Identifier
import Bundler.Text.Location
import Bundler.Text.Pieces
import Bundler.Text.Quoted
import Bundler.Text.Width
import Bundler.Toml.Reader
import Bundler.Toml.Value
import Bundler.Transform.Basic
import Bundler.Transform.Registry
import Bundler.Transform.Rule
