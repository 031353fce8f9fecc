import Typings.Main
import Typings.Proofs.FileSystem.Tree
import Typings.Proofs.FileSystem.Resolution
import Typings.Proofs.FileSystem.Agreement
import Typings.Proofs.Path.Steps
import Typings.Proofs.FileSystem.Replacement
import Typings.Proofs.FileSystem.AllOrNothing
import Typings.Proofs.FileSystem.Descent
import Typings.Proofs.FileSystem.Undisturbed
import Typings.Proofs.FileSystem.Walk
import Typings.Proofs.Generate.Output
import Typings.Proofs.Generate.Apart
import Typings.Proofs.Generate.Kept
import Typings.Proofs.Generate.Leaks
import Typings.Proofs.Generate.Steady
import Typings.Proofs.Generate.WholeRun
import Typings.Proofs.FileSystem.Answer
import Typings.Proofs.FileSystem.Order
import Typings.Proofs.Generate.Among
import Typings.Proofs.Generate.AnyOrder
import Typings.Proofs.Generate.Again
import Typings.Proofs.Generate.FailFast
import Typings.Proofs.FileSystem.Making
import Typings.Proofs.Program.EarlyEnd
import Typings.Proofs.Declaration.References
import Typings.Proofs.Declaration.Lines
import Typings.Proofs.Declaration.Legible
import Typings.Proofs.Generate.DryRun
import Typings.Proofs.FileSystem.Reach
import Typings.Proofs.Generate.Unwalkable
import Typings.Proofs.Shape.Acceptance
import Typings.Proofs.Yaml.Refusal
import Typings.Proofs.Settings.Precedence
import Typings.Proofs.Generate.Failures
import Typings.Proofs.Program.Endings
import Typings.Proofs.Program.Coherence
import Typings.Proofs.FileSystem.Without
import Typings.Proofs.Program.JsonReport
import Typings.Proofs.Program.Verbosity
import Typings.Proofs.Descriptor.Acceptance
import Typings.Proofs.Descriptor.Loading
import Typings.Proofs.Program.Render
import Typings.Proofs.Generate.Footprint
import Typings.Proofs.FileSystem.Traversal
import Typings.Proofs.Program.PlainTable
import Typings.Proofs.Console.Brackets
import Typings.Proofs.Console.Escape
import Typings.Proofs.Console.Wrap
import Typings.Proofs.Console.Verbatim
import Typings.Proofs.Console.Faultless
import Typings.Proofs.Declaration.Layout
import Typings.Proofs.Declaration.Statements
import Typings.Proofs.Declaration.Emitted
import Typings.Proofs.Text.Decoding
import Typings.Proofs.Descriptor.LineEnds
import Typings.Proofs.Declaration.Calls
import Typings.Proofs.Generate.Renaming
import Typings.Proofs.Declaration.Names
