import CatalogRspec.Files.Tree
import CatalogRspec.Main
import CatalogRspec.Proofs.Catalog.Acceptance
import CatalogRspec.Proofs.Catalog.Layouts
import CatalogRspec.Proofs.Catalog.Schema
import CatalogRspec.Proofs.Catalog.Unwrapping
import CatalogRspec.Proofs.Catalog.Violations
import CatalogRspec.Proofs.CommandLine.ClassOption
import CatalogRspec.Proofs.CommandLine.Gathering
import CatalogRspec.Proofs.CommandLine.Layers
import CatalogRspec.Proofs.CommandLine.Obstacle
import CatalogRspec.Proofs.CommandLine.Run
import CatalogRspec.Proofs.CommandLine.Stages
import CatalogRspec.Proofs.CommandLine.Uses
import CatalogRspec.Proofs.Digest.HexText
import CatalogRspec.Proofs.Files.Directories
import CatalogRspec.Proofs.Files.Growth
import CatalogRspec.Proofs.Files.Paths
import CatalogRspec.Proofs.Filter.Building
import CatalogRspec.Proofs.Filter.Keeping
import CatalogRspec.Proofs.Filter.References
import CatalogRspec.Proofs.Generator.CheckModes
import CatalogRspec.Proofs.Generator.NullParameters
import CatalogRspec.Proofs.Generator.Outcome
import CatalogRspec.Proofs.Generator.Selection
import CatalogRspec.Proofs.Generator.Strictness
import CatalogRspec.Proofs.Json.Erasure
import CatalogRspec.Proofs.Json.Induction
import CatalogRspec.Proofs.Json.Members
import CatalogRspec.Proofs.Json.NumberText
import CatalogRspec.Proofs.Json.NumberValue
import CatalogRspec.Proofs.Json.Reading
import CatalogRspec.Proofs.Json.Rounding
import CatalogRspec.Proofs.Json.Shortest
import CatalogRspec.Proofs.Literal.Content
import CatalogRspec.Proofs.Literal.Delimited
import CatalogRspec.Proofs.Literal.Denotation
import CatalogRspec.Proofs.Literal.Inline
import CatalogRspec.Proofs.Literal.KeyWidth
import CatalogRspec.Proofs.Literal.Lexing
import CatalogRspec.Proofs.Literal.Nesting
import CatalogRspec.Proofs.Literal.PrettyLayout
import CatalogRspec.Proofs.Literal.PrettyReadBack
import CatalogRspec.Proofs.Literal.ReadBack
import CatalogRspec.Proofs.Literal.Reader
import CatalogRspec.Proofs.Literal.Skeleton
import CatalogRspec.Proofs.Literal.Strings
import CatalogRspec.Proofs.Literal.Unescaped
import CatalogRspec.Proofs.Log.Effects
import CatalogRspec.Proofs.Log.Except
import CatalogRspec.Proofs.Log.Traced
import CatalogRspec.Proofs.Options.Contents
import CatalogRspec.Proofs.Options.Entries
import CatalogRspec.Proofs.Options.History
import CatalogRspec.Proofs.Options.Merging
import CatalogRspec.Proofs.Options.Spellings
import CatalogRspec.Proofs.RootClass.Choice
import CatalogRspec.Proofs.RootClass.Inference
import CatalogRspec.Proofs.RootClass.Naming
import CatalogRspec.Proofs.Spec.Assembly
import CatalogRspec.Proofs.Spec.Description
import CatalogRspec.Proofs.Spec.Erasure
import CatalogRspec.Proofs.Spec.ExampleReadBack
import CatalogRspec.Proofs.Spec.Layout
import CatalogRspec.Proofs.Spec.NullParameters
import CatalogRspec.Proofs.Spec.Offence
import CatalogRspec.Proofs.Spec.Overwriting
import CatalogRspec.Proofs.Spec.ParamsBlock
import CatalogRspec.Proofs.Spec.Passages
import CatalogRspec.Proofs.Spec.ReadBack
import CatalogRspec.Proofs.Spec.Reader
import CatalogRspec.Proofs.Spec.Skeleton
import CatalogRspec.Proofs.Spec.TypeName
import CatalogRspec.Proofs.Spec.Writing
import CatalogRspec.Proofs.Text.AllChars
import CatalogRspec.Proofs.Text.Backslash
import CatalogRspec.Proofs.Text.Escaping
import CatalogRspec.Proofs.Text.Lines
import CatalogRspec.Proofs.Text.Marks
import CatalogRspec.Proofs.Text.Splitting
import CatalogRspec.Proofs.Text.StandardEscapes
import CatalogRspec.Proofs.Text.Trimming
import CatalogRspec.Proofs.Unicode.Lowercase
