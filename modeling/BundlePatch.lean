import BundlePatch.Alias
import BundlePatch.Anchor
import BundlePatch.Backup
import BundlePatch.Brackets
import BundlePatch.CommandLine
import BundlePatch.Console
import BundlePatch.Edit
import BundlePatch.Fault
import BundlePatch.File.Copy
import BundlePatch.File.Error
import BundlePatch.File.Path
import BundlePatch.File.Source
import BundlePatch.File.System
import BundlePatch.File.Utf8
import BundlePatch.Main
import BundlePatch.Patch
import BundlePatch.Pattern.Basic
import BundlePatch.Pattern.Search
import BundlePatch.Preview
import BundlePatch.Program
import BundlePatch.Proofs.AddressText
import BundlePatch.Proofs.Again
import BundlePatch.Proofs.AnchorGrammar
import BundlePatch.Proofs.AnchorText
import BundlePatch.Proofs.AnyScanner
import BundlePatch.Proofs.Bundle
import BundlePatch.Proofs.ByteExact
import BundlePatch.Proofs.Candidates
import BundlePatch.Proofs.Composing
import BundlePatch.Proofs.Convergence
import BundlePatch.Proofs.Copying
import BundlePatch.Proofs.Delimiters
import BundlePatch.Proofs.DryRun
import BundlePatch.Proofs.Enclosure
import BundlePatch.Proofs.Encoding
import BundlePatch.Proofs.Ending
import BundlePatch.Proofs.Extent
import BundlePatch.Proofs.FileTree
import BundlePatch.Proofs.HeaderSearch
import BundlePatch.Proofs.History
import BundlePatch.Proofs.Imports
import BundlePatch.Proofs.Innermost
import BundlePatch.Proofs.Joints
import BundlePatch.Proofs.Language
import BundlePatch.Proofs.LocalNames
import BundlePatch.Proofs.Names
import BundlePatch.Proofs.Nesting
import BundlePatch.Proofs.Outcome
import BundlePatch.Proofs.Pass
import BundlePatch.Proofs.Previews
import BundlePatch.Proofs.Restoring
import BundlePatch.Proofs.Rewriting
import BundlePatch.Proofs.RunFiles
import BundlePatch.Proofs.Status
import BundlePatch.Proofs.Storing
import BundlePatch.Proofs.Surroundings
import BundlePatch.Proofs.WellFormed
import BundlePatch.Routine
import BundlePatch.Run
import BundlePatch.Saving
import BundlePatch.Settings
import BundlePatch.Stamp
import BundlePatch.Text.Alphanumeric
import BundlePatch.Text.Class
import BundlePatch.Text.CodeSet
import BundlePatch.Text.Decimal
import BundlePatch.Text.Hex
import BundlePatch.Text.Printable
import BundlePatch.Text.Quoted
import BundlePatch.Text.Slice
