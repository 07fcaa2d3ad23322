import BindingRegions.Main
import BindingRegions.Proofs.CommandLine.ExitCode
import BindingRegions.Proofs.Files.Edits
import BindingRegions.Proofs.Files.Spelling
import BindingRegions.Proofs.Region.Rewrite
import BindingRegions.Proofs.Run.CheckMode
import BindingRegions.Proofs.Run.Convergence
import BindingRegions.Proofs.Run.Writes
import BindingRegions.Proofs.Run.Quiet
import BindingRegions.Proofs.Run.Reread
import BindingRegions.Proofs.Text.Lowercase
import BindingRegions.Proofs.Fragment.LineBreaks
import BindingRegions.Proofs.Schema.Document
import BindingRegions.Proofs.Fragment.Bracket
import BindingRegions.Proofs.Region.Revision
import BindingRegions.Proofs.Run.OneFile
import BindingRegions.Proofs.Region.Outside
import BindingRegions.Proofs.Run.History
import BindingRegions.Proofs.Run.Isolation
import BindingRegions.Proofs.Run.Ending
import BindingRegions.Proofs.Run.Policy
import BindingRegions.Proofs.Run.Respelled
import BindingRegions.Proofs.Fragment.Recovery
import BindingRegions.Proofs.Region.Shown
import BindingRegions.Proofs.Run.Staleness
import BindingRegions.Proofs.Target.Session
import BindingRegions.Proofs.Target.Schedule
import BindingRegions.Proofs.Region.Repeated
import BindingRegions.Proofs.Region.Disjoint
import BindingRegions.Proofs.Region.LineEndings
import BindingRegions.Proofs.Region.Bounds
import BindingRegions.Proofs.Schema.Grammar
import BindingRegions.Proofs.Schema.FirstFault
import BindingRegions.Proofs.Yaml.Charset
import BindingRegions.Proofs.Yaml.Cursor
import BindingRegions.Proofs.Yaml.Folding
import BindingRegions.Proofs.Yaml.Words
import BindingRegions.Proofs.Yaml.PlainScalar
import BindingRegions.Proofs.Text.Hex
import BindingRegions.Proofs.Yaml.QuotedScalar
import BindingRegions.Proofs.Yaml.Quotes
import BindingRegions.Proofs.Yaml.BlockScalar
import BindingRegions.Proofs.Yaml.Literal
import BindingRegions.Proofs.Yaml.Layout
import BindingRegions.Proofs.Yaml.Fields
import BindingRegions.Proofs.Yaml.ScalarText
import BindingRegions.Proofs.Yaml.Node
import BindingRegions.Proofs.Config.Decoding
import BindingRegions.Proofs.Config.Tokens
import BindingRegions.Proofs.Config.SaveLoad
