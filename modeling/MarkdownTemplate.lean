import MarkdownTemplate.CommandLine
import MarkdownTemplate.Heading.Fields
import MarkdownTemplate.Inclusion.Fields
import MarkdownTemplate.Main
import MarkdownTemplate.Proofs.BlankRuns
import MarkdownTemplate.Proofs.ClosingSegments
import MarkdownTemplate.Proofs.DecoratedHeadings
import MarkdownTemplate.Proofs.Handlers
import MarkdownTemplate.Proofs.Invocations
import MarkdownTemplate.Proofs.ListedHeadings
import MarkdownTemplate.Proofs.LogBrackets
import MarkdownTemplate.Proofs.OptionValues
import MarkdownTemplate.Proofs.PathTexts
import MarkdownTemplate.Proofs.Quotations
import MarkdownTemplate.Proofs.Relocation
import MarkdownTemplate.Proofs.Rendering
import MarkdownTemplate.Proofs.SeamLines
import MarkdownTemplate.Proofs.Seams
import MarkdownTemplate.Proofs.SharedDocument
import MarkdownTemplate.Proofs.ShownPaths
import MarkdownTemplate.Proofs.Unreported
