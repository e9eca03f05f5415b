import BrowserScript.CommandLine.FileTree
import BrowserScript.Json.Document
import BrowserScript.Main
import BrowserScript.Proofs.Banner.Provenance
import BrowserScript.Proofs.Baseline.FirstUse
import BrowserScript.Proofs.BuildCourse
import BrowserScript.Proofs.CommandLine.Run
import BrowserScript.Proofs.Json.RoundTrip
import BrowserScript.Proofs.Minification.PureCall
import BrowserScript.Proofs.Reading.Closer
import BrowserScript.Proofs.Reading.Document
import BrowserScript.Proofs.Reading.ItemScan
import BrowserScript.Proofs.Wrapper.LineEnding
import BrowserScript.Proofs.Wrapper.OpenLiteral
import BrowserScript.Proofs.Wrapper.Renaming
import BrowserScript.Proofs.Wrapper.Surroundings
import BrowserScript.Proofs.Wrapper.Trivia
import BrowserScript.Proofs.Bytes.LiteralGrammar
import BrowserScript.Proofs.Bytes.ScanSearch
import BrowserScript.Proofs.Handle.Scope
