import Console.Calculator.Grammar
import Console.Main
import Console.Session.Desk
import Console.Proofs.Session.Reachable
import Console.Proofs.Session.Transport
import Console.Proofs.Session.Coherence
import Console.Proofs.Screen
import Console.Proofs.Session.Settled
import Console.Proofs.Session.Restart
import Console.Proofs.Transcript.Typed
import Console.Proofs.Transcript.Segments
import Console.Proofs.Calculator.Draft
import Console.Proofs.Calculator.Derivation
import Console.Proofs.Calculator.Integers
import Console.Proofs.Calculator.Exactness
import Console.Proofs.Calculator.Viable
import Console.Proofs.Calculator.Offence
import Console.Proofs.Calculator.Lexemes
import Console.Proofs.Session.Typed
import Console.Proofs.Command
import Console.Proofs.History.Search
import Console.Proofs.History
import Console.Proofs.Screen.Mirror
import Console.Proofs.Session.Outcome
import Console.Proofs.Session.Shielded
import Console.Proofs.Json.Scalar
import Console.Proofs.Store.Block
import Console.Proofs.Store.Document
import Console.Proofs.Files.Growth
import Console.Proofs.Files.Writing
import Console.Proofs.Store.File
import Console.Proofs.Store.Requests
import Console.Proofs.Session.Trail
import Console.Proofs.Session.Alone
import Console.Proofs.Session.Reset
import Console.Proofs.Session.Exchanges
import Console.Proofs.Session.Notices
import Console.Proofs.Screen.Recall
import Console.Proofs.Session.Overlap
import Console.Proofs.Text.Parts
import Console.Proofs.Text.Octets
import Console.Proofs.Text.Numeral
import Console.Proofs.Files.Parents
import Console.Proofs.Files.Failing
import Console.Proofs.Store.Failing
import Console.Proofs.Session.Unreadable
import Console.Proofs.Entries
import Console.Proofs.Toml.Strings
import Console.Proofs.Toml.Lines
import Console.Proofs.Toml.Sections
import Console.Proofs.Settings.Layers
import Console.Proofs.Settings.Overrides
import Console.Proofs.Settings.Document
import Console.Proofs.Settings.Saving
import Console.Proofs.Calculator.Descent
import Console.Proofs.Store.Healthy
import Console.Proofs.Session.Alike
import Console.Proofs.Settings.Spelling
import Console.Proofs.Binary64.Nearest
import Console.Proofs.Shell
