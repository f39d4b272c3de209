import ClipExchange.Bytes.Lemmas
import ClipExchange.Clipboard.Memory
import ClipExchange.Json.Codec
import ClipExchange.Main
import ClipExchange.Proofs.Clipboard.Agreement
import ClipExchange.Proofs.Clipboard.DesktopReads
import ClipExchange.Proofs.Clipboard.DesktopWrites
import ClipExchange.Proofs.Clipboard.Images
import ClipExchange.Proofs.Clipboard.Negotiation
import ClipExchange.Proofs.Clipboard.ReadingBack
import ClipExchange.Proofs.Clipboard.Sessions
import ClipExchange.Proofs.Clipboard.Store
import ClipExchange.Proofs.Clipboard.Watching
import ClipExchange.Proofs.Command.Configuration
import ClipExchange.Proofs.Command.Packing
import ClipExchange.Proofs.Command.PrintedLines
import ClipExchange.Proofs.Command.Printing
import ClipExchange.Proofs.Command.Storing
import ClipExchange.Proofs.Format.Asking
import ClipExchange.Proofs.Format.Names
import ClipExchange.Proofs.Format.Spellings
import ClipExchange.Proofs.Format.Texts
import ClipExchange.Proofs.Json.Normalising
import ClipExchange.Proofs.Stream.Delivery
import ClipExchange.Proofs.Stream.FailingReads
import ClipExchange.Proofs.Stream.Forwarding
import ClipExchange.Proofs.Stream.Messages
import ClipExchange.Proofs.Stream.SizeLimits
import ClipExchange.Proofs.Stream.TornWrites
import ClipExchange.Proofs.Text.Canonical
import ClipExchange.Proofs.Text.Identifier
import ClipExchange.Proofs.Transaction.Exchange
import ClipExchange.Proofs.Transaction.Lifecycle
import ClipExchange.Proofs.Wire.Prefixes
import ClipExchange.Proofs.Wire.Shortest
