import Notices.Api.Handler
import Notices.Database
import Notices.Json.Writer
import Notices.Markup.Substitute
import Notices.Mask
import Notices.Proofs.Gate
import Notices.Proofs.Audit
import Notices.Proofs.Meaning
import Notices.Proofs.History
import Notices.Proofs.Escape
import Notices.Proofs.Independence
import Notices.Proofs.Interleaving
import Notices.Proofs.Recent
import Notices.Proofs.Refusal
import Notices.Proofs.Absence
import Notices.Proofs.Client
import Notices.Proofs.Replacement
import Notices.Proofs.Reply
import Notices.Proofs.Status
import Notices.Proofs.TestSend
import Notices.Proofs.HeaderLines
import Notices.Proofs.Influence
import Notices.Proofs.Filling
import Notices.Proofs.Settled
import Notices.Proofs.PhoneNumber
import Notices.Proofs.WholeNumber
import Notices.Proofs.NumericPhone
import Notices.Proofs.Form
import Notices.Proofs.Context
import Notices.Proofs.UnknownTrigger
import Notices.Proofs.OddDocuments
import Notices.Proofs.OpenClients
import Notices.Proofs.MaskedNumber
import Notices.Proofs.TagPlace
