import XmppStream.Config.Read
import XmppStream.Session.Login
import XmppStream.StartTls.Handshake
import XmppStream.StartTls.Upgrade
import XmppStream.Proofs.Markup.Splitting
import XmppStream.Proofs.Node.Editing
import XmppStream.Proofs.Reader.Alike
import XmppStream.Proofs.Reader.Expanding
import XmppStream.Proofs.Reader.Limit
import XmppStream.Proofs.Reader.Openings
import XmppStream.Proofs.Reader.Report
import XmppStream.Proofs.Reader.RoundTrip
import XmppStream.Proofs.Reader.TopLevel
import XmppStream.Proofs.Reader.Transparent
import XmppStream.Proofs.Reader.Wrapping
import XmppStream.Proofs.Sasl.Finality
import XmppStream.Proofs.Sasl.Grammar
import XmppStream.Proofs.Sasl.Secrecy
import XmppStream.Proofs.Sasl.Selection
import XmppStream.Proofs.Session.Accounting
import XmppStream.Proofs.Session.Backlog
import XmppStream.Proofs.Session.Login
import XmppStream.Proofs.Session.Pacing
import XmppStream.Proofs.StartTls.Consent
