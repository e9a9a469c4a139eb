import Turnstile.Main
import Turnstile.Settings.Text
import Turnstile.Proofs.Agreement
import Turnstile.Proofs.FailClosed
import Turnstile.Proofs.Traffic
import Turnstile.Proofs.BestMatch
import Turnstile.Proofs.JsonMap
import Turnstile.Proofs.JsonText
import Turnstile.Proofs.JsonSame
import Turnstile.Proofs.CanonicalKey
import Turnstile.Proofs.Matching
import Turnstile.Proofs.Policies
import Turnstile.Proofs.Coherence
import Turnstile.Proofs.Building
import Turnstile.Proofs.Credentials
import Turnstile.Proofs.Paths
import Turnstile.Proofs.Access
import Turnstile.Proofs.Refusals
import Turnstile.Proofs.Universal
import Turnstile.Proofs.Weight
import Turnstile.Proofs.Widening
import Turnstile.Proofs.PrivilegeSets
import Turnstile.Proofs.Grants
import Turnstile.Proofs.Replay
import Turnstile.Proofs.Reordering
import Turnstile.Proofs.HeadOnly
import Turnstile.Proofs.Presenting
import Turnstile.Proofs.Entries
import Turnstile.Proofs.JsonGrammar
import Turnstile.Proofs.SettingsText
import Turnstile.Proofs.ByteWeight
import Turnstile.Proofs.Shares
