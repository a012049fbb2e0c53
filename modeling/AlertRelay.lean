import AlertRelay.Discord.Session
import AlertRelay.Log.Journal
import AlertRelay.Main
import AlertRelay.Proofs.Alert
import AlertRelay.Proofs.Command.Agreement
import AlertRelay.Proofs.Command.Disclosure
import AlertRelay.Proofs.Command.Logging
import AlertRelay.Proofs.Discord.Answers
import AlertRelay.Proofs.Discord.Diagnosis
import AlertRelay.Proofs.Discord.Identity
import AlertRelay.Proofs.Discord.Message
import AlertRelay.Proofs.Discord.Ordering
import AlertRelay.Proofs.Discord.Session
import AlertRelay.Proofs.Discord.Wording
import AlertRelay.Proofs.Log.Journal
import AlertRelay.Proofs.Settings.Acceptance
import AlertRelay.Proofs.Settings.Alert
import AlertRelay.Proofs.Settings.Emptying
import AlertRelay.Proofs.Settings.Sections
import AlertRelay.Proofs.Settings.Validity
import AlertRelay.Proofs.Settings.Writing
