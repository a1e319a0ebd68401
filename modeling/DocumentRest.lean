import DocumentRest.Body
import DocumentRest.Client
import DocumentRest.Command
import DocumentRest.Config
import DocumentRest.Console
import DocumentRest.Endpoint
import DocumentRest.Json.Record
import DocumentRest.Main
import DocumentRest.Offline
import DocumentRest.Program
import DocumentRest.Proofs.Journal
import DocumentRest.Proofs.Performance
import DocumentRest.Proofs.Memory
import DocumentRest.Proofs.Reach
import DocumentRest.Proofs.Recollection
import DocumentRest.Proofs.SessionCredentials
import DocumentRest.Proofs.SessionProtocol
import DocumentRest.Proofs.ModeIndependence
import DocumentRest.Proofs.Utf8Reading
import DocumentRest.Proofs.PercentEncoding
import DocumentRest.Proofs.RequestEncoding
import DocumentRest.Proofs.CommandLanguage
import DocumentRest.Proofs.CredentialSecrecy
import DocumentRest.Proofs.ProgramRun
import DocumentRest.Proofs.InputLines
import DocumentRest.Proofs.ConsoleSteps
import DocumentRest.Proofs.SettingsInForce
import DocumentRest.Proofs.UnbrokenUrls
import DocumentRest.Proofs.BodyPrinting
import DocumentRest.Proofs.SettingsRoundTrip
import DocumentRest.Proofs.LineLayout
import DocumentRest.Proofs.Reporting
import DocumentRest.Proofs.FieldLookup
import DocumentRest.Proofs.SettingsReading
import DocumentRest.Proofs.PathSegments
import DocumentRest.Proofs.PathDisplay
import DocumentRest.Proofs.SessionEnd
import DocumentRest.Proofs.QuotedTexts
