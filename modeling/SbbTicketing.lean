import SbbTicketing.QtCore
import SbbTicketing.Runs
import SbbTicketing.HandleStore
import SbbTicketing.RnpChecks
import SbbTicketing.KeyManagerChecks
import SbbTicketing.TicketOwnershipChecks
import SbbTicketing.TicketInspectorChecks
import SbbTicketing.PlainRnp
import SbbTicketing.IdentificationTokenCore
import SbbTicketing.IssuedCodes
import SbbTicketing.WindowCore
import SbbTicketing.SessionChecks
import SbbTicketing.HonestTokens
import SbbTicketing.KeyAgreement
import SbbTicketing.StaticTickets
import SbbTicketing.TicketAuthenticity
import SbbTicketing.TokenAge
import SbbTicketing.TokenCountdown
import SbbTicketing.CodeFormats
import SbbTicketing.FallbackCodes
import SbbTicketing.InspectorState
import SbbTicketing.TicketList
import SbbTicketing.TokenLifecycle
import SbbTicketing.BookingReferences
import SbbTicketing.Principals
import SbbTicketing.VerificationStages
import SbbTicketing.JsonText
import SbbTicketing.KeyRequest
import SbbTicketing.HandleLedger
import SbbTicketing.Outcomes
import SbbTicketing.RnpScopes
import SbbTicketing.HandleSafety
import SbbTicketing.KeyManagerLifetimes
import SbbTicketing.Grids
import SbbTicketing.InspectorControl
import SbbTicketing.LoginChecks
import SbbTicketing.QrCodeGenCore
import SbbTicketing.QrCodeImages
import SbbTicketing.ShownCodes
import SbbTicketing.Simulations
import SbbTicketing.ApplicationCore
import SbbTicketing.ApplicationRuns
import SbbTicketing.BookingHistory
import SbbTicketing.ControlCompleteness
import SbbTicketing.ProcessHandles
import SbbTicketing.UserKeys
