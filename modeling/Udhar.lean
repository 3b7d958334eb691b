import Udhar.AddRent
import Udhar.Admin.GetData
import Udhar.Admin.PaymentsPage
import Udhar.Admin.ViewData
import Udhar.Alone
import Udhar.Books
import Udhar.CardTiles
import Udhar.Forms
import Udhar.Handlers
import Udhar.LeftPages
import Udhar.Login
import Udhar.Navigation
import Udhar.Otp
import Udhar.OtpField
import Udhar.PasswordReset
import Udhar.Payments.Atomicity
import Udhar.Payments.Chargeable
import Udhar.Payments.Conservation
import Udhar.Payments.Ledger
import Udhar.Payments.Once
import Udhar.Payments.PayOff
import Udhar.Payments.RealTotal
import Udhar.Payments.Refresh
import Udhar.Payments.Saves
import Udhar.Payments.Settled
import Udhar.Payments.Shown
import Udhar.PhoneNumbers
import Udhar.ProfileStore
import Udhar.RentScreen
import Udhar.SaveChanges
import Udhar.Search
import Udhar.SearchPages
import Udhar.Stacks
import Udhar.Stored
