import HoprTypes.Crypto.Types

/-!
# Errors of the core types

The error type of tickets, channels and acknowledgements, and the texts that
errors print.
-/

set_option autoImplicit false

namespace HoprTypes.Internal

open HoprTypes.Primitive HoprTypes.Crypto

inductive CoreTypesError where
  | invalidInputData (message : String)
  | parseError (what : String)
  | invalidAcknowledgement
  | loopbackTicket
  | ticketNotWinning
  | invalidMultiaddr (message : String)
  | cryptoError (cause : CryptoError)
  | generalError (cause : GeneralError)
deriving DecidableEq, Repr

namespace CoreTypesError

def display : CoreTypesError → String
  | invalidInputData message => message
  | parseError what => "failed to parse/deserialize the data of " ++ what
  | invalidAcknowledgement => "packet acknowledgement could not be verified"
  | loopbackTicket =>
      "cannot acknowledge self-signed tickets. Ticket sender and recipient must be different"
  | ticketNotWinning => "ticket is not winning"
  | invalidMultiaddr message => message
  | cryptoError cause => cause.display
  | generalError cause => cause.display

end CoreTypesError

end HoprTypes.Internal
