import Textbase.Environment
import Textbase.Number.Decimal

/-! Where the service listens and how much it logs. -/
namespace Textbase.Service

structure Settings where
  host : Text
  portNumber : UInt16
  logLevel : Text

/-- Decimal digits, after a plus sign or not, of a number that fits 16 bits. -/
def readPortNumber? (t : Text) : Option UInt16 :=
  let ds := match t with
    | '+' :: u => u
    | u => u
  if ds.isEmpty || !ds.all Char.isDigit then none
  else
    let n := Decimal.natOfDigits ds
    if n < UInt16.size then some (UInt16.ofNat n) else none

namespace Settings

/-- What does not read as a number of that size is as good as nothing. -/
def ofEnvironment (env : Environment) : Settings where
  host := env.getD "TXT2DB_HOST".toList "127.0.0.1".toList
  portNumber := ((env.get? "TXT2DB_PORT".toList).bind readPortNumber?).getD 8080
  logLevel := env.getD "TXT2DB_LOG_LEVEL".toList "info".toList

def bindAddress (s : Settings) : Text := s.host ++ ':' :: Text.ofNat s.portNumber.toNat

end Settings

end Textbase.Service
