import Textbase.Environment
import Textbase.Text.Whitespace

/-! What a session is set up with. -/
namespace Textbase.Shell

structure Settings where
  /-- Base address of a service; without one the session has a database of its own. -/
  server : Option Text
  outputDirectory : Text
  logLevel : Text

/-- A base address without whitespace around it and slashes after it, unless nothing is left. -/
def readServer? (t : Text) : Option Text :=
  let u := ((Text.trim t).reverse.dropWhile (· == '/')).reverse
  if u.isEmpty then none else some u

def Settings.ofEnvironment (env : Environment) : Settings where
  server := (env.get? "TXT2DB_SERVER".toList).bind readServer?
  outputDirectory := env.getD "TXT2DB_OUTPUT_DIR".toList "outputs".toList
  logLevel := env.getD "TXT2DB_LOG".toList "warn".toList

end Textbase.Shell
