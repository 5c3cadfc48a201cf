import Textbase.Text.Basic

/-! Environment variables. -/
namespace Textbase

abbrev Environment := List (Text × Text)

namespace Environment

def get? (env : Environment) (name : Text) : Option Text := env.lookup name

def getD (env : Environment) (name default : Text) : Text := (env.get? name).getD default

end Environment

end Textbase
