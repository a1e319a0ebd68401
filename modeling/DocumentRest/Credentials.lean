import DocumentRest.Text.Quoted

namespace DocumentRest

structure Credentials where
  username : String
  password : String
  deriving DecidableEq

/-- Credentials as they may stand in a log, which never shows the password. -/
def Credentials.display (c : Credentials) : String :=
  "Credentials \x7b username: " ++ Text.quoted c.username ++ ", password: " ++
    Text.quoted "***" ++ " \x7d"

instance : Repr Credentials := ⟨fun c _ => c.display⟩

end DocumentRest
