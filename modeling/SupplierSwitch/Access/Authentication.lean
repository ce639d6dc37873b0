import SupplierSwitch.Access.Claims
import SupplierSwitch.Journal
import SupplierSwitch.Text.Lowercase

namespace SupplierSwitch

/-!
# Authentication

Who is calling, from the value of an authorization header: the bearer scheme in any case, a space,
and a known token that is valid now and names a participant. Every failure has its own cause.
-/

/-- Why a caller is not authenticated. -/
inductive AuthenticationError where
  | missingHeader
  | unsupportedScheme (scheme : String)
  | invalidToken (reason : String)
  deriving DecidableEq, Repr

/-- The wording of an authentication error. -/
def AuthenticationError.message : AuthenticationError → String
  | .missingHeader => "no authorization header present"
  | .unsupportedScheme scheme => "unsupported authorization scheme '" ++ scheme ++ "'"
  | .invalidToken reason => "invalid token: " ++ reason

/-- The name of a cause. -/
def AuthenticationError.name : AuthenticationError → String
  | .missingHeader => "MissingAuthorizationHeader"
  | .unsupportedScheme _ => "UnsupportedScheme"
  | .invalidToken _ => "InvalidToken"

/-- The error of a named cause. -/
def AuthenticationError.ofName? (name detail : String) : Option AuthenticationError :=
  [.missingHeader, .unsupportedScheme detail, .invalidToken detail].find? (·.name = name)

/-- An authenticated participant. -/
structure Actor where
  gln : GlnNumber
  roles : List MarketRole
  deriving DecidableEq

namespace Actor

/-- The participant holds a role. -/
def hasRole (a : Actor) (role : MarketRole) : Bool :=
  a.roles.contains role

/-- The participant is the one of a GLN, blanks around it aside. -/
def actsAs (a : Actor) (gln : String) : Bool :=
  a.gln.text = Text.trim gln

end Actor

namespace Authentication

/-- The scheme of a trimmed header and what follows its first space. -/
def splitScheme (header : List Char) : List Char × List Char :=
  (header.takeWhile (· ≠ ' '), (header.dropWhile (· ≠ ' ')).drop 1)

/-- The token of a bearer header. -/
def bearerToken (header : String) : Except AuthenticationError String :=
  let (scheme, rest) := splitScheme (Text.trimmed header.toList)
  if scheme.map Char.toLower ≠ "bearer".toList then
    .error (.unsupportedScheme (String.ofList scheme))
  else if Text.trimmed rest = [] then .error (.invalidToken "empty bearer token")
  else .ok (String.ofList (Text.trimmed rest))

/-- The participant that a header authenticates at an instant. -/
def check (header : Option String) (tokens : TokenTable) (now : Timestamp) :
    Except AuthenticationError Actor := do
  let some header := header | throw .missingHeader
  let token ← bearerToken header
  let claims ← (tokens.validate token now).mapError (.invalidToken ·.message)
  let gln ← (GlnNumber.parse claims.actorGln).mapError (.invalidToken ·.message)
  pure ⟨gln, claims.roles⟩

/-- Authenticate with a notice of the outcome. -/
def authenticate (header : Option String) (tokens : TokenTable) (now : Timestamp) :
    Noted (Except AuthenticationError Actor) :=
  match check header tokens now with
  | .ok actor => ⟨.ok actor, [.actorAuthenticated actor.gln]⟩
  | .error e => ⟨.error e, [.authenticationFailed e.message]⟩

end Authentication

end SupplierSwitch
