import SupplierSwitch.Market.Identifier

namespace SupplierSwitch

/-!
# Actor claims

What a token says about the participant that presents it, and when it may be used: from the instant
of issue up to, but not including, the instant of expiry.
-/

/-- A role that a participant may hold. -/
inductive MarketRole where
  | energySupplier
  | gridOperator
  | balanceResponsibleParty
  | meteredDataResponsible
  deriving DecidableEq, Repr

namespace MarketRole

/-- The name of a role. -/
def name : MarketRole → String
  | energySupplier => "energy_supplier"
  | gridOperator => "grid_operator"
  | balanceResponsibleParty => "balance_responsible_party"
  | meteredDataResponsible => "metered_data_responsible"

instance : ToString MarketRole := ⟨name⟩

/-- Read the name of a role. -/
def ofJson : Reader MarketRole :=
  Json.readVariant ([energySupplier, gridOperator, balanceResponsibleParty,
    meteredDataResponsible].map fun role => (role.name, role))

/-- The name of a role. -/
def toJson (role : MarketRole) : Json :=
  .string role.name

end MarketRole

/-- The claims of a token. -/
structure ActorClaims where
  actorGln : String
  roles : List MarketRole
  issuedAt : Timestamp
  expiresAt : Timestamp
  deriving DecidableEq

/-- Why a token is refused. -/
inductive TokenError where
  | expired
  | notYetValid
  /-- The token expires no later than it was issued. -/
  | invalidTimeWindow
  | rejected (reason : String)
  deriving DecidableEq, Repr

/-- The wording of a token error. -/
def TokenError.message : TokenError → String
  | .expired => "token has expired"
  | .notYetValid => "token not yet valid (issued_at is in the future)"
  | .invalidTimeWindow => "invalid token time window (expires_at <= issued_at)"
  | .rejected reason => "token rejected: " ++ reason

/-- The name of a cause. -/
def TokenError.name : TokenError → String
  | .expired => "Expired"
  | .notYetValid => "NotYetValid"
  | .invalidTimeWindow => "InvalidTimeWindow"
  | .rejected _ => "Rejected"

/-- The error of a named cause. -/
def TokenError.ofName? (name detail : String) : Option TokenError :=
  [.expired, .notYetValid, .invalidTimeWindow, .rejected detail].find? (·.name = name)

namespace ActorClaims

/-- Check the claims at an instant. -/
def validate (c : ActorClaims) (now : Timestamp) : Except TokenError Unit :=
  if c.expiresAt ≤ c.issuedAt then .error .invalidTimeWindow
  else if now < c.issuedAt then .error .notYetValid
  else if c.expiresAt ≤ now then .error .expired
  else .ok ()

/-- Read the stored form of claims. -/
def ofJson : Reader ActorClaims :=
  Json.readRecord "ActorClaims" <| ActorClaims.mk
    <$> .required "actor_gln" Json.readString
    <*> .required "roles" (Json.readList MarketRole.ofJson)
    <*> .required "issued_at" Timestamp.ofJson
    <*> .required "expires_at" Timestamp.ofJson

/-- The stored form of claims. -/
def toJson (c : ActorClaims) : Json :=
  .object [("actor_gln", .string c.actorGln), ("expires_at", c.expiresAt.toJson),
    ("issued_at", c.issuedAt.toJson), ("roles", .ofList MarketRole.toJson c.roles)]

end ActorClaims

/-- The known tokens with their claims. -/
structure TokenTable where
  entries : List (String × ActorClaims)

namespace TokenTable

/-- No tokens. -/
def empty : TokenTable := ⟨[]⟩

/-- Add a token, in place of an earlier one of the same text. -/
def insert (t : TokenTable) (token : String) (claims : ActorClaims) : TokenTable :=
  ⟨(token, claims) :: t.entries.filter (·.1 ≠ token)⟩

/-- The claims of a token. -/
def find? (t : TokenTable) (token : String) : Option ActorClaims :=
  (t.entries.find? (·.1 = token)).map Prod.snd

/-- The claims of a known token that may be used at an instant. -/
def validate (t : TokenTable) (token : String) (now : Timestamp) :
    Except TokenError ActorClaims :=
  match t.find? token with
  | none => .error (.rejected "unknown token")
  | some claims => (claims.validate now).map fun _ => claims

end TokenTable

end SupplierSwitch
