import SupplierSwitch.Json.Reader

namespace SupplierSwitch

/-!
# Reasons of a rejection

The code and the text with which a participant is told about a broken rule.
-/

/-- A reason for a rejection, as the participant sees it. -/
structure Reason where
  code : String
  text : String
  deriving DecidableEq

namespace Reason

/-- A reason in running text. -/
def render (r : Reason) : String :=
  r.code ++ ": " ++ r.text

/-- Read the stored form of a reason. -/
def ofJson : Reader Reason :=
  Json.readRecord "OutboundErrorMessage" <| Reason.mk
    <$> .required "code" Json.readString
    <*> .required "text" Json.readString

/-- The stored form of a reason. -/
def toJson (r : Reason) : Json :=
  .object [("code", .string r.code), ("text", .string r.text)]

end Reason

end SupplierSwitch
