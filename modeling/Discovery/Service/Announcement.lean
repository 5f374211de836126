import Discovery.Failure
import Discovery.Json.Basic
import Discovery.Service.Properties

namespace Discovery

/-- The description of a service. There is no such thing as an empty dictionary of properties here:
    `ofFields` gives a service without properties none at all. -/
structure Announcement where
  environment : String
  serviceType : String
  pool : String
  location? : Option String
  properties? : Option Properties
  deriving DecidableEq

/-- What flags say about a service. -/
structure Announcement.Fields where
  environment? : Option String
  serviceType? : Option String
  pool? : Option String
  location? : Option String
  properties : Properties
  deriving DecidableEq

namespace Announcement

/-- The value of an option that has to be given. -/
def require (usage option : String) : Option String → Except Failure String
  | some value => .ok value
  | none => .error (.missingOption option usage)

/-- The announcement with the given fields, or the first of the three required options that is
    missing. -/
def ofFields (fields : Fields) (usage : String) : Except Failure Announcement := do
  let environment ← require usage "environment" fields.environment?
  let serviceType ← require usage "type" fields.serviceType?
  let pool ← require usage "pool" fields.pool?
  .ok {
    environment
    serviceType
    pool
    location? := fields.location?
    properties? := if fields.properties.isEmpty then none else some fields.properties }

/-- Properties as a document. Its members have the order of their keys. -/
def propertiesJson (properties : Properties) : Json :=
  .object (properties.entries.map fun (key, value) => (key, .string value))

/-- The members of the document of an announcement. What is absent is null. -/
def members (a : Announcement) : List (String × Json) :=
  [("environment", .string a.environment),
    ("type", .string a.serviceType),
    ("pool", .string a.pool),
    ("location", .ofString? a.location?),
    ("properties", match a.properties? with
      | none => .null
      | some properties => propertiesJson properties)]

/-- An announcement as a part of a plan, with its members in the order of the flags. -/
def toJson (a : Announcement) : Json :=
  .object a.members

/-- An announcement as a server receives it, with its members in the order of their keys. -/
def document (a : Announcement) : Json :=
  .object (Dictionary.ofPairs a.members).entries

end Announcement

end Discovery
