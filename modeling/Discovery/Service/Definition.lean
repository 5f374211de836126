import Discovery.Service.Announcement

namespace Discovery

/-- What a server is told about a service. -/
inductive Definition where
  | announcement (a : Announcement)
  | document (d : Json)

namespace Definition

/-- A definition as a part of a plan. -/
def toJson : Definition → Json
  | announcement a => a.toJson
  | document d => d

/-- A definition as a server receives it. The members of every object have the order of their
    keys. -/
def payload : Definition → Json
  | announcement a => a.document
  | document d => d

end Definition

end Discovery
