import Discovery.Proofs.Json.Accepted
import Discovery.Proofs.Json.RoundTrip
import Discovery.Proofs.Request.Interpretation
import Discovery.Proofs.Service.Announcement

namespace Discovery

open Json

/-- A definition as a reader of plans finds it. -/
def Definition.inPlan : Definition → Json
  | .announcement a => .object a.sortedMembers
  | .document d => d

namespace Request

/-- What a reader finds in the plan of a request: its members in the order of their keys. -/
def membersInPlan : Request → List (String × Json)
  | .add hosts output definition =>
    [("command", .string "ADD"), ("definition", definition.inPlan),
      ("hosts", .ofStrings hosts.entries), ("output", .string output.word)]
  | .show hosts output =>
    [("command", .string "SHOW"), ("hosts", .ofStrings hosts.entries),
      ("output", .string output.word)]
  | .delete hosts identifier =>
    [("command", .string "DELETE"), ("hosts", .ofStrings hosts.entries),
      ("id", .string identifier)]
  | .help topic? text =>
    [("command", .string "HELP"), ("text", .string text),
      ("topic", .string (match topic? with
        | some command => command.word
        | none => "HELP"))]

/-- Sorting the members of a plan gives what a reader finds. A document in a request is in order
    already, as every document that was read is. -/
theorem canonical_plan {request : Request}
    (hordered : ∀ d, request.definition? = some (.document d) → d.Ordered) :
    request.plan.canonical = .object request.membersInPlan := by
  cases request with
  | add hosts output definition =>
    have hdefinition : definition.toJson.canonical = definition.inPlan := by
      cases definition with
      | announcement a => exact a.canonical_toJson
      | document d => exact (hordered d rfl).canonical_eq
    simp only [plan, hostsJson, canonical, canonicalMembers, canonical_ofStrings, hdefinition,
      Dictionary.entries_ofPairs, List.foldl]
    simp (disch := decide) only [insertEntry_nil, insertEntry_of_lt, insertEntry_of_gt,
      membersInPlan]
  | «show» | delete =>
    simp only [plan, hostsJson, canonical, canonicalMembers, canonical_ofStrings,
      Dictionary.entries_ofPairs, List.foldl]
    simp (disch := decide) only [insertEntry_nil, insertEntry_of_gt, membersInPlan]
  | help topic? text =>
    simp only [plan, canonical, canonicalMembers, Dictionary.entries_ofPairs, List.foldl]
    simp (disch := decide) only [insertEntry_nil, insertEntry_of_lt, insertEntry_of_gt,
      membersInPlan]
    cases topic? <;> rfl

/-- All numbers of a plan are those of a document in it. -/
theorem integral_plan {request : Request}
    (hintegral : ∀ d, request.definition? = some (.document d) → d.Integral) :
    request.plan.Integral := by
  cases request with
  | add hosts output definition =>
    have hdefinition : definition.toJson.Integral := by
      cases definition with
      | announcement a => exact a.integral_toJson
      | document d => exact hintegral d rfl
    exact .object (by simp [Integral.string, hostsJson, integral_ofStrings, hdefinition])
  | «show» | delete | help =>
    exact .object (by simp [Integral.string, hostsJson, integral_ofStrings])

theorem depth_hostsJson_le (hosts : Hosts) : (hostsJson hosts).depth ≤ 1 :=
  depth_ofStrings_le hosts.entries

/-- A plan nests one level deeper than what it holds, which are at least the hosts. -/
theorem depth_plan_add_le_iff {hosts : Hosts} {output : OutputMode} {definition : Definition}
    {n : Nat} (hn : 1 ≤ n) :
    (plan (.add hosts output definition)).depth ≤ n + 1 ↔ definition.toJson.depth ≤ n := by
  have hhosts : (hostsJson hosts).depth ≤ n := Nat.le_trans (depth_hostsJson_le hosts) hn
  rw [plan, depth_object_le_iff]
  simp [Json.depth, hhosts]

end Request

end Discovery
