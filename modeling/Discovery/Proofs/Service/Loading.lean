import Discovery.Proofs.Json.Accepted
import Discovery.Proofs.Json.Meaning
import Discovery.Proofs.Json.RoundTrip
import Discovery.Proofs.Json.Written
import Discovery.Proofs.Service.Source
import Discovery.Service.Definition

namespace Discovery.Source

open Json

variable {world : World} {source : Source} {text : String} {d : Json}

/-- Reading and printing a document is stable. A text that was loaded holds a document as it is
    written, and it was loaded as what that stands for. If all its numbers are integers, then either
    printed form holds what was loaded, with the keys of every object in increasing order, and is
    loaded as the same document wherever it comes from. -/
theorem load_print_stable (htext : (source.text.run world).outcome = .ok text)
    (hload : (source.load.run world).outcome = .ok d) :
    (∃ written : Json, written.WrittenIn text.toList) ∧
      ∀ written : Json, written.WrittenIn text.toList → written.StandsFor d ∧
        (written.Integral → ∀ layout : Layout,
          let printed := (Definition.document d).payload.print layout
          (∀ (other : Source) (world' : World), (other.text.run world').outcome = .ok printed →
            (other.load.run world').outcome = .ok d) ∧
          d.WrittenIn printed.toList ∧ d.KeysIncrease) := by
  rw [outcome_load_of_text htext, parse_eq_ok_iff] at hload
  obtain ⟨hordered, hdepth⟩ := ordered_of_read hload
  refine ⟨exists_writtenIn_of_read hload, fun written hwritten => ?_⟩
  obtain ⟨rfl, _⟩ := eq_canonical_of_read hload hwritten
  refine ⟨standsFor_canonical written, fun hintegral layout => ?_⟩
  have hcanonical : written.canonical.Integral := hintegral.canonical
  refine ⟨fun other world' hother => ?_, writtenIn_print hcanonical layout, hordered.keysIncrease⟩
  rw [outcome_load_of_text hother, parse_eq_ok_iff]
  exact (read_print hcanonical hdepth layout).trans (congrArg Except.ok hordered.canonical_eq)

/-- A text with one key twice, which is printed without the first of them. -/
theorem load_print_of_repeatedKey :
    let world : World := ⟨fun _ => .error .notFound, .error .closed⟩
    let source : Source := .literal "\x7b\"b\":1,\"a\":[],\"b\":-2\x7d"
    let d : Json := .object [("a", .array []), ("b", .number (.integer (-2)))]
    (source.text.run world).outcome = .ok "\x7b\"b\":1,\"a\":[],\"b\":-2\x7d" ∧
      (source.load.run world).outcome = .ok d ∧
      ∀ layout, (((Source.literal ((Definition.document d).payload.print layout)).load).run
        world).outcome = .ok d := by
  intro world source d
  let written : Json := .object [("b", .number (.integer 1)), ("a", .array []),
    ("b", .number (.integer (-2)))]
  have hintegral : written.Integral := by
    apply Integral.object
    simp only [List.forall_mem_cons, List.not_mem_nil, false_implies, implies_true, and_true]
    exact ⟨.integer (by decide) (by decide), .array (by simp), .integer (by decide) (by decide)⟩
  have hwritten := writtenIn_print hintegral .compact
  have htext : (source.text.run world).outcome = .ok (written.print .compact) := rfl
  have hload : (source.load.run world).outcome = .ok d := rfl
  obtain ⟨_, hstable⟩ := load_print_stable htext hload
  refine ⟨rfl, hload, fun layout => ?_⟩
  exact ((hstable written hwritten).2 hintegral layout).1 (.literal _) world rfl

end Discovery.Source
