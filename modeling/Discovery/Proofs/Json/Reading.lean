import Discovery.Proofs.Json.Atoms

namespace Discovery.Json

open Number (IsWritten)

/-- Goes on if a depth is within the limit, and refuses otherwise. -/
def withinLimit (depth : Nat) (next : Except FaultCode Json) : Except FaultCode Json :=
  if depth ≤ nestingLimit then next else .error .nestingTooDeep

theorem withinLimit_of_le {depth : Nat} (h : depth ≤ nestingLimit) (next : Except FaultCode Json) :
    withinLimit depth next = next :=
  if_pos h

theorem withinLimit_of_lt {depth : Nat} (h : nestingLimit < depth) (next : Except FaultCode Json) :
    withinLimit depth next = .error .nestingTooDeep :=
  if_neg (Nat.not_le.mpr h)

theorem withinLimit_congr {depth : Nat} {a b : Except FaultCode Json}
    (h : depth ≤ nestingLimit → a = b) : withinLimit depth a = withinLimit depth b := by
  by_cases hdepth : depth ≤ nestingLimit
  · rw [h hdepth]
  · rw [withinLimit_of_lt (by omega), withinLimit_of_lt (by omega)]

/-- The deeper of two parts counts. -/
theorem withinLimit_withinLimit (m n : Nat) (next : Except FaultCode Json) :
    withinLimit m (withinLimit n next) = withinLimit (max m n) next := by
  by_cases hm : m ≤ nestingLimit
  · rw [withinLimit_of_le hm]
    by_cases hn : n ≤ nestingLimit
    · rw [withinLimit_of_le hn, withinLimit_of_le (Nat.max_le.mpr ⟨hm, hn⟩)]
    · rw [withinLimit_of_lt (by omega), withinLimit_of_lt (by omega)]
  · rw [withinLimit_of_lt (by omega), withinLimit_of_lt (by omega)]

/-- Whether a part is the rest of an array or object. -/
def Part.IsRest : Part → Prop
  | items _ | members _ => True
  | _ => False

namespace State

variable {frames : List Frame} {e : Expectation}

theorem ends_cons {c : Char} (hc : EndsNumeral c) (rest : List Char) : Ends (c :: rest) := by
  rintro _ ⟨⟩
  exact hc

theorem endsNumeral_of_isSpace {c : Char} (h : isSpace c = true) : EndsNumeral c := by
  simp only [isSpace, Bool.or_eq_true, decide_eq_true_eq] at h
  obtain ((rfl | rfl) | rfl) | rfl := h <;> decide

theorem ends_gap {gap tail : List Char} (hgap : IsGap gap) (h : Ends tail) : Ends (gap ++ tail) := by
  cases gap with
  | nil => exact h
  | cons c gap => exact ends_cons (endsNumeral_of_isSpace (hgap c List.mem_cons_self)) _

/-- Whatever follows an item or a member ends a numeral: a gap, a comma or what stands behind
    all of them. -/
theorem ends_rest {part : Part} {text tail : List Char} (h : Writes IsWritten part text)
    (hpart : part.IsRest) (htail : Ends tail) : Ends (text ++ tail) := by
  cases h with
  | noItems | noMembers => exact htail
  | items hbefore | members hbefore =>
    simp only [List.append_assoc, List.cons_append]
    exact ends_gap hbefore (ends_cons (by decide) _)
  | _ => exact hpart.elim

theorem outcome_gap (h : e.PassesSpace) {gap : List Char} (hgap : IsGap gap) (rest : List Char) :
    outcome ⟨e, frames⟩ (gap ++ rest) = outcome ⟨e, frames⟩ rest :=
  outcome_of_run (run_gap h hgap rest)

theorem outcome_open {c : Char} {frame : Frame} {first : Expectation}
    (h : step ⟨e, frames⟩ c = openFrame frame first frames) (rest : List Char) :
    outcome ⟨e, frames⟩ (c :: rest) =
      withinLimit (frames.length + 1) (outcome ⟨first, frame :: frames⟩ rest) := by
  rw [outcome_cons, h, openFrame]
  by_cases hroom : frames.length < nestingLimit
  · rw [if_pos hroom, withinLimit_of_le hroom]
  · rw [if_neg hroom, withinLimit_of_lt (by omega)]
    rfl

end State

/-- What the machine does with a part of a document where such a part may come: it reads its canonical
    form and goes on behind it, or refuses it where it nests too deep for the room that is left. -/
def Part.ReadFrom (text : List Char) : Part → Prop
  | value d => ∀ (e : Expectation) (frames : List Frame) (tail : List Char), e.AwaitsValue →
    frames.length ≤ nestingLimit → State.Ends tail →
    State.outcome ⟨e, frames⟩ (text ++ tail) =
      withinLimit (frames.length + d.depth) ((deliver d.canonical frames).outcome tail)
  | items more => ∀ (known : List Json) (frames : List Frame) (tail : List Char),
    frames.length < nestingLimit → State.Ends tail →
    State.outcome ⟨.afterItem, .array known :: frames⟩ (text ++ tail) =
      withinLimit (frames.length + 1 + depthOfItems more)
        (State.outcome ⟨.afterItem, .array ((canonicalItems more).reverse ++ known) :: frames⟩ tail)
  | member key v => ∀ (e : Expectation) (known : List (String × Json)) (before : String)
    (frames : List Frame) (tail : List Char), e = .firstKey ∨ e = .nextKey →
    frames.length < nestingLimit → State.Ends tail →
    State.outcome ⟨e, .object known before :: frames⟩ (text ++ tail) =
      withinLimit (frames.length + 1 + v.depth)
        (State.outcome ⟨.afterMember, .object (insertEntry key v.canonical known) key :: frames⟩ tail)
  | members more => ∀ (known : List (String × Json)) (before : String) (frames : List Frame)
    (tail : List Char), frames.length < nestingLimit → State.Ends tail → ∃ last : String,
    State.outcome ⟨.afterMember, .object known before :: frames⟩ (text ++ tail) =
      withinLimit (frames.length + 1 + depthOfMembers more)
        (State.outcome ⟨.afterMember, .object ((canonicalMembers more).foldl
          (fun known member => insertEntry member.1 member.2 known) known) last :: frames⟩ tail)

namespace State

variable {frames : List Frame} {e : Expectation} {tail : List Char}

theorem outcome_closeArray (known : List Json) :
    outcome ⟨.afterItem, .array known :: frames⟩ (']' :: tail) =
      (deliver (.array known.reverse) frames).outcome tail :=
  outcome_cons_of_step rfl tail

theorem outcome_closeObject (known : List (String × Json)) (key : String) :
    outcome ⟨.afterMember, .object known key :: frames⟩ ('\x7d' :: tail) =
      (deliver (.object known) frames).outcome tail :=
  outcome_cons_of_step rfl tail

end State

open State

theorem readFrom_emptyArray {gap : List Char} (hgap : IsGap gap) :
    (Part.value (.array [])).ReadFrom ('[' :: gap ++ [']']) := by
  intro e frames tail he _ _
  simp only [List.cons_append, List.append_assoc, List.nil_append]
  rw [outcome_open (step_beginValue he rfl (by decide)), outcome_gap (by trivial) hgap,
    outcome_cons_of_step (t := deliver (.array []) frames) rfl]
  rfl

theorem readFrom_emptyObject {gap : List Char} (hgap : IsGap gap) :
    (Part.value (.object [])).ReadFrom ('\x7b' :: gap ++ ['\x7d']) := by
  intro e frames tail he _ _
  simp only [List.cons_append, List.append_assoc, List.nil_append]
  rw [outcome_open (step_beginValue he rfl (by decide)), outcome_gap (by trivial) hgap,
    outcome_cons_of_step (t := deliver (.object []) frames) rfl]
  rfl

theorem readFrom_array {item : Json} {items : List Json} {before first rest after : List Char}
    (hbefore : IsGap before) (hitem : (Part.value item).ReadFrom first)
    (hitems : (Part.items items).ReadFrom rest) (hrest : Writes IsWritten (.items items) rest)
    (hafter : IsGap after) :
    (Part.value (.array (item :: items))).ReadFrom
      ('[' :: before ++ first ++ rest ++ after ++ [']']) := by
  intro e frames tail he _ _
  have hend : Ends (after ++ ']' :: tail) := ends_gap hafter (ends_cons (by decide) tail)
  have hparts : withinLimit (frames.length + 1) (outcome ⟨.firstItem, .array [] :: frames⟩
        (before ++ (first ++ (rest ++ (after ++ ']' :: tail))))) =
      withinLimit (frames.length + 1) (withinLimit (frames.length + 1 + item.depth)
        (withinLimit (frames.length + 1 + depthOfItems items)
          ((deliver (.array (canonicalItems (item :: items))) frames).outcome tail))) := by
    refine withinLimit_congr fun hroom => ?_
    rw [outcome_gap (by trivial) hbefore,
      hitem .firstItem (.array [] :: frames) _ trivial hroom (ends_rest hrest trivial hend),
      deliver, hitems [item.canonical] frames _ hroom hend, outcome_gap (by trivial) hafter,
      outcome_closeArray, List.reverse_append, List.reverse_reverse]
    rfl
  have hdepth : max (max (frames.length + 1) (frames.length + 1 + item.depth))
      (frames.length + 1 + depthOfItems items) = frames.length + (array (item :: items)).depth := by
    rw [Json.depth, depthOfItems]
    omega
  simp only [List.cons_append, List.append_assoc, List.nil_append]
  rw [outcome_open (step_beginValue he rfl (by decide)), hparts, withinLimit_withinLimit,
    withinLimit_withinLimit, hdepth]
  rfl

theorem readFrom_items {item : Json} {items : List Json} {before after first rest : List Char}
    (hbefore : IsGap before) (hafter : IsGap after) (hitem : (Part.value item).ReadFrom first)
    (hitems : (Part.items items).ReadFrom rest) (hrest : Writes IsWritten (.items items) rest) :
    (Part.items (item :: items)).ReadFrom (before ++ ',' :: after ++ first ++ rest) := by
  intro known frames tail hroom htail
  have hcomma (text : List Char) : outcome ⟨.afterItem, .array known :: frames⟩ (',' :: text) =
      outcome ⟨.nextItem, .array known :: frames⟩ text :=
    outcome_cons_of_step rfl text
  have hdepth : max (frames.length + 1 + item.depth) (frames.length + 1 + depthOfItems items) =
      frames.length + 1 + depthOfItems (item :: items) := by
    rw [depthOfItems]
    omega
  have hknown : (canonicalItems items).reverse ++ item.canonical :: known =
      (canonicalItems (item :: items)).reverse ++ known := by
    rw [canonicalItems, List.reverse_cons, List.append_assoc]
    rfl
  simp only [List.cons_append, List.append_assoc]
  rw [outcome_gap (by trivial) hbefore, hcomma, outcome_gap (by trivial) hafter,
    hitem .nextItem (.array known :: frames) _ trivial hroom
      (ends_rest hrest trivial htail),
    deliver, hitems _ frames tail hroom htail, hknown]
  exact (withinLimit_withinLimit _ _ _).trans (congrArg (withinLimit · _) hdepth)

theorem readFrom_object {key : String} {value : Json} {members : List (String × Json)}
    {before first rest after : List Char} (hbefore : IsGap before)
    (hmember : (Part.member key value).ReadFrom first)
    (hmembers : (Part.members members).ReadFrom rest)
    (hrest : Writes IsWritten (.members members) rest) (hafter : IsGap after) :
    (Part.value (.object ((key, value) :: members))).ReadFrom
      ('\x7b' :: before ++ first ++ rest ++ after ++ ['\x7d']) := by
  intro e frames tail he _ _
  have hend : Ends (after ++ '\x7d' :: tail) := ends_gap hafter (ends_cons (by decide) tail)
  have hcanonical : canonical (.object ((key, value) :: members)) =
      .object ((canonicalMembers members).foldl
        (fun known member => insertEntry member.1 member.2 known) [(key, value.canonical)]) := by
    rw [canonical, Dictionary.entries_ofPairs]
    rfl
  have hparts : withinLimit (frames.length + 1) (outcome ⟨.firstKey, .object [] "" :: frames⟩
        (before ++ (first ++ (rest ++ (after ++ '\x7d' :: tail))))) =
      withinLimit (frames.length + 1) (withinLimit (frames.length + 1 + value.depth)
        (withinLimit (frames.length + 1 + depthOfMembers members)
          ((deliver (canonical (.object ((key, value) :: members))) frames).outcome tail))) := by
    refine withinLimit_congr fun hroom => ?_
    obtain ⟨last, hlast⟩ := hmembers [(key, value.canonical)] key frames _ hroom hend
    rw [outcome_gap (by trivial) hbefore,
      hmember .firstKey [] "" frames _ (Or.inl rfl) hroom (ends_rest hrest trivial hend),
      insertEntry_nil, hlast, outcome_gap (by trivial) hafter, outcome_closeObject, hcanonical]
  have hdepth : max (max (frames.length + 1) (frames.length + 1 + value.depth))
      (frames.length + 1 + depthOfMembers members) =
        frames.length + (object ((key, value) :: members)).depth := by
    rw [Json.depth, depthOfMembers]
    omega
  simp only [List.cons_append, List.append_assoc, List.nil_append]
  rw [outcome_open (step_beginValue he rfl (by decide)), hparts, withinLimit_withinLimit,
    withinLimit_withinLimit, hdepth]

theorem readFrom_member {key : String} {value : Json} {chars before after text : List Char}
    (hkey : Spells key.toList chars) (hbefore : IsGap before) (hafter : IsGap after)
    (hvalue : (Part.value value).ReadFrom text) :
    (Part.member key value).ReadFrom ('"' :: chars ++ '"' :: before ++ ':' :: after ++ text) := by
  intro e known last frames tail he hroom htail
  have hquote (text : List Char) : outcome ⟨e, .object known last :: frames⟩ ('"' :: text) =
      outcome ⟨.string true [] .none, .object known last :: frames⟩ text := by
    obtain rfl | rfl := he <;> exact outcome_cons_of_step rfl text
  have hkeyEnd : endString true (key.toList.reverse ++ []) (.object known last :: frames) =
      ⟨.colon, .object known key :: frames⟩ := by
    simp [endString]
  have hcolon (text : List Char) : outcome ⟨.colon, .object known key :: frames⟩ (':' :: text) =
      outcome ⟨.value, .object known key :: frames⟩ text :=
    outcome_cons_of_step rfl text
  simp only [List.cons_append, List.append_assoc]
  rw [hquote, outcome_of_run (run_spells hkey _), hkeyEnd, outcome_gap (by trivial) hbefore, hcolon,
    outcome_gap (by trivial) hafter,
    hvalue .value (.object known key :: frames) tail trivial hroom htail]
  rfl

theorem readFrom_members {key : String} {value : Json} {members : List (String × Json)}
    {before after first rest : List Char} (hbefore : IsGap before) (hafter : IsGap after)
    (hmember : (Part.member key value).ReadFrom first)
    (hmembers : (Part.members members).ReadFrom rest)
    (hrest : Writes IsWritten (.members members) rest) :
    (Part.members ((key, value) :: members)).ReadFrom (before ++ ',' :: after ++ first ++ rest) := by
  intro known last frames tail hroom htail
  have hcomma (text : List Char) :
      outcome ⟨.afterMember, .object known last :: frames⟩ (',' :: text) =
        outcome ⟨.nextKey, .object known last :: frames⟩ text :=
    outcome_cons_of_step rfl text
  have hdepth : max (frames.length + 1 + value.depth) (frames.length + 1 + depthOfMembers members) =
      frames.length + 1 + depthOfMembers ((key, value) :: members) := by
    rw [depthOfMembers]
    omega
  obtain ⟨final, hfinal⟩ :=
    hmembers (insertEntry key value.canonical known) key frames tail hroom htail
  refine ⟨final, ?_⟩
  simp only [List.cons_append, List.append_assoc]
  rw [outcome_gap (by trivial) hbefore, hcomma, outcome_gap (by trivial) hafter,
    hmember .nextKey known last frames _ (Or.inr rfl) hroom (ends_rest hrest trivial htail),
    hfinal]
  exact (withinLimit_withinLimit _ _ _).trans (congrArg (withinLimit · _) hdepth)

/-- A value without parts is read wherever there is room for the brackets around it. -/
theorem readFrom_of_depth_eq_zero {d : Json} {text : List Char} (hdepth : d.depth = 0)
    (h : ∀ (e : Expectation) (frames : List Frame) (tail : List Char), e.AwaitsValue → Ends tail →
      outcome ⟨e, frames⟩ (text ++ tail) = (deliver d.canonical frames).outcome tail) :
    (Part.value d).ReadFrom text := by
  intro e frames tail he hframes htail
  rw [h e frames tail he htail, hdepth, Nat.add_zero, withinLimit_of_le hframes]

theorem readFrom_number {literal : List Char} {n : Numeral} {x : Number}
    (hafter : Numeral.After literal n) (hvalue : n.value = .ok x) :
    (Part.value (.number x)).ReadFrom literal :=
  readFrom_of_depth_eq_zero rfl fun _ _ _ he htail => outcome_number he hafter hvalue htail

/-- Every part is read as it is written. -/
theorem readFrom_of_writes {part : Part} {text : List Char} (h : Writes IsWritten part text) :
    part.ReadFrom text := by
  induction h with
  | null =>
    exact readFrom_of_depth_eq_zero rfl fun _ _ tail he _ => outcome_of_run (run_null he tail)
  | true =>
    exact readFrom_of_depth_eq_zero rfl fun _ _ tail he _ => outcome_of_run (run_true he tail)
  | false =>
    exact readFrom_of_depth_eq_zero rfl fun _ _ tail he _ => outcome_of_run (run_false he tail)
  | number hwritten =>
    obtain ⟨n, hafter, hvalue⟩ := Number.isWritten_iff.mp hwritten
    exact readFrom_number hafter hvalue
  | string hchars =>
    exact readFrom_of_depth_eq_zero rfl fun _ _ tail he _ => outcome_of_run (run_string he hchars tail)
  | emptyArray hgap => exact readFrom_emptyArray hgap
  | array hbefore _ hrest hafter ihItem ihItems =>
    exact readFrom_array hbefore ihItem ihItems hrest hafter
  | noItems =>
    intro known frames tail hroom _
    exact (withinLimit_of_le hroom _).symm
  | items hbefore hafter _ hrest ihItem ihItems =>
    exact readFrom_items hbefore hafter ihItem ihItems hrest
  | emptyObject hgap => exact readFrom_emptyObject hgap
  | object hbefore _ hrest hafter ihMember ihMembers =>
    exact readFrom_object hbefore ihMember ihMembers hrest hafter
  | member hkey hbefore hafter _ ihValue => exact readFrom_member hkey hbefore hafter ihValue
  | noMembers =>
    intro known last frames tail hroom _
    exact ⟨last, (withinLimit_of_le hroom _).symm⟩
  | members hbefore hafter _ hrest ihMember ihMembers =>
    exact readFrom_members hbefore hafter ihMember ihMembers hrest

/-- A text that holds a document is read as its canonical form, unless it nests too deep. -/
theorem outcome_of_writtenIn {d : Json} {text : List Char} (h : d.WrittenIn text) :
    State.start.outcome text = withinLimit d.depth (.ok d.canonical) := by
  obtain ⟨before, inner, after, rfl, hbefore, hinner, hafter⟩ := h
  have hend : Ends after := by
    have hnil : Ends [] := fun _ hmem => nomatch hmem
    simpa using ends_gap hafter hnil
  have hvalue := readFrom_of_writes hinner .value [] after trivial (Nat.zero_le _) hend
  have hdone : outcome ⟨.nothing d.canonical, []⟩ (after ++ []) = .ok d.canonical :=
    outcome_gap (by trivial) hafter []
  rw [List.append_nil] at hdone
  rw [List.append_assoc, State.start, outcome_gap (by trivial) hbefore, hvalue, deliver, hdone,
    List.length_nil, Nat.zero_add]

end Discovery.Json
