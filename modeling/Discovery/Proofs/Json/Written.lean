import Discovery.Proofs.Except
import Discovery.Proofs.Json.Reading

namespace Discovery.Json

open Number (IsWritten)

namespace State

variable {frames : List Frame} {d : Json}

theorem exists_word {next : Char} {rest text : List Char} {meaning : Json}
    (h : outcome ⟨.word next rest meaning, frames⟩ text = .ok d) :
    ∃ tail, text = next :: rest ++ tail ∧ (deliver meaning frames).outcome tail = .ok d := by
  induction rest generalizing next text with
  | nil =>
    cases text with
    | nil => cases h
    | cons c text =>
      obtain ⟨t, hstep, h⟩ := exists_step_of_outcome h
      simp only [step, stepOutside] at hstep
      split at hstep
      next hc =>
        cases hstep
        exact ⟨text, by rw [hc]; rfl, h⟩
      next => cases hstep
  | cons other rest ih =>
    cases text with
    | nil => cases h
    | cons c text =>
      obtain ⟨t, hstep, h⟩ := exists_step_of_outcome h
      simp only [step, stepOutside] at hstep
      split at hstep
      next hc =>
        cases hstep
        obtain ⟨tail, rfl, htail⟩ := ih h
        exact ⟨tail, by rw [hc]; rfl, htail⟩
      next => cases hstep

variable {isKey : Bool} {chars : List Char}

/-- Whatever digits are read come to four in the end. -/
theorem exists_code {lead? : Option Nat} {seen text : List Char} (hseen : byteCount seen < 4)
    (h : (atDigits isKey chars frames lead? seen).outcome text = .ok d) :
    ∃ digits n t tail, text = digits ++ tail ∧ IsCode (seen.reverse ++ digits) n ∧
      afterDigits isKey chars frames lead? n = .ok t ∧ t.outcome tail = .ok d := by
  induction text generalizing seen with
  | nil => cases lead? <;> cases h
  | cons c text ih =>
    obtain ⟨t, hstep, h⟩ := exists_step_of_outcome h
    rw [step_atDigits] at hstep
    obtain ⟨taken, htake, hstep⟩ := bind_eq_ok_iff.mp hstep
    rw [takeHexDigit] at htake
    split at htake
    next hless =>
      cases htake
      cases hstep
      have hmore : byteCount (c :: seen) < 4 := by
        have hcons : byteCount (c :: seen) = c.utf8Size + byteCount seen := rfl
        omega
      obtain ⟨digits, n, t, tail, rfl, hcode, hafter, htail⟩ := ih hmore h
      refine ⟨c :: digits, n, t, tail, rfl, ?_, hafter, htail⟩
      simpa using hcode
    next hfull =>
      split at htake
      next n hvalue =>
        cases htake
        have hsize := utf8Size_of_hexValue? hvalue
        obtain ⟨hc, hrest⟩ := List.forall_mem_cons.mp hsize
        rw [byteCount_eq_length hrest] at hseen hfull
        refine ⟨[c], n, t, text, rfl, ⟨?_, ?_⟩, hstep, h⟩
        · rw [List.length_append, List.length_reverse, List.length_singleton]
          omega
        · simpa using hvalue
      next => cases htake

/-- The second half of a surrogate pair follows the first one. -/
theorem exists_half {lead : Nat} {text : List Char}
    (h : outcome ⟨.string isKey chars (.half lead), frames⟩ text = .ok d) :
    ∃ low trail tail, text = '\\' :: 'u' :: low ++ tail ∧ IsCode low trail ∧ isTrail trail = true ∧
      outcome ⟨.string isKey (joinSurrogates lead trail :: chars) .none, frames⟩ tail = .ok d := by
  cases text with
  | nil => cases h
  | cons c text =>
    obtain ⟨t, hstep, h⟩ := exists_step_of_outcome h
    simp only [step, stepOutside, stepString] at hstep
    split at hstep
    next hbackslash =>
      cases hstep
      cases text with
      | nil => cases h
      | cons u text =>
        obtain ⟨t, hstep, h⟩ := exists_step_of_outcome h
        simp only [step, stepOutside, stepString] at hstep
        split at hstep
        next hu =>
          cases hstep
          have hdigits : (atDigits isKey chars frames (some lead) []).outcome text = .ok d := h
          obtain ⟨low, trail, t, tail, rfl, hcode, hafter, htail⟩ := exists_code (by decide) hdigits
          rw [afterDigits] at hafter
          split at hafter
          next htrail =>
            cases hafter
            exact ⟨low, trail, tail, by rw [hbackslash, hu]; rfl, hcode, htrail, htail⟩
          next => cases hafter
        next => cases hstep
    next => cases hstep

/-- What follows a backslash spells a character. -/
theorem exists_escape {text : List Char}
    (h : outcome ⟨.string isKey chars .start, frames⟩ text = .ok d) :
    ∃ c escape tail, text = escape ++ tail ∧ Spelled c ('\\' :: escape) ∧
      outcome ⟨.string isKey (c :: chars) .none, frames⟩ tail = .ok d := by
  cases text with
  | nil => cases h
  | cons letter text =>
    obtain ⟨t, hstep, h⟩ := exists_step_of_outcome h
    simp only [step, stepOutside, stepString] at hstep
    split at hstep
    next hu =>
      cases hstep
      have hdigits : (atDigits isKey chars frames none []).outcome text = .ok d := h
      obtain ⟨high, n, t, tail, rfl, hcode, hafter, htail⟩ := exists_code (by decide) hdigits
      rw [afterDigits] at hafter
      split at hafter
      next => cases hafter
      next htrail =>
        split at hafter
        next hlead =>
          cases hafter
          obtain ⟨low, trail, tail, rfl, hlow, htrail, htail⟩ := exists_half htail
          refine ⟨_, 'u' :: high ++ '\\' :: 'u' :: low, tail, ?_, .pair hcode hlead hlow htrail, htail⟩
          rw [hu]
          simp
        next hlead =>
          cases hafter
          refine ⟨_, 'u' :: high, tail, by rw [hu]; rfl, ?_, htail⟩
          exact .code hcode (by simpa using hlead) (by simpa using htrail)
    next =>
      split at hstep
      next c hletter =>
        cases hstep
        exact ⟨c, [letter], text, rfl, .letter hletter, h⟩
      next => cases hstep

/-- In a string the text goes on with the quote that ends it or with a character that is spelled in
    some way. -/
theorem exists_spelled {text : List Char}
    (h : outcome ⟨.string isKey chars .none, frames⟩ text = .ok d) :
    (∃ tail, text = '"' :: tail ∧ (endString isKey chars frames).outcome tail = .ok d) ∨
      ∃ c first tail, text = first ++ tail ∧ first ≠ [] ∧ Spelled c first ∧
        outcome ⟨.string isKey (c :: chars) .none, frames⟩ tail = .ok d := by
  cases text with
  | nil => cases h
  | cons c text =>
    obtain ⟨t, hstep, h⟩ := exists_step_of_outcome h
    simp only [step, stepOutside, stepString] at hstep
    split at hstep
    next hquote =>
      cases hstep
      exact Or.inl ⟨text, by rw [hquote], h⟩
    next hquote =>
      right
      split at hstep
      next hbackslash =>
        cases hstep
        obtain ⟨c, escape, tail, rfl, hspelled, htail⟩ := exists_escape h
        exact ⟨c, '\\' :: escape, tail, by rw [hbackslash]; rfl, List.cons_ne_nil _ _, hspelled, htail⟩
      next hbackslash =>
        split at hstep
        next => cases hstep
        next hcontrol =>
          cases hstep
          exact ⟨c, [c], text, rfl, List.cons_ne_nil _ _,
            .plain hquote hbackslash (Nat.not_lt.mp hcontrol), h⟩

/-- A string goes on to the quote that ends it. -/
theorem exists_spells {chars : List Char} (text : List Char)
    (h : outcome ⟨.string isKey chars .none, frames⟩ text = .ok d) :
    ∃ s inner tail, text = inner ++ '"' :: tail ∧ Spells s inner ∧
      (endString isKey (s.reverse ++ chars) frames).outcome tail = .ok d := by
  obtain ⟨tail, rfl, htail⟩ | ⟨c, first, others, rfl, hfirst, hspelled, hothers⟩ := exists_spelled h
  · exact ⟨[], [], tail, rfl, .nil, htail⟩
  · have hshorter : others.length < (first ++ others).length := by
      have hpos := List.length_pos_iff.mpr hfirst
      rw [List.length_append]
      omega
    obtain ⟨s, inner, tail, rfl, hspells, htail⟩ := exists_spells others hothers
    refine ⟨c :: s, first ++ inner, tail, by rw [List.append_assoc], .cons hspelled hspells, ?_⟩
    rwa [List.reverse_cons, List.append_assoc]
termination_by text.length

theorem writes_number {literal : List Char} {n : Numeral} {x : Number}
    (hafter : Numeral.After literal n) (hvalue : n.value = .ok x) :
    Writes IsWritten (.value (.number x)) literal :=
  .number (Number.isWritten_iff.mpr ⟨n, hafter, hvalue⟩)

/-- A numeral ends as a number, or one more character belongs to it. -/
theorem ends_or_goes_on {n : Numeral} {text : List Char}
    (h : outcome ⟨.numeral n, frames⟩ text = .ok d) :
    (∃ x, n.value = .ok x ∧ (deliver (.number x) frames).outcome text = .ok d) ∨
      ∃ c rest m, text = c :: rest ∧ n.next c = .ok (some m) ∧
        outcome ⟨.numeral m, frames⟩ rest = .ok d := by
  cases text with
  | nil =>
    have hfinish : finish ⟨.numeral n, frames⟩ = .ok d := h
    simp only [finish] at hfinish
    obtain ⟨x, hvalue, _⟩ := bind_eq_ok_iff.mp hfinish
    exact Or.inl ⟨x, hvalue, (finish_numeral hvalue).symm.trans h⟩
  | cons c rest =>
    obtain ⟨t, hstep, htail⟩ := exists_step_of_outcome h
    simp only [step] at hstep
    obtain ⟨next?, hnext, hstep⟩ := bind_eq_ok_iff.mp hstep
    cases next? with
    | some m =>
      cases hstep
      exact Or.inr ⟨c, rest, m, rfl, hnext, htail⟩
    | none =>
      cases hvalue : n.value with
      | error code =>
        rw [hvalue] at hstep
        cases hstep
      | ok x =>
        rw [outcome_cons, step_numeral_end hvalue hnext, ← outcome_cons] at h
        exact Or.inl ⟨x, rfl, h⟩

/-- A numeral goes on to its end. -/
theorem exists_number {n : Numeral} {literal text : List Char} (hafter : Numeral.After literal n)
    (h : outcome ⟨.numeral n, frames⟩ text = .ok d) :
    ∃ more tail x, text = more ++ tail ∧ Writes IsWritten (.value (.number x)) (literal ++ more) ∧
      (deliver (.number x) frames).outcome tail = .ok d := by
  induction text generalizing n literal with
  | nil =>
    obtain ⟨x, hvalue, htail⟩ | ⟨_, _, _, hempty, _⟩ := ends_or_goes_on h
    · exact ⟨[], [], x, rfl, by simpa using writes_number hafter hvalue, htail⟩
    · cases hempty
  | cons c text ih =>
    obtain ⟨x, hvalue, htail⟩ | ⟨_, _, m, hcons, hnext, hrest⟩ := ends_or_goes_on h
    · exact ⟨[], c :: text, x, rfl, by simpa using writes_number hafter hvalue, htail⟩
    · cases hcons
      obtain ⟨more, tail, x, rfl, hwrites, htail⟩ := ih (.next hafter hnext) hrest
      exact ⟨c :: more, tail, x, rfl, by simpa using hwrites, htail⟩

theorem exists_gap (text : List Char) :
    ∃ gap rest, text = gap ++ rest ∧ IsGap gap ∧ ∀ c ∈ rest.head?, isSpace c = false := by
  induction text with
  | nil => exact ⟨[], [], rfl, isGap_nil, by simp⟩
  | cons c text ih =>
    by_cases hspace : isSpace c = true
    · obtain ⟨gap, rest, rfl, hgap, hrest⟩ := ih
      exact ⟨c :: gap, rest, rfl, List.forall_mem_cons.mpr ⟨hspace, hgap⟩, hrest⟩
    · exact ⟨[], c :: text, rfl, isGap_nil, by simpa using hspace⟩

/-- Where more of a document is expected, the text goes on with a character behind any space. -/
theorem exists_first {e : Expectation} {text : List Char} (hspace : e.PassesSpace)
    (hmore : ∀ document, e ≠ .nothing document) (h : outcome ⟨e, frames⟩ text = .ok d) :
    ∃ gap c rest t, text = gap ++ c :: rest ∧ IsGap gap ∧ isSpace c = false ∧
      step ⟨e, frames⟩ c = .ok t ∧ t.outcome rest = .ok d := by
  obtain ⟨gap, rest, rfl, hgap, hrest⟩ := exists_gap text
  rw [outcome_gap hspace hgap] at h
  cases rest with
  | nil =>
    cases e with
    | nothing document => exact absurd rfl (hmore document)
    | word | numeral | string => exact hspace.elim
    | _ => cases h
  | cons c rest =>
    obtain ⟨t, hstep, h⟩ := exists_step_of_outcome h
    exact ⟨gap, c, rest, t, rfl, hgap, hrest c rfl, hstep, h⟩

/-- Where a value may come, one does, unless an array ends there without items. -/
theorem exists_begin {e : Expectation} {text : List Char} (he : e.AwaitsValue)
    (h : outcome ⟨e, frames⟩ text = .ok d) :
    ∃ gap c rest, text = gap ++ c :: rest ∧ IsGap gap ∧
      ((e = .firstItem ∧ c = ']' ∧ (closeArray frames).outcome rest = .ok d) ∨
        ∃ t, beginValue c frames = .ok t ∧ t.outcome rest = .ok d) := by
  have hexpects : e.PassesSpace ∧ ∀ document, e ≠ .nothing document := by
    cases e with
    | value | firstItem | nextItem => exact ⟨trivial, by simp⟩
    | _ => exact he.elim
  obtain ⟨gap, c, rest, t, rfl, hgap, hspace, hstep, h⟩ := exists_first hexpects.1 hexpects.2 h
  refine ⟨gap, c, rest, rfl, hgap, ?_⟩
  by_cases hend : c = ']'
  · subst hend
    cases e with
    | firstItem =>
      cases hstep
      exact Or.inl ⟨rfl, rfl, h⟩
    | value | nextItem => cases hstep
    | _ => exact he.elim
  · rw [step_beginValue he hspace hend] at hstep
    exact Or.inr ⟨t, hstep, h⟩

/-- Behind an item or a member comes a comma or the bracket that closes what it belongs to. -/
theorem exists_separator {e next : Expectation} {close : Char} {closed : State} {text : List Char}
    (code : FaultCode) (hspace : e.PassesSpace) (hmore : ∀ document, e ≠ .nothing document)
    (hstep : ∀ c, isSpace c = false → step ⟨e, frames⟩ c =
      if c = ',' then .ok ⟨next, frames⟩ else if c = close then .ok closed else .error (.at code))
    (h : outcome ⟨e, frames⟩ text = .ok d) :
    ∃ gap c rest, text = gap ++ c :: rest ∧ IsGap gap ∧
      ((c = ',' ∧ outcome ⟨next, frames⟩ rest = .ok d) ∨
        (c = close ∧ closed.outcome rest = .ok d)) := by
  obtain ⟨gap, c, rest, t, rfl, hgap, hc, hnext, h⟩ := exists_first hspace hmore h
  refine ⟨gap, c, rest, rfl, hgap, ?_⟩
  rw [hstep c hc] at hnext
  split at hnext
  next hcomma =>
    cases hnext
    exact Or.inl ⟨hcomma, h⟩
  next =>
    split at hnext
    next hend =>
      cases hnext
      exact Or.inr ⟨hend, h⟩
    next => cases hnext

theorem exists_afterItem {text : List Char} (h : outcome ⟨.afterItem, frames⟩ text = .ok d) :
    ∃ gap c rest, text = gap ++ c :: rest ∧ IsGap gap ∧
      ((c = ',' ∧ outcome ⟨.nextItem, frames⟩ rest = .ok d) ∨
        (c = ']' ∧ (closeArray frames).outcome rest = .ok d)) := by
  refine exists_separator .expectedListCommaOrEnd (by trivial) (by simp) (fun c hc => ?_) h
  simp only [step, stepOutside, hc, Bool.false_eq_true, if_false]

theorem exists_afterMember {text : List Char} (h : outcome ⟨.afterMember, frames⟩ text = .ok d) :
    ∃ gap c rest, text = gap ++ c :: rest ∧ IsGap gap ∧
      ((c = ',' ∧ outcome ⟨.nextKey, frames⟩ rest = .ok d) ∨
        (c = '\x7d' ∧ (closeObject frames).outcome rest = .ok d)) := by
  refine exists_separator .expectedObjectCommaOrEnd (by trivial) (by simp) (fun c hc => ?_) h
  simp only [step, stepOutside, hc, Bool.false_eq_true, if_false]

theorem exists_key {e : Expectation} {text : List Char} (he : e = .firstKey ∨ e = .nextKey)
    (h : outcome ⟨e, frames⟩ text = .ok d) :
    ∃ gap c rest, text = gap ++ c :: rest ∧ IsGap gap ∧
      ((e = .firstKey ∧ c = '\x7d' ∧ (closeObject frames).outcome rest = .ok d) ∨
        (c = '"' ∧ outcome ⟨.string true [] .none, frames⟩ rest = .ok d)) := by
  have hexpects : e.PassesSpace ∧ ∀ document, e ≠ .nothing document := by
    obtain rfl | rfl := he <;> exact ⟨trivial, by simp⟩
  obtain ⟨gap, c, rest, t, rfl, hgap, hspace, hstep, h⟩ := exists_first hexpects.1 hexpects.2 h
  refine ⟨gap, c, rest, rfl, hgap, ?_⟩
  obtain rfl | rfl := he
  all_goals
    simp only [step, stepOutside, hspace, Bool.false_eq_true, if_false] at hstep
    split at hstep
  case inl.isTrue hquote | inr.isTrue hquote =>
    cases hstep
    exact Or.inr ⟨hquote, h⟩
  case inl.isFalse =>
    split at hstep
    next hend =>
      cases hstep
      exact Or.inl ⟨rfl, hend, h⟩
    next => cases hstep
  case inr.isFalse =>
    split at hstep
    next => cases hstep
    next => cases hstep

theorem exists_colon {text : List Char} (h : outcome ⟨.colon, frames⟩ text = .ok d) :
    ∃ gap rest, text = gap ++ ':' :: rest ∧ IsGap gap ∧ outcome ⟨.value, frames⟩ rest = .ok d := by
  obtain ⟨gap, c, rest, t, rfl, hgap, hspace, hstep, h⟩ := exists_first (by trivial) (by simp) h
  simp only [step, stepOutside, hspace, Bool.false_eq_true, if_false] at hstep
  split at hstep
  next hcolon =>
    cases hstep
    exact ⟨gap, rest, by rw [hcolon], hgap, h⟩
  next => cases hstep

theorem outcome_of_openFrame {frame : Frame} {e : Expectation} {t : State} {text : List Char}
    (hopen : openFrame frame e frames = .ok t) (h : t.outcome text = .ok d) :
    outcome ⟨e, frame :: frames⟩ text = .ok d := by
  unfold openFrame at hopen
  split at hopen
  next =>
    cases hopen
    exact h
  next => cases hopen

mutual

/-- A value goes on to its end. -/
theorem exists_value {c : Char} {frames : List Frame} {t : State} (rest : List Char)
    (hbegin : beginValue c frames = .ok t) (h : t.outcome rest = .ok d) :
    ∃ v x inner tail, rest = inner ++ tail ∧ Writes IsWritten (.value v) (c :: inner) ∧
      (deliver x frames).outcome tail = .ok d := by
  unfold beginValue at hbegin
  split at hbegin
  next =>
    cases hbegin
    obtain ⟨tail, rfl, htail⟩ := exists_word h
    exact ⟨.null, _, ['u', 'l', 'l'], tail, rfl, .null, htail⟩
  next =>
    cases hbegin
    obtain ⟨tail, rfl, htail⟩ := exists_word h
    exact ⟨.bool true, _, ['r', 'u', 'e'], tail, rfl, .true, htail⟩
  next =>
    cases hbegin
    obtain ⟨tail, rfl, htail⟩ := exists_word h
    exact ⟨.bool false, _, ['a', 'l', 's', 'e'], tail, rfl, .false, htail⟩
  next =>
    cases hbegin
    obtain ⟨s, inner, tail, rfl, hspells, htail⟩ := exists_spells rest h
    refine ⟨.string (String.ofList s), _, inner ++ ['"'], tail, by simp, ?_, htail⟩
    exact .string (by rwa [String.toList_ofList])
  next =>
    exact exists_array rest (outcome_of_openFrame hbegin h)
  next =>
    exact exists_object rest (outcome_of_openFrame hbegin h)
  next =>
    split at hbegin
    next n hstart =>
      cases hbegin
      obtain ⟨more, tail, x, rfl, hwrites, htail⟩ := exists_number (.start hstart) h
      exact ⟨_, _, more, tail, rfl, hwrites, htail⟩
    next => cases hbegin
termination_by (rest.length, 1)

/-- An array goes on to its end. -/
theorem exists_array {frames : List Frame} (text : List Char)
    (h : outcome ⟨.firstItem, .array [] :: frames⟩ text = .ok d) :
    ∃ v x inner tail, text = inner ++ tail ∧ Writes IsWritten (.value v) ('[' :: inner) ∧
      (deliver x frames).outcome tail = .ok d := by
  obtain ⟨before, c, rest, rfl, hbefore, ⟨_, rfl, hend⟩ | ⟨t, hbegin, hrest⟩⟩ :=
    exists_begin (by trivial) h
  · exact ⟨.array [], _, before ++ [']'], rest, by simp, .emptyArray hbefore, hend⟩
  · obtain ⟨item, x, first, others, rfl, hitem, hothers⟩ := exists_value rest hbegin hrest
    obtain ⟨items, y, inner, after, tail, rfl, hitems, hafter, htail⟩ := exists_items others hothers
    refine ⟨.array (item :: items), y, before ++ (c :: first) ++ inner ++ after ++ [']'], tail,
      by simp, ?_, htail⟩
    exact .array hbefore hitem hitems hafter
termination_by (text.length, 0)

/-- The items behind the first ones go on to the end of their array. -/
theorem exists_items {known : List Json} {frames : List Frame} (text : List Char)
    (h : outcome ⟨.afterItem, .array known :: frames⟩ text = .ok d) :
    ∃ items x inner gap tail, text = inner ++ gap ++ ']' :: tail ∧
      Writes IsWritten (.items items) inner ∧ IsGap gap ∧
        (deliver x frames).outcome tail = .ok d := by
  obtain ⟨before, c, rest, rfl, hbefore, ⟨rfl, hnext⟩ | ⟨rfl, hend⟩⟩ := exists_afterItem h
  · obtain ⟨after, c, rest, rfl, hafter, ⟨hfirst, _⟩ | ⟨t, hbegin, hrest⟩⟩ :=
      exists_begin (by trivial) hnext
    · cases hfirst
    · obtain ⟨item, x, first, others, rfl, hitem, hothers⟩ := exists_value rest hbegin hrest
      obtain ⟨items, y, inner, gap, tail, rfl, hitems, hgap, htail⟩ := exists_items others hothers
      refine ⟨item :: items, y, before ++ ',' :: after ++ (c :: first) ++ inner, gap, tail, by simp,
        ?_, hgap, htail⟩
      exact .items hbefore hafter hitem hitems
  · exact ⟨[], _, [], before, rest, rfl, .noItems, hbefore, hend⟩
termination_by (text.length, 0)

/-- A member goes on to the end of its value. -/
theorem exists_member {known : List (String × Json)} {before : String} {frames : List Frame}
    (text : List Char)
    (h : outcome ⟨.string true [] .none, .object known before :: frames⟩ text = .ok d) :
    ∃ key v members inner tail, text = inner ++ tail ∧ Writes IsWritten (.member key v) ('"' :: inner) ∧
      outcome ⟨.afterMember, .object members key :: frames⟩ tail = .ok d := by
  obtain ⟨s, chars, rest, rfl, hspells, hcolon⟩ := exists_spells text h
  obtain ⟨before, rest, rfl, hbefore, hvalue⟩ := exists_colon hcolon
  obtain ⟨after, c, rest, rfl, hafter, ⟨hfirst, _⟩ | ⟨t, hbegin, hrest⟩⟩ :=
    exists_begin (by trivial) hvalue
  · cases hfirst
  · obtain ⟨v, x, inner, tail, rfl, hv, htail⟩ := exists_value rest hbegin hrest
    refine ⟨_, v, _, chars ++ '"' :: before ++ ':' :: after ++ (c :: inner), tail, by simp, ?_, htail⟩
    have hkey : Spells (String.ofList (s.reverse ++ []).reverse).toList chars := by simpa using hspells
    exact .member hkey hbefore hafter hv
termination_by (text.length, 0)

/-- An object goes on to its end. -/
theorem exists_object {frames : List Frame} (text : List Char)
    (h : outcome ⟨.firstKey, .object [] "" :: frames⟩ text = .ok d) :
    ∃ v x inner tail, text = inner ++ tail ∧ Writes IsWritten (.value v) ('\x7b' :: inner) ∧
      (deliver x frames).outcome tail = .ok d := by
  obtain ⟨before, c, rest, rfl, hbefore, ⟨_, rfl, hend⟩ | ⟨rfl, hrest⟩⟩ :=
    exists_key (Or.inl rfl) h
  · exact ⟨.object [], _, before ++ ['\x7d'], rest, by simp, .emptyObject hbefore, hend⟩
  · obtain ⟨key, v, _, first, others, rfl, hmember, hothers⟩ := exists_member rest hrest
    obtain ⟨members, y, inner, after, tail, rfl, hmembers, hafter, htail⟩ :=
      exists_members others hothers
    refine ⟨.object ((key, v) :: members), y, before ++ ('"' :: first) ++ inner ++ after ++ ['\x7d'],
      tail, by simp, ?_, htail⟩
    exact .object hbefore hmember hmembers hafter
termination_by (text.length, 0)

/-- The members behind the first ones go on to the end of their object. -/
theorem exists_members {known : List (String × Json)} {last : String} {frames : List Frame}
    (text : List Char) (h : outcome ⟨.afterMember, .object known last :: frames⟩ text = .ok d) :
    ∃ members x inner gap tail, text = inner ++ gap ++ '\x7d' :: tail ∧
      Writes IsWritten (.members members) inner ∧ IsGap gap ∧
        (deliver x frames).outcome tail = .ok d := by
  obtain ⟨before, c, rest, rfl, hbefore, ⟨rfl, hnext⟩ | ⟨rfl, hend⟩⟩ := exists_afterMember h
  · obtain ⟨after, c, rest, rfl, hafter, ⟨hfirst, _⟩ | ⟨rfl, hrest⟩⟩ := exists_key (Or.inr rfl) hnext
    · cases hfirst
    · obtain ⟨key, v, _, first, others, rfl, hmember, hothers⟩ := exists_member rest hrest
      obtain ⟨members, y, inner, gap, tail, rfl, hmembers, hgap, htail⟩ :=
        exists_members others hothers
      refine ⟨(key, v) :: members, y, before ++ ',' :: after ++ ('"' :: first) ++ inner, gap, tail,
        by simp, ?_, hgap, htail⟩
      exact .members hbefore hafter hmember hmembers
  · exact ⟨[], _, [], before, rest, rfl, .noMembers, hbefore, hend⟩
termination_by (text.length, 0)

end

/-- Behind a complete document there is only space. -/
theorem isGap_of_outcome {document : Json} {text : List Char}
    (h : outcome ⟨.nothing document, []⟩ text = .ok d) : IsGap text := by
  induction text with
  | nil => exact isGap_nil
  | cons c text ih =>
    by_cases hspace : isSpace c = true
    · rw [outcome_cons_of_step (step_space (by trivial) hspace)] at h
      exact List.forall_mem_cons.mpr ⟨hspace, ih h⟩
    · obtain ⟨t, hstep, _⟩ := exists_step_of_outcome h
      simp [step, stepOutside, hspace] at hstep

end State

/-- A text that was read holds a document. -/
theorem exists_writtenIn_of_read {text : List Char} {d : Json} (h : read text = .ok d) :
    ∃ written : Json, written.WrittenIn text := by
  rw [read_eq_ok_iff] at h
  obtain ⟨before, c, rest, rfl, hbefore, ⟨hfirst, _⟩ | ⟨t, hbegin, hrest⟩⟩ :=
    State.exists_begin (by trivial) h
  · cases hfirst
  · obtain ⟨v, x, inner, tail, rfl, hv, htail⟩ := State.exists_value rest hbegin hrest
    exact ⟨v, before, c :: inner, tail, by simp, hbefore, hv, State.isGap_of_outcome htail⟩

/-- What was read is the canonical form of every document that the text holds. -/
theorem eq_canonical_of_read {text : List Char} {d written : Json} (h : read text = .ok d)
    (hwritten : written.WrittenIn text) : d = written.canonical ∧ written.depth ≤ nestingLimit := by
  rw [read_eq_ok_iff, outcome_of_writtenIn hwritten] at h
  by_cases hdepth : written.depth ≤ nestingLimit
  · rw [withinLimit_of_le hdepth] at h
    exact ⟨(Except.ok.inj h).symm, hdepth⟩
  · rw [withinLimit_of_lt (Nat.not_le.mp hdepth)] at h
    cases h

/-- A text is read exactly when it holds a document that nests no deeper than the limit, as the
    canonical form of that document. -/
theorem read_eq_ok_iff_writtenIn {text : List Char} {d : Json} :
    read text = .ok d ↔
      ∃ written : Json, written.WrittenIn text ∧ written.depth ≤ nestingLimit ∧
        d = written.canonical := by
  constructor
  · intro h
    obtain ⟨written, hwritten⟩ := exists_writtenIn_of_read h
    obtain ⟨heq, hdepth⟩ := eq_canonical_of_read h hwritten
    exact ⟨written, hwritten, hdepth, heq⟩
  · rintro ⟨written, hwritten, hdepth, rfl⟩
    rw [read_eq_ok_iff, outcome_of_writtenIn hwritten, withinLimit_of_le hdepth]

end Discovery.Json
