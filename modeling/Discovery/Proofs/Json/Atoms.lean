import Discovery.Proofs.Json.Numeral
import Discovery.Proofs.Json.Outcome

namespace Discovery.Json

/-- Whether a value may come next. -/
def Expectation.AwaitsValue : Expectation → Prop
  | .value | .firstItem | .nextItem => True
  | _ => False

/-- Whether white space is passed over. -/
def Expectation.PassesSpace : Expectation → Prop
  | .word .. | .numeral _ | .string .. => False
  | _ => True

namespace State

variable {frames : List Frame}

theorem run_cons {s t : State} {c : Char} (h : s.step c = .ok t) (rest : List Char) :
    s.run (c :: rest) = t.run rest := by
  rw [run, h]

theorem step_beginValue {e : Expectation} (h : e.AwaitsValue) {c : Char} (hspace : isSpace c = false)
    (hend : c ≠ ']') : step ⟨e, frames⟩ c = beginValue c frames := by
  cases e with
  | value | nextItem | firstItem => simp [step, stepOutside, hspace, hend]
  | _ => exact h.elim

theorem step_space {e : Expectation} (h : e.PassesSpace) {c : Char} (hspace : isSpace c = true) :
    step ⟨e, frames⟩ c = .ok ⟨e, frames⟩ := by
  cases e with
  | word | numeral | string => exact h.elim
  | _ => simp [step, stepOutside, hspace]

theorem run_gap {e : Expectation} (h : e.PassesSpace) {gap : List Char} (hgap : IsGap gap)
    (rest : List Char) : run ⟨e, frames⟩ (gap ++ rest) = run ⟨e, frames⟩ rest := by
  induction gap with
  | nil => rfl
  | cons c gap ih =>
    obtain ⟨hspace, hgap⟩ := List.forall_mem_cons.mp hgap
    rw [List.cons_append, run_cons (step_space h hspace), ih hgap]

theorem run_null {e : Expectation} (h : e.AwaitsValue) (rest : List Char) :
    run ⟨e, frames⟩ (['n', 'u', 'l', 'l'] ++ rest) = run (deliver .null frames) rest := by
  rw [List.cons_append, run_cons (step_beginValue h rfl (by decide))]
  rfl

theorem run_true {e : Expectation} (h : e.AwaitsValue) (rest : List Char) :
    run ⟨e, frames⟩ (['t', 'r', 'u', 'e'] ++ rest) = run (deliver (.bool true) frames) rest := by
  rw [List.cons_append, run_cons (step_beginValue h rfl (by decide))]
  rfl

theorem run_false {e : Expectation} (h : e.AwaitsValue) (rest : List Char) :
    run ⟨e, frames⟩ (['f', 'a', 'l', 's', 'e'] ++ rest) = run (deliver (.bool false) frames) rest := by
  rw [List.cons_append, run_cons (step_beginValue h rfl (by decide))]
  rfl

theorem utf8Size_of_hexDigit? {c : Char} {n : Nat} (h : hexDigit? c = some n) : c.utf8Size = 1 := by
  have hsmall {limit : Char} (hle : c ≤ limit) (hlimit : limit.val ≤ 127) : c.utf8Size = 1 :=
    Char.utf8Size_eq_one_iff.mpr (UInt32.le_trans hle hlimit)
  unfold hexDigit? at h
  split at h
  next hdigit =>
    rw [Char.isDigit, Bool.and_eq_true, decide_eq_true_eq, decide_eq_true_eq] at hdigit
    exact hsmall hdigit.2 (by decide)
  next =>
    split at h
    next hlower => exact hsmall hlower.2 (by decide)
    next =>
      split at h
      next hupper => exact hsmall hupper.2 (by decide)
      next => cases h

theorem utf8Size_of_hexValue? {seen : List Char} {n : Nat} (h : hexValue? seen = some n) :
    ∀ c ∈ seen, c.utf8Size = 1 := by
  induction seen generalizing n with
  | nil => exact fun _ hmem => absurd hmem List.not_mem_nil
  | cons c seen ih =>
    rw [hexValue?] at h
    obtain ⟨digit, hdigit, h⟩ := Option.bind_eq_some_iff.mp h
    obtain ⟨high, hhigh, _⟩ := Option.bind_eq_some_iff.mp h
    exact List.forall_mem_cons.mpr ⟨utf8Size_of_hexDigit? hdigit, ih hhigh⟩

theorem byteCount_eq_length {text : List Char} (h : ∀ c ∈ text, c.utf8Size = 1) :
    byteCount text = text.length := by
  induction text with
  | nil => rfl
  | cons c text ih =>
    obtain ⟨hc, htext⟩ := List.forall_mem_cons.mp h
    have hcons : byteCount (c :: text) = c.utf8Size + byteCount text := rfl
    rw [hcons, hc, ih htext, List.length_cons, Nat.add_comm]

variable {isKey : Bool} {chars : List Char}

/-- The state in which the digits of an escape are read, the second one of a surrogate pair if there
    is a first one. -/
def atDigits (isKey : Bool) (chars : List Char) (frames : List Frame) (lead? : Option Nat)
    (seen : List Char) : State :=
  ⟨.string isKey chars (match lead? with
    | none => .digits seen
    | some lead => .halfDigits lead seen), frames⟩

/-- What becomes of the value of the digits. -/
def afterDigits (isKey : Bool) (chars : List Char) (frames : List Frame) (lead? : Option Nat)
    (n : Nat) : Except Fault State :=
  match lead? with
  | none =>
    if isTrail n then .error (.at .loneSurrogate)
    else if isLead n then .ok ⟨.string isKey chars (.half n), frames⟩
    else .ok ⟨.string isKey (Char.ofNat n :: chars) .none, frames⟩
  | some lead =>
    if isTrail n then .ok ⟨.string isKey (joinSurrogates lead n :: chars) .none, frames⟩
    else .error (.at .loneSurrogate)

theorem step_atDigits (lead? : Option Nat) (seen : List Char) (c : Char) :
    (atDigits isKey chars frames lead? seen).step c =
      takeHexDigit seen c >>= fun
        | .inl seen => .ok (atDigits isKey chars frames lead? seen)
        | .inr n => afterDigits isKey chars frames lead? n := by
  cases lead? <;> rfl

/-- Four digits are read as their value. -/
theorem run_code {lead? : Option Nat} {digits : List Char} {n : Nat} (h : IsCode digits n)
    {t : State} (hafter : afterDigits isKey chars frames lead? n = .ok t) (rest : List Char) :
    run (atDigits isKey chars frames lead? []) (digits ++ rest) = run t rest := by
  obtain ⟨hlength, hvalue⟩ := h
  have hsize := utf8Size_of_hexValue? hvalue
  match digits, hlength with
  | [a, b, c, d], _ =>
    simp only [List.reverse_cons, List.reverse_nil, List.nil_append, List.cons_append,
      List.forall_mem_cons] at hvalue hsize
    obtain ⟨hd, hc, hb, ha, _⟩ := hsize
    have hless {seen : List Char} {c : Char} (h : byteCount seen + c.utf8Size < 4) :
        (atDigits isKey chars frames lead? seen).step c =
          .ok (atDigits isKey chars frames lead? (c :: seen)) := by
      rw [step_atDigits, takeHexDigit]
      simp only [h, if_true]
      rfl
    have hlast : (atDigits isKey chars frames lead? [c, b, a]).step d = .ok t := by
      rw [step_atDigits, takeHexDigit]
      simp only [byteCount, List.foldr, ha, hb, hc, hd, hvalue]
      exact hafter
    rw [List.cons_append, run_cons (hless (by simp [byteCount, ha])), List.cons_append,
      run_cons (hless (by simp [byteCount, ha, hb])), List.cons_append,
      run_cons (hless (by simp [byteCount, ha, hb, hc])), List.cons_append, run_cons hlast,
      List.nil_append]

/-- A character is read from whatever it is spelled as. -/
theorem run_spelled {c : Char} {text : List Char} (h : Spelled c text) (rest : List Char) :
    run ⟨.string isKey chars .none, frames⟩ (text ++ rest) =
      run ⟨.string isKey (c :: chars) .none, frames⟩ rest := by
  cases h with
  | plain hquote hbackslash hcontrol =>
    apply run_cons
    simp [step, stepOutside, stepString, hquote, hbackslash, Nat.not_lt.mpr hcontrol]
  | @letter letter _ hletter =>
    have hu : letter ≠ 'u' := by
      rintro rfl
      cases hletter
    rw [List.cons_append, run_cons (t := ⟨.string isKey chars .start, frames⟩) rfl]
    apply run_cons
    simp [step, stepOutside, stepString, hu, hletter]
  | @code digits n hcode hlead htrail =>
    have hafter : afterDigits isKey chars frames none n =
        .ok ⟨.string isKey (Char.ofNat n :: chars) .none, frames⟩ := by
      simp [afterDigits, hlead, htrail]
    exact run_code hcode hafter rest
  | @pair high low lead trail hhigh hlead hlow htrail =>
    have hnotTrail : isTrail lead = false := by
      simp only [isLead, isTrail, Bool.and_eq_true, Bool.and_eq_false_imp, decide_eq_true_eq,
        decide_eq_false_iff_not] at hlead ⊢
      omega
    have hfirst : afterDigits isKey chars frames none lead =
        .ok ⟨.string isKey chars (.half lead), frames⟩ := by
      simp [afterDigits, hlead, hnotTrail]
    have hsecond : afterDigits isKey chars frames (some lead) trail =
        .ok ⟨.string isKey (joinSurrogates lead trail :: chars) .none, frames⟩ := by
      simp [afterDigits, htrail]
    have hhighRun := run_code hhigh hfirst ('\\' :: 'u' :: low ++ rest)
    have hlowRun := run_code hlow hsecond rest
    simp only [List.cons_append, List.append_assoc] at hhighRun ⊢
    exact hhighRun.trans hlowRun

/-- A string is read to its end, whether it is a key or a value. -/
theorem run_spells {s text : List Char} (h : Spells s text) (rest : List Char) :
    run ⟨.string isKey chars .none, frames⟩ (text ++ '"' :: rest) =
      run (endString isKey (s.reverse ++ chars) frames) rest := by
  induction h generalizing chars with
  | nil => exact run_cons rfl rest
  | cons hfirst _ ih =>
    rw [List.append_assoc, run_spelled hfirst, ih, List.reverse_cons, List.append_assoc]
    rfl

theorem run_string {e : Expectation} (h : e.AwaitsValue) {s : String} {text : List Char}
    (hchars : Spells s.toList text) (rest : List Char) :
    run ⟨e, frames⟩ ('"' :: text ++ ['"'] ++ rest) = run (deliver (.string s) frames) rest := by
  have hquote : step ⟨e, frames⟩ '"' = .ok ⟨.string false [] .none, frames⟩ :=
    step_beginValue h rfl (by decide)
  rw [List.append_assoc, List.cons_append, run_cons hquote]
  refine (run_spells hchars rest).trans ?_
  simp [endString]

theorem step_start? {e : Expectation} (h : e.AwaitsValue) {c : Char} {n : Numeral}
    (hstart : Numeral.start? c = some n) : step ⟨e, frames⟩ c = .ok ⟨.numeral n, frames⟩ := by
  have hne {other : Char} (hother : Numeral.start? other = none) : c ≠ other := by
    rintro rfl
    rw [hother] at hstart
    cases hstart
  have hspace : isSpace c = false := by
    simp only [isSpace, Bool.or_eq_false_iff, decide_eq_false_iff_not]
    exact ⟨⟨⟨hne rfl, hne rfl⟩, hne rfl⟩, hne rfl⟩
  rw [step_beginValue h hspace (hne rfl), beginValue]
  · rw [hstart]
  all_goals exact hne rfl

/-- The characters of a literal are gathered in its numeral. -/
theorem run_after {e : Expectation} (h : e.AwaitsValue) {literal : List Char} {n : Numeral}
    (hafter : Numeral.After literal n) (rest : List Char) :
    run ⟨e, frames⟩ (literal ++ rest) = run ⟨.numeral n, frames⟩ rest := by
  induction hafter generalizing rest with
  | start hstart => exact run_cons (step_start? h hstart) rest
  | next _ hnext ih =>
    rw [List.append_assoc, List.cons_append, List.nil_append, ih]
    apply run_cons
    simp [step, hnext, bind, Except.bind]

theorem deliver_expects_ne_numeral (v : Json) (frames : List Frame) (n : Numeral) :
    (deliver v frames).expects ≠ .numeral n := by
  cases frames with
  | nil => exact fun h => nomatch h
  | cons frame frames => cases frame <;> exact fun h => nomatch h

/-- A numeral that may end is delivered as its number before the next character is taken. -/
theorem step_numeral_end {n : Numeral} {x : Number} {c : Char} (hvalue : n.value = .ok x)
    (hnext : n.next c = .ok none) :
    step ⟨.numeral n, frames⟩ c = (deliver (.number x) frames).step c := by
  have hdeliver : (deliver (.number x) frames).step c =
      stepOutside (deliver (.number x) frames) c := by
    rw [step]
    split
    next m hm => exact absurd hm (deliver_expects_ne_numeral _ _ m)
    next => rfl
  rw [hdeliver]
  simp [step, hnext, hvalue, bind, Except.bind]

/-- At the end of the text it is delivered as well. -/
theorem finish_numeral {n : Numeral} {x : Number} (hvalue : n.value = .ok x) :
    finish ⟨.numeral n, frames⟩ = (deliver (.number x) frames).finish := by
  rw [finish]
  simp only [hvalue, bind, Except.bind]
  cases frames with
  | nil => rfl
  | cons frame frames => cases frame <;> rfl

/-- Whether a numeral may end before a text. -/
def Ends (tail : List Char) : Prop :=
  ∀ c ∈ tail.head?, EndsNumeral c

theorem outcome_number {e : Expectation} (h : e.AwaitsValue) {literal : List Char} {n : Numeral}
    {x : Number} (hafter : Numeral.After literal n) (hvalue : n.value = .ok x) {tail : List Char}
    (htail : Ends tail) :
    outcome ⟨e, frames⟩ (literal ++ tail) = (deliver (.number x) frames).outcome tail := by
  rw [outcome_of_run (run_after h hafter tail)]
  cases tail with
  | nil => exact finish_numeral hvalue
  | cons c rest =>
    have hnext := Numeral.next_of_endsNumeral hvalue (htail c rfl)
    rw [outcome_cons, step_numeral_end hvalue hnext, outcome_cons]

end State

end Discovery.Json
