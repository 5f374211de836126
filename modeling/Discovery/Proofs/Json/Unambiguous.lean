import Mathlib
import Discovery.Proofs.Json.Draft

namespace Discovery.Json

theorem ne_of_isNumeric {c other : Char} (h : IsNumeric c) (hother : ¬ IsNumeric other) :
    c ≠ other := by
  rintro rfl
  exact hother h

theorem not_isNumeric_of_isSpace {c : Char} (h : isSpace c = true) : ¬ IsNumeric c := by
  simp only [isSpace, Bool.or_eq_true, decide_eq_true_eq] at h
  obtain ((rfl | rfl) | rfl) | rfl := h <;> decide

/-- Whether nothing of a text belongs to a literal before it. -/
def Stops (tail : List Char) : Prop :=
  ∀ c ∈ tail.head?, ¬ IsNumeric c

theorem stops_nil : Stops [] :=
  fun _ hmem => nomatch hmem

theorem stops_cons {c : Char} (hc : ¬ IsNumeric c) (rest : List Char) : Stops (c :: rest) := by
  rintro _ ⟨⟩
  exact hc

theorem stops_gap {gap tail : List Char} (hgap : IsGap gap) (h : Stops tail) :
    Stops (gap ++ tail) := by
  cases gap with
  | nil => exact h
  | cons c gap => exact stops_cons (not_isNumeric_of_isSpace (hgap c List.mem_cons_self)) _

/-- White space ends before a character that is none. -/
theorem gap_cons_inj {gap other rest tail : List Char} {c d : Char} (hgap : IsGap gap)
    (hother : IsGap other) (hc : isSpace c = false) (hd : isSpace d = false)
    (h : gap ++ c :: rest = other ++ d :: tail) : c = d ∧ rest = tail := by
  refine List.cons.inj (run_append_inj hgap hother ?_ ?_ h).2
  · rintro _ ⟨⟩
    exact hc
  · rintro _ ⟨⟩
    exact hd

theorem gap_delimiter_inj {gap other rest tail : List Char} {c : Char} (hgap : IsGap gap)
    (hother : IsGap other) (hc : isSpace c = false)
    (h : gap ++ c :: rest = other ++ c :: tail) : rest = tail :=
  (gap_cons_inj hgap hother hc hc h).2

theorem denotes_append_inj {literal other rest tail : List Char} {p q : ℚ}
    (h : Denotes literal p) (h' : Denotes other q) (hrest : Stops rest) (htail : Stops tail)
    (heq : literal ++ rest = other ++ tail) : literal = other ∧ rest = tail := by
  have hrun {text : List Char} (h : ∀ c ∈ text, IsNumeric c) :
      ∀ c ∈ text, decide (IsNumeric c) = true := fun c hc => decide_eq_true (h c hc)
  have hend {text : List Char} (h : Stops text) :
      ∀ c ∈ text.head?, decide (IsNumeric c) = false := fun c hc => decide_eq_false (h c hc)
  exact run_append_inj (hrun h.isNumeric) (hrun h'.isNumeric) (hend hrest) (hend htail) heq

theorem IsCode.append_inj {digits other rest tail : List Char} {n m : Nat} (h : IsCode digits n)
    (h' : IsCode other m) (heq : digits ++ rest = other ++ tail) : n = m ∧ rest = tail := by
  obtain ⟨hlength, hvalue⟩ := h
  obtain ⟨hlength', hvalue'⟩ := h'
  obtain ⟨rfl, htail⟩ := List.append_inj heq (hlength.trans hlength'.symm)
  exact ⟨Option.some.inj (hvalue.symm.trans hvalue'), htail⟩

theorem Spelled.append_inj {c d : Char} {first other rest tail : List Char} (h : Spelled c first)
    (h' : Spelled d other) (heq : first ++ rest = other ++ tail) : c = d ∧ rest = tail := by
  have hletter {letter : Char} {c : Char} (h : escapeLetter? letter = some c) : letter ≠ 'u' := by
    rintro rfl
    cases h
  cases h with
  | plain _ hbackslash =>
    cases h' with
    | plain => exact List.cons.inj heq
    | letter | code | pair => exact absurd (List.cons.inj heq).1 hbackslash
  | letter hmeaning =>
    cases h' with
    | plain _ hbackslash => exact absurd (List.cons.inj heq).1.symm hbackslash
    | letter hmeaning' =>
      obtain ⟨rfl, htail⟩ := List.cons.inj (List.cons.inj heq).2
      exact ⟨Option.some.inj (hmeaning.symm.trans hmeaning'), htail⟩
    | code | pair => exact absurd (List.cons.inj (List.cons.inj heq).2).1 (hletter hmeaning)
  | code hcode hlead =>
    cases h' with
    | plain _ hbackslash => exact absurd (List.cons.inj heq).1.symm hbackslash
    | letter hmeaning =>
      exact absurd (List.cons.inj (List.cons.inj heq).2).1.symm (hletter hmeaning)
    | code hcode' =>
      obtain ⟨rfl, htail⟩ := hcode.append_inj hcode' (List.cons.inj (List.cons.inj heq).2).2
      exact ⟨rfl, htail⟩
    | pair hhigh hlead' =>
      simp only [List.cons_append, List.append_assoc, List.cons.injEq, true_and] at heq
      obtain ⟨rfl, _⟩ := hcode.append_inj hhigh heq
      rw [hlead] at hlead'
      cases hlead'
  | pair hhigh hlead hlow =>
    cases h' with
    | plain _ hbackslash => exact absurd (List.cons.inj heq).1.symm hbackslash
    | letter hmeaning =>
      exact absurd (List.cons.inj (List.cons.inj heq).2).1.symm (hletter hmeaning)
    | code hcode hlead' =>
      simp only [List.cons_append, List.append_assoc, List.cons.injEq, true_and] at heq
      obtain ⟨rfl, _⟩ := hhigh.append_inj hcode heq
      rw [hlead] at hlead'
      cases hlead'
    | pair hhigh' _ hlow' =>
      simp only [List.cons_append, List.append_assoc, List.cons.injEq, true_and] at heq
      obtain ⟨rfl, heq⟩ := hhigh.append_inj hhigh' heq
      simp only [List.cons.injEq, true_and] at heq
      obtain ⟨rfl, htail⟩ := hlow.append_inj hlow' heq
      exact ⟨rfl, htail⟩

theorem Spelled.exists_cons {c : Char} {first : List Char} (h : Spelled c first) :
    ∃ d more, first = d :: more ∧ d ≠ '"' := by
  cases h with
  | plain hquote => exact ⟨_, _, rfl, hquote⟩
  | letter | code | pair => exact ⟨_, _, rfl, by decide⟩

/-- A string ends at its first quote that does not belong to a spelling. -/
theorem Spells.append_inj {chars others text other rest tail : List Char} (h : Spells chars text)
    (h' : Spells others other) (heq : text ++ '"' :: rest = other ++ '"' :: tail) :
    chars = others ∧ rest = tail := by
  have hquote {c : Char} {first more rest tail : List Char} (h : Spelled c first) :
      '"' :: tail ≠ first ++ more ++ '"' :: rest := by
    obtain ⟨d, more, rfl, hd⟩ := h.exists_cons
    exact fun heq => hd (List.cons.inj heq).1.symm
  induction h generalizing others other with
  | nil =>
    cases h' with
    | nil => exact ⟨rfl, (List.cons.inj heq).2⟩
    | cons hfirst => exact absurd heq (hquote hfirst)
  | cons hfirst _ ih =>
    cases h' with
    | nil => exact absurd heq.symm (hquote hfirst)
    | cons hfirst' hmore =>
      rw [List.append_assoc, List.append_assoc] at heq
      obtain ⟨rfl, heq⟩ := hfirst.append_inj hfirst' heq
      obtain ⟨rfl, htail⟩ := ih hmore heq
      exact ⟨rfl, htail⟩

theorem string_append_inj {s t : String} {chars others rest tail : List Char}
    (h : Spells s.toList chars) (h' : Spells t.toList others)
    (heq : chars ++ '"' :: rest = others ++ '"' :: tail) : s = t ∧ rest = tail := by
  obtain ⟨hchars, htail⟩ := h.append_inj h' heq
  exact ⟨String.toList_inj.mp hchars, htail⟩

namespace Draft

/-- The form of a draft, without what it holds. -/
inductive Form where
  | null
  | bool (value : Bool)
  | number
  | string
  | array
  | object

def form : Draft → Form
  | .null => .null
  | .bool value => .bool value
  | .number _ => .number
  | .string _ => .string
  | .array _ => .array
  | .object _ => .object

/-- The form of a draft that begins with a character. -/
def Form.ofFirst (c : Char) : Form :=
  if c = 'n' then .null
  else if c = 't' then .bool true
  else if c = 'f' then .bool false
  else if c = '"' then .string
  else if c = '[' then .array
  else if c = '\x7b' then .object
  else .number

variable {d e : Draft} {c : Char} {text other tail tail' : List Char}

theorem ofFirst_of_isNumeric (h : IsNumeric c) : Form.ofFirst c = .number := by
  have hne {other : Char} (hother : ¬ IsNumeric other) : c ≠ other := ne_of_isNumeric h hother
  rw [Form.ofFirst]
  repeat rw [if_neg (hne (by decide))]

/-- A draft begins with a character that is no white space and closes nothing. -/
theorem exists_first (h : Writes IsLiteral (.value d) text) :
    ∃ c more, text = c :: more ∧ isSpace c = false ∧ c ≠ ']' ∧ d.form = Form.ofFirst c := by
  cases h with
  | number hliteral =>
    obtain ⟨hdenotes⟩ := hliteral
    obtain ⟨c, more, _, rfl, _⟩ := hdenotes.exists_start?
    have hc := hdenotes.isNumeric c List.mem_cons_self
    refine ⟨c, more, rfl, ?_, ne_of_isNumeric hc (by decide), (ofFirst_of_isNumeric hc).symm⟩
    exact Bool.eq_false_iff.mpr fun hspace => not_isNumeric_of_isSpace hspace hc
  | _ => exact ⟨_, _, rfl, rfl, by decide, rfl⟩

theorem form_eq (h : Writes IsLiteral (.value d) text) (h' : Writes IsLiteral (.value e) other)
    (heq : text ++ tail = other ++ tail') : d.form = e.form := by
  obtain ⟨c, more, rfl, _, _, hd⟩ := exists_first h
  obtain ⟨c', more', rfl, _, _, he⟩ := exists_first h'
  rw [hd, he, (List.cons.inj heq).1]

theorem stops_items {items : List Draft} (h : Writes IsLiteral (.items items) text)
    (htail : Stops tail) : Stops (text ++ tail) := by
  cases h with
  | noItems => exact htail
  | items hbefore =>
    simp only [List.append_assoc, List.cons_append]
    exact stops_gap hbefore (stops_cons (by decide) _)

theorem stops_members {members : List (String × Draft)} (h : Writes IsLiteral (.members members) text)
    (htail : Stops tail) : Stops (text ++ tail) := by
  cases h with
  | noMembers => exact htail
  | members hbefore =>
    simp only [List.append_assoc, List.cons_append]
    exact stops_gap hbefore (stops_cons (by decide) _)

/-- Parts that can stand in the same place. -/
inductive SameKind : Part → Part → Prop
  | value (d e : Draft) : SameKind (.value d) (.value e)
  | items (items others : List Draft) : SameKind (.items items) (.items others)
  | member (key name : String) (value other : Draft) :
    SameKind (.member key value) (.member name other)
  | members (members others : List (String × Draft)) :
    SameKind (.members members) (.members others)

/-- Whether a text closes an array or an object. -/
def Closes (text : List Char) : Prop :=
  ∃ gap c rest, text = gap ++ c :: rest ∧ IsGap gap ∧ c ∈ [']', '\x7d']

/-- What stands behind a part. -/
def Part.Ends : Part → List Char → Prop
  | .value _, tail | .member _ _, tail => Stops tail
  | .items _, tail | .members _, tail => Closes tail

theorem of_mem_closing (h : c ∈ [']', '\x7d']) : isSpace c = false ∧ c ≠ ',' ∧ ¬ IsNumeric c := by
  simp only [List.mem_cons, List.not_mem_nil, or_false] at h
  obtain rfl | rfl := h <;> decide

theorem closes_bracket {gap : List Char} (hgap : IsGap gap) (rest : List Char) :
    Closes (gap ++ ']' :: rest) :=
  ⟨gap, ']', rest, rfl, hgap, by decide⟩

theorem closes_brace {gap : List Char} (hgap : IsGap gap) (rest : List Char) :
    Closes (gap ++ '\x7d' :: rest) :=
  ⟨gap, '\x7d', rest, rfl, hgap, by decide⟩

theorem Closes.stops (h : Closes tail) : Stops tail := by
  obtain ⟨gap, c, rest, rfl, hgap, hc⟩ := h
  exact stops_gap hgap (stops_cons (of_mem_closing hc).2.2 rest)

/-- A comma closes nothing. -/
theorem Closes.ne_comma (h : Closes tail) {gap : List Char} (hgap : IsGap gap) (rest : List Char) :
    tail ≠ gap ++ ',' :: rest := by
  obtain ⟨before, c, more, rfl, hbefore, hc⟩ := h
  obtain ⟨hspace, hcomma, _⟩ := of_mem_closing hc
  exact fun heq => hcomma (gap_cons_inj hbefore hgap hspace (by decide) heq).1

/-- White space ends where a draft begins. -/
theorem gap_value_inj {gap gap' : List Char} (hgap : IsGap gap) (hgap' : IsGap gap')
    (h : Writes IsLiteral (.value d) text) (h' : Writes IsLiteral (.value e) other)
    (heq : gap ++ (text ++ tail) = gap' ++ (other ++ tail')) : text ++ tail = other ++ tail' := by
  obtain ⟨c, more, rfl, hc, _⟩ := exists_first h
  obtain ⟨c', more', rfl, hc', _⟩ := exists_first h'
  obtain ⟨rfl, hmore⟩ := gap_cons_inj hgap hgap' hc hc' heq
  exact congrArg (c :: ·) hmore

/-- An empty array does not hold a draft. -/
theorem gap_bracket_ne {gap gap' : List Char} (hgap : IsGap gap) (hgap' : IsGap gap')
    (h : Writes IsLiteral (.value d) text) : gap ++ ']' :: tail ≠ gap' ++ (text ++ tail') := by
  obtain ⟨c, more, rfl, hc, hbracket, _⟩ := exists_first h
  exact fun heq => hbracket (gap_cons_inj hgap hgap' (by decide) hc heq).1.symm

variable {key name : String} {value value' : Draft}

theorem exists_quote (h : Writes IsLiteral (.member key value) text) : ∃ more, text = '"' :: more := by
  cases h
  exact ⟨_, rfl⟩

theorem gap_member_inj {gap gap' : List Char} (hgap : IsGap gap) (hgap' : IsGap gap')
    (h : Writes IsLiteral (.member key value) text) (h' : Writes IsLiteral (.member name value') other)
    (heq : gap ++ (text ++ tail) = gap' ++ (other ++ tail')) : text ++ tail = other ++ tail' := by
  obtain ⟨more, rfl⟩ := exists_quote h
  obtain ⟨more', rfl⟩ := exists_quote h'
  have hmore := gap_delimiter_inj hgap hgap' rfl heq
  exact congrArg ('"' :: ·) hmore

/-- An empty object does not hold a member. -/
theorem gap_brace_ne {gap gap' : List Char} (hgap : IsGap gap) (hgap' : IsGap gap')
    (h : Writes IsLiteral (.member key value) text) :
    gap ++ '\x7d' :: tail ≠ gap' ++ (text ++ tail') := by
  obtain ⟨more, rfl⟩ := exists_quote h
  exact fun heq => absurd (gap_cons_inj hgap hgap' (by decide) (by decide) heq).1 (by decide)

/-- Whether no other part is written where a part is, and none that ends elsewhere. -/
def Determined (text : List Char) (part : Part) : Prop :=
  ∀ (part' : Part) (other tail tail' : List Char), Writes IsLiteral part' other → SameKind part part' →
    part.Ends tail → part'.Ends tail' → text ++ tail = other ++ tail' → part = part' ∧ tail = tail'

/-- A draft need only be compared with those of its form. -/
theorem determined_value (h : Writes IsLiteral (.value d) text)
    (hsame : ∀ (e : Draft) (other tail tail' : List Char), Writes IsLiteral (.value e) other →
      d.form = e.form → Stops tail → Stops tail' → text ++ tail = other ++ tail' →
      d = e ∧ tail = tail') : Determined text (.value d) := by
  intro part' other tail tail' h' hkind htail htail' heq
  obtain ⟨_, e⟩ := hkind
  obtain ⟨rfl, hend⟩ := hsame e other tail tail' h' (form_eq h h' heq) htail htail' heq
  exact ⟨rfl, hend⟩

theorem determined_null : Determined ['n', 'u', 'l', 'l'] (.value .null) := by
  refine determined_value .null fun e other tail tail' h' hform _ _ heq => ?_
  cases h' with
  | null => exact ⟨rfl, List.append_cancel_left heq⟩
  | _ => cases hform

theorem determined_true : Determined ['t', 'r', 'u', 'e'] (.value (.bool true)) := by
  refine determined_value .true fun e other tail tail' h' hform _ _ heq => ?_
  cases h' with
  | true => exact ⟨rfl, List.append_cancel_left heq⟩
  | _ => cases hform

theorem determined_false : Determined ['f', 'a', 'l', 's', 'e'] (.value (.bool false)) := by
  refine determined_value .false fun e other tail tail' h' hform _ _ heq => ?_
  cases h' with
  | false => exact ⟨rfl, List.append_cancel_left heq⟩
  | _ => cases hform

theorem determined_number {literal : List Char} {q : ℚ} (h : Denotes literal q) :
    Determined literal (.value (.number literal)) := by
  refine determined_value (.number (.intro h)) fun e other tail tail' h' hform htail htail' heq => ?_
  cases h' with
  | number hliteral =>
    obtain ⟨hdenotes⟩ := hliteral
    obtain ⟨rfl, hend⟩ := denotes_append_inj h hdenotes htail htail' heq
    exact ⟨rfl, hend⟩
  | _ => cases hform

theorem determined_string {s : String} {chars : List Char} (h : Spells s.toList chars) :
    Determined ('"' :: chars ++ ['"']) (.value (.string s)) := by
  refine determined_value (.string h) fun e other tail tail' h' hform _ _ heq => ?_
  cases h' with
  | string hchars =>
    simp only [List.cons_append, List.append_assoc, List.nil_append, List.cons.injEq,
      true_and] at heq
    obtain ⟨rfl, hend⟩ := string_append_inj h hchars heq
    exact ⟨rfl, hend⟩
  | _ => cases hform

variable {item : Draft} {items : List Draft} {members : List (String × Draft)}
  {gap before first rest after : List Char}

theorem determined_emptyArray (hgap : IsGap gap) :
    Determined ('[' :: gap ++ [']']) (.value (.array [])) := by
  refine determined_value (.emptyArray hgap) fun e other tail tail' h' hform _ _ heq => ?_
  cases h' with
  | emptyArray hgap' =>
    simp only [List.cons_append, List.append_assoc, List.nil_append, List.cons.injEq,
      true_and] at heq
    exact ⟨rfl, gap_delimiter_inj hgap hgap' rfl heq⟩
  | array hbefore hfirst =>
    simp only [List.cons_append, List.append_assoc, List.nil_append, List.cons.injEq,
      true_and] at heq
    exact absurd heq (gap_bracket_ne hgap hbefore hfirst)
  | _ => cases hform

theorem determined_array (hbefore : IsGap before) (hfirst : Writes IsLiteral (.value item) first)
    (hitem : Determined first (.value item)) (hrest : Writes IsLiteral (.items items) rest)
    (hitems : Determined rest (.items items)) (hafter : IsGap after) :
    Determined ('[' :: before ++ first ++ rest ++ after ++ [']'])
      (.value (.array (item :: items))) := by
  refine determined_value (.array hbefore hfirst hrest hafter)
    fun e other tail tail' h' hform _ _ heq => ?_
  cases h' with
  | emptyArray hgap =>
    simp only [List.cons_append, List.append_assoc, List.nil_append, List.cons.injEq,
      true_and] at heq
    exact absurd heq.symm (gap_bracket_ne hgap hbefore hfirst)
  | array hbefore' hfirst' hrest' hafter' =>
    simp only [List.cons_append, List.append_assoc, List.nil_append, List.cons.injEq,
      true_and] at heq
    have hends := closes_bracket hafter tail
    have hends' := closes_bracket hafter' tail'
    obtain ⟨hsame, hmore⟩ := hitem _ _ _ _ hfirst' (.value _ _) (stops_items hrest hends.stops)
      (stops_items hrest' hends'.stops) (gap_value_inj hbefore hbefore' hfirst hfirst' heq)
    obtain ⟨hothers, hclose⟩ := hitems _ _ _ _ hrest' (.items _ _) hends hends' hmore
    cases hsame
    cases hothers
    exact ⟨rfl, gap_delimiter_inj hafter hafter' rfl hclose⟩
  | _ => cases hform

theorem determined_noItems : Determined [] (.items []) := by
  intro part' other tail tail' h' hkind htail _ heq
  obtain _ | ⟨_, others⟩ := hkind
  cases h' with
  | noItems => exact ⟨rfl, heq⟩
  | items hbefore =>
    simp only [List.cons_append, List.append_assoc, List.nil_append] at heq
    exact absurd heq (htail.ne_comma hbefore _)

theorem determined_items (hbefore : IsGap before) (hafter : IsGap after)
    (hfirst : Writes IsLiteral (.value item) first) (hitem : Determined first (.value item))
    (hrest : Writes IsLiteral (.items items) rest) (hitems : Determined rest (.items items)) :
    Determined (before ++ ',' :: after ++ first ++ rest) (.items (item :: items)) := by
  intro part' other tail tail' h' hkind htail htail' heq
  obtain _ | ⟨_, others⟩ := hkind
  simp only [List.cons_append, List.append_assoc] at heq
  cases h' with
  | noItems => exact absurd heq.symm (htail'.ne_comma hbefore _)
  | items hbefore' hafter' hfirst' hrest' =>
    simp only [List.cons_append, List.append_assoc] at heq
    have heq := gap_delimiter_inj hbefore hbefore' rfl heq
    obtain ⟨hsame, hmore⟩ := hitem _ _ _ _ hfirst' (.value _ _) (stops_items hrest htail.stops)
      (stops_items hrest' htail'.stops) (gap_value_inj hafter hafter' hfirst hfirst' heq)
    obtain ⟨hothers, hend⟩ := hitems _ _ _ _ hrest' (.items _ _) htail htail' hmore
    cases hsame
    cases hothers
    exact ⟨rfl, hend⟩

theorem determined_emptyObject (hgap : IsGap gap) :
    Determined ('\x7b' :: gap ++ ['\x7d']) (.value (.object [])) := by
  refine determined_value (.emptyObject hgap) fun e other tail tail' h' hform _ _ heq => ?_
  cases h' with
  | emptyObject hgap' =>
    simp only [List.cons_append, List.append_assoc, List.nil_append, List.cons.injEq,
      true_and] at heq
    exact ⟨rfl, gap_delimiter_inj hgap hgap' rfl heq⟩
  | object hbefore hfirst =>
    simp only [List.cons_append, List.append_assoc, List.nil_append, List.cons.injEq,
      true_and] at heq
    exact absurd heq (gap_brace_ne hgap hbefore hfirst)
  | _ => cases hform

theorem determined_object (hbefore : IsGap before) (hfirst : Writes IsLiteral (.member key value) first)
    (hmember : Determined first (.member key value)) (hrest : Writes IsLiteral (.members members) rest)
    (hmembers : Determined rest (.members members)) (hafter : IsGap after) :
    Determined ('\x7b' :: before ++ first ++ rest ++ after ++ ['\x7d'])
      (.value (.object ((key, value) :: members))) := by
  refine determined_value (.object hbefore hfirst hrest hafter)
    fun e other tail tail' h' hform _ _ heq => ?_
  cases h' with
  | emptyObject hgap =>
    simp only [List.cons_append, List.append_assoc, List.nil_append, List.cons.injEq,
      true_and] at heq
    exact absurd heq.symm (gap_brace_ne hgap hbefore hfirst)
  | object hbefore' hfirst' hrest' hafter' =>
    simp only [List.cons_append, List.append_assoc, List.nil_append, List.cons.injEq,
      true_and] at heq
    have hends := closes_brace hafter tail
    have hends' := closes_brace hafter' tail'
    obtain ⟨hsame, hmore⟩ := hmember _ _ _ _ hfirst' (.member _ _ _ _)
      (stops_members hrest hends.stops) (stops_members hrest' hends'.stops)
      (gap_member_inj hbefore hbefore' hfirst hfirst' heq)
    obtain ⟨hothers, hclose⟩ := hmembers _ _ _ _ hrest' (.members _ _) hends hends' hmore
    cases hsame
    cases hothers
    exact ⟨rfl, gap_delimiter_inj hafter hafter' rfl hclose⟩
  | _ => cases hform

theorem determined_member {chars : List Char} (hkey : Spells key.toList chars)
    (hbefore : IsGap before) (hafter : IsGap after) (h : Writes IsLiteral (.value value) text)
    (hvalue : Determined text (.value value)) :
    Determined ('"' :: chars ++ '"' :: before ++ ':' :: after ++ text) (.member key value) := by
  intro part' other tail tail' h' hkind htail htail' heq
  obtain _ | _ | ⟨_, name, _, value'⟩ := hkind
  cases h' with
  | member hkey' hbefore' hafter' hwrites =>
    simp only [List.cons_append, List.append_assoc, List.cons.injEq, true_and] at heq
    obtain ⟨rfl, heq⟩ := string_append_inj hkey hkey' heq
    have heq := gap_delimiter_inj hbefore hbefore' rfl heq
    obtain ⟨hsame, hend⟩ := hvalue _ _ _ _ hwrites (.value _ _) htail htail'
      (gap_value_inj hafter hafter' h hwrites heq)
    cases hsame
    exact ⟨rfl, hend⟩

theorem determined_noMembers : Determined [] (.members []) := by
  intro part' other tail tail' h' hkind htail _ heq
  obtain _ | _ | _ | ⟨_, others⟩ := hkind
  cases h' with
  | noMembers => exact ⟨rfl, heq⟩
  | members hbefore =>
    simp only [List.cons_append, List.append_assoc, List.nil_append] at heq
    exact absurd heq (htail.ne_comma hbefore _)

theorem determined_members (hbefore : IsGap before) (hafter : IsGap after)
    (hfirst : Writes IsLiteral (.member key value) first)
    (hmember : Determined first (.member key value))
    (hrest : Writes IsLiteral (.members members) rest)
    (hmembers : Determined rest (.members members)) :
    Determined (before ++ ',' :: after ++ first ++ rest) (.members ((key, value) :: members)) := by
  intro part' other tail tail' h' hkind htail htail' heq
  obtain _ | _ | _ | ⟨_, others⟩ := hkind
  simp only [List.cons_append, List.append_assoc] at heq
  cases h' with
  | noMembers => exact absurd heq.symm (htail'.ne_comma hbefore _)
  | members hbefore' hafter' hfirst' hrest' =>
    simp only [List.cons_append, List.append_assoc] at heq
    have heq := gap_delimiter_inj hbefore hbefore' rfl heq
    obtain ⟨hsame, hmore⟩ := hmember _ _ _ _ hfirst' (.member _ _ _ _)
      (stops_members hrest htail.stops) (stops_members hrest' htail'.stops)
      (gap_member_inj hafter hafter' hfirst hfirst' heq)
    obtain ⟨hothers, hend⟩ := hmembers _ _ _ _ hrest' (.members _ _) htail htail' hmore
    cases hsame
    cases hothers
    exact ⟨rfl, hend⟩

/-- Every part and its end are determined by the text that begins with it. -/
theorem determined_of_writes {part : Part} (h : Writes IsLiteral part text) : Determined text part := by
  induction h with
  | null => exact determined_null
  | true => exact determined_true
  | false => exact determined_false
  | number hliteral =>
    obtain ⟨hdenotes⟩ := hliteral
    exact determined_number hdenotes
  | string hchars => exact determined_string hchars
  | emptyArray hgap => exact determined_emptyArray hgap
  | array hbefore hfirst hrest hafter ihItem ihItems =>
    exact determined_array hbefore hfirst ihItem hrest ihItems hafter
  | noItems => exact determined_noItems
  | items hbefore hafter hfirst hrest ihItem ihItems =>
    exact determined_items hbefore hafter hfirst ihItem hrest ihItems
  | emptyObject hgap => exact determined_emptyObject hgap
  | object hbefore hfirst hrest hafter ihMember ihMembers =>
    exact determined_object hbefore hfirst ihMember hrest ihMembers hafter
  | member hkey hbefore hafter hvalue ihValue =>
    exact determined_member hkey hbefore hafter hvalue ihValue
  | noMembers => exact determined_noMembers
  | members hbefore hafter hfirst hrest ihMember ihMembers =>
    exact determined_members hbefore hafter hfirst ihMember hrest ihMembers

/-- A text holds one draft. -/
theorem WrittenIn.unique {text : List Char} (h : d.WrittenIn text) (h' : e.WrittenIn text) :
    d = e := by
  obtain ⟨before, inner, after, rfl, hbefore, hinner, hafter⟩ := h
  obtain ⟨before', inner', after', heq, hbefore', hinner', hafter'⟩ := h'
  have hends {gap : List Char} (h : IsGap gap) : Stops gap := by
    simpa using stops_gap h stops_nil
  rw [List.append_assoc, List.append_assoc] at heq
  have hvalue := gap_value_inj hbefore hbefore' hinner hinner' heq
  obtain ⟨hsame, _⟩ := determined_of_writes hinner _ _ _ _ hinner' (.value d e) (hends hafter)
    (hends hafter') hvalue
  cases hsame
  rfl

/-- Every text that is read has a draft, and what was read is the canonical form of what the draft
    is read as. -/
theorem exists_reads_of_read {text : List Char} {document : Json}
    (h : Json.read text = .ok document) :
    ∃ (d : Draft) (v : Json), d.WrittenIn text ∧ Reads (.value d) (.value v) ∧
      document = v.canonical := by
  obtain ⟨v, hv⟩ := Json.exists_writtenIn_of_read h
  obtain ⟨before, inner, after, htext, hbefore, hinner, hafter⟩ := id hv
  obtain ⟨_, hread, hwrites⟩ := exists_of_writes hinner
  obtain ⟨d, rfl⟩ := hread.exists_value
  exact ⟨d, v, ⟨before, inner, after, htext, hbefore, hwrites, hafter⟩, hread,
    (eq_canonical_of_read h hv).1⟩

end Draft

end Discovery.Json
