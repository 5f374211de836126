import Discovery.Json.Printer
import Discovery.Json.Reader
import Discovery.Proofs.Json.Shape

namespace Discovery.Json

/-- White space between the parts of a document. -/
def IsGap (text : List Char) : Prop :=
  ∀ c ∈ text, isSpace c = true

/-- Four hexadecimal digits and their value. -/
def IsCode (digits : List Char) (n : Nat) : Prop :=
  digits.length = 4 ∧ hexValue? digits.reverse = some n

/-- How a character can be written in a string. -/
inductive Spelled : Char → List Char → Prop
  | plain {c : Char} : c ≠ '"' → c ≠ '\\' → 0x20 ≤ c.toNat → Spelled c [c]
  | letter {letter c : Char} : escapeLetter? letter = some c → Spelled c ['\\', letter]
  | code {digits : List Char} {n : Nat} : IsCode digits n → isLead n = false → isTrail n = false →
    Spelled (Char.ofNat n) ('\\' :: 'u' :: digits)
  | pair {high low : List Char} {lead trail : Nat} : IsCode high lead → isLead lead = true →
    IsCode low trail → isTrail trail = true →
    Spelled (joinSurrogates lead trail) ('\\' :: 'u' :: high ++ '\\' :: 'u' :: low)

/-- How a text can be written between its quotes. -/
inductive Spells : List Char → List Char → Prop
  | nil : Spells [] []
  | cons {c : Char} {chars first rest : List Char} : Spelled c first → Spells chars rest →
    Spells (c :: chars) (first ++ rest)

/-- What is known of a numeral after the characters of a literal. -/
inductive Numeral.After : List Char → Numeral → Prop
  | start {c : Char} {n : Numeral} : Numeral.start? c = some n → After [c] n
  | next {literal : List Char} {c : Char} {n m : Numeral} : After literal n →
    n.next c = .ok (some m) → After (literal ++ [c]) m

/-- How a number can be written. Integers that 64 bits hold are written with their digits alone. All
    other numbers are doubles; what they look like is left to the numerals. -/
inductive Number.IsWritten : Number → List Char → Prop
  | integer {i : Int} : -9223372036854775808 ≤ i → i ≤ 18446744073709551615 →
    IsWritten (.integer i) (integerDigits i)
  | double {literal : List Char} {n : Numeral} {x : Binary64} : Numeral.After literal n →
    n.value = .ok (.double x) → IsWritten (.double x) literal

/-- A part of a document that is written on its own. -/
inductive Part (ν : Type := Number) where
  | value (d : Json ν)
  /-- the items of an array behind the first ones, each with a comma before it -/
  | items (items : List (Json ν))
  | member (key : String) (value : Json ν)
  /-- the members of an object behind the first ones, each with a comma before it -/
  | members (members : List (String × Json ν))

section

variable {ν : Type} (isWritten : ν → List Char → Prop)

/-- How a part of a document can be written, given how its numbers can. -/
inductive Writes : Part ν → List Char → Prop
  | null : Writes (.value .null) ['n', 'u', 'l', 'l']
  | true : Writes (.value (.bool true)) ['t', 'r', 'u', 'e']
  | false : Writes (.value (.bool false)) ['f', 'a', 'l', 's', 'e']
  | number {x : ν} {literal : List Char} : isWritten x literal →
    Writes (.value (.number x)) literal
  | string {s : String} {chars : List Char} : Spells s.toList chars →
    Writes (.value (.string s)) ('"' :: chars ++ ['"'])
  | emptyArray {gap : List Char} : IsGap gap → Writes (.value (.array [])) ('[' :: gap ++ [']'])
  | array {item : Json ν} {items : List (Json ν)} {before first rest after : List Char} :
    IsGap before → Writes (.value item) first → Writes (.items items) rest → IsGap after →
    Writes (.value (.array (item :: items))) ('[' :: before ++ first ++ rest ++ after ++ [']'])
  | noItems : Writes (.items []) []
  | items {item : Json ν} {items : List (Json ν)} {before after first rest : List Char} :
    IsGap before → IsGap after → Writes (.value item) first → Writes (.items items) rest →
    Writes (.items (item :: items)) (before ++ ',' :: after ++ first ++ rest)
  | emptyObject {gap : List Char} : IsGap gap →
    Writes (.value (.object [])) ('\x7b' :: gap ++ ['\x7d'])
  | object {key : String} {value : Json ν} {members : List (String × Json ν)}
    {before first rest after : List Char} :
    IsGap before → Writes (.member key value) first → Writes (.members members) rest →
    IsGap after →
    Writes (.value (.object ((key, value) :: members)))
      ('\x7b' :: before ++ first ++ rest ++ after ++ ['\x7d'])
  | member {key : String} {value : Json ν} {chars before after text : List Char} :
    Spells key.toList chars → IsGap before → IsGap after → Writes (.value value) text →
    Writes (.member key value) ('"' :: chars ++ '"' :: before ++ ':' :: after ++ text)
  | noMembers : Writes (.members []) []
  | members {key : String} {value : Json ν} {members : List (String × Json ν)}
    {before after first rest : List Char} :
    IsGap before → IsGap after → Writes (.member key value) first → Writes (.members members) rest →
    Writes (.members ((key, value) :: members)) (before ++ ',' :: after ++ first ++ rest)

/-- A document that makes up a text, with white space around it if there is any. -/
def WrittenWith (d : Json ν) (text : List Char) : Prop :=
  ∃ before inner after : List Char, text = before ++ inner ++ after ∧
    IsGap before ∧ Writes isWritten (.value d) inner ∧ IsGap after

end

/-- A document that makes up a text. The members of its objects are those of the text, in their order
    and with every key that comes twice. -/
def WrittenIn (d : Json) (text : List Char) : Prop :=
  WrittenWith Number.IsWritten d text

theorem isGap_nil : IsGap [] :=
  fun _ hmem => absurd hmem List.not_mem_nil

theorem isGap_layout (layout : Layout) (depth : Nat) : IsGap (layout.gap depth) := by
  intro c hmem
  cases layout with
  | compact => cases hmem
  | pretty =>
    obtain rfl | hmem := List.mem_cons.mp hmem
    · rfl
    · rw [List.eq_of_mem_replicate hmem]
      rfl

theorem hexValue?_control : ∀ n < 32,
    hexValue? [hexDigit (n % 16), hexDigit (n / 16), '0', '0'] = some n := by
  decide

theorem spelled_escape (c : Char) : Spelled c (escape c) := by
  unfold escape
  split
  case h_8 hquote hbackslash _ _ _ _ _ =>
    split
    next hcontrol =>
      have hcode : IsCode ['0', '0', hexDigit (c.toNat / 16), hexDigit (c.toNat % 16)] c.toNat :=
        ⟨rfl, hexValue?_control _ hcontrol⟩
      have hlead : isLead c.toNat = false := by
        simp only [isLead, Bool.and_eq_false_imp, decide_eq_true_eq]
        omega
      have htrail : isTrail c.toNat = false := by
        simp only [isTrail, Bool.and_eq_false_imp, decide_eq_true_eq]
        omega
      have hspelled := Spelled.code hcode hlead htrail
      rwa [Char.ofNat_toNat] at hspelled
    next hcontrol => exact .plain hquote hbackslash (by omega)
  all_goals exact .letter rfl

theorem spells_flatMap_escape (chars : List Char) : Spells chars (chars.flatMap escape) := by
  induction chars with
  | nil => exact .nil
  | cons c chars ih =>
    rw [List.flatMap_cons]
    exact .cons (spelled_escape c) ih

end Discovery.Json
