import Discovery.Proofs.Flag.Scanner
import Discovery.Request.Interpretation

namespace Discovery

/-- A part of the arguments that stands for itself. -/
inductive Item where
  /-- an argument that is no flag -/
  | operand (argument : String)
  /-- a flag, and its value in the next argument -/
  | apart (spelling : String) (flag : Flag) (value : String)
  /-- a flag and its value in one argument -/
  | joined (spelling : String) (flag : Flag) (value : String)

namespace Item

/-- The arguments of an item. -/
def arguments : Item → List String
  | operand argument => [argument]
  | apart spelling _ value => [spelling, value]
  | joined spelling _ _ => [spelling]

/-- What is asked of an item: the subcommand has its flag, the flag is spelled as it should be, and
    it admits its value. A value in an argument of its own must not look like a flag, except behind
    the flags that take anything. -/
def Written (flags : List Flag) : Item → Prop
  | operand argument => IsOperand argument
  | apart spelling flag value =>
    flag ∈ flags ∧ flag.Spelled none spelling ∧ (flag.takesAnything ∨ IsOperand value) ∧
      flag.Admits value
  | joined spelling flag value =>
    flag ∈ flags ∧ flag.Spelled (some value) spelling ∧ flag.Admits value

/-- The flag of an item with its value. -/
def occurrence? : Item → Option Occurrence
  | operand _ => none
  | apart _ flag value => some ⟨flag, value⟩
  | joined _ flag value => some ⟨flag, value⟩

/-- The argument of an item without a flag. -/
def operand? : Item → Option String
  | operand argument => some argument
  | _ => none

/-- The value that an item gives a flag. -/
def valueOf? (flag : Flag) : Item → Option String
  | operand _ => none
  | apart _ given value => if given = flag then some value else none
  | joined _ given value => if given = flag then some value else none

/-- What a scan finds in an item. -/
def scan : Item → Scan
  | operand argument => .ofExtra [argument]
  | apart _ flag value => .ofFlag flag value
  | joined _ flag value => .ofFlag flag value

end Item

/-- Items, and the arguments behind two hyphens alone if these are there. -/
structure Line where
  items : List Item
  rest? : Option (List String)

namespace Line

/-- The arguments of a line. -/
def arguments (line : Line) : List String :=
  line.items.flatMap Item.arguments ++
    match line.rest? with
    | none => []
    | some rest => "--" :: rest

/-- A line whose items are written as they should be. What stands behind two hyphens may be
    anything. -/
def Written (flags : List Flag) (line : Line) : Prop :=
  ∀ item ∈ line.items, item.Written flags

/-- The values that a line gives a flag, in order. -/
def values (line : Line) (flag : Flag) : List String :=
  line.items.filterMap (Item.valueOf? flag)

/-- The flags of a line with their values, in order. -/
def occurrences (line : Line) : List Occurrence :=
  line.items.filterMap Item.occurrence?

/-- The arguments of a line that belong to no flag, in order. -/
def operands (line : Line) : List String :=
  line.items.filterMap Item.operand? ++ line.rest?.getD []

/-- What a scan finds in a line. -/
def scan (line : Line) : Scan :=
  ⟨line.occurrences, line.operands⟩

theorem scan_nil (rest? : Option (List String)) :
    scan ⟨[], rest?⟩ = Scan.ofExtra (rest?.getD []) :=
  rfl

theorem scan_cons (item : Item) (items : List Item) (rest? : Option (List String)) :
    scan ⟨item :: items, rest?⟩ = item.scan ++ scan ⟨items, rest?⟩ := by
  cases item <;> rfl

theorem all_scan (line : Line) (flag : Flag) : line.scan.all flag = line.values flag := by
  obtain ⟨items, rest?⟩ := line
  induction items with
  | nil => rfl
  | cons item items ih =>
    have hall : (scan ⟨item :: items, rest?⟩).all flag =
        item.scan.all flag ++ (scan ⟨items, rest?⟩).all flag := by
      rw [scan_cons]
      simp [Scan.all]
    rw [hall, ih]
    cases item with
    | operand argument => rfl
    | apart spelling given value =>
      by_cases h : given = flag <;> simp [Item.scan, Scan.ofFlag, Scan.all, values, Item.valueOf?, h]
    | joined spelling given value =>
      by_cases h : given = flag <;> simp [Item.scan, Scan.ofFlag, Scan.all, values, Item.valueOf?, h]

end Line

namespace Scanner

variable {flags : List Flag}

theorem finish_awaiting_anything {found : Scan} {flag : Flag} {value : String}
    (hany : flag.takesAnything) (rest : List String) :
    finish flags ⟨found, .awaiting flag, false⟩ (value :: rest) =
      finish flags ⟨found, .given flag value, false⟩ rest := by
  apply finish_cons_of_step
  simp [step, hany]

theorem finish_awaiting_operand {found : Scan} {flag : Flag} {value : String}
    (hoperand : IsOperand value) (rest : List String) :
    finish flags ⟨found, .awaiting flag, false⟩ (value :: rest) =
      finish flags ⟨found, .given flag value, false⟩ rest := by
  apply finish_cons_of_step
  simp [step, takeToken, Token.ofArgument_of_isOperand hoperand]

/-- An item that is written as it should be adds what it holds to a scan and leaves nothing
    pending. -/
theorem finish_item {item : Item} (h : item.Written flags) (found : Scan) (rest : List String) :
    (settled found).finish flags (item.arguments ++ rest) =
      (settled (found ++ item.scan)).finish flags rest := by
  have hfree : ∀ flag, (settled found).pending ≠ .awaiting flag := by simp [settled]
  cases item with
  | operand argument =>
    apply finish_cons_of_step
    rw [step_of_not_awaiting rfl hfree, takeToken, Token.ofArgument_of_isOperand h, Item.scan,
      Scan.append_ofExtra]
    rfl
  | apart spelling flag value =>
    obtain ⟨hmem, hspelled, hvalue, hadmits⟩ := h
    have hstep : (settled found).step flags spelling = .ok ⟨found, .awaiting flag, false⟩ := by
      rw [step_of_not_awaiting rfl hfree, takeToken_of_spelled hmem hspelled]
      rfl
    rw [Item.arguments, List.cons_append, finish_cons_of_step _ hstep, List.cons_append]
    obtain hany | hoperand := hvalue
    · rw [finish_awaiting_anything hany, finish_given hadmits]
      rfl
    · rw [finish_awaiting_operand hoperand, finish_given hadmits]
      rfl
  | joined spelling flag value =>
    obtain ⟨hmem, hspelled, hadmits⟩ := h
    apply finish_cons_of_step
    rw [step_of_not_awaiting rfl hfree, takeToken_of_spelled hmem hspelled]
    exact keep_of_admits hadmits _

theorem finish_operands {operands : List String} (h : ∀ argument ∈ operands, IsOperand argument)
    (found : Scan) (rest : List String) :
    (settled found).finish flags (operands ++ rest) =
      (settled (found ++ Scan.ofExtra operands)).finish flags rest := by
  induction operands generalizing found with
  | nil =>
    rw [Scan.append_ofExtra, List.append_nil]
    rfl
  | cons argument operands ih =>
    obtain ⟨hargument, hoperands⟩ := List.forall_mem_cons.mp h
    have hitem : (Item.operand argument).Written flags := hargument
    have hfirst := finish_item hitem found (operands ++ rest)
    rw [List.cons_append]
    refine hfirst.trans ?_
    rw [ih hoperands, Scan.append_assoc]
    rfl

/-- A line that is written as it should be is scanned to its end. -/
theorem finish_line {line : Line} (h : line.Written flags) (found : Scan) :
    (settled found).finish flags line.arguments = .ok (found ++ line.scan) := by
  obtain ⟨items, rest?⟩ := line
  induction items generalizing found with
  | nil =>
    rw [Line.scan_nil]
    cases rest? with
    | none =>
      rw [Scan.append_ofExtra, Option.getD_none, List.append_nil]
      rfl
    | some rest => exact finish_ended found rest
  | cons item items ih =>
    have hitem : item.Written flags := h item List.mem_cons_self
    have hitems : Line.Written flags ⟨items, rest?⟩ := fun i hi => h i (List.mem_cons_of_mem _ hi)
    have harguments : Line.arguments ⟨item :: items, rest?⟩ =
        item.arguments ++ Line.arguments ⟨items, rest?⟩ := by
      simp [Line.arguments]
    rw [harguments, finish_item hitem, ih _ hitems, Line.scan_cons, Scan.append_assoc]

/-- Where a value is expected and the scan ends well, the next argument is a value that the flag
    admits. -/
theorem exists_value_of_finish_awaiting {found scan : Scan} {flag : Flag} {arguments : List String}
    (h : finish flags ⟨found, .awaiting flag, false⟩ arguments = .ok scan) :
    ∃ value rest, arguments = value :: rest ∧ (flag.takesAnything ∨ IsOperand value) ∧
      flag.Admits value ∧
      (settled (found ++ Scan.ofFlag flag value)).finish flags rest = .ok scan := by
  have judged {value : String} {rest : List String}
      (hgiven : finish flags ⟨found, .given flag value, false⟩ rest = .ok scan) :
      flag.Admits value ∧
        (settled (found ++ Scan.ofFlag flag value)).finish flags rest = .ok scan := by
    obtain ⟨next, hkeep⟩ := settle_of_finish hgiven (Or.inr (by simp))
    have hadmits : flag.Admits value := admits_of_keep hkeep
    exact ⟨hadmits, finish_given hadmits rest ▸ hgiven⟩
  cases arguments with
  | nil => cases h
  | cons value rest =>
    by_cases hany : flag.takesAnything
    · rw [finish_awaiting_anything hany] at h
      exact ⟨value, rest, rfl, Or.inl hany, judged h⟩
    · by_cases hoperand : IsOperand value
      · rw [finish_awaiting_operand hoperand] at h
        exact ⟨value, rest, rfl, Or.inr hoperand, judged h⟩
      · rw [finish_cons] at h
        obtain ⟨next, hstep, hrest⟩ := bind_eq_ok_iff.mp h
        have htoken : takeToken flags ⟨found, .awaiting flag, false⟩ value = .ok next := by
          simpa [step, hany] using hstep
        obtain ⟨_, rfl⟩ | ⟨_, _, value?, _, hflag⟩ | ⟨hvalue, _⟩ := takeToken_eq_ok htoken
        · obtain ⟨_, hsettle⟩ := settle_of_finish hrest (Or.inl rfl)
          cases hsettle
        · cases hflag
        · exact absurd hvalue hoperand

/-- The first arguments of a scan that ends well are two hyphens, behind which everything is kept,
    or an item that is written as it should be. -/
theorem exists_item_of_finish {found scan : Scan} {argument : String} {rest : List String}
    (h : (settled found).finish flags (argument :: rest) = .ok scan) :
    (argument = "--" ∧ scan = found ++ Scan.ofExtra rest) ∨
      ∃ item : Item, ∃ others, item.Written flags ∧ argument :: rest = item.arguments ++ others ∧
        (settled (found ++ item.scan)).finish flags others = .ok scan := by
  rw [finish_cons] at h
  obtain ⟨next, hstep, hrest⟩ := bind_eq_ok_iff.mp h
  rw [step_of_not_awaiting rfl (by simp [settled])] at hstep
  obtain ⟨rfl, rfl⟩ | ⟨flag, hmem, value?, hspelled, hflag⟩ | ⟨hoperand, hnext⟩ :=
    takeToken_eq_ok hstep
  · have hended : finish flags ⟨found, .none, true⟩ rest = .ok (found ++ Scan.ofExtra rest) :=
      finish_ended found rest
    exact Or.inl ⟨rfl, (Except.ok.inj (hended.symm.trans hrest)).symm⟩
  · right
    cases value? with
    | none =>
      obtain rfl : Scanner.mk found (.awaiting flag) false = next := Except.ok.inj hflag
      obtain ⟨value, others, rfl, hvalue, hadmits, hothers⟩ := exists_value_of_finish_awaiting hrest
      exact ⟨.apart argument flag value, others, ⟨hmem, hspelled, hvalue, hadmits⟩, rfl, hothers⟩
    | some value =>
      have hadmits : flag.Admits value := admits_of_keep hflag
      have hkeep := (keep_of_admits hadmits (settled found)).symm.trans hflag
      obtain rfl : settled (found ++ Scan.ofFlag flag value) = next := Except.ok.inj hkeep
      exact ⟨.joined argument flag value, rest, ⟨hmem, hspelled, hadmits⟩, rfl, hrest⟩
  · right
    obtain ⟨_, hawaiting, _⟩ | ⟨_, hextra⟩ := hnext
    · cases hawaiting
    · have hkept : (settled found).takeExtra argument =
          .ok (settled (found ++ Scan.ofExtra [argument])) := by
        rw [Scan.append_ofExtra]
        rfl
      obtain rfl := Except.ok.inj (hkept.symm.trans hextra)
      exact ⟨.operand argument, rest, hoperand, rfl, hrest⟩

/-- Arguments whose scan ends well are those of a line that is written as it should be. -/
theorem exists_line_of_finish {found scan : Scan} (arguments : List String)
    (h : (settled found).finish flags arguments = .ok scan) :
    ∃ line : Line, line.Written flags ∧ line.arguments = arguments ∧ scan = found ++ line.scan := by
  cases arguments with
  | nil =>
    refine ⟨⟨[], none⟩, by simp [Line.Written], rfl, ?_⟩
    rw [Line.scan_nil, Scan.append_ofExtra, Option.getD_none, List.append_nil]
    exact (Except.ok.inj h).symm
  | cons argument rest =>
    obtain ⟨rfl, rfl⟩ | ⟨item, others, hitem, harguments, hothers⟩ := exists_item_of_finish h
    · exact ⟨⟨[], some rest⟩, by simp [Line.Written], rfl, rfl⟩
    · have hshorter : others.length < (argument :: rest).length := by
        rw [harguments, List.length_append]
        cases item <;> simp [Item.arguments]
      obtain ⟨⟨items, rest?⟩, hwritten, rfl, rfl⟩ := exists_line_of_finish others hothers
      refine ⟨⟨item :: items, rest?⟩, ?_, ?_, ?_⟩
      · simpa [Line.Written, hitem] using hwritten
      · rw [harguments]
        simp [Line.arguments]
      · rw [Line.scan_cons, Scan.append_assoc]
termination_by arguments.length

end Scanner

/-- What a scan finds in the arguments of a line is what the line says. -/
theorem Scan.ofArguments_line {flags : List Flag} {line : Line} (h : line.Written flags) :
    Scan.ofArguments flags line.arguments = .ok line.scan := by
  rw [Scanner.ofArguments_eq_finish, Scanner.finish_line h]
  rfl

/-- The output mode that a value names. -/
theorem OutputMode.equalIgnoringCase_word {value : String} (h : Flag.output.Admits value) :
    Text.equalIgnoringCase value (ofValue (some value)).word := by
  rw [ofValue]
  split
  next hid => exact hid
  next hid => exact (h rfl).resolve_right hid

/-- Every value in a line is one that its flag admits. -/
theorem Line.admits_of_mem_values {flags : List Flag} {line : Line} (h : line.Written flags)
    {flag : Flag} {value : String} (hvalue : value ∈ line.values flag) : flag.Admits value := by
  obtain ⟨item, hmem, hof⟩ := List.mem_filterMap.mp hvalue
  have hitem := h item hmem
  cases item with
  | operand argument => cases hof
  | apart spelling given other =>
    obtain ⟨rfl, hsome⟩ := Option.ite_none_right_eq_some.mp hof
    cases hsome
    exact hitem.2.2.2
  | joined spelling given other =>
    obtain ⟨rfl, hsome⟩ := Option.ite_none_right_eq_some.mp hof
    cases hsome
    exact hitem.2.2

/-- A scan ends well exactly for the arguments of the grammar, for each subcommand. It then holds
    each flag with its values in order, of which the last one counts, and the arguments that belong
    to no flag in order, those behind two hyphens included. The output mode is the one that its last
    value names, and JSON where there is none. -/
theorem Scan.ofArguments_eq_ok_iff (command : Subcommand) (arguments : List String) (scan : Scan) :
    Scan.ofArguments command.flags arguments = .ok scan ↔
      ∃ line : Line, line.Written command.flags ∧ line.arguments = arguments ∧
        scan.occurrences = line.occurrences ∧ scan.extra = line.operands ∧
        (∀ flag, scan.all flag = line.values flag ∧
          scan.last? flag = (line.values flag).getLast?) ∧
        (line.values .output = [] → scan.outputMode = .json) ∧
        ∀ value, (line.values .output).getLast? = some value →
          Text.equalIgnoringCase value scan.outputMode.word := by
  rw [Scanner.ofArguments_eq_finish]
  constructor
  · intro h
    obtain ⟨line, hwritten, harguments, hscan⟩ := Scanner.exists_line_of_finish arguments h
    obtain rfl : scan = line.scan := hscan
    have hlast (flag : Flag) : line.scan.last? flag = (line.values flag).getLast? :=
      congrArg List.getLast? (line.all_scan flag)
    refine ⟨line, hwritten, harguments, rfl, rfl, fun flag => ⟨line.all_scan flag, hlast flag⟩,
      fun hnone => ?_, fun value hvalue => ?_⟩
    · rw [outputMode, hlast, hnone]
      rfl
    · rw [outputMode, hlast, hvalue]
      have hmem := List.mem_of_getLast? hvalue
      exact OutputMode.equalIgnoringCase_word (Line.admits_of_mem_values hwritten hmem)
  · rintro ⟨line, hwritten, rfl, hoccurrences, hextra, _⟩
    rw [Scanner.finish_line hwritten]
    exact congrArg Except.ok (Scan.ext hoccurrences.symm hextra.symm)

-- a document flag takes a value that looks like a flag
example : Scan.ofArguments (Subcommand.flags .add) ["-j", "-e", "--JSONFile", "--", "-e=x", "--", "-o"] =
    .ok ⟨[⟨.document, "-e"⟩, ⟨.documentFile, "--"⟩, ⟨.environment, "x"⟩], ["-o"]⟩ := rfl

-- the flags of one subcommand are unknown to another
example : Scan.ofArguments (Subcommand.flags .show) ["-oid", "-e", "x"] = .error (.unknown "-e") := rfl

example : Scan.ofArguments (Subcommand.flags .delete) ["x", "-o", "ID"] = .error (.unknown "-o") := rfl

-- an empty output mode is a missing one
example : Scan.ofArguments (Subcommand.flags .show) ["--output="] =
    .error (.misuse (.missingValue .output)) := rfl

example : Scan.ofArguments (Subcommand.flags .show) ["-o", "xml"] =
    .error (.misuse (.notAChoice .output "xml")) := rfl

-- the last output mode counts, in any case
example : (Scan.ofArguments (Subcommand.flags .show) ["-o=json", "--output", "iD"]).map
    Scan.outputMode = .ok .id := rfl

end Discovery
