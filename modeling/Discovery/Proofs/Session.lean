import Mathlib.Data.List.Basic
import Discovery.Proofs.Target.Resolution
import Discovery.Session

namespace Discovery.Session

variable {s : Session}

/-- The session after several steps. -/
def after (s : Session) (steps : List Step) : Session :=
  steps.foldl (fun s step => (s.step step).2) s

/-- The arguments that a step puts in the queue. -/
def Step.pushed : Step → List String
  | .push arguments => arguments
  | _ => []

/-- What a take removes: all at the front of the queue that is not there any more afterwards. -/
def removed (s : Session) : Step → List String
  | .take => s.queue.take (s.queue.length - (s.step .take).2.queue.length)
  | _ => []

/-- What the takes among several steps remove, in order. -/
def removedIn (s : Session) : List Step → List String
  | [] => []
  | step :: steps => s.removed step ++ (s.step step).2.removedIn steps

@[simp] theorem after_nil : s.after [] = s := rfl

@[simp] theorem after_cons (step : Step) (steps : List Step) :
    s.after (step :: steps) = (s.step step).2.after steps := rfl

/-- A run tells of each step what it does to the session after the steps before it. -/
theorem getElem?_run (before later : List Step) (step : Step) :
    (s.run (before ++ step :: later))[before.length]? = some ((s.after before).step step) := by
  induction before generalizing s with
  | nil => rfl
  | cons first before ih =>
    rw [List.cons_append, run, List.length_cons, List.getElem?_cons_succ, ih, after_cons]

/-- Whether a take finds nothing to remove: there is no argument, or the first one looks like a
    flag. -/
def Stuck (s : Session) : Prop :=
  ∀ first ∈ s.queue.head?, Token.beginsWithHyphen first = true

theorem Stuck.step_take (h : s.Stuck) :
    s.step .take = (.hosts (s.aliases.resolve defaultTarget), s) := by
  obtain ⟨aliases, queue⟩ := s
  cases queue with
  | nil => rfl
  | cons first rest => simp [step, takeTarget, h first rfl]

theorem step_take_of_argument {first : String} {rest : List String}
    (hqueue : s.queue = first :: rest) (hfirst : Token.beginsWithHyphen first = false) :
    s.step .take = (.hosts (s.aliases.resolve first), { s with queue := rest }) := by
  simp [step, hqueue, takeTarget, hfirst]

theorem Stuck.removed_take (h : s.Stuck) : s.removed .take = [] := by
  simp [removed, h.step_take]

theorem removed_take_of_argument {first : String} {rest : List String}
    (hqueue : s.queue = first :: rest) (hfirst : Token.beginsWithHyphen first = false) :
    s.removed .take = [first] := by
  simp [removed, step_take_of_argument hqueue hfirst, hqueue]

theorem stuck_or_exists_argument (s : Session) :
    s.Stuck ∨ ∃ first rest, s.queue = first :: rest ∧ Token.beginsWithHyphen first = false := by
  cases hqueue : s.queue with
  | nil => exact Or.inl (by simp [Stuck, hqueue])
  | cons first rest =>
    cases hfirst : Token.beginsWithHyphen first with
    | true => exact Or.inl (by simp [Stuck, hqueue, hfirst])
    | false => exact Or.inr ⟨first, rest, rfl, hfirst⟩

theorem queue_step {step : Step} (htake : step ≠ .take) :
    (s.step step).2.queue = s.queue ++ step.pushed := by
  cases step with
  | take => exact absurd rfl htake
  | push arguments => rfl
  | load | insert | get | same | resolve | interpret => exact (List.append_nil _).symm

theorem aliases_step {step : Step} (hload : ∀ aliases, step ≠ .load aliases)
    (hinsert : ∀ name hosts, step ≠ .insert name hosts) :
    (s.step step).2.aliases = s.aliases := by
  cases step with
  | load aliases => exact absurd rfl (hload aliases)
  | insert name hosts => exact absurd rfl (hinsert name hosts)
  | take | push | get | same | resolve | interpret => rfl

theorem removed_of_ne_take {step : Step} (htake : step ≠ .take) : s.removed step = [] := by
  cases step with
  | take => exact absurd rfl htake
  | load | insert | get | same | resolve | push | interpret => rfl

/-- A step removes from the front of the queue what it takes and puts at its end what it pushes. -/
theorem removed_append_queue (step : Step) :
    s.removed step ++ (s.step step).2.queue = s.queue ++ step.pushed := by
  by_cases htake : step = .take
  · subst htake
    obtain hstuck | ⟨first, rest, hqueue, hfirst⟩ := s.stuck_or_exists_argument
    · rw [hstuck.removed_take, hstuck.step_take]
      exact (List.append_nil _).symm
    · rw [removed_take_of_argument hqueue hfirst, step_take_of_argument hqueue hfirst, hqueue]
      exact (List.append_nil _).symm
  · rw [removed_of_ne_take htake, queue_step htake, List.nil_append]

/-- What the takes of a run remove and what is in the queue in the end is what was there and what
    was pushed, in the same order. -/
theorem removedIn_append_queue (steps : List Step) :
    s.removedIn steps ++ (s.after steps).queue = s.queue ++ steps.flatMap Step.pushed := by
  induction steps generalizing s with
  | nil => simp [removedIn]
  | cons step steps ih =>
    rw [removedIn, after_cons, List.append_assoc, ih, ← List.append_assoc, removed_append_queue,
      List.append_assoc, List.flatMap_cons]

/-- Steps that insert pairs one after another fill the aliases with them. -/
theorem aliases_after_insert (pairs : List (String × String)) :
    (s.after (pairs.map fun pair => .insert pair.1 pair.2)).aliases =
      pairs.foldl (fun aliases pair => aliases.insert pair.1 pair.2) s.aliases := by
  induction pairs generalizing s with
  | nil => rfl
  | cons pair pairs ih => exact ih

/-- An argument that looks like a flag is at the front of the queue. -/
def Blocked (s : Session) : Prop :=
  ∃ flag ∈ s.queue.head?, Token.beginsWithHyphen flag = true

theorem Blocked.stuck (h : s.Blocked) : s.Stuck := by
  obtain ⟨flag, hflag, hhyphen⟩ := h
  intro first hfirst
  obtain rfl : flag = first := Option.some.inj (hflag.symm.trans hfirst)
  exact hhyphen

theorem Blocked.step (h : s.Blocked) (step : Step) : (s.step step).2.Blocked := by
  by_cases htake : step = .take
  · rw [htake, h.stuck.step_take]
    exact h
  · obtain ⟨flag, hflag, hhyphen⟩ := h
    refine ⟨flag, ?_, hhyphen⟩
    rw [queue_step htake, List.head?_append, Option.mem_def.mp hflag]
    rfl

theorem Blocked.removed (h : s.Blocked) (step : Step) : s.removed step = [] := by
  by_cases htake : step = .take
  · rw [htake, h.stuck.removed_take]
  · exact removed_of_ne_take htake

/-- Whatever is done after a flag has come to the front, nothing is taken and the flag stays. -/
theorem Blocked.run (h : s.Blocked) (steps : List Step) :
    s.removedIn steps = [] ∧ (s.after steps).Blocked := by
  induction steps generalizing s with
  | nil => exact ⟨rfl, h⟩
  | cons step steps ih =>
    rw [removedIn, h.removed step, List.nil_append]
    exact ih (h.step step)

/-- Taking targets neither loses nor repeats an argument. In a run from the start, what the takes
    remove and what is left in the queue are the arguments that were pushed, in their order. A take
    removes the first argument, also when it has no hosts, unless there is none or it looks like a
    flag; then it resolves the default target and nothing changes, and behind such a flag this stays
    so for all steps to come. No other step takes from the queue, and only two change the
    aliases. -/
theorem arguments_kept_in_run :
    (∀ steps, start.removedIn steps ++ (start.after steps).queue = steps.flatMap Step.pushed) ∧
    ∀ before, let s := start.after before
      (∀ step later, (start.run (before ++ step :: later))[before.length]? = some (s.step step)) ∧
      (∀ first rest, s.queue = first :: rest → Token.beginsWithHyphen first = false →
        s.step .take = (.hosts (s.aliases.resolve first), { s with queue := rest }) ∧
          s.removed .take = [first]) ∧
      (s.queue = [] ∨ s.Blocked →
        s.step .take = (.hosts (s.aliases.resolve defaultTarget), s) ∧ s.removed .take = []) ∧
      (s.Blocked → ∀ later, let t := s.after later
        s.removedIn later = [] ∧ t.Blocked ∧
          t.step .take = (.hosts (t.aliases.resolve defaultTarget), t)) ∧
      (∀ step, step ≠ .take → (∀ arguments, step ≠ .push arguments) →
        (s.step step).2.queue = s.queue) ∧
      ∀ step, (∀ aliases, step ≠ .load aliases) → (∀ name hosts, step ≠ .insert name hosts) →
        (s.step step).2.aliases = s.aliases := by
  refine ⟨removedIn_append_queue, fun before => ?_⟩
  intro s
  refine ⟨fun step later => getElem?_run before later step, fun first rest hqueue hfirst =>
    ⟨step_take_of_argument hqueue hfirst, removed_take_of_argument hqueue hfirst⟩,
    fun hnothing => ?_, fun hblocked later => ?_, fun step htake hpush => ?_,
    fun step => aliases_step⟩
  · have hstuck : s.Stuck := by
      obtain hempty | hblocked := hnothing
      · simp [Stuck, hempty]
      · exact hblocked.stuck
    exact ⟨hstuck.step_take, hstuck.removed_take⟩
  · obtain ⟨hremoved, hlater⟩ := hblocked.run later
    exact ⟨hremoved, hlater, hlater.stuck.step_take⟩
  · have hpushed : step.pushed = [] := by
      cases step with
      | push arguments => exact absurd rfl (hpush arguments)
      | take | load | insert | get | same | resolve | interpret => rfl
    rw [queue_step htake, hpushed, List.append_nil]

/-- A target without hosts is removed all the same, and then a flag is in front of the arguments
    that are pushed behind it. -/
theorem arguments_kept_behind_flag :
    let failing : List Step := [.insert "none" ",", .push ["none", "-h"]]
    let blocked := failing ++ [.take]
    let s := start.after failing
    let t := start.after blocked
    s.step .take = (.hosts (.error (.noHosts "none")), ⟨s.aliases, ["-h"]⟩) ∧
      s.removed .take = ["none"] ∧ t.Blocked ∧
      (∀ later, t.removedIn later = [] ∧ ((t.after later).step .take).1 =
        .hosts ((t.after later).aliases.resolve "localhost")) ∧
      (t.step (.get "none")).2.queue = ["-h"] ∧ (t.step .take).2.aliases = s.aliases := by
  intro failing blocked s t
  obtain ⟨hargument, _⟩ := (arguments_kept_in_run.2 failing).2
  obtain ⟨_, _, hflag, hqueue, haliases⟩ := (arguments_kept_in_run.2 blocked).2
  obtain ⟨htake, hremoved⟩ := hargument "none" ["-h"] rfl (by decide)
  have hnone : s.aliases.resolve "none" = .error (.noHosts "none") :=
    Aliases.resolve_of_hostEntries_eq_nil (by decide)
  have hblocked : t.Blocked := ⟨"-h", rfl, by decide⟩
  rw [hnone] at htake
  refine ⟨htake, hremoved, hblocked, fun later => ?_,
    hqueue (.get "none") (by simp) (by simp), ?_⟩
  · obtain ⟨hlost, _, hlater⟩ := hflag hblocked later
    exact ⟨hlost, congrArg Prod.fst hlater⟩
  · exact haliases .take (by simp) (by simp)

end Discovery.Session
