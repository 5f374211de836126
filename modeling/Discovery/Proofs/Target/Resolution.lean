import Discovery.Target.Resolution

namespace Discovery

/-- A target in front of arguments that do not begin with one is taken; without it the arguments
    stay as they are. -/
theorem takeTarget_toList_append {target? : Option String} {rest : List String}
    (htarget : ∀ target ∈ target?, Token.beginsWithHyphen target = false)
    (hrest : ∀ first ∈ rest.head?, Token.beginsWithHyphen first = true) :
    takeTarget (target?.toList ++ rest) = (target?.getD defaultTarget, rest) := by
  cases target? with
  | some target => simp [takeTarget, htarget target rfl]
  | none =>
    cases rest with
    | nil => rfl
    | cons first rest => simp [takeTarget, hrest first rfl]

/-- Whatever `takeTarget` takes is the first argument or nothing, and nothing else is lost. -/
theorem exists_target_of_takeTarget (arguments : List String) :
    ∃ target? : Option String, (∀ target ∈ target?, Token.beginsWithHyphen target = false) ∧
      arguments = target?.toList ++ (takeTarget arguments).2 ∧
      (takeTarget arguments).1 = target?.getD defaultTarget := by
  cases arguments with
  | nil => exact ⟨none, by simp, rfl, rfl⟩
  | cons first rest =>
    by_cases hhyphen : Token.beginsWithHyphen first = true
    · exact ⟨none, by simp, by simp [takeTarget, hhyphen], by simp [takeTarget, hhyphen]⟩
    · exact ⟨some first, by simpa using hhyphen, by simp [takeTarget, hhyphen],
        by simp [takeTarget, hhyphen]⟩

namespace Aliases

variable {aliases : Aliases} {target : String}

theorem resolve_eq_ok_iff {hosts : Hosts} :
    aliases.resolve target = .ok hosts ↔ Hosts.ofText? (aliases.hostText target) = some hosts := by
  unfold resolve
  split
  next found hfound => simp [hfound]
  next hnone => simp [hnone]

theorem resolve_of_hostEntries_eq_nil (h : hostEntries (aliases.hostText target) = []) :
    aliases.resolve target = .error (.noHosts target) := by
  rw [resolve, Hosts.ofText?, dif_pos h]

/-- Only a target without hosts cannot be resolved. -/
theorem eq_noHosts_of_resolve {failure : Failure} (h : aliases.resolve target = .error failure) :
    failure = .noHosts target := by
  unfold resolve at h
  split at h
  next => cases h
  next => exact (Except.error.inj h).symm

end Aliases

end Discovery
