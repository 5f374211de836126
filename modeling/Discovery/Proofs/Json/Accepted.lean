import Discovery.Json.Reader
import Discovery.Proofs.Except
import Discovery.Proofs.Json.Shape

namespace Discovery.Json

/-- A document is in order and may stand inside `n` arrays and objects. -/
def Fits (n : Nat) (d : Json) : Prop :=
  d.Ordered ∧ n + d.depth ≤ nestingLimit

/-- What an array or object with `n` more around it holds fits there. -/
def Frame.Sound (n : Nat) : Frame → Prop
  | .array items => ∀ item ∈ items, Fits (n + 1) item
  | .object members _ => SortedEntries members ∧ ∀ member ∈ members, Fits (n + 1) member.2

/-- Not too many arrays and objects are open, and what they hold fits. -/
def Frame.AllSound : List Frame → Prop
  | [] => True
  | frame :: frames => frames.length < nestingLimit ∧ frame.Sound frames.length ∧ AllSound frames

/-- A complete document fits, and so does the meaning of a word, wherever it will be delivered. -/
def Expectation.Sound : Expectation → Prop
  | .nothing d => Fits 0 d
  | .word _ _ meaning => ∀ n ≤ nestingLimit, Fits n meaning
  | _ => True

/-- Whatever the machine holds fits where it is held. -/
structure State.Sound (s : State) : Prop where
  expects : s.expects.Sound
  frames : Frame.AllSound s.frames

namespace Frame

variable {frames : List Frame}

theorem AllSound.length_le (h : AllSound frames) : frames.length ≤ nestingLimit := by
  cases frames with
  | nil => exact Nat.zero_le _
  | cons frame frames => exact h.1

end Frame

theorem fits_of_depth_eq_zero {d : Json} (hordered : d.Ordered) (hdepth : d.depth = 0) {n : Nat}
    (hn : n ≤ nestingLimit) : Fits n d :=
  ⟨hordered, by omega⟩

theorem fits_array {items : List Json} {n : Nat} (hn : n < nestingLimit)
    (hitems : ∀ item ∈ items, Fits (n + 1) item) : Fits n (.array items) := by
  have hdepth : depthOfItems items ≤ nestingLimit - (n + 1) := by
    apply depthOfItems_le_iff.mpr
    intro item hmem
    have hitem := (hitems item hmem).2
    omega
  refine ⟨.array fun item hmem => (hitems item hmem).1, ?_⟩
  rw [depth]
  omega

theorem fits_object {members : List (String × Json)} {n : Nat} (hn : n < nestingLimit)
    (hsorted : SortedEntries members) (hmembers : ∀ member ∈ members, Fits (n + 1) member.2) :
    Fits n (.object members) := by
  have hdepth : depthOfMembers members ≤ nestingLimit - (n + 1) := by
    apply depthOfMembers_le_iff.mpr
    intro member hmem
    have hmember := (hmembers member hmem).2
    omega
  refine ⟨.object hsorted fun member hmem => (hmembers member hmem).1, ?_⟩
  rw [depth]
  omega

variable {frames : List Frame} {c : Char} {t : State}

theorem sound_deliver {v : Json} (hv : Fits frames.length v) (hframes : Frame.AllSound frames) :
    (deliver v frames).Sound := by
  cases frames with
  | nil => exact ⟨hv, trivial⟩
  | cons frame frames =>
    obtain ⟨hroom, hframe, hframes⟩ := hframes
    cases frame with
    | array items =>
      refine ⟨trivial, hroom, ?_, hframes⟩
      exact List.forall_mem_cons.mpr ⟨hv, hframe⟩
    | object members key =>
      refine ⟨trivial, hroom, ⟨hframe.1.insertEntry key v, ?_⟩, hframes⟩
      intro member hmem
      obtain rfl | hmem := mem_of_mem_insertEntry hmem
      · exact hv
      · exact hframe.2 member hmem

theorem sound_closeArray (h : Frame.AllSound frames) : (closeArray frames).Sound := by
  unfold closeArray
  split
  next items frames =>
    obtain ⟨hroom, hframe, hframes⟩ := h
    refine sound_deliver (fits_array hroom ?_) hframes
    intro item hmem
    exact hframe item (List.mem_reverse.mp hmem)
  next => exact ⟨trivial, h⟩

theorem sound_closeObject (h : Frame.AllSound frames) : (closeObject frames).Sound := by
  unfold closeObject
  split
  next members key frames =>
    obtain ⟨hroom, ⟨hsorted, hmembers⟩, hframes⟩ := h
    exact sound_deliver (fits_object hroom hsorted hmembers) hframes
  next => exact ⟨trivial, h⟩

theorem sound_of_openFrame {frame : Frame} {e : Expectation} (hframe : ∀ n, frame.Sound n)
    (he : e.Sound) (hframes : Frame.AllSound frames) (h : openFrame frame e frames = .ok t) :
    t.Sound := by
  unfold openFrame at h
  split at h
  next hroom =>
    cases h
    exact ⟨he, hroom, hframe _, hframes⟩
  next => cases h

theorem sound_of_beginValue (hframes : Frame.AllSound frames) (h : beginValue c frames = .ok t) :
    t.Sound := by
  unfold beginValue at h
  split at h
  next =>
    cases h
    exact ⟨fun n hn => fits_of_depth_eq_zero .null rfl hn, hframes⟩
  next =>
    cases h
    exact ⟨fun n hn => fits_of_depth_eq_zero (.bool true) rfl hn, hframes⟩
  next =>
    cases h
    exact ⟨fun n hn => fits_of_depth_eq_zero (.bool false) rfl hn, hframes⟩
  next =>
    cases h
    exact ⟨trivial, hframes⟩
  next =>
    have hframe (n : Nat) : (Frame.array []).Sound n := fun _ hmem => absurd hmem List.not_mem_nil
    exact sound_of_openFrame hframe (by trivial) hframes h
  next =>
    have hframe (n : Nat) : (Frame.object [] "").Sound n :=
      ⟨List.Pairwise.nil, fun _ hmem => absurd hmem List.not_mem_nil⟩
    exact sound_of_openFrame hframe (by trivial) hframes h
  next =>
    split at h
    next =>
      cases h
      exact ⟨trivial, hframes⟩
    next => cases h

theorem sound_endString (isKey : Bool) (chars : List Char) (h : Frame.AllSound frames) :
    (endString isKey chars frames).Sound := by
  unfold endString
  split
  next =>
    split
    next => exact ⟨trivial, h⟩
    next => exact ⟨trivial, h⟩
  next => exact sound_deliver (fits_of_depth_eq_zero (.string _) rfl h.length_le) h

/-- In a string nothing changes but the string, until it ends. -/
theorem stepString_eq_ok {isKey : Bool} {chars : List Char} {escape : Escape}
    (h : stepString isKey chars escape frames c = .ok t) :
    t = endString isKey chars frames ∨
      ∃ chars' escape', t = ⟨.string isKey chars' escape', frames⟩ := by
  cases escape with
  | none =>
    simp only [stepString] at h
    split at h
    · exact Or.inl (Except.ok.inj h).symm
    · grind
  | start | half | halfStart =>
    simp only [stepString] at h
    grind
  | digits | halfDigits =>
    obtain ⟨outcome, _, h⟩ := bind_eq_ok_iff.mp h
    grind

theorem sound_of_stepString {isKey : Bool} {chars : List Char} {escape : Escape}
    (hframes : Frame.AllSound frames) (h : stepString isKey chars escape frames c = .ok t) :
    t.Sound := by
  obtain rfl | ⟨_, _, rfl⟩ := stepString_eq_ok h
  · exact sound_endString isKey chars hframes
  · exact ⟨trivial, hframes⟩

theorem sound_of_stepOutside {s : State} (hs : s.Sound) (h : stepOutside s c = .ok t) :
    t.Sound := by
  obtain ⟨e, frames⟩ := s
  obtain ⟨he, hframes⟩ := hs
  have hexpects {e : Expectation} (he : e.Sound) : State.Sound ⟨e, frames⟩ := ⟨he, hframes⟩
  have hvalue (h : beginValue c frames = .ok t) : t.Sound := sound_of_beginValue hframes h
  have harray : (closeArray frames).Sound := sound_closeArray hframes
  have hobject : (closeObject frames).Sound := sound_closeObject hframes
  cases e with
  | word next rest meaning =>
    have hmeaning : (deliver meaning frames).Sound :=
      sound_deliver (he _ hframes.length_le) hframes
    have hword (next : Char) (rest : List Char) : State.Sound ⟨.word next rest meaning, frames⟩ :=
      ⟨he, hframes⟩
    simp only [stepOutside] at h
    grind
  | string => exact sound_of_stepString hframes h
  | firstItem | afterItem | firstKey | nextKey | afterMember | colon =>
    simp only [stepOutside] at h
    grind [Expectation.Sound]
  | nextItem | numeral | value | nothing =>
    simp only [stepOutside] at h
    grind

/-- Whatever the machine holds still fits after one more character. -/
theorem sound_of_step {s : State} (hs : s.Sound) (h : s.step c = .ok t) : t.Sound := by
  unfold State.step at h
  split at h
  next n _ =>
    obtain ⟨next?, _, h⟩ := bind_eq_ok_iff.mp h
    split at h
    next =>
      cases h
      exact ⟨trivial, hs.frames⟩
    next =>
      split at h
      next x _ =>
        have hnumber : Fits s.frames.length (.number x) :=
          fits_of_depth_eq_zero (.number x) rfl hs.frames.length_le
        exact sound_of_stepOutside (sound_deliver hnumber hs.frames) h
      next => cases h
  next => exact sound_of_stepOutside hs h

/-- And after any text. -/
theorem sound_of_run {s : State} {text : List Char} (hs : s.Sound) (h : s.run text = .ok t) :
    t.Sound := by
  induction text generalizing s with
  | nil =>
    obtain rfl := Except.ok.inj h
    exact hs
  | cons c rest ih =>
    rw [State.run] at h
    split at h
    next next hstep => exact ih (sound_of_step hs hstep) h
    next => cases h

theorem fits_of_finish {s : State} {d : Json} (hs : s.Sound) (h : s.finish = .ok d) : Fits 0 d := by
  unfold State.finish at h
  split at h
  next heq =>
    cases h
    have hexpects := hs.expects
    rwa [heq] at hexpects
  next n heq =>
    obtain ⟨x, _, h⟩ := bind_eq_ok_iff.mp h
    have hnumber : Fits s.frames.length (.number x) :=
      fits_of_depth_eq_zero (.number x) rfl hs.frames.length_le
    have hexpects := (sound_deliver hnumber hs.frames).expects
    split at h
    next hdone =>
      cases h
      rwa [hdone] at hexpects
    next => cases h
    next => cases h
  all_goals cases h

/-- A document that was read has the members of its objects in order and nests no deeper than the
    reader allows. -/
theorem ordered_of_read {text : List Char} {d : Json} (h : read text = .ok d) :
    d.Ordered ∧ d.depth ≤ nestingLimit := by
  have hstart : State.start.Sound := ⟨trivial, trivial⟩
  unfold read at h
  split at h
  next => cases h
  next s hrun =>
    split at h
    next hfinish =>
      cases h
      obtain ⟨hordered, hdepth⟩ := fits_of_finish (sound_of_run hstart hrun) hfinish
      exact ⟨hordered, by omega⟩
    next => cases h

end Discovery.Json
