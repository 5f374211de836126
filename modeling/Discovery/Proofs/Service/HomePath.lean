import Discovery.Service.Source

namespace Discovery

/-- A path leads to a directory or below it: its text begins with that of the directory, which ends
    where a part of the path ends. -/
def LiesBelow (path directory : String) : Prop :=
  ∃ rest, path = directory ++ rest ∧
    (rest = "" ∨ rest.toList.head? = some '/' ∨ directory.toList.getLast? = some '/')

/-- A path in which slashes in a row count as one. -/
def squeezeSlashes : List Char → List Char
  | [] => []
  | c :: rest =>
    if c = '/' ∧ rest.head? = some '/' then squeezeSlashes rest else c :: squeezeSlashes rest

/-- Whether paths differ in nothing but repeated slashes. -/
def SameBesideSlashes (path other : String) : Prop :=
  squeezeSlashes path.toList = squeezeSlashes other.toList

/-- A path is what another one means when it is taken relative to a directory. -/
structure IsTakenFrom (directory rest path : String) : Prop where
  liesBelow : LiesBelow path directory
  eq_of_empty : rest = "" → path = directory
  same_of_ne : rest ≠ "" → SameBesideSlashes path (directory ++ "/" ++ rest)

theorem squeezeSlashes_append (front back : List Char) :
    squeezeSlashes (front ++ '/' :: '/' :: back) = squeezeSlashes (front ++ '/' :: back) := by
  induction front with
  | nil => simp [squeezeSlashes]
  | cons c front ih =>
    -- the second slash is never the next character, so it does not decide about this one
    have hhead : (front ++ '/' :: '/' :: back).head? = (front ++ '/' :: back).head? := by
      cases front <;> rfl
    rw [List.cons_append, List.cons_append, squeezeSlashes, squeezeSlashes, hhead, ih]

/-- Slashes in front of one more slash are squeezed away. -/
theorem squeezeSlashes_of_slashes {front : List Char} (h : ∀ c ∈ front, c = '/')
    (back : List Char) :
    squeezeSlashes (front ++ '/' :: back) = squeezeSlashes ('/' :: back) := by
  induction front with
  | nil => rfl
  | cons c front ih =>
    obtain ⟨rfl, hfront⟩ := List.forall_mem_cons.mp h
    have hhead : (front ++ '/' :: back).head? = some '/' := by
      cases front with
      | nil => rfl
      | cons c front => exact congrArg some (hfront c List.mem_cons_self)
    rw [List.cons_append, squeezeSlashes, if_pos ⟨rfl, hhead⟩, ih hfront]

/-- Nothing but slashes is squeezed away. -/
theorem filter_squeezeSlashes (chars : List Char) :
    (squeezeSlashes chars).filter (· ≠ '/') = chars.filter (· ≠ '/') := by
  induction chars with
  | nil => rfl
  | cons c rest ih =>
    rw [squeezeSlashes]
    split
    next hslash => rw [ih, hslash.1, List.filter_cons_of_neg (by simp)]
    next => simp only [List.filter_cons, ih]

variable {home path rest : String}

/-- A relative path stays below the directory that it is joined to. -/
theorem liesBelow_joinPath (h : rest.toList.head? ≠ some '/') :
    LiesBelow (joinPath home rest) home := by
  rw [joinPath, if_neg h]
  by_cases hlast : home.toList.getLast? = some '/'
  · rw [if_pos hlast]
    exact ⟨rest, rfl, Or.inr (Or.inr hlast)⟩
  · rw [if_neg hlast, String.append_assoc]
    exact ⟨"/" ++ rest, rfl, Or.inr (Or.inl (by simp))⟩

theorem sameBesideSlashes_joinPath (h : rest.toList.head? ≠ some '/') :
    SameBesideSlashes (joinPath home rest) (home ++ "/" ++ rest) := by
  rw [joinPath, if_neg h]
  by_cases hlast : home.toList.getLast? = some '/'
  · rw [if_pos hlast]
    obtain ⟨front, hhome⟩ := List.getLast?_eq_some_iff.mp hlast
    have hdouble : (home ++ "/" ++ rest).toList = front ++ '/' :: '/' :: rest.toList := by
      simp [hhome]
    have hsingle : (home ++ rest).toList = front ++ '/' :: rest.toList := by
      simp [hhome]
    rw [SameBesideSlashes, hdouble, hsingle, squeezeSlashes_append]
  · rw [if_neg hlast]
    rfl

theorem isTakenFrom_joinPath (hne : rest ≠ "") (h : rest.toList.head? ≠ some '/') :
    IsTakenFrom home rest (joinPath home rest) :=
  ⟨liesBelow_joinPath h, fun hempty => absurd hempty hne, fun _ => sameBesideSlashes_joinPath h⟩

/-- An absolute path stays the same in a directory only if that is made of slashes. -/
theorem sameBesideSlashes_self_iff (h : rest.toList.head? = some '/') :
    SameBesideSlashes rest (home ++ "/" ++ rest) ↔ ∀ c ∈ home.toList, c = '/' := by
  have hjoined : (home ++ "/" ++ rest).toList = home.toList ++ '/' :: rest.toList := by simp
  rw [SameBesideSlashes, hjoined]
  constructor
  · intro hsame
    -- the characters other than slashes are the same on both sides, so there are none in between
    have hothers : rest.toList.filter (· ≠ '/') =
        home.toList.filter (· ≠ '/') ++ rest.toList.filter (· ≠ '/') :=
      calc rest.toList.filter (· ≠ '/')
          = (home.toList ++ '/' :: rest.toList).filter (· ≠ '/') := by
            rw [← filter_squeezeSlashes, hsame, filter_squeezeSlashes]
        _ = home.toList.filter (· ≠ '/') ++ rest.toList.filter (· ≠ '/') := by
            rw [List.filter_append, List.filter_cons_of_neg (by simp)]
    simpa using List.self_eq_append_left.mp hothers
  · intro hslashes
    obtain ⟨chars, hchars⟩ := List.head?_eq_some_iff.mp h
    rw [squeezeSlashes_of_slashes hslashes, hchars]
    rfl

/-- An absolute path lies below a directory made of slashes if it begins with these. -/
theorem liesBelow_of_slashes (h : rest.toList.head? = some '/')
    (hslashes : ∀ c ∈ home.toList, c = '/') (hbegins : home.toList <+: rest.toList) :
    LiesBelow rest home := by
  obtain ⟨back, hback⟩ := hbegins
  refine ⟨String.ofList back, by simp [← String.toList_inj, hback], ?_⟩
  cases hlast : home.toList.getLast? with
  | none =>
    obtain rfl : home = "" := by simpa using hlast
    exact Or.inr (Or.inl (by simpa [← hback] using h))
  | some c => exact Or.inr (Or.inr (congrArg some (hslashes c (List.mem_of_getLast? hlast))))

theorem isTakenFrom_self_iff (h : rest.toList.head? = some '/') :
    IsTakenFrom home rest rest ↔ (∀ c ∈ home.toList, c = '/') ∧ home.toList <+: rest.toList := by
  have hne : rest ≠ "" := by
    rintro rfl
    cases h
  constructor
  · rintro ⟨⟨back, hback, _⟩, _, hsame⟩
    exact ⟨(sameBesideSlashes_self_iff h).mp (hsame hne), back.toList, by simp [hback]⟩
  · rintro ⟨hslashes, hbegins⟩
    exact ⟨liesBelow_of_slashes h hslashes hbegins, fun hempty => absurd hempty hne,
      fun _ => (sameBesideSlashes_self_iff h).mpr hslashes⟩

theorem expandHome_tilde_slash (home rest : String) :
    expandHome home ("~/" ++ rest) = if rest = "" then home else joinPath home rest := by
  have hchars : ("~/" ++ rest).toList = '~' :: '/' :: rest.toList := by simp
  rw [expandHome.eq_def, hchars]
  cases hrest : rest.toList with
  | nil =>
    obtain rfl : rest = "" := by simpa using hrest
    rfl
  | cons c chars =>
    have hne : rest ≠ "" := by
      rintro rfl
      cases hrest
    have hback : String.ofList (c :: chars) = rest := hrest ▸ String.ofList_toList
    rw [if_neg hne]
    exact congrArg (joinPath home) hback

theorem expandHome_of_not_tilde (htilde : path ≠ "~") (hslash : ¬ "~/".toList <+: path.toList)
    (home? : Option String) : expandHome home? path = path := by
  unfold expandHome
  split
  next hchars => exact absurd (String.toList_inj.mp hchars) htilde
  next hchars => exact absurd ⟨[], hchars.symm⟩ hslash
  next rest _ _ hchars => exact absurd ⟨rest, hchars.symm⟩ hslash
  next => rfl

theorem expandHome_none (path : String) : expandHome none path = path := by
  unfold expandHome
  split <;> first | rfl | contradiction

namespace Source

theorem ofFlags?_of_file (home? document? : Option String) (h : path ≠ "-") :
    ofFlags? home? document? (some path) = some (.file (expandHome home? path)) := by
  cases document? <;> simp [ofFlags?, standardInputMark, h]

/-- A file behind a tilde and a slash is the path that follows, taken from the home directory,
    exactly when that path is relative or the home directory makes no difference to it: an absolute
    path stands for itself. A tilde alone is the home directory, and all other paths are left as
    they are, as is every path of a user without a home directory. -/
theorem file_below_home (home : String) (document? : Option String) (rest : String) :
    (∃ path, ofFlags? home document? (some ("~/" ++ rest)) = some (.file path) ∧
      (IsTakenFrom home rest path ↔ (rest.toList.head? = some '/' →
        (∀ c ∈ home.toList, c = '/') ∧ home.toList <+: rest.toList)) ∧
      (rest.toList.head? = some '/' → path = rest)) ∧
    ofFlags? home document? (some "~") = some (.file home) ∧
    (∀ path, path ≠ "~" → ¬ "~/".toList <+: path.toList → path ≠ "-" →
      ofFlags? home document? (some path) = some (.file path)) ∧
    ∀ path, path ≠ "-" → ofFlags? none document? (some path) = some (.file path) := by
  have hmark : "~/" ++ rest ≠ "-" := by
    intro h
    simpa using congrArg String.toList h
  refine ⟨?_, ofFlags?_of_file home document? (by decide), fun path htilde hslash hhyphen => ?_,
    fun path hhyphen => ?_⟩
  · rw [ofFlags?_of_file home document? hmark, expandHome_tilde_slash]
    refine ⟨_, rfl, ?_⟩
    by_cases habsolute : rest.toList.head? = some '/'
    · have hjoin : (if rest = "" then home else joinPath home rest) = rest := by
        rw [if_neg (by rintro rfl; cases habsolute), joinPath, if_pos habsolute]
      rw [hjoin, isTakenFrom_self_iff habsolute]
      exact ⟨⟨fun h _ => h, fun h => h habsolute⟩, fun _ => rfl⟩
    · refine ⟨iff_of_true ?_ (absurd · habsolute), (absurd · habsolute)⟩
      by_cases hempty : rest = ""
      · rw [if_pos hempty]
        exact ⟨⟨"", by simp, Or.inl rfl⟩, fun _ => rfl, absurd hempty⟩
      · rw [if_neg hempty]
        exact isTakenFrom_joinPath hempty habsolute
  · rw [ofFlags?_of_file home document? hhyphen, expandHome_of_not_tilde htilde hslash]
  · rw [ofFlags?_of_file none document? hhyphen, expandHome_none]

/-- A relative path below a home directory that ends with a slash, an absolute one, a tilde in front
    of a name, and a user without a home directory. -/
theorem file_below_root :
    (∃ path, ofFlags? "/" none (some "~/a//b") = some (.file path) ∧
      IsTakenFrom "/" "a//b" path) ∧
    (∃ path, ofFlags? "home" (some "[]") (some "~//a") = some (.file path) ∧ path = "/a" ∧
      ¬ IsTakenFrom "home" "/a" path) ∧
    ofFlags? "home" none (some "~a/b") = some (.file "~a/b") ∧
    ofFlags? none none (some "~/a") = some (.file "~/a") := by
  obtain ⟨⟨relative, hrelative, hbelow, _⟩, _⟩ := file_below_home "/" none "a//b"
  obtain ⟨⟨absolute, habsolute, haway, hself⟩, _⟩ := file_below_home "home" (some "[]") "/a"
  obtain ⟨_, _, hother, hhomeless⟩ := file_below_home "home" none ""
  refine ⟨⟨relative, hrelative, hbelow.mpr fun hslash => absurd hslash (by decide)⟩,
    ⟨absolute, habsolute, hself rfl, fun hfrom => ?_⟩,
    hother "~a/b" (by decide) (by decide) (by decide), hhomeless "~/a" (by decide)⟩
  exact absurd ((haway.mp hfrom rfl).1 'h' (by decide)) (by decide)

/-- A second slash behind the tilde leads away from the home directory. -/
theorem absolute_file_leaves_home :
    ofFlags? "home" none (some ("~/" ++ "/x")) = some (.file "/x") ∧
      ¬ LiesBelow "/x" "home" ∧ ¬ SameBesideSlashes "/x" ("home" ++ "/" ++ "/x") := by
  refine ⟨by decide, ?_, fun hsame => ?_⟩
  · rintro ⟨rest, hpath, _⟩
    simpa using congrArg String.toList hpath
  · have hchars : squeezeSlashes "/x".toList = squeezeSlashes ("home" ++ "/" ++ "/x").toList :=
      hsame
    exact absurd hchars (by decide)

end Source

end Discovery
