import CloudClient.Proofs.Registry.Validity
import CloudClient.Proofs.Text
import CloudClient.Proofs.Url.Path

/-!
# Addresses that are extended

A web address is its authority and what follows it. An authority ends at a slash, so one that is
followed by nothing or by a slash is read alike whatever comes after the slash.
-/

namespace CloudClient.Url

def Stops (p : Char → Bool) (s : List Char) : Prop := ∀ c, s.head? = some c → p c = false

def Follows (s : List Char) : Prop := ∀ c, s.head? = some c → c = '/'

section Following
variable {tail : List Char} {p : Char → Bool}

theorem Follows.slash (s : List Char) : Follows ('/' :: s) := by
  intro c hc
  exact (Option.some.inj hc).symm

theorem Follows.slashes (count : Nat) : Follows (List.replicate count '/') := by
  cases count with
  | zero => intro c hc; cases hc
  | succ count => exact .slash _

theorem Follows.stops (h : Follows tail) (hp : p '/' = false) : Stops p tail :=
  fun c hc => h c hc ▸ hp

theorem Stops.dropWhile_append (h : Stops p tail) (s : List Char) :
    (s ++ tail).dropWhile p = s.dropWhile p ++ tail := by
  have htail : tail.dropWhile p = tail := by
    cases tail with
    | nil => rfl
    | cons c tail => simp [h c rfl]
  rw [List.dropWhile_append]
  split
  · rename_i hempty
    rw [List.isEmpty_iff.mp hempty, htail]
    rfl
  · rfl

theorem Stops.takeWhile_append (h : Stops p tail) (s : List Char) :
    (s ++ tail).takeWhile p = s.takeWhile p := by
  have htail : tail.takeWhile p = [] := by
    cases tail with
    | nil => rfl
    | cons c tail => simp [h c rfl]
  rw [List.takeWhile_append, htail]
  split
  · rename_i hlength
    rw [List.append_nil]
    exact ((List.takeWhile_sublist p).eq_of_length hlength).symm
  · rfl

theorem dropWhile_stops (p : Char → Bool) (s : List Char) : Stops p (s.dropWhile p) := by
  intro c hc
  have hhead := List.head?_dropWhile_not p s
  rw [hc] at hhead
  simpa using hhead

theorem Stops.append {s : List Char} (hs : Stops p s) (h : Stops p tail) : Stops p (s ++ tail) := by
  cases s with
  | nil => exact h
  | cons c s => exact hs

end Following

/-! ## Authority -/

def placeOf (authority : List Char) : List Char × List Char :=
  (splitUser? authority).getD ([], authority)

def readEnd (scheme rest after : List Char) : Except UrlError (Option Nat × List Char) :=
  match rest with
  | ':' :: digits => readPort scheme (digits ++ after)
  | _ => .ok (none, after)

def entered (scheme user : List Char) (host : Host) (port? : Option Nat) : Url :=
  { scheme, username := (readUser user).1, password := (readUser user).2, host? := some host, port?,
    path := .segments [] }

theorem readEnd_bind {α : Type} (scheme rest after : List Char)
    (f : Option Nat × List Char → Except UrlError α) :
    (match rest with
      | ':' :: digits => readPort scheme (digits ++ after) >>= f
      | _ => Except.ok (none, after) >>= f) = readEnd scheme rest after >>= f := by
  unfold readEnd
  split <;> rfl

theorem withPath_of_rest (u : Url) (rest : List Char) :
    (match rest with
      | [] => Except.ok (if true = true then withPath u true [] else u)
      | c :: path =>
        if isSlash true c = true then Except.ok (withPath u true path)
        else if (true || !isPathEnd c) = true then Except.ok (withPath u true (c :: path))
        else Except.ok (withEnding u true (c :: path)) : Except UrlError Url) =
      .ok (withPath u true (withoutSlash rest)) := by
  cases rest with
  | nil => rfl
  | cons c path =>
    simp only [withoutSlash, Bool.true_or, if_true]
    split <;> rfl

theorem readAuthority_eq_ok {scheme s : List Char} {u : Url} (hweb : isWeb scheme = true) :
    readAuthority scheme s = .ok u ↔
      let authority := s.takeWhile fun c => !isAuthorityEnd true c
      let after := s.dropWhile fun c => !isAuthorityEnd true c
      let user := (placeOf authority).1
      let place := (placeOf authority).2
      let hostText := place.take (hostLength false place)
      let rest := place.drop (hostLength false place)
      ¬ ((splitUser? authority).isSome && user.isEmpty && place.isEmpty && !after.isEmpty) = true ∧
      ¬ hostText.isEmpty = true ∧ ∃ host, Host.parse hostText = .ok host ∧
        ∃ port, readEnd scheme rest after = .ok port ∧
          u = withPath (entered scheme user host port.1) true (withoutSlash port.2) := by
  unfold readAuthority
  rw [hweb]
  refine Except.guard_eq_ok.trans (and_congr_right fun _ => ?_)
  refine Except.guard_eq_ok.trans (and_congr_right fun hempty => ?_)
  change (if true = true then _ else _) = _ ↔ _
  rw [if_pos rfl]
  refine Except.bind_eq_ok.trans (exists_congr fun host => and_congr_right fun _ => ?_)
  refine Except.guard_eq_ok.trans ((and_iff_right ?_).trans ?_)
  · exact fun h => hempty (Bool.and_eq_true_iff.mp h).1
  · refine (iff_of_eq (congrArg (· = Except.ok u) (readEnd_bind scheme _ _ _))).trans ?_
    refine Except.bind_eq_ok.trans (exists_congr fun port => and_congr_right fun _ => ?_)
    refine (iff_of_eq (congrArg (· = Except.ok u) (withPath_of_rest _ port.2))).trans ?_
    rw [Except.ok.injEq]
    exact eq_comm

/-! ## Extension -/

section Extension
variable {scheme s tail : List Char}

theorem not_isDigit_of_isAuthorityEnd {c : Char} (h : isAuthorityEnd true c = true) :
    c.isDigit = false := by
  have hcases : (c = '?' ∨ c = '#') ∨ c = '/' ∨ c = '\\' := by
    simpa [isAuthorityEnd, isPathEnd, isSlash] using h
  rcases hcases with (rfl | rfl) | rfl | rfl <;> decide

def portOf (scheme digits : List Char) : Option Nat :=
  if digits.isEmpty || defaultPort? scheme = some (Text.decimalValue digits) then none
  else some (Text.decimalValue digits)

theorem readPort_eq_ok {port : Option Nat × List Char} :
    readPort scheme s = .ok port ↔
      ¬ 65535 < Text.decimalValue (s.takeWhile Char.isDigit) ∧
      ¬ (!(s.dropWhile Char.isDigit).isEmpty && !((s.dropWhile Char.isDigit).head?.map fun c =>
          isPathEnd c || isSlash true c).getD false) = true ∧
      port = (portOf scheme (s.takeWhile Char.isDigit), s.dropWhile Char.isDigit) := by
  unfold readPort
  refine Except.ite_eq_ok.trans (and_congr_right fun _ => ?_)
  refine Except.ite_eq_ok.trans (and_congr_right fun _ => ?_)
  unfold portOf
  split <;> rw [Except.ok.injEq] <;> exact eq_comm

theorem readPort_append {digits : List Char} {port : Option Nat × List Char}
    (hdigits : ∀ c ∈ digits, isAuthorityEnd true c = false)
    (htail : Stops (fun c => !isAuthorityEnd true c) tail)
    (h : readPort scheme (digits ++ tail) = .ok port) :
    port.2 = tail ∧ ∀ more, Stops (fun c => !isAuthorityEnd true c) more →
      readPort scheme (digits ++ more) = .ok (port.1, more) := by
  have hstops : ∀ {more}, Stops (fun c => !isAuthorityEnd true c) more → Stops Char.isDigit more :=
    fun hmore c hc => not_isDigit_of_isAuthorityEnd (by simpa using hmore c hc)
  obtain ⟨hvalue, hend, rfl⟩ := readPort_eq_ok.mp h
  rw [(hstops htail).takeWhile_append] at hvalue ⊢
  rw [(hstops htail).dropWhile_append] at hend ⊢
  cases hrest : digits.dropWhile Char.isDigit with
  | nil =>
    refine ⟨rfl, fun more hmore => readPort_eq_ok.mpr ?_⟩
    rw [(hstops hmore).takeWhile_append, (hstops hmore).dropWhile_append, hrest]
    refine ⟨hvalue, ?_, rfl⟩
    cases more with
    | nil => simp
    | cons c more =>
      have hc := hmore c rfl
      simp only [Bool.not_eq_eq_eq_not, Bool.not_false, isAuthorityEnd] at hc
      simp [hc]
  | cons c more =>
    -- what no digit starts is no end of the authority either
    have hc := hdigits c ((List.dropWhile_sublist _).mem (hrest ▸ List.mem_cons_self))
    rw [hrest] at hend
    simp only [isAuthorityEnd] at hc
    exact absurd (by simp [hc]) hend

theorem mem_placeOf {authority : List Char} {c : Char} (h : c ∈ (placeOf authority).2) :
    c ∈ authority := by
  unfold placeOf splitUser? at h
  cases hsplit : Text.splitOnce? '@' authority.reverse with
  | none =>
    rw [hsplit] at h
    exact h
  | some parts =>
    obtain ⟨host, user⟩ := parts
    rw [hsplit] at h
    have hreverse := (Text.splitOnce?_eq_some.mp hsplit).1
    have hc : c ∈ authority.reverse := by
      rw [hreverse]
      exact List.mem_append_left _ (List.mem_reverse.mp h)
    exact List.mem_reverse.mp hc

theorem readEnd_append {rest start : List Char} {port : Option Nat × List Char}
    (hrest : ∀ c ∈ rest, isAuthorityEnd true c = false)
    (hstart : Stops (fun c => !isAuthorityEnd true c) start) (htail : Follows tail)
    (h : readEnd scheme rest (start ++ tail) = .ok port) :
    port.2 = start ++ tail ∧ ∀ more, Follows more →
      readEnd scheme rest (start ++ more) = .ok (port.1, start ++ more) := by
  have hslash : (fun c => !isAuthorityEnd true c) '/' = false := by decide
  have hends : ∀ {more}, Follows more → Stops (fun c => !isAuthorityEnd true c) (start ++ more) :=
    fun hmore => hstart.append (hmore.stops hslash)
  unfold readEnd at h ⊢
  split at h
  · rename_i digits
    have hdigits : ∀ c ∈ digits, isAuthorityEnd true c = false :=
      fun c hc => hrest c (List.mem_cons_of_mem _ hc)
    obtain ⟨hport, hmore⟩ := readPort_append hdigits (hends htail) h
    exact ⟨hport, fun more hfollows => hmore _ (hends hfollows)⟩
  · cases h
    exact ⟨rfl, fun _ _ => rfl⟩

/-- An authority that is followed by something else is read alike, and what follows starts where it
started before. -/
theorem readAuthority_append {u : Url} (hweb : isWeb scheme = true) (htail : Follows tail)
    (h : readAuthority scheme (s ++ tail) = .ok u) :
    ∃ v start, u = withPath v true (withoutSlash (start ++ tail)) ∧
      ∀ more, Follows more →
        readAuthority scheme (s ++ more) = .ok (withPath v true (withoutSlash (start ++ more))) := by
  have hslash : (fun c => !isAuthorityEnd true c) '/' = false := by decide
  have htake : ∀ {more}, Follows more → (s ++ more).takeWhile (fun c => !isAuthorityEnd true c) =
      s.takeWhile fun c => !isAuthorityEnd true c :=
    fun hmore => (hmore.stops hslash).takeWhile_append s
  have hdrop : ∀ {more}, Follows more → (s ++ more).dropWhile (fun c => !isAuthorityEnd true c) =
      s.dropWhile (fun c => !isAuthorityEnd true c) ++ more :=
    fun hmore => (hmore.stops hslash).dropWhile_append s
  obtain ⟨-, hhost, host, hparse, port, hport, rfl⟩ := (readAuthority_eq_ok hweb).mp h
  rw [htake htail] at hhost hparse hport ⊢
  rw [hdrop htail] at hport
  have hauthority : ∀ c ∈ s.takeWhile (fun c => !isAuthorityEnd true c),
      isAuthorityEnd true c = false := fun c hc => by simpa using List.mem_takeWhile_imp hc
  obtain ⟨hstart, hmore⟩ := readEnd_append
    (fun c hc => hauthority c (mem_placeOf (List.mem_of_mem_drop hc)))
    (dropWhile_stops _ s) htail hport
  refine ⟨_, s.dropWhile fun c => !isAuthorityEnd true c, by rw [hstart], fun more hfollows => ?_⟩
  refine (readAuthority_eq_ok hweb).mpr ?_
  rw [htake hfollows, hdrop hfollows]
  refine ⟨?_, hhost, host, hparse, _, hmore more hfollows, rfl⟩
  -- a host was read, so the place that it stands in is not empty
  intro hempty
  have hplace := (Bool.and_eq_true_iff.mp (Bool.and_eq_true_iff.mp hempty).1).2
  apply hhost
  rw [List.isEmpty_iff.mp hplace]
  rfl

end Extension

end CloudClient.Url
