import CloudClient.Proofs.Url.Authority

/-!
# URLs that are extended by a path

A web address that is extended after a slash keeps everything before its path, and its path goes on
from where it led. A blank at the end of the address would become part of the path, so it must have
none there but tabs and line breaks, which are dropped anywhere.
-/

namespace CloudClient.Url
variable {s tail : List Char}

/-! ## Blanks -/

def isBreak (c : Char) : Bool := c = '\t' || c = '\n' || c = '\r'

/-- No blank at the end of the text would be kept if the text went on. -/
def EndsPlainly (s : List Char) : Prop := (s.reverse.takeWhile isEdge).all isBreak = true

instance (s : List Char) : Decidable (EndsPlainly s) :=
  inferInstanceAs (Decidable (_ = true))

def front (s : List Char) : List Char := (s.dropWhile isEdge).filter fun c => !isBreak c

theorem EndsPlainly.of_last {last : Char} (h : isEdge last = false) (s : List Char) :
    EndsPlainly (s ++ [last]) := by
  simp [EndsPlainly, h]

theorem mem_takeWhile_append {p : Char → Bool} {c : Char} (h : c ∈ s.takeWhile p) :
    c ∈ (s ++ tail).takeWhile p := by
  rw [List.takeWhile_append]
  split
  · exact List.mem_append_left _ ((List.takeWhile_sublist p).mem h)
  · exact h

theorem EndsPlainly.cleaned (h : EndsPlainly s) : cleaned s = front s := by
  let inner := s.dropWhile isEdge
  have hinner : s.reverse = inner.reverse ++ (s.takeWhile isEdge).reverse := by
    rw [← List.reverse_append, List.takeWhile_append_dropWhile]
  have hbreaks : (inner.reverse.takeWhile isEdge).reverse.filter (fun c => !isBreak c) = [] := by
    refine List.filter_eq_nil_iff.mpr fun c hc => ?_
    have hbreak := List.all_eq_true.mp h c (hinner ▸ mem_takeWhile_append (List.mem_reverse.mp hc))
    simp [hbreak]
  have hsplit : (inner.reverse.dropWhile isEdge).reverse ++
      (inner.reverse.takeWhile isEdge).reverse = inner := by
    rw [← List.reverse_append, List.takeWhile_append_dropWhile, List.reverse_reverse]
  calc Url.cleaned s
      = (inner.reverse.dropWhile isEdge).reverse.filter fun c => !isBreak c := rfl
    _ = ((inner.reverse.dropWhile isEdge).reverse ++
          (inner.reverse.takeWhile isEdge).reverse).filter fun c => !isBreak c := by
        rw [List.filter_append, hbreaks, List.append_nil]
    _ = front s := by rw [hsplit]; rfl

theorem front_append (htail : Follows tail) (hplain : ∀ c ∈ tail, isEdge c = false) (s : List Char) :
    front (s ++ tail) = front s ++ tail := by
  have hslash : isEdge '/' = false := by decide
  have hkept : tail.filter (fun c => !isBreak c) = tail := by
    refine List.filter_eq_self.mpr fun c hc => ?_
    have hedge : ∀ c, isBreak c = true → isEdge c = true := by
      intro c hc
      rcases (by simpa [isBreak] using hc : (c = '\t' ∨ c = '\n') ∨ c = '\r') with
        (rfl | rfl) | rfl <;> decide
    cases hbreak : isBreak c with
    | false => rfl
    | true => exact absurd ((hplain c hc).symm.trans (hedge c hbreak)) Bool.false_ne_true
  rw [front, (htail.stops hslash).dropWhile_append, List.filter_append, hkept]
  rfl

/-! ## Scheme -/

theorem readScheme?_append (h : Follows tail) (s : List Char) :
    readScheme? (s ++ tail) = (readScheme? s).map fun (scheme, rest) => (scheme, rest ++ tail) := by
  have hstops : Stops isSchemeChar tail := h.stops (by decide)
  cases s with
  | nil =>
    cases tail with
    | nil => rfl
    | cons c tail =>
      obtain rfl := h c rfl
      rfl
  | cons c s =>
    have hdrop := hstops.dropWhile_append (c :: s)
    have htake := hstops.takeWhile_append (c :: s)
    rw [List.cons_append] at hdrop htake
    rw [List.cons_append, readScheme?, readScheme?, hdrop, htake]
    split
    · rfl
    · cases hrest : (c :: s).dropWhile isSchemeChar with
      | nil =>
        cases tail with
        | nil => rfl
        | cons d tail =>
          obtain rfl := h d rfl
          rfl
      | cons d rest =>
        by_cases hd : d = ':'
        · subst hd
          rfl
        · simp [hd]

theorem exists_of_ite_bind {ε α β : Type} {p : Prop} [Decidable p] {x y : Except ε α}
    {f : α → Except ε β} {b : β} (h : (if p then x >>= f else y >>= f) = .ok b) :
    ∃ a, f a = .ok b := by
  split at h
  · obtain ⟨a, -, h⟩ := Except.bind_eq_ok.mp h
    exact ⟨a, h⟩
  · obtain ⟨a, -, h⟩ := Except.bind_eq_ok.mp h
    exact ⟨a, h⟩

theorem exists_of_readEnd_bind {α : Type} {scheme rest after : List Char} {a : α}
    {f : Option Nat × List Char → Except UrlError α}
    (h : (match rest with
      | ':' :: digits => readPort scheme (digits ++ after) >>= f
      | _ => Except.ok (none, after) >>= f) = .ok a) : ∃ port, f port = .ok a := by
  obtain ⟨port, -, h⟩ := Except.bind_eq_ok.mp ((readEnd_bind scheme rest after f).symm.trans h)
  exact ⟨port, h⟩

theorem readAuthority_ok {scheme : List Char} {u : Url} (h : readAuthority scheme s = .ok u) :
    u.scheme = scheme ∧ u.host?.isNone = false := by
  unfold readAuthority at h
  obtain ⟨-, h⟩ := Except.guard_eq_ok.mp h
  obtain ⟨-, h⟩ := Except.guard_eq_ok.mp h
  obtain ⟨host, h⟩ := exists_of_ite_bind h
  obtain ⟨-, h⟩ := Except.guard_eq_ok.mp h
  obtain ⟨port, h⟩ := exists_of_readEnd_bind h
  dsimp only at h
  split at h
  · split at h <;> cases h <;> exact ⟨rfl, rfl⟩
  · split at h
    · cases h
      exact ⟨rfl, rfl⟩
    · split at h <;> cases h <;> exact ⟨rfl, rfl⟩

theorem readFile_scheme {u : Url} (h : readFile s = .ok u) : u.scheme = "file".toList := by
  unfold readFile at h
  split at h
  · cases h
    rfl
  · dsimp only at h
    split at h
    · cases h
      rfl
    · obtain ⟨host?, -, h⟩ := Except.bind_eq_ok.mp h
      cases host? <;> cases h <;> rfl

theorem parse_scheme {text : String} {u : Url} (h : parse text = .ok u) :
    ∃ rest, readScheme? (cleaned text.toList) = some (u.scheme, rest) := by
  unfold parse at h
  cases hread : readScheme? (cleaned text.toList) with
  | none =>
    rw [hread] at h
    cases h
  | some parts =>
    obtain ⟨scheme, rest⟩ := parts
    suffices u.scheme = scheme from ⟨rest, by rw [this]⟩
    rw [hread] at h
    dsimp only at h
    split at h
    · exact (readAuthority_ok h).1
    · split at h
      · rename_i hfile
        exact (readFile_scheme h).trans (of_decide_eq_true hfile).symm
      · split at h
        · exact (readAuthority_ok h).1
        · cases h
          rfl
        · cases h
          rfl

/-! ## Joining -/

theorem readAuthority_nil {scheme : List Char} {u : Url} (hweb : isWeb scheme = true) :
    readAuthority scheme [] ≠ .ok u := by
  intro h
  exact ((readAuthority_eq_ok hweb).mp h).2.1 rfl

section Joining
variable {raw : String} {start path : List Char} {count : Nat} {b u : Url}

theorem cleaned_base (hraw : raw.toList = start ++ List.replicate count '/')
    (hends : EndsPlainly raw.toList) :
    cleaned raw.toList = front start ++ List.replicate count '/' := by
  have hslash : isEdge '/' = false := by decide
  rw [hends.cleaned, hraw]
  exact front_append (.slashes count) (fun c hc => List.eq_of_mem_replicate hc ▸ hslash) start

theorem cleaned_joined (hpath : ∀ c ∈ path, isEdge c = false) :
    cleaned (start ++ '/' :: path) = front start ++ '/' :: path := by
  have hplain : ∀ c ∈ '/' :: path, isEdge c = false := by
    intro c hc
    rcases List.mem_cons.mp hc with rfl | hc
    · decide
    · exact hpath c hc
  have hends : EndsPlainly (start ++ '/' :: path) := by
    rcases List.eq_nil_or_concat ('/' :: path) with h | ⟨before, last, h⟩
    · cases h
    · rw [h, List.concat_eq_append, ← List.append_assoc]
      exact .of_last (hplain last (by simp [h])) _
  rw [hends.cleaned]
  exact front_append (.slash path) hplain start

theorem readScheme?_base (hraw : raw.toList = start ++ List.replicate count '/')
    (hends : EndsPlainly raw.toList) (hb : parse raw = .ok b) :
    ∃ rest, readScheme? (front start) = some (b.scheme, rest) ∧
      readScheme? (cleaned raw.toList) = some (b.scheme, rest ++ List.replicate count '/') := by
  obtain ⟨rest, hrest⟩ := parse_scheme hb
  rw [cleaned_base hraw hends, readScheme?_append (.slashes count)] at hrest
  obtain ⟨⟨scheme, before⟩, hbefore, h⟩ := Option.map_eq_some_iff.mp hrest
  cases h
  refine ⟨before, hbefore, ?_⟩
  rw [cleaned_base hraw hends, readScheme?_append (.slashes count), hbefore]
  rfl

theorem readScheme?_joined {scheme rest : List Char} (hpath : ∀ c ∈ path, isEdge c = false)
    (h : readScheme? (front start) = some (scheme, rest)) :
    readScheme? (cleaned (start ++ '/' :: path)) = some (scheme, rest ++ '/' :: path) := by
  rw [cleaned_joined hpath, readScheme?_append (.slash path), h]
  rfl

theorem scheme_joined (hraw : raw.toList = start ++ List.replicate count '/')
    (hends : EndsPlainly raw.toList) (hb : parse raw = .ok b) (hpath : ∀ c ∈ path, isEdge c = false)
    (hu : parse (String.ofList (start ++ '/' :: path)) = .ok u) : u.scheme = b.scheme := by
  obtain ⟨rest, hstart, -⟩ := readScheme?_base hraw hends hb
  obtain ⟨rest', hrest'⟩ := parse_scheme hu
  rw [String.toList_ofList, readScheme?_joined hpath hstart] at hrest'
  exact (congrArg Prod.fst (Option.some.inj hrest')).symm

theorem parse_web {text : String} {scheme rest : List Char} (hweb : isWeb scheme = true)
    (h : readScheme? (cleaned text.toList) = some (scheme, rest)) :
    parse text = readAuthority scheme (rest.dropWhile (isSlash true)) := by
  rw [parse, h]
  exact if_pos hweb

theorem parse_host {text : String} {u : Url} (h : parse text = .ok u)
    (hweb : isWeb u.scheme = true) : u.host?.isNone = false := by
  obtain ⟨rest, hrest⟩ := parse_scheme h
  rw [parse_web hweb hrest] at h
  exact (readAuthority_ok h).2

/-- A web address without query and fragment that is extended after its slashes is read as the
address itself, but for the path, which goes on from the segments of the address. -/
theorem parse_joined (hraw : raw.toList = start ++ List.replicate count '/')
    (hends : EndsPlainly raw.toList) (hb : parse raw = .ok b) (hweb : isWeb b.scheme = true)
    (hquery : b.query? = none) (hfragment : b.fragment? = none) :
    ∃ root n, b.path = .segments (root ++ List.replicate n []) ∧
      ∀ path, (∀ c ∈ path, isEdge c = false) → (∀ c ∈ path, isPathEnd c = false) →
        parse (String.ofList (start ++ '/' :: path)) =
          .ok { b with path := .segments (resolve false root (pieces true path)) } := by
  obtain ⟨rest, hstart, hcleaned⟩ := readScheme?_base hraw hends hb
  rw [parse_web hweb hcleaned, List.dropWhile_append] at hb
  split at hb
  · -- nothing but slashes follows the scheme, so no host is named
    have hslashes : (List.replicate count '/').dropWhile (isSlash true) = [] :=
      List.dropWhile_eq_nil_iff.mpr fun c hc => List.eq_of_mem_replicate hc ▸ rfl
    rw [hslashes] at hb
    exact absurd hb (readAuthority_nil hweb)
  · rename_i hhost
    obtain ⟨v, after, hbase, hmore⟩ := readAuthority_append hweb (.slashes count) hb
    obtain ⟨root, n, hroot, hpath⟩ := withPath_extended hbase hquery hfragment
    refine ⟨root, n, hroot, fun path hplain hend => ?_⟩
    have hread : readScheme? (cleaned (String.ofList (start ++ '/' :: path)).toList) =
        some (b.scheme, rest ++ '/' :: path) := by
      rw [String.toList_ofList]
      exact readScheme?_joined hplain hstart
    rw [parse_web hweb hread, List.dropWhile_append, if_neg hhost, hmore _ (.slash path),
      hpath path hend]

end Joining

end CloudClient.Url
