import CloudClient.Proofs.Percent
import Mathlib.Data.List.TakeWhile

/-!
# Joined paths

The pieces of a path that was extended after a slash are those of both parts, and resolving them
goes on from where the first part leads. Segments that are no dots and hold nothing to be encoded
are then appended as they are.
-/

namespace CloudClient.Url
variable {special isFilePath : Bool}

/-! ## Pieces -/

theorem pieces_ne_nil (s : List Char) : pieces special s ≠ [] := by
  cases s with
  | nil => exact List.cons_ne_nil _ _
  | cons c rest =>
    unfold pieces
    split
    · exact List.cons_ne_nil _ _
    · split <;> exact List.cons_ne_nil _ _

theorem pieces_append_slash (s rest : List Char) :
    pieces special (s ++ '/' :: rest) = pieces special s ++ pieces special rest := by
  induction s with
  | nil => simp [pieces, isSlash]
  | cons c s ih =>
    simp only [List.cons_append, pieces, ih]
    split
    · rfl
    · cases hpieces : pieces special s with
      | nil => exact absurd hpieces (pieces_ne_nil s)
      | cons piece more => rfl

theorem pieces_of_forall {s : List Char} (h : ∀ c ∈ s, isSlash special c = false) :
    pieces special s = [s] := by
  induction s with
  | nil => rfl
  | cons c s ih =>
    obtain ⟨hc, hs⟩ := List.forall_mem_cons.mp h
    simp [pieces, hc, ih hs]

theorem pieces_join (first : List Char) (more : List (List Char))
    (h : ∀ s ∈ first :: more, ∀ c ∈ s, isSlash special c = false) :
    pieces special (first ++ more.flatMap fun s => '/' :: s) = first :: more := by
  induction more generalizing first with
  | nil =>
    rw [List.flatMap_nil, List.append_nil]
    exact pieces_of_forall (h first List.mem_cons_self)
  | cons second more ih =>
    obtain ⟨hfirst, hmore⟩ := List.forall_mem_cons.mp h
    rw [List.flatMap_cons, List.cons_append, pieces_append_slash, pieces_of_forall hfirst,
      ih second hmore]
    rfl

theorem pieces_append_slashes (s : List Char) (count : Nat) :
    pieces special (s ++ List.replicate count '/') =
      pieces special s ++ List.replicate count [] := by
  induction count generalizing s with
  | zero => simp
  | succ count ih =>
    have hslash : s ++ List.replicate (count + 1) '/' = (s ++ ['/']) ++ List.replicate count '/' := by
      simp [List.replicate_succ]
    rw [hslash, ih, pieces_append_slash]
    simp [pieces, List.replicate_succ]

/-! ## Resolving -/

def climb (isFilePath : Bool) (done : List (List Char)) (piece : List Char) : List (List Char) :=
  if isDoubleDot piece then parent done
  else if isDot piece then done
  else done ++ [segment isFilePath done piece]

theorem resolve_append (done pieces : List (List Char)) {more : List (List Char)} (h : more ≠ []) :
    resolve isFilePath done (pieces ++ more) =
      resolve isFilePath (pieces.foldl (climb isFilePath) done) more := by
  induction pieces generalizing done with
  | nil => rfl
  | cons piece rest ih =>
    have hne : (rest ++ more).isEmpty = false := by simp [h]
    rw [List.cons_append, resolve, List.foldl_cons, ← ih]
    simp only [hne, climb, Bool.false_eq_true, if_false]

/-- At its end a path may get an empty segment after the segments it leads to. -/
theorem resolve_end (done pieces : List (List Char)) :
    ∃ count, resolve isFilePath done pieces =
      pieces.foldl (climb isFilePath) done ++ List.replicate count [] := by
  rcases List.eq_nil_or_concat pieces with rfl | ⟨rest, last, rfl⟩
  · exact ⟨0, by simp [resolve]⟩
  · rw [List.concat_eq_append, resolve_append done rest (List.cons_ne_nil _ _), List.foldl_append]
    generalize rest.foldl (climb isFilePath) done = done
    simp only [resolve, List.isEmpty_nil, if_true, List.foldl_cons, List.foldl_nil, climb]
    split
    · exact ⟨1, rfl⟩
    · split
      · exact ⟨1, rfl⟩
      · exact ⟨0, by simp⟩

structure Kept (piece : List Char) : Prop where
  dot : isDot piece = false
  doubleDot : isDoubleDot piece = false
  plain : ∀ c ∈ piece, inPathSet c = false

theorem kept_nil : Kept [] := ⟨rfl, rfl, nofun⟩

theorem Kept.climb {piece : List Char} (h : Kept piece) (done : List (List Char)) :
    climb false done piece = done ++ [piece] := by
  have hsegment : segment false done piece = piece := Percent.encode_of_forall h.plain
  simp [Url.climb, h.dot, h.doubleDot, hsegment]

theorem resolve_of_kept {pieces : List (List Char)} (h : ∀ piece ∈ pieces, Kept piece)
    (done : List (List Char)) : resolve false done pieces = done ++ pieces := by
  induction pieces generalizing done with
  | nil => simp [resolve]
  | cons piece rest ih =>
    obtain ⟨hpiece, hrest⟩ := List.forall_mem_cons.mp h
    have hsegment : segment false done piece = piece := Percent.encode_of_forall hpiece.plain
    simp [resolve, hpiece.dot, hpiece.doubleDot, hsegment, ih hrest]

theorem forall_drop_append {P : List Char → Prop} {count : Nat} {done : List (List Char)}
    {last : List Char} (hdone : ∀ s ∈ done.drop count, P s) (hlast : P last) :
    ∀ s ∈ (done ++ [last]).drop count, P s := by
  intro s hs
  rw [List.drop_append] at hs
  rcases List.mem_append.mp hs with hs | hs
  · exact hdone s hs
  · exact List.mem_singleton.mp (List.mem_of_mem_drop hs) ▸ hlast

theorem forall_drop_parent {P : List Char → Prop} {count : Nat} {done : List (List Char)}
    (hdone : ∀ s ∈ done.drop count, P s) : ∀ s ∈ (parent done).drop count, P s := by
  intro s hs
  unfold parent at hs
  split at hs
  · exact hdone s hs
  · exact hdone s (((List.dropLast_sublist done).drop count).mem hs)

/-- Whatever holds of the segments after some count and of what a path may append holds of the
segments after that count when the path is resolved, wherever it climbs. -/
theorem forall_resolve {P : List Char → Prop} {count : Nat} (hempty : P [])
    {pieces : List (List Char)} (hpieces : ∀ piece ∈ pieces, isDot piece = false →
      isDoubleDot piece = false → P (Percent.encode inPathSet piece))
    {done : List (List Char)} (hdone : ∀ s ∈ done.drop count, P s) :
    ∀ s ∈ (resolve false done pieces).drop count, P s := by
  induction pieces generalizing done with
  | nil => exact hdone
  | cons piece rest ih =>
    obtain ⟨hpiece, hrest⟩ := List.forall_mem_cons.mp hpieces
    refine ih hrest ?_
    cases hdouble : isDoubleDot piece with
    | true =>
      cases rest.isEmpty
      · exact forall_drop_parent hdone
      · exact forall_drop_append (forall_drop_parent hdone) hempty
    | false =>
      cases hdot : isDot piece with
      | true =>
        cases rest.isEmpty
        · exact hdone
        · exact forall_drop_append hdone hempty
      | false => exact forall_drop_append hdone (hpiece hdot hdouble)

/-! ## The path of a URL -/

theorem withPath_of_forall {u : Url} {special : Bool} {s : List Char}
    (h : ∀ c ∈ s, isPathEnd c = false) :
    withPath u special s = { u with
      path := .segments (resolve false [] (pieces special s)), query? := none, fragment? := none } := by
  have htake : s.takeWhile (fun c => !isPathEnd c) = s :=
    List.takeWhile_eq_self_iff.mpr fun c hc => by simp [h c hc]
  have hdrop : s.dropWhile (fun c => !isPathEnd c) = [] :=
    List.dropWhile_eq_nil_iff.mpr fun c hc => by simp [h c hc]
  rw [withPath, htake, hdrop]
  rfl

theorem forall_of_withPath {u : Url} {special : Bool} {s : List Char}
    (hquery : (withPath u special s).query? = none)
    (hfragment : (withPath u special s).fragment? = none) : ∀ c ∈ s, isPathEnd c = false := by
  cases hdrop : s.dropWhile (fun c => !isPathEnd c) with
  | nil =>
    intro c hc
    simpa using List.dropWhile_eq_nil_iff.mp hdrop c hc
  | cons c rest =>
    have hc : isPathEnd c = true := by
      have hhead := List.head?_dropWhile_not (fun c => !isPathEnd c) s
      rw [hdrop] at hhead
      simpa using hhead
    rw [withPath, hdrop] at hquery hfragment
    rcases (by simpa [isPathEnd] using hc : c = '?' ∨ c = '#') with rfl | rfl
    · cases hquery
    · cases hfragment

theorem withoutSlash_append {s : List Char} (h : s ≠ []) (tail : List Char) :
    withoutSlash (s ++ tail) = withoutSlash s ++ tail := by
  cases s with
  | nil => exact absurd rfl h
  | cons c s =>
    simp only [List.cons_append, withoutSlash]
    split <;> rfl

theorem foldl_climb_empty (done : List (List Char)) (count : Nat) :
    (List.replicate count []).foldl (climb false) done = done ++ List.replicate count [] := by
  induction count generalizing done with
  | zero => simp
  | succ count ih => simp [List.replicate_succ, kept_nil.climb, ih]

theorem withPath_slashes (u : Url) (count : Nat) :
    ∃ n, withPath u true (withoutSlash (List.replicate count '/')) = { u with
      path := .segments (List.replicate n []), query? := none, fragment? := none } := by
  have hslashes : ∃ n, withoutSlash (List.replicate count '/') = List.replicate n '/' := by
    cases count with
    | zero => exact ⟨0, rfl⟩
    | succ count => exact ⟨count, rfl⟩
  obtain ⟨n, hn⟩ := hslashes
  have hplain : ∀ c ∈ List.replicate n '/', isPathEnd c = false :=
    fun c hc => List.eq_of_mem_replicate hc ▸ rfl
  have hpieces : pieces true (List.replicate n '/') = List.replicate (n + 1) [] :=
    pieces_append_slashes [] n
  refine ⟨n + 1, ?_⟩
  rw [hn, withPath_of_forall hplain, hpieces,
    resolve_of_kept fun piece hpiece => List.eq_of_mem_replicate hpiece ▸ kept_nil]
  rfl

theorem withPath_joined {u : Url} {start : List Char} {count : Nat} (hstart : start ≠ [])
    (hplain : ∀ c ∈ withoutSlash start, isPathEnd c = false) :
    let root := (pieces true (withoutSlash start)).foldl (climb false) []
    (∃ n, withPath u true (withoutSlash (start ++ List.replicate count '/')) = { u with
      path := .segments (root ++ List.replicate n []), query? := none, fragment? := none }) ∧
    ∀ path, (∀ c ∈ path, isPathEnd c = false) →
      withPath u true (withoutSlash (start ++ '/' :: path)) = { u with
        path := .segments (resolve false root (pieces true path))
        query? := none, fragment? := none } := by
  have hall : ∀ {tail : List Char}, (∀ c ∈ tail, isPathEnd c = false) →
      ∀ c ∈ withoutSlash start ++ tail, isPathEnd c = false := by
    intro tail htail c hc
    exact (List.mem_append.mp hc).elim (hplain c) (htail c)
  constructor
  · obtain ⟨extra, hextra⟩ := @resolve_end false []
      (pieces true (withoutSlash start) ++ List.replicate count [])
    refine ⟨count + extra, ?_⟩
    rw [withoutSlash_append hstart,
      withPath_of_forall (hall fun c hc => List.eq_of_mem_replicate hc ▸ rfl),
      pieces_append_slashes, hextra, List.foldl_append, foldl_climb_empty, List.append_assoc,
      List.replicate_append_replicate]
  · intro path hpath
    have hslash : ∀ c ∈ '/' :: path, isPathEnd c = false := List.forall_mem_cons.mpr ⟨rfl, hpath⟩
    rw [withoutSlash_append hstart, withPath_of_forall (hall hslash), pieces_append_slash,
      resolve_append _ _ (pieces_ne_nil path)]

/-- A path that starts where the base has ended goes on from the segments of the base, of which only
empty ones at the end are lost. -/
theorem withPath_extended {u b : Url} {start : List Char} {count : Nat}
    (hb : b = withPath u true (withoutSlash (start ++ List.replicate count '/')))
    (hquery : b.query? = none) (hfragment : b.fragment? = none) :
    ∃ root n, b.path = .segments (root ++ List.replicate n []) ∧
      ∀ path, (∀ c ∈ path, isPathEnd c = false) →
        withPath u true (withoutSlash (start ++ '/' :: path)) =
          { b with path := .segments (resolve false root (pieces true path)) } := by
  subst hb
  by_cases hstart : start = []
  · subst hstart
    obtain ⟨n, hn⟩ := withPath_slashes u count
    rw [List.nil_append, hn]
    exact ⟨[], n, rfl, fun path hpath => withPath_of_forall hpath⟩
  · have hplain := forall_of_withPath hquery hfragment
    rw [withoutSlash_append hstart] at hplain
    obtain ⟨⟨n, hn⟩, hjoined⟩ := @withPath_joined u start count hstart
      fun c hc => hplain c (List.mem_append_left _ hc)
    rw [hn]
    exact ⟨_, n, rfl, hjoined⟩

end CloudClient.Url
