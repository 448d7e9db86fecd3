import CloudClient.Proofs.Endpoint.Template

/-!
# Places in a template

A template is read from left to right: a name between an opening and a closing brace, with no brace
in it, is a place, and all else is text. Where no brace is left in the text, replacing placeholders
one after another fills each place with the id of its name, whatever strings and integers the ids
are. A placeholder that occurs in a template is one of its places.
-/

namespace CloudClient

namespace Endpoint
variable {opened? : Option (List Char)} {template rest name : List Char}

/-- Reads on after an opening brace and what followed it, if one is open. -/
def readSlots : Option (List Char) → List Char → List Slot
  | none, [] => []
  | some name, [] => [.literal ('\x7b' :: name)]
  | none, c :: rest =>
    if c = '\x7b' then readSlots (some []) rest else .literal [c] :: readSlots none rest
  | some name, c :: rest =>
    if c = '\x7d' then .place (String.ofList name) :: readSlots none rest
    else if c = '\x7b' then .literal ('\x7b' :: name) :: readSlots (some []) rest
    else readSlots (some (name ++ [c])) rest

def slotsOf (template : List Char) : List Slot := readSlots none template

def Slot.name? : Slot → Option String
  | .literal _ => none
  | .place name => some name

def placeNames (template : List Char) : List String := (slotsOf template).filterMap Slot.name?

def Slot.text : Slot → List Char
  | .literal text => text
  | .place _ => []

/-- What is left of a template without its places. -/
def textOf (template : List Char) : List Char := (slotsOf template).flatMap Slot.text

/-! ## Reading -/

def pending : Option (List Char) → List Char
  | none => []
  | some name => '\x7b' :: name

theorem template_readSlots (opened? : Option (List Char)) (s : List Char) :
    (readSlots opened? s).flatMap Slot.template = pending opened? ++ s := by
  induction s generalizing opened? with
  | nil => cases opened? <;> simp [readSlots, pending, Slot.template]
  | cons c rest ih =>
    cases opened? with
    | none => by_cases hopen : c = '\x7b' <;> simp [readSlots, hopen, ih, pending, Slot.template]
    | some name =>
      by_cases hclose : c = '\x7d'
      · simp [readSlots, hclose, ih, pending, Slot.template, placeholder]
      · by_cases hopen : c = '\x7b' <;>
          simp [readSlots, hclose, hopen, ih, pending, Slot.template]

theorem template_slotsOf (template : List Char) :
    (slotsOf template).flatMap Slot.template = template := template_readSlots none template

theorem braceless_of_place {place : String} (hopened : ∀ name ∈ opened?, Braceless name)
    (h : Slot.place place ∈ readSlots opened? rest) : Braceless place.toList := by
  induction rest generalizing opened? with
  | nil => cases opened? <;> simp [readSlots] at h
  | cons c rest ih =>
    have hempty : ∀ name ∈ some ([] : List Char), Braceless name := by simp [Braceless]
    cases opened? with
    | none =>
      by_cases hopen : c = '\x7b'
      · exact ih hempty (by simpa [readSlots, hopen] using h)
      · exact ih hopened (by simpa [readSlots, hopen] using h)
    | some name =>
      have hname := hopened name rfl
      by_cases hclose : c = '\x7d'
      · have hplace : place = String.ofList name ∨ Slot.place place ∈ readSlots none rest := by
          simpa [readSlots, hclose] using h
        rcases hplace with rfl | hplace
        · simpa using hname
        · exact ih (by simp) hplace
      · by_cases hopen : c = '\x7b'
        · exact ih hempty (by simpa [readSlots, hclose, hopen] using h)
        · have hlonger : ∀ name' ∈ some (name ++ [c]), Braceless name' := by
            simpa [Braceless, Ne.symm hclose, Ne.symm hopen] using hname
          exact ih hlonger (by simpa [readSlots, hclose, hopen] using h)

theorem readSlots_append_open (opened? : Option (List Char)) (s rest : List Char) :
    readSlots opened? (s ++ '\x7b' :: rest) = readSlots opened? s ++ readSlots (some []) rest := by
  induction s generalizing opened? with
  | nil => cases opened? <;> simp [readSlots]
  | cons c s ih =>
    cases opened? with
    | none => by_cases hopen : c = '\x7b' <;> simp [readSlots, hopen, ih]
    | some name =>
      by_cases hclose : c = '\x7d'
      · simp [readSlots, hclose, ih]
      · by_cases hopen : c = '\x7b' <;> simp [readSlots, hclose, hopen, ih]

theorem readSlots_close (hname : Braceless name) (before rest : List Char) :
    readSlots (some before) (name ++ '\x7d' :: rest) =
      .place (String.ofList (before ++ name)) :: readSlots none rest := by
  induction name generalizing before with
  | nil => simp [readSlots]
  | cons c name ih =>
    obtain ⟨⟨hopen, hopens⟩, hclose, hcloses⟩ :
        (c ≠ '\x7b' ∧ '\x7b' ∉ name) ∧ c ≠ '\x7d' ∧ '\x7d' ∉ name := by
      simpa [Braceless, eq_comm] using hname
    simp [readSlots, hopen, hclose, ih ⟨hopens, hcloses⟩]

theorem slotsOf_append_placeholder {place : String} (hplace : Braceless place.toList)
    (before rest : List Char) :
    slotsOf (before ++ (placeholder place ++ rest)) =
      slotsOf before ++ .place place :: slotsOf rest := by
  have hclose := readSlots_close hplace [] rest
  simp only [List.nil_append, String.ofList_toList] at hclose
  simp [slotsOf, placeholder, readSlots_append_open, hclose]

theorem readSlots_append_char (opened? : Option (List Char)) {c : Char} (hclose : c ≠ '\x7d')
    (s : List Char) :
    (readSlots opened? (s ++ [c])).filterMap Slot.name? =
        (readSlots opened? s).filterMap Slot.name? ∧
      (readSlots opened? (s ++ [c])).flatMap Slot.text =
        (readSlots opened? s).flatMap Slot.text ++ [c] := by
  induction s generalizing opened? with
  | nil =>
    cases opened? <;> by_cases hopen : c = '\x7b' <;>
      simp [readSlots, hopen, hclose, List.filterMap_cons, Slot.name?, Slot.text]
  | cons d s ih =>
    cases opened? with
    | none =>
      by_cases hopen : d = '\x7b' <;> simp [readSlots, hopen, ih, List.filterMap_cons]
    | some name =>
      by_cases hclosed : d = '\x7d'
      · simp [readSlots, hclosed, ih, List.filterMap_cons]
      · by_cases hopen : d = '\x7b' <;>
          simp [readSlots, hclosed, hopen, ih, List.filterMap_cons]

theorem exists_of_occurs {pattern s : List Char} (h : Text.occurs pattern s = true) :
    ∃ before after, s = before ++ (pattern ++ after) := by
  induction s with
  | nil => exact ⟨[], [], by simpa [Text.occurs] using h⟩
  | cons c rest ih =>
    simp only [Text.occurs, Bool.or_eq_true] at h
    rcases h with h | h
    · obtain ⟨after, hafter⟩ := List.isPrefixOf_iff_prefix.mp h
      exact ⟨[], after, hafter.symm⟩
    · obtain ⟨before, after, rfl⟩ := ih h
      exact ⟨c :: before, after, rfl⟩

theorem mem_placeNames_of_occurs {place : String} (hplace : Braceless place.toList)
    (h : Text.occurs (placeholder place) template = true) : place ∈ placeNames template := by
  obtain ⟨before, after, rfl⟩ := exists_of_occurs h
  rw [placeNames, slotsOf_append_placeholder hplace]
  simp [Slot.name?]

theorem slotsOf_item (start : List Char) :
    placeNames (start ++ itemSegment) = placeNames start ++ ["id"] ∧
      textOf (start ++ itemSegment) = textOf start ++ ['/'] := by
  have hslots : slotsOf (start ++ itemSegment) = slotsOf (start ++ ['/']) ++ [.place "id"] := by
    have hid : Braceless "id".toList := by decide
    have happend := slotsOf_append_placeholder hid (start ++ ['/']) []
    simpa [itemSegment, slotsOf, readSlots] using happend
  obtain ⟨hnames, htext⟩ := readSlots_append_char none (c := '/') (by decide) start
  refine ⟨?_, ?_⟩
  · rw [placeNames, hslots, List.filterMap_append]
    exact congrArg (· ++ ["id"]) hnames
  · rw [textOf, hslots, List.flatMap_append]
    simpa [Slot.text, slotsOf, textOf] using htext

/-! ## Filling -/

theorem braced_of_textOf (h : Braceless (textOf template)) : ∀ s ∈ slotsOf template, s.Braced := by
  intro s hs
  cases s with
  | literal text => exact fun hc => h.1 (List.mem_flatMap.mpr ⟨_, hs, hc⟩)
  | place name => exact braceless_of_place (by simp) hs

/-- In a template whose braces all belong to places, every place takes the id of its name. -/
theorem fillParents_eq_filledBy (h : Braceless (textOf template)) {ids : Dict Json}
    (hids : ∀ entry ∈ ids, Braceless entry.1.toList ∧ entry.2.IsId) :
    fillParents template ids = (slotsOf template).flatMap (Slot.filledBy ids) := by
  have hfill := fillParents_slots hids (braced_of_textOf h)
  rwa [template_slotsOf] at hfill

theorem filledBy_braceless_iff {ids : Dict Json} (hids : ∀ entry ∈ ids, entry.2.IsId)
    (hnames : ∀ name ∈ placeNames template, ∃ id, ids.get? name = some id) :
    Braceless ((slotsOf template).flatMap (Slot.filledBy ids)) ↔ Braceless (textOf template) := by
  have hmem : ∀ c, c = '\x7b' ∨ c = '\x7d' →
      (c ∈ (slotsOf template).flatMap (Slot.filledBy ids) ↔ c ∈ textOf template) := by
    intro c hc
    simp only [textOf, List.mem_flatMap]
    refine exists_congr fun s => and_congr_right fun hs => ?_
    cases s with
    | literal text => rfl
    | place name =>
      obtain ⟨id, hid⟩ := hnames name (List.mem_filterMap.mpr ⟨_, hs, rfl⟩)
      obtain ⟨hopen, hclose⟩ := segment_braceless (hids _ (Dict.mem_of_get? hid))
      rcases hc with rfl | rfl <;> simp [Slot.filledBy, Slot.text, hid, hopen, hclose]
  rw [Braceless, Braceless, hmem _ (.inl rfl), hmem _ (.inr rfl)]

end Endpoint
end CloudClient
