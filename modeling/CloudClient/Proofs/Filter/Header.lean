import CloudClient.Proofs.Datetime
import CloudClient.Proofs.Filter.Expression
import CloudClient.Proofs.Json.Reading
import CloudClient.Proofs.Listing.Source
import CloudClient.Proofs.Resource.Reachable

/-!
# Filters in headers

The header of a filter reads back as its wire form. Of the controls that no header may hold, written
JSON leaves one as it is, the delete character. So the pages of a filtered list are asked for with
that header exactly if no text of the wire form holds a delete character; with one, nothing is sent.
-/

namespace CloudClient

/-! ## Characters of written values -/

namespace Exchange

def isHeaderChar (c : Char) : Bool := c = '\t' || !Text.isControl c

theorem isHeaderText_iff {s : String} :
    isHeaderText s = true ↔ ∀ c ∈ s.toList, isHeaderChar c = true :=
  List.all_eq_true

end Exchange

namespace Json
open Exchange (isHeaderChar)

mutual
def strings : Json → List String
  | .str s => [s]
  | .arr items => stringsOfItems items
  | .obj fields => stringsOfFields fields
  | .null | .bool _ | .num _ => []
termination_by structural v => v
def stringsOfItems : List Json → List String
  | [] => []
  | v :: rest => strings v ++ stringsOfItems rest
termination_by structural items => items
def stringsOfFields : List (String × Json) → List String
  | [] => []
  | (key, v) :: rest => key :: (strings v ++ stringsOfFields rest)
termination_by structural fields => fields
end

theorem isHeaderChar_hexLower : ∀ n < 16, isHeaderChar (Text.hexLower n) = true := by decide

theorem isHeaderChar_shortEscape {e c : Char} (h : shortEscape? e = some c) :
    isHeaderChar e = true ∧ c ≠ '\x7f' := by
  unfold shortEscape? at h
  split at h <;> cases h <;> decide

theorem escape_headerChars (c : Char) :
    (∀ d ∈ escape c, isHeaderChar d = true) ↔ c ≠ '\x7f' := by
  rcases escape_cases c with ⟨e, -, hread, hc⟩ | ⟨hcontrol, hc⟩ | ⟨-, -, hplain, hc⟩
  · obtain ⟨he, hne⟩ := isHeaderChar_shortEscape hread
    have hslash : isHeaderChar '\\' = true := rfl
    simp [hc, he, hne, hslash]
  · have hhigh := isHeaderChar_hexLower (c.toNat / 16) (by omega)
    have hlow := isHeaderChar_hexLower (c.toNat % 16) (by omega)
    have hne : c ≠ '\x7f' := by
      rintro rfl
      exact absurd hcontrol (by decide)
    have hslash : isHeaderChar '\\' = true := rfl
    have hu : isHeaderChar 'u' = true := rfl
    have hzero : isHeaderChar '0' = true := rfl
    simp [hc, hhigh, hlow, hne, hslash, hu, hzero]
  · have hchar : isHeaderChar c = true ↔ c ≠ '\x7f' := by
      have hdelete : c = '\x7f' ↔ c.toNat = 0x7f := Char.toNat_inj.symm
      have htab : c ≠ '\t' := by
        rintro rfl
        exact absurd hplain (by decide)
      simp [isHeaderChar, Text.isControl, htab, hdelete, Nat.not_lt.mpr hplain]
    simpa [hc] using hchar

theorem stringText_headerChars (s : String) :
    (∀ d ∈ stringText s, isHeaderChar d = true) ↔ '\x7f' ∉ s.toList := by
  have hquote : isHeaderChar '"' = true := rfl
  have hescaped : (∀ d ∈ s.toList.flatMap escape, isHeaderChar d = true) ↔
      ∀ c ∈ s.toList, c ≠ '\x7f' := by
    simp only [List.mem_flatMap, forall_exists_index, and_imp, ← escape_headerChars]
    exact ⟨fun h c hc d hd => h d c hc hd, fun h d c hc hd => h c hc d hd⟩
  have hnot : (∀ c ∈ s.toList, c ≠ '\x7f') ↔ '\x7f' ∉ s.toList :=
    ⟨fun h hc => h _ hc rfl, fun h c hc he => h (he ▸ hc)⟩
  rw [← hnot, ← hescaped]
  simp [stringText, hquote, or_imp, forall_and]

theorem isHeaderChar_digit {c : Char} (h : c.isDigit = true) : isHeaderChar c = true := by
  obtain ⟨hlow, hhigh⟩ := Text.toNat_of_isDigit h
  have hcontrol : Text.isControl c = false := by
    simp only [Text.isControl, Bool.or_eq_false_iff, decide_eq_false_iff_not, beq_eq_false_iff_ne]
    omega
  simp [isHeaderChar, hcontrol]

theorem number_headerChars (n : Int) : ∀ d ∈ (Number.int n).text, isHeaderChar d = true := by
  have hdigits : ∀ m, ∀ d ∈ Nat.toDigits 10 m, isHeaderChar d = true := fun m d hd =>
    isHeaderChar_digit (Text.isDigit_of_mem_toDigits hd)
  cases n with
  | ofNat n => exact hdigits n
  | negSucc n => exact List.forall_mem_cons.mpr ⟨rfl, hdigits (n + 1)⟩

mutual
theorem text_headerChars : {v : Json} → v.Exact →
    ((∀ d ∈ v.text, isHeaderChar d = true) ↔ ∀ s ∈ v.strings, '\x7f' ∉ s.toList)
  | .null, _ => by simp [text, scalarText, strings]; decide
  | .bool true, _ => by simp [text, scalarText, strings]; decide
  | .bool false, _ => by simp [text, scalarText, strings]; decide
  | .num (.float _), hv => hv.elim
  | .num (.int n), _ => by simpa [text, scalarText, strings] using number_headerChars n
  | .str s, _ => by simpa [text, scalarText, strings] using stringText_headerChars s
  | .arr items, hitems => by
    have hopen : isHeaderChar '[' = true := rfl
    have hclose : isHeaderChar ']' = true := rfl
    rw [strings, ← itemsText_headerChars hitems]
    simp [text, hopen, hclose, or_imp, forall_and]
  | .obj fields, ⟨_, hfields⟩ => by
    have hopen : isHeaderChar '\x7b' = true := rfl
    have hclose : isHeaderChar '\x7d' = true := rfl
    rw [strings, ← fieldsText_headerChars hfields]
    simp [text, hopen, hclose, or_imp, forall_and]
theorem itemsText_headerChars : {items : List Json} → ExactItems items →
    ((∀ d ∈ itemsText items, isHeaderChar d = true) ↔
      ∀ s ∈ stringsOfItems items, '\x7f' ∉ s.toList)
  | [], _ => by simp [itemsText, stringsOfItems]
  | [v], ⟨hv, _⟩ => by simpa [itemsText, restText, stringsOfItems] using text_headerChars hv
  | v :: w :: items, ⟨hv, hitems⟩ => by
    have hcomma : isHeaderChar ',' = true := rfl
    have hrest := itemsText_headerChars hitems
    rw [itemsText, restText_cons, stringsOfItems]
    simp only [List.forall_mem_append, List.forall_mem_cons, hcomma, true_and, hrest,
      text_headerChars hv]
theorem fieldsText_headerChars : {fields : List (String × Json)} → ExactFields fields →
    ((∀ d ∈ fieldsText fields, isHeaderChar d = true) ↔
      ∀ s ∈ stringsOfFields fields, '\x7f' ∉ s.toList)
  | [], _ => by simp [fieldsText, stringsOfFields]
  | [(key, v)], ⟨hv, _⟩ => by
    have hcolon : isHeaderChar ':' = true := rfl
    rw [fieldsText, restFieldsText, stringsOfFields, stringsOfFields, List.append_nil,
      List.append_nil]
    simp only [List.forall_mem_append, List.forall_mem_cons, hcolon, true_and,
      text_headerChars hv, stringText_headerChars]
  | (key, v) :: (name, w) :: fields, ⟨hv, hfields⟩ => by
    have hcolon : isHeaderChar ':' = true := rfl
    have hcomma : isHeaderChar ',' = true := rfl
    have hrest := fieldsText_headerChars hfields
    rw [fieldsText, restFieldsText_cons, stringsOfFields]
    simp only [List.forall_mem_append, List.forall_mem_cons, hcolon, hcomma, true_and,
      text_headerChars hv, stringText_headerChars, hrest]
end

theorem isHeaderText_compact {v : Json} (hv : v.Exact) :
    Exchange.isHeaderText v.compact = true ↔ ∀ s ∈ v.strings, '\x7f' ∉ s.toList := by
  rw [Exchange.isHeaderText_iff, compact, String.toList_ofList, text_headerChars hv]

end Json

/-! ## Wire forms -/

theorem Json.exactFields_iff {fields : List (String × Json)} :
    ExactFields fields ↔ ∀ entry ∈ fields, entry.2.Exact := by
  induction fields with
  | nil => simp [ExactFields]
  | cons entry rest ih => rw [ExactFields, ih, List.forall_mem_cons]

mutual
theorem Clause.exact_toJson : {c : Clause} → (∀ entry ∈ c.comparisons, entry.2.Exact) →
    c.toJson.Exact
  | .compare field condition, h =>
    ⟨List.pairwise_singleton _ _, h (field, condition) (List.mem_singleton_self _), trivial⟩
  | .join _ _, h => ⟨List.pairwise_singleton _ _, exact_membersJson h, trivial⟩
theorem Clause.exact_membersJson : {members : List Clause} →
    (∀ entry ∈ comparisonsIn members, entry.2.Exact) → Json.ExactItems (membersJson members)
  | [], _ => trivial
  | _ :: _, h =>
    ⟨exact_toJson fun entry he => h entry (List.mem_append_left _ he),
      exact_membersJson fun entry he => h entry (List.mem_append_right _ he)⟩
end

namespace Filter
variable {f : Filter}

def ExactObject (fields : Dict Json) : Prop :=
  Dict.Sorted fields ∧ ∀ entry ∈ fields, entry.2.Exact

theorem ExactObject.insert {fields : Dict Json} (h : ExactObject fields) (key : String) {v : Json}
    (hv : v.Exact) : ExactObject (fields.insert key v) := by
  refine ⟨h.1.insert key v, fun entry he => ?_⟩
  rcases Dict.mem_insert he with rfl | he
  · exact hv
  · exact h.2 entry he

theorem exactObject_clauseFields (h : ∀ entry ∈ f.comparisons, entry.2.Exact) :
    ExactObject f.clauseFields := by
  unfold comparisons at h
  unfold clauseFields
  cases hclause : f.clause? with
  | none => exact ⟨List.Pairwise.nil, fun _ he => by cases he⟩
  | some c =>
    rw [hclause] at h
    have hexact := Clause.exact_toJson h
    cases c <;> exact ⟨hexact.1, Json.exactFields_iff.mp hexact.2⟩

theorem exact_toJson (h : ∀ entry ∈ f.comparisons, entry.2.Exact)
    (hlimit : ∀ n, f.limit? = some n → n < UInt64.size) : f.toJson.Exact := by
  have htext : ∀ s, (Json.str s).Exact := fun _ => trivial
  have hordered : ExactObject (withOrder f.order? f.clauseFields) := by
    unfold withOrder
    cases f.order? with
    | none => exact exactObject_clauseFields h
    | some order => exact ((exactObject_clauseFields h).insert _ (htext _)).insert _ (htext _)
  have hlimited : ExactObject (withLimit f.limit? (withOrder f.order? f.clauseFields)) := by
    unfold withLimit
    cases hn : f.limit? with
    | none => exact hordered
    | some n =>
      have hlt := hlimit n hn
      refine hordered.insert _ ⟨by omega, ?_⟩
      simpa using Int.ofNat_lt.mpr hlt
  exact ⟨hlimited.1, Json.exactFields_iff.mpr hlimited.2⟩

/-- No name, key or text of the wire form holds a delete character. -/
def Deliverable (f : Filter) : Prop := ∀ s ∈ f.toJson.strings, '\x7f' ∉ s.toList

theorem isHeaderText_header (h : f.toJson.Exact) :
    Exchange.isHeaderText f.header = true ↔ f.Deliverable := Json.isHeaderText_compact h

end Filter

/-! ## Requests -/

namespace Exchange
variable {r : Request} {w : World}

theorem fault?_withFilter (hfault : fault? r = none) (hnone : r.filter? = none) (header : String) :
    fault? { r with filter? := some header } =
      if isHeaderText header then none else some .unsendable := by
  obtain ⟨hhost, htexts, hhttp⟩ := fault?_eq_none.mp hfault
  rw [hnone, Option.toList_none, List.append_nil] at htexts
  simp only [fault?, hhost, hhttp, List.all_append, htexts]
  cases hheader : isHeaderText header <;> simp [hheader]

end Exchange

namespace Client
variable {c : Client} {path : String} {f : Filter} {page : Nat} {r : Request}

theorem pageRequest_withFilter (h : c.pageRequest path page none = .ok r)
    (hsome : f.isEmpty = false) :
    c.pageRequest path page (some f) = .ok { r with filter? := some f.header } ∧
      r.filter? = none := by
  obtain ⟨url, hurl, rfl⟩ := pageRequest_eq_ok h
  have hheader : filterHeader? (some f) = some f.header := by
    simp [filterHeader?, Option.filter, hsome]
  exact ⟨by rw [pageRequest, hurl, hheader]; rfl, rfl⟩

end Client

/-! ## Lists -/

namespace Listing.Source
variable {o : Source} {f : Filter} {w : World} {page : Nat} {r : Request}

/-- Without a filter, the pages can be asked for. -/
def Open (o : Source) : Prop :=
  ∃ r, o.client.pageRequest o.path 1 none = .ok r ∧ Exchange.fault? r = none

/-- The request for a page, counted from one, carries a text as its filter. It arrives unless the
network loses it. -/
def Asks (o : Source) (page : Nat) (header : String) (w w' : World) : Prop :=
  ∃ r, o.client.pageRequest o.path page o.filter? = .ok r ∧ r.filter? = some header ∧
    (w'.sent = w.sent ++ [r] ∨ w.network w.sent r = .undelivered ∧ w'.sent = w.sent)

theorem fetch_arrives (hr : o.client.pageRequest o.path page o.filter? = .ok r)
    (hfault : Exchange.fault? r = none) (w : World) :
    (Page.fetch o.client o.type o.path o.parent? o.filter? page).Yields w fun _ w' =>
      w'.sent = w.sent ++ [r] ∨ w.network w.sent r = .undelivered ∧ w'.sent = w.sent := by
  refine (Page.fetch_fetched _ _ _ _ _ _ w).mono fun result w' h => ?_
  cases h with
  | unasked h => cases hr.symm.trans h
  | failed hr' h =>
    cases hr.symm.trans hr'
    cases h with
    | withheld h => exact .inr ⟨h.resolve_left (fun h => h hfault), rfl⟩
    | refused => exact .inl rfl
  | answered hr' =>
    cases hr.symm.trans hr'
    exact .inl rfl

theorem fetch_of_fault {fault : TransportError}
    (hr : o.client.pageRequest o.path page o.filter? = .ok r)
    (hfault : Exchange.fault? r = some fault) (w : World) :
    (Page.fetch o.client o.type o.path o.parent? o.filter? page).Yields w fun result w' =>
      result = .error (.transport fault) ∧ w'.sent = w.sent := by
  unfold Page.fetch
  rw [Client.getPage_eq, bind_assoc, hr]
  refine Step.yields_ok_bind.mpr ((Exchange.send_of_fault hfault w).bind ?_ fun _ _ h => ?_)
  · exact fun a t h => by cases h.1
  · exact ⟨by cases h.1; rfl, h.2⟩

theorem opened_fetches (o : Source) (w : World) :
    (opened o.client o.type o.path o.parent? o.filter?).Yields w fun result w' =>
      w'.sent = (Page.fetch o.client o.type o.path o.parent? o.filter? 1 w).2.sent ∧
      ∀ e, (Page.fetch o.client o.type o.path o.parent? o.filter? 1 w).1 = .error e →
        result = .error e := by
  unfold opened
  refine Step.yields_bind.mpr ?_
  unfold Step.Yields
  generalize Page.fetch o.client o.type o.path o.parent? o.filter? 1 w = outcome
  obtain ⟨e | first, w'⟩ := outcome
  · exact ⟨rfl, fun _ h => by cases h; rfl⟩
  · refine ⟨?_, fun _ h => by cases h⟩
    dsimp only [Step.Then]
    split <;> rfl

structure Filtered (o : Source) (f : Filter) : Prop where
  filter : o.filter? = some f
  nonempty : f.isEmpty = false
  exact : f.toJson.Exact
  reachable : o.Open

theorem Filtered.request (h : o.Filtered f) (page : Nat) :
    ∃ r, o.client.pageRequest o.path page o.filter? = .ok r ∧ r.filter? = some f.header ∧
      (f.Deliverable → Exchange.fault? r = none) ∧
      (¬ f.Deliverable → Exchange.fault? r = some .unsendable) := by
  obtain ⟨r, hr, hfault⟩ := h.reachable
  obtain ⟨s, hs, hfault⟩ := Client.pageRequest_sendable hr hfault page
  obtain ⟨hfiltered, hnone⟩ := Client.pageRequest_withFilter hs h.nonempty
  refine ⟨_, h.filter ▸ hfiltered, rfl, fun hdeliverable => ?_, fun hdelete => ?_⟩
  · rw [Exchange.fault?_withFilter hfault hnone, if_pos]
    exact (Filter.isHeaderText_header h.exact).mpr hdeliverable
  · rw [Exchange.fault?_withFilter hfault hnone, if_neg]
    exact fun htext => hdelete ((Filter.isHeaderText_header h.exact).mp htext)

theorem Filtered.fetch_asks (h : o.Filtered f) (hdeliverable : f.Deliverable) (page : Nat)
    (w : World) : (Page.fetch o.client o.type o.path o.parent? o.filter? page).Yields w
      fun _ w' => o.Asks page f.header w w' := by
  obtain ⟨r, hr, hheader, hfault, -⟩ := h.request page
  exact (fetch_arrives hr (hfault hdeliverable) w).mono fun _ _ ha => ⟨r, hr, hheader, ha⟩

/-- Opening the list and fetching its pages later, whatever happened in between, asks for the page
with this text. Every request that was sent carries it. -/
structure Sends (o : Source) (kind header : String) (w : World) : Prop where
  first : (o.client.list kind o.parent? o.filter?).Yields w fun _ w' => o.Asks 1 header w w'
  later : ∀ list w' s, o.client.list kind o.parent? o.filter? w = (.ok list, w') →
    o.Visits (list, w') s → ∀ page,
      (Page.fetch o.client s.1.type s.1.path s.1.parent? s.1.filter? page).Yields s.2
        fun _ w'' => o.Asks page header s.2 w''
  all : ∀ list w' s, o.client.list kind o.parent? o.filter? w = (.ok list, w') →
    o.Visits (list, w') s → ∀ i r, w.sent.length ≤ i → s.2.sent[i]? = some r →
      r.filter? = some header

def Withholds (o : Source) (kind : String) (w : World) : Prop :=
  (o.client.list kind o.parent? o.filter?).Yields w fun result w' =>
    result = .error (.transport .unsendable) ∧ w'.sent = w.sent

section Opening
variable {kind : String}

theorem Filtered.sends (h : o.Filtered f) (hdeliverable : f.Deliverable)
    (htype : o.client.registry.get kind = .ok o.type)
    (hpath : Endpoint.collection o.type o.parent? = .ok o.path) (hnetwork : o.Carries w.network) :
    o.Sends kind f.header w := by
  have hgrown : ∀ list w' s, o.client.list kind o.parent? o.filter? w = (.ok list, w') →
      o.Visits (list, w') s → ∃ first, o.Grown first w.sent.length s := by
    intro list w' s hopened hvisits
    rw [list_eq_opened htype hpath] at hopened
    obtain ⟨-, first, -, -, hgrown⟩ := opened_grown hnetwork hopened
    exact ⟨first, visits_grown hgrown hvisits⟩
  refine ⟨?_, fun list w' s hopened hvisits page => ?_,
    fun list w' s hopened hvisits i r hi hr => ?_⟩
  · rw [list_eq_opened htype hpath]
    obtain ⟨r, hr, hheader, hsent⟩ := h.fetch_asks hdeliverable 1 w
    refine (opened_fetches o w).mono fun _ w' hw' => ⟨r, hr, hheader, ?_⟩
    rwa [hw'.1]
  · obtain ⟨first, hgrown⟩ := hgrown list w' s hopened hvisits
    rw [hgrown.fetch_eq]
    exact h.fetch_asks hdeliverable page s.2
  · obtain ⟨first, hgrown⟩ := hgrown list w' s hopened hvisits
    obtain ⟨page, -, hrequest, -⟩ := hgrown.trace.asked i r hi hr
    obtain ⟨r', hr', hheader, -⟩ := h.request (page + 1)
    cases hrequest.symm.trans hr'
    exact hheader

theorem Filtered.withholds (h : o.Filtered f) (hdelete : ¬ f.Deliverable)
    (htype : o.client.registry.get kind = .ok o.type)
    (hpath : Endpoint.collection o.type o.parent? = .ok o.path) (w : World) :
    o.Withholds kind w := by
  obtain ⟨r, hr, -, -, hfault⟩ := h.request 1
  obtain ⟨hfails, hsent⟩ := fetch_of_fault hr (hfault hdelete) w
  unfold Withholds
  rw [list_eq_opened htype hpath]
  exact (opened_fetches o w).mono fun result w' hw' => ⟨hw'.2 _ hfails, hw'.1.trans hsent⟩

end Opening
end Listing.Source

/-- The header of a filter reads back as its wire form. A list that can be asked for without the
filter is asked for with that header, page by page, exactly if no text of it holds a delete
character, and with one it is not asked for at all. -/
theorem FilterExpression.header_arrives {e : FilterExpression} {f : Filter} (hf : e.filter = .ok f)
    (hnonempty : f.isEmpty = false) (hvalues : ∀ entry ∈ e.comparisons, entry.2.Exact)
    (hlimits : ∀ n ∈ e.limits, n < UInt64.size) :
    (∀ depth, f.toJson.depth ≤ depth →
      Json.readEntriesWithin? depth f.header.toList = some f.toJson) ∧
    (f.toJson.depth ≤ Json.maxDepth → Json.read? f.header = some f.toJson) ∧
    ∀ (o : Listing.Source) (kind : String) (w : World), o.filter? = some f → o.Open →
      o.client.registry.get kind = .ok o.type → Endpoint.collection o.type o.parent? = .ok o.path →
      o.Carries w.network →
        (f.Deliverable → o.Sends kind f.header w) ∧ (¬ f.Deliverable → o.Withholds kind w) := by
  obtain ⟨-, hcomes⟩ := filter_eq_ok_iff.mp hf
  have hexact : f.toJson.Exact := by
    refine Filter.exact_toJson ?_ fun n hn => hlimits n ?_
    · rwa [Filter.comparisons, hcomes.clause, comparisons_clause?]
    · rw [← hcomes.limit, hn]
      exact List.mem_singleton_self n
  have htext : f.header.toList = f.toJson.text := String.toList_ofList
  refine ⟨fun depth hdepth => ?_, Json.read?_compact hexact, ?_⟩
  · rw [htext, Json.readEntriesWithin?_text hexact hdepth]
  · intro o kind w hfilter hopen htype hpath hnetwork
    have hfiltered : o.Filtered f := ⟨hfilter, hnonempty, hexact, hopen⟩
    exact ⟨fun hdeliverable => hfiltered.sends hdeliverable htype hpath hnetwork,
      fun hdelete => hfiltered.withholds hdelete htype hpath w⟩

/-! ## Filtered nodes -/

def nodesUnder (f : Filter) : Listing.Source where
  client := Resource.clientOf .nodeRegistry
  type := Registry.nodeType
  path := "/nodes"
  parent? := none
  filter? := some f
  server := fun _ _ => .ofJson (.obj [("data", .arr [])])

theorem nodesUnder_open (f : Filter) : (nodesUnder f).Open := by
  have hsent : (((Resource.clientOf .nodeRegistry).pageRequest "/nodes" 1 none).toOption.any
      fun r => (Exchange.fault? r).isNone) = true := by decide +kernel
  unfold Listing.Source.Open
  dsimp only [nodesUnder]
  cases hr : (Resource.clientOf .nodeRegistry).pageRequest "/nodes" 1 none with
  | error e =>
    rw [hr] at hsent
    cases hsent
  | ok r =>
    rw [hr] at hsent
    exact ⟨r, rfl, Option.isNone_iff_eq_none.mp hsent⟩

def quoted : Filter where
  clause? := some (.join .any [.compare "naïve \"key\"" (.str "a\\b\n\x01"),
    .compare "label" (.obj [("+neq", .arr [.null, .int (-3), .bool true])])])
  limit? := some 5

theorem quoted_built : (FilterExpression.limit 5 (.join .any
    (.compare ⟨"naïve \"key\"", true⟩ .equal (.str "a\\b\n\x01"))
    (.compare ⟨"label", true⟩ .notEqual (.arr [.null, .int (-3), .bool true])))).filter =
      .ok quoted := rfl

theorem header_arrives_quoted : quoted.Deliverable ∧ Json.read? quoted.header = some quoted.toJson ∧
    (nodesUnder quoted).Sends "node" quoted.header { network := (nodesUnder quoted).server } := by
  have hdeliverable : quoted.Deliverable := by
    unfold Filter.Deliverable
    decide +kernel
  have hdepth : quoted.toJson.depth ≤ Json.maxDepth := by decide +kernel
  have hlist : (Json.arr [.null, .int (-3), .bool true]).Exact :=
    ⟨trivial, ⟨by decide, by decide⟩, trivial, trivial⟩
  have htext : ∀ s, (Json.str s).Exact := fun _ => trivial
  obtain ⟨-, hread, hsends⟩ := FilterExpression.header_arrives quoted_built rfl
    (List.forall_mem_cons.mpr ⟨htext _, List.forall_mem_singleton.mpr
      ⟨List.pairwise_singleton _ _, hlist, trivial⟩⟩) (by decide)
  exact ⟨hdeliverable, hread hdepth, (hsends (nodesUnder quoted) "node" _ rfl (nodesUnder_open _) rfl
    rfl fun _ _ => .inr rfl).1 hdeliverable⟩

def deleteLabel : Filter where
  clause? := some (.compare "label" (.str "\x7f"))

theorem withheld_deleteLabel : ((nodesUnder deleteLabel).client.list "node" none (some deleteLabel)
    { network := (nodesUnder deleteLabel).server }).2.sent.length = 0 := by decide +kernel

/-- A filter whose header cannot be sent. -/
theorem FilterExpression.not_allSent : ¬ ∀ (e : FilterExpression) (f : Filter), e.filter = .ok f →
    f.isEmpty = false → (∀ entry ∈ e.comparisons, entry.2.Exact) →
    (∀ n ∈ e.limits, n < UInt64.size) → ∀ (o : Listing.Source) (kind : String) (w : World),
      o.filter? = some f → o.Open → o.client.registry.get kind = .ok o.type →
      Endpoint.collection o.type o.parent? = .ok o.path → o.Carries w.network →
        o.Sends kind f.header w := by
  intro hall
  have hanswers : ∀ v, Delivery.ofJson v ≠ .undelivered := fun v h => by cases h
  have htext : ∀ s, (Json.str s).Exact := fun _ => trivial
  have hsends := hall (labelIs "\x7f") deleteLabel rfl rfl (List.forall_mem_singleton.mpr (htext _))
    (fun n hn => by cases hn) (nodesUnder deleteLabel) "node"
    { network := (nodesUnder deleteLabel).server } rfl (nodesUnder_open _) rfl rfl
    fun _ _ => .inr rfl
  obtain ⟨r, -, -, hsent | ⟨hlost, -⟩⟩ := hsends.first
  · have hlength := withheld_deleteLabel.symm.trans (congrArg List.length hsent)
    exact absurd hlength (Nat.zero_ne_add_one 0)
  · exact hanswers _ hlost

end CloudClient
