import CloudClient.Config
import CloudClient.Proofs.Json.Reading
import CloudClient.Proofs.Text
import CloudClient.Proofs.Yaml.Entry

/-!
# A saved configuration

A configuration is saved as lines of names and values, and each setting is looked up by its name
when the file is read. Texts come back as the texts that they were, whatever they look like, a token
that looks like nothing included, and numbers as the numbers that they were.
-/

namespace CloudClient

/-! ## Octets -/

namespace Utf8

theorem parts_ascii {c : Char} (h : c.toNat ≤ 0x7F) (rest : List UInt8) :
    parts none (encode c ++ rest) = some c :: parts none rest := by
  have hencode : encode c = [UInt8.ofNat c.toNat] := if_pos h
  have hoctet : (UInt8.ofNat c.toNat).toNat = c.toNat := by
    simp
    omega
  have hstart : start (UInt8.ofNat c.toNat).toNat = .char c := by
    rw [start, hoctet, if_pos h, Char.ofNat_toNat]
  rw [hencode, List.cons_append, List.nil_append, parts, hstart]

theorem decode?_ascii {s : List Char} (h : ∀ c ∈ s, c.toNat ≤ 0x7F) :
    decode? (s.flatMap encode) = some (String.ofList s) := by
  have hparts : parts none (s.flatMap encode) = s.map some := by
    induction s with
    | nil => rfl
    | cons c s ih =>
      obtain ⟨hc, hs⟩ := List.forall_mem_cons.mp h
      rw [List.flatMap_cons, parts_ascii hc, ih hs, List.map_cons]
  have hall : ∀ s : List Char, (s.map some).mapM id = some s := by
    intro s
    induction s with
    | nil => rfl
    | cons c s ih => rw [List.map_cons, List.mapM_cons, ih]; rfl
  rw [decode?, hparts, hall]
  rfl

end Utf8

/-! ## Numbers -/

namespace Yaml
variable {s : List Char} {name : String} {n : Nat}

theorem radixNumber?_eq_none (h : ∀ c ∈ s, c.isDigit = true) : radixNumber? s = none := by
  have hletter : ∀ {c rest}, s = '0' :: c :: rest → c.isDigit = true := fun hs =>
    h _ (hs ▸ List.mem_cons_of_mem _ List.mem_cons_self)
  unfold radixNumber?
  split
  · cases hletter rfl
  · cases hletter rfl
  · cases hletter rfl
  · rfl

theorem hasLeadingZero_toDigits (n : Nat) : hasLeadingZero (Nat.toDigits 10 n) = false := by
  rcases Nat.eq_zero_or_pos n with rfl | hn
  · rfl
  · have hfirst := Text.head?_toDigits_ne hn
    unfold hasLeadingZero
    split
    · rename_i hdigits
      rw [hdigits] at hfirst
      exact absurd rfl hfirst
    · rfl

theorem unsigned?_unsigned (h : s.head? ≠ some '+') (hradix : radixNumber? s = none) :
    unsigned? s = if hasSign s || hasLeadingZero s then none else Text.decimal? s := by
  unfold unsigned?
  split
  · exact absurd rfl h
  · dsimp only
    rw [hradix]

theorem unsigned?_toDigits (n : Nat) : unsigned? (Nat.toDigits 10 n) = some n := by
  have hdigits : ∀ c ∈ Nat.toDigits 10 n, c.isDigit = true := fun _ => Text.isDigit_of_mem_toDigits
  have hhead : ∀ sign : Char, sign.isDigit = false → (Nat.toDigits 10 n).head? ≠ some sign := by
    intro sign hsign hhead
    cases hsign.symm.trans (hdigits sign (List.mem_of_head? hhead))
  have hsign : hasSign (Nat.toDigits 10 n) = false := by
    simp [hasSign, hhead '+' rfl, hhead '-' rfl]
  rw [unsigned?_unsigned (hhead '+' rfl) (radixNumber?_eq_none hdigits), hsign,
    hasLeadingZero_toDigits]
  exact Text.decimal?_eq_some.mpr ⟨Nat.toDigits_ne_nil, hdigits, Text.decimalValue_toDigits n⟩

theorem asNatBelow?_toDigits {bound : Nat} (h : n < bound) :
    asNatBelow? bound (.scalar .plain none (Nat.toDigits 10 n)) = some n := by
  simp [asNatBelow?, unsigned?_toDigits, h]

theorem asOptionalText?_written (s : List Char) :
    asOptionalText? (.scalar (writtenStyle s) none s) = some (some (String.ofList s)) := by
  unfold writtenStyle
  split
  · rename_i hplain
    have htyped : isTyped s = false := by simpa using (Bool.and_eq_true_iff.mp hplain).1
    have hnull : isNull s = false := by
      simp only [isTyped, Bool.or_eq_false_iff] at htyped
      exact htyped.1.1.1
    rw [asOptionalText?, hnull]
    rfl
  · rfl

/-! ## Lines of a file -/

theorem hasInnerIndicator_eq_false {after : Bool} (h : ∀ c ∈ s, c ≠ ':' ∧ c ≠ '#') :
    hasInnerIndicator after s = false := by
  induction s generalizing after with
  | nil => rfl
  | cons c s ih =>
    obtain ⟨hc, hs⟩ := List.forall_mem_cons.mp h
    simp [hasInnerIndicator, hc, ih hs]

theorem words_of_digits (hne : s ≠ []) (h : ∀ c ∈ s, c.isDigit = true) :
    Words s ∧ startsIndicator s = false := by
  have hother : ∀ {d : Char}, d.isDigit = false → ∀ c ∈ s, c ≠ d := by
    rintro d hd c hc rfl
    cases hd.symm.trans (h c hc)
  have hmarks : ∀ c ∈ s, c ≠ ':' ∧ c ≠ '#' := fun c hc => ⟨hother rfl c hc, hother rfl c hc⟩
  refine ⟨⟨fun c hc => Text.isPrintable_of_isDigit (h c hc), hne, fun hfirst => ?_, fun hlast => ?_,
    hasInnerIndicator_eq_false hmarks⟩, ?_⟩
  · exact hother rfl ' ' (List.mem_of_head? hfirst) rfl
  · exact hother rfl ' ' (List.mem_of_getLast? hlast) rfl
  · obtain ⟨c, rest, rfl⟩ := List.exists_cons_of_ne_nil hne
    have hc : ∀ {d : Char}, d.isDigit = false → c ≠ d := fun hd =>
      hother hd c List.mem_cons_self
    simp [startsIndicator, Scan.isIndicator, hc]

def textEntry (name value : String) : Line :=
  ⟨name.toList, writtenStyle value.toList, value.toList, written value.toList⟩

def numberEntry (name : String) (n : Nat) : Line :=
  ⟨name.toList, .plain, Nat.toDigits 10 n, Nat.toDigits 10 n⟩

theorem fits_textEntry {value : String} (hname : IsName name.toList) (hs : Printable value.toList) :
    (textEntry name value).Fits :=
  ⟨hname, form_written hs⟩

theorem fits_numberEntry (hname : IsName name.toList) (n : Nat) : (numberEntry name n).Fits := by
  obtain ⟨hwords, hstart⟩ :=
    words_of_digits Nat.toDigits_ne_nil fun _ => Text.isDigit_of_mem_toDigits (n := n)
  exact ⟨hname, .plain hwords hstart⟩

end Yaml

namespace Config
open Yaml (Line Printable IsName)

theorem textLine_eq {name value : String} (hs : Printable value.toList) :
    textLine name value = (Yaml.textEntry name value).chars := by
  simp [textLine, Yaml.writtenLine_eq hs, Yaml.textEntry, Line.chars]

theorem numberLine_eq (name : String) (n : Nat) :
    numberLine name n = (Yaml.numberEntry name n).chars := by
  simp [numberLine, Yaml.numberEntry, Line.chars]

structure Plain (c : Config) : Prop where
  baseUrl : Printable c.baseUrl.toList
  token : ∀ token, c.token? = some token → Printable token.toList
  userAgent : Printable c.userAgent.toList

def entries (c : Config) : List Line :=
  Yaml.textEntry "base_url" c.baseUrl :: (c.token?.toList.map (Yaml.textEntry "token") ++
    [Yaml.numberEntry "page_size" c.pageSize.toNat,
     Yaml.numberEntry "volatile_refresh_secs" c.refreshSeconds.toNat,
     Yaml.textEntry "user_agent" c.userAgent])

variable {c : Config}

theorem text_eq (h : c.Plain) : c.text = c.entries.flatMap Line.chars := by
  rw [text, textLine_eq h.baseUrl, textLine_eq h.userAgent, numberLine_eq, numberLine_eq]
  cases htoken : c.token? with
  | none => simp [entries, htoken]
  | some token => simp [entries, htoken, textLine_eq (h.token token htoken)]

theorem fits_entries (h : c.Plain) : ∀ l ∈ c.entries, l.Fits := by
  have hname : ∀ name ∈ ["base_url", "token", "page_size", "volatile_refresh_secs", "user_agent"],
      IsName name.toList := by
    have hall : ∀ name ∈ ["base_url", "token", "page_size", "volatile_refresh_secs", "user_agent"],
        name.toList ≠ [] ∧ name.toList.all Yaml.isNameMark = true ∧
          name.toList.length ≤ Yaml.Scan.maxKey := by decide +kernel
    intro name hmem
    obtain ⟨hnonempty, hmarks, hshort⟩ := hall name hmem
    exact ⟨hnonempty, List.all_eq_true.mp hmarks, hshort⟩
  simp only [entries, List.mem_cons, List.mem_append, List.mem_map, Option.mem_toList,
    List.not_mem_nil, or_false]
  rintro l (rfl | ⟨token, htoken, rfl⟩ | rfl | rfl | rfl)
  · exact Yaml.fits_textEntry (hname _ (by decide)) h.baseUrl
  · exact Yaml.fits_textEntry (hname _ (by decide)) (h.token token htoken)
  · exact Yaml.fits_numberEntry (hname _ (by decide)) _
  · exact Yaml.fits_numberEntry (hname _ (by decide)) _
  · exact Yaml.fits_textEntry (hname _ (by decide)) h.userAgent

theorem ofDocument?_entries (c : Config) :
    ofDocument? ⟨.mapping (c.entries.map Line.entry), []⟩ = some c := by
  have hpage : (Yaml.asNatBelow? UInt32.size (.scalar .plain none
      (Nat.toDigits 10 c.pageSize.toNat))).map UInt32.ofNat = some c.pageSize := by
    rw [Yaml.asNatBelow?_toDigits c.pageSize.toNat_lt, Option.map_some, UInt32.ofNat_toNat]
  have hrefresh : (Yaml.asNatBelow? UInt64.size (.scalar .plain none
      (Nat.toDigits 10 c.refreshSeconds.toNat))).map UInt64.ofNat = some c.refreshSeconds := by
    rw [Yaml.asNatBelow?_toDigits c.refreshSeconds.toNat_lt, Option.map_some, UInt64.ofNat_toNat]
  obtain ⟨baseUrl, token?, pageSize, refreshSeconds, userAgent⟩ := c
  cases token? <;>
    simp [ofDocument?, Yaml.Document.settings?, entries, Line.entry, Yaml.Document.node,
      Yaml.asText?, Yaml.setting?, Yaml.valuesOf, Yaml.textEntry, Yaml.numberEntry, hpage, hrefresh,
      Yaml.asOptionalText?_written]

theorem ascii_text (h : c.Plain) : ∀ x ∈ c.text, x.toNat ≤ 0x7F := by
  intro x hx
  rw [text_eq h] at hx
  obtain ⟨l, hl, hx⟩ := List.mem_flatMap.mp hx
  rcases (fits_entries h l hl).mem_chars hx with hprintable | rfl
  · simp only [Text.isPrintable, Bool.and_eq_true, decide_eq_true_eq] at hprintable
    omega
  · decide

theorem validate_ok {url : Url} (hpage : c.pageSize ≠ 0) (hurl : Url.parse c.baseUrl = .ok url) :
    c.validate = .ok () := by
  rw [validate, if_neg hpage, parsedBaseUrl, hurl]
  rfl

/-- A configuration with printable texts that would be accepted is loaded as it was saved. -/
theorem load_save {place : String} {found file : ConfigFile} {url : Url} (hpage : c.pageSize ≠ 0)
    (hurl : Url.parse c.baseUrl = .ok url) (h : c.Plain) (hsave : c.save place found = .ok file) :
    Config.load place file = .ok c := by
  have hfile : file = .octets (c.text.flatMap Utf8.encode) := by
    cases found <;> cases hsave <;> rfl
  have hread : (Yaml.parse? (String.ofList c.text)).bind ofDocument? = some c := by
    rw [text_eq h, entries, Yaml.parse?_lines (fits_entries h)]
    exact ofDocument?_entries c
  rw [hfile, load, Utf8.decode?_ascii (ascii_text h)]
  dsimp only
  rw [hread]
  dsimp only
  rw [validate_ok hpage hurl]
  rfl

/-- A token that looks like nothing, an agent that looks like a comment, and the largest numbers. -/
def awkward : Config where
  baseUrl := "http://mock"
  token? := some "~"
  pageSize := 4294967295
  refreshSeconds := 18446744073709551615
  userAgent := "# it's: 'null'  [x]"

theorem load_save_awkward :
    ∃ file, awkward.save "config.yaml" .absent = .ok file ∧
      Config.load "config.yaml" file = .ok awkward := by
  have hurl : Url.parse awkward.baseUrl = .ok {
      scheme := "http".toList, host? := some (.domain "mock".toList), path := .segments [[]] } := by
    decide +kernel
  have hplain : awkward.Plain := by
    refine ⟨List.all_eq_true.mp (by decide), fun token htoken => ?_,
      List.all_eq_true.mp (by decide)⟩
    cases htoken
    exact List.all_eq_true.mp (by decide)
  exact ⟨_, rfl, @load_save awkward _ .absent _ _ (by decide) hurl hplain rfl⟩

end Config
end CloudClient
