import ArticleMarkup.Html.Fragment
import ArticleMarkup.Proofs.Written.Markup

/-!
# Scanning written markup

What the scanner makes of escaped text, of quoted values and of whole tags, wherever it reads them in
ordinary markup.

## Main definitions

- `Scanner.scan` — the tokens of several characters
- `Scanner.InText` — the scanner stands between tags of ordinary markup
- `Spells` — characters that are read as other characters, through references

## Main statements

- `Scanner.scan_text` — text is read as the characters that it spells
- `Scanner.scan_startTag`, `Scanner.scan_endTag` — a tag is read as one token
-/

namespace ArticleMarkup.Html

namespace Scanner

/-- Take several characters, outside foreign content. -/
def scan (s : Scanner) : List Char → Scanner × List Token
  | [] => (s, [])
  | c :: cs => (((s.step false c).1.scan cs).1, (s.step false c).2 ++ ((s.step false c).1.scan cs).2)

@[simp] theorem scan_nil (s : Scanner) : s.scan [] = (s, []) := rfl

theorem scan_append (s : Scanner) (a b : List Char) :
    s.scan (a ++ b) = (((s.scan a).1.scan b).1, (s.scan a).2 ++ ((s.scan a).1.scan b).2) := by
  induction a generalizing s with
  | nil => rfl
  | cons c a ih => simp only [List.cons_append, scan, ih, List.append_assoc]

/-- A character that completes no token. -/
theorem scan_cons_of_step {s t : Scanner} {c : Char} (h : s.step false c = (t, [])) (cs : List Char) :
    s.scan (c :: cs) = t.scan cs := by
  simp only [scan, h, List.nil_append]

/-- Characters that complete no token. -/
theorem scan_append_of_scan {s t : Scanner} {a : List Char} (h : s.scan a = (t, []))
    (b : List Char) : s.scan (a ++ b) = t.scan b := by
  simp only [scan_append, h, List.nil_append]

/-- **The scanner stands between tags** of ordinary markup. -/
structure InText (s : Scanner) : Prop where
  /-- It reads text. -/
  state : s.state = .text
  /-- Tags and references are looked for. -/
  content : s.content = .markup
  /-- It is in no script. -/
  script : s.script = .outside

theorem InText.step_eq {s : Scanner} (h : s.InText) (c : Char) :
    s.step false c =
      if c = '&' then (s.goTo (.reference none .start), [])
      else if c = '<' then (s.goTo .tagOpen, [])
      else if c = nul then (s, [.null])
      else (s, [.char c]) := by
  have hself : s.goTo .text = s := by
    rw [goTo, ← h.state]
  have hcontent : (s.goTo .text).content = .markup := h.content
  simp only [step, h.state, stepText, hcontent]
  rw [hself]

-- ════════════════════════════════════════════════════════════════════════
-- References
-- ════════════════════════════════════════════════════════════════════════

theorem step_reference (s : Scanner) (within : Option Delimiter) (read : Reference) (c : Char) :
    (s.goTo (.reference within read)).step false c =
      (s.goTo (.reference within read)).stepReference within read c := rfl

/-- The letters and digits of a reference are collected. -/
theorem scan_name (s : Scanner) (within : Option Delimiter) {cs : List Char} (read : List Char)
    (h : cs.all Text.isAsciiAlnum = true) :
    (s.goTo (.reference within (.name read))).scan cs =
      (s.goTo (.reference within (.name (cs.reverse ++ read))), []) := by
  induction cs generalizing read with
  | nil => rfl
  | cons c cs ih =>
    rw [List.all_cons, Bool.and_eq_true] at h
    have hstep : (s.goTo (.reference within (.name read))).step false c =
        (s.goTo (.reference within (.name (c :: read))), []) := by
      rw [step_reference, stepReference, if_pos h.1]
      rfl
    rw [scan_cons_of_step hstep, ih (c :: read) h.2]
    simp

/-- A named reference gives the character that the name stands for. -/
theorem scan_named (s : Scanner) (within : Option Delimiter) {first c : Char} {cs : List Char}
    (hname : (first :: cs).all Text.isAsciiAlnum = true)
    (hread : resolveName within.isSome (first :: cs) (some ';') = ([c], true)) :
    (s.goTo (.reference within .start)).scan (first :: cs ++ [';']) = s.give within [c] := by
  have hfirst : Text.isAsciiAlnum first = true ∧ cs.all Text.isAsciiAlnum = true := by
    rwa [List.all_cons, Bool.and_eq_true] at hname
  have hmark : first ≠ '#' := by
    rintro rfl
    exact absurd hfirst.1 (by decide)
  have hstep : (s.goTo (.reference within .start)).step false first =
      (s.goTo (.reference within (.name [first])), []) := by
    rw [step_reference, stepReference, if_neg hmark, if_pos hfirst.1]
    rfl
  have hlast : (s.goTo (.reference within (.name (cs.reverse ++ [first])))).step false ';' =
      s.give within [c] := by
    have hback : (cs.reverse ++ [first]).reverse = first :: cs := by simp
    rw [step_reference, stepReference, if_neg (by decide), hback, hread]
    cases within <;> rfl
  rw [List.cons_append, scan_cons_of_step hstep,
    scan_append_of_scan (scan_name s within [first] hfirst.2), scan, scan_nil, hlast,
    List.append_nil]

/-- The reference by number for a line feed. -/
theorem scan_lineFeed (s : Scanner) (within : Option Delimiter) :
    (s.goTo (.reference within .start)).scan ['#', '1', '0', ';'] = s.give within ['\n'] := by
  cases within <;> rfl

end Scanner

/-- The references that are written, without the `&`, and what they stand for. -/
def writtenReferences : List (List Char × Char) :=
  [(['a', 'm', 'p', ';'], '&'), (['l', 't', ';'], '<'), (['g', 't', ';'], '>'),
    (['q', 'u', 'o', 't', ';'], '"'), (['n', 'b', 's', 'p', ';'], '\u00a0'),
    (['#', '1', '0', ';'], '\n')]

/-- **The characters spell others**: references stand for one character each, and all others, among
which there is no `stop`, for themselves. -/
inductive Spells (stop : Char) : List Char → List Char → Prop where
  /-- Nothing. -/
  | nil : Spells stop [] []
  /-- A character that stands for itself. -/
  | plain {c : Char} {ink cs : List Char} : c ≠ '&' → c ≠ stop → c ≠ Scanner.nul →
      Spells stop ink cs → Spells stop (c :: ink) (c :: cs)
  /-- A reference. -/
  | reference {name : List Char} {c : Char} {ink cs : List Char} : (name, c) ∈ writtenReferences →
      Spells stop ink cs → Spells stop ('&' :: (name ++ ink)) (c :: cs)

namespace Scanner

/-- What a name stands for does not depend on where it stands. -/
theorem resolveName_written :
    [(['a', 'm', 'p'], '&'), (['l', 't'], '<'), (['g', 't'], '>'), (['q', 'u', 'o', 't'], '"'),
        (['n', 'b', 's', 'p'], '\u00a0')].all (fun entry =>
      resolveName false entry.1 (some ';') == ([entry.2], true) &&
        resolveName true entry.1 (some ';') == ([entry.2], true)) = true := by
  decide

/-- A written reference gives its character. -/
theorem scan_reference (s : Scanner) (within : Option Delimiter) {name : List Char} {c : Char}
    (h : (name, c) ∈ writtenReferences) :
    (s.goTo (.reference within .start)).scan name = s.give within [c] := by
  have hresolve := resolveName_written
  simp only [List.all_cons, List.all_nil, Bool.and_true, Bool.and_eq_true, beq_iff_eq] at hresolve
  obtain ⟨hamp, hlt, hgt, hquot, hnbsp⟩ := hresolve
  have hboth : ∀ {name : List Char} {c : Char},
      resolveName false name (some ';') = ([c], true) ∧
        resolveName true name (some ';') = ([c], true) →
      resolveName within.isSome name (some ';') = ([c], true) := by
    intro name c hboth
    cases within with
    | none => exact hboth.1
    | some delimiter => exact hboth.2
  simp only [writtenReferences, List.mem_cons, Prod.mk.injEq, List.not_mem_nil, or_false] at h
  rcases h with ⟨rfl, rfl⟩ | ⟨rfl, rfl⟩ | ⟨rfl, rfl⟩ | ⟨rfl, rfl⟩ | ⟨rfl, rfl⟩ | ⟨rfl, rfl⟩
  · exact @scan_named s within 'a' _ ['m', 'p'] (by decide) (hboth hamp)
  · exact @scan_named s within 'l' _ ['t'] (by decide) (hboth hlt)
  · exact @scan_named s within 'g' _ ['t'] (by decide) (hboth hgt)
  · exact @scan_named s within 'q' _ ['u', 'o', 't'] (by decide) (hboth hquot)
  · exact @scan_named s within 'n' _ ['b', 's', 'p'] (by decide) (hboth hnbsp)
  · exact scan_lineFeed s within

/-- **Text** is read as the characters that it spells. -/
theorem scan_text {s : Scanner} (hs : s.InText) {ink cs : List Char} (h : Spells '<' ink cs) :
    s.scan ink = (s, chars cs) := by
  induction h with
  | nil => rfl
  | @plain c ink cs hamp hlt hnul _ ih =>
    have hstep := hs.step_eq c
    rw [if_neg hamp, if_neg hlt, if_neg hnul] at hstep
    rw [scan, hstep, ih]
    rfl
  | @reference name c ink cs hname _ ih =>
    have hself : s.goTo .text = s := by
      rw [goTo, ← hs.state]
    have hgive : (s.goTo (.reference none .start)).scan name = (s, [.char c]) := by
      rw [scan_reference s none hname, give, hself]
      rfl
    have hstep := hs.step_eq '&'
    rw [if_pos rfl] at hstep
    rw [scan_cons_of_step hstep, scan_append, hgive, ih]
    rfl

theorem step_attrValue {s : Scanner} {delimiter : Delimiter} (hs : s.state = .attrValue delimiter)
    (c : Char) : s.step false c = s.stepAttrValue delimiter c := by
  rw [step, hs]

/-- The value of an attribute is read as the characters that it spells. -/
theorem scan_value {s : Scanner} (hs : s.state = .attrValue .double) {ink cs : List Char}
    (h : Spells '"' ink cs) : s.scan ink = ({ s with value := cs.reverse ++ s.value }, []) := by
  induction h generalizing s with
  | nil => rfl
  | @plain c ink cs hamp hquote hnul _ ih =>
    have hself : s.goTo (.attrValue .double) = s := by
      rw [goTo, ← hs]
    have hstep : s.step false c = ({ s with value := c :: s.value }, []) := by
      rw [step_attrValue hs, stepAttrValue, hself, if_neg hamp]
      simp only [if_neg hquote, pushValue, valueChar, if_neg hnul]
    rw [scan_cons_of_step hstep, ih (by exact hs)]
    simp
  | @reference name c ink cs hname _ ih =>
    have hstep : s.step false '&' = (s.goTo (.reference (some .double) .start), []) := by
      rw [step_attrValue hs]
      rfl
    have hgive : (s.goTo (.reference (some .double) .start)).scan name =
        ({ s with value := c :: s.value }, []) := by
      rw [scan_reference s (some .double) hname, give, ← hs]
      rfl
    rw [scan_cons_of_step hstep, scan_append_of_scan hgive, ih (by exact hs)]
    simp

-- ════════════════════════════════════════════════════════════════════════
-- Tags
-- ════════════════════════════════════════════════════════════════════════

/-- A letter `a` to `z`. -/
def isSmallLetter (c : Char) : Bool :=
  'a' ≤ c && c ≤ 'z'

/-- A letter `a` to `z`, a digit or a hyphen. -/
def isSmallChar (c : Char) : Bool :=
  isSmallLetter c || ('0' ≤ c && c ≤ '9') || c == '-'

/-- A name of small letters, digits and hyphens that begins with a letter. -/
def IsSmallName (name : String) : Prop :=
  name.toList.head?.any isSmallLetter = true ∧ name.toList.all isSmallChar = true

instance (name : String) : Decidable (IsSmallName name) :=
  inferInstanceAs (Decidable (_ ∧ _))

/-- Such a name has a first letter, and the others are read like it. -/
theorem IsSmallName.exists_cons {name : String} (h : IsSmallName name) :
    ∃ c cs, name.toList = c :: cs ∧ isSmallLetter c = true ∧ cs.all isSmallChar = true := by
  obtain ⟨hfirst, hall⟩ := h
  cases hcs : name.toList with
  | nil => simp [hcs] at hfirst
  | cons c cs =>
    rw [hcs, List.all_cons, Bool.and_eq_true] at hall
    exact ⟨c, cs, rfl, by simpa [hcs] using hfirst, hall.2⟩

/-- Such a character is taken as it is and ends nothing. -/
theorem isSmallChar_plain {c : Char} (h : isSmallChar c = true) :
    c.toLower = c ∧ nameChar c = c ∧ isTagSpace c = false ∧
      c ≠ '/' ∧ c ≠ '=' ∧ c ≠ '>' ∧ c ≠ '!' ∧ c ≠ '?' := by
  have hlower : c.toLower = c := by
    simp only [isSmallChar, isSmallLetter, Bool.or_eq_true, Bool.and_eq_true, decide_eq_true_eq,
      beq_iff_eq] at h
    refine dif_neg fun hupper => ?_
    rcases h with (h | h) | rfl
    · have hle : 'Z'.val < c.val := UInt32.lt_of_lt_of_le (by decide) h.1
      exact absurd hle (UInt32.not_lt.mpr hupper.2)
    · have hlt : c.val < 'A'.val := UInt32.lt_of_le_of_lt h.2 (by decide)
      exact absurd hlt (UInt32.not_lt.mpr hupper.1)
    · exact absurd hupper.1 (by decide)
  have hne : ∀ d : Char, isSmallChar d = false → c ≠ d := by
    rintro d hd rfl
    exact Bool.noConfusion (h.symm.trans hd)
  refine ⟨hlower, ?_, ?_, hne _ (by decide), hne _ (by decide), hne _ (by decide),
    hne _ (by decide), hne _ (by decide)⟩
  · rw [nameChar, if_neg (hne _ (by decide)), hlower]
  · simp [isTagSpace, hne ' ' (by decide), hne '\t' (by decide), hne '\n' (by decide),
      hne '\x0c' (by decide)]

/-- A small letter begins the name of a tag. -/
theorem isSmallLetter_plain {c : Char} (h : isSmallLetter c = true) :
    isSmallChar c = true ∧ Text.isAsciiLetter c = true := by
  have hletter : 'a' ≤ c ∧ c ≤ 'z' := by simpa [isSmallLetter] using h
  exact ⟨by simp [isSmallChar, h], by simp [Text.isAsciiLetter, hletter]⟩

/-- The scanner stands behind the name of a tag or behind a value, and has read these attributes. -/
structure InTag (s : Scanner) (isEnd : Bool) (name : List Char) (attrs : List Attribute) :
    Prop where
  /-- A space or the end of the tag may follow. -/
  state : s.state = .tagName ∨ s.state = .afterAttrValue
  /-- The kind of the tag. -/
  isEnd : s.isEnd = isEnd
  /-- Its name. -/
  name : s.name.reverse = name
  /-- Its attributes, the last one included. -/
  attrs : s.endAttr.attrs.reverse = attrs
  /-- Nothing of a further value has been read. -/
  value : s.endAttr.value = []

/-- The characters of a tag name are collected. -/
theorem scan_tagName {s : Scanner} (hs : s.state = .tagName) {cs : List Char}
    (h : cs.all isSmallChar = true) :
    s.scan cs = ({ s with name := cs.reverse ++ s.name }, []) := by
  induction cs generalizing s with
  | nil => rfl
  | cons c cs ih =>
    rw [List.all_cons, Bool.and_eq_true] at h
    obtain ⟨-, hname, hspace, hslash, -, hgt, -⟩ := isSmallChar_plain h.1
    have hstep : s.step false c = ({ s with name := c :: s.name }, []) := by
      have hrule : s.step false c = s.stepTagName c := by rw [step, hs]
      simp only [hrule, stepTagName, hspace, Bool.false_eq_true, if_false, if_neg hslash, if_neg hgt,
        hname]
    rw [scan_cons_of_step hstep, ih (by exact hs) h.2]
    simp

/-- The characters of an attribute's name are collected. -/
theorem scan_attrName {s : Scanner} (hs : s.state = .attrName) {cs : List Char}
    (h : cs.all isSmallChar = true) :
    s.scan cs = ({ s with attr := cs.reverse ++ s.attr }, []) := by
  induction cs generalizing s with
  | nil => rfl
  | cons c cs ih =>
    rw [List.all_cons, Bool.and_eq_true] at h
    obtain ⟨-, hname, hspace, hslash, heq, hgt, -⟩ := isSmallChar_plain h.1
    have hstep : s.step false c = ({ s with attr := c :: s.attr }, []) := by
      have hrule : s.step false c = s.stepAttrName c := by rw [step, hs]
      simp only [hrule, stepAttrName, hspace, Bool.false_eq_true, if_false, if_neg hslash, if_neg heq,
        if_neg hgt, hname]
    rw [scan_cons_of_step hstep, ih (by exact hs) h.2]
    simp

/-- What stands in front of the name of a tag. -/
def tagFront (isEnd : Bool) : List Char :=
  if isEnd then ['<', '/'] else ['<']

/-- The beginning of a tag, with its name. -/
theorem scan_tagBegin {s : Scanner} (hs : s.InText) (isEnd : Bool) {name : String}
    (hname : IsSmallName name) :
    ∃ t, s.scan (tagFront isEnd ++ name.toList) = (t, []) ∧
      t.InTag isEnd name.toList [] := by
  obtain ⟨c, cs, hcs, hfirst, hall⟩ := hname.exists_cons
  obtain ⟨hsmall, hletter⟩ := isSmallLetter_plain hfirst
  obtain ⟨hlower, -, -, hslash, -, hgt, hbang, hquestion⟩ := isSmallChar_plain hsmall
  have hopen : s.step false '<' = (s.goTo .tagOpen, []) := by
    rw [hs.step_eq, if_neg (by decide), if_pos rfl]
  have hbegin : s.scan (tagFront isEnd ++ [c]) = (s.beginTag isEnd c .tagName, []) := by
    cases isEnd with
    | false =>
      have hstep : (s.goTo .tagOpen).step false c = (s.beginTag false c .tagName, []) := by
        show (s.goTo .tagOpen).stepTagOpen c = _
        rw [stepTagOpen, if_neg hbang, if_neg hslash, if_neg hquestion, if_pos hletter]
        rfl
      simp [tagFront, scan, hopen, hstep]
    | true =>
      have hslash' : (s.goTo .tagOpen).step false '/' = (s.goTo .endTagOpen, []) := rfl
      have hstep : (s.goTo .endTagOpen).step false c = (s.beginTag true c .tagName, []) := by
        show (s.goTo .endTagOpen).stepEndTagOpen c = _
        rw [stepEndTagOpen, if_neg hgt, if_pos hletter]
        rfl
      simp [tagFront, scan, hopen, hslash', hstep]
  have hsplit : tagFront isEnd ++ name.toList = (tagFront isEnd ++ [c]) ++ cs := by
    simp [hcs]
  refine ⟨{ s.beginTag isEnd c .tagName with name := cs.reverse ++ [c.toLower] }, ?_, .inl rfl, rfl,
    ?_, rfl, rfl⟩
  · rw [hsplit, scan_append_of_scan hbegin, scan_tagName rfl hall]
    rfl
  · simp [hlower, hcs]

@[simp] theorem endAttr_name (s : Scanner) : s.endAttr.name = s.name := by
  unfold endAttr
  split <;> rfl

@[simp] theorem endAttr_isEnd (s : Scanner) : s.endAttr.isEnd = s.isEnd := by
  unfold endAttr
  split <;> rfl

/-- An attribute with a new name is put to the others. -/
theorem endAttr_of_fresh {s : Scanner} (hne : s.attr ≠ [])
    (hfresh : String.ofList s.attr.reverse ∉ s.attrs.map (·.name)) :
    s.endAttr.attrs = ⟨String.ofList s.attr.reverse, String.ofList s.value.reverse⟩ :: s.attrs ∧
      s.endAttr.value = [] := by
  have hempty : s.attr.isEmpty = false := by simpa using hne
  have hnew : s.attrs.any (·.name == String.ofList s.attr.reverse) = false := by
    simpa using hfresh
  rw [endAttr, hempty]
  simp only [Bool.false_eq_true, if_false, hnew, and_self]

/-- The characters of an attribute with a value that is written as `ink`. -/
def attrInk (name : String) (ink : List Char) : List Char :=
  ' ' :: (name.toList ++ '=' :: '"' :: (ink ++ ['"']))

/-- **An attribute** is read with the value that is spelled. -/
theorem scan_attribute {s : Scanner} {isEnd : Bool} {tagName : List Char} {attrs : List Attribute}
    (hs : s.InTag isEnd tagName attrs) {name : String} (hname : IsSmallName name)
    (hfresh : name ∉ attrs.map (·.name)) {ink value : List Char} (hink : Spells '"' ink value) :
    ∃ t, s.scan (attrInk name ink) = (t, []) ∧
      t.InTag isEnd tagName (attrs ++ [⟨name, String.ofList value⟩]) := by
  obtain ⟨c, cs, hcs, hfirst, hall⟩ := hname.exists_cons
  obtain ⟨-, hchar, hspace, hslash, -, hgt, -⟩ := isSmallChar_plain (isSmallLetter_plain hfirst).1
  have hbefore : s.step false ' ' = (s.goTo .beforeAttrName, []) := by
    rcases hs.state with hstate | hstate <;> rw [step, hstate] <;> rfl
  have hbegin : (s.goTo .beforeAttrName).step false c =
      ({ s.endAttr with state := .attrName, attr := [c] }, []) := by
    show (s.goTo .beforeAttrName).stepBeforeAttrName c = _
    rw [stepBeforeAttrName, hspace]
    simp only [Bool.false_eq_true, if_false, if_neg hslash, if_neg hgt, beginAttr, hchar]
    unfold goTo endAttr
    split <;> rfl
  have hletters := @scan_attrName { s.endAttr with state := .attrName, attr := [c] } rfl cs hall
  have hquote : ({ s.endAttr with
      state := .attrName, attr := name.toList.reverse } : Scanner).scan ['=', '"'] =
      ({ s.endAttr with state := .attrValue .double, attr := name.toList.reverse }, []) := rfl
  have hvalue := @scan_value { s.endAttr with
    state := .attrValue .double, attr := name.toList.reverse } rfl _ _ hink
  have hlast : ({ s.endAttr with
      state := .attrValue .double, attr := name.toList.reverse, value := value.reverse } :
      Scanner).scan ['"'] = ({ s.endAttr with
        state := .afterAttrValue, attr := name.toList.reverse, value := value.reverse }, []) := rfl
  have hdone := @endAttr_of_fresh { s.endAttr with
    state := .afterAttrValue, attr := name.toList.reverse, value := value.reverse } (by simp [hcs])
    (by simpa [← hs.attrs] using hfresh)
  refine ⟨{ s.endAttr with
    state := .afterAttrValue, attr := name.toList.reverse, value := value.reverse }, ?_, .inr rfl,
    ?_, ?_, ?_, ?_⟩
  · have hink' : attrInk name ink = ' ' :: c :: (cs ++ (['=', '"'] ++ (ink ++ ['"']))) := by
      simp [attrInk, hcs]
    have hreverse : name.toList.reverse = cs.reverse ++ [c] := by
      rw [hcs, List.reverse_cons]
    rw [← hreverse] at hletters
    rw [hs.value, List.append_nil] at hvalue
    rw [hink', scan_cons_of_step hbefore, scan_cons_of_step hbegin, scan_append_of_scan hletters,
      scan_append_of_scan hquote, scan_append_of_scan hvalue, hlast]
  · simpa using hs.isEnd
  · simpa using hs.name
  · rw [hdone.1, List.reverse_cons, hs.attrs]
    simp
  · exact hdone.2

/-- All attributes of a tag, behind those that have been read. -/
theorem scan_attributes {s : Scanner} {tagName : List Char} {before attrs : List Attribute}
    (hs : s.InTag false tagName before) (hnames : ∀ a ∈ attrs, IsSmallName a.name)
    (hnodup : ((before ++ attrs).map (·.name)).Nodup) {ink value : Attribute → List Char}
    (hink : ∀ a ∈ attrs, Spells '"' (ink a) (value a)) :
    ∃ t, s.scan (attrs.flatMap fun a => attrInk a.name (ink a)) = (t, []) ∧
      t.InTag false tagName (before ++ attrs.map fun a => ⟨a.name, String.ofList (value a)⟩) := by
  induction attrs generalizing s before with
  | nil => exact ⟨s, rfl, by simpa using hs⟩
  | cons a attrs ih =>
    rw [List.forall_mem_cons] at hnames hink
    have hfresh : a.name ∉ before.map (·.name) := by
      rw [List.map_append, List.map_cons] at hnodup
      exact fun h => (List.nodup_append.mp hnodup).2.2 _ h _ List.mem_cons_self rfl
    obtain ⟨t, hscan, ht⟩ := scan_attribute hs hnames.1 hfresh hink.1
    obtain ⟨u, hscan', hu⟩ := ih ht hnames.2 (by simpa using hnodup) hink.2
    refine ⟨u, ?_, by simpa using hu⟩
    rw [List.flatMap_cons, scan_append_of_scan hscan, hscan']

/-- The mark at the end of a tag that closes itself. -/
def selfClosingInk (selfClosing : Bool) : List Char :=
  if selfClosing then [' ', '/'] else []

/-- The end of a tag, which may be marked as closing itself. -/
theorem InTag.exists_endTag {s : Scanner} {isEnd : Bool} {name : List Char}
    {attrs : List Attribute} (hs : s.InTag isEnd name attrs) (selfClosing : Bool) :
    ∃ t, s.scan (selfClosingInk selfClosing) = (t, []) ∧
      t.step false '>' = s.endTag selfClosing := by
  cases selfClosing with
  | false =>
    refine ⟨s, rfl, ?_⟩
    rcases hs.state with hstate | hstate <;> rw [step, hstate] <;> rfl
  | true =>
    have hspace : s.step false ' ' = (s.goTo .beforeAttrName, []) := by
      rcases hs.state with hstate | hstate <;> rw [step, hstate] <;> rfl
    have hslash : (s.goTo .beforeAttrName).step false '/' = (s.goTo .selfClosing, []) := rfl
    refine ⟨s.goTo .selfClosing, ?_, ?_⟩
    · simp only [selfClosingInk, if_pos, scan, hspace, hslash, List.append_nil]
    · show (s.goTo .selfClosing).endTag true = s.endTag true
      unfold endTag endAttr
      by_cases hattr : s.attr.isEmpty <;> simp [goTo, hattr]

/-- **A start tag** is read as one token, at its end. Its attributes are written with values that
spell others. -/
theorem scan_startTag {s : Scanner} (hs : s.InText) {tag : Tag} (hname : IsSmallName tag.name)
    (hnames : ∀ a ∈ tag.attrs, IsSmallName a.name) (hnodup : (tag.attrs.map (·.name)).Nodup)
    {ink value : Attribute → List Char} (hink : ∀ a ∈ tag.attrs, Spells '"' (ink a) (value a))
    (selfClosing : Bool) :
    ∃ u t, s.scan ('<' :: (tag.name.toList ++
        ((tag.attrs.flatMap fun a => attrInk a.name (ink a)) ++ selfClosingInk selfClosing))) =
        (u, []) ∧
      u.step false '>' = (t, [.startTag
        ⟨tag.name, tag.attrs.map fun a => ⟨a.name, String.ofList (value a)⟩⟩ selfClosing]) ∧
      t.InText := by
  obtain ⟨t, hbegin, ht⟩ := scan_tagBegin hs false hname
  obtain ⟨u, hscan, hu⟩ := scan_attributes ht hnames hnodup hink
  obtain ⟨v, hclose, hstep⟩ := hu.exists_endTag selfClosing
  refine ⟨v, { u.endAttr with
    state := .text, content := .markup, script := .outside, lastStart := tag.name }, ?_, ?_, rfl, rfl,
    rfl⟩
  · rw [← List.cons_append, show '<' :: tag.name.toList = tagFront false ++ tag.name.toList from rfl,
      scan_append_of_scan hbegin, scan_append_of_scan hscan, hclose]
  · rw [hstep, endTag]
    simp [hu.isEnd, hu.name, hu.attrs]

/-- **An end tag** is read as one token, at its end. -/
theorem scan_endTag {s : Scanner} (hs : s.InText) {name : String} (hname : IsSmallName name) :
    ∃ u t, s.scan ('<' :: '/' :: name.toList) = (u, []) ∧
      u.step false '>' = (t, [.endTag name]) ∧ t.InText := by
  obtain ⟨u, hbegin, hu⟩ := scan_tagBegin hs true hname
  obtain ⟨v, hclose, hstep⟩ := hu.exists_endTag false
  refine ⟨v, { u.endAttr with state := .text, content := .markup, script := .outside },
    hbegin.trans hclose, ?_, rfl, rfl, rfl⟩
  rw [hstep, endTag]
  simp [hu.isEnd, hu.name]

end Scanner

end ArticleMarkup.Html
