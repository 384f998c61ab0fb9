import ArticleMarkup.Markdown.Html

/-!
# Lines of raw HTML

A text whose lines all belong to blocks of raw HTML passes through markdown as it is: nothing in it
is read as a paragraph, a list or code, and nothing is escaped.

## Main definitions

- `Line.rawStart?` — the raw block that begins with a line
- `rawLines` — all lines belong to raw blocks, and none is blank
- `Blocks.ofLiterals` — blocks of raw HTML
- `RawState`, `RawState.take` — the blocks while lines are read
- `rawHtml` — the HTML that such a text becomes

## Main statements

- `blockStart?_of_mem` — the start tag of a block begins a raw block
- `RawPath.readLine` — one line keeps the open blocks raw
- `blocksOf_of_rawLines` — the blocks of such a text hold its characters
- `htmlOf_document_of_rawLines` — it passes through markdown
-/

namespace ArticleMarkup.Markdown

-- ════════════════════════════════════════════════════════════════════════
-- Lines
-- ════════════════════════════════════════════════════════════════════════

namespace Line

/-- The line behind its blanks. -/
def text (line : Line) : List Char :=
  line.body.dropWhile isSpaceOrTab

/-- The end of the raw block that begins with the line where no block is open. -/
def rawStart? (line : Line) : Option BlockEnd :=
  if blankColumns 0 line.body < codeIndent then blockStart? true line.text else none

end Line

/-- **Lines of raw HTML.** `stop?` is the end of the block that is open in front of them, if one
is. No line is blank, and a line that ends a block in front of another one ends in a line feed. -/
def rawLines (stop? : Option BlockEnd) : List Line → Bool
  | [] => true
  | line :: lines =>
    match stop?.or line.rawStart? with
    | none => false
    | some stop =>
      !line.text.isEmpty &&
        if stop.isMetBy line.text then
          (lines.isEmpty || line.ending.getLast? == some '\n') && rawLines none lines
        else rawLines (some stop) lines

theorem rawLines_cons {stop? : Option BlockEnd} {line : Line} {lines : List Line}
    (h : rawLines stop? (line :: lines) = true) :
    ∃ stop, stop?.or line.rawStart? = some stop ∧ line.text.isEmpty = false ∧
      (stop.isMetBy line.text = true → lines = [] ∨ line.ending.getLast? = some '\n') ∧
      rawLines (if stop.isMetBy line.text then none else some stop) lines = true := by
  unfold rawLines at h
  split at h
  · cases h
  · next stop hstop =>
    simp only [Bool.and_eq_true, Bool.not_eq_true'] at h
    refine ⟨stop, hstop, h.1, ?_⟩
    by_cases hmet : stop.isMetBy line.text = true
    · simpa [hmet] using h.2
    · simpa [hmet] using h.2

/-- A raw block that a blank line ends takes up all lines, if none is blank. -/
theorem rawLines_of_blankLine {stop? : Option BlockEnd} {line : Line} {lines : List Line}
    (hstop : stop?.or line.rawStart? = some .blankLine)
    (h : ∀ l ∈ line :: lines, l.text.isEmpty = false) : rawLines stop? (line :: lines) = true := by
  induction lines generalizing stop? line with
  | nil => simp [rawLines, hstop, h, BlockEnd.isMetBy]
  | cons next lines ih =>
    have hlines := @ih (some .blankLine) next rfl (List.forall_mem_cons.mp h).2
    simp [rawLines, hstop, (List.forall_mem_cons.mp h).1, BlockEnd.isMetBy] at hlines ⊢
    exact hlines

/-- A raw block begins with a `<`. -/
theorem head?_text_of_rawStart? {line : Line} {stop : BlockEnd} (h : line.rawStart? = some stop) :
    ∃ rest, line.text = '<' :: rest := by
  unfold Line.rawStart? at h
  split at h
  · unfold blockStart? at h
    split at h
    · next rest heq => exact ⟨rest, heq⟩
    · cases h
  · cases h

-- ════════════════════════════════════════════════════════════════════════
-- Start tags of blocks
-- ════════════════════════════════════════════════════════════════════════

section Start

open Text (dropStart? dropStartIgnoringCase?)

/-- A start is looked for in front of a character that does not occur in it. -/
theorem dropStartIgnoringCase?_append {start : List Char} {c : Char}
    (h : start.all (·.toLower != c.toLower) = true) (cs rest : List Char) :
    dropStartIgnoringCase? start (cs ++ c :: rest) =
      (dropStartIgnoringCase? start cs).map (· ++ c :: rest) := by
  induction start generalizing cs with
  | nil => simp [dropStartIgnoringCase?]
  | cons p start ih =>
    simp only [List.all_cons, Bool.and_eq_true, bne_iff_ne, ne_eq] at h
    cases cs with
    | nil => simp [dropStartIgnoringCase?, h.1]
    | cons d cs =>
      simp only [List.cons_append, dropStartIgnoringCase?]
      split
      · exact ih h.2 cs
      · rfl

theorem nameBefore_append {names : List String} {ends : Char → Bool} {c : Char}
    (hc : ends c = true)
    (h : names.all (fun name => name.toList.all (·.toLower != c.toLower)) = true)
    (cs rest : List Char) :
    nameBefore names ends (cs ++ c :: rest) = nameBefore names ends cs := by
  unfold nameBefore
  induction names with
  | nil => rfl
  | cons name names ih =>
    simp only [List.all_cons, Bool.and_eq_true] at h
    rw [List.any_cons, List.any_cons, ih h.2, dropStartIgnoringCase?_append h.1]
    cases dropStartIgnoringCase? name.toList cs with
    | none => rfl
    | some behind => cases behind <;> simp [hc]

/-- A name that is found begins a block with nothing else in front. -/
theorem tagNameOf_append {names : List String} {name : String} (h : name ∈ names) {c : Char}
    (hc : c = ' ' ∨ c = '>') (rest : List Char) :
    tagNameOf names (name.toList ++ c :: rest) = true := by
  have hdrop : ∀ cs, dropStartIgnoringCase? cs (cs ++ c :: rest) = some (c :: rest) := by
    intro cs
    induction cs with
    | nil => rfl
    | cons d cs ih => simp [dropStartIgnoringCase?, ih]
  refine List.any_eq_true.mpr ⟨name, h, ?_⟩
  rw [hdrop]
  rcases hc with rfl | rfl <;> rfl

/-- The name of a block is no other beginning of raw HTML. -/
theorem plain_of_mem_blockNames {name : String} (h : name ∈ blockNames) :
    nameBefore unparsedNames (fun c => isSpace c || c == '>') name.toList = false ∧
      name.toList.head?.any (fun d => ['!', '?', '/'].all (·.toLower != d.toLower)) = true := by
  have hall : blockNames.all (fun name =>
      !nameBefore unparsedNames (fun c => isSpace c || c == '>') name.toList &&
        name.toList.head?.any fun d => ['!', '?', '/'].all (·.toLower != d.toLower)) = true := by
    decide
  simpa only [Bool.and_eq_true, Bool.not_eq_true'] using List.all_eq_true.mp hall name h

/-- **The start tag of a block** begins a block of raw HTML that a blank line ends. -/
theorem blockStart?_of_mem {name : String} (h : name ∈ blockNames) {c : Char}
    (hc : c = ' ' ∨ c = '>') (rest : List Char) :
    blockStart? true ('<' :: (name.toList ++ c :: rest)) = some .blankLine := by
  obtain ⟨hunparsed, hhead⟩ := plain_of_mem_blockNames h
  have hnames : nameBefore unparsedNames (fun c => isSpace c || c == '>')
      (name.toList ++ c :: rest) = false := by
    rw [nameBefore_append _ _ name.toList rest, hunparsed]
    · rcases hc with rfl | rfl <;> rfl
    · rcases hc with rfl | rfl <;> decide
  have hblock := tagNameOf_append h hc rest
  cases hcs : name.toList with
  | nil => simp [hcs] at hhead
  | cons d cs =>
    rw [hcs] at hnames hblock hhead
    simp only [List.head?_cons, Option.any_some, List.all_cons, List.all_nil, Bool.and_true,
      Bool.and_eq_true, bne_iff_ne, ne_eq] at hhead
    obtain ⟨hbang, hquestion, hslash⟩ := hhead
    have hd : '!' ≠ d ∧ '?' ≠ d ∧ d ≠ '/' :=
      ⟨mt (congrArg _) hbang, mt (congrArg _) hquestion, mt (fun h => congrArg _ h.symm) hslash⟩
    rw [List.cons_append] at hnames hblock ⊢
    have hdata : dropStartIgnoringCase? "![CDATA[".toList (d :: (cs ++ c :: rest)) = none :=
      if_neg hbang
    have hcomment : dropStart? "!--".toList (d :: (cs ++ c :: rest)) = none := if_neg hd.1
    simp only [blockStart?, hnames, hcomment, hdata, dropStart?, hd.2.1, Option.isSome_none,
      Bool.false_eq_true, if_false]
    split
    · next hdeclaration => exact absurd (List.cons.inj hdeclaration).1.symm hd.1
    · rw [if_neg Bool.false_ne_true]
      split
      · next heq => exact absurd (List.cons.inj heq).1 hd.2.2
      · exact if_pos hblock

end Start

-- ════════════════════════════════════════════════════════════════════════
-- Blocks of raw HTML
-- ════════════════════════════════════════════════════════════════════════

namespace Blocks

variable {α β : Type}

/-- Blocks of raw HTML, one for each text. -/
def ofLiterals : List String → Blocks α
  | [] => nil
  | s :: literals => leaf (.html s) (ofLiterals literals)

@[simp] theorem nil_append (b : Blocks α) : nil ++ b = b := rfl

@[simp] theorem leaf_append (l : LeafBlock α) (rest b : Blocks α) :
    leaf l rest ++ b = leaf l (rest ++ b) := rfl

@[simp] theorem container_append (k : Container) (cs rest b : Blocks α) :
    container k cs rest ++ b = container k cs (rest ++ b) := rfl

@[simp] theorem append_nil (a : Blocks α) : a ++ nil = a := by
  induction a with
  | nil => rfl
  | leaf l rest ih => simp [ih]
  | container k cs rest _ ih => simp [ih]

theorem append_assoc (a b c : Blocks α) : a ++ b ++ c = a ++ (b ++ c) := by
  induction a with
  | nil => rfl
  | leaf l rest ih => simp [ih]
  | container k cs rest _ ih => simp [ih]

theorem ofLiterals_append (a b : List String) :
    (ofLiterals (a ++ b) : Blocks α) = ofLiterals a ++ ofLiterals b := by
  induction a with
  | nil => rfl
  | cons s a ih => simp [ofLiterals, ih]

@[simp] theorem map_ofLiterals (f : α → β) (literals : List String) :
    (ofLiterals literals).map f = ofLiterals literals := by
  induction literals with
  | nil => rfl
  | cons s literals ih => simp [ofLiterals, map, LeafBlock.map, ih]

end Blocks

/-- A block that is closed comes behind those that were closed before. -/
theorem OpenBlock.content_take (b : OpenBlock) (c : ClosedBlock) :
    (b.take (some c)).content = b.content ++ c.block := by
  have hfold : ∀ (closed : List ClosedBlock) (rest : RawBlocks),
      closed.foldl (fun rest c => c.block ++ rest) rest =
        closed.foldl (fun rest c => c.block ++ rest) .nil ++ rest := by
    intro closed
    induction closed with
    | nil => intro rest; rfl
    | cons c closed ih =>
      intro rest
      rw [List.foldl_cons, List.foldl_cons, ih, ih (c.block ++ .nil), Blocks.append_assoc,
        Blocks.append_nil]
  unfold OpenBlock.take OpenBlock.content
  simp only [List.foldl_cons, Blocks.append_nil]
  exact hfold b.closed c.block

-- ════════════════════════════════════════════════════════════════════════
-- Reading lines
-- ════════════════════════════════════════════════════════════════════════

/-- **Raw HTML that has been read.** -/
structure RawState where
  /-- The texts of the blocks that are closed. -/
  literals : List String
  /-- The end of the block that is open, if one is. -/
  stop? : Option BlockEnd
  /-- The characters of the open block. -/
  text : List Char

namespace RawState

/-- Put a line into the open block or into a new one, and close the block if the line ends it. -/
def take (s : RawState) (stop : BlockEnd) (line : Line) : RawState :=
  if stop.isMetBy line.text then ⟨s.literals ++ [String.ofList (s.text ++ line.chars)], none, []⟩
  else ⟨s.literals, some stop, s.text ++ line.chars⟩

/-- The texts of the blocks at the end of the input. -/
def blocks (s : RawState) : List String :=
  s.literals ++ (s.stop?.map fun _ => String.ofList s.text).toList

/-- All characters that have been read. -/
def chars (s : RawState) : List Char :=
  (s.literals.map String.toList).flatten ++ s.text

variable (s : RawState) (stop : BlockEnd) (line : Line)

theorem stop?_take :
    (s.take stop line).stop? = if stop.isMetBy line.text then none else some stop := by
  unfold take
  split <;> rfl

theorem blocks_take :
    (s.take stop line).blocks = s.literals ++ [String.ofList (s.text ++ line.chars)] := by
  unfold take
  split <;> simp [blocks]

@[simp] theorem chars_take : (s.take stop line).chars = s.chars ++ line.chars := by
  unfold take
  split <;> simp [chars]

end RawState

/-- **Open blocks between lines of raw HTML.** The document is open and holds the blocks that are
closed; inside it another block may be open. -/
inductive RawPath : RawState → Path → Prop where
  /-- No raw block is open. -/
  | closed {literals : List String} {doc : OpenBlock} : doc.kind = .document →
      doc.content = .ofLiterals literals → RawPath ⟨literals, none, []⟩ ⟨[], [doc]⟩
  /-- A raw block is open. -/
  | «open» {stop : BlockEnd} {literals : List String} {b doc : OpenBlock} :
      b.kind = .html stop → doc.kind = .document → doc.content = .ofLiterals literals →
      RawPath ⟨literals, some stop, b.text⟩ ⟨[], [b, doc]⟩

/-- The raw block that a line begins or continues takes up the line. -/
theorem settle_raw {b doc : OpenBlock} {stop : BlockEnd} {line : Line} {number : Nat}
    {literals : List String} (hb : b.kind = .html stop) (hdoc : doc.kind = .document)
    (hcontent : doc.content = .ofLiterals literals) (hblank : line.text.isEmpty = false) :
    RawPath (RawState.take ⟨literals, some stop, b.text⟩ stop line)
      ((Place.mk ⟨[], [b, doc]⟩ 0 ⟨0, 0, line.body⟩ false).settle line number) := by
  have htext : (⟨0, 0, line.body⟩ : Cursor).text = line.text := rfl
  have hnote : (Place.mk ⟨[], [b, doc]⟩ 0 ⟨0, 0, line.body⟩ false).noteBlank number =
      ⟨⟨[], [{ b with lastBlank := false }, { doc with lastBlank := false }]⟩, 0,
        ⟨0, 0, line.body⟩, false⟩ := by
    simp [Place.noteBlank, Cursor.isBlank, htext, hblank, Path.modify]
  have hkind : (Place.mk ⟨[], [{ b with lastBlank := false }, { doc with lastBlank := false }]⟩ 0
      ⟨0, 0, line.body⟩ false).kind = .html stop := by
    simp [Place.kind, Place.block?, hb]
  have hrest : (⟨0, 0, line.body⟩ : Cursor).content ++ line.ending = line.chars := by
    simp [Cursor.content, Line.chars]
  have hadd : ∀ flag, ({ b with lastBlank := flag, pieces := line.chars :: b.pieces } :
      OpenBlock).text = b.text ++ line.chars := by
    intro flag
    simp [OpenBlock.text]
  have hsettle : (Place.mk ⟨[], [b, doc]⟩ 0 ⟨0, 0, line.body⟩ false).settle line number =
      if stop.isMetBy line.text then
        Path.closeTop ⟨[], [{ b with lastBlank := false, pieces := line.chars :: b.pieces },
          { doc with lastBlank := false }]⟩
      else ⟨[], [{ b with lastBlank := false, pieces := line.chars :: b.pieces },
        { doc with lastBlank := false }]⟩ := by
    unfold Place.settle
    simp only [hnote, Path.closeMany, hkind, Nat.lt_irrefl, decide_false, Bool.false_and,
      Bool.false_eq_true, if_false]
    simp only [Place.addText, Path.modify, List.modify_zero_cons, OpenBlock.addText, hrest, htext]
  rw [hsettle, RawState.take]
  split
  · have hclose : OpenBlock.close []
        { b with lastBlank := false, pieces := line.chars :: b.pieces } =
        ([], some ⟨.leaf (.html (String.ofList (b.text ++ line.chars))) .nil, false, false⟩) := by
      unfold OpenBlock.close
      simp only [hb]
      simp [OpenBlock.text]
    unfold Path.closeTop
    simp only [hclose]
    refine .closed hdoc ?_
    rw [OpenBlock.content_take, Blocks.ofLiterals_append]
    exact congrArg (· ++ _) hcontent
  · rw [← hadd false]
    exact .open hb hdoc hcontent

/-- Every line goes on in the document. -/
theorem continuedBy_document {doc : OpenBlock} (h : doc.kind = .document) (holds : Bool)
    (line : Line) (c : Cursor) : doc.continuedBy holds line c = .goesOn c := by
  simp [OpenBlock.continuedBy, h]

/-- A line that begins a raw block begins nothing else. -/
theorem start?_raw {doc : OpenBlock} (hdoc : doc.kind = .document) {line : Line} {stop : BlockEnd}
    (h : line.rawStart? = some stop) (number starts : Nat) :
    (Place.mk ⟨[], [doc]⟩ 0 ⟨0, 0, line.body⟩ false).start? line number starts false =
      some (Place.mk ⟨[], [⟨.html stop, number, [], [], false⟩, doc]⟩ 0 ⟨0, 0, line.body⟩
        false) := by
  obtain ⟨rest, hlt⟩ := head?_text_of_rawStart? h
  unfold Line.rawStart? at h
  split at h
  case isFalse => cases h
  case isTrue hindent =>
    have htext : (⟨0, 0, line.body⟩ : Cursor).text = '<' :: rest := hlt
    have hcolumns : ¬(⟨0, 0, line.body⟩ : Cursor).indent ≥ codeIndent := by
      simpa [Cursor.indent] using hindent
    rw [hlt] at h
    have hhtml : (Place.mk ⟨[], [doc]⟩ 0 ⟨0, 0, line.body⟩ false).html? number =
        some (Place.mk ⟨[], [⟨.html stop, number, [], [], false⟩, doc]⟩ 0 ⟨0, 0, line.body⟩
          false) := by
      have hkind : (Place.mk ⟨[], [doc]⟩ 0 ⟨0, 0, line.body⟩ false).kind = .document := by
        simp [Place.kind, Place.block?, hdoc]
      simp [Place.html?, hkind, OpenKind.isParagraph, htext, h, Place.begin, Path.closeMany,
        Path.push, Path.closeUntilHolds, Path.holds, hdoc, OpenKind.holds, OpenKind.isItem]
    have hquote : (Place.mk ⟨[], [doc]⟩ 0 ⟨0, 0, line.body⟩ false).quote? number = none := by
      simp [Place.quote?, htext]
    have hheading : (Place.mk ⟨[], [doc]⟩ 0 ⟨0, 0, line.body⟩ false).heading? number = none := by
      simp [Place.heading?, htext]
    have hfence : (Place.mk ⟨[], [doc]⟩ 0 ⟨0, 0, line.body⟩ false).fence? number = none := by
      simp [Place.fence?, htext]
    unfold Place.start?
    rw [if_neg hcolumns, hquote, hheading, hfence, hhtml]
    rfl

/-- **One line of raw HTML** is taken up by the raw block that is open or by one that it begins. -/
theorem RawPath.readLine {s : RawState} {path : Path} (h : RawPath s path) {line : Line}
    {stop : BlockEnd} (hstop : s.stop?.or line.rawStart? = some stop)
    (hblank : line.text.isEmpty = false) (number : Nat) :
    RawPath (s.take stop line) (path.readLine number line) := by
  have htext : (⟨0, 0, line.body⟩ : Cursor).text = line.text := rfl
  cases h with
  | @closed literals doc hdoc hcontent =>
    rw [Option.none_or] at hstop
    have hmatch : matchBlocks line false [doc] = ⟨0, ⟨0, 0, line.body⟩, false⟩ := by
      simp [matchBlocks, continuedBy_document hdoc]
    have hkind : (Place.mk ⟨[], [doc]⟩ 0 ⟨0, 0, line.body⟩ false).kind = .document := by
      simp [Place.kind, Place.block?, hdoc]
    have hkind' : (Place.mk ⟨[], [⟨.html stop, number, [], [], false⟩, doc]⟩ 0 ⟨0, 0, line.body⟩
        false).kind = .html stop := rfl
    have hread : Path.readLine ⟨[], [doc]⟩ number line =
        (Place.mk ⟨[], [⟨.html stop, number, [], [], false⟩, doc]⟩ 0 ⟨0, 0, line.body⟩
          false).settle line number := by
      unfold Path.readLine
      simp only [hmatch, Bool.false_eq_true, if_false]
      have hlazy : ([doc] : List OpenBlock).head?.any (·.kind.isParagraph) = false := by
        simp [hdoc, OpenKind.isParagraph]
      rw [hlazy, Place.startAll, hkind]
      simp only [OpenKind.isVerbatim, Bool.false_eq_true, if_false, start?_raw hdoc hstop, hkind',
        OpenKind.takesLines, Bool.or_self]
      rw [Place.startAll, hkind']
      rfl
    rw [hread]
    exact @settle_raw ⟨.html stop, number, [], [], false⟩ doc stop line number _ rfl hdoc hcontent
      hblank
  | @«open» stop literals b doc hb hdoc hcontent =>
    simp only [Option.some_or, Option.some.injEq] at hstop
    subst hstop
    have hcont : ∀ holds,
        b.continuedBy holds line ⟨0, 0, line.body⟩ = .goesOn ⟨0, 0, line.body⟩ := by
      intro holds
      unfold OpenBlock.continuedBy
      rw [hb]
      cases stop <;> simp [Cursor.isBlank, htext, hblank]
    have hmatch : matchBlocks line false [b, doc] = ⟨0, ⟨0, 0, line.body⟩, false⟩ := by
      simp [matchBlocks, hcont, continuedBy_document hdoc]
    have hkind : (Place.mk ⟨[], [b, doc]⟩ 0 ⟨0, 0, line.body⟩ false).kind = .html stop := by
      simp [Place.kind, Place.block?, hb]
    have hread : Path.readLine ⟨[], [b, doc]⟩ number line =
        (Place.mk ⟨[], [b, doc]⟩ 0 ⟨0, 0, line.body⟩ false).settle line number := by
      unfold Path.readLine
      simp only [hmatch, Bool.false_eq_true, if_false]
      rw [Place.startAll, hkind]
      rfl
    rw [hread]
    exact settle_raw hb hdoc hcontent hblank

-- ════════════════════════════════════════════════════════════════════════
-- Whole texts
-- ════════════════════════════════════════════════════════════════════════

/-- The text ends in a line feed. -/
def EndsLine (s : String) : Prop :=
  s.toList.getLast? = some '\n'

/-- **The texts of raw blocks** with the given characters: all but the last one end their lines. -/
structure Literals (literals : List String) (chars : List Char) : Prop where
  /-- Together they hold the characters. -/
  flatten : (literals.map String.toList).flatten = chars
  /-- All but the last one end in a line feed. -/
  ended : ∀ s ∈ literals.dropLast, EndsLine s

/-- A character as it is read: the null character is replaced. -/
def readChar (c : Char) : Char :=
  if c = '\x00' then '\ufffd' else c

/-- No other character is lost between the lines. -/
theorem flatten_linesFrom (body cs : List Char) :
    ((linesFrom body cs).map Line.chars).flatten = body.reverse ++ cs.map readChar := by
  fun_induction linesFrom body cs with
  | case1 body hbody => simp [List.isEmpty_iff.mp hbody]
  | case2 body hbody => simp [Line.chars]
  | case3 body cs ih => simp [Line.chars, ih, readChar]
  | case4 body cs _ ih => simp [Line.chars, ih, readChar]
  | case5 body cs ih => simp [Line.chars, ih, readChar]
  | case6 body c cs _ _ _ ih => simp [ih, readChar]

/-- The blocks that are left at the end of a text. -/
theorem RawPath.finish {s : RawState} {path : Path} (h : RawPath s path) :
    path.finish = ([], .ofLiterals s.blocks) := by
  cases h with
  | closed hdoc hcontent =>
    simp [Path.finish, Path.closeMany, Path.closeTop, hcontent, RawState.blocks]
  | @«open» stop literals b doc hb hdoc hcontent =>
    have hclose : OpenBlock.close [] b =
        ([], some ⟨.leaf (.html (String.ofList b.text)) .nil, b.lastBlank, false⟩) := by
      unfold OpenBlock.close
      simp only [hb]
    have htake := doc.content_take
      ⟨.leaf (.html (String.ofList b.text)) .nil, b.lastBlank, false⟩
    simp only [Path.finish, List.length_cons, List.length_nil, Path.closeMany, Path.closeTop,
      hclose, List.head?_cons, Option.map_some, Option.getD_some]
    rw [htake, hcontent]
    simp [RawState.blocks, Blocks.ofLiterals_append, Blocks.ofLiterals]

/-- A line that ends a block in front of another one ends that block's text. -/
theorem endsLine_take {s : RawState} {stop : BlockEnd} {line : Line}
    (h : ∀ text ∈ s.literals, EndsLine text)
    (hline : stop.isMetBy line.text = true → line.ending.getLast? = some '\n') :
    ∀ text ∈ (s.take stop line).literals, EndsLine text := by
  unfold RawState.take
  split
  · next hmet =>
    intro text htext
    rcases List.mem_append.mp htext with htext | htext
    · exact h text htext
    · rw [List.mem_singleton.mp htext, EndsLine, String.toList_ofList, Line.chars]
      simp [List.getLast?_append, hline hmet]
  · exact h

/-- **Lines of raw HTML** give raw blocks with the characters of the lines. -/
theorem RawPath.readLines {s : RawState} {path : Path} {lines : List Line} (h : RawPath s path)
    (hraw : rawLines s.stop? lines = true) (hends : ∀ text ∈ s.literals, EndsLine text)
    (number : Nat) :
    ∃ literals, (path.readLines number lines).finish = ([], .ofLiterals literals) ∧
      Literals literals (s.chars ++ (lines.map Line.chars).flatten) := by
  induction lines generalizing s path number with
  | nil =>
    refine ⟨_, h.finish, ?_, ?_⟩
    · cases h <;> simp [RawState.blocks, RawState.chars]
    · intro text htext
      refine hends text ?_
      cases h with
      | closed => exact (List.dropLast_sublist _).subset (by simpa [RawState.blocks] using htext)
      | «open» => simpa [RawState.blocks] using htext
  | cons line rest ih =>
    obtain ⟨stop, hstop, hblank, hended, hrest⟩ := rawLines_cons hraw
    have hpath := h.readLine hstop hblank number
    cases rest with
    | nil =>
      -- the last line may close its block without a line feed
      refine ⟨_, hpath.finish, ?_, ?_⟩
      · simp [RawState.blocks_take, RawState.chars]
      · simpa [RawState.blocks_take] using hends
    | cons next more =>
      have hends' := endsLine_take hends fun hmet => (hended hmet).resolve_left (by simp)
      rw [← s.stop?_take] at hrest
      have hread := ih hpath hrest hends' (number + 1)
      rw [RawState.chars_take, List.append_assoc] at hread
      exact hread

/-- **The blocks of a raw text** hold its characters and nothing else. -/
theorem blocksOf_of_rawLines {cs : List Char}
    (hraw : rawLines none (linesOf ('<' :: cs)) = true) :
    ∃ literals, blocksOf ('<' :: cs) = ([], .ofLiterals literals) ∧
      Literals literals ('<' :: cs.map readChar) := by
  have hlines : linesOf ('<' :: cs) = linesFrom [] ('<' :: cs) := rfl
  have hstart : RawPath ⟨[], none, []⟩ ⟨[], [⟨.document, 0, [], [], false⟩]⟩ := .closed rfl rfl
  obtain ⟨literals, hfinish, hliterals⟩ := hstart.readLines hraw (by simp) 1
  refine ⟨literals, hfinish, ?_⟩
  rw [hlines, flatten_linesFrom] at hliterals
  simpa [readChar, RawState.chars] using hliterals

-- ════════════════════════════════════════════════════════════════════════
-- Documents of raw HTML
-- ════════════════════════════════════════════════════════════════════════

namespace Blocks

@[simp] theorem numberMarks_ofLiterals (m : NoteMarks) (literals : List String) :
    (ofLiterals literals).numberMarks m = (ofLiterals literals, m) := by
  induction literals with
  | nil => rfl
  | cons s literals ih => simp [ofLiterals, numberMarks, LeafBlock.numberMarks, ih]

@[simp] theorem takeNotes_ofLiterals (later : List Note) (literals : List String) :
    (ofLiterals literals).takeNotes later = (ofLiterals literals, later) := by
  induction literals with
  | nil => rfl
  | cons s literals ih => simp [ofLiterals, takeNotes, ih]

/-- Raw HTML has no footnotes. -/
@[simp] theorem placeNotes_ofLiterals (literals : List String) :
    (ofLiterals literals).placeNotes = ofLiterals literals := by
  simp [placeNotes, usedNotes]

@[simp] theorem tickItems_ofLiterals (literals : List String) :
    (ofLiterals literals).tickItems = ofLiterals literals := by
  induction literals with
  | nil => rfl
  | cons s literals ih => simp [ofLiterals, tickItems, ih]

end Blocks

/-- The blocks of raw HTML lie directly in the document. -/
theorem tooDeep?_ofLiterals {limit : Nat} (h : 1 ≤ limit) (literals : List String)
    (todo : List (Nat × Shape)) :
    Shape.tooDeep? limit ((1, (Blocks.ofLiterals literals).shape) :: todo) =
      Shape.tooDeep? limit todo := by
  induction literals generalizing todo with
  | nil => rw [Blocks.ofLiterals, Blocks.shape, Shape.tooDeep?]
  | cons s literals ih =>
    rw [Blocks.ofLiterals, Blocks.shape, LeafBlock.shape, Shape.tooDeep?, if_neg (by omega),
      Shape.tooDeep?, ih]

/-- **A document of raw HTML is flat.** -/
theorem exceedsDepth?_ofLiterals {limit : Nat} (h : 1 ≤ limit) (literals : List String) :
    exceedsDepth? limit (.ofLiterals literals) = none := by
  rw [exceedsDepth?, Shape.tooDeep?, if_neg (by omega), tooDeep?_ofLiterals h, Shape.tooDeep?,
    Shape.tooDeep?]

/-- The characters with a line feed at the end. -/
def endLine (cs : List Char) : List Char :=
  if cs.getLast? = some '\n' then cs else cs ++ ['\n']

/-- A line is ended unless nothing stands on it. -/
theorem freshLine_eq (o : Output) :
    o.freshLine =
      if o.text = "" then o else { o with text := String.ofList (endLine o.text.toList) } := by
  have hends : o.text.endsWith "\n" = true ↔ o.text.toList.getLast? = some '\n' := by
    rw [String.endsWith_eq_endsWith_toSlice, String.Slice.endsWith_string_iff,
      List.getLast?_eq_some_iff]
    simp [List.IsSuffix, eq_comm]
  unfold Output.freshLine endLine
  by_cases hempty : o.text = ""
  · simp [hempty]
  · by_cases hlast : o.text.toList.getLast? = some '\n'
    · simp [hempty, hends.mpr hlast, hlast]
    · have hno : o.text.endsWith "\n" = false := Bool.eq_false_iff.mpr (mt hends.mp hlast)
      simp [hempty, hno, hlast, Output.add, String.ofList_append]

theorem freshLine_of_endsLine {o : Output} (h : o.text = "" ∨ EndsLine o.text) :
    o.freshLine = o := by
  rw [freshLine_eq]
  split
  · rfl
  · next hne =>
    have hend : endLine o.text.toList = o.text.toList := if_pos (h.resolve_left hne)
    rw [hend, String.ofList_toList]

/-- Texts of raw blocks are written one after the other. -/
theorem write_ofLiterals (s : Surroundings) {literals : List String} {o : Output}
    (ho : o.text = "" ∨ EndsLine o.text) (h : ∀ s ∈ literals.dropLast, EndsLine s)
    (hne : o.text.toList ++ (literals.map String.toList).flatten ≠ []) :
    (Blocks.ofLiterals literals).write s o = { o with
      text := String.ofList (endLine (o.text.toList ++ (literals.map String.toList).flatten)) } := by
  induction literals generalizing o with
  | nil =>
    have hend : o.text.toList.getLast? = some '\n' :=
      ho.resolve_left fun h => hne (by simp [h])
    simp [Blocks.ofLiterals, Blocks.write, endLine, hend]
  | cons literal literals ih =>
    simp only [Blocks.ofLiterals, Blocks.write, LeafBlock.write, freshLine_of_endsLine ho]
    cases literals with
    | nil =>
      have htext : (o.add literal).text ≠ "" := by
        intro h
        apply hne
        simpa [Output.add] using congrArg String.toList h
      rw [freshLine_eq, if_neg htext]
      simp [Blocks.ofLiterals, Blocks.write, Output.add]
    | cons next more =>
      have hliteral : EndsLine literal := h literal (by simp)
      have hends : EndsLine (o.add literal).text := by
        rw [EndsLine] at hliteral ⊢
        simp [Output.add, List.getLast?_append, hliteral]
      rw [freshLine_of_endsLine (.inr hends), ih (.inr hends) (fun s hs => h s (by simp [hs]))]
      · simp [Output.add]
      · intro hnil
        apply hne
        simpa [Output.add] using hnil

theorem htmlOf_ofLiterals {literals : List String} {chars : List Char}
    (h : Literals literals chars) (hne : chars ≠ []) :
    htmlOf (.ofLiterals literals) = String.ofList (endLine chars) := by
  have hflat : (({} : Output).text.toList ++ (literals.map String.toList).flatten) = chars := by
    simpa using h.flatten
  have hwrite := @write_ofLiterals {} literals {} (.inl rfl) h.ended (hflat.symm ▸ hne)
  rw [hflat] at hwrite
  simp [htmlOf, hwrite]

/-- The HTML that a text of raw HTML becomes: itself, with a line feed at its end. -/
def rawHtml (source : String) : String :=
  String.ofList (endLine (source.toList.map readChar))

/-- **A text of raw HTML passes through markdown**, and its blocks lie directly in the document. -/
theorem htmlOf_document_of_rawLines {source : String} (hstart : source.toList.head? = some '<')
    (hraw : rawLines none (linesOf source.toList) = true) {limit : Nat} (hlimit : 1 ≤ limit) :
    exceedsDepth? limit (document source) = none ∧ htmlOf (document source) = rawHtml source := by
  obtain ⟨cs, hcs⟩ := List.head?_eq_some_iff.mp hstart
  rw [hcs] at hraw
  obtain ⟨literals, hblocks, hliterals⟩ := blocksOf_of_rawLines hraw
  have hdocument : document source = .ofLiterals literals := by
    unfold document
    simp [hcs, hblocks]
  have hchars : source.toList.map readChar = '<' :: cs.map readChar := by
    rw [hcs]
    rfl
  rw [hdocument, rawHtml, hchars]
  exact ⟨exceedsDepth?_ofLiterals hlimit literals, htmlOf_ofLiterals hliterals (by simp)⟩

end ArticleMarkup.Markdown
