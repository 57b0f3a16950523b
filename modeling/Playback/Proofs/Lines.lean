import Mathlib.Data.List.Infix
import Mathlib.Data.List.TakeWhile
import Playback.Overview
import Playback.Report.Text

namespace Playback

namespace Text

def OnOneLine (text : String) : Prop := '\n' ∉ text.toList

instance (text : String) : Decidable (OnOneLine text) :=
  inferInstanceAs (Decidable ('\n' ∉ text.toList))

/-- What stands before, between and behind the line feeds. -/
def pieces (text : String) : List String := (text.toList.splitOn '\n').map String.ofList

/-- A line ends with a line feed, so that what stands behind the last one is no line. -/
def toLines (text : String) : List String := (pieces text).dropLast

/-- The lines below the first one that is the mark. -/
def below (mark : String) (lines : List String) : List String :=
  (lines.dropWhile fun line => line ≠ mark).tail

/-- Two line feeds stand side by side when one more ends the text. -/
def HasEmptyLine (text : String) : Prop := ['\n', '\n'] <:+: text.toList ++ ['\n']

instance (text : String) : Decidable (HasEmptyLine text) :=
  inferInstanceAs (Decidable (['\n', '\n'] <:+: text.toList ++ ['\n']))

section Letters

variable {letters line front back : List Char} {letter : Char}

theorem splitOn_feed_cons (letters : List Char) :
    ('\n' :: letters).splitOn '\n' = [] :: letters.splitOn '\n' :=
  List.splitOn_append_cons_self [] letters

theorem splitOn_cons_of_ne (letters : List Char) (other : letter ≠ '\n') :
    ∃ first others, letters.splitOn '\n' = first :: others ∧
      (letter :: letters).splitOn '\n' = (letter :: first) :: others := by
  obtain ⟨first, others, split⟩ := List.exists_cons_of_ne_nil (List.splitOn_ne_nil '\n' letters)
  refine ⟨first, others, split, ?_⟩
  rw [List.splitOn_cons_eq_if_modifyHead, if_neg (by simpa using other), split,
    List.modifyHead_cons]

theorem feed_not_mem_of_mem_splitOn (member : line ∈ letters.splitOn '\n') : '\n' ∉ line := by
  induction letters generalizing line with
  | nil =>
      rw [List.splitOn_nil, List.mem_singleton] at member
      exact member ▸ List.not_mem_nil
  | cons letter letters inductionHypothesis =>
      by_cases feed : letter = '\n'
      · rw [feed, splitOn_feed_cons, List.mem_cons] at member
        rcases member with rfl | member
        · exact List.not_mem_nil
        · exact inductionHypothesis member
      · obtain ⟨first, others, split, told⟩ := splitOn_cons_of_ne letters feed
        rw [split] at inductionHypothesis
        rw [told, List.mem_cons] at member
        rcases member with rfl | member
        · rw [List.mem_cons, not_or]
          exact ⟨Ne.symm feed, inductionHypothesis List.mem_cons_self⟩
        · exact inductionHypothesis (List.mem_cons_of_mem first member)

/-- With a line feed in front of each, the pieces are the whole text again. -/
theorem flatMap_splitOn (letters : List Char) :
    (letters.splitOn '\n').flatMap (List.cons '\n') = '\n' :: letters := by
  induction letters with
  | nil => rfl
  | cons letter letters inductionHypothesis =>
      by_cases feed : letter = '\n'
      · rw [feed, splitOn_feed_cons, List.flatMap_cons, inductionHypothesis, List.singleton_append]
      · obtain ⟨first, others, split, told⟩ := splitOn_cons_of_ne letters feed
        rw [split, List.flatMap_cons, List.cons_append] at inductionHypothesis
        rw [told, List.flatMap_cons, List.cons_append, List.cons_append,
          List.tail_eq_of_cons_eq inductionHypothesis]

/-- A piece is what stands between two line feeds, when one more is put on either side. -/
theorem mem_splitOn_iff :
    line ∈ letters.splitOn '\n' ↔
      '\n' ∉ line ∧ '\n' :: (line ++ ['\n']) <:+: '\n' :: (letters ++ ['\n']) := by
  constructor
  · intro member
    refine ⟨feed_not_mem_of_mem_splitOn member, ?_⟩
    obtain ⟨front, back, split⟩ := List.append_of_mem member
    have whole := flatMap_splitOn letters
    rw [split, List.flatMap_append, List.flatMap_cons, List.cons_append] at whole
    -- The feed behind the piece is the next one's, or the one that is put behind the last.
    obtain ⟨rest, behind⟩ : ∃ rest,
        back.flatMap (List.cons '\n') ++ ['\n'] = '\n' :: rest := by
      cases back with
      | nil => exact ⟨[], rfl⟩
      | cons next back => exact ⟨_, rfl⟩
    refine ⟨front.flatMap (List.cons '\n'), rest, ?_⟩
    calc front.flatMap (List.cons '\n') ++ '\n' :: (line ++ ['\n']) ++ rest
        = front.flatMap (List.cons '\n') ++ '\n' :: (line ++ '\n' :: rest) := by simp
      _ = front.flatMap (List.cons '\n') ++ '\n' :: (line ++ back.flatMap (List.cons '\n')) ++
            ['\n'] := by rw [← behind]; simp
      _ = '\n' :: (letters ++ ['\n']) := by rw [whole, List.cons_append]
  · rintro ⟨plain, before, behind, whole⟩
    have split := congrArg (List.splitOn '\n') whole
    have inner : before ++ '\n' :: (line ++ ['\n']) ++ behind =
        before ++ '\n' :: (line ++ '\n' :: behind) := by
      simp
    rw [inner, List.splitOn_append_cons_self, List.splitOn_append_cons_self_of_not_mem plain,
      splitOn_feed_cons, List.splitOn_append_cons_self, List.splitOn_nil] at split
    -- The first and the last piece are the empty ones outside the text.
    obtain ⟨first, others, ahead⟩ := List.exists_cons_of_ne_nil (List.splitOn_ne_nil '\n' before)
    obtain ⟨initial, last, after⟩ := (List.eq_nil_or_concat'
      (List.splitOn '\n' behind)).resolve_left (List.splitOn_ne_nil '\n' behind)
    rw [ahead, after, List.cons_append] at split
    have inside := List.tail_eq_of_cons_eq split
    rw [← List.cons_append, ← List.append_assoc] at inside
    rw [← List.append_inj_left' inside rfl]
    simp

/-- What starts with a line feed is not begun before the first one. -/
theorem feed_infix_append_iff (plain : '\n' ∉ front) :
    '\n' :: line <:+: front ++ back ↔ '\n' :: line <:+: back := by
  induction front with
  | nil => rw [List.nil_append]
  | cons letter front inductionHypothesis =>
      obtain ⟨other, plain⟩ := not_or.mp (List.mem_cons.not.mp plain)
      rw [List.cons_append, List.infix_cons_iff, List.cons_prefix_cons, inductionHypothesis plain]
      exact or_iff_right fun first => other first.1

/-- What ends with a line feed is not ended behind the last one. -/
theorem infix_append_feed_iff (plain : '\n' ∉ back) :
    line ++ ['\n'] <:+: front ++ back ↔ line ++ ['\n'] <:+: front := by
  rw [← List.reverse_infix, List.reverse_concat, List.reverse_append,
    feed_infix_append_iff (by rwa [List.mem_reverse]), ← List.reverse_concat, List.reverse_infix]

end Letters

section Lines

variable {text line mark : String} {lines front rest : List String}

@[simp] theorem onOneLine_append {left right : String} :
    OnOneLine (left ++ right) ↔ OnOneLine left ∧ OnOneLine right := by
  rw [OnOneLine, String.toList_append, List.mem_append, not_or, OnOneLine, OnOneLine]

@[simp] theorem onOneLine_repr (number : Nat) : OnOneLine number.repr := by
  have digits : number.repr.toList = Nat.toDigits 10 number := String.toList_ofList
  rw [OnOneLine, digits]
  intro member
  have digit := Nat.isDigit_of_mem_toDigits (by decide) (by decide) member
  contradiction

@[simp] theorem onOneLine_blanks (count : Nat) : OnOneLine (blanks count) := by
  rw [OnOneLine, blanks, String.toList_ofList]
  exact fun member => absurd (List.eq_of_mem_replicate member) (by decide)

@[simp] theorem onOneLine_alignLeft {width : Nat} :
    OnOneLine (alignLeft width text) ↔ OnOneLine text := by
  rw [alignLeft, onOneLine_append, and_iff_left (onOneLine_blanks _)]

@[simp] theorem onOneLine_alignRight {width : Nat} :
    OnOneLine (alignRight width text) ↔ OnOneLine text := by
  rw [alignRight, onOneLine_append, and_iff_right (onOneLine_blanks _)]

theorem pieces_ne_nil (text : String) : pieces text ≠ [] := by
  rw [pieces, Ne, List.map_eq_nil_iff]
  exact List.splitOn_ne_nil '\n' text.toList

theorem mem_pieces_iff :
    line ∈ pieces text ↔
      OnOneLine line ∧ '\n' :: (line.toList ++ ['\n']) <:+: '\n' :: (text.toList ++ ['\n']) := by
  rw [OnOneLine, ← mem_splitOn_iff, pieces, List.mem_map]
  constructor
  · rintro ⟨letters, member, rfl⟩
    rwa [String.toList_ofList]
  · exact fun member => ⟨line.toList, member, String.ofList_toList⟩

theorem pieces_of_onOneLine (plain : OnOneLine text) : pieces text = [text] := by
  rw [pieces, List.splitOn_eq_singleton plain, List.map_singleton, String.ofList_toList]

theorem toLines_ofLines (lines : List String) : toLines (ofLines lines) = lines.flatMap pieces := by
  have inside : pieces (ofLines lines) = lines.flatMap pieces ++ [""] := by
    induction lines with
    | nil => rfl
    | cons line lines inductionHypothesis =>
        have feed : "\n".toList = ['\n'] := rfl
        rw [pieces] at inductionHypothesis
        rw [pieces, ofLines, List.map_cons, String.join_cons, String.toList_append,
          String.toList_append, feed, List.append_assoc, List.singleton_append,
          List.splitOn_append_cons_self, List.map_append, ← ofLines, inductionHypothesis,
          List.flatMap_cons, List.append_assoc, pieces]
  rw [toLines, inside, List.dropLast_concat]

theorem flatMap_pieces_of_onOneLine (plain : ∀ line ∈ lines, OnOneLine line) :
    lines.flatMap pieces = lines := by
  induction lines with
  | nil => rfl
  | cons line lines inductionHypothesis =>
      obtain ⟨first, others⟩ := List.forall_mem_cons.mp plain
      rw [List.flatMap_cons, pieces_of_onOneLine first, inductionHypothesis others,
        List.singleton_append]

theorem flatMap_pieces_eq_self_iff : lines.flatMap pieces = lines ↔ ∀ line ∈ lines, OnOneLine line := by
  constructor
  · intro same line member
    rw [← same] at member
    obtain ⟨_, _, piece⟩ := List.mem_flatMap.mp member
    exact (mem_pieces_iff.mp piece).1
  · exact flatMap_pieces_of_onOneLine

theorem length_le_flatMap_pieces (lines : List String) :
    lines.length ≤ (lines.flatMap pieces).length := by
  induction lines with
  | nil => exact Nat.le_refl 0
  | cons line lines inductionHypothesis =>
      have first := List.length_pos_of_ne_nil (pieces_ne_nil line)
      rw [List.flatMap_cons, List.length_append, List.length_cons]
      omega

theorem below_append_of_not_mem (absent : mark ∉ front) :
    below mark (front ++ rest) = below mark rest := by
  rw [below, List.dropWhile_append_of_pos, ← below]
  exact fun line member => decide_eq_true fun same => absent (same ▸ member)

theorem below_cons_self (mark : String) (rest : List String) : below mark (mark :: rest) = rest := by
  rw [below, List.dropWhile_cons_of_neg (by simp), List.tail_cons]

/-- A mark that stands further up leaves more lines below it. -/
theorem length_le_below_of_mem (rest : List String) (found : mark ∈ front) :
    rest.length ≤ (below mark (front ++ rest)).length := by
  have stops : front.dropWhile (fun line => line ≠ mark) ≠ [] := by
    intro empty
    exact of_decide_eq_true (List.dropWhile_eq_nil_iff.mp empty mark found) rfl
  rw [below, List.dropWhile_append, if_neg (by simpa using stops), List.length_tail,
    List.length_append]
  have stop := List.length_pos_of_ne_nil stops
  omega

/-- A piece that is not begun by the label is begun in the text behind it. -/
theorem mem_pieces_append_iff {label : String} (plain : OnOneLine label)
    (begins : ¬ line.toList ++ ['\n'] <+: label.toList ++ (text.toList ++ ['\n'])) :
    line ∈ pieces (label ++ text) ↔
      OnOneLine line ∧ '\n' :: (line.toList ++ ['\n']) <:+: text.toList ++ ['\n'] := by
  rw [mem_pieces_iff, String.toList_append, List.append_assoc, List.infix_cons_iff,
    List.cons_prefix_cons, feed_infix_append_iff plain]
  exact and_congr_right fun _ => or_iff_right fun first => begins first.2

theorem empty_mem_pieces_append_iff (text : String) {label : String} (plain : OnOneLine label)
    (told : label ≠ "") : "" ∈ pieces (label ++ text) ↔ HasEmptyLine text := by
  have begins : ¬ "".toList ++ ['\n'] <+: label.toList ++ (text.toList ++ ['\n']) := by
    obtain ⟨letter, letters, spelled⟩ := List.exists_cons_of_ne_nil
      (String.toList_eq_nil_iff.not.mpr told)
    rw [spelled]
    rw [OnOneLine, spelled, List.mem_cons, not_or] at plain
    exact fun first => plain.1 (List.cons_prefix_cons.mp first).1
  rw [mem_pieces_append_iff plain begins]
  exact and_iff_right (by decide)

end Lines

end Text

open Text

namespace Step

/-- What a line tells of the step has no line feed. -/
structure Plain (step : Step) : Prop where
  kind : OnOneLine step.kind.name
  path : ∀ path ∈ step.path?, OnOneLine path
  description : OnOneLine (preview step.description)

theorem onOneLine_pathPart_iff {step : Step} :
    OnOneLine step.pathPart ↔ ∀ path ∈ step.path?, OnOneLine path := by
  have blank : OnOneLine " " := by decide
  rw [pathPart]
  cases step.path? with
  | none => simp [OnOneLine]
  | some path => simp [blank]

theorem onOneLine_descriptionPart_iff {step : Step} :
    OnOneLine step.descriptionPart ↔ OnOneLine (preview step.description) := by
  have blank : OnOneLine " " := by decide
  rw [descriptionPart]
  split
  · rename_i empty
    rw [String.isEmpty_iff.mp empty]
    decide
  · rw [onOneLine_append, and_iff_right blank]

theorem onOneLine_line_iff {step : Step} : OnOneLine step.line ↔ step.Plain := by
  have blanks : OnOneLine "  " := by decide
  simp only [line, onOneLine_append, onOneLine_alignRight, Nat.toString_eq_repr, onOneLine_repr,
    onOneLine_alignLeft, blanks, onOneLine_pathPart_iff, onOneLine_descriptionPart_iff, true_and]
  exact ⟨fun ⟨⟨kind, path⟩, description⟩ => ⟨kind, path, description⟩,
    fun plain => ⟨⟨plain.kind, plain.path⟩, plain.description⟩⟩

end Step

theorem Edition.onOneLine_text (edition : Edition) : OnOneLine edition.text := by
  have dot : OnOneLine "." := by decide
  simp [Edition.text, dot]

namespace Journal

/-- What an overview tells of the journal has no line feed. -/
structure Plain (journal : Journal) : Prop where
  id : OnOneLine journal.id
  prompt : ∀ prompt ∈ journal.prompt, OnOneLine (preview prompt)
  steps : ∀ step ∈ journal.steps, step.Plain

variable {journal : Journal}

/-- Only the identifier and the prompt are told in the words of the journal. -/
theorem mem_headerLines {line : String} (member : line ∈ journal.headerLines) :
    line = "session " ++ journal.id ∨
      (∃ prompt ∈ journal.prompt, line = "  prompt:        " ++ preview prompt) ∨
      (OnOneLine line ∧ line ≠ "") := by
  have label : OnOneLine journal.overview.progress.label := by
    cases journal.overview.progress <;> decide
  simp only [headerLines, promptLines, durationLines, List.mem_append, List.mem_cons,
    List.not_mem_nil, or_false, Option.mem_toList, Option.map_eq_some_iff,
    List.mem_ite_nil_right] at member
  rcases member with ((((first | status | edition) | ⟨prompt, recorded, told⟩) |
    steps | calls | tokens | files) | ⟨duration, _, told⟩) | ⟨_, failure⟩
  · exact .inl first
  · exact .inr (.inr (by simp +decide [status, label]))
  · exact .inr (.inr (by simp +decide [edition, Edition.onOneLine_text]))
  · exact .inr (.inl ⟨prompt, recorded, told.symm⟩)
  · exact .inr (.inr (by simp +decide [steps]))
  · exact .inr (.inr (by simp +decide [calls]))
  · exact .inr (.inr (by simp +decide [tokens]))
  · exact .inr (.inr (by simp +decide [files]))
  · exact .inr (.inr (by simp +decide [← told]))
  · exact .inr (.inr (by simp +decide [failure]))

theorem session_mem_headerLines (journal : Journal) :
    "session " ++ journal.id ∈ journal.headerLines := by
  simp only [headerLines, List.mem_append]
  exact .inl (.inl (.inl (.inl List.mem_cons_self)))

theorem prompt_mem_headerLines {prompt : String} (recorded : prompt ∈ journal.prompt) :
    "  prompt:        " ++ preview prompt ∈ journal.headerLines := by
  have line : "  prompt:        " ++ preview prompt ∈ promptLines journal.prompt := by
    rw [Option.mem_def.mp recorded]
    exact List.mem_cons_self
  simp only [headerLines, List.mem_append]
  exact .inl (.inl (.inl (.inr line)))

theorem onOneLine_headerLines_iff :
    (∀ line ∈ journal.headerLines, OnOneLine line) ↔
      OnOneLine journal.id ∧ ∀ prompt ∈ journal.prompt, OnOneLine (preview prompt) := by
  constructor
  · intro plain
    exact ⟨(onOneLine_append.mp (plain _ journal.session_mem_headerLines)).2, fun prompt recorded =>
      (onOneLine_append.mp (plain _ (prompt_mem_headerLines recorded))).2⟩
  · rintro ⟨id, prompts⟩ line member
    rcases mem_headerLines member with rfl | ⟨prompt, recorded, rfl⟩ | ⟨plain, _⟩
    · exact onOneLine_append.mpr ⟨by decide, id⟩
    · exact onOneLine_append.mpr ⟨by decide, prompts prompt recorded⟩
    · exact plain

/-- The header is read with an empty line when the identifier or the prompt brings one. -/
theorem empty_mem_header_iff :
    "" ∈ journal.headerLines.flatMap pieces ↔
      HasEmptyLine journal.id ∨ ∃ prompt ∈ journal.prompt, HasEmptyLine (preview prompt) := by
  have session : "" ∈ pieces ("session " ++ journal.id) ↔ HasEmptyLine journal.id :=
    empty_mem_pieces_append_iff journal.id (by decide) (by decide)
  have prompted (prompt : String) :
      "" ∈ pieces ("  prompt:        " ++ preview prompt) ↔ HasEmptyLine (preview prompt) :=
    empty_mem_pieces_append_iff (preview prompt) (by decide) (by decide)
  rw [List.mem_flatMap]
  constructor
  · rintro ⟨line, member, empty⟩
    rcases mem_headerLines member with rfl | ⟨prompt, recorded, rfl⟩ | ⟨plain, told⟩
    · exact .inl (session.mp empty)
    · exact .inr ⟨prompt, recorded, (prompted prompt).mp empty⟩
    · rw [pieces_of_onOneLine plain] at empty
      exact absurd (List.mem_singleton.mp empty).symm told
  · rintro (empty | ⟨prompt, recorded, empty⟩)
    · exact ⟨_, journal.session_mem_headerLines, session.mpr empty⟩
    · exact ⟨_, prompt_mem_headerLines recorded, (prompted prompt).mpr empty⟩

/-- Every line of an overview is printed as its pieces, in the order of the lines. -/
theorem toLines_overviewText (journal : Journal) :
    toLines journal.overviewText =
      journal.headerLines.flatMap pieces ++ "" :: (journal.steps.map Step.line).flatMap pieces := by
  have empty : [""].flatMap pieces = [""] := by decide
  rw [overviewText, toLines_ofLines, List.flatMap_append, List.flatMap_append, empty,
    List.append_assoc, List.singleton_append]

theorem onOneLine_stepLines_iff :
    (∀ line ∈ journal.steps.map Step.line, OnOneLine line) ↔ ∀ step ∈ journal.steps, step.Plain := by
  simp only [List.forall_mem_map, Step.onOneLine_line_iff]

theorem toLines_overviewText_iff :
    toLines journal.overviewText = journal.headerLines ++ "" :: journal.steps.map Step.line ↔
      journal.Plain := by
  have empty : OnOneLine "" := by decide
  rw [overviewText, toLines_ofLines, List.append_assoc, List.singleton_append,
    flatMap_pieces_eq_self_iff, List.forall_mem_append, List.forall_mem_cons,
    onOneLine_headerLines_iff, onOneLine_stepLines_iff, and_iff_right empty]
  exact ⟨fun ⟨⟨id, prompt⟩, steps⟩ => ⟨id, prompt, steps⟩,
    fun plain => ⟨⟨plain.id, plain.prompt⟩, plain.steps⟩⟩

/-- The steps are found below the first empty line when the header brings none of its own. -/
theorem below_overviewText_iff :
    below "" (toLines journal.overviewText) = journal.steps.map Step.line ↔
      (∀ step ∈ journal.steps, step.Plain) ∧ ¬ HasEmptyLine journal.id ∧
        ∀ prompt ∈ journal.prompt, ¬ HasEmptyLine (preview prompt) := by
  have header : (¬ HasEmptyLine journal.id ∧
      ∀ prompt ∈ journal.prompt, ¬ HasEmptyLine (preview prompt)) ↔
        "" ∉ journal.headerLines.flatMap pieces := by
    rw [empty_mem_header_iff, not_or, not_exists]
    simp only [not_and]
  rw [toLines_overviewText, header, ← onOneLine_stepLines_iff]
  by_cases found : "" ∈ journal.headerLines.flatMap pieces
  · -- The lines below it are too many, as the empty line above the steps is one of them.
    refine iff_of_false (fun same => ?_) fun ⟨_, absent⟩ => absent found
    have more := length_le_below_of_mem ("" :: (journal.steps.map Step.line).flatMap pieces) found
    have all := length_le_flatMap_pieces (journal.steps.map Step.line)
    rw [same, List.length_cons] at more
    omega
  · rw [below_append_of_not_mem found, below_cons_self, flatMap_pieces_eq_self_iff,
      and_iff_left found]

/-- All tokens that the replies count. -/
def tokens (journal : Journal) (count : Reply → UInt64) : Nat :=
  (journal.steps.filterMap Step.reply).foldr (fun reply total => (count reply).toNat + total) 0

/-- A sum of words is the sum of their values up to multiples of `2 ^ 64`. -/
theorem toNat_foldl_add {A : Type} (count : A → UInt64) (items : List A) (start : UInt64) :
    (items.foldl (fun total item => total + count item) start).toNat =
      (start.toNat + items.foldr (fun item total => (count item).toNat + total) 0) %
        UInt64.size := by
  induction items generalizing start with
  | nil => exact (Nat.mod_eq_of_lt start.toNat_lt_size).symm
  | cons item items inductionHypothesis =>
      rw [List.foldl_cons, inductionHypothesis, UInt64.toNat_add, List.foldr_cons,
        ← Nat.add_assoc]
      exact Nat.mod_add_mod ..

theorem toNat_tokens_iff (journal : Journal) (count : Reply → UInt64) :
    ((journal.steps.filterMap Step.reply).foldl (fun total reply => total + count reply) 0).toNat =
        journal.tokens count ↔ journal.tokens count < UInt64.size := by
  rw [toNat_foldl_add, UInt64.toNat_zero, Nat.zero_add]
  exact Nat.mod_eq_iff_lt (by decide)

end Journal

namespace Report

/-- The line above the paths. -/
def applyMark : String := "  paths to apply:"

/-- The paths that are read from the lines below the mark, behind four blanks. -/
def listedPaths (text : String) : List String :=
  (below applyMark (toLines text)).map fun line => String.ofList (line.toList.drop 4)

/-- What a report tells of the journal has no line feed. -/
structure Plain (report : Report) : Prop where
  journalId : OnOneLine report.journalId
  applied : ∀ path ∈ report.applied, OnOneLine path

def titleLine (report : Report) : String :=
  "replay " ++ report.journalId ++ " (" ++ report.mode.name ++ " mode): " ++ report.verdict

def cursorLine (report : Report) : String := "  cursor at step " ++ toString report.cursor

variable {report : Report} {elapsed : Nat}

theorem lines_eq (report : Report) (elapsed : Nat) :
    report.lines elapsed = ["", report.titleLine] ++
      ([report.countLine elapsed, report.cursorLine] ++ report.appliedLines) := rfl

theorem onOneLine_titleLine_iff : OnOneLine report.titleLine ↔ OnOneLine report.journalId := by
  have mode : OnOneLine report.mode.name := by cases report.mode <;> decide
  have verdict : OnOneLine report.verdict := by
    rw [Report.verdict]
    split <;> decide
  simp +decide [titleLine, mode, verdict]

theorem onOneLine_countLine (report : Report) (elapsed : Nat) :
    OnOneLine (report.countLine elapsed) := by
  simp +decide [countLine]

theorem onOneLine_cursorLine (report : Report) : OnOneLine report.cursorLine :=
  onOneLine_append.mpr ⟨by decide, onOneLine_repr report.cursor⟩

theorem onOneLine_appliedLines_iff :
    (∀ line ∈ report.appliedLines, OnOneLine line) ↔ ∀ path ∈ report.applied, OnOneLine path := by
  have blanks : OnOneLine "    " := by decide
  have mark : OnOneLine "  paths to apply:" := by decide
  rw [appliedLines]
  split
  · simp_all
  · simp only [List.forall_mem_cons, List.forall_mem_map, onOneLine_append, blanks, mark, true_and]

theorem toLines_text_iff : toLines (report.text elapsed) = report.lines elapsed ↔ report.Plain := by
  have empty : OnOneLine "" := by decide
  rw [text, toLines_ofLines, flatMap_pieces_eq_self_iff, lines_eq]
  simp only [List.forall_mem_append, List.forall_mem_cons, List.not_mem_nil, false_implies,
    implies_true, empty, onOneLine_titleLine_iff, onOneLine_countLine, onOneLine_cursorLine,
    onOneLine_appliedLines_iff, true_and, and_true]
  exact ⟨fun ⟨journalId, applied⟩ => ⟨journalId, applied⟩,
    fun plain => ⟨plain.journalId, plain.applied⟩⟩

/-- The identifier tells the mark when it tells it on a line that it begins and ends itself. -/
theorem mark_mem_titleLine_iff :
    applyMark ∈ pieces report.titleLine ↔
      '\n' :: (applyMark.toList ++ ['\n']) <:+: report.journalId.toList := by
  let after := " (" ++ report.mode.name ++ " mode): " ++ report.verdict
  have plain : OnOneLine after ∧ after.toList.getLast? = some 'n' := by
    simp only [after, verdict]
    cases report.mode <;> split <;> decide
  have titled : report.titleLine = "replay " ++ (report.journalId ++ after) := by
    simp only [titleLine, after, String.append_assoc]
  -- The letters that end the title do not end the mark.
  have ends : ¬ '\n' :: (applyMark.toList ++ ['\n']) <:+
      report.journalId.toList ++ after.toList ++ ['\n'] := by
    rintro ⟨before, same⟩
    rw [← List.cons_append, ← List.append_assoc] at same
    have last := congrArg List.getLast? (List.append_inj_left' same rfl)
    have colon : ('\n' :: applyMark.toList).getLast? = some ':' := by decide
    rw [List.getLast?_append, List.getLast?_append, plain.2, colon, Option.some_or,
      Option.some_or] at last
    exact absurd (Option.some.inj last) (by decide)
  rw [titled, mem_pieces_append_iff (by decide) (by simp [applyMark]),
    and_iff_right (by decide), String.toList_append, List.infix_concat_iff, or_iff_right ends,
    ← List.cons_append, infix_append_feed_iff plain.1]

theorem length_le_appliedLines (report : Report) :
    report.applied.length ≤ report.appliedLines.length := by
  rw [appliedLines]
  split
  · simp_all
  · simp

theorem below_appliedLines (report : Report) :
    below applyMark (report.appliedLines.flatMap pieces) =
      (report.applied.map fun path => "    " ++ path).flatMap pieces := by
  have mark : pieces "  paths to apply:" = [applyMark] := pieces_of_onOneLine (by decide)
  rw [appliedLines]
  split
  · rename_i none
    rw [List.isEmpty_iff.mp none]
    rfl
  · rw [List.flatMap_cons, mark, List.singleton_append, below_cons_self]

/-- The counts and the cursor are not taken for the mark. -/
theorem mark_not_mem_counts (report : Report) (elapsed : Nat) :
    applyMark ∉ [report.countLine elapsed, report.cursorLine] := by
  rw [List.mem_cons, List.mem_singleton, not_or]
  constructor
  · intro same
    have last := congrArg (fun text => text.toList.getLast?) same
    simp only [applyMark, countLine] at last
    rw [String.toList_append, List.getLast?_append] at last
    exact absurd (Option.some.inj last) (by decide)
  · intro same
    have letters : applyMark.toList = ("  cursor at step " ++ toString report.cursor).toList :=
      congrArg String.toList same
    simp [applyMark] at letters

theorem unindented_iff {paths : List String} :
    (((paths.map fun path => "    " ++ path).flatMap pieces).map fun line =>
        String.ofList (line.toList.drop 4)) = paths ↔ ∀ path ∈ paths, OnOneLine path := by
  constructor
  · intro same path member
    rw [← same] at member
    obtain ⟨line, read, rfl⟩ := List.mem_map.mp member
    obtain ⟨_, _, piece⟩ := List.mem_flatMap.mp read
    rw [OnOneLine, String.toList_ofList]
    exact fun feed => (mem_pieces_iff.mp piece).1 (List.mem_of_mem_drop feed)
  · intro plain
    have indented : ∀ line ∈ paths.map fun path => "    " ++ path, OnOneLine line := by
      rw [List.forall_mem_map]
      exact fun path member => onOneLine_append.mpr ⟨by decide, plain path member⟩
    have four : "    ".toList = [' ', ' ', ' ', ' '] := rfl
    have back (path : String) : String.ofList (("    " ++ path).toList.drop 4) = path := by
      rw [String.toList_append, four]
      exact String.ofList_toList
    rw [flatMap_pieces_of_onOneLine indented, List.map_map]
    exact (List.map_congr_left fun path _ => back path).trans (List.map_id paths)

theorem mark_mem_above_counts_iff :
    applyMark ∈ ["", report.titleLine].flatMap pieces ↔
      '\n' :: (applyMark.toList ++ ['\n']) <:+: report.journalId.toList := by
  rw [List.flatMap_cons, pieces_of_onOneLine (by decide), List.flatMap_singleton,
    List.singleton_append, List.mem_cons, or_iff_right (by decide), mark_mem_titleLine_iff]

/-- What is read are the pieces of the lines of the paths. -/
theorem listedPaths_text
    (absent : ¬ '\n' :: (applyMark.toList ++ ['\n']) <:+: report.journalId.toList) :
    listedPaths (report.text elapsed) =
      ((report.applied.map fun path => "    " ++ path).flatMap pieces).map fun line =>
        String.ofList (line.toList.drop 4) := by
  have counts : [report.countLine elapsed, report.cursorLine].flatMap pieces =
      [report.countLine elapsed, report.cursorLine] :=
    flatMap_pieces_of_onOneLine (by simp [onOneLine_countLine, onOneLine_cursorLine])
  rw [listedPaths, text, toLines_ofLines, lines_eq, List.flatMap_append,
    below_append_of_not_mem (mark_mem_above_counts_iff.not.mpr absent), List.flatMap_append, counts,
    below_append_of_not_mem (report.mark_not_mem_counts elapsed), below_appliedLines]

/-- A mark in the identifier makes paths of the counts and the cursor. -/
theorem length_lt_listedPaths (elapsed : Nat)
    (found : '\n' :: (applyMark.toList ++ ['\n']) <:+: report.journalId.toList) :
    report.applied.length < (listedPaths (report.text elapsed)).length := by
  have more := length_le_below_of_mem
    (([report.countLine elapsed, report.cursorLine] ++ report.appliedLines).flatMap pieces)
    (mark_mem_above_counts_iff.mpr found)
  have all := length_le_flatMap_pieces
    ([report.countLine elapsed, report.cursorLine] ++ report.appliedLines)
  have applied := length_le_appliedLines report
  rw [listedPaths, List.length_map, text, toLines_ofLines, lines_eq, List.flatMap_append]
  simp only [List.length_append, List.length_cons, List.length_nil] at all
  omega

/-- The paths are found below the mark when the identifier does not tell it before. -/
theorem listedPaths_text_iff :
    listedPaths (report.text elapsed) = report.applied ↔
      (∀ path ∈ report.applied, OnOneLine path) ∧
        ¬ '\n' :: (applyMark.toList ++ ['\n']) <:+: report.journalId.toList := by
  by_cases found : '\n' :: (applyMark.toList ++ ['\n']) <:+: report.journalId.toList
  · have more := length_lt_listedPaths elapsed found
    exact iff_of_false (fun same => Nat.ne_of_gt more (congrArg List.length same))
      fun ⟨_, absent⟩ => absent found
  · rw [listedPaths_text found, unindented_iff, and_iff_left found]

end Report

/-- The lines that are read are the pieces of the printed ones. An overview is read back as it was made
when no line feed is in what it tells, and its steps when theirs are free of line feeds and no empty line
comes before. The paths of a report are read back when they are free of line feeds and the mark above
them is no line within the identifier. The sums of tokens in an overview are right as long as they fit 64
bits. With greater ones the lines are the same but for the wrapped sums, and a build that checks for
overflow makes no overview. -/
theorem lines_of_texts (journal : Journal) (report : Report) (elapsed : Nat) :
    (toLines journal.overviewText = journal.headerLines.flatMap pieces ++
        "" :: (journal.steps.map Step.line).flatMap pieces ∧
      (toLines journal.overviewText = journal.headerLines ++ "" :: journal.steps.map Step.line ↔
        journal.Plain) ∧
      (below "" (toLines journal.overviewText) = journal.steps.map Step.line ↔
        (∀ step ∈ journal.steps, step.Plain) ∧ ¬ HasEmptyLine journal.id ∧
          ∀ prompt ∈ journal.prompt, ¬ HasEmptyLine (preview prompt)) ∧
      (journal.overview.inputTokens.toNat = journal.tokens Reply.inputTokens ↔
        journal.tokens Reply.inputTokens < UInt64.size) ∧
      (journal.overview.outputTokens.toNat = journal.tokens Reply.outputTokens ↔
        journal.tokens Reply.outputTokens < UInt64.size)) ∧
    toLines (report.text elapsed) = (report.lines elapsed).flatMap pieces ∧
      (toLines (report.text elapsed) = report.lines elapsed ↔ report.Plain) ∧
      (Report.listedPaths (report.text elapsed) = report.applied ↔
        (∀ path ∈ report.applied, OnOneLine path) ∧
          ¬ '\n' :: (Report.applyMark.toList ++ ['\n']) <:+: report.journalId.toList) :=
  ⟨⟨journal.toLines_overviewText, Journal.toLines_overviewText_iff,
      Journal.below_overviewText_iff, journal.toNat_tokens_iff Reply.inputTokens,
      journal.toNat_tokens_iff Reply.outputTokens⟩,
    toLines_ofLines (report.lines elapsed), Report.toLines_text_iff, Report.listedPaths_text_iff⟩

/-- A journal of one step. The file that it writes has a line feed in its path. -/
def Journal.brokenPath : Journal :=
  (Journal.start .epoch "journal").append
    { Step.bare .epoch "write" 0 .fileWrite with
      edit := some (.between "first\n    second" "" "new") }

/-- The one step is read as two, and the one path as the paths of two other files. -/
theorem not_asMade_of_brokenPath :
    toLines Journal.brokenPath.overviewText ≠ Journal.brokenPath.headerLines ++
        "" :: Journal.brokenPath.steps.map Step.line ∧
      (below "" (toLines Journal.brokenPath.overviewText)).length = 2 ∧
      Journal.brokenPath.length = 1 ∧
      let (passage, player) := (Player.start .epoch .brokenPath (.ofMode .apply)).playToEnd
      let report := Report.of player.state passage.outcomes
      report.applied = ["first\n    second"] ∧
        ∀ elapsed, Report.listedPaths (report.text elapsed) = ["first", "second"] := by
  have header : "" ∉ Journal.brokenPath.headerLines.flatMap pieces := by
    rw [Journal.empty_mem_header_iff]
    rintro (empty | ⟨_, unrecorded, _⟩)
    · exact absurd empty (by decide)
    · contradiction
  refine ⟨fun same => ?_, ?_, rfl, ?_⟩
  · have plain := Journal.toLines_overviewText_iff.mp same
    exact absurd ((plain.steps _ List.mem_cons_self).path _ rfl) (by decide)
  · rw [Journal.toLines_overviewText, below_append_of_not_mem header, below_cons_self]
    decide +kernel
  · let report := Report.of (Player.start .epoch .brokenPath (.ofMode .apply)).playToEnd.2.state
      (Player.start .epoch .brokenPath (.ofMode .apply)).playToEnd.1.outcomes
    have applied : report.applied = ["first\n    second"] := by decide +kernel
    have listed (elapsed : Nat) :
        Report.listedPaths (report.text elapsed) = ["first", "second"] := by
      rw [Report.listedPaths_text (by decide +kernel), applied]
      decide +kernel
    exact ⟨applied, listed⟩

end Playback
