import VersionBump.Proofs.ReportSections
import VersionBump.Proofs.WrittenDocuments
import VersionBump.Render.Format

/-!
# What the formats tell

Both formats tell about an assessment in their own way: markdown line by line, walking the levels of
each context, JSON as a value, with what it reads from the report in one go. Here both are derived
from one story, and the story can be taken from either.

* `Assessment.story` is what there is to tell.
* `Story.lines` are the lines that tell it, and `Story.ofLines` takes it from them. The lines keep
  what they are about, since a text with line breaks of its own may look like any other lines.
* `Story.value` is the value that tells it; `Story.value_injective` says that no other story has it.
* `Assessment.markdown_eq` and `Assessment.json_eq` tie the texts to the story, so that by
  `Assessment.markdown_eq_of_json_eq` the one text decides the other.
* `Report.Built.told_alike` is the statement.
-/

namespace VersionBump

open Json (Value)

/-! ## Stories -/

/-- What is told about an operation. -/
structure Story.Item where
  level : Level
  code : String
  target : String
  location : String
  reason : String
  deriving DecidableEq, Repr

/-- What is told about a context. -/
structure Story.Chapter where
  heading : String
  level : Level
  items : List Story.Item
  deriving DecidableEq, Repr

/-- What is told about an assessment. The verdict is the allowed level with whether it was kept. -/
structure Story where
  level : Level
  verdict : Option (Level × Bool)
  chapters : List Story.Chapter
  files : ChangedFiles
  deriving DecidableEq, Repr

/-- An operation as it is told. -/
def Operation.item (op : Operation) : Story.Item :=
  ⟨op.level, op.code, op.target, op.location.text, op.reason⟩

/-- A context of a report as it is told. -/
def Report.chapter (r : Report) (context : Context) : Story.Chapter :=
  ⟨context.name, r.levelIn context, (r.inContext context).map (·.2.item)⟩

/-- The story of an assessment. -/
def Assessment.story (a : Assessment) (allowed : Option Level) : Story where
  level := a.level
  verdict := allowed.map fun l => (l, a.level.fits l)
  chapters := a.report.contexts.map a.report.chapter
  files := a.changedFiles

namespace Story

/-! ## Lines -/

/-- How a file changed. -/
inductive Fate where
  | added
  | removed
  | modified
  deriving DecidableEq, Repr

/-- The ways in which files change, in the order in which they are told. -/
def Fate.all : List Fate := [added, removed, modified]

/-- The word for the way in which a file changed. -/
def Fate.word : Fate → String
  | added => "added"
  | removed => "removed"
  | modified => "modified"

/-- The files that changed in a certain way. -/
def Fate.files (fate : Fate) (files : ChangedFiles) : List String :=
  match fate with
  | added => files.added
  | removed => files.removed
  | modified => files.modified

/-- A line, by what it is about. -/
inductive Line where
  | fixed (text : String)
  | level (level : Level)
  | verdict (allowed : Level) (fits : Bool)
  | chapter (heading : String) (level : Level)
  | item (i : Item)
  | counts (added removed modified : Nat)
  | file (fate : Fate) (path : String)
  deriving DecidableEq, Repr

/-- The text of a line. -/
def Line.text : Line → String
  | fixed text => text
  | level l => "**Suggested bump:** " ++ l.name
  | verdict allowed true => "Within the allowed level (" ++ allowed.name ++ ")."
  | verdict allowed false => "**Exceeds the allowed level (" ++ allowed.name ++ ").**"
  | chapter heading l => "## " ++ heading ++ " (" ++ l.name ++ ")"
  | item i =>
    "- **" ++ i.level.name ++ "** `" ++ i.code ++ "` `" ++ i.target ++ "`: " ++ i.reason ++
      " (*" ++ i.location ++ "*)"
  | counts added removed modified =>
    Text.ofNat added ++ " added, " ++ Text.ofNat removed ++ " removed, " ++
      Text.ofNat modified ++ " modified"
  | file fate path => "- " ++ fate.word ++ " `" ++ path ++ "`"

/-- The lines of a context. -/
def Chapter.lines (c : Chapter) : List Line :=
  [.chapter c.heading c.level, .fixed ""] ++ c.items.map .item ++ [.fixed ""]

/-- The lines on the allowed level. -/
def verdictLines : Option (Level × Bool) → List Line
  | none => []
  | some (allowed, fits) => [.verdict allowed fits, .fixed ""]

/-- The lines for a story without chapters. -/
def emptyLines (chapters : List Chapter) : List Line :=
  if chapters = [] then
    [.fixed "## No Differences Found", .fixed "", .fixed "No structural differences detected."]
  else []

/-- The lines on changed files. -/
def fileLines (files : ChangedFiles) : List Line :=
  if files.isEmpty then []
  else
    [.fixed "## Changed Files", .fixed "",
      .counts files.added.length files.removed.length files.modified.length, .fixed ""] ++
      Fate.all.flatMap fun fate => (fate.files files).map (.file fate)

/-- The lines of a story. -/
def lines (s : Story) : List Line :=
  [.fixed "# Semantic Version Check", .fixed "", .level s.level, .fixed ""] ++
    verdictLines s.verdict ++ emptyLines s.chapters ++ s.chapters.flatMap Chapter.lines ++
    fileLines s.files

/-! ## Reading lines -/

/-- The level that a line tells. -/
def Line.level? : Line → Option Level
  | level l => some l
  | _ => none

/-- The verdict that a line tells. -/
def Line.verdict? : Line → Option (Level × Bool)
  | verdict allowed fits => some (allowed, fits)
  | _ => none

/-- The file that a line tells to have changed in a certain way. -/
def Line.path? (fate : Fate) : Line → Option String
  | file f path => if f = fate then some path else none
  | _ => none

/-- The items in front of the first chapter, and the chapters with their items. -/
def readChapters : List Line → List Item × List Chapter
  | [] => ([], [])
  | .chapter heading level :: ls =>
    ([], ⟨heading, level, (readChapters ls).1⟩ :: (readChapters ls).2)
  | .item i :: ls => (i :: (readChapters ls).1, (readChapters ls).2)
  | _ :: ls => readChapters ls

/-- The story that lines tell. -/
def ofLines (ls : List Line) : Story where
  level := (ls.filterMap Line.level?).head?.getD .none
  verdict := (ls.filterMap Line.verdict?).head?
  chapters := (readChapters ls).2
  files :=
    { added := ls.filterMap (Line.path? .added)
      removed := ls.filterMap (Line.path? .removed)
      modified := ls.filterMap (Line.path? .modified) }

/-- Items are read one after the other. -/
private theorem readChapters_items (items : List Item) (ls : List Line) :
    readChapters (items.map .item ++ ls) = (items ++ (readChapters ls).1, (readChapters ls).2) := by
  induction items with
  | nil => rfl
  | cons i items ih => rw [List.map_cons, List.cons_append, readChapters, ih]; rfl

/-- A chapter is read with its items, if no other items come before the next one. -/
private theorem readChapters_chapter (c : Chapter) {ls : List Line} (h : (readChapters ls).1 = []) :
    readChapters (c.lines ++ ls) = ([], c :: (readChapters ls).2) := by
  have hitems : readChapters (c.items.map .item ++ .fixed "" :: ls) =
      (c.items, (readChapters ls).2) := by
    rw [readChapters_items]
    show (c.items ++ (readChapters ls).1, (readChapters ls).2) = _
    rw [h, List.append_nil]
  simp only [Chapter.lines, List.cons_append, List.append_assoc, List.nil_append]
  show (([], ⟨c.heading, c.level, (readChapters (c.items.map .item ++ .fixed "" :: ls)).1⟩ ::
    (readChapters (c.items.map .item ++ .fixed "" :: ls)).2) : List Item × List Chapter) = _
  rw [hitems]

/-- Chapters are read one after the other. -/
private theorem readChapters_chapters (cs : List Chapter) {ls : List Line}
    (h : readChapters ls = ([], [])) :
    readChapters (cs.flatMap Chapter.lines ++ ls) = ([], cs) := by
  induction cs with
  | nil => exact h
  | cons c cs ih =>
    have hitems : (readChapters (cs.flatMap Chapter.lines ++ ls)).1 = [] := by rw [ih]
    rw [List.flatMap_cons, List.append_assoc, readChapters_chapter c hitems, ih]

/-- Files are no part of chapters. -/
private theorem readChapters_files (fate : Fate) (paths : List String) (ls : List Line) :
    readChapters (paths.map (.file fate) ++ ls) = readChapters ls := by
  induction paths with
  | nil => rfl
  | cons path paths ih => exact ih

/-- The lines on changed files have no chapters. -/
private theorem readChapters_fileLines (files : ChangedFiles) :
    readChapters (fileLines files) = ([], []) := by
  have hfates : ∀ fates : List Fate, readChapters
      (fates.flatMap fun fate => (fate.files files).map (.file fate)) = ([], []) := by
    intro fates
    induction fates with
    | nil => rfl
    | cons fate fates ih => rw [List.flatMap_cons, readChapters_files, ih]
  unfold fileLines
  split
  · rfl
  · exact hfates Fate.all

/-- The chapters of a story are read from its lines. -/
private theorem readChapters_lines (s : Story) : (readChapters s.lines).2 = s.chapters := by
  have hempty : ∀ ls, readChapters (emptyLines s.chapters ++ ls) = readChapters ls := by
    intro ls
    unfold emptyLines
    split <;> rfl
  have hverdict : ∀ ls, readChapters (verdictLines s.verdict ++ ls) = readChapters ls := by
    intro ls
    cases s.verdict <;> rfl
  simp only [lines, List.append_assoc]
  show (readChapters (verdictLines s.verdict ++ _)).2 = _
  rw [hverdict, hempty, readChapters_chapters _ (readChapters_fileLines s.files)]

/-- Whoever passes over chapters reads what stands before and behind them. -/
private theorem filterMap_lines {β : Type} {read : Line → Option β}
    (hfixed : ∀ text, read (.fixed text) = none) (hchapter : ∀ h l, read (.chapter h l) = none)
    (hitem : ∀ i, read (.item i) = none) (hcounts : ∀ a r m, read (.counts a r m) = none)
    (s : Story) : s.lines.filterMap read =
      (read (.level s.level)).toList ++
        s.verdict.toList.filterMap (fun v => read (.verdict v.1 v.2)) ++
        Fate.all.flatMap (fun fate => (fate.files s.files).filterMap fun path =>
          read (.file fate path)) := by
  have hverdict : (verdictLines s.verdict).filterMap read =
      s.verdict.toList.filterMap fun v => read (.verdict v.1 v.2) := by
    cases s.verdict with
    | none => rfl
    | some v => simp [verdictLines, List.filterMap_cons, hfixed]
  have hempty : (emptyLines s.chapters).filterMap read = [] := by
    unfold emptyLines
    split <;> simp [hfixed]
  have hchapters : (s.chapters.flatMap Chapter.lines).filterMap read = [] := by
    rw [List.filterMap_flatMap]
    refine List.flatMap_eq_nil_iff.mpr fun c _ => ?_
    simp only [Chapter.lines, List.filterMap_append, List.filterMap_cons, hchapter, hfixed,
      List.filterMap_map, Function.comp_def, hitem, List.filterMap_nil, List.filterMap_none,
      List.append_nil]
  have hfiles : (fileLines s.files).filterMap read = Fate.all.flatMap fun fate =>
      (fate.files s.files).filterMap fun path => read (.file fate path) := by
    unfold fileLines
    split
    case isTrue hnone =>
      simp only [ChangedFiles.isEmpty, Bool.and_eq_true, List.isEmpty_iff] at hnone
      simp [Fate.all, Fate.files, hnone]
    case isFalse =>
      simp only [List.filterMap_append, List.filterMap_cons, hfixed, hcounts, List.filterMap_nil,
        List.nil_append, List.filterMap_flatMap, List.filterMap_map, Function.comp_def]
  simp only [lines, List.filterMap_append, hverdict, hempty, hchapters, hfiles, List.append_nil,
    List.filterMap_cons, hfixed, List.filterMap_nil]
  cases read (.level s.level) <;> rfl

/-- A story is read from its lines. -/
theorem ofLines_lines (s : Story) : ofLines s.lines = s := by
  have hlevel : s.lines.filterMap Line.level? = [s.level] := by
    rw [filterMap_lines (fun _ => rfl) (fun _ _ => rfl) (fun _ => rfl) fun _ _ _ => rfl]
    simp [Line.level?]
  have hverdict : s.lines.filterMap Line.verdict? = s.verdict.toList := by
    rw [filterMap_lines (fun _ => rfl) (fun _ _ => rfl) (fun _ => rfl) fun _ _ _ => rfl]
    simp [Line.verdict?]
  have hfiles : ∀ fate, s.lines.filterMap (Line.path? fate) = fate.files s.files := by
    intro fate
    rw [filterMap_lines (fun _ => rfl) (fun _ _ => rfl) (fun _ => rfl) fun _ _ _ => rfl]
    cases fate <;> simp [Line.path?, Fate.all, Fate.files]
  simp only [ofLines, hlevel, hverdict, readChapters_lines, hfiles]
  obtain ⟨level, verdict, chapters, files⟩ := s
  cases verdict <;> rfl

/-! ## Values -/

/-- The value of an operation. -/
def Item.value (i : Item) : Value :=
  .object [("code", .string i.code), ("level", .string i.level.name), ("target", .string i.target),
    ("location", .string i.location), ("reason", .string i.reason)]

/-- The value of a context. -/
def Chapter.value (c : Chapter) : Value :=
  .object [("context", .string c.heading), ("level", .string c.level.name),
    ("operations", .array (c.items.map Item.value))]

/-- The members on the allowed level. -/
def verdictMembers : Option (Level × Bool) → List (String × Value)
  | none => []
  | some (allowed, fits) =>
    [("allowed_level", .string allowed.name), ("within_allowed", .bool fits)]

/-- The value of changed files. -/
def filesValue (files : ChangedFiles) : Value :=
  .object (Fate.all.map fun fate => (fate.word, .strings (fate.files files)))

/-- The value of a story. -/
def value (s : Story) : Value :=
  .object ([("level", .string s.level.name)] ++ verdictMembers s.verdict ++
    [("contexts", .array (s.chapters.map Chapter.value)), ("changed_files", filesValue s.files)])

/-- Levels have different names. -/
private theorem name_inj {a b : Level} (h : a.name = b.name) : a = b := by
  cases a <;> cases b <;> first | rfl | exact absurd h (by decide)

/-- Different operations have different values. -/
theorem Item.value_injective : Function.Injective Item.value := by
  rintro ⟨l, c, t, p, r⟩ ⟨l', c', t', p', r'⟩ h
  simp only [Item.value, Value.object.injEq, List.cons.injEq, Prod.mk.injEq, Value.string.injEq,
    true_and, and_true] at h
  obtain ⟨rfl, hlevel, rfl, rfl, rfl⟩ := h
  rw [name_inj hlevel]

/-- Different contexts have different values. -/
theorem Chapter.value_injective : Function.Injective Chapter.value := by
  rintro ⟨n, l, is⟩ ⟨n', l', is'⟩ h
  simp only [Chapter.value, Value.object.injEq, List.cons.injEq, Prod.mk.injEq, Value.string.injEq,
    Value.array.injEq, true_and, and_true] at h
  obtain ⟨rfl, hlevel, hitems⟩ := h
  rw [name_inj hlevel, List.map_injective_iff.mpr Item.value_injective hitems]

/-- Different files have different values. -/
theorem filesValue_injective : Function.Injective filesValue := by
  rintro ⟨a, r, m⟩ ⟨a', r', m'⟩ h
  have hstring : Function.Injective Value.string := fun _ _ => Value.string.inj
  simp only [filesValue, Fate.all, Fate.files, List.map_cons, List.map_nil, Value.strings,
    Value.object.injEq, List.cons.injEq, Prod.mk.injEq, Value.array.injEq, true_and, and_true,
    (List.map_injective_iff.mpr hstring).eq_iff] at h
  obtain ⟨rfl, rfl, rfl⟩ := h
  rfl

/-- Different verdicts have different members. -/
private theorem verdictMembers_inj {v w : Option (Level × Bool)}
    (h : verdictMembers v = verdictMembers w) : v = w := by
  cases v with
  | none =>
    cases w with
    | none => rfl
    | some w => exact nomatch h
  | some v =>
    cases w with
    | none => exact nomatch h
    | some w =>
      simp only [verdictMembers, List.cons.injEq, Prod.mk.injEq, Value.string.injEq,
        Value.bool.injEq, true_and, and_true] at h
      exact congrArg some (Prod.ext (name_inj h.1) h.2)

/-- Different stories have different values. -/
theorem value_injective : Function.Injective value := by
  rintro ⟨l, v, cs, fs⟩ ⟨l', v', cs', fs'⟩ h
  have hmembers : l.name = l'.name ∧ verdictMembers v = verdictMembers v' ∧
      cs.map Chapter.value = cs'.map Chapter.value ∧ filesValue fs = filesValue fs' := by
    cases v <;> cases v' <;> simp_all [value, verdictMembers]
  obtain ⟨hlevel, hverdict, hchapters, hfiles⟩ := hmembers
  rw [name_inj hlevel, verdictMembers_inj hverdict, filesValue_injective hfiles,
    List.map_injective_iff.mpr Chapter.value_injective hchapters]

end Story

/-! ## The texts of an assessment -/

open Render

variable {a : Assessment}

/-- The markdown text on an assessment has the lines of its story. -/
theorem Assessment.markdown_eq (a : Assessment) (allowed : Option Level) :
    Markdown.assessment a allowed = Text.lines ((a.story allowed).lines.map Story.Line.text) := by
  have hverdict : Markdown.verdictLines a.level allowed =
      (Story.verdictLines (a.story allowed).verdict).map Story.Line.text := by
    cases allowed with
    | none => rfl
    | some l =>
      simp only [Markdown.verdictLines, story, Option.map_some, Story.verdictLines]
      cases a.level.fits l <;> rfl
  have hempty : Markdown.emptyLines a.report =
      (Story.emptyLines (a.story allowed).chapters).map Story.Line.text := by
    simp only [Markdown.emptyLines, Report.isEmpty_iff, Story.emptyLines, story,
      List.map_eq_nil_iff]
    split <;> rfl
  have hchapters : a.report.contexts.flatMap (Markdown.contextLines a.report) =
      ((a.story allowed).chapters.flatMap Story.Chapter.lines).map Story.Line.text := by
    rw [story, List.flatMap_map, List.map_flatMap]
    refine List.flatMap_congr fun context _ => ?_
    -- Level by level the formats meet the operations of the context in the order of the report.
    have hitems : (Level.all.reverse.flatMap fun level =>
        (a.report.operations context level).map Markdown.operationLine) =
        ((a.report.inContext context).map (·.2)).map Markdown.operationLine := by
      rw [← Report.flatMap_operations, List.map_flatMap]
    simp only [Markdown.contextLines, hitems, Report.chapter, Story.Chapter.lines, List.map_append,
      List.map_map, List.map_cons, List.map_nil]
    rfl
  have hfiles : Markdown.changedLines a.changedFiles =
      (Story.fileLines (a.story allowed).files).map Story.Line.text := by
    rw [Markdown.changedLines, Story.fileLines, story]
    cases a.changedFiles.isEmpty with
    | true => rfl
    | false =>
      simp only [Bool.false_eq_true, if_false, Story.Fate.all, Story.Fate.files, List.flatMap_cons,
        List.flatMap_nil, List.map_append, List.map_map, List.append_nil, List.append_assoc]
      rfl
  simp only [Markdown.assessment, hverdict, hempty, hchapters, hfiles, Story.lines,
    List.map_append]
  rfl

/-- The JSON text on an assessment is that of the value of its story, if the report is filed. -/
theorem Assessment.json_eq (h : a.report.Filed) (allowed : Option Level) :
    Json.assessment a allowed = (a.story allowed).value.pretty ++ "\n" := by
  have hcontext : Json.context a.report = fun context => (a.report.chapter context).value := by
    funext context
    -- The one format tells the level of the cell, the other that of the operation.
    have hitems : ((a.report.inContext context).map fun e => Json.operation e.1 e.2) =
        (a.report.inContext context).map fun e => e.2.item.value := by
      refine List.map_congr_left fun e he => ?_
      rw [← h.cellOf_eq he]
      rfl
    simp only [Json.context, hitems, Report.chapter, Story.Chapter.value, List.map_map,
      Function.comp_def]
  have hverdict : Json.verdict a.level allowed =
      Story.verdictMembers (a.story allowed).verdict := by
    cases allowed <;> rfl
  rw [Json.assessment, Json.assessmentValue, hcontext, hverdict, Story.value]
  simp only [Assessment.story, List.map_map, Function.comp_def]
  rfl

/-- The operations of a story are those of the report, each once, in the order of the report. -/
theorem Assessment.items_eq (a : Assessment) (allowed : Option Level) :
    (a.story allowed).chapters.flatMap (·.items) = a.report.entries.map (·.2.item) := by
  rw [← Report.flatMap_inContext, List.map_flatMap, story, List.flatMap_map]
  rfl

/-- Assessments with one JSON text have one markdown text. -/
theorem Assessment.markdown_eq_of_json_eq {b : Assessment} (ha : a.report.Filed)
    (hb : b.report.Filed) {allowed allowed' : Option Level}
    (h : Json.assessment a allowed = Json.assessment b allowed') :
    Markdown.assessment a allowed = Markdown.assessment b allowed' := by
  rw [json_eq ha, json_eq hb, String.append_left_inj] at h
  have hstory := Story.value_injective (Value.pretty_injective h)
  rw [markdown_eq, markdown_eq, hstory]

/-- Both texts on an assessment tell its story. -/
structure Assessment.ToldAlike (a : Assessment) (allowed : Option Level) : Prop where
  /-- The markdown text has the lines of the story. -/
  markdown : Markdown.assessment a allowed =
    Text.lines ((a.story allowed).lines.map Story.Line.text)
  /-- The story can be taken from these lines. -/
  markdown_told : Story.ofLines (a.story allowed).lines = a.story allowed
  /-- The JSON text is that of the value of the story. -/
  json : Json.assessment a allowed = (a.story allowed).value.pretty ++ "\n"
  /-- It is the text of no other story. -/
  json_told (s : Story) : Json.assessment a allowed = s.value.pretty ++ "\n" → s = a.story allowed
  /-- The story has the operations of the report, each once, in its order. -/
  items : (a.story allowed).chapters.flatMap (·.items) = a.report.entries.map (·.2.item)
  /-- It has the contexts of the report with their levels. -/
  headings : (a.story allowed).chapters.map (fun c => (c.heading, c.level)) =
    a.report.contexts.map fun context => (context.name, a.report.levelIn context)
  /-- In the chapter of a context stand the operations of the context. -/
  chapters (context : Context) : (a.report.chapter context).items =
    (a.report.toList.filter (·.context = context)).map Operation.item

/-- The texts on an assessment tell the same story. -/
theorem Report.Built.told_alike (h : a.report.Built) (allowed : Option Level) :
    a.ToldAlike allowed where
  markdown := a.markdown_eq allowed
  markdown_told := Story.ofLines_lines _
  json := Assessment.json_eq h.filed allowed
  json_told s hs := by
    rw [Assessment.json_eq h.filed allowed, String.append_left_inj] at hs
    exact (Story.value_injective (Json.Value.pretty_injective hs)).symm
  items := a.items_eq allowed
  headings := by simp only [Assessment.story, List.map_map]; rfl
  chapters context := by rw [h.filed.filter_toList, Report.chapter, List.map_map]; rfl

/-- An operation of some level and context. -/
private def sample (level : Level) (context : Context) (target : String) : Operation :=
  ⟨.database .columnRemove, "DB107", level, context, target, ⟨"etc/db_schema.json"⟩,
    "Column was removed"⟩

/-- Operations that are filed in any order are told by context and level, contexts that are not
known being the last. -/
theorem Report.Built.told_alike_custom :
    let r := Report.ofList [sample .minor (.custom "cron") "a", sample .none .database "b",
      sample .major .database "c", sample .minor (.custom "cron") "d"]
    let a : Assessment := { report := r, changedFiles := { removed := ["e"] }, level := .major }
    r.Built ∧ a.ToldAlike (some .minor) ∧ a.story (some .minor) =
      { level := .major
        verdict := some (.minor, false)
        chapters :=
          [⟨"database", .major,
            [(sample .major .database "c").item, (sample .none .database "b").item]⟩,
           ⟨"cron", .minor, [(sample .minor (.custom "cron") "a").item,
            (sample .minor (.custom "cron") "d").item]⟩]
        files := { removed := ["e"] } } := by
  intro r a
  have hr : r.Built := .addAll _ .empty
  exact ⟨hr, hr.told_alike (some .minor), by decide +kernel⟩

end VersionBump
