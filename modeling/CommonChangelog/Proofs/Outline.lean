import CommonChangelog.Document.Parse
import CommonChangelog.Proofs.Lines

/-!
# The outline of a document

Reading is one pass that keeps a state; the outline says what each part of the document is in
terms of the lines alone. The title is the last one before the first heading of a release. A
release is a version heading with its block, the lines up to the next heading of a release, well
formed or not. In the block, the notices before the first category heading are the notice of the
release, and each category heading with entries under it is a group.

Main result: `ofLines_eq`. From it follow the laws of pieces: what stands before a heading has no
influence on the releases after it (`releases_append`), and lines without a role have none at all
(`ofLines_filter`).
-/

namespace CommonChangelog

namespace Line

/-- A heading of the second level, well formed or not. -/
def isHeading : Line → Bool
  | version _ _ | malformed _ => true
  | _ => false

def isVersion : Line → Bool
  | version _ _ => true
  | _ => false

theorem version_or (line : Line) :
    (∃ label date, line = version label date) ∨ line.isVersion = false := by
  cases line with
  | version label date => exact .inl ⟨label, date, rfl⟩
  | _ => exact .inr rfl

theorem isVersion_of_isHeading {line : Line} (h : line.isHeading = false) :
    line.isVersion = false := by
  cases line <;> first | rfl | exact h

def isCategory : Line → Bool
  | category _ => true
  | _ => false

/-- The line has a role at some place of a document. -/
def hasRole : Line → Bool
  | blank | other _ => false
  | _ => true

def title? : Line → Option Text
  | title text => some text
  | _ => none

def notice? : Line → Option Text
  | notice text => some text
  | _ => none

def entry? : Line → Option Text
  | entry text => some text
  | _ => none

end Line

namespace Outline

/-! ## The parts of a document -/

/-- The lines before the next heading of a release. -/
def block (lines : List Line) : List Line := lines.takeWhile (!·.isHeading)

/-- The lines before the next category heading. -/
def beforeCategory (lines : List Line) : List Line := lines.takeWhile (!·.isCategory)

/-- The last title of a list of lines. -/
def titleOr (title : Text) (lines : List Line) : Text :=
  (lines.filterMap Line.title?).getLastD title

/-- The title of a document. -/
def title (lines : List Line) : Text := titleOr defaultTitle (block lines)

/-- The notices before the first category. -/
def notices (lines : List Line) : List Text := (beforeCategory lines).filterMap Line.notice?

/-- The changes before the next category. -/
def changes (lines : List Line) : List Change :=
  ((beforeCategory lines).filterMap Line.entry?).map Change.ofEntry

/-- A group, if it has changes. -/
def nonempty (group : Group) : List Group := if group.changes.isEmpty then [] else [group]

/-- The groups under the category headings of a block. -/
def groups (rules : Rules) : List Line → List Group
  | [] => []
  | .category heading :: rest =>
    nonempty ⟨rules.category heading, heading, changes rest⟩ ++ groups rules rest
  | _ :: rest => groups rules rest

/-- The notice that a list of notices makes up. -/
def notice? (notices : List Text) : Option Text :=
  match Text.trim (Text.join " " notices) with
  | [] => none
  | text => some text

/-- The release with this heading and this block. -/
def release (rules : Rules) (label : Text) (date : Option Text) (block : List Line) : Release :=
  { label, date, notice := notice? (notices block), groups := groups rules block }

/-- The releases of a document. -/
def releases (rules : Rules) : List Line → List Release
  | [] => []
  | .version label date :: rest => release rules label date (block rest) :: releases rules rest
  | _ :: rest => releases rules rest

/-! ## One line more -/

variable {rules : Rules} {line : Line}

theorem block_of_heading (h : line.isHeading) (rest : List Line) : block (line :: rest) = [] := by
  rw [block, List.takeWhile_cons, h]; rfl

theorem block_cons (h : line.isHeading = false) (rest : List Line) :
    block (line :: rest) = line :: block rest := by
  rw [block, List.takeWhile_cons, h]; rfl

theorem beforeCategory_cons (h : line.isCategory = false) (rest : List Line) :
    beforeCategory (line :: rest) = line :: beforeCategory rest := by
  rw [beforeCategory, List.takeWhile_cons, h]; rfl

theorem notices_cons (h : line.isCategory = false) (rest : List Line) :
    notices (line :: rest) = line.notice?.toList ++ notices rest := by
  rw [notices, beforeCategory_cons h, List.filterMap_cons, notices]
  cases line.notice? <;> rfl

theorem changes_cons (h : line.isCategory = false) (rest : List Line) :
    changes (line :: rest) = (line.entry?.map Change.ofEntry).toList ++ changes rest := by
  rw [changes, beforeCategory_cons h, List.filterMap_cons, changes]
  cases line.entry? <;> rfl

theorem groups_cons (h : line.isCategory = false) (rest : List Line) :
    groups rules (line :: rest) = groups rules rest := by
  cases line <;> first | rfl | exact absurd h Bool.noConfusion

theorem releases_cons (h : line.isVersion = false) (rest : List Line) :
    releases rules (line :: rest) = releases rules rest := by
  cases line <;> first | rfl | exact absurd h Bool.noConfusion

theorem exists_of_mem_releases {lines : List Line} {r : Release} (h : r ∈ releases rules lines) :
    ∃ label date block, block ⊆ lines ∧ r = release rules label date block := by
  induction lines with
  | nil => exact absurd h List.not_mem_nil
  | cons line lines ih =>
    rcases line.version_or with ⟨label, date, rfl⟩ | hl
    · rcases List.mem_cons.1 h with rfl | h
      · have hblock : block lines ⊆ lines := (List.takeWhile_sublist _).subset
        exact ⟨label, date, block lines, List.subset_cons_of_subset _ hblock, rfl⟩
      · obtain ⟨label, date, block, hblock, rfl⟩ := ih h
        exact ⟨label, date, block, List.subset_cons_of_subset _ hblock, rfl⟩
    · rw [releases_cons hl] at h
      obtain ⟨label, date, block, hblock, rfl⟩ := ih h
      exact ⟨label, date, block, List.subset_cons_of_subset _ hblock, rfl⟩

/-! ## Reading follows the outline -/

theorem withNotices_eq (r : Release) (texts : List Text) :
    Place.withNotices r texts = { r with notice := (notice? texts).or r.notice } := by
  unfold Place.withNotices notice?
  cases Text.trim (Text.join " " texts) <;> rfl

theorem withGroup_eq (r : Release) (g : Group) :
    Place.withGroup r g = { r with groups := r.groups ++ nonempty g } := by
  unfold Place.withGroup nonempty
  split
  · rw [List.append_nil]
  · rfl

/-- What becomes of the open release, given the block that follows. -/
def complete (rules : Rules) (block : List Line) : Place → List Release
  | .header | .skipped => []
  | .release r texts =>
    [{ r with
      notice := (notice? (texts ++ notices block)).or r.notice
      groups := r.groups ++ groups rules block }]
  | .group r g =>
    [{ r with
      groups := r.groups ++ nonempty { g with changes := g.changes ++ changes block } ++
        groups rules block }]

theorem complete_nil (place : Place) : complete rules [] place = place.close := by
  cases place with
  | header => rfl
  | skipped => rfl
  | release r texts =>
    rw [complete, Place.close, withNotices_eq]
    simp only [notices, beforeCategory, groups, List.takeWhile_nil, List.filterMap_nil,
      List.append_nil]
  | group r g =>
    rw [complete, Place.close, withGroup_eq]
    simp only [changes, beforeCategory, groups, List.takeWhile_nil, List.filterMap_nil,
      List.map_nil, List.append_nil]

/-- The place after a category heading. -/
theorem complete_category (heading : Text) (rest : List Line) (reader : Reader) :
    complete rules rest (reader.step rules (.category heading)).place =
      complete rules (.category heading :: rest) reader.place := by
  obtain ⟨text, rs, place⟩ := reader
  cases place with
  | header => rfl
  | skipped => rfl
  | release r texts =>
    simp [Reader.step, complete, withNotices_eq, Reader.openGroup, groups, notices, beforeCategory,
      Line.isCategory]
  | group r g =>
    simp [Reader.step, complete, withGroup_eq, Reader.openGroup, groups, changes, beforeCategory,
      Line.isCategory]

/-- A line that is no heading of any level only adds to what is open. -/
theorem complete_body (h : line.isHeading = false) (hc : line.isCategory = false)
    (rest : List Line) (reader : Reader) :
    complete rules rest (reader.step rules line).place =
      complete rules (line :: rest) reader.place := by
  obtain ⟨text, rs, place⟩ := reader
  cases place with
  | header => cases line <;> first | rfl | exact absurd h Bool.noConfusion
  | skipped => cases line <;> first | rfl | exact absurd h Bool.noConfusion
  | release r texts =>
    simp only [complete, notices_cons hc, groups_cons hc]
    cases line with
    | notice t => simp [Reader.step, Line.notice?]
    | version | malformed => exact absurd h Bool.noConfusion
    | category => exact absurd hc Bool.noConfusion
    | _ => rfl
  | group r g =>
    simp only [complete, changes_cons hc, groups_cons hc]
    cases line with
    | entry t => simp [Reader.step, Line.entry?]
    | version | malformed => exact absurd h Bool.noConfusion
    | category => exact absurd hc Bool.noConfusion
    | _ => rfl

/-- One step keeps the releases that the document will have. -/
theorem releases_step (reader : Reader) (line : Line) (rest : List Line) :
    (reader.step rules line).releases ++
        complete rules (block rest) (reader.step rules line).place ++ releases rules rest =
      reader.releases ++ complete rules (block (line :: rest)) reader.place ++
        releases rules (line :: rest) := by
  cases hl : line with
  | version label date =>
    rw [block_of_heading rfl, complete_nil]
    simp [Reader.step, Reader.moveTo, complete, releases, release]
  | malformed text =>
    rw [block_of_heading rfl, complete_nil]
    simp [Reader.step, Reader.moveTo, complete, releases]
  | category heading =>
    rw [block_cons rfl, releases_cons rfl, ← complete_category]
    cases hp : reader.place <;> simp only [Reader.step, hp]
  | title _ | notice _ | entry _ | blank | other _ =>
    rw [block_cons rfl, releases_cons rfl, ← complete_body rfl rfl]
    cases hp : reader.place <;> simp only [Reader.step, hp]

theorem releases_finish (reader : Reader) (lines : List Line) :
    (lines.foldl (Reader.step rules) reader).finish.releases =
      reader.releases ++ complete rules (block lines) reader.place ++ releases rules lines := by
  induction lines generalizing reader with
  | nil => rw [List.foldl_nil, Reader.finish, block, List.takeWhile_nil, complete_nil, releases,
      List.append_nil]
  | cons line rest ih => rw [List.foldl_cons, ih, releases_step]

/-- The title that the document will have. -/
def titleAfter (reader : Reader) (lines : List Line) : Text :=
  match reader.place with
  | .header => titleOr reader.title (block lines)
  | _ => reader.title

theorem titleOr_cons (text : Text) (line : Line) (rest : List Line) :
    titleOr text (line :: rest) = titleOr (line.title?.getD text) rest := by
  rw [titleOr, List.filterMap_cons, titleOr]
  cases line.title? with
  | none => rfl
  | some t => rw [List.getLastD_cons]; rfl

theorem titleAfter_step (reader : Reader) (line : Line) (rest : List Line) :
    titleAfter (reader.step rules line) rest = titleAfter reader (line :: rest) := by
  obtain ⟨text, rs, place⟩ := reader
  cases line with
  | version _ _ | malformed _ => cases place <;> rfl
  | title t =>
    cases place with
    | header =>
      show titleOr t (block rest) = titleOr text (block (.title t :: rest))
      rw [block_cons rfl, titleOr_cons]; rfl
    | _ => rfl
  | _ => cases place <;> rfl

theorem title_finish (reader : Reader) (lines : List Line) :
    (lines.foldl (Reader.step rules) reader).finish.title = titleAfter reader lines := by
  induction lines generalizing reader with
  | nil =>
    rw [List.foldl_nil, Reader.finish, titleAfter]
    cases reader.place <;> rfl
  | cons line rest ih => rw [List.foldl_cons, ih, titleAfter_step]

/-- **A document is its outline.** -/
theorem ofLines_eq (rules : Rules) (lines : List Line) :
    Changelog.ofLines rules lines = ⟨title lines, releases rules lines⟩ := by
  have ht : (Changelog.ofLines rules lines).title = title lines :=
    title_finish {} lines
  have hr : (Changelog.ofLines rules lines).releases = releases rules lines :=
    releases_finish {} lines
  rw [← ht, ← hr]

/-! ## Pieces of a document -/

/-- Lines without a role have no influence. -/
theorem ofLines_filter (rules : Rules) (lines : List Line) :
    Changelog.ofLines rules (lines.filter Line.hasRole) = Changelog.ofLines rules lines := by
  have hstep : (fun reader line => if Line.hasRole line then Reader.step rules reader line
      else reader) = Reader.step rules := by
    funext reader line
    cases line <;> rfl
  rw [Changelog.ofLines, List.foldl_filter, hstep, Changelog.ofLines]

theorem block_append {lines : List Line} (h : ∀ line ∈ lines, line.isHeading = false)
    (rest : List Line) : block (lines ++ rest) = lines ++ block rest := by
  rw [block, List.takeWhile_append_of_pos, block]
  intro line hl
  rw [h line hl]; rfl

theorem block_append_of_heading (lines : List Line) {rest : List Line}
    (h : ∀ line ∈ rest.head?, line.isHeading) : block (lines ++ rest) = block lines := by
  induction lines with
  | nil =>
    cases rest with
    | nil => rfl
    | cons line rest => exact block_of_heading (h line rfl) rest
  | cons line lines ih =>
    cases hl : line.isHeading with
    | true => rw [List.cons_append, block_of_heading hl, block_of_heading hl]
    | false => rw [List.cons_append, block_cons hl, block_cons hl, ih]

/-- The releases after a heading do not depend on what stands before it. -/
theorem releases_append (lines : List Line) {rest : List Line}
    (h : ∀ line ∈ rest.head?, line.isHeading) :
    releases rules (lines ++ rest) = releases rules lines ++ releases rules rest := by
  induction lines with
  | nil => rfl
  | cons line lines ih =>
    rcases line.version_or with ⟨label, date, rfl⟩ | hl
    · rw [List.cons_append, releases, releases, block_append_of_heading lines h, ih,
        List.cons_append]
    · rw [List.cons_append, releases_cons hl, releases_cons hl, ih]

theorem releases_of_no_version {lines : List Line} (h : ∀ line ∈ lines, line.isVersion = false) :
    releases rules lines = [] := by
  induction lines with
  | nil => rfl
  | cons line lines ih =>
    rw [releases_cons (h line List.mem_cons_self),
      ih fun l hl => h l (List.mem_cons_of_mem line hl)]

end Outline

/-- The document of a text may be read off the pieces between its newlines. -/
theorem Changelog.ofText_eq (rules : Rules) (content : Text) :
    ofText rules content = ofLines rules ((Text.split '\n' content).map Line.classify) := by
  have hdrop : Line.classify ∘ Text.dropReturn = Line.classify :=
    funext fun s => Line.classify_dropReturn s
  obtain ⟨init, last, hs⟩ : ∃ init last, Text.split '\n' content = init ++ [last] :=
    ⟨_, _, (List.dropLast_concat_getLast (Text.split_ne_nil '\n' content)).symm⟩
  have hlines : Text.lines content = init.map Text.dropReturn ++ [last].filter (!·.isEmpty) := by
    rw [Text.lines, hs, List.dropLast_concat, List.getLast?_concat]
    cases last <;> simp
  rw [ofText, hlines, hs, ← Outline.ofLines_filter, ← Outline.ofLines_filter rules (List.map _ _)]
  congr 1
  simp only [List.map_append, List.map_map, hdrop, List.filter_append]
  cases last <;> rfl

end CommonChangelog
