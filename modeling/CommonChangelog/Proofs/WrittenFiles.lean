import CommonChangelog.FileSystem
import CommonChangelog.Proofs.Lines

/-!
# What writing a file changes

A path is looked up name by name, and each name but the last has to be that of a directory. So one
file may be reached by many paths, and a file that comes into being may, in principle, change what
other paths mean. It does not: the file is written into a directory that is there already, and
where it is written there was no directory before. All places but one hold what they held, so every
path leads where it led.

The steps of a place (`Place.steps`) are the pieces of its path. Names have no slash in them and are
not `..`, so the steps determine the place, and one path lies below another exactly if the steps do.

Main results: `FileSystem.text?_learn_of_eq`, `FileSystem.text?_learn_of_ne`.
-/

namespace CommonChangelog

theorem Snapshot.read?_put (files : Snapshot) (path text other : Text) :
    (files.put path text).read? other = if other = path then some text else files.read? other := by
  have hremove : (files.remove path).lookup other =
      if other = path then none else files.lookup other := by
    induction files with
    | nil => simp [remove]
    | cons file files ih =>
      obtain ⟨name, content⟩ := file
      by_cases hname : name = path
      · rw [remove, List.filter_cons_of_neg (by simpa using hname), ← remove, ih, List.lookup_cons,
          hname]
        by_cases hother : other = path
        · simp [hother]
        · simp [hother, beq_false_of_ne hother]
      · rw [remove, List.filter_cons_of_pos (by simpa using hname), ← remove, List.lookup_cons, ih,
          List.lookup_cons]
        by_cases hother : other = path
        · simp [hother, beq_false_of_ne (Ne.symm hname)]
        · simp [hother]
  rw [read?, put, List.lookup_append, hremove]
  by_cases hother : other = path <;> simp [hother, read?]

/-- What begins as often with the same is equal from there on. -/
theorem replicate_append_prefix {α : Type} {x : α} {l m : Nat} {as bs : List α} (hne : as ≠ [])
    (has : x ∉ as) (hbs : x ∉ bs) (h : List.replicate l x ++ as <+: List.replicate m x ++ bs) :
    l = m ∧ as <+: bs := by
  induction l generalizing m with
  | zero =>
    cases m with
    | zero => exact ⟨rfl, h⟩
    | succ m =>
      obtain ⟨a, as, rfl⟩ := List.exists_cons_of_ne_nil hne
      rw [(List.cons_prefix_cons.1 h).1] at has
      exact absurd List.mem_cons_self has
  | succ l ih =>
    cases m with
    | zero => exact absurd (h.subset List.mem_cons_self) hbs
    | succ m =>
      obtain ⟨rfl, hprefix⟩ := ih (List.cons_prefix_cons.1 h).2
      exact ⟨rfl, hprefix⟩

namespace FileSystem

/-! ## Places and their steps -/

namespace Place

/-- The names of a place can be those of files: none is empty, has a slash in it, or is `..`. -/
def Plain (place : Place) : Prop :=
  ∀ name ∈ place.names, name ≠ [] ∧ '/' ∉ name ∧ name ≠ ['.', '.']

/-- The pieces of the path of a place; a path from the root begins with an empty one. -/
def steps : Place → List Text
  | ⟨.above levels, names⟩ => List.replicate levels ['.', '.'] ++ names
  | ⟨.root, names⟩ => [] :: names

variable {p q : Place}

theorem Plain.up (h : p.Plain) : p.up.Plain := by
  rcases p with ⟨origin, _ | ⟨name, names⟩⟩
  · cases origin <;> exact fun _ hmem => absurd hmem List.not_mem_nil
  · exact fun other hmem => h other (List.dropLast_subset _ hmem)

theorem Plain.child (h : p.Plain) {name : Text} (hne : name ≠ []) (hslash : '/' ∉ name)
    (hup : name ≠ ['.', '.']) : (p.child name).Plain := by
  rw [Plain, Place.child, List.forall_mem_append, List.forall_mem_singleton]
  exact ⟨h, hne, hslash, hup⟩

theorem path_eq_join (h : p.names ≠ []) : p.path = Text.join ['/'] p.steps := by
  rcases p with ⟨levels | _, names⟩
  · rfl
  · obtain ⟨name, names, rfl⟩ := List.exists_cons_of_ne_nil h
    rw [steps, Text.join_cons_cons]
    rfl

theorem Plain.split_path (h : p.Plain) (hne : p.names ≠ []) :
    Text.split '/' p.path = p.steps := by
  have hslash : ∀ step ∈ p.steps, '/' ∉ step := by
    intro step hmem
    rcases p with ⟨levels | _, names⟩
    · rcases List.mem_append.1 hmem with hmem | hmem
      · rw [List.eq_of_mem_replicate hmem]
        decide
      · exact (h step hmem).2.1
    · rcases List.mem_cons.1 hmem with rfl | hmem
      · exact List.not_mem_nil
      · exact (h step hmem).2.1
  have hsteps : p.steps ≠ [] := by
    rcases p with ⟨levels | _, names⟩
    · exact List.append_ne_nil_of_right_ne_nil _ hne
    · exact List.cons_ne_nil [] names
  rw [path_eq_join hne, Text.split_join hsteps hslash]

/-- The path of an origin ends with no name, or with two dots. -/
theorem getLast?_split_path_of_nil (h : p.names = []) :
    (Text.split '/' p.path).getLast? = some [] ∨
      (Text.split '/' p.path).getLast? = some ['.', '.'] := by
  rcases p with ⟨levels | _, names⟩ <;> cases h
  · cases levels with
    | zero => exact .inl rfl
    | succ levels =>
      have hpath : path ⟨.above (levels + 1), []⟩ =
          Text.join ['/'] (List.replicate (levels + 1) ['.', '.']) := by
        rw [path, List.append_nil]
        rfl
      have hslash : ∀ step ∈ List.replicate (levels + 1) (['.', '.'] : Text), '/' ∉ step := by
        intro step hmem
        rw [List.eq_of_mem_replicate hmem]
        decide
      right
      rw [hpath, Text.split_join (by simp) hslash, List.getLast?_replicate]
      rfl
  · exact .inl rfl

theorem Plain.getLast?_split_path (h : p.Plain) (hne : p.names ≠ []) :
    ∃ name ∈ p.names, (Text.split '/' p.path).getLast? = some name := by
  refine ⟨p.names.getLast hne, List.getLast_mem hne, ?_⟩
  rw [h.split_path hne]
  rcases p with ⟨levels | _, names⟩
  · rw [steps, List.getLast?_append, List.getLast?_eq_some_getLast hne]
    rfl
  · obtain ⟨name, names, rfl⟩ := List.exists_cons_of_ne_nil hne
    rw [steps, List.getLast?_cons_cons, List.getLast?_eq_some_getLast hne]

/-- Steps that begin other ones lead down from the same origin. -/
theorem Plain.names_prefix (hp : p.Plain) (hq : q.Plain) (hne : p.names ≠ [])
    (h : p.steps <+: q.steps) : p.origin = q.origin ∧ p.names <+: q.names := by
  have hup : ∀ {place : Place}, place.Plain → (['.', '.'] : Text) ∉ place.names :=
    fun h hmem => (h _ hmem).2.2 rfl
  have hempty : ∀ {place : Place}, place.Plain → ([] : Text) ∉ place.names :=
    fun h hmem => (h _ hmem).1 rfl
  rcases p with ⟨l | _, ns⟩ <;> rcases q with ⟨m | _, ms⟩
  · obtain ⟨rfl, hprefix⟩ := replicate_append_prefix hne (hup hp) (hup hq) h
    exact ⟨rfl, hprefix⟩
  · -- A path from the working directory does not begin with an empty piece.
    cases l with
    | zero =>
      obtain ⟨n, ns, rfl⟩ := List.exists_cons_of_ne_nil hne
      exact absurd (List.cons_prefix_cons.1 h).1 (hp n List.mem_cons_self).1
    | succ l => exact absurd (List.cons_prefix_cons.1 h).1 (List.cons_ne_nil _ _)
  · have hmem : ([] : Text) ∈ List.replicate m ['.', '.'] ++ ms := h.subset List.mem_cons_self
    rcases List.mem_append.1 hmem with hmem | hmem
    · exact absurd (List.eq_of_mem_replicate hmem) (List.cons_ne_nil _ _).symm
    · exact absurd hmem (hempty hq)
  · exact ⟨rfl, (List.cons_prefix_cons.1 h).2⟩

/-- The path of a name is that of no other place. -/
theorem Plain.eq_of_path_eq (hp : p.Plain) (hq : q.Plain) (hne : q.names ≠ [])
    (h : p.path = q.path) : p = q := by
  have hnames : p.names ≠ [] := by
    intro hnil
    obtain ⟨name, hmem, hlast⟩ := hq.getLast?_split_path hne
    have hname := hq name hmem
    rw [← h] at hlast
    rcases getLast?_split_path_of_nil hnil with hp | hp <;> rw [hp, Option.some.injEq] at hlast
    · exact hname.1 hlast.symm
    · exact hname.2.2 hlast.symm
  have hsteps : p.steps = q.steps := by
    rw [← hp.split_path hnames, ← hq.split_path hne, h]
  have hpq := hp.names_prefix hq hnames (hsteps ▸ List.prefix_rfl)
  have hqp := hq.names_prefix hp hne (hsteps ▸ List.prefix_rfl)
  have hlength := Nat.le_antisymm hpq.2.length_le hqp.2.length_le
  cases p
  cases q
  rw [mk.injEq]
  exact ⟨hpq.1, hpq.2.eq_of_length hlength⟩

/-- A place with names whose path lies below that of another one. -/
theorem Plain.names_prefix_of_isBelow (hp : p.Plain) (hq : q.Plain) (hpne : p.names ≠ [])
    (hqne : q.names ≠ []) (h : Snapshot.isBelow p.path q.path) :
    p.origin = q.origin ∧ p.names <+: q.names ∧ p.names ≠ q.names := by
  obtain ⟨rest, hrest⟩ := Text.startsWith_iff.1 h
  have hsteps : p.steps ++ Text.split '/' rest = q.steps := by
    rw [← hp.split_path hpne, ← hq.split_path hqne, ← hrest, List.append_assoc]
    exact (Text.split_append p.path rest).symm
  obtain ⟨horigin, hnames⟩ := hp.names_prefix hq hpne (hsteps ▸ List.prefix_append _ _)
  refine ⟨horigin, hnames, fun heq => ?_⟩
  have hsame : p.steps = q.steps := by
    cases p
    cases q
    cases horigin
    cases heq
    rfl
  rw [hsame, List.append_right_eq_self] at hsteps
  exact Text.split_ne_nil '/' rest hsteps

end Place

/-! ## Looking up a path -/

variable {files : FileSystem} {place : Place}

/-- Every step on the way to the place is a directory. -/
structure Reached (files : FileSystem) (place : Place) : Prop where
  plain : place.Plain
  directories : ∀ names, names <+: place.names → names ≠ place.names →
    files.isDirectory ⟨place.origin, names⟩

theorem reached_origin (origin : Origin) : Reached files { origin } where
  plain := fun _ hmem => absurd hmem List.not_mem_nil
  directories := fun _ hprefix hne => absurd (List.prefix_nil.1 hprefix) hne

theorem Reached.up (h : Reached files place) : Reached files place.up := by
  refine ⟨h.plain.up, ?_⟩
  rcases place with ⟨origin, _ | ⟨name, names⟩⟩
  · cases origin <;> exact fun _ hprefix hne => absurd (List.prefix_nil.1 hprefix) hne
  · intro others hothers hne
    refine h.directories others (hothers.trans (List.dropLast_prefix _)) ?_
    rintro rfl
    have hlength := hothers.length_le
    rw [Place.up, List.length_dropLast, List.length_cons] at hlength
    omega

theorem Reached.child (h : Reached files place) (hdirectory : files.isDirectory place)
    {name : Text} (hne : name ≠ []) (hslash : '/' ∉ name) (hup : name ≠ ['.', '.']) :
    Reached files (place.child name) := by
  refine ⟨h.plain.child hne hslash hup, fun names hprefix hnames => ?_⟩
  rcases List.prefix_concat_iff.1 hprefix with rfl | hprefix
  · exact absurd rfl hnames
  · by_cases heq : names = place.names
    · rw [heq]
      exact hdirectory
    · exact h.directories names hprefix heq

theorem isDirectory_of_nodeAt (h : files.nodeAt place = .directory) :
    files.isDirectory place := by
  unfold nodeAt at h
  split at h
  · cases h
  · split at h
    · assumption
    · cases h

theorem requireDirectory_eq_ok : files.requireDirectory place = .ok () ↔
    files.nodeAt place = .directory := by
  unfold requireDirectory
  cases files.nodeAt place <;> simp

/-- One step of a path. -/
theorem walk_cons_eq_ok {start : Place} {name : Text} {rest : List Text} :
    files.walk start (name :: rest) = .ok place ↔
      files.nodeAt start = .directory ∧
        if name.isEmpty || name = ['.'] then files.walk start rest = .ok place
        else if name = ['.', '.'] then files.walk start.up rest = .ok place
        else byteCount name ≤ nameLimit ∧ files.walk (start.child name) rest = .ok place := by
  rw [← requireDirectory_eq_ok, walk]
  rcases files.requireDirectory start with fault | _
  · simp [bind, Except.bind]
  · by_cases hname : name.isEmpty || name = ['.']
    · simp [bind, Except.bind, hname]
    · by_cases hup : name = ['.', '.']
      · simp [bind, Except.bind, hup]
      · by_cases hlimit : nameLimit < byteCount name
        · simp [bind, Except.bind, hname, hup, hlimit, Nat.not_le.2 hlimit]
        · simp [bind, Except.bind, hname, hup, hlimit, Nat.not_lt.1 hlimit]

theorem Reached.walk {start : Place} (h : Reached files start) {names : List Text}
    (hslash : ∀ name ∈ names, '/' ∉ name) (hwalk : files.walk start names = .ok place) :
    Reached files place := by
  induction names generalizing start with
  | nil =>
    cases hwalk
    exact h
  | cons name rest ih =>
    rw [List.forall_mem_cons] at hslash
    obtain ⟨hdirectory, hwalk⟩ := walk_cons_eq_ok.1 hwalk
    split at hwalk
    · exact ih h hslash.2 hwalk
    · split at hwalk
      · exact ih h.up hslash.2 hwalk
      · rename_i hname hup
        rw [Bool.or_eq_true, not_or, List.isEmpty_iff] at hname
        have hchild := h.child (isDirectory_of_nodeAt hdirectory) hname.1 hslash.1 hup
        exact ih hchild hslash.2 hwalk.2

theorem place_eq_ok {path : Text} :
    files.place path = .ok place ↔
      pathFault? path = none ∧
        files.walk { origin := if isAbsolute path then .root else .above 0 }
          (Text.split '/' path) = .ok place := by
  rw [FileSystem.place, resolve]
  cases pathFault? path <;> simp

theorem reached_of_place {path : Text} (h : files.place path = .ok place) :
    Reached files place :=
  (reached_origin _).walk (fun _ hmem => Text.not_mem_of_mem_split hmem) (place_eq_ok.1 h).2

theorem place_of_target {path : Text} (h : files.target path = .ok place) :
    files.place path = .ok place ∧ files.isDirectory place = false := by
  unfold target at h
  split at h
  · rcases hresolve : files.resolve path (directoryNames path) with fault | directory
    · simp [bind, Except.bind, hresolve] at h
    · rcases hrequire : files.requireDirectory directory with fault | _ <;>
        simp [bind, Except.bind, hresolve, hrequire] at h
  · rcases hplace : files.place path with fault | found
    · simp [bind, Except.bind, hplace] at h
    · simp only [bind, Except.bind, hplace] at h
      split at h
      · cases h
      · rename_i hdirectory
        cases h
        exact ⟨rfl, Bool.eq_false_iff.2 hdirectory⟩

/-! ## One file more -/

variable {text : Text}

/-- Where a file can be written: the way there leads through directories, and there is none. -/
structure Writable (files : FileSystem) (place : Place) : Prop where
  reached : Reached files place
  isDirectory : files.isDirectory place = false

theorem Writable.names_ne_nil (h : Writable files place) : place.names ≠ [] := by
  intro hnil
  have hdirectory := h.isDirectory
  rw [FileSystem.isDirectory, hnil] at hdirectory
  cases hdirectory

theorem writable_of_target {path : Text} (h : files.target path = .ok place) :
    Writable files place :=
  ⟨reached_of_place (place_of_target h).1, (place_of_target h).2⟩

theorem Writable.isDirectory_learn (h : Writable files place) {other : Place} (ho : other.Plain) :
    (files.learn place (.file text)).isDirectory other = files.isDirectory other := by
  by_cases hnil : other.names = []
  · simp [FileSystem.isDirectory, hnil]
  · -- If the file lies below the other place, this place is on the way to it.
    have hbelow : Snapshot.isBelow other.path place.path → files.isDirectory other := by
      intro hbelow
      obtain ⟨horigin, hprefix, hnames⟩ :=
        ho.names_prefix_of_isBelow h.reached.plain hnil h.names_ne_nil hbelow
      have hdirectory := h.reached.directories other.names hprefix hnames
      rwa [← horigin] at hdirectory
    rw [Bool.eq_iff_iff]
    simp only [FileSystem.isDirectory, learn, Snapshot.put, Snapshot.remove, Bool.or_eq_true,
      List.any_append, List.any_eq_true, List.mem_filter, List.any_cons, List.any_nil,
      Bool.or_false, decide_eq_true_eq] at hbelow ⊢
    constructor
    · rintro (hknown | ⟨file, ⟨hmem, -⟩, hfile⟩ | hfile)
      · exact .inl hknown
      · exact .inr ⟨file, hmem, hfile⟩
      · exact hbelow hfile
    · rintro (hknown | ⟨file, hmem, hfile⟩)
      · exact .inl hknown
      · by_cases heq : file.1 = place.path
        · exact .inr (.inr (heq ▸ hfile))
        · exact .inr (.inl ⟨file, ⟨hmem, heq⟩, hfile⟩)

/-- **Writing a file changes what lies at its place, and nothing else.** -/
theorem Writable.nodeAt_learn (h : Writable files place) {other : Place} (ho : other.Plain) :
    (files.learn place (.file text)).nodeAt other =
      if other = place then .file text else files.nodeAt other := by
  by_cases heq : other = place
  · have hread : (files.learn place (.file text)).texts.read? other.path = some text := by
      rw [heq, learn, Snapshot.read?_put, if_pos rfl]
    rw [if_pos heq, nodeAt, hread]
  · have hpath : other.path ≠ place.path :=
      fun hpath => heq (ho.eq_of_path_eq h.reached.plain h.names_ne_nil hpath)
    have hread : (files.learn place (.file text)).texts.read? other.path =
        files.texts.read? other.path := by
      rw [learn, Snapshot.read?_put, if_neg hpath]
    rw [if_neg heq, nodeAt, hread, h.isDirectory_learn ho, nodeAt]

theorem Writable.nodeAt_learn_eq_directory (h : Writable files place) {other : Place}
    (ho : other.Plain) :
    (files.learn place (.file text)).nodeAt other = .directory ↔
      files.nodeAt other = .directory := by
  rw [h.nodeAt_learn ho]
  split
  · rename_i heq
    refine iff_of_false (by simp) fun hdirectory => ?_
    rw [heq] at hdirectory
    exact absurd (isDirectory_of_nodeAt hdirectory) (Bool.eq_false_iff.1 h.isDirectory)
  · exact Iff.rfl

/-- Every path leads where it led. -/
theorem Writable.walk_learn (h : Writable files place) {start found : Place} (hs : start.Plain)
    {names : List Text} (hslash : ∀ name ∈ names, '/' ∉ name) :
    (files.learn place (.file text)).walk start names = .ok found ↔
      files.walk start names = .ok found := by
  induction names generalizing start with
  | nil => exact Iff.rfl
  | cons name rest ih =>
    rw [List.forall_mem_cons] at hslash
    rw [walk_cons_eq_ok, walk_cons_eq_ok, h.nodeAt_learn_eq_directory hs]
    refine and_congr_right fun _ => ?_
    split
    · exact ih hs hslash.2
    · split
      · exact ih hs.up hslash.2
      · rename_i hname hup
        rw [Bool.or_eq_true, not_or, List.isEmpty_iff] at hname
        exact and_congr_right fun _ => ih (hs.child hname.1 hslash.1 hup) hslash.2

theorem Writable.place_learn (h : Writable files place) {path : Text} {found : Place} :
    (files.learn place (.file text)).place path = .ok found ↔ files.place path = .ok found := by
  have horigin : ∀ origin : Origin, Place.Plain { origin } :=
    fun _ _ hmem => absurd hmem List.not_mem_nil
  rw [place_eq_ok, place_eq_ok,
    h.walk_learn (horigin _) fun _ hmem => Text.not_mem_of_mem_split hmem]

/-! ## Reading after writing -/

/-- The text of the file that a path leads to, if it leads to one. -/
def text? (files : FileSystem) (path : Text) : Option Text := (files.read path).toOption

theorem text?_eq_some {path : Text} :
    files.text? path = some text ↔
      ∃ place, files.place path = .ok place ∧ files.nodeAt place = .file text := by
  rw [text?, read]
  rcases files.place path with fault | place
  · simp [bind, Except.bind, Except.toOption]
  · cases hnode : files.nodeAt place <;>
      simp [bind, Except.bind, Except.toOption, hnode]

variable {path other : Text}

/-- A path that leads to the written place has the new text. -/
theorem text?_learn_of_eq (h : files.target path = .ok place)
    (hother : files.place other = .ok place) :
    (files.learn place (.file text)).text? other = some text := by
  have hw := writable_of_target h
  refine text?_eq_some.2 ⟨place, hw.place_learn.2 hother, ?_⟩
  rw [hw.nodeAt_learn hw.reached.plain, if_pos rfl]

/-- A path that leads elsewhere has the text that it had. -/
theorem text?_learn_of_ne (h : files.target path = .ok place)
    (hother : files.place other ≠ .ok place) :
    (files.learn place (.file text)).text? other = files.text? other := by
  have hw := writable_of_target h
  refine Option.ext fun found => ?_
  rw [text?_eq_some, text?_eq_some]
  refine exists_congr fun found => ?_
  rw [hw.place_learn]
  refine and_congr_right fun hfound => ?_
  have hne : found ≠ place := fun heq => hother (heq ▸ hfound)
  rw [hw.nodeAt_learn (reached_of_place hfound).plain, if_neg hne]

end FileSystem

end CommonChangelog
