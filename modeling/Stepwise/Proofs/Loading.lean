import Stepwise.Proofs.Audience

/-!
# Runs of what was loaded

Features are loaded before a run begins, all of them or none. There are several
things that may come in the way, and they lie in different layers: the pattern is
none, the search comes upon a folder that is closed, or one of the files cannot be
opened, is no text or describes no feature (`Feature.Obstacle`). Any of them keeps
everything from being loaded, wherever the file stands in the order of the paths and
however many were loaded before it.

What was loaded is then run as it is. If nothing was, there is no run: the world goes
to the reporters as it was found, but for the record of the failure, and all that
they are told is the result (`Runner.Aborted`). A reporter may cancel when it is told
that, as it may on any other notice (`cancelled_of_failed_load`), and this is the only
way in which anything can change.
-/

namespace Stepwise

variable {σ : Type}

open Files (PathPattern pathLe)

/-! ## What comes in the way of loading -/

/-- What keeps the features of a pattern from being loaded, and how it is told. -/
inductive Feature.Obstacle (t : FileTree) (pattern : String) : LoadError → Prop
  | badPattern {error} : PathPattern.ofText pattern = .error error →
      Obstacle t pattern (.badPattern error)
  | closedFolder {p closed} : PathPattern.ofText pattern = .ok p →
      .error closed ∈ t.search p → Obstacle t pattern (.closedFolder closed)
  | closedFile {p path} : PathPattern.ofText pattern = .ok p → .ok path ∈ t.search p →
      t.at? path = some .closedFile → Obstacle t pattern (.unreadable path)
  | noText {p path bytes} : PathPattern.ofText pattern = .ok p → .ok path ∈ t.search p →
      t.at? path = some (.file bytes) → String.fromUTF8? bytes = none →
      Obstacle t pattern (.unreadable path)
  | malformed {p path bytes text cause} : PathPattern.ofText pattern = .ok p →
      .ok path ∈ t.search p → t.at? path = some (.file bytes) →
      String.fromUTF8? bytes = some text →
      Feature.ofDocument (Yaml.Document.ofText text) = .error cause →
      Obstacle t pattern (.malformed path cause)

section Lists

variable {α β ε : Type} {f : α → Except ε β} {xs : List α}

/-- What fails first decides. -/
theorem mapM_eq_error_iff {e : ε} :
    xs.mapM f = .error e ↔
      ∃ before x after, xs = before ++ x :: after ∧
        (∀ y ∈ before, ∃ b, f y = .ok b) ∧ f x = .error e := by
  constructor
  case mp =>
    induction xs with
    | nil => intro h; cases h
    | cons x rest ih =>
        intro h
        rw [List.mapM_cons] at h
        cases hx : f x with
        | error e' =>
            rw [hx] at h
            cases h
            exact ⟨[], x, rest, rfl, List.forall_mem_nil _, hx⟩
        | ok b =>
            have hrest : rest.mapM f = .error e := by
              cases hrest : rest.mapM f with
              | error e' => simpa [hx, hrest, bind, Except.bind] using h
              | ok bs => simp [hx, hrest, bind, Except.bind, pure, Except.pure] at h
            obtain ⟨before, y, after, rfl, hbefore, hy⟩ := ih hrest
            exact ⟨x :: before, y, after, rfl, List.forall_mem_cons.mpr ⟨⟨b, hx⟩, hbefore⟩, hy⟩
  case mpr =>
    rintro ⟨before, x, after, rfl, hbefore, hx⟩
    induction before with
    | nil =>
        rw [List.nil_append, List.mapM_cons, hx]
        rfl
    | cons y before ih =>
        obtain ⟨⟨b, hy⟩, hrest⟩ := List.forall_mem_cons.mp hbefore
        rw [List.cons_append, List.mapM_cons, hy, ih hrest]
        rfl

theorem exists_of_mapM_error {e : ε} (h : xs.mapM f = .error e) :
    ∃ x ∈ xs, f x = .error e := by
  obtain ⟨before, x, after, rfl, -, hx⟩ := mapM_eq_error_iff.mp h
  exact ⟨x, List.mem_append_right before List.mem_cons_self, hx⟩

theorem mapM_eq_ok_iff {bs : List β} :
    xs.mapM f = .ok bs ↔ List.Forall₂ (fun x b => f x = .ok b) xs bs := by
  induction xs generalizing bs with
  | nil => cases bs <;> simp [pure, Except.pure]
  | cons x rest ih =>
      rw [List.mapM_cons]
      cases hx : f x with
      | error e => cases bs <;> simp [hx, bind, Except.bind]
      | ok b =>
          cases hrest : rest.mapM f with
          | error e => cases bs <;> simp [hx, hrest, ← ih, bind, Except.bind]
          | ok bs' =>
              cases bs <;> simp [hx, hrest, ← ih, bind, Except.bind, pure, Except.pure]

theorem forall_of_mapM_ok {bs : List β} (h : xs.mapM f = .ok bs) :
    ∀ x ∈ xs, ∃ b, f x = .ok b := by
  have hall := mapM_eq_ok_iff.mp h
  clear h
  induction hall with
  | nil => simp
  | cons hx _ ih => exact List.forall_mem_cons.mpr ⟨⟨_, hx⟩, ih⟩

/-- One failure is enough. -/
theorem exists_mapM_error {x : α} {e : ε} (hx : x ∈ xs) (he : f x = .error e) :
    ∃ e', xs.mapM f = .error e' := by
  cases h : xs.mapM f with
  | error e' => exact ⟨e', rfl⟩
  | ok bs =>
      obtain ⟨b, hb⟩ := forall_of_mapM_ok h x hx
      rw [he] at hb
      cases hb

end Lists

namespace Feature

variable {t : FileTree} {pattern path : String} {p : PathPattern} {e : LoadError}

theorem ofText_eq_error_iff {origin text : String} :
    ofText origin text = .error e ↔
      ∃ cause, ofDocument (Yaml.Document.ofText text) = .error cause ∧
        e = .malformed origin cause := by
  unfold ofText
  generalize ofDocument (Yaml.Document.ofText text) = document
  cases document with
  | ok feature => simp
  | error cause => simp [eq_comm]

/-- A file among those of a pattern that cannot be loaded is an obstacle. -/
theorem obstacle_of_loadFile (hp : PathPattern.ofText pattern = .ok p)
    (hpath : .ok path ∈ t.search p) (hfile : t.hasFile path = true)
    (h : loadFile t path = .error e) : Obstacle t pattern e := by
  unfold FileTree.hasFile at hfile
  unfold loadFile FileTree.read at h
  cases hat : t.at? path with
  | none => simp [hat] at hfile
  | some found =>
      rw [hat] at hfile h
      cases found with
      | folder entries => simp [FileTree.isFile] at hfile
      | closedFolder reason => simp [FileTree.isFile] at hfile
      | closedFile =>
          simp only at h
          cases h
          exact .closedFile hp hpath hat
      | file bytes =>
          cases hbytes : String.fromUTF8? bytes with
          | none =>
              simp only [hbytes] at h
              cases h
              exact .noText hp hpath hat hbytes
          | some text =>
              simp only [hbytes] at h
              obtain ⟨cause, hdocument, rfl⟩ := ofText_eq_error_iff.mp h
              exact .malformed hp hpath hat hbytes hdocument

/-- A search that comes upon no closed folder has found these paths. -/
theorem search_eq_map {paths : List String} (h : (t.search p).mapM id = .ok paths) :
    t.search p = paths.map .ok := by
  have hall := mapM_eq_ok_iff.mp h
  clear h
  generalize t.search p = finds at hall ⊢
  induction hall with
  | nil => rfl
  | cons hfind _ ih => exact List.cons_eq_cons.mpr ⟨hfind, ih⟩

/-- What is told when nothing could be loaded came in the way. -/
theorem obstacle_of_loadMatching (h : loadMatching t pattern = .error e) :
    Obstacle t pattern e := by
  unfold loadMatching at h
  split at h
  · next error hpattern =>
      cases h
      exact .badPattern hpattern
  · next p hp =>
      split at h
      · next closed hsearch =>
          cases h
          obtain ⟨find, hfind, rfl⟩ := exists_of_mapM_error hsearch
          exact .closedFolder hp hfind
      · next paths hsearch =>
          obtain ⟨path, hpath, hload⟩ := exists_of_mapM_error h
          rw [List.mem_filter, List.mem_mergeSort] at hpath
          obtain ⟨hmem, hfile⟩ := hpath
          have hfound : .ok path ∈ t.search p :=
            search_eq_map hsearch ▸ List.mem_map_of_mem hmem
          exact obstacle_of_loadFile hp hfound hfile hload

/-- A file that cannot be loaded keeps all of them from being loaded. -/
theorem exists_error_of_loadFile (hp : PathPattern.ofText pattern = .ok p)
    (hpath : .ok path ∈ t.search p) (hfile : t.hasFile path = true)
    (h : loadFile t path = .error e) : ∃ e', loadMatching t pattern = .error e' := by
  simp only [loadMatching, hp]
  cases hsearch : (t.search p).mapM id with
  | error closed => exact ⟨_, rfl⟩
  | ok paths =>
      have hmem : path ∈ paths := by
        rw [search_eq_map hsearch] at hpath
        simpa using hpath
      refine exists_mapM_error (List.mem_filter.mpr ⟨?_, hfile⟩) h
      exact List.mem_mergeSort.mpr hmem

/-- Nothing is loaded if anything comes in the way. -/
theorem exists_error_of_obstacle (h : Obstacle t pattern e) :
    ∃ e', loadMatching t pattern = .error e' := by
  cases h with
  | badPattern hpattern => exact ⟨_, by rw [loadMatching, hpattern]⟩
  | @closedFolder p closed hp hfind =>
      obtain ⟨closed', hsearch⟩ := exists_mapM_error hfind (f := id) rfl
      exact ⟨.closedFolder closed', by simp only [loadMatching, hp, hsearch]⟩
  | @closedFile p path hp hpath hat =>
      refine exists_error_of_loadFile hp hpath ?_ (e := .unreadable path) ?_
      · rw [FileTree.hasFile, hat]
        rfl
      · simp only [loadFile, FileTree.read, hat]
  | @noText p path bytes hp hpath hat hbytes =>
      refine exists_error_of_loadFile hp hpath ?_ (e := .unreadable path) ?_
      · rw [FileTree.hasFile, hat]
        rfl
      · simp only [loadFile, FileTree.read, hat, hbytes]
  | @malformed p path bytes text cause hp hpath hat hbytes hdocument =>
      refine exists_error_of_loadFile hp hpath ?_ (e := .malformed path cause) ?_
      · rw [FileTree.hasFile, hat]
        rfl
      · simp only [loadFile, FileTree.read, hat, hbytes]
        exact ofText_eq_error_iff.mpr ⟨cause, hdocument, rfl⟩

end Feature

/-! ## A run for which there is nothing -/

/-- The world in which no run was made, because nothing could be loaded, and what is
said of that. -/
structure Runner.Aborted (r : Runner σ) (cause : LoadError) (w : World σ)
    (x : RunResult × World σ) : Prop where
  features : x.1.features = []
  success : x.1.success = false
  time : x.1.time = none
  error : x.1.error = some (.load cause)
  context : x.2.context = w.context
  clock : x.2.clock = w.clock
  /-- The failure is recorded and the result is reported, and observers do the rest. -/
  added : ∃ ts, x.2.history = w.history ++ (.logged (.loadFailed cause) ::
    .reported x.1 :: ts) ∧ Tellings ts ∧ x.2.cancelled = tokenAfter w.cancelled ts
  quiet : ∃ es, x.2.history = w.history ++ es ∧ events es = [] ∧ calls es = []
  reported : ∀ i ∈ r.reporter.listeners, x.2.notices i = w.notices i ++ [.report x.1]
  /-- The token stays as it is, unless an observer cancels on being told the result. -/
  cancelled : x.2.cancelled =
    (w.cancelled || w.cancelsAmong (.report x.1) 0 r.reporter.observers)

namespace Runner

variable (r : Runner σ) (w : World σ)

open World

theorem runLoaded_aborted (error : LoadError) :
    r.Aborted error w (r.runLoaded (.error error) w) := by
  let result := RunResult.ofLoadError error
  let w₁ := (w.log (.loadFailed error)).record (.reported result)
  have hbegin : w.Leads [.logged (.loadFailed error), .reported result] false w₁ :=
    (w.leads_log _).andThen (leads_record _ rfl)
  obtain ⟨ts, hts, hleads, htold⟩ := leads_round w₁ r.reporter (.report result)
  have hadded : (r.runLoaded (.error error) w).2.history =
      w.history ++ (.logged (.loadFailed error) :: .reported result :: ts) :=
    (hbegin.andThen hleads).history
  constructor
  case features => rfl
  case success => rfl
  case time => rfl
  case error => rfl
  case context => exact (tellAll_keeps _ _ _ _).1
  case clock => exact (tellAll_keeps _ _ _ _).2
  case added => exact ⟨ts, hadded, hts, hleads.cancelled⟩
  case quiet => exact ⟨_, hadded, hts.events_eq, hts.handlings.callless.1⟩
  case reported =>
    intro i hi
    have hheard := filterMap_rounds (nodup_listenersFrom 0 r.reporter.observers) hi
      [.report result]
    rw [List.flatMap_singleton] at hheard
    rw [notices_eq_told, notices_eq_told, hadded, told_append, List.filterMap_append]
    exact congrArg _ ((congrArg _ htold).trans hheard)
  case cancelled =>
    have hknown : w₁.cancelsAmong (.report result) 0 r.reporter.observers =
        w.cancelsAmong (.report result) 0 r.reporter.observers :=
      cancelsAmong_congr fun o _ j _ => by
        rw [notices_record_of_untold _ rfl, log, notices_record_of_untold _ rfl]
    exact (cancelled_tellAll_eq _ _ w₁ 0).trans (congrArg (w.cancelled || ·) hknown)

/-- Loading is all or nothing for a run. What was loaded is run as it is. If nothing
was, no event is sent, no handler is called and the store and the session stay as they
are; the result says why and is reported once. The token stays as it is unless an
observer cancels on being told the result, and nothing else happens. Nothing is loaded
for a pattern if and only if anything comes in the way, and that is what is told. -/
theorem runMatching_all_or_nothing :
    (∀ features, r.runLoaded (.ok features) w = r.run features w) ∧
      (∀ error, r.Aborted error w (r.runLoaded (.error error) w)) ∧
      ∀ files pattern,
        (∀ features, Feature.loadMatching files pattern = .ok features →
          r.runMatching files pattern w = r.run features w) ∧
        (∀ error, Feature.loadMatching files pattern = .error error →
          Feature.Obstacle files pattern error ∧
            r.Aborted error w (r.runMatching files pattern w)) ∧
        ((∃ error, Feature.loadMatching files pattern = .error error) ↔
          ∃ error, Feature.Obstacle files pattern error) := by
  refine ⟨fun _ => rfl, r.runLoaded_aborted w, fun files pattern => ⟨?_, ?_, ?_, ?_⟩⟩
  · intro features h
    rw [runMatching, h]
    rfl
  · intro error h
    rw [runMatching, h]
    exact ⟨Feature.obstacle_of_loadMatching h, r.runLoaded_aborted w error⟩
  · rintro ⟨error, h⟩
    exact ⟨error, Feature.obstacle_of_loadMatching h⟩
  · rintro ⟨error, h⟩
    exact Feature.exists_error_of_obstacle h

/-- An observer that cancels the run on a report of no feature. -/
theorem cancelled_of_failed_load :
    let r := single (.recorder fun told => told.any (Notice.reports 0)) (.done none)
    let w : World Unit := World.ofContext ⟨Store.empty, ()⟩
    w.cancelled = false ∧
      (r.runLoaded (.error (.unreadable "f.yaml")) w).2.cancelled = true ∧
      (r.runMatching FileTree.empty "[" w).1.error.isSome = true ∧
      (r.runMatching FileTree.empty "[" w).2.cancelled = true := by
  decide +kernel

end Runner

end Stepwise
