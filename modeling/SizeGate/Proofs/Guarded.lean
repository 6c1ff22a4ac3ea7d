import SizeGate.Run

/-!
Sessions that open only what they have seen to be a regular file.

`Guarded` follows a session through every answer it can get and keeps the paths that are known to
be regular files: a look that finds one adds it, and only such a path may be opened or read. It
speaks of no file system. Main statements: each opening among the steps of a guarded session stands
behind a look that found a regular file (`Guarded.opensBehindLook`), what opening anything else
would do has no say in it (`Guarded.play_congr`), and a run is guarded (`guarded_run`).
-/

namespace SizeGate

namespace Session

/-- What is known to be a regular file once there is an answer about a path. -/
def learn (known : Path → Prop) (path : Path) (answer : Except IoError FileStatus) : Path → Prop :=
  fun other => known other ∨ other = path ∧ FileSystem.isRegular answer = true

/-- Whatever the answers are, only what is known to be a regular file is opened, and the value at
the end and what is known by then are as `goal` says. -/
def Guarded {α : Type} (known : Path → Prop) (goal : α → (Path → Prop) → Prop) :
    Session α → Prop
  | .done value => goal value known
  | .status path next => ∀ answer, (next answer).Guarded (learn known path answer) goal
  | .opening path next => known path ∧ ∀ answer, (next answer).Guarded known goal
  | .contents path next => known path ∧ ∀ answer, (next answer).Guarded known goal
  | .say _ next => next.Guarded known goal
  | .write _ next => ∀ answer, (next answer).Guarded known goal

/-- Nothing is asked of the end of a session. -/
def anyhow {α : Type} (_ : α) (_ : Path → Prop) : Prop :=
  True

/-- The path that a step opens. -/
def Step.opens? : Step → Option Path
  | .opened path | .read path => some path
  | _ => none

/-- One of the steps is a look at the path that found a regular file. -/
def Vouches (steps : List Step) (path : Path) : Prop :=
  ∃ size, Step.looked path (.ok ⟨.regular, size⟩) ∈ steps

/-- Each step that opens a path stands behind a look that found a regular file there. The looks may
be among the steps `before`. -/
def OpensBehindLook (before steps : List Step) : Prop :=
  ∀ front step back path, steps = front ++ step :: back → step.opens? = some path →
    Vouches (before ++ front) path

section Rules

variable {α β : Type} {known : Path → Prop}

theorem guarded_bind_iff {goal : β → (Path → Prop) → Prop} (first : Session α)
    (next : α → Session β) :
    (first >>= next).Guarded known goal ↔
      first.Guarded known fun value learnt => (next value).Guarded learnt goal := by
  change (first.bind next).Guarded known goal ↔ _
  induction first generalizing known with
  | done value => rfl
  | status path k ih => simp only [bind, Guarded, ih]
  | opening path k ih => simp only [bind, Guarded, ih]
  | contents path k ih => simp only [bind, Guarded, ih]
  | say notice k ih => simp only [bind, Guarded, ih]
  | write text k ih => simp only [bind, Guarded, ih]

theorem Guarded.imp {goal weaker : α → (Path → Prop) → Prop} {session : Session α}
    (h : session.Guarded known goal)
    (himp : ∀ value learnt, goal value learnt → weaker value learnt) :
    session.Guarded known weaker := by
  induction session generalizing known with
  | done value => exact himp value known h
  | status path k ih => exact fun answer => ih answer (h answer)
  | opening path k ih => exact ⟨h.1, fun answer => ih answer (h.2 answer)⟩
  | contents path k ih => exact ⟨h.1, fun answer => ih answer (h.2 answer)⟩
  | say notice k ih => exact ih h
  | write text k ih => exact fun answer => ih answer (h answer)

/-- Of a session with another behind it, no more is known at the start of the second than what the
first leaves. -/
theorem Guarded.bind {middle : α → (Path → Prop) → Prop} {goal : β → (Path → Prop) → Prop}
    {first : Session α} {next : α → Session β} (h : first.Guarded known middle)
    (hnext : ∀ value learnt, middle value learnt → (next value).Guarded learnt goal) :
    (first >>= next).Guarded known goal :=
  (guarded_bind_iff first next).mpr (h.imp hnext)

theorem guarded_isFile_iff {goal : Bool → (Path → Prop) → Prop} (path : Path) :
    (isFile path).Guarded known goal ↔
      ∀ answer, goal (FileSystem.isRegular answer) (learn known path answer) :=
  Iff.rfl

theorem guarded_exists?_iff {goal : Bool → (Path → Prop) → Prop} (path : Path) :
    (exists? path).Guarded known goal ↔
      ∀ answer, goal (FileSystem.exists? answer) (learn known path answer) :=
  Iff.rfl

theorem guarded_notices (lines : List Notice) : (notices lines).Guarded known anyhow := by
  induction lines with
  | nil => trivial
  | cons first rest ih => exact ih

end Rules

section Plays

variable {α : Type} {known : Path → Prop} {goal : α → (Path → Prop) → Prop} {session : Session α}
  {before rest : List Step} {step : Step} (files : FileSystem) (refusal : Option IoError)

theorem opensBehindLook_nil (before : List Step) : OpensBehindLook before [] := by
  intro front step back path heq
  simp at heq

theorem opensBehindLook_cons (hstep : ∀ path, step.opens? = some path → Vouches before path)
    (hrest : OpensBehindLook (before ++ [step]) rest) : OpensBehindLook before (step :: rest) := by
  intro front other back path heq hopens
  rcases List.cons_eq_append_iff.mp heq with ⟨rfl, hback⟩ | ⟨front, rfl, hfront⟩
  · cases hback
    rw [List.append_nil]
    exact hstep path hopens
  · have hvouches := hrest front other back path hfront hopens
    rwa [List.append_assoc] at hvouches

theorem Vouches.mono {path : Path} (h : Vouches before path) (more : List Step) :
    Vouches (before ++ more) path := by
  obtain ⟨size, member⟩ := h
  exact ⟨size, List.mem_append_left more member⟩

/-- A look vouches for what it adds to what is known. -/
theorem vouches_of_learn {path other : Path} (hknown : ∀ path, known path → Vouches before path)
    (h : learn known path (files.status path) other) :
    Vouches (before ++ [.looked path (files.status path)]) other := by
  rcases h with h | ⟨rfl, hregular⟩
  · exact (hknown other h).mono _
  · cases hstatus : files.status other with
    | error reason =>
      rw [hstatus] at hregular
      cases hregular
    | ok found =>
      obtain ⟨kind, size⟩ := found
      rw [hstatus] at hregular
      cases of_decide_eq_true hregular
      exact ⟨size, by simp⟩

/-- The induction is on the session; what is known is vouched for by the steps done so far. -/
theorem Guarded.opensBehindLook (h : session.Guarded known goal)
    (hknown : ∀ path, known path → Vouches before path) :
    OpensBehindLook before (session.play files refusal).2 := by
  have hkept : ∀ {before : List Step} {known : Path → Prop},
      (∀ path, known path → Vouches before path) →
      ∀ more path, known path → Vouches (before ++ more) path :=
    fun hknown more path hpath => (hknown path hpath).mono more
  induction session generalizing known before with
  | done value => exact opensBehindLook_nil before
  | status path next ih =>
    refine opensBehindLook_cons (by simp [Step.opens?]) (ih _ (h _) ?_)
    exact fun other => vouches_of_learn files hknown
  | opening path next ih =>
    refine opensBehindLook_cons ?_ (ih _ (h.2 _) (hkept hknown _))
    rintro _ ⟨⟩
    exact hknown path h.1
  | contents path next ih =>
    refine opensBehindLook_cons ?_ (ih _ (h.2 _) (hkept hknown _))
    rintro _ ⟨⟩
    exact hknown path h.1
  | say notice next ih =>
    exact opensBehindLook_cons (by simp [Step.opens?]) (ih h (hkept hknown _))
  | write text next ih =>
    cases refusal with
    | none => exact opensBehindLook_cons (by simp [Step.opens?]) (ih _ (h _) (hkept hknown _))
    | some reason =>
      exact opensBehindLook_cons (by simp [Step.opens?]) (ih _ (h _) (hkept hknown _))

/-- What a look learns is what the file system answers. -/
theorem answer_of_looked_mem {path : Path} {answer : Except IoError FileStatus}
    (h : Step.looked path answer ∈ (session.play files refusal).2) :
    answer = files.status path := by
  induction session with
  | done value => cases h
  | status asked next ih =>
    rcases List.mem_cons.mp h with heq | hrest
    · cases heq
      rfl
    · exact ih _ hrest
  | opening asked next ih | contents asked next ih =>
    rcases List.mem_cons.mp h with heq | hrest
    · cases heq
    · exact ih _ hrest
  | say notice next ih =>
    rcases List.mem_cons.mp h with heq | hrest
    · cases heq
    · exact ih hrest
  | write text next ih =>
    cases refusal with
    | none | some reason =>
      rcases List.mem_cons.mp h with heq | hrest
      · cases heq
      · exact ih _ hrest

end Plays

end Session

namespace FileSystem

/-- The other file system differs at most in what comes of opening what is no regular file. -/
structure SameUntilOpened (files other : FileSystem) : Prop where
  status : ∀ path, other.status path = files.status path
  opening : ∀ path, isRegular (files.status path) = true →
    other.opening path = files.opening path
  contents : ∀ path, isRegular (files.status path) = true →
    other.contents path = files.contents path

end FileSystem

namespace Session

theorem Guarded.play_congr {α : Type} {known : Path → Prop} {goal : α → (Path → Prop) → Prop}
    {session : Session α} {files other : FileSystem} (refusal : Option IoError)
    (h : session.Guarded known goal) (hsame : files.SameUntilOpened other)
    (hknown : ∀ path, known path → FileSystem.isRegular (files.status path) = true) :
    session.play other refusal = session.play files refusal := by
  induction session generalizing known with
  | done value => rfl
  | status path next ih =>
    have hlearn : ∀ other, learn known path (files.status path) other →
        FileSystem.isRegular (files.status other) = true := by
      rintro other (hother | ⟨rfl, hregular⟩)
      · exact hknown other hother
      · exact hregular
    simp only [play, hsame.status, ih _ (h _) hlearn]
  | opening path next ih =>
    simp only [play, hsame.opening path (hknown path h.1), ih _ (h.2 _) hknown]
  | contents path next ih =>
    simp only [play, hsame.contents path (hknown path h.1), ih _ (h.2 _) hknown]
  | say notice next ih => simp only [play, ih h hknown]
  | write text next ih =>
    cases refusal with
    | none => simp only [play, ih _ (h _) hknown]
    | some reason => simp only [play, ih _ (h _) hknown]

end Session

open Session (Guarded anyhow learn)

variable {known : Path → Prop}

namespace Discovery

/-- A config that is found is known to be a regular file. -/
theorem guarded_search (directories : List Path) :
    (search directories).Guarded known fun found learnt =>
      ∀ path, found = some path → learnt path := by
  induction directories generalizing known with
  | nil =>
    intro path hfound
    cases hfound
  | cons directory above ih =>
    rw [search, Session.guarded_bind_iff, Session.guarded_isFile_iff]
    intro answer
    cases hfile : FileSystem.isRegular answer with
    | true =>
      rintro _ ⟨⟩
      exact .inr ⟨rfl, hfile⟩
    | false =>
      simp only [Bool.false_eq_true, if_false]
      rw [Session.guarded_bind_iff, Session.guarded_exists?_iff]
      intro mark
      cases FileSystem.exists? mark with
      | true =>
        rintro _ ⟨⟩
      | false => exact ih

theorem guarded_resolveConfig (named : Option Path) (cwd : Path) :
    (resolveConfig named cwd).Guarded known fun result learnt =>
      ∀ path, result = .ok (some path) → learnt path := by
  cases named with
  | none =>
    refine (guarded_search cwd.ancestors).bind fun found learnt hfound => ?_
    rintro path ⟨⟩
    exact hfound path rfl
  | some named =>
    rw [resolveConfig, Session.guarded_bind_iff, Session.guarded_isFile_iff]
    intro answer
    cases hfile : FileSystem.isRegular answer with
    | true =>
      rintro _ ⟨⟩
      exact .inr ⟨rfl, hfile⟩
    | false =>
      rintro _ ⟨⟩

end Discovery

theorem Config.guarded_load {path : Path} (h : known path) : (load path).Guarded known anyhow := by
  refine ⟨h, fun answer => ?_⟩
  cases answer with
  | error reason => trivial
  | ok bytes =>
    cases hdecode : Utf8.decode? bytes with
    | none =>
      simp only [hdecode]
      trivial
    | some text =>
      simp only [hdecode]
      refine (Session.guarded_notices _).bind fun _ learnt _ => ?_
      cases (parse text).result with
      | error problem => trivial
      | ok config => trivial

theorem Artifact.guarded_measure (path : Path) : (measure path).Guarded known anyhow := by
  intro answer
  cases answer with
  | error reason => trivial
  | ok found =>
    by_cases hkind : found.kind = .regular
    · simp only [hkind, if_true]
      refine ⟨.inr ⟨rfl, by simp [FileSystem.isRegular, hkind]⟩, fun opened => ?_⟩
      cases opened with
      | error reason => trivial
      | ok _ => trivial
    · simp only [hkind, if_false]
      trivial

namespace Run

theorem guarded_fail (failure : Failure) : (fail failure).Guarded known anyhow :=
  trivial

theorem guarded_conclude (text : String) (code : ExitCode) :
    (conclude text code).Guarded known anyhow := by
  intro answer
  cases answer with
  | error reason => trivial
  | ok _ => trivial

theorem guarded_settings {found : Option Path} (h : ∀ path, found = some path → known path) :
    (settings found).Guarded known anyhow := by
  cases found with
  | none => trivial
  | some path => exact Config.guarded_load (h path rfl)

theorem guarded_check (invocation : Invocation) (options : CommandLine.Options)
    (found : Option Path) (config : Config) :
    (check invocation options found config).Guarded known anyhow := by
  refine (Artifact.guarded_measure _).bind fun result learnt _ => ?_
  cases result with
  | error failure => exact guarded_fail failure
  | ok size =>
    let artifact := Artifact.resolve options.artifact (configured found config) invocation.cwd
    let verdict := Budget.ota.judge size
    exact guarded_conclude (report invocation options config artifact verdict) (codeOf verdict)

theorem guarded_perform (invocation : Invocation) (options : CommandLine.Options) :
    (perform invocation options).Guarded known anyhow := by
  refine (Discovery.guarded_resolveConfig _ _).bind fun result learnt hresult => ?_
  cases result with
  | error failure => exact guarded_fail failure
  | ok found =>
    have hfound : ∀ path, found = some path → learnt path := by
      rintro path rfl
      exact hresult path rfl
    refine (guarded_settings hfound).bind fun result learnt _ => ?_
    cases result with
    | error failure => exact guarded_fail failure
    | ok config => exact guarded_check invocation options found config

end Run

theorem guarded_run (invocation : Invocation) : (run invocation).Guarded known anyhow := by
  rw [run]
  split
  · exact Run.guarded_conclude _ _
  · exact Run.guarded_conclude _ _
  · trivial
  · exact Run.guarded_perform invocation _

end SizeGate
