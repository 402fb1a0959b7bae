import Introspect.Binding.Run
import Introspect.Proofs.Counters
import Introspect.Proofs.Files
import Introspect.Proofs.Numbers
import Introspect.Proofs.RoundTrip

/-!
# Chains of runs

Runs that share a file of counters hand out numbers one after the other. A run that succeeds leaves
its counters in the file as the last thing it does; one that fails leaves the file alone, since all
it may have written by then are its bindings and the directories for them. So the next run that goes
on from the file starts where the last successful one stopped, and no number is given out twice.
-/

namespace Introspect.Binding

open Storage (Disk FileError)
open Storage.Disk

/-! ## What a run works from -/

/-- The namespace and settings a run writes bindings from, and the counters it starts from. -/
structure Job where
  scope : Scope
  start : Progress
deriving Repr, DecidableEq

namespace Job

/-- The counters that a run starts from. -/
def counters (j : Job) : Counters := ⟨j.start.nextFunction, j.start.nextGetType⟩

/-- The items that a run writes, and the counters after them. -/
def walk (j : Job) : List Item × Counters :=
  itemsFrom (Env.of j.scope) 0 j.counters j.scope.space.infos

/-- What is left for the next run. -/
def left (j : Job) : Progress := ⟨j.scope.space.name, j.walk.2.function, j.walk.2.getType⟩

/-- The numbers that the invokers of a run are written with. -/
def invokerIds (j : Job) : List UInt32 := (emitted j.walk.1).map fun call => call.2.id

/-- The numbers that the runtime types of a run are written with. -/
def typeIds (j : Job) : List UInt32 := Binding.typeIds j.walk.1

/-- The counters do not wrap. -/
def Room (j : Job) : Prop :=
  j.start.nextFunction.toNat + (j.scope.space.infos.flatMap Info.functions).length < 2 ^ 32 ∧
    j.start.nextGetType.toNat + j.scope.space.infos.countP (takesType j.scope) < 2 ^ 32

theorem numbered_invokerIds {j : Job} (h : j.Room) :
    Numbered j.start.nextFunction j.left.nextFunction j.invokerIds :=
  (walked_itemsFrom (e := Env.of j.scope) 0 (n := j.counters) h.1).numbered

theorem numbered_typeIds {j : Job} (h : j.Room) :
    Numbered j.start.nextGetType j.left.nextGetType j.typeIds :=
  (typed_itemsFrom (e := Env.of j.scope) 0 (n := j.counters) h.2).numbered

end Job

/-- The settings of a run, as its options name them. -/
def settings (d : Disk) (o : Options) : Except RunError Config :=
  match o.config with
  | some path => loadConfig d path
  | none => .ok {}

/-- What a run works from, if it succeeds. -/
def job? (d : Disk) (o : Options) : Option Job :=
  match (run d o).1 with
  | .error _ => none
  | .ok _ => do
      let space ← (loadNamespace d o.input).toOption
      let config ← (settings d o).toOption
      let start ← (startingPoint d o).toOption
      return ⟨⟨space, config⟩, start⟩

/-- What a run that succeeds has done on its way: `made` is the disk with its bindings. -/
structure Job.Done (j : Job) (d made : Disk) (o : Options) (g : Generated) : Prop where
  document : loadNamespace d o.input = .ok j.scope.space
  settings : Binding.settings d o = .ok j.scope.config
  start : startingPoint d o = .ok j.start
  bindings : generate? j.scope j.counters = some g
  output : d.save o.output (bytesOf g.file.render) = (.ok (), made)

theorem prepare_eq (d : Disk) (o : Options) : prepare d o = (do
    let ns ← (loadNamespace d o.input).mapError .document
    let config ← settings d o
    let p ← startingPoint d o
    match generate? ⟨ns, config⟩ ⟨p.nextFunction, p.nextGetType⟩ with
    | some g => .ok (ns, g)
    | none => .error .misplacedUserData) := by
  unfold prepare settings
  cases o.config <;> rfl

/-- A run that gets to writing has its document, its settings, its counters and its bindings. -/
theorem exists_job_of_prepare {d : Disk} {o : Options} {ns : Namespace} {g : Generated}
    (h : prepare d o = .ok (ns, g)) : ∃ j : Job, j.scope.space = ns ∧
      loadNamespace d o.input = .ok ns ∧ settings d o = .ok j.scope.config ∧
        startingPoint d o = .ok j.start ∧ generate? j.scope j.counters = some g := by
  rw [prepare_eq, bind_eq_ok_iff] at h
  obtain ⟨space, hspace, h⟩ := h
  obtain ⟨config, hconfig, h⟩ := bind_eq_ok_iff.mp h
  obtain ⟨start, hstart, h⟩ := bind_eq_ok_iff.mp h
  split at h
  · next found hfound =>
      cases h
      exact ⟨⟨⟨ns, config⟩, start⟩, rfl, mapError_eq_ok_iff.mp hspace, hconfig, hstart, hfound⟩
  · cases h

theorem Job.Done.prepare_eq {d made : Disk} {o : Options} {j : Job} {g : Generated}
    (h : j.Done d made o g) : prepare d o = .ok (j.scope.space, g) := by
  rw [Binding.prepare_eq, h.document, h.settings, h.start]
  dsimp only [bind, Except.bind, Except.mapError]
  rw [show generate? ⟨j.scope.space, j.scope.config⟩ ⟨j.start.nextFunction, j.start.nextGetType⟩ =
    some g from h.bindings]

theorem job?_of_done {d made : Disk} {o : Options} {j : Job} {g : Generated} {stats : Source.Stats}
    (hdone : j.Done d made o g) (hrun : (run d o).1 = .ok stats) : job? d o = some j := by
  unfold job?
  rw [hrun]
  dsimp only
  rw [hdone.document, hdone.settings, hdone.start]
  rfl

theorem job?_of_error {d : Disk} {o : Options} {e : RunError} (hrun : (run d o).1 = .error e) :
    job? d o = none := by
  unfold job?
  rw [hrun]

section
variable {d made written : Disk} {o : Options} {path : String} {j : Job} {g : Generated}

/-- Once its bindings are saved a run only has its counters to leave. -/
theorem run_of_done (h : j.Done d made o g) : run d o = match o.state with
    | none => (.ok g.stats, made)
    | some path => match saveProgress made path j.left with
      | (.error e, d) => (.error e, d)
      | (.ok (), d) => (.ok g.stats, d) := by
  unfold run
  rw [h.prepare_eq]
  dsimp only
  rw [h.output, next_of_generate? h.bindings]
  rfl

/-- A run that fails has saved its bindings at most; one that succeeds has written its counters
after them. -/
theorem run_cases (hstate : o.state = some path) :
    (job? d o = none ∧
      ((run d o).2 = d ∨ ∃ bytes, (run d o).2 = (d.save o.output bytes).2)) ∨
    ∃ j g made, job? d o = some j ∧ j.Done d made o g ∧
      made.write path (bytesOf j.left.render) = .ok (run d o).2 := by
  cases hprepare : prepare d o with
  | error e =>
      -- Nothing has been written so far.
      have hrun : run d o = (.error e, d) := by
        unfold run
        rw [hprepare]
      rw [hrun]
      exact Or.inl ⟨job?_of_error (by rw [hrun]), Or.inl rfl⟩
  | ok prepared =>
      obtain ⟨ns, g⟩ := prepared
      obtain ⟨j, rfl, hdocument, hsettings, hstart, hg⟩ := exists_job_of_prepare hprepare
      cases hsave : d.save o.output (bytesOf g.file.render) with
      | mk result made =>
          have hmade : made = (d.save o.output (bytesOf g.file.render)).2 := by rw [hsave]
          cases result with
          | error e =>
              have hrun : run d o = (.error (.file e), made) := by
                unfold run
                rw [hprepare]
                dsimp only
                rw [hsave]
              rw [hrun]
              exact Or.inl ⟨job?_of_error (by rw [hrun]), Or.inr ⟨_, hmade⟩⟩
          | ok done =>
              have hdone : j.Done d made o g := ⟨hdocument, hsettings, hstart, hg, hsave⟩
              have hrun := run_of_done hdone
              rw [hstate] at hrun
              dsimp only [saveProgress] at hrun
              cases hwrite : made.write path (bytesOf j.left.render) with
              | error e =>
                  -- The bindings are there, and the counters are as they were.
                  rw [hwrite] at hrun
                  rw [hrun]
                  exact Or.inl ⟨job?_of_error (by rw [hrun]), Or.inr ⟨_, hmade⟩⟩
              | ok written =>
                  rw [hwrite] at hrun
                  rw [hrun]
                  exact Or.inr ⟨j, g, made, job?_of_done hdone (by rw [hrun]), hdone, hwrite⟩

theorem exists_done_of_job (hstate : o.state = some path) (h : job? d o = some j) :
    ∃ g made, j.Done d made o g ∧ made.write path (bytesOf j.left.render) = .ok (run d o).2 := by
  rcases run_cases hstate with ⟨hnone, -⟩ | ⟨k, g, made, hjob, hdone, hwrite⟩
  · rw [hnone] at h
    cases h
  · rw [hjob] at h
    cases h
    exact ⟨g, made, hdone, hwrite⟩

theorem job?_eq_some (hstate : o.state = some path) (hdone : j.Done d made o g)
    (hwrite : made.write path (bytesOf j.left.render) = .ok written) :
    job? d o = some j ∧ (run d o).2 = written := by
  have hrun := run_of_done hdone
  rw [hstate] at hrun
  dsimp only [saveProgress] at hrun
  rw [hwrite] at hrun
  exact ⟨job?_of_done hdone (by rw [hrun]), by rw [hrun]⟩

/-! ## The file of counters -/

theorem readText_run_of_job (hstate : o.state = some path) (h : job? d o = some j) :
    (run d o).2.readText path = .ok j.left.render := by
  obtain ⟨g, made, -, hwrite⟩ := exists_done_of_job hstate h
  exact readText_of_write hwrite

/-- A run that fails leaves the file alone. -/
theorem readText_run_of_none {text : String} (hstate : o.state = some path)
    (hout : target o.output ≠ target path) (h : job? d o = none)
    (hread : d.readText path = .ok text) : (run d o).2.readText path = .ok text := by
  rcases run_cases hstate with ⟨-, hdisk | ⟨bytes, hdisk⟩⟩ | ⟨k, g, made, hjob, -⟩
  · rwa [hdisk]
  · rw [hdisk]
    exact readText_of_spares spares_save (mt List.mem_singleton.mp hout.symm) hread
  · rw [hjob] at h
    cases h

theorem loadProgress_of_readText {p : Progress} (hread : d.readText path = .ok p.render) :
    loadProgress d path = .ok p := by
  unfold loadProgress loadOr
  rw [hread]
  dsimp only
  rw [Progress.ofText_render]
  rfl

/-- A run that follows another one starts from what is in the file. -/
theorem start_of_readText {p : Progress} (hstate : o.state = some path)
    (hafter : o.after.isSome) (hread : d.readText path = .ok p.render) (hjob : job? d o = some j) :
    j.start = p := by
  obtain ⟨-, -, ⟨-, -, h, -, -⟩, -⟩ := exists_done_of_job hstate hjob
  obtain ⟨after, hafter⟩ := Option.isSome_iff_exists.mp hafter
  unfold startingPoint at h
  rw [hstate, hafter] at h
  dsimp only at h
  rw [loadProgress_of_readText hread] at h
  change expectAfter path after p = .ok j.start at h
  unfold expectAfter at h
  split at h
  · cases h
    rfl
  · cases h

end

/-! ## Sequences of runs -/

/-- Runs one after the other, each with the disk it finds. They share the file at `path`, every run
but the first goes on from it, and no bindings are written to it. Between two runs a text in it is
left there, but anything else on the disk may change: also by other runs, when they fail without
writing the file. -/
structure Sequence (path : String) (runs : List (Disk × Options)) : Prop where
  shared : ∀ r ∈ runs, r.2.state = some path
  following : ∀ r ∈ runs.tail, r.2.after.isSome
  apart : ∀ r ∈ runs, target r.2.output ≠ target path
  undisturbed : runs.IsChain fun r r' => ∀ text,
    (run r.1 r.2).2.readText path = .ok text → r'.1.readText path = .ok text

/-- What some runs work from, leaving out those that fail. -/
def jobs (runs : List (Disk × Options)) : List Job := runs.filterMap fun r => job? r.1 r.2

theorem jobs_cons (r : Disk × Options) (rest : List (Disk × Options)) :
    jobs (r :: rest) = (job? r.1 r.2).toList ++ jobs rest := by
  rw [jobs, List.filterMap_cons]
  cases job? r.1 r.2 <;> rfl

theorem Sequence.tail {path : String} {r : Disk × Options} {rest : List (Disk × Options)}
    (h : Sequence path (r :: rest)) : Sequence path rest where
  shared := fun r' hr' => h.shared r' (List.mem_cons_of_mem _ hr')
  following := fun r' hr' => h.following r' (List.mem_of_mem_tail hr')
  apart := fun r' hr' => h.apart r' (List.mem_cons_of_mem _ hr')
  undisturbed := h.undisturbed.tail

/-- With the counters of `j` in the file every job starts from the counters left by the one
before. -/
theorem Sequence.isChain_cons_jobs {path : String} {runs : List (Disk × Options)} :
    ∀ {j : Job}, Sequence path runs → (∀ r ∈ runs, r.2.after.isSome) →
      (∀ r ∈ runs.head?, r.1.readText path = .ok j.left.render) →
        (j :: jobs runs).IsChain fun j k => k.start = j.left := by
  induction runs with
  | nil => intro j _ _ _; exact List.isChain_singleton j
  | cons r rest ih =>
      intro j h hafter hfile
      have hstate := h.shared r List.mem_cons_self
      have hread := hfile r rfl
      rw [List.forall_mem_cons] at hafter
      -- What the run leaves in the file is what the next one finds there.
      have hnext : ∀ text, (run r.1 r.2).2.readText path = .ok text →
          ∀ r' ∈ rest.head?, r'.1.readText path = .ok text := by
        intro text htext r' hr'
        obtain ⟨rest', rfl⟩ := List.head?_eq_some_iff.mp hr'
        exact (List.isChain_cons_cons.mp h.undisturbed).1 text htext
      cases hjob : job? r.1 r.2 with
      | none =>
          have hkept := readText_run_of_none hstate (h.apart r List.mem_cons_self) hjob hread
          rw [jobs_cons, hjob]
          exact ih h.tail hafter.2 (hnext _ hkept)
      | some k =>
          have hleft := readText_run_of_job hstate hjob
          rw [jobs_cons, hjob]
          have hstart := start_of_readText hstate hafter.1 hread hjob
          exact List.isChain_cons_cons.mpr ⟨hstart, ih h.tail hafter.2 (hnext _ hleft)⟩

/-- Every job starts from the counters left by the one before. -/
theorem Sequence.isChain_jobs {path : String} {runs : List (Disk × Options)}
    (h : Sequence path runs) : (jobs runs).IsChain fun j k => k.start = j.left := by
  induction runs with
  | nil => exact List.isChain_nil
  | cons r rest ih =>
      rw [jobs_cons]
      cases hjob : job? r.1 r.2 with
      | none => exact ih h.tail
      | some j =>
          have hleft := readText_run_of_job (h.shared r List.mem_cons_self) hjob
          refine h.tail.isChain_cons_jobs h.following fun r' hr' => ?_
          obtain ⟨rest', rfl⟩ := List.head?_eq_some_iff.mp hr'
          exact (List.isChain_cons_cons.mp h.undisturbed).1 _ hleft

/-- Along a sequence of runs no number of a call site is given out twice, nor is one of a runtime
type, and every run that succeeds starts from the counters the last one left. -/
theorem Sequence.nodup_ids {path : String} {runs : List (Disk × Options)} (h : Sequence path runs)
    (hroom : ∀ j ∈ jobs runs, j.Room) :
    ((jobs runs).flatMap Job.invokerIds).Nodup ∧ ((jobs runs).flatMap Job.typeIds).Nodup ∧
      (jobs runs).IsChain fun j k => k.start = j.left := by
  have hchain := h.isChain_jobs
  have hinvokers : ∀ j ∈ jobs runs,
      Numbered j.start.nextFunction j.left.nextFunction j.invokerIds := fun j hj =>
    Job.numbered_invokerIds (hroom j hj)
  have htypes : ∀ j ∈ jobs runs, Numbered j.start.nextGetType j.left.nextGetType j.typeIds :=
    fun j hj => Job.numbered_typeIds (hroom j hj)
  refine ⟨Numbered.nodup_flatMap ?_ hinvokers, Numbered.nodup_flatMap ?_ htypes, hchain⟩
  · exact hchain.imp fun _ _ => congrArg Progress.nextFunction
  · exact hchain.imp fun _ _ => congrArg Progress.nextGetType

/-- Runs with nothing happening between them. -/
def thread (d : Disk) : List Options → List (Disk × Options)
  | [] => []
  | o :: rest => (d, o) :: thread (run d o).2 rest

theorem map_snd_thread (os : List Options) : ∀ d, (thread d os).map Prod.snd = os := by
  induction os with
  | nil => exact fun _ => rfl
  | cons o rest ih => exact fun d => congrArg (o :: ·) (ih _)

theorem mem_of_mem_thread {d : Disk} {os : List Options} {r : Disk × Options}
    (h : r ∈ thread d os) : r.2 ∈ os := by
  rw [← map_snd_thread os d]
  exact List.mem_map_of_mem h

theorem sequence_thread {path : String} {os : List Options} (d : Disk)
    (hshared : ∀ o ∈ os, o.state = some path) (hfollowing : ∀ o ∈ os.tail, o.after.isSome)
    (hapart : ∀ o ∈ os, target o.output ≠ target path) : Sequence path (thread d os) where
  shared r hr := hshared r.2 (mem_of_mem_thread hr)
  following r hr := by
    have hmem : r.2 ∈ (thread d os).tail.map Prod.snd := List.mem_map_of_mem hr
    rw [List.map_tail, map_snd_thread] at hmem
    exact hfollowing r.2 hmem
  apart r hr := hapart r.2 (mem_of_mem_thread hr)
  undisturbed := by
    clear hshared hfollowing hapart
    induction os generalizing d with
    | nil => exact List.isChain_nil
    | cons o rest ih =>
        have hrest := ih (run d o).2
        cases rest with
        | nil => exact List.isChain_singleton _
        | cons o' rest => exact List.isChain_cons_cons.mpr ⟨fun _ h => h, hrest⟩

/-- A function and an enumeration. -/
def brief (name : String) : Namespace :=
  { name, version := "1",
    infos := [.function { name := "f", symbol := "f" },
    .enum { name := "E", typeInit := some "e" }] }

/-- A file system with two descriptors. -/
def briefs : Disk :=
  ⟨[(["A.json"], .file (bytesOf (brief "A").render)),
    (["B.json"], .file (bytesOf (brief "B").render))]⟩

/-- The options of a run that shares its counters with the others. -/
def relayed (name : String) (after : Option String) : Options :=
  { input := name ++ ".json", output := name ++ ".rs", state := some "s", after }

/-- Two runs, and one between them whose document is missing. -/
def relay : List Options := [relayed "A" none, relayed "C" (some "A"), relayed "B" (some "A")]

theorem sequence_relay : Sequence "s" (thread briefs relay) := by
  refine sequence_thread briefs ?_ ?_ ?_ <;> decide

theorem loadNamespace_brief {d : Disk} {path : String} {l : Storage.Location} (name : String)
    (hl : d.resolve path = .ok l) (hfile : d.at? l = some (.file (bytesOf (brief name).render))) :
    loadNamespace d path = .ok (brief name) := by
  have hfits : (brief name).Fits := by
    simp [brief, Namespace.Fits, Info.Fits, Function.Fits, NativeType.Fits, Shape.Fits,
      NativeType.void, NativeType.scalar]
  have hfloat : ∀ i ∈ (brief name).infos, i.FloatFree := by simp [brief, Info.FloatFree]
  have hdepth : (brief name).toJson.depth = 4 := rfl
  have hparse := Namespace.parse_render hfits hfloat (by rw [hdepth]; decide)
  unfold loadNamespace
  rw [readText_eq_ok hl hfile (Text.Utf8.decode?_encode _), String.ofList_toList]
  dsimp only
  rw [Namespace.ofText, hparse]
  rfl

theorem jobs_relay : jobs (thread briefs relay) =
    [⟨⟨brief "A", {}⟩, {}⟩, ⟨⟨brief "B", {}⟩, Job.left ⟨⟨brief "A", {}⟩, {}⟩⟩] := by
  obtain ⟨g, hg⟩ : ∃ g, generate? ⟨brief "A", {}⟩ {} = some g := Option.isSome_iff_exists.mp rfl
  generalize hj : (⟨⟨brief "A", {}⟩, {}⟩ : Job) = j
  obtain ⟨g', hg'⟩ : ∃ g, generate? ⟨brief "B", {}⟩ ⟨j.left.nextFunction, j.left.nextGetType⟩ =
    some g := Option.isSome_iff_exists.mp rfl
  let made := briefs.put ["A.rs"] (.file (bytesOf g.file.render))
  let d := made.put ["s"] (.file (bytesOf j.left.render))
  have hfirst : job? briefs (relayed "A" none) = some j ∧
    (run briefs (relayed "A" none)).2 = d := by
    subst hj
    have hdone : Job.Done ⟨⟨brief "A", {}⟩, {}⟩ briefs made (relayed "A" none) g :=
      ⟨loadNamespace_brief "A" rfl rfl, rfl, rfl, hg, rfl⟩
    exact job?_eq_some rfl hdone rfl
  have hmissing : run d (relayed "C" (some "A")) = (.error (.document (.file .notFound)), d) := rfl
  have hread : d.readText "s" = .ok j.left.render := by
    have hstate : (relayed "A" none).state = some "s" := rfl
    rw [← hfirst.2]
    exact readText_run_of_job hstate hfirst.1
  have hstart : startingPoint d (relayed "B" (some "A")) = .ok j.left := by
    show (loadProgress d "s").bind (expectAfter "s" "A") = .ok j.left
    rw [loadProgress_of_readText hread]
    subst hj
    rfl
  have hsecond : Job.Done ⟨⟨brief "B", {}⟩, j.left⟩ d
      (d.put ["B.rs"] (.file (bytesOf g'.file.render))) (relayed "B" (some "A")) g' :=
    ⟨loadNamespace_brief "B" rfl rfl, rfl, hstart, hg', rfl⟩
  have hjob := (job?_eq_some rfl hsecond rfl).1
  simp only [relay, thread, jobs_cons, hfirst, hmissing, job?_of_error (by rw [hmissing]), hjob]
  rfl

theorem nodup_ids_relay : ((jobs (thread briefs relay)).flatMap Job.invokerIds).Nodup ∧
    ((jobs (thread briefs relay)).flatMap Job.typeIds).Nodup ∧
      (jobs (thread briefs relay)).IsChain fun j k => k.start = j.left := by
  refine sequence_relay.nodup_ids ?_
  rw [jobs_relay, List.forall_mem_cons, List.forall_mem_singleton]
  exact ⟨⟨by decide, by decide⟩, by decide, by decide⟩

end Introspect.Binding
