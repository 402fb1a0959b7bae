import Introspect.Proofs.Chain

/-!
# What a run leaves on the disk

A run reads all it needs before it writes anything, and writes its counters only once its bindings
are written. So a run that misses something leaves the disk as it was, and one that cannot write its
bindings has made directories for them at most: every file, that of the counters too, is as it was.
A run that succeeds changes these two files only, as long as they are two: if it is told to leave
its counters where its bindings are, it writes them over the bindings.
-/

namespace Introspect.Binding

open Storage (Disk Location)
open Storage.Disk

/-- Where a run writes files. -/
def Options.written (o : Options) : List Location := target o.output :: (o.state.map target).toList

section
variable {d made : Disk} {o : Options} {j : Job} {g : Generated}

theorem run_of_error {e : RunError} (h : prepare d o = .error e) : run d o = (.error e, d) := by
  unfold run
  rw [h]

/-- A run that does not write its bindings makes directories at most. -/
theorem exists_run_of_not_done (h : ∀ (j : Job) made g, ¬ j.Done d made o g) :
    ∃ e made, run d o = (.error e, made) ∧ Spares [] d made := by
  cases hprepare : prepare d o with
  | error e => exact ⟨e, d, run_of_error hprepare, .refl [] d⟩
  | ok prepared =>
      obtain ⟨ns, g⟩ := prepared
      obtain ⟨j, rfl, hdocument, hsettings, hstart, hg⟩ := exists_job_of_prepare hprepare
      rcases save_cases d o.output (bytesOf g.file.render) with
        ⟨e, made, hsave, hmade⟩ | ⟨-, made, hsave, -, -⟩
      · refine ⟨.file e, made, ?_, hmade⟩
        unfold run
        rw [hprepare]
        dsimp only
        rw [hsave]
      · exact absurd ⟨hdocument, hsettings, hstart, hg, hsave⟩ (h j made g)

/-- A run that has written its bindings leaves its counters, or fails there. -/
theorem run_cases_of_done (h : j.Done d made o g) :
    (o.state = none ∧ run d o = (.ok g.stats, made)) ∨
    ∃ path, o.state = some path ∧ ((∃ e, run d o = (.error e, made)) ∨
      ∃ written, run d o = (.ok g.stats, written) ∧
        made.write path (bytesOf j.left.render) = .ok written) := by
  have hrun := run_of_done h
  cases hstate : o.state with
  | none =>
      rw [hstate] at hrun
      exact .inl ⟨rfl, hrun⟩
  | some path =>
      rw [hstate] at hrun
      dsimp only [saveProgress] at hrun
      refine .inr ⟨path, rfl, ?_⟩
      cases hwrite : made.write path (bytesOf j.left.render) with
      | error e =>
          rw [hwrite] at hrun
          exact .inl ⟨_, hrun⟩
      | ok written =>
          rw [hwrite] at hrun
          exact .inr ⟨written, hrun, rfl⟩

theorem spares_of_done (h : j.Done d made o g) : Spares o.written d made := by
  have hmade : made = (d.save o.output (bytesOf g.file.render)).2 := by rw [h.output]
  rw [hmade]
  exact spares_save.mono (List.cons_subset_cons _ (List.nil_subset _))

theorem spares_written {path : String} {bytes : Text.Utf8.Bytes} {written : Disk}
    (hstate : o.state = some path) (hwrite : made.write path bytes = .ok written) :
    Spares o.written made written := by
  refine (spares_write hwrite).mono ?_
  rw [Options.written, hstate]
  exact List.subset_cons_self _ _

/-- What it has written is there behind the run. -/
theorem readText_run_of_done (hapart : ∀ path, o.state = some path → target o.output ≠ target path)
    (h : j.Done d made o g) : (run d o).2.readText o.output = .ok g.file.render := by
  have hmade : made.readText o.output = .ok g.file.render := readText_of_save h.output
  rcases run_cases_of_done h with ⟨-, hrun⟩ | ⟨path, hstate, ⟨e, hrun⟩ | ⟨written, hrun, hwrite⟩⟩
  · rwa [hrun]
  · rwa [hrun]
  · rw [hrun]
    exact readText_of_spares (spares_write hwrite)
      (mt List.mem_singleton.mp (hapart path hstate)) hmade

theorem spares_run_of_done (h : j.Done d made o g) : Spares o.written d (run d o).2 := by
  have hmade := spares_of_done h
  rcases run_cases_of_done h with ⟨-, hrun⟩ | ⟨path, hstate, ⟨e, hrun⟩ | ⟨written, hrun, hwrite⟩⟩
  · rwa [hrun]
  · rwa [hrun]
  · rw [hrun]
    exact hmade.trans (spares_written hstate hwrite)

/-- A run that misses something it has to read has written nothing. -/
theorem run_of_missing (h : (∃ e, loadNamespace d o.input = .error e) ∨
    (∃ e, settings d o = .error e) ∨ ∃ e, startingPoint d o = .error e) :
    ∃ e, run d o = (.error e, d) := by
  cases hprepare : prepare d o with
  | error e => exact ⟨e, run_of_error hprepare⟩
  | ok prepared =>
      obtain ⟨j, -, hdocument, hsettings, hstart, -⟩ := exists_job_of_prepare hprepare
      rcases h with ⟨e, h⟩ | ⟨e, h⟩ | ⟨e, h⟩
      · rw [h] at hdocument
        cases hdocument
      · rw [h] at hsettings
        cases hsettings
      · rw [h] at hstart
        cases hstart

/-- A run that succeeds has written its bindings and left its counters. -/
theorem exists_done_of_ok {stats : Source.Stats} (h : (run d o).1 = .ok stats) :
    ∃ (j : Job) (made : Disk) (g : Generated), j.Done d made o g ∧ stats = g.stats ∧
      ∀ path, o.state = some path → loadProgress (run d o).2 path = .ok j.left := by
  by_cases hdone : ∃ (j : Job) (made : Disk) (g : Generated), j.Done d made o g
  · obtain ⟨j, made, g, hdone⟩ := hdone
    refine ⟨j, made, g, hdone, ?_⟩
    rcases run_cases_of_done hdone with
      ⟨hstate, hrun⟩ | ⟨path, hstate, ⟨e, hrun⟩ | ⟨written, hrun, hwrite⟩⟩
    · rw [hrun] at h
      cases h
      refine ⟨rfl, fun path hpath => ?_⟩
      rw [hstate] at hpath
      cases hpath
    · rw [hrun] at h
      cases h
    · rw [hrun] at h ⊢
      cases h
      refine ⟨rfl, fun path' hpath => ?_⟩
      rw [hstate] at hpath
      cases hpath
      exact loadProgress_of_readText (readText_of_write hwrite)
  · obtain ⟨e, made, hrun, -⟩ := exists_run_of_not_done fun j made g hj => hdone ⟨j, made, g, hj⟩
    rw [hrun] at h
    cases h

/-- A run that misses something it has to read changes nothing. One that does not write its bindings
changes no file. One that does leaves them as they were made from what it read, and changes no file
but that of its counters; and if it succeeds, the counters can be read from theirs. -/
theorem run_effects (hapart : ∀ path, o.state = some path → target o.output ≠ target path) :
    (((∃ e, loadNamespace d o.input = .error e) ∨ (∃ e, settings d o = .error e) ∨
        ∃ e, startingPoint d o = .error e) → ∃ e, run d o = (.error e, d)) ∧
    ((∀ (j : Job) made g, ¬ j.Done d made o g) →
      (∃ e, (run d o).1 = .error e) ∧ Spares [] d (run d o).2) ∧
    (∀ (j : Job) made g, j.Done d made o g →
      (run d o).2.readText o.output = .ok g.file.render ∧ Spares o.written d (run d o).2) ∧
    ∀ stats, (run d o).1 = .ok stats → ∃ (j : Job) (made : Disk) (g : Generated),
      j.Done d made o g ∧ stats = g.stats ∧ ∀ path, o.state = some path →
        loadProgress (run d o).2 path =
          .ok ⟨j.scope.space.name, g.next.function, g.next.getType⟩ := by
  refine ⟨run_of_missing, ?_, ?_, ?_⟩
  · intro h
    obtain ⟨e, made, hrun, hmade⟩ := exists_run_of_not_done h
    rw [hrun]
    exact ⟨⟨e, rfl⟩, hmade⟩
  · exact fun j made g h => ⟨readText_run_of_done hapart h, spares_run_of_done h⟩
  · intro stats hstats
    obtain ⟨j, made, g, h, hg, hleft⟩ := exists_done_of_ok hstats
    refine ⟨j, made, g, h, hg, fun path hstate => ?_⟩
    rw [hleft path hstate, next_of_generate? h.bindings]
    rfl

end

/-! ## A run on a small disk -/

/-- A run that leaves its counters at `state`. -/
def counted (state : String) : Options :=
  { input := "A.json", output := "A.rs", state := some state }

theorem save_briefs (bytes : Text.Utf8.Bytes) :
    briefs.save "A.rs" bytes = (.ok (), briefs.put ["A.rs"] (.file bytes)) := by
  rfl

theorem done_counted {g : Generated} (hg : generate? ⟨brief "A", {}⟩ {} = some g) (state : String) :
    Job.Done ⟨⟨brief "A", {}⟩, {}⟩ briefs (briefs.put ["A.rs"] (.file (bytesOf g.file.render)))
      (counted state) g where
  document := by
    have hresolve : briefs.resolve "A.json" = .ok ["A.json"] := rfl
    exact loadNamespace_brief "A" hresolve rfl
  settings := rfl
  start := rfl
  bindings := hg
  output := save_briefs _

/-- The counters go to a file of their own. -/
theorem run_effects_counted :
    (∀ path, (counted "s").state = some path → target (counted "s").output ≠ target path) ∧
    ∃ g, generate? ⟨brief "A", {}⟩ {} = some g ∧
      (run briefs (counted "s")).2.readText "A.rs" = .ok g.file.render := by
  have hapart : ∀ path, (counted "s").state = some path →
      target (counted "s").output ≠ target path := by
    rintro path ⟨⟩
    decide
  obtain ⟨g, hg⟩ : ∃ g, generate? ⟨brief "A", {}⟩ {} = some g := Option.isSome_iff_exists.mp rfl
  exact ⟨hapart, g, hg, ((run_effects hapart).2.2.1 _ _ _ (done_counted hg "s")).1⟩

theorem head?_render (f : Source.File) : f.render.toList.head? = some '/' := by
  rw [Source.File.render, Source.File.lines, List.append_assoc, List.cons_append, List.map_cons,
    String.join_cons, String.toList_append, String.toList_append]
  rfl

/-- A path that is spelled in another way does not lead to another file: here the counters are
written over the bindings. -/
theorem bindings_overwritten :
    (counted "./A.rs").state ≠ some (counted "./A.rs").output ∧
    ∃ (j : Job) (made : Disk) (g : Generated), j.Done briefs made (counted "./A.rs") g ∧
      (run briefs (counted "./A.rs")).1 = .ok g.stats ∧
      (run briefs (counted "./A.rs")).2.readText "A.rs" ≠ .ok g.file.render := by
  obtain ⟨g, hg⟩ : ∃ g, generate? ⟨brief "A", {}⟩ {} = some g := Option.isSome_iff_exists.mp rfl
  have hdone := done_counted hg "./A.rs"
  have hwrite : ∀ old bytes, (briefs.put ["A.rs"] (.file old)).write "./A.rs" bytes =
      .ok ((briefs.put ["A.rs"] (.file old)).put ["A.rs"] (.file bytes)) := fun _ _ => rfl
  have hread : ∀ (d : Disk) (text : String),
      (d.put ["A.rs"] (.file (bytesOf text))).readText "A.rs" = .ok text := by
    intro d text
    have hresolve : (d.put ["A.rs"] (.file (bytesOf text))).resolve "A.rs" = .ok ["A.rs"] := rfl
    have h := readText_eq_ok hresolve (at?_put_self (List.cons_ne_nil _ _))
      (Text.Utf8.decode?_encode text.toList)
    rwa [String.ofList_toList] at h
  have hrun := run_of_done hdone
  dsimp only [counted, saveProgress] at hrun
  rw [hwrite] at hrun
  dsimp only at hrun
  refine ⟨by decide, _, _, g, hdone, by rw [counted, hrun], ?_⟩
  rw [counted, hrun, hread]
  intro h
  have hhead := head?_render g.file
  rw [← Except.ok.inj h] at hhead
  exact absurd hhead (by decide +kernel)

end Introspect.Binding
